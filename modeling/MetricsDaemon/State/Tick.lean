import MetricsDaemon.State.Basic

/-!
# Ticks

A tick has three phases. The plan collects one job per variable and argument: those of
variables that run on every tick first, then those that some subscription is due for.
The jobs are evaluated while others may change the state. Applying the values records
them, queues the pushes that are warranted, and retires what has come to its end.
-/

namespace MetricsDaemon

/-- One call of a tick. -/
structure Job where
  variable_ : VariableId
  type : TypeTag
  arg : Option String
  callable : Callable

/-- The variable and the argument under which a job's sample is kept. -/
def Job.key (job : Job) : VariableId × String := (job.variable_, sampleKey job.arg)

/-- What a tick is going to do. -/
structure Plan where
  jobs : List Job
  /-- The subscriptions that each job serves, by the place of the job. -/
  targets : List (SubscriptionId × Nat)
  /-- Subscriptions whose variable is gone. -/
  orphans : List SubscriptionId

/-- Where the job of a variable and an argument stands. -/
def findJob (jobs : List Job) (key : VariableId × String) : Option Nat :=
  jobs.findIdx? fun job => decide (job.key = key)

/-- The numbers that a tick ends with. -/
structure Report where
  evaluated : Nat
  pushed : Nat
  removed : Nat
  unloaded : Nat
  deriving DecidableEq, Repr

/-- A line that was queued for a subscription. -/
structure Push where
  subscription : SubscriptionId
  connection : ConnectionId
  line : String
  deriving DecidableEq, Repr

/-- The end of every line on the wire. -/
def lineEnd : String := "\r\n"

/-- The line that carries a value to a subscription. -/
def pushLine (clientId : String) (type : TypeTag) (value : Value) : String :=
  clientId ++ ":" ++ Number.showNat type.bits ++ ":" ++ value.wire ++ lineEnd

namespace State

/-- Add the job of a variable and an argument, unless there is one or the variable cannot be
evaluated. -/
def addJob (progress : State × List Job) (pair : VariableId × Option String) :
    State × List Job :=
  let (state, jobs) := progress
  if (findJob jobs (pair.1, sampleKey pair.2)).isSome then progress
  else
    match state.directory.get? pair.1 with
    | none => progress
    | some variable_ =>
        match state.registry.get? variable_.module_ with
        | none => progress
        | some module_ =>
            match state.bindMethod module_.unit pair.1 with
            | (state, none) => (state, jobs)
            | (state, some callable) =>
                (state, jobs ++ [⟨pair.1, variable_.type, pair.2, callable⟩])

/-- The variable that a subscription is on, unless it is gone. -/
def variableOf (state : State) (subscription : Subscription) : Option Variable :=
  state.directory.get? subscription.interest.variable_

/-- The subscriptions whose variable is gone. -/
def orphans (state : State) : List SubscriptionId :=
  (state.subscriptions.toList.filter fun subscription =>
    (state.variableOf subscription).isNone).map Subscription.id

/-- The subscriptions on variables that can be evaluated. -/
def liveSubscriptions (state : State) : List Subscription :=
  state.subscriptions.toList.filter fun subscription =>
    (state.variableOf subscription).any fun variable_ => !variable_.isBroken

/-- Whether a subscription wants its variable evaluated. -/
def isWanting (state : State) (now : Nat) (subscription : Subscription) : Bool :=
  (state.variableOf subscription).any (fun variable_ =>
    variable_.isDue subscription.interest.arg now) || subscription.first || subscription.pending

/-- The variable and the argument of a subscription. -/
def pairOf (subscription : Subscription) : VariableId × Option String :=
  (subscription.interest.variable_, subscription.interest.arg)

/-- Plan a tick. Nothing but the bindings of variables changes. What a plan holds is known from its
lemmas, and looking into it takes long, so it stays closed. -/
@[irreducible]
def plan (state : State) (now : Nat) : State × Plan :=
  let cron := state.directory.cronIds.map fun id => (id, none)
  let (afterCron, cronJobs) := cron.foldl addJob (state, [])
  let live := afterCron.liveSubscriptions
  let wanted := (live.filter (afterCron.isWanting now)).map pairOf
  let (planned, jobs) := wanted.foldl addJob (afterCron, cronJobs)
  let targets := live.filterMap fun subscription =>
    (findJob jobs (subscription.interest.variable_, sampleKey subscription.interest.arg)).map
      fun slot => (subscription.id, slot)
  (planned, ⟨jobs, targets, afterCron.orphans⟩)

/-- Record the value of a job. The answer is whether its checksum changed. -/
def recordValue (state : State) (now : Nat) (job : Job) : Option Value → State × Bool
  | none => (state, false)
  | some value =>
      let marked := state.directory.recordSample job.variable_ job.arg now value.checksum
      (state.withDirectory marked.1, marked.2.getD false)

/-- Record the values of all jobs, and tell for each whether its checksum changed. -/
def recordAll (now : Nat) : State → List (Job × Option Value) → State × List Bool
  | state, [] => (state, [])
  | state, (job, value) :: rest =>
      let step := state.recordValue now job value
      let done := recordAll now step.1 rest
      (done.1, step.2 :: done.2)

/-- The outcome of a job, ready to be served. -/
structure Result where
  type : TypeTag
  value : Value
  changed : Bool

/-- The results of the jobs, by their places. -/
def results (jobs : List Job) (values : List (Option Value)) (changed : List Bool) :
    List (Option Result) :=
  (jobs.zip (values.zip changed)).map fun entry =>
    entry.2.1.map fun value => ⟨entry.1.type, value, entry.2.2⟩

/-- Note that a subscription was served. -/
def markServed (state : State) (id : SubscriptionId) (pending : Bool) : State :=
  { state with
    subscriptions := state.subscriptions.modify id fun subscription =>
      { subscription with first := false, pending := pending } }

/-- Note that a subscription is about to be removed. -/
def markPending (state : State) (id : SubscriptionId) : State :=
  { state with
    subscriptions := state.subscriptions.modify id fun subscription =>
      { subscription with pending := true } }

/-- Serve a subscription with a result: push if that is warranted. A push that does not go out
ends the subscription, and so does the first push of a one-shot. -/
def serveSubscription (state : State) (subscription : Subscription) (result : Result) :
    State × List Push :=
  if needsPush result.changed subscription.first subscription.pending then
    let line := pushLine subscription.interest.clientId result.type result.value
    match state.send subscription.interest.connection line with
    | (sent, true) =>
        (sent.markServed subscription.id (subscription.pending || subscription.interest.once),
          [⟨subscription.id, subscription.interest.connection, line⟩])
    | (unsent, false) => (unsent.markServed subscription.id true, [])
  else (state.markServed subscription.id subscription.pending, [])

/-- Serve one target of a plan, if its job has a result and it was not removed meanwhile. -/
def serveTarget (results : List (Option Result)) (progress : State × List Push)
    (target : SubscriptionId × Nat) : State × List Push :=
  match results[target.2]?, progress.1.subscriptions.get? target.1 with
  | some (some result), some subscription =>
      let served := progress.1.serveSubscription subscription result
      (served.1, progress.2 ++ served.2)
  | _, _ => progress

/-- Remove one of the subscriptions that are about to be removed; count it. -/
def retireOne (progress : State × Nat) (id : SubscriptionId) : State × Nat :=
  let removed := progress.1.unsubscribe id
  (removed.1, progress.2 + removed.2.toNat)

/-- What applying a plan leads to. -/
structure Applied where
  state : State
  report : Report
  /-- The lines that were queued, in order. -/
  pushes : List Push

/-- Apply the values of a plan's jobs. -/
def apply (state : State) (plan : Plan) (values : List (Option Value)) (now : Nat) : Applied :=
  let recorded := recordAll now state (plan.jobs.zip values)
  let served := plan.targets.foldl (serveTarget (results plan.jobs values recorded.2))
    (recorded.1, [])
  let marked := plan.orphans.foldl markPending served.1
  let retired := marked.subscriptions.leaving.foldl retireOne (marked, 0)
  let swept := retired.1.unloadIdle
  { state := swept.1
    report :=
      { evaluated := (plan.jobs.zip values).countP fun entry => entry.2.isSome
        pushed := served.2.length
        removed := retired.2
        unloaded := swept.2 }
    pushes := served.2 }

end State

end MetricsDaemon
