import MetricsDaemon.Proofs.Gathering
import MetricsDaemon.Proofs.Run

/-!
# A tick in flight never misdelivers

Between the plan of a tick and its application every table may change. The numbers that
the plan holds stay good all the same: none is given out twice, so what is still found
under a number is what was planned for. A line reaches the queue of the connection that
subscribed, with the value that this tick got from the subscriber's own variable.
-/

namespace MetricsDaemon

open State (Refuses Fate)
open Run (Tracks)

/-- Arguments under one key reach a callable alike. -/
theorem Callable.received_eq_of_sampleKey_eq (callable : Callable) {first second : Option String}
    (hkey : sampleKey first = sampleKey second) :
    callable.received first = callable.received second := by
  have hnone (arg : Option String) : callable.received arg =
      callable.received (some (sampleKey arg)) := by
    cases arg with
    | none => exact (received_empty callable).symm
    | some text => rfl
  rw [hnone first, hnone second, hkey]

namespace Completion

variable {forced : Bool} {completion : Completion} {id : SubscriptionId} {slot : Nat}
  {subscription : Subscription}

/-- The jobs of the tick with their values. -/
def entries (completion : Completion) : Valued :=
  completion.flight.plan.jobs.zip completion.flight.values

/-- The value that the tick got for a variable and an argument. -/
def answer (completion : Completion) (key : VariableId × String) : Option Value :=
  completion.entries.valueOf key

/-- The state after the values were recorded. -/
def recorded (completion : Completion) : State :=
  completion.met.recorded completion.flight.plan completion.flight.values completion.moment

/-- The state after the subscriptions were served. -/
def served (completion : Completion) : State :=
  (completion.met.served completion.flight.plan completion.flight.values completion.moment).1

/-- The results of the jobs, by their places. -/
def results (completion : Completion) : List (Option State.Result) :=
  State.results completion.flight.plan.jobs completion.flight.values
    (State.recordAll completion.moment completion.met completion.entries).2

/-- Whether the plan had the subscription. -/
def saw (completion : Completion) (id : SubscriptionId) : Bool :=
  (completion.flight.before.subscriptions.get? id).isSome

/-- The result that a job has once its value is there. -/
def resultOf (completion : Completion) (job : Job) (value : Value) : State.Result :=
  ⟨job.type, value, completion.met.notices job (some value)⟩

/-- The state after the subscriptions were served is what serving the targets makes of the recorded
one. -/
theorem served_eq : completion.served =
    (State.serveAll completion.results completion.flight.plan.targets completion.recorded).1 := rfl

/-- The lines of a tick are those that serving its targets queues. -/
theorem pushes_eq : completion.applied.pushes =
    (State.serveAll completion.results completion.flight.plan.targets completion.recorded).2 :=
  State.pushes_apply ..

/-- The books are right after the values were recorded. -/
theorem booked_recorded (hmet : completion.met.Sound forced) :
    Booked completion.recorded.registry completion.recorded.subscriptions :=
  State.booked_recorded hmet.booked

/-- Recording the values leaves the subscriptions alone. -/
theorem subscriptions_recorded : completion.recorded.subscriptions = completion.met.subscriptions :=
  State.subscriptions_recorded

/-- No two jobs of a tick share a key. -/
theorem distinct_jobs (hbefore : completion.flight.before.Sound forced) :
    (completion.flight.plan.jobs.map Job.key).Nodup :=
  (State.collects_plan hbefore.booked.modules.directory).distinct

/-- Planning a tick leaves the subscriptions alone. -/
theorem subscriptions_planned (hbefore : completion.flight.before.Sound forced) :
    completion.flight.planned.subscriptions = completion.flight.before.subscriptions :=
  (State.binds_plan hbefore.booked.modules.directory).subscriptions

/-- A subscription that the plan had and that is still there is the same. -/
theorem get?_before_of_saw (htracks : Tracks forced completion.flight completion.met)
    (hsaw : completion.saw id) (hget : completion.met.subscriptions.get? id = some subscription) :
    completion.flight.before.subscriptions.get? id = some subscription := by
  obtain ⟨found, hfound⟩ := Option.isSome_iff_exists.mp hsaw
  have hplanned := subscriptions_planned htracks.before
  have hle : id.number ≤ completion.flight.planned.subscriptions.lastId := by
    rw [hplanned]
    exact htracks.before.booked.table.le_lastId hfound
  have hkept := htracks.keeps.subscriptions.kept hget hle
  rwa [hplanned] at hkept

/-- A live subscription of the plan is served with the value of its variable and its argument. -/
theorem fate_of_saw (hmet : completion.met.Sound forced)
    (htracks : Tracks forced completion.flight completion.met) (hsaw : completion.saw id)
    (hget : completion.met.subscriptions.get? id = some subscription)
    (hslot : findJob completion.flight.plan.jobs subscription.interest.key = some slot) :
    ∃ job after, completion.flight.plan.jobs[slot]? = some job ∧
      job.key = subscription.interest.key ∧
      completion.served.subscriptions.get? id = some after ∧
      Fate completion.served subscription
        ((completion.answer subscription.interest.key).map (completion.resultOf job)) after
        (pushesFor completion.applied.pushes id) := by
  have hbefore := get?_before_of_saw htracks hsaw hget
  have hdirectory := htracks.before.booked.modules.directory
  have htable := htracks.before.booked.table
  obtain ⟨job, hjob, hkey⟩ := job_of_findJob hslot
  have htarget : (id, slot) ∈ completion.flight.plan.targets :=
    (State.mem_targets_iff htable).mpr ⟨subscription, hbefore, hslot⟩
  have hfound : completion.recorded.subscriptions.get? id = some subscription := by
    rw [subscriptions_recorded, hget]
  have hnodup : (completion.flight.plan.targets.map Prod.fst).Nodup :=
    State.nodup_targets htable
  obtain ⟨after, hafter, hfate⟩ :=
    State.fate_serveAll completion.results (booked_recorded hmet) hnodup htarget hfound
  have hresult : (completion.results[slot]?).join =
      (completion.answer job.key).map (completion.resultOf job) :=
    State.result_of_slot (distinct_jobs htracks.before) hjob
  rw [hresult, hkey, ← served_eq, ← pushes_eq] at hfate
  exact ⟨job, after, hjob, hkey, hafter, hfate⟩

/-- A subscription that the plan did not have, or had no job for, is left alone. -/
theorem served_of_not_saw (hmet : completion.met.Sound forced)
    (htracks : Tracks forced completion.flight completion.met)
    (hget : completion.met.subscriptions.get? id = some subscription)
    (hnot : completion.saw id →
      findJob completion.flight.plan.jobs subscription.interest.key = none) :
    completion.served.subscriptions.get? id = some subscription ∧
      pushesFor completion.applied.pushes id = [] := by
  have hdirectory := htracks.before.booked.modules.directory
  have htable := htracks.before.booked.table
  have hnotTarget : id ∉ completion.flight.plan.targets.map Prod.fst := by
    intro hmem
    obtain ⟨⟨other, slot⟩, htarget, rfl⟩ := List.mem_map.mp hmem
    obtain ⟨found, hfound, hslot⟩ := (State.mem_targets_iff htable).mp htarget
    have hjobs : (completion.flight.before.plan completion.flight.moment).2.jobs =
        completion.flight.plan.jobs := rfl
    have hsaw : completion.saw other := Option.isSome_iff_exists.mpr ⟨found, hfound⟩
    have hsame := get?_before_of_saw htracks hsaw hget
    rw [hfound] at hsame
    cases hsame
    rw [hjobs, hnot hsaw] at hslot
    cases hslot
  obtain ⟨hsame, hpushes⟩ :=
    State.serveAll_of_not_mem completion.results (booked_recorded hmet) hnotTarget
  rw [← served_eq, subscriptions_recorded, hget] at hsame
  rw [← pushes_eq] at hpushes
  exact ⟨hsame, hpushes⟩

/-- A live subscription is served with what the tick got for it, unless the plan did not have it or
had no job for it. -/
theorem served_cases (hmet : completion.met.Sound forced)
    (htracks : Tracks forced completion.flight completion.met)
    (hget : completion.met.subscriptions.get? id = some subscription) :
    ((completion.saw id →
        findJob completion.flight.plan.jobs subscription.interest.key = none) ∧
      completion.served.subscriptions.get? id = some subscription ∧
      pushesFor completion.applied.pushes id = []) ∨
    ∃ (slot : Nat) (job : Job) (after : Subscription), completion.saw id ∧
      completion.flight.plan.jobs[slot]? = some job ∧ job.key = subscription.interest.key ∧
      completion.served.subscriptions.get? id = some after ∧
      Fate completion.served subscription
        ((completion.answer subscription.interest.key).map (completion.resultOf job)) after
        (pushesFor completion.applied.pushes id) := by
  by_cases hnot : completion.saw id →
      findJob completion.flight.plan.jobs subscription.interest.key = none
  · exact .inl ⟨hnot, served_of_not_saw hmet htracks hget hnot⟩
  · obtain ⟨hsaw, hfound⟩ := Classical.not_imp.mp hnot
    obtain ⟨slot, hslot⟩ := Option.ne_none_iff_exists'.mp hfound
    obtain ⟨job, after, hfate⟩ := fate_of_saw hmet htracks hsaw hget hslot
    exact .inr ⟨slot, job, after, hsaw, hfate⟩

/-- A subscription that was removed meanwhile gets nothing. -/
theorem pushesFor_of_gone (hmet : completion.met.Sound forced)
    (hgone : completion.met.subscriptions.get? id = none) :
    pushesFor completion.applied.pushes id = [] := by
  rw [pushes_eq]
  refine State.serveAll_of_gone (booked_recorded hmet) ?_
  rw [subscriptions_recorded, hgone]

/-- A value that the tick got for a job came from a call for that job. -/
theorem call_of_answer {job : Job} {value : Value} (hfaithful : completion.flight.Faithful)
    (hdistinct : (completion.flight.plan.jobs.map Job.key).Nodup)
    (hjob : completion.flight.plan.jobs[slot]? = some job)
    (hanswer : completion.answer job.key = some value) :
    ∃ call ∈ completion.flight.calls, call.callable = job.callable ∧ call.arg = job.arg ∧
      call.value = some value := by
  rw [answer, entries, Valued.valueOf_zip _ hdistinct hjob, Flight.values, List.getElem?_map]
    at hanswer
  cases hcall : completion.flight.calls[slot]? with
  | none =>
    rw [hcall] at hanswer
    cases hanswer
  | some call =>
    rw [hcall] at hanswer
    obtain ⟨found, hfound, hcallable, harg⟩ := hfaithful slot call hcall
    rw [hjob] at hfound
    cases hfound
    exact ⟨call, List.mem_of_getElem? hcall, hcallable, harg, hanswer⟩

/-- A value for a subscription came from the callable of its own variable, which got an argument as
good as the subscription's own. -/
theorem source_of_answer {job : Job} {value : Value}
    (htracks : Tracks forced completion.flight completion.met)
    (hjob : completion.flight.plan.jobs[slot]? = some job)
    (hkey : job.key = subscription.interest.key)
    (hanswer : completion.answer subscription.interest.key = some value) :
    ∃ variable_ call,
      completion.flight.planned.directory.get? subscription.interest.variable_ = some variable_ ∧
      variable_.type = job.type ∧ call ∈ completion.flight.calls ∧
      variable_.binding = .ready call.callable ∧
      call.callable.received call.arg = call.callable.received subscription.interest.arg ∧
      call.value = some value := by
  have hjobVariable : job.variable_ = subscription.interest.variable_ := congrArg Prod.fst hkey
  have hjobArg : sampleKey job.arg = sampleKey subscription.interest.arg := congrArg Prod.snd hkey
  obtain ⟨variable_, hvariable, hbinding, htype⟩ :=
    (State.collects_plan htracks.before.booked.modules.directory).ready job
      (List.mem_of_getElem? hjob)
  rw [← hkey] at hanswer
  obtain ⟨call, hcall, hcallable, harg, hvalue⟩ :=
    call_of_answer htracks.faithful (distinct_jobs htracks.before) hjob hanswer
  rw [hjobVariable] at hvariable
  refine ⟨variable_, call, hvariable, htype, hcall, ?_, ?_, hvalue⟩
  · rw [hcallable, hbinding]
  · rw [harg]
    exact call.callable.received_eq_of_sampleKey_eq hjobArg

/-- A subscription that outlives the flight has the queue that it had. -/
theorem outbox_of_saw (htracks : Tracks forced completion.flight completion.met)
    (hbefore : completion.flight.before.subscriptions.get? id = some subscription)
    (hget : completion.met.subscriptions.get? id = some subscription) :
    (completion.met.connections.get? subscription.interest.connection).map Connection.outbox =
      (completion.flight.before.connections.get? subscription.interest.connection).map
        Connection.outbox := by
  have hplanned : completion.flight.before.Binds completion.flight.planned :=
    State.binds_plan htracks.before.booked.modules.directory
  have hle : id.number ≤ completion.flight.planned.subscriptions.lastId := by
    rw [hplanned.subscriptions]
    exact htracks.before.booked.table.le_lastId hbefore
  have hroute := htracks.keeps.outboxes hget hle
  rwa [hplanned.connections] at hroute

/-- The line went where it belongs. The subscription lived when the tick was planned and lives when
it is applied, on one and the same queue; its own variable was bound to the callable that was called
in this tick, with an argument that reaches the callable as the subscription's own does; and the
line carries the answer under the client's name and the variable's type. -/
def Delivers (completion : Completion) (push : Push) : Prop :=
  ∃ subscription variable_ call value,
    completion.flight.before.subscriptions.get? push.subscription = some subscription ∧
    completion.met.subscriptions.get? push.subscription = some subscription ∧
    push.connection = subscription.interest.connection ∧
    (completion.met.connections.get? push.connection).map Connection.outbox =
      (completion.flight.before.connections.get? push.connection).map Connection.outbox ∧
    completion.flight.planned.directory.get? subscription.interest.variable_ = some variable_ ∧
    call ∈ completion.flight.calls ∧ variable_.binding = .ready call.callable ∧
    call.callable.received call.arg = call.callable.received subscription.interest.arg ∧
    call.value = some value ∧
    push.line = pushLine subscription.interest.clientId variable_.type value

/-- Every line of a tick went where it belongs. -/
theorem delivers_of_mem {push : Push} (hmet : completion.met.Sound forced)
    (htracks : Tracks forced completion.flight completion.met)
    (hpush : push ∈ completion.applied.pushes) : completion.Delivers push := by
  have hmem : push ∈ pushesFor completion.applied.pushes push.subscription :=
    List.mem_filter.mpr ⟨hpush, by simp⟩
  rcases hget : completion.met.subscriptions.get? push.subscription with _ | subscription
  · rw [pushesFor_of_gone hmet hget] at hmem
    cases hmem
  · rcases served_cases hmet htracks hget with
      ⟨_, _, hnone⟩ | ⟨slot, job, after, hsaw, hjob, hkey, _, hfate⟩
    · rw [hnone] at hmem
      cases hmem
    · have hbefore := get?_before_of_saw htracks hsaw hget
      generalize hanswer : completion.answer subscription.interest.key = answer at hfate
      generalize pushesFor completion.applied.pushes push.subscription = pushes at hmem hfate
      generalize hresult : answer.map (completion.resultOf job) = result at hfate
      cases hfate with
      | unserved | quiet | refused => cases hmem
      | queued hneeds =>
        obtain ⟨value, rfl, rfl⟩ := Option.map_eq_some_iff.mp hresult
        rw [List.mem_singleton] at hmem
        obtain ⟨variable_, call, hvariable, htype, hcall, hbinding, hreceived, hvalue⟩ :=
          source_of_answer htracks hjob hkey hanswer
        have hroute := outbox_of_saw htracks hbefore hget
        refine ⟨subscription, variable_, call, value, hbefore, hget, ?_, ?_, hvariable, hcall,
          hbinding, hreceived, hvalue, ?_⟩
        · rw [hmem]
        · rw [hmem]
          exact hroute
        · rw [hmem, htype]
          rfl

/-- A line is for a subscription that the tick met, and goes to the connection of that one. -/
theorem owned_pushes {push : Push} (hmet : completion.met.Sound forced)
    (htracks : Tracks forced completion.flight completion.met)
    (hpush : push ∈ completion.applied.pushes) : ∃ subscription,
      completion.met.subscriptions.get? push.subscription = some subscription ∧
        push.connection = subscription.interest.connection := by
  obtain ⟨subscription, _, _, _, _, hget, hconnection, _⟩ := delivers_of_mem hmet htracks hpush
  exact ⟨subscription, hget, hconnection⟩

/-- Nothing is queued for a connection that takes no lines when the tick is applied. -/
theorem connection_ne_of_refuses {push : Push} {connection : ConnectionId}
    (hmet : completion.met.Sound forced) (hrefuses : completion.met.Refuses connection)
    (hpush : push ∈ completion.applied.pushes) : push.connection ≠ connection := by
  have hrecorded : completion.recorded.Refuses connection := by
    rw [State.refuses_iff] at hrefuses ⊢
    intro entry outbox hentry houtbox
    refine hrefuses entry outbox ?_ ?_
    · rwa [recorded, State.connections_recorded] at hentry
    · rwa [recorded, State.outboxes_recorded] at houtbox
  rw [pushes_eq] at hpush
  exact State.connection_ne_serveAll (booked_recorded hmet) hrecorded push hpush

/-- The queues get the lines of the pushes, each the lines of its own connection, and nothing
else. -/
theorem outboxes_applied (hmet : completion.met.Sound forced) (id : OutboxId) :
    completion.applied.state.outboxes.get? id =
      (completion.met.outboxes.get? id).map fun outbox =>
        outbox.append (linesFor completion.met.connections completion.applied.pushes id) := by
  have hserves := State.serves_served completion.flight.plan completion.flight.values
    completion.moment hmet.booked
  have hroutes : completion.served.Routes completion.applied.state := State.routes_apply
  have hlines := hserves.outboxes id
  rw [State.outboxes_recorded, State.connections_recorded] at hlines
  rw [hroutes.outboxes]
  exact hlines

/-- The lines of a tick are in the queues. Every line is for a subscription that the tick met, on
the connection of that one, whose queue took lines; and every queue got the lines that are for its
connection, in their order, at its end and nothing else. -/
structure Enqueues (completion : Completion) : Prop where
  routed : ∀ push ∈ completion.applied.pushes, ∃ subscription entry outbox,
    completion.met.subscriptions.get? push.subscription = some subscription ∧
    push.connection = subscription.interest.connection ∧
    completion.met.connections.get? push.connection = some entry ∧
    completion.met.outboxes.get? entry.outbox = some outbox ∧ outbox.accepts = true
  queues : ∀ id, completion.applied.state.outboxes.get? id =
    (completion.met.outboxes.get? id).map fun outbox =>
      outbox.append (linesFor completion.met.connections completion.applied.pushes id)

/-- Whatever became of the tables while a tick was in flight, its lines are in the queues. -/
theorem enqueues_of_sound (hmet : completion.met.Sound forced)
    (htracks : Tracks forced completion.flight completion.met) : completion.Enqueues where
  routed push hpush := by
    obtain ⟨subscription, hget, hconnection⟩ := owned_pushes hmet htracks hpush
    have htakes : ¬completion.met.Refuses push.connection := fun hrefuses =>
      connection_ne_of_refuses hmet hrefuses hpush rfl
    rw [State.refuses_iff] at htakes
    push Not at htakes
    obtain ⟨entry, outbox, hentry, houtbox, haccepts⟩ := htakes
    exact ⟨subscription, entry, outbox, hget, hconnection, hentry, houtbox,
      Bool.eq_true_of_not_eq_false haccepts⟩
  queues := outboxes_applied hmet

end Completion

/-- In every run the lines of every tick are in the queues. -/
theorem Run.Reachable.enqueues {forced : Bool} {run : Run} {completion : Completion}
    (hreach : Reachable forced run) (hmem : completion ∈ run.history) : completion.Enqueues := by
  obtain ⟨hmet, htracks, _⟩ := hreach.sound.history hmem
  exact Completion.enqueues_of_sound hmet htracks

/-- Whatever happens between the plan of a tick and its application, every line that is queued goes
where it belongs, and the queues get these lines and no others. What was subscribed after the plan
or left since gets nothing. Modules may even be unloaded under their subscribers. -/
theorem Run.Reachable.pushes_reach_subscriber {run : Run} {completion : Completion}
    (hreach : Reachable true run) (hmem : completion ∈ run.history) :
    (∀ push ∈ completion.applied.pushes, completion.Delivers push) ∧
    (∀ id, completion.flight.before.subscriptions.get? id = none ∨
        completion.met.subscriptions.get? id = none →
      pushesFor completion.applied.pushes id = []) ∧
    (∀ id, completion.applied.state.outboxes.get? id =
      (completion.met.outboxes.get? id).map fun outbox =>
        outbox.append (linesFor completion.met.connections completion.applied.pushes id)) := by
  obtain ⟨hmet, htracks, _⟩ := hreach.sound.history hmem
  refine ⟨fun push hpush => Completion.delivers_of_mem hmet htracks hpush, ?_,
    fun id => Completion.outboxes_applied hmet id⟩
  intro id hgone
  rw [pushesFor, List.filter_eq_nil_iff]
  intro push hpush heq
  obtain ⟨_, _, _, _, hbefore, hafter, _⟩ := Completion.delivers_of_mem hmet htracks hpush
  rw [of_decide_eq_true heq] at hbefore hafter
  rcases hgone with hnone | hnone
  · rw [hnone] at hbefore
    cases hbefore
  · rw [hnone] at hafter
    cases hafter

/-- The first tick of a small daemon delivers its line. -/
theorem pushes_reach_subscriber_served :
    ∃ completion ∈ Sample.served.history,
      completion.applied.pushes = [⟨⟨1⟩, ⟨1⟩, "a:0:open\r\n"⟩] ∧
        ∀ push ∈ completion.applied.pushes, completion.Delivers push :=
  ⟨_, List.mem_cons_self, by with_unfolding_all rfl,
    (Run.Reachable.pushes_reach_subscriber (Sample.reachable_served true) List.mem_cons_self).1⟩

end MetricsDaemon
