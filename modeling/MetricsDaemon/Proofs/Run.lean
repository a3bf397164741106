import MetricsDaemon.Proofs.Conduct
import MetricsDaemon.Provider.Scripted

/-!
# Runs of the daemon

The world, the tick in flight, and the ticks that were applied so far. A tick is planned,
its jobs are called one after the other, and its values are applied; between any two of
these steps others may do what they like to the shared state. The program's own ticks
and loads are runs in this sense, and everything is in order wherever a run can come.
-/

namespace MetricsDaemon

open State (Steps)

/-- Provider code that was asked for a value: the world that it found, and what it was given. -/
structure Call where
  world : World
  callable : Callable
  arg : Option String

/-- What the code answered; none if it panicked. -/
def Call.value (call : Call) : Option Value := (call.world.call call.callable call.arg).2

/-- A tick between its plan and its end. -/
structure Flight where
  /-- The state for which the tick was planned. -/
  before : State
  /-- The moment of the plan. -/
  moment : Nat
  /-- The calls so far, one for each job from the first on. -/
  calls : List Call

namespace Flight

/-- The state after the plan was made. -/
def planned (flight : Flight) : State := (flight.before.plan flight.moment).1

/-- What the tick is going to do. -/
def plan (flight : Flight) : Plan := (flight.before.plan flight.moment).2

/-- The values so far. -/
def values (flight : Flight) : List (Option Value) := flight.calls.map Call.value

/-- The flight with one more call. -/
def answered (flight : Flight) (world : World) (job : Job) : Flight :=
  { flight with calls := flight.calls ++ [⟨world, job.callable, job.arg⟩] }

/-- Every call was made for the job at its place. -/
def Faithful (flight : Flight) : Prop :=
  ∀ (slot : Nat) (call : Call), flight.calls[slot]? = some call → ∃ job : Job,
    flight.plan.jobs[slot]? = some job ∧ call.callable = job.callable ∧ call.arg = job.arg

/-- The jobs that are not called yet. -/
def ahead (flight : Flight) : List Job := flight.plan.jobs.drop flight.calls.length

variable {flight : Flight} {world : World} {job : Job} {rest : List Job}

/-- An answered job is one more call. -/
@[simp] theorem length_calls_answered :
    (flight.answered world job).calls.length = flight.calls.length + 1 := by
  simp [answered]

/-- The value of an answered job comes behind those that are there. -/
@[simp] theorem values_answered : (flight.answered world job).values =
    flight.values ++ [(world.call job.callable job.arg).2] := by
  simp [values, answered, Call.value]

/-- The first job ahead is the one at the place of the next call. -/
theorem next_of_ahead (hahead : flight.ahead = job :: rest) :
    flight.plan.jobs[flight.calls.length]? = some job := by
  have hfirst : flight.ahead.head? = flight.plan.jobs[flight.calls.length]? := List.head?_drop
  rw [← hfirst, hahead]
  rfl

/-- An answered job is no longer ahead. -/
theorem ahead_answered (hahead : flight.ahead = job :: rest) :
    (flight.answered world job).ahead = rest := by
  have hplan : (flight.answered world job).plan = flight.plan := rfl
  have hdrop : flight.plan.jobs.drop (flight.calls.length + 1) = flight.ahead.drop 1 :=
    List.drop_drop.symm
  rw [ahead, hplan, length_calls_answered, hdrop, hahead]
  rfl

end Flight

/-- A tick that was applied. -/
structure Completion where
  flight : Flight
  /-- The state that the application met. -/
  met : State
  /-- The moment of the application. -/
  moment : Nat

/-- What the application led to. -/
def Completion.applied (completion : Completion) : State.Applied :=
  completion.met.apply completion.flight.plan completion.flight.values completion.moment

/-- A run so far: the world, the tick in flight, and the ticks that were applied, the newest
first. -/
structure Run where
  world : World
  flight : Option Flight
  history : List Completion

namespace Run

/-- The run after a tick was planned. -/
def takeOff (run : Run) : Run :=
  { run with
    world := run.world.withState (run.world.state.plan run.world.host.now).1
    flight := some ⟨run.world.state, run.world.host.now, []⟩ }

/-- The completion of a flight that is applied now. -/
def completion (run : Run) (flight : Flight) : Completion :=
  ⟨flight, run.world.state, run.world.host.now⟩

/-- The run after the values of a flight were applied. -/
def land (run : Run) (flight : Flight) : Run :=
  { world := run.world.withState (run.completion flight).applied.state
    flight := none
    history := run.completion flight :: run.history }

/-- One step of a run. -/
inductive Step (forced : Bool) : Run → Run → Prop where
  /-- Anybody takes steps on the shared state, and everything around it changes as it likes. -/
  | outside {run : Run} (after : World) (hsteps : Steps forced run.world.state after.state) :
      Step forced run { run with world := after }
  | plan {run : Run} (hidle : run.flight = none) : Step forced run run.takeOff
  /-- The next job is called. What the code does meanwhile are steps of others. -/
  | call {run : Run} {flight : Flight} {job : Job} (hflight : run.flight = some flight)
      (hjob : flight.plan.jobs[flight.calls.length]? = some job) :
      Step forced run { run with flight := some (flight.answered run.world job) }
  | apply {run : Run} {flight : Flight} (hflight : run.flight = some flight)
      (hdone : flight.calls.length = flight.plan.jobs.length) : Step forced run (run.land flight)
  /-- The tick is cancelled or fails. -/
  | abandon {run : Run} : Step forced run { run with flight := none }

/-- Where a run can come from a daemon without modules and connections. -/
inductive Reachable (forced : Bool) : Run → Prop where
  | start (world : World) (layout : Layout) (settings : Settings)
      (hstate : world.state = .new (.new layout settings)) : Reachable forced ⟨world, none, []⟩
  | step {run after : Run} (hreach : Reachable forced run) (hstep : Step forced run after) :
      Reachable forced after

variable {forced : Bool} {run after : Run} {flight : Flight} {completion : Completion}

/-! ## The program's own runs -/

/-- What follows a reachable run in any number of steps is reachable. -/
theorem Reachable.steps (hreach : Reachable forced run)
    (hsteps : Relation.ReflTransGen (Step forced) run after) : Reachable forced after := by
  induction hsteps with
  | refl => exact hreach
  | tail _ hstep ih => exact ih.step hstep

/-- Whatever anybody does in steps continues a run. -/
theorem Reachable.outside {world : World} (hreach : Reachable forced run)
    (hsteps : Steps forced run.world.state world.state) :
    Reachable forced { run with world := world } :=
  hreach.step (.outside world hsteps)

/-- A load of a module continues a run. -/
theorem Reachable.load (hreach : Reachable forced run) (origin : Origin) :
    Reachable forced { run with world := (run.world.load origin).1 } :=
  hreach.outside World.steps_load

/-- Each critical section of an on-demand subscription continues a run. -/
theorem Reachable.stepLoad (hreach : Reachable forced run) {phase : LoadPhase} (request : Request)
    (hspares : run.world.SparesLoad forced phase) :
    Reachable forced { run with world := (run.world.stepLoad request phase).1 } :=
  hreach.outside (World.steps_stepLoad hspares)

/-- The calls of some jobs in a row spare the subscribers. -/
def SparesJobs (forced : Bool) : World → List Job → Prop
  | _, [] => True
  | world, job :: rest =>
      world.SparesCall forced job.callable job.arg ∧
        SparesJobs forced (world.call job.callable job.arg).1 rest

/-- Where unloading may be forced, the calls of any jobs spare the subscribers. -/
theorem sparesJobs_of_forced (world : World) (jobs : List Job) : SparesJobs true world jobs := by
  induction jobs generalizing world with
  | nil => trivial
  | cons job rest ih => exact ⟨World.sparesAll_of_forced _ _, ih _⟩

/-- Evaluating the jobs that are left continues a run. -/
private theorem Reachable.evaluate {jobs : List Job} (hreach : Reachable forced run)
    (hflight : run.flight = some flight) (hjobs : flight.ahead = jobs)
    (hspares : SparesJobs forced run.world jobs) :
    ∃ done : Flight, done.before = flight.before ∧ done.moment = flight.moment ∧
      done.values = flight.values ++ (World.evaluate run.world jobs).2 ∧
      done.calls.length = flight.calls.length + jobs.length ∧
      Reachable forced { run with
        world := (World.evaluate run.world jobs).1, flight := some done } := by
  induction jobs generalizing run flight with
  | nil =>
    refine ⟨flight, rfl, rfl, by simp [World.evaluate], by simp, ?_⟩
    rw [← hflight]
    exact hreach
  | cons job rest ih =>
    obtain ⟨hcall, hrest⟩ := hspares
    have hstep : Reachable forced
        { run with flight := some (flight.answered run.world job) } :=
      hreach.step (.call hflight (Flight.next_of_ahead hjobs))
    have hacted : Reachable forced
        { world := (run.world.call job.callable job.arg).1
          flight := some (flight.answered run.world job)
          history := run.history } := hstep.outside (World.steps_call hcall)
    obtain ⟨done, hbefore, hmoment, hvalues, hcalls, hdone⟩ :=
      ih hacted rfl (Flight.ahead_answered hjobs) hrest
    refine ⟨done, hbefore, hmoment, ?_, ?_, hdone⟩
    · rw [hvalues]
      simp [World.evaluate]
    · rw [hcalls, Flight.length_calls_answered, List.length_cons]
      omega

/-- A whole tick of the program continues a run. -/
theorem Reachable.tick (hreach : Reachable forced run) (hidle : run.flight = none)
    (hspares : SparesJobs forced (run.world.withState (run.world.state.plan run.world.host.now).1)
      (run.world.state.plan run.world.host.now).2.jobs) :
    ∃ history, Reachable forced ⟨run.world.tick.1, none, history⟩ := by
  unfold World.tick
  split
  · refine ⟨run.history, ?_⟩
    rw [← hidle]
    exact hreach
  · dsimp only
    have hplan : Reachable forced run.takeOff := hreach.step (.plan hidle)
    have hjobs : (⟨run.world.state, run.world.host.now, []⟩ : Flight).ahead =
        (run.world.state.plan run.world.host.now).2.jobs := List.drop_zero
    obtain ⟨done, hbefore, hmoment, hvalues, hcalls, hdone⟩ := hplan.evaluate rfl hjobs hspares
    have hworld : run.takeOff.world =
        run.world.withState (run.world.state.plan run.world.host.now).1 := rfl
    rw [hworld] at hvalues hdone
    split
    · exact ⟨run.history, hdone.step .abandon⟩
    · have hsame : done.plan = (run.world.state.plan run.world.host.now).2 := by
        rw [Flight.plan, hbefore, hmoment]
      have hlength : done.calls.length = done.plan.jobs.length := by
        rw [hcalls, hsame, List.length_nil, Nat.zero_add]
      have hland := hdone.step (.apply rfl hlength)
      have hnone : (⟨run.world.state, run.world.host.now, []⟩ : Flight).values = [] := rfl
      simp only [land, completion, Completion.applied, hsame, hvalues, hnone, List.nil_append]
        at hland
      exact ⟨_, hland⟩

/-! ## What holds in all reachable states -/

/-- A flight for which everything was in order when it was planned, and what it planned for still
stands, but for what was taken away since. -/
structure Tracks (forced : Bool) (flight : Flight) (state : State) : Prop where
  before : flight.before.Sound forced
  keeps : flight.planned.Keeps state
  faithful : flight.Faithful

/-- Everything is in order, now and when a tick was applied. -/
structure Sound (forced : Bool) (run : Run) : Prop where
  state : run.world.state.Sound forced
  flight : ∀ {flight}, run.flight = some flight → Tracks forced flight run.world.state
  history : ∀ {completion}, completion ∈ run.history →
    completion.met.Sound forced ∧ Tracks forced completion.flight completion.met ∧
      completion.flight.calls.length = completion.flight.plan.jobs.length

/-- Calling the job at the next place keeps a flight faithful. -/
theorem faithful_answered {world : World} {job : Job} (hfaithful : flight.Faithful)
    (hjob : flight.plan.jobs[flight.calls.length]? = some job) :
    (flight.answered world job).Faithful := by
  intro slot call hcall
  have hcalls : (flight.calls ++ [⟨world, job.callable, job.arg⟩])[slot]? = some call := hcall
  rw [List.getElem?_append] at hcalls
  split at hcalls
  · exact hfaithful slot call hcalls
  · next hge =>
    obtain ⟨hlt, heq⟩ := List.getElem?_eq_some_iff.mp hcalls
    simp only [List.length_singleton] at hlt
    have hslot : slot = flight.calls.length := by omega
    subst hslot
    simp only [Nat.sub_self, List.getElem_cons_zero] at heq
    subst heq
    exact ⟨job, hjob, rfl, rfl⟩

/-- Applying a tick to a sound state leaves a sound state. -/
theorem sound_applied (hsound : completion.met.Sound forced) :
    completion.applied.state.Sound forced := by
  unfold Completion.applied
  exact hsound.apply

/-- Every step of a run keeps everything in order. -/
theorem Sound.step (hsound : Sound forced run) (hstep : Step forced run after) :
    Sound forced after := by
  cases hstep with
  | outside world hsteps =>
    refine ⟨hsound.state.steps hsteps, ?_, hsound.history⟩
    intro flight hflight
    have htracks := hsound.flight hflight
    exact ⟨htracks.before, htracks.keeps.trans (hsound.state.keeps_steps hsteps), htracks.faithful⟩
  | plan hidle =>
    have hbinds : run.world.state.Binds (run.world.state.plan run.world.host.now).1 :=
      State.binds_plan hsound.state.booked.modules.directory
    have hplanned := hsound.state.binds hbinds
    refine ⟨hplanned, ?_, hsound.history⟩
    intro flight hflight
    cases hflight
    exact ⟨hsound.state, hplanned.keeps_refl, fun slot call hcall => by simp at hcall⟩
  | call hflight hjob =>
    refine ⟨hsound.state, ?_, hsound.history⟩
    intro flight' hflight'
    cases hflight'
    have htracks := hsound.flight hflight
    exact ⟨htracks.before, htracks.keeps, faithful_answered htracks.faithful hjob⟩
  | apply hflight hdone =>
    refine ⟨sound_applied hsound.state, ?_, ?_⟩
    · intro flight' hflight'
      cases hflight'
    · intro completion hmem
      rcases List.mem_cons.mp hmem with rfl | hmem
      · exact ⟨hsound.state, hsound.flight hflight, hdone⟩
      · exact hsound.history hmem
  | abandon =>
    refine ⟨hsound.state, ?_, hsound.history⟩
    intro flight' hflight'
    cases hflight'

/-- Everything is in order in every reachable run. -/
theorem Reachable.sound (hreach : Reachable forced run) : Sound forced run := by
  induction hreach with
  | start world layout settings hstate =>
    refine ⟨?_, ?_, ?_⟩
    · rw [hstate]
      exact .new layout settings
    · intro flight hflight
      cases hflight
    · intro completion hmem
      cases hmem
  | step _ hstep ih => exact ih.step hstep

/-- A subscription asks for what it asked for before, whatever happens in a run. -/
theorem Sound.succeeds (hsound : Sound forced run) (hstep : Step forced run after) :
    run.world.state.subscriptions.Succeeds after.world.state.subscriptions := by
  have hbooked := hsound.state.booked
  cases hstep with
  | outside world hsteps => exact (hsound.state.keeps_steps hsteps).subscriptions.succeeds
  | plan hidle =>
    have hbinds : run.world.state.Binds (run.world.state.plan run.world.host.now).1 :=
      State.binds_plan hbooked.modules.directory
    exact (hsound.state.keeps_binds hbinds).subscriptions.succeeds
  | call | abandon => exact .refl _
  | apply =>
    refine ⟨Nat.le_of_eq (State.lastId_subscriptions_apply hbooked).symm, fun hget _ => ?_⟩
    obtain ⟨subscription, hsubscription, hinterest⟩ := State.get?_of_apply hbooked hget
    exact ⟨subscription, hsubscription, hinterest.symm⟩

/-- A subscription asks for what it asked for at any earlier moment of a run. -/
theorem Reachable.succeeds (hreach : Reachable forced run)
    (hsteps : Relation.ReflTransGen (Step forced) run after) :
    run.world.state.subscriptions.Succeeds after.world.state.subscriptions := by
  induction hsteps with
  | refl => exact .refl _
  | tail hsteps hstep ih => exact ih.trans ((hreach.steps hsteps).sound.succeeds hstep)

end Run

/-! ## A small daemon -/

namespace Sample

/-- A module with one variable that has always the same value. -/
def office : Provider :=
  Script.provider
    { name := "office"
      offers := [Declared.variableOf "door" 0 0]
      methods := [("door", .none, .sequence [⟨[], some (.text "open")⟩])]
      hook := none
      openPanics := false
      teardownPanics := false }

/-- A daemon without modules and connections. -/
def empty : Run :=
  { world :=
      { host := ⟨0, 0, .idle 0, .idle 0 none, .empty⟩
        state := .new (.new .everything .default)
        disk := .empty
        peers := .empty
        cancelled := false
        lastUnit := 0 }
    flight := none
    history := [] }

/-- The state with the module resident. -/
def furnished : State :=
  { empty.world.state with
    registry := (empty.world.state.registry.install
      ⟨⟨⟨1⟩, office⟩, .builtin "office", [Declared.variableOf "door" 0 0]⟩).1 }

/-- The state with one connection. -/
def connected : State :=
  ({ furnished with lastConnection := 1 }.reconnect ⟨1⟩ Outbox.defaultCapacity).1

/-- A daemon with one subscriber. -/
def subscribed : Run :=
  { empty with
    world := empty.world.withState (connected.subscribe ⟨⟨1⟩, "a", "door", none, false⟩).1 }

/-- A daemon with one subscriber is reached, whether or not unloading is forced. -/
theorem reachable_subscribed (forced : Bool) : Run.Reachable forced subscribed := by
  have hstart : Run.Reachable forced empty := .start _ .everything .default rfl
  have hinstalled : State.Step forced empty.world.state furnished := .installed _
  have hconnected : State.Step forced furnished connected := .connected _ _ _ rfl
  have hsubscribed : State.Step forced connected subscribed.world.state := .subscribed _
  have hsteps : Steps forced empty.world.state subscribed.world.state :=
    ((Relation.ReflTransGen.single hinstalled).tail hconnected).tail hsubscribed
  exact hstart.outside hsteps

/-- The only job of the first tick. -/
def job : Job :=
  { variable_ := ⟨1⟩
    type := .plain
    arg := none
    callable := ⟨⟨⟨1⟩, "office", .scripted⟩, "door",
      Script.method .none (.sequence [⟨[], some (.text "open")⟩])⟩ }

/-- The first tick, all of whose jobs were called. -/
def flight : Flight :=
  (⟨subscribed.world.state, subscribed.world.host.now, []⟩ : Flight).answered
    subscribed.takeOff.world job

/-- The daemon after its first tick. -/
def served : Run := { subscribed.takeOff with flight := some flight }.land flight

/-- So is the daemon after its first tick. -/
theorem reachable_served (forced : Bool) : Run.Reachable forced served := by
  have hplan : Run.Reachable forced subscribed.takeOff :=
    (reachable_subscribed forced).step (.plan rfl)
  have hcall : Run.Reachable forced { subscribed.takeOff with flight := some flight } :=
    hplan.step (.call rfl (by with_unfolding_all rfl))
  exact hcall.step (.apply rfl (by with_unfolding_all rfl))

end Sample

end MetricsDaemon
