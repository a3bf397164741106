import MetricsDaemon.Proofs.Operations
import MetricsDaemon.Proofs.Teardown

/-!
# Ticks that come to nothing

A tick that is cancelled or fails was planned at most. All that it leaves behind are
methods that were bound early; but for them the shared state is the one that others made
without it. So later ticks find the same jobs, and deliver the same lines.
-/

namespace MetricsDaemon

/-! ## Applying the same values -/

namespace State

variable {plain bound state : State} {id : SubscriptionId}

/-- The value of a job is recorded alike in prebound states. -/
theorem Prebinds.recordValue (hbound : plain.Prebinds bound) (now : Nat) (job : Job)
    (value : Option Value) :
    (plain.recordValue now job value).1.Prebinds (bound.recordValue now job value).1 ∧
      (bound.recordValue now job value).2 = (plain.recordValue now job value).2 := by
  cases value with
  | none => exact ⟨hbound, rfl⟩
  | some value =>
    refine ⟨?_, congrArg (Option.getD · false) hbound.directory.changed_recordSample⟩
    obtain ⟨_, rfl, hregistry⟩ := hbound
    exact ⟨_, rfl, hregistry.recordSample⟩

/-- The values of a tick are recorded alike in prebound states. -/
theorem Prebinds.recordAll (hbound : plain.Prebinds bound) (now : Nat) (entries : Valued) :
    (State.recordAll now plain entries).1.Prebinds (State.recordAll now bound entries).1 ∧
      (State.recordAll now bound entries).2 = (State.recordAll now plain entries).2 := by
  induction entries generalizing plain bound with
  | nil => exact ⟨hbound, rfl⟩
  | cons entry rest ih =>
    obtain ⟨job, value⟩ := entry
    obtain ⟨hfirst, hchanged⟩ := hbound.recordValue now job value
    obtain ⟨hrest, hothers⟩ := ih hfirst
    exact ⟨hrest, congrArg₂ List.cons hchanged hothers⟩

/-- A line is queued or refused whatever is bound. -/
theorem Prebinds.send (hbound : plain.Prebinds bound) (connection : ConnectionId)
    (line : String) :
    (plain.send connection line).1.Prebinds (bound.send connection line).1 ∧
      (bound.send connection line).2 = (plain.send connection line).2 := by
  obtain ⟨registry, rfl, hregistry⟩ := hbound
  unfold State.send
  dsimp only
  cases plain.connections.get? connection with
  | none => exact ⟨⟨registry, rfl, hregistry⟩, rfl⟩
  | some entry =>
    dsimp only
    cases plain.outboxes.get? entry.outbox with
    | none => exact ⟨⟨registry, rfl, hregistry⟩, rfl⟩
    | some outbox =>
      dsimp only
      split <;> exact ⟨⟨registry, rfl, hregistry⟩, rfl⟩

/-- Flags are kept apart from bindings. -/
theorem Prebinds.modify (hbound : plain.Prebinds bound) (change : Subscription → Subscription) :
    { plain with subscriptions := plain.subscriptions.modify id change }.Prebinds
      { bound with subscriptions := bound.subscriptions.modify id change } := by
  obtain ⟨registry, rfl, hregistry⟩ := hbound
  exact ⟨registry, rfl, hregistry⟩

/-- A subscription is served alike in prebound states. -/
theorem Prebinds.serveSubscription (hbound : plain.Prebinds bound) (subscription : Subscription)
    (result : Result) :
    (plain.serveSubscription subscription result).1.Prebinds
        (bound.serveSubscription subscription result).1 ∧
      (bound.serveSubscription subscription result).2 =
        (plain.serveSubscription subscription result).2 := by
  unfold State.serveSubscription
  split
  · obtain ⟨hsent, hsame⟩ := hbound.send subscription.interest.connection
      (pushLine subscription.interest.clientId result.type result.value)
    dsimp only
    revert hsent hsame
    generalize bound.send _ _ = second
    generalize plain.send _ _ = first
    obtain ⟨sent, taken⟩ := first
    obtain ⟨later, same⟩ := second
    rintro hsent rfl
    cases same with
    | true => exact ⟨hsent.modify _, rfl⟩
    | false => exact ⟨hsent.modify _, rfl⟩
  · exact ⟨hbound.modify _, rfl⟩

/-- A target is served alike in prebound states. -/
theorem Prebinds.serveOne (hbound : plain.Prebinds bound) (results : List (Option Result))
    (target : SubscriptionId × Nat) :
    (serveOne results target plain).1.Prebinds (serveOne results target bound).1 ∧
      (serveOne results target bound).2 = (serveOne results target plain).2 := by
  unfold State.serveOne State.serveTarget
  dsimp only
  rw [hbound.subscriptions]
  split
  · obtain ⟨hserved, hpushes⟩ := hbound.serveSubscription _ _
    exact ⟨hserved, congrArg ([] ++ ·) hpushes⟩
  · exact ⟨hbound, rfl⟩

/-- The targets of a tick are served alike in prebound states. -/
theorem Prebinds.serveAll (hbound : plain.Prebinds bound) (results : List (Option Result))
    (targets : List (SubscriptionId × Nat)) :
    (serveAll results targets plain).1.Prebinds (serveAll results targets bound).1 ∧
      (serveAll results targets bound).2 = (serveAll results targets plain).2 := by
  induction targets generalizing plain bound with
  | nil => exact ⟨hbound, rfl⟩
  | cons target targets ih =>
    obtain ⟨hfirst, hpushes⟩ := hbound.serveOne results target
    obtain ⟨hrest, hothers⟩ := ih hfirst
    rw [serveAll_cons, serveAll_cons]
    exact ⟨hrest, congrArg₂ List.append hpushes hothers⟩

/-- Serving a subscription leaves the registry as it is. -/
theorem registry_serveSubscription (state : State) (subscription : Subscription)
    (result : Result) :
    (state.serveSubscription subscription result).1.registry = state.registry := by
  have hsend := state.send_cases subscription.interest.connection
    (pushLine subscription.interest.clientId result.type result.value)
  unfold State.serveSubscription
  split
  · rcases hsend with ⟨h, _⟩ | ⟨_, _, _, _, h⟩ <;>
    · dsimp only
      rw [h]
      rfl
  · rfl

/-- Serving all targets leaves the registry as it is. -/
theorem registry_serveAll (state : State) (results : List (Option Result))
    (targets : List (SubscriptionId × Nat)) :
    (State.serveAll results targets state).1.registry = state.registry := by
  induction targets generalizing state with
  | nil => rfl
  | cons target targets ih =>
    rw [serveAll_cons]
    dsimp only
    rw [ih]
    unfold State.serveOne State.serveTarget
    dsimp only
    split
    · exact registry_serveSubscription ..
    · rfl

/-- States stay prebound when the same subscriptions are marked in both. -/
theorem Prebinds.markAll (hbound : plain.Prebinds bound) (ids : List SubscriptionId) :
    (plain.markAll ids).Prebinds (bound.markAll ids) := by
  induction ids generalizing plain bound with
  | nil => exact hbound
  | cons id ids ih => exact ih (hbound.modify _)

/-- Marking subscriptions leaves the registry as it is. -/
theorem registry_markAll (state : State) (ids : List SubscriptionId) :
    (state.markAll ids).registry = state.registry := by
  induction ids generalizing state with
  | nil => rfl
  | cons id ids ih => exact ih (state.markPending id)

/-- As many are removed. -/
theorem Prebinds.retire (hbound : plain.Prebinds bound) (ids : List SubscriptionId)
    (count : Nat) : (ids.foldl retireOne (bound, count)).2 =
      (ids.foldl retireOne (plain, count)).2 := by
  induction ids generalizing plain bound count with
  | nil => rfl
  | cons id ids ih =>
    obtain ⟨hremoved, hsame⟩ := hbound.unsubscribe id
    have hboth : retireOne (bound, count) id =
        ((bound.unsubscribe id).1, count + (plain.unsubscribe id).2.toNat) := by
      rw [← hsame]
      rfl
    rw [List.foldl_cons, List.foldl_cons, hboth]
    exact ih hremoved _

section Parts

variable (plan : Plan) (values : List (Option Value)) (now : Nat)

/-- A plan is served alike in prebound states. -/
theorem Prebinds.served (hbound : plain.Prebinds bound) :
    (plain.served plan values now).1.Prebinds (bound.served plan values now).1 ∧
      (bound.served plan values now).2 = (plain.served plan values now).2 := by
  obtain ⟨hrecorded, hchanged⟩ := hbound.recordAll now (plan.jobs.zip values)
  rw [State.served, State.served, hchanged]
  exact hrecorded.serveAll _ _

/-- States stay prebound when a plan was served and its subscriptions marked in both. -/
theorem Prebinds.marked (hbound : plain.Prebinds bound) :
    (plain.marked plan values now).Prebinds (bound.marked plan values now) :=
  (hbound.served plan values now).1.markAll plan.orphans

/-- States stay prebound when the marked subscriptions were retired in both. -/
theorem Prebinds.retired (hbound : plain.Prebinds bound) :
    (plain.retired plan values now).Prebinds (bound.retired plan values now) := by
  have hmarked := hbound.marked plan values now
  rw [State.retired, State.retired, hmarked.subscriptions]
  exact hmarked.unsubscribeAll _

/-- What an application leads to, whatever was bound before. -/
structure Twins (plain bound : Applied) : Prop where
  state : plain.state.Prebinds bound.state
  report : bound.report = plain.report
  pushes : bound.pushes = plain.pushes

/-- Before the sweep the registry is in order. -/
theorem sound_retired (hsound : state.registry.Sound) :
    (state.retired plan values now).registry.Sound := by
  have hrecorded : state.Acted false (state.recorded plan values now) := acted_recordAll _
  have hmarked : (state.marked plan values now).registry.Sound := by
    rw [State.marked, registry_markAll, State.served, registry_serveAll]
    exact hrecorded.sound hsound
  exact (acted_unsubscribeAll _).sound hmarked

/-- To apply a plan in prebound states is to do the same twice. -/
theorem Prebinds.apply (hbound : plain.Prebinds bound) (hsound : plain.registry.Sound) :
    Twins (plain.apply plan values now) (bound.apply plan values now) := by
  obtain ⟨hserved, hpushes⟩ := hbound.served plan values now
  have hmarked := hbound.marked plan values now
  obtain ⟨hswept, hunloaded⟩ :=
    (hbound.retired plan values now).unloadIdle (sound_retired plan values now hsound)
  refine ⟨?_, ?_, ?_⟩
  · rw [state_apply, state_apply]
    exact hswept
  · rw [report_apply, report_apply, hpushes, hunloaded, hmarked.subscriptions, hmarked.retire]
  · rw [pushes_apply, pushes_apply, hpushes]

end Parts

end State

/-! ## Later ticks -/

/-- A tick to come: what others do before it is planned, and then before it is applied, with the
values that it gets and the moments of both. -/
structure Outlook where
  earlier : List Operation
  planned : Nat
  later : List Operation
  values : List (Option Value)
  applied : Nat

namespace State

variable {plain bound : State}

/-- The plan of a tick to come, with the state that it leaves. -/
def planFor (state : State) (outlook : Outlook) : State × Plan :=
  (state.undergo outlook.earlier).plan outlook.planned

/-- What a tick to come leads to. -/
def applyFor (state : State) (outlook : Outlook) : Applied :=
  ((state.planFor outlook).1.undergo outlook.later).apply (state.planFor outlook).2 outlook.values
    outlook.applied

/-- What later ticks lead to, one after the other: the state in the end, and the plan, the report
and the pushes of each. -/
def follow (state : State) : List Outlook → State × List (Plan × Report × List Push)
  | [] => (state, [])
  | outlook :: rest =>
      let applied := state.applyFor outlook
      let done := applied.state.follow rest
      (done.1, ((state.planFor outlook).2, applied.report, applied.pushes) :: done.2)

/-- The second state is the first one, but for methods that were bound early; and no later tick can
tell the one from the other. -/
structure Forgoes (plain bound : State) : Prop where
  outboxes : bound.outboxes = plain.outboxes
  subscriptions : bound.subscriptions = plain.subscriptions
  connections : bound.connections = plain.connections
  modules : bound.registry.modules = plain.registry.modules
  keys : bound.directory.entries.keys = plain.directory.entries.keys
  bindings : ∀ id variable_, plain.directory.get? id = some variable_ →
    ∃ found, bound.directory.get? id = some found ∧
      (found = variable_ ∨ variable_.binding = .unresolved ∧ found.binding ≠ .unresolved ∧
        found = { variable_ with binding := found.binding })
  /-- There is nothing else that differs, other than what was noted. -/
  prebinds : plain.Prebinds bound
  delivers : ∀ outlooks, (bound.follow outlooks).2 = (plain.follow outlooks).2

/-- A variable that is prebound is the same, or its method was asked for early. -/
theorem Prebinds.binding_of_ahead {units : ModuleId → Option ProviderUnit}
    {variable_ found : Variable} (hahead : variable_.Prebinds units found) :
    found = variable_ ∨ variable_.binding = .unresolved ∧ found.binding ≠ .unresolved ∧
      found = { variable_ with binding := found.binding } := by
  rcases hahead with rfl | ⟨unit, _, rfl⟩
  · exact .inl rfl
  · by_cases hbinding : variable_.binding = .unresolved
    · refine .inr ⟨hbinding, Variable.binding_bindWith_ne, ?_⟩
      rw [Variable.bindWith_of_unresolved hbinding]
    · exact .inl (Variable.bindWith_of_ne_unresolved hbinding)

/-- Prebound states plan the same for one outlook. -/
theorem Prebinds.planFor (hbound : plain.Prebinds bound) (hsound : plain.registry.Sound)
    (outlook : Outlook) :
    (plain.planFor outlook).1.Prebinds (bound.planFor outlook).1 ∧
      (bound.planFor outlook).2 = (plain.planFor outlook).2 := by
  have hearlier := hbound.undergo hsound outlook.earlier
  have hdirectory := (sound_undergo hsound outlook.earlier).directory
  exact ⟨hearlier.plan_fst hdirectory, hearlier.plan_snd hdirectory⟩

/-- Prebound states apply the same for one outlook. -/
theorem Prebinds.applyFor (hbound : plain.Prebinds bound) (hsound : plain.registry.Sound)
    (outlook : Outlook) : Twins (plain.applyFor outlook) (bound.applyFor outlook) := by
  obtain ⟨hplanned, hplan⟩ := hbound.planFor hsound outlook
  have hleft : (plain.planFor outlook).1.registry.Sound :=
    sound_plan (sound_undergo hsound outlook.earlier) outlook.planned
  rw [State.applyFor, State.applyFor, hplan]
  exact (hplanned.undergo hleft outlook.later).apply _ _ _ (sound_undergo hleft outlook.later)

/-- Applying a plan for an outlook keeps the registry in order. -/
theorem sound_applyFor (hsound : plain.registry.Sound) (outlook : Outlook) :
    (plain.applyFor outlook).state.registry.Sound := by
  have hleft : (plain.planFor outlook).1.registry.Sound :=
    sound_plan (sound_undergo hsound outlook.earlier) outlook.planned
  rw [applyFor, state_apply]
  exact (sound_retired _ _ _ (sound_undergo hleft outlook.later)).unloadAll

/-- Whatever the outlooks of later ticks are, prebound states deliver the same in each. -/
theorem Prebinds.follow (hbound : plain.Prebinds bound) (hsound : plain.registry.Sound)
    (outlooks : List Outlook) : (bound.follow outlooks).2 = (plain.follow outlooks).2 := by
  induction outlooks generalizing plain bound with
  | nil => rfl
  | cons outlook rest ih =>
    have htwins := hbound.applyFor hsound outlook
    have hrest := ih htwins.state (sound_applyFor hsound outlook)
    simp only [State.follow, (hbound.planFor hsound outlook).2, htwins.report, htwins.pushes,
      hrest]

/-- A state that is prebound forgoes nothing but methods that were bound early. -/
theorem forgoes_of_prebinds (hbound : plain.Prebinds bound) (hsound : plain.registry.Sound) :
    plain.Forgoes bound where
  outboxes := by
    obtain ⟨_, rfl, _⟩ := hbound
    rfl
  subscriptions := hbound.subscriptions
  connections := hbound.connections
  modules := hbound.registry.modules
  keys := hbound.directory.keys
  bindings := by
    intro id variable_ hget
    obtain ⟨found, hfound, hahead⟩ := hbound.directory.ahead hget
    exact ⟨found, hfound, Prebinds.binding_of_ahead hahead⟩
  prebinds := hbound
  delivers := hbound.follow hsound

end State

/-! ## Detours -/

namespace World

/-- The operations are what the code of some jobs does when it is called, one after the other. -/
inductive Performs : World → List Job → List Operation → Prop where
  | done {world : World} : Performs world [] []
  | call {world : World} {job : Job} {rest : List Job} {first more : List Operation}
      (hactions : ∀ operation ∈ first, operation.isAction = true)
      (hstate : world.state.undergo first = (world.call job.callable job.arg).1.state)
      (hrest : Performs (world.call job.callable job.arg).1 rest more) :
      Performs world (job :: rest) (first ++ more)

/-- What the code that is called does to the shared state is a row of operations. -/
theorem exists_operations_of_call (world : World) (job : Job) :
    ∃ operations : List Operation, (∀ operation ∈ operations, operation.isAction = true) ∧
      world.state.undergo operations = (world.call job.callable job.arg).1.state :=
  State.exists_operations (reaches_call State.admits_action (sparesAll_of_forced _ _))

end World

namespace Run

variable {forced : Bool} {run middle after : Run} {operations : List Operation} {flight : Flight}

/-- What a run can do without applying a tick, with the operations that others do meanwhile. Ticks
may be planned, have some of their jobs called and be given up at any time. -/
inductive Detour (run : Run) : List Operation → Run → Prop where
  | stay : Detour run [] run
  /-- Others change the shared state, and everything around it changes as it likes. -/
  | others {operations : List Operation} {middle : Run} (hdetour : Detour run operations middle)
      (more : List Operation) (world : World)
      (hstate : middle.world.state.undergo more = world.state) :
      Detour run (operations ++ more) { middle with world := world }
  | plan {operations : List Operation} {middle : Run} (hdetour : Detour run operations middle)
      (hidle : middle.flight = none) : Detour run operations middle.takeOff
  | call {operations : List Operation} {middle : Run} (hdetour : Detour run operations middle)
      {flight : Flight} {job : Job} (hflight : middle.flight = some flight)
      (hjob : flight.plan.jobs[flight.calls.length]? = some job) :
      Detour run operations { middle with flight := some (flight.answered middle.world job) }
  | abandon {operations : List Operation} {middle : Run} (hdetour : Detour run operations middle) :
      Detour run operations { middle with flight := none }

/-- Nothing is applied on a detour. -/
theorem Detour.history (hdetour : Detour run operations after) : after.history = run.history := by
  induction hdetour with
  | stay => rfl
  | others _ _ _ _ ih => exact ih
  | plan _ _ ih => exact ih
  | call _ _ _ ih => exact ih
  | abandon _ ih => exact ih

/-- After a detour the state is what the others alone would have made, prebound. -/
theorem Detour.prebinds (hdetour : Detour run operations after)
    (hsound : run.world.state.registry.Sound) :
    (run.world.state.undergo operations).Prebinds after.world.state := by
  induction hdetour with
  | stay => exact .refl _
  | others _ more world hstate ih =>
    rw [State.undergo_append, ← hstate]
    exact ih.undergo (State.sound_undergo hsound _) more
  | @plan _ middle _ _ ih =>
    have hplanned : middle.world.state.Prebinds middle.takeOff.world.state :=
      State.prebinds_plan _ _
    exact ih.trans hplanned
  | call _ _ _ ih => exact ih
  | abandon _ ih => exact ih

/-- Calling the jobs that are left stays on the detour; what the code does is done by others. -/
theorem Detour.evaluate {jobs : List Job} (hdetour : Detour run operations middle)
    (hflight : middle.flight = some flight) (hjobs : flight.ahead = jobs) :
    ∃ more done, World.Performs middle.world jobs more ∧ Detour run (operations ++ more)
      { middle with world := (World.evaluate middle.world jobs).1, flight := some done } := by
  induction jobs generalizing operations middle flight with
  | nil =>
    refine ⟨[], flight, .done, ?_⟩
    rw [List.append_nil, ← hflight]
    exact hdetour
  | cons job rest ih =>
    have hcalled := hdetour.call hflight (Flight.next_of_ahead hjobs)
    obtain ⟨first, hactions, hstate⟩ := middle.world.exists_operations_of_call job
    obtain ⟨more, done, hperforms, hdone⟩ :=
      ih (hcalled.others first (middle.world.call job.callable job.arg).1 hstate) rfl
        (Flight.ahead_answered hjobs)
    refine ⟨first ++ more, done, .call hactions hstate hperforms, ?_⟩
    rw [← List.append_assoc]
    exact hdone

/-- A tick of the program that reports nothing is a detour, if it plans at all. -/
theorem detour_of_tick (hidle : run.flight = none) (hnone : run.world.tick.2 = none) :
    run.world.tick.1 = run.world ∨ ∃ operations,
      World.Performs run.takeOff.world (run.world.state.plan run.world.host.now).2.jobs operations ∧
      Detour run operations { run with world := run.world.tick.1 } := by
  unfold World.tick at hnone ⊢
  split
  · exact .inl rfl
  · next hcancelled =>
    rw [if_neg hcancelled] at hnone
    dsimp only at hnone ⊢
    have hjobs : (⟨run.world.state, run.world.host.now, []⟩ : Flight).ahead =
        (run.world.state.plan run.world.host.now).2.jobs := List.drop_zero
    obtain ⟨operations, done, hperforms, hdone⟩ := (Detour.stay.plan hidle).evaluate rfl hjobs
    split
    · refine .inr ⟨operations, hperforms, ?_⟩
      have habandoned := hdone.abandon
      rw [← hidle] at habandoned
      exact habandoned
    · next hfinished =>
      rw [if_neg hfinished] at hnone
      cases hnone

/-- Whatever was planned and called without being applied, with whatever others did meanwhile: the
shared state is what they alone would have made of it, but for methods that were bound early, and so
later ticks deliver what they would have delivered. A tick of the program that is cancelled goes
such a way, if it plans at all, and what others do meanwhile is what the code does that it calls.
-/
theorem Reachable.detour_leaves_no_trace (hreach : Reachable forced run) :
    (∀ operations after, Detour run operations after →
      after.history = run.history ∧
      (run.world.state.undergo operations).Forgoes after.world.state) ∧
    (run.flight = none → run.world.tick.2 = none →
      run.world.tick.1 = run.world ∨ ∃ operations,
        World.Performs run.takeOff.world (run.world.state.plan run.world.host.now).2.jobs
          operations ∧
        Detour run operations { run with world := run.world.tick.1 }) := by
  have hsound := hreach.sound.state.booked.modules
  refine ⟨?_, detour_of_tick⟩
  intro operations after hdetour
  exact ⟨hdetour.history,
    State.forgoes_of_prebinds (hdetour.prebinds hsound) (State.sound_undergo hsound operations)⟩

end Run

namespace Sample

/-- A tick was planned, the subscriber left, and the tick was given up. -/
def unwound : Run :=
  { crowded.run with
    world := crowded.run.takeOff.world.withState
      (Operation.on crowded.run.takeOff.world.state (.forget ⟨1⟩)) }

/-- The tick that is planned and abandoned while the client leaves is a detour. -/
theorem detour_unwound : Run.Detour crowded.run [.forget ⟨1⟩] unwound := by
  have hplanned : Run.Detour crowded.run [] crowded.run.takeOff := Run.Detour.stay.plan rfl
  have hleft : Run.Detour crowded.run [.forget ⟨1⟩]
      { crowded.run.takeOff with world := unwound.world } := hplanned.others [.forget ⟨1⟩] _ rfl
  exact hleft.abandon

end Sample

/-- All that such a tick left behind is that the method of one variable is known to be missing. -/
theorem detour_leaves_no_trace_unwound :
    (∃ pulse, (Sample.crowded.run.world.state.undergo [.forget ⟨1⟩]).directory.get? ⟨2⟩ =
      some pulse ∧ pulse.binding = .unresolved) ∧
    (∃ pulse, Sample.unwound.world.state.directory.get? ⟨2⟩ = some pulse ∧
      pulse.isBroken = true) ∧
    (Sample.crowded.run.world.state.undergo [.forget ⟨1⟩]).Forgoes
      Sample.unwound.world.state :=
  ⟨⟨_, rfl, rfl⟩, by with_unfolding_all exact ⟨_, rfl, rfl⟩,
    ((Run.Reachable.detour_leaves_no_trace Sample.reachable_crowded.toRun).1 _ _
      Sample.detour_unwound).2⟩

end MetricsDaemon
