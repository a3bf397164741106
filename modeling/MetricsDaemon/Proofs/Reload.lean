import MetricsDaemon.Proofs.Run
import MetricsDaemon.Proofs.Traffic

/-!
# How a subscription on demand ends

A load that comes with a module of its own installs it and subscribes in one step, and
nothing can come between. A load without one only hopes that the variable is there: it
saw it, or saw a module of the right name, some steps ago. If an idle module leaves in
between, the subscriber is told that the variable is unknown, although it could have
been loaded again.
-/

namespace MetricsDaemon

open State (Calm)

namespace LoadPhase

/-- Whether the next step of a load is the one that subscribes. -/
def isLast : LoadPhase → Bool
  | .direct | .joining _ => true
  | _ => false

/-- Whether a load comes with a module of its own. -/
def brings : LoadPhase → Bool
  | .joining (some _) => true
  | _ => false

/-- How far a load has come. -/
def rank : LoadPhase → Nat
  | .asked => 0
  | .queued _ => 1
  | .admitted _ => 2
  | .opening _ => 3
  | .opened _ _ => 4
  | .initializing _ _ => 5
  | .direct | .joining _ => 6
  | .done _ => 7

end LoadPhase

/-- The unit of an origin does its part in the next step of a load: it opens, it initializes, and it
offers the name again and has its method. -/
def World.Helps (world : World) (name : String) : LoadPhase → Prop
  | .opening origin => ∃ unit, (world.openOrigin origin).2 = .ok unit
  | .initializing origin unit =>
      ∃ prepared, (World.stageInit World.perform origin unit world).2 = .ok prepared
  | .joining (some prepared) => prepared.unit.provider.Brings name
  | _ => True

/-- If the variable of a name is registered, its method binds. -/
def State.Answers (state : State) (name : String) : Prop :=
  ∀ variable_ unit, state.target? name = some (variable_, unit) →
    (state.bindMethod unit variable_.id).2.isSome

/-- The result of a subscription that finds what is there. -/
def State.verdict (state : State) (request : Request) (present : Bool) :
    Except SubscriptionError SubscriptionId :=
  if present then .ok state.subscriptions.nextId else .error (.unknownVariable request.name)

namespace State

variable {state : State} {request : Request} {name : String}

/-- A name that is registered leads to a variable with a resident module. -/
theorem isSome_target? (hsound : state.registry.Sound)
    (hregistered : state.isRegistered name = true) : (state.target? name).isSome := by
  obtain ⟨id, hname⟩ := Option.isSome_iff_exists.mp hregistered
  obtain ⟨variable_, hget, _⟩ := hsound.directory.named.mp hname
  obtain ⟨module_, hmodule, _⟩ := hsound.owner hget
  exact Option.isSome_iff_exists.mpr ⟨(variable_, module_.unit),
    target?_eq_some_iff.mpr ⟨id, module_, hname, hget, hmodule, rfl⟩⟩

/-- A name that is not registered is no target for a subscription. -/
theorem target?_eq_none (hunknown : state.isRegistered name = false) :
    state.target? name = none := by
  cases htarget : state.target? name with
  | none => rfl
  | some target =>
    obtain ⟨id, _, hname, _⟩ := target?_eq_some_iff.mp htarget
    rw [isRegistered, hname] at hunknown
    cases hunknown

/-- Who subscribes to what is there is told whether the variable is registered. -/
theorem subscribe_eq_verdict (hsound : state.registry.Sound)
    (htracked : state.connections.contains request.connection = true)
    (hanswers : state.Answers request.name) :
    (state.subscribe request).2 = state.verdict request (state.isRegistered request.name) := by
  cases hregistered : state.isRegistered request.name with
  | true =>
    obtain ⟨⟨variable_, unit⟩, htarget⟩ :=
      Option.isSome_iff_exists.mp (isSome_target? hsound hregistered)
    exact subscribe_granted htracked htarget (hanswers variable_ unit htarget)
  | false =>
    rw [subscribe_of_unknown htracked (target?_eq_none hregistered)]
    rfl

end State

namespace World

variable {world after : World} {request : Request} {phase reached : LoadPhase}

/-- A load with a module of its own subscribes, and one without is told whether the variable is
registered. -/
theorem stepLoad_of_isLast (hsound : world.state.Sound true)
    (hawaits : world.registry.Awaits request.name phase)
    (htracked : world.state.connections.contains request.connection = true)
    (hhelps : world.Helps request.name phase) (hanswers : world.state.Answers request.name)
    (hlast : phase.isLast = true) :
    (world.stepLoad request phase).2 =
      .done (world.state.verdict request
        (phase.brings || world.state.isRegistered request.name)) := by
  have hregistry := hsound.booked.modules
  cases phase with
  | direct =>
    have hdirect : (world.stepLoad request .direct).2 =
        .done (world.state.subscribe request).2 := rfl
    rw [hdirect, State.subscribe_eq_verdict hregistry htracked hanswers]
    rfl
  | joining prepared =>
    cases prepared with
    | none =>
      have hnone : (world.stepLoad request (.joining none)).2 =
          .done (world.state.subscribe request).2 := rfl
      rw [hnone, State.subscribe_eq_verdict hregistry htracked hanswers]
      rfl
    | some prepared =>
      obtain ⟨hfree, hloaded, hstaged, _⟩ := hawaits
      obtain ⟨hinstalled, hsubscribed⟩ :=
        State.subscribe_installed hregistry htracked hloaded hfree hhelps hstaged
      have hinstall : world.install prepared =
          ((world.install prepared).1, .ok world.registry.nextId) := Prod.ext rfl hinstalled
      have hjoin : (world.stepLoad request (.joining (some prepared))).2 =
          .done ((world.install prepared).1.state.subscribe request).2 := by
        simp only [stepLoad, installFor]
        rw [hinstall]
        rfl
      rw [hjoin]
      exact congrArg LoadPhase.done hsubscribed
  | _ => cases hlast

/-- A load that does not subscribe yet comes further, unless it waits for the gate. -/
theorem LoadStep.rank_lt (hstep : LoadStep request world phase after reached)
    (hhelps : world.Helps request.name phase) (hlast : phase.isLast = false)
    (hgoing : phase.isDone = false) :
    reached.isDone = false ∧ (phase.rank < reached.rank ∨
      reached = phase ∧ phase.holdsGate = false ∧ world.state.loading = true) := by
  cases hstep with
  | known | missing | passed | present | absent | opened | resident | entered | staged =>
    exact ⟨rfl, .inl (by simp [LoadPhase.rank])⟩
  | waiting hclosed => exact ⟨rfl, .inr ⟨rfl, rfl, hclosed⟩⟩
  | unopened hopen =>
    obtain ⟨unit, hunit⟩ := hhelps
    rw [hopen] at hunit
    cases hunit
  | failed hstage =>
    obtain ⟨prepared, hprepared⟩ := hhelps
    rw [hstage] at hprepared
    cases hprepared
  | subscribed | joined | refused => cases hlast
  | ended => cases hgoing

end World

/-- How the next step of a load in traffic goes, whatever the others did before it. If it is the
last one, the load ends: well if it comes with a module of its own or if the variable is registered
right now, and otherwise in an unknown variable, even one that it saw registered or saw loaded
before. If it is not, the load comes further, or it waits for another one that holds the gate. -/
theorem Traffic.Reachable.stepLoad_ends_or_advances {traffic : Traffic} {slot : Nat}
    {request : Request} {phase : LoadPhase} (hreach : traffic.Reachable)
    (hcall : traffic.calls[slot]? = some (request, phase))
    (htracked : traffic.world.state.connections.contains request.connection = true)
    (hhelps : traffic.world.Helps request.name phase)
    (hanswers : traffic.world.state.Answers request.name) :
    (phase.isLast = true → (traffic.world.stepLoad request phase).2 =
      .done (if phase.brings || traffic.world.state.isRegistered request.name then
          .ok traffic.world.state.subscriptions.nextId
        else .error (.unknownVariable request.name))) ∧
    (phase.isLast = false → phase.isDone = false →
      (traffic.world.stepLoad request phase).2.isDone = false ∧
        (phase.rank < (traffic.world.stepLoad request phase).2.rank ∨
          (traffic.world.stepLoad request phase).2 = phase ∧
            ∃ other, other ≠ slot ∧ traffic.Holds other)) := by
  have hsound := hreach.sound
  constructor
  · intro hlast
    exact World.stepLoad_of_isLast hsound.state (hsound.awaits hcall) htracked hhelps hanswers hlast
  · intro hlast hgoing
    have hstep := traffic.world.loadStep_stepLoad request phase
    obtain ⟨hundone, hprogress | ⟨hsame, houtside, hclosed⟩⟩ :=
      hstep.rank_lt hhelps hlast hgoing
    · exact ⟨hundone, .inl hprogress⟩
    · refine ⟨hundone, .inr ⟨hsame, ?_⟩⟩
      obtain ⟨other, hother⟩ := hsound.gated.held hclosed
      refine ⟨other, ?_, hother⟩
      rintro rfl
      rw [Traffic.holds_iff hcall, houtside] at hother
      cases hother

/-! ## A subscriber who comes too late -/

namespace Sample

/-- The wish for the door. -/
def wish : Request := ⟨⟨1⟩, "a", "door", none, false⟩

/-- The state with the module on offer. -/
def offered : State :=
  { empty.world.state with registry := empty.world.registry.registerBuiltin "office" office }

/-- The state with one connection. -/
def joined : State :=
  ({ offered with lastConnection := 1 }.reconnect ⟨1⟩ Outbox.defaultCapacity).1

/-- A world with one connection and one module, which nobody holds. -/
def stocked : World := ((empty.world.withState joined).load (.builtin "office")).1

/-- The state after a tick with nothing to do, which lets the idle module leave. -/
def sweptState : State :=
  ((stocked.state.plan 0).1.apply (stocked.state.plan 0).2 [] 0).state

/-- The subscriber has just asked. -/
def asking : Traffic := ⟨stocked, [(wish, .asked)]⟩

/-- The subscriber saw the variable registered, and then the tick came. -/
def late : Traffic := ⟨stocked.withState sweptState, [(wish, .direct)]⟩

/-- The subscriber who has just asked is reached. -/
theorem reachable_asking : asking.Reachable := by
  have hstart : Traffic.Reachable ⟨empty.world, []⟩ := .start _ .everything .default rfl
  have hoffered : Calm empty.world.state offered :=
    .step (.provided _ _) ⟨.of_tables_eq rfl rfl rfl rfl, rfl⟩
  have hjoined : Calm offered joined :=
    .step (.connected _ _ _ rfl) ⟨.of_tables_eq rfl rfl rfl rfl, rfl⟩
  have houtside : Traffic.Reachable ⟨empty.world.withState joined, []⟩ :=
    hstart.step (.outside _ (.tail (.single hoffered) hjoined))
  have hloaded : Traffic.Reachable ⟨stocked, []⟩ :=
    houtside.step (.load (.builtin "office") fun _ hmem => by cases hmem)
  exact hloaded.step (.ask wish)

/-- Between two steps of the subscriber the tick may come. -/
theorem steps_late : asking.Steps late := by
  have hcall : asking.calls[0]? = some (wish, .asked) := rfl
  have hdirect : asking.Step ⟨stocked, [(wish, .direct)]⟩ := .proceed hcall trivial
  have hplanned : Calm stocked.state (stocked.state.plan 0).1 := State.calm_planned 0
  have happlied : Calm (stocked.state.plan 0).1 sweptState := .applied _ _ _
  exact (Relation.ReflTransGen.single hdirect).tail
    (.outside _ (.tail (.single hplanned) happlied))

/-- The subscriber for whom the module was seen, and then left, is reached. -/
theorem reachable_late : late.Reachable := reachable_asking.steps steps_late

end Sample

/-- The subscriber who comes too late is told that the variable is unknown. -/
theorem stepLoad_ends_or_advances_late :
    Sample.late.calls[0]? = some (Sample.wish, .direct) ∧
      (Sample.late.world.stepLoad Sample.wish .direct).2 =
        .done (.error (.unknownVariable "door")) := by
  have hanswers : Sample.late.world.state.Answers Sample.wish.name := by
    intro variable_ unit htarget
    have hnone : Sample.late.world.state.target? Sample.wish.name = none := by
      with_unfolding_all rfl
    rw [hnone] at htarget
    cases htarget
  have hcall : Sample.late.calls[0]? = some (Sample.wish, .direct) := rfl
  have hlives : Sample.late.world.state.connections.contains Sample.wish.connection = true := by
    with_unfolding_all rfl
  have hends := Traffic.Reachable.stepLoad_ends_or_advances Sample.reachable_late hcall hlives
    trivial hanswers
  have hunregistered : Sample.late.world.state.isRegistered Sample.wish.name = false := by
    with_unfolding_all rfl
  have htold := hends.1 rfl
  rw [hunregistered] at htold
  exact ⟨hcall, htold⟩

/-- A variable may be registered when somebody asks for it, and unknown when he subscribes, although
his connection stays and the module could be opened again and would bring it back. -/
theorem unknown_though_registered :
    ∃ before after : Traffic, before.Reachable ∧ before.Steps after ∧
      before.calls[0]? = some (Sample.wish, .asked) ∧
      before.world.state.isRegistered Sample.wish.name = true ∧
      before.world.registry.originOf Sample.wish.name = some (.builtin "office") ∧
      after.world.state.connections.contains Sample.wish.connection = true ∧
      after.world.registry.builtin? "office" = some Sample.office ∧
      Sample.office.Brings Sample.wish.name ∧
      after.calls[0]? = some (Sample.wish, .done (.error (.unknownVariable "door"))) := by
  have hcall : Sample.late.calls[0]? = some (Sample.wish, .direct) := rfl
  have hlast : Sample.late.Step (Sample.late.proceed 0 Sample.wish .direct) :=
    .proceed hcall trivial
  refine ⟨Sample.asking, _, Sample.reachable_asking, Sample.steps_late.tail hlast, rfl, rfl, rfl,
    ?_, ?_, ⟨_, _, rfl, rfl, rfl⟩, ?_⟩ <;> with_unfolding_all rfl

end MetricsDaemon
