import MetricsDaemon.Proofs.Steps
import MetricsDaemon.World.OnDemand

/-!
# What the world does in steps

Loading, calling provider code and every phase of a load on demand are sequences of
steps of the shared state. Provider code may unload modules while it runs; it spares the
subscribers if it unloads none that somebody holds.
-/

namespace MetricsDaemon

open Relation (ReflTransGen)
open State (Step Steps)

namespace World

variable {forced : Bool} {world : World} {action : Action} {actions : List Action}
  {origin : Origin} {unit : ProviderUnit} {request : Request} {callable : Callable}
  {arg : Option String} {perform : Performer}

/-- The action unloads no module that somebody holds, unless that may be forced. -/
def Spares (forced : Bool) (world : World) : Action → Prop
  | .unload name => forced = true ∨ ∀ id, world.registry.idOf? name = some id →
      world.state.subscriptions.countOn id = 0
  | _ => True

/-- None of the actions, taken in order, unloads a module that somebody holds. -/
def SparesAll (forced : Bool) : World → List Action → Prop
  | _, [] => True
  | world, action :: rest =>
      world.Spares forced action ∧ SparesAll forced (world.perform action).1 rest

/-- What may be forced spares nobody. -/
theorem sparesAll_of_forced (world : World) (actions : List Action) :
    SparesAll true world actions := by
  induction actions generalizing world with
  | nil => trivial
  | cons action rest ih =>
    refine ⟨?_, ih _⟩
    cases action with
    | unload name => exact .inl rfl
    | _ => trivial

/-- Whatever provider code does to the shared state when it acts is in the relation. -/
structure Admits (forced : Bool) (r : State → State → Prop) : Prop where
  noted : ∀ state event, r state { state with registry := state.registry.note event }
  installed : ∀ state prepared,
    r state { state with registry := (state.registry.install prepared).1 }
  subscribed : ∀ state request, r state (state.subscribe request).1
  unsubscribed : ∀ state id, r state (state.unsubscribe id).1
  forgotten : ∀ state id, r state (state.forgetConnection id).1
  unloaded : ∀ state id, forced = true ∨ state.subscriptions.countOn id = 0 →
    r state { state with registry := state.registry.unload id }

/-- The steps of the state admit whatever provider code does. -/
theorem Admits.step : Admits forced (Step forced) where
  noted _ event := .noted event
  installed _ prepared := .installed prepared
  subscribed _ request := .subscribed request
  unsubscribed _ id := .unsubscribed id
  forgotten _ id := .forgotten id
  unloaded _ id hfree := .unloaded id hfree

/-! ## Actions that leave the state alone -/

/-- To let time pass leaves the shared state as it is. -/
theorem state_perform_advance (millis : Nat) :
    (world.perform (.advance millis)).1.state = world.state := by
  cases world
  rfl

/-- To change the readings of the machine leaves the shared state as it is. -/
theorem state_perform_observe (readings : Readings) :
    (world.perform (.observe readings)).1.state = world.state := by
  cases world
  rfl

/-- While the lock is held an action has no effect on the shared state. -/
theorem performHeld_eq (world : World) (action : Action) :
    ∃ middle, performHeld world action = (middle, true) ∧ middle.state = world.state ∧
      middle.lastUnit = world.lastUnit := by
  cases world
  cases action <;> exact ⟨_, rfl, rfl, rfl⟩

/-- While the state is held, provider code cannot touch it. -/
theorem state_performAll_held (world : World) (actions : List Action) :
    (performAll performHeld world actions).1.state = world.state := by
  induction actions generalizing world with
  | nil => rfl
  | cons action rest ih =>
    obtain ⟨middle, hperform, hsame, _⟩ := performHeld_eq world action
    rw [performAll, hperform]
    exact (ih middle).trans hsame

/-- While the state is held, provider code opens no unit. -/
theorem lastUnit_performAll_held (world : World) (actions : List Action) :
    (performAll performHeld world actions).1.lastUnit = world.lastUnit := by
  induction actions generalizing world with
  | nil => rfl
  | cons action rest ih =>
    obtain ⟨middle, hperform, _, hsame⟩ := performHeld_eq world action
    rw [performAll, hperform]
    exact (ih middle).trans hsame

/-! ## Loading -/

section Noting

variable {r : State → State → Prop}
  (hnote : ∀ state event, r state { state with registry := state.registry.note event })

include hnote

/-- To open a module notes that at most. -/
theorem reaches_openOrigin : ReflTransGen r world.state (world.openOrigin origin).1.state := by
  cases origin with
  | builtin name =>
    unfold openOrigin
    dsimp only
    split
    · exact .refl
    · exact .single (hnote _ _)
  | file path =>
    unfold openOrigin
    dsimp only
    split
    · exact .refl
    · exact .single (hnote _ _)

/-- To note answers is a row of notes. -/
theorem reaches_noteAnswers (answers : List Bool) :
    ReflTransGen r world.state (world.noteAnswers unit.tag answers).state := by
  induction answers generalizing world with
  | nil => exact .refl
  | cons answer rest ih =>
    have hfirst : ReflTransGen r world.state (world.note (.offered unit.tag answer)).state :=
      .single (hnote _ _)
    exact hfirst.trans ih

/-- An initialization takes the steps of its hook, and notes what it does. -/
theorem reaches_stageInit (hhook : ∀ hook, unit.provider.enrollment.hook = some hook →
      ReflTransGen r world.state (performAll perform world hook.actions).1.state) :
    ReflTransGen r world.state (stageInit perform origin unit world).1.state := by
  have hrun : ReflTransGen r world.state
      (runHook perform world unit.provider.enrollment.hook).1.state := by
    cases hcase : unit.provider.enrollment.hook with
    | none => exact .refl
    | some hook =>
      have hsteps := hhook hook hcase
      unfold runHook
      dsimp only
      split
      · next heq =>
        rw [heq] at hsteps
        exact hsteps
      · next heq =>
        rw [heq] at hsteps
        exact hsteps
  have hreturn (outcome : Outcome) (middle : World) :
      ReflTransGen r middle.state (middle.noteReturn unit outcome).state := by
    unfold noteReturn
    split
    · exact .refl
    · exact .single (hnote _ _)
  have hfinish : ReflTransGen r world.state
      (finishInit perform world.registry.layout.stage [] unit world).1.state := by
    unfold finishInit
    split
    · next middle heq =>
      rw [heq] at hrun
      exact (hrun.trans (reaches_noteAnswers hnote _)).trans (hreturn _ _)
    · next middle outcome _ heq =>
      rw [heq] at hrun
      exact hrun.trans (hreturn _ _)
  unfold stageInit
  split
  · next heq =>
    rw [heq] at hfinish
    exact hfinish
  · next heq =>
    rw [heq] at hfinish
    exact hfinish.tail (hnote _ _)
  · next heq =>
    rw [heq] at hfinish
    exact hfinish

/-- To prepare a module is to open it, to note how it is initialized, and to run its hook. -/
theorem reaches_prepare (checked : Bool)
    (hhook : ∀ middle unit hook, world.openOrigin origin = (middle, .ok unit) →
      unit.provider.enrollment.hook = some hook →
      ReflTransGen r (middle.enterInit unit).state
        (performAll perform (middle.enterInit unit) hook.actions).1.state) :
    ReflTransGen r world.state (world.prepare perform checked origin).1.state := by
  have hopen : ReflTransGen r world.state (world.openOrigin origin).1.state :=
    reaches_openOrigin hnote
  unfold prepare
  split
  · next heq =>
    rw [heq] at hopen
    exact hopen
  · next middle unit heq =>
    rw [heq] at hopen
    split
    · exact hopen
    · have henter : ReflTransGen r middle.state (middle.enterInit unit).state :=
        .single (hnote _ _)
      exact (hopen.trans henter).trans
        (reaches_stageInit hnote fun hook => hhook middle unit hook heq)

/-- While the lock is held, to prepare a module is a row of notes. -/
theorem reaches_prepare_held (checked : Bool) :
    ReflTransGen r world.state (world.prepare performHeld checked origin).1.state := by
  refine reaches_prepare hnote checked fun middle unit hook _ _ => ?_
  rw [state_performAll_held]

end Noting

/-- To note an event is a step of the state. -/
theorem steps_note (event : Event) : Steps forced world.state (world.note event).state :=
  .single (.noted event)

/-- To open a module is a row of steps of the state. -/
theorem steps_openOrigin (origin : Origin) :
    Steps forced world.state (world.openOrigin origin).1.state :=
  reaches_openOrigin fun _ event => .noted event

/-! ## Calling provider code -/

/-- The world in which the code of a callable begins to act. -/
def called (world : World) (callable : Callable) (arg : Option String) : World :=
  { world.note (.invoked callable.owner callable.name (callable.received arg)) with
    host := (callable.invoke arg world.host).1 }

/-- The call spares the subscribers. -/
def SparesCall (forced : Bool) (world : World) (callable : Callable) (arg : Option String) : Prop :=
  SparesAll forced (world.called callable arg) (callable.invoke arg world.host).2.actions

/-- A call leaves what its actions leave. -/
theorem call_fst : (world.call callable arg).1 = (performAll World.perform
    (world.called callable arg) (callable.invoke arg world.host).2.actions).1 := by
  have hhost : (world.note (.invoked callable.owner callable.name
      (callable.received arg))).host = world.host := rfl
  unfold call
  dsimp only
  rw [hhost]
  split <;>
  · next heq =>
    rw [called, heq]

section Acting

variable {r : State → State → Prop} (hadmits : Admits forced r)

include hadmits

/-- A load is a row of notes and an installation. -/
theorem reaches_load : ReflTransGen r world.state (world.load origin).1.state := by
  have hprepare : ReflTransGen r world.state
      (world.prepare performHeld true origin).1.state :=
    reaches_prepare_held hadmits.noted true
  unfold load
  split
  · next heq =>
    rw [heq] at hprepare
    exact hprepare
  · next middle prepared heq =>
    rw [heq] at hprepare
    exact hprepare.tail (hadmits.installed _ prepared)

/-- An action that spares the subscribers is a row of what the relation admits. -/
theorem reaches_perform (hspares : world.Spares forced action) :
    ReflTransGen r world.state (world.perform action).1.state := by
  cases action with
  | advance millis => rw [state_perform_advance]
  | observe readings => rw [state_perform_observe]
  | cancel => exact .refl
  | drop name => exact .single (hadmits.forgotten _ _)
  | unsubscribe id => exact .single (hadmits.unsubscribed _ id)
  | loadBuiltin name =>
    have hload : ReflTransGen r world.state (world.loadBuiltin name).1.state :=
      reaches_load hadmits
    unfold World.perform
    dsimp only
    split
    · next heq =>
      rw [heq] at hload
      exact hload
    · next heq =>
      rw [heq] at hload
      exact hload
  | unload name =>
    have hunload : (world.perform (.unload name)).1 = world.unloadNamed name := rfl
    rw [hunload]
    unfold unloadNamed
    split
    · exact .refl
    · next id heq =>
      refine .single (hadmits.unloaded _ id ?_)
      rcases hspares with hforced | hfree
      · exact .inl hforced
      · exact .inr (hfree id heq)
  | subscribe name id variable_ arg once => exact .single (hadmits.subscribed _ _)

/-- Actions that spare the subscribers are a row of what the relation admits. -/
theorem reaches_performAll (hspares : SparesAll forced world actions) :
    ReflTransGen r world.state (performAll World.perform world actions).1.state := by
  induction actions generalizing world with
  | nil => exact .refl
  | cons action rest ih =>
    obtain ⟨hfirst, hrest⟩ := hspares
    have hperform : ReflTransGen r world.state (world.perform action).1.state :=
      reaches_perform hadmits hfirst
    unfold performAll
    split
    · next heq =>
      rw [heq] at hperform hrest
      exact hperform.trans (ih hrest)
    · next heq =>
      rw [heq] at hperform
      exact hperform

/-- A call that spares the subscribers is a row of what the relation admits. -/
theorem reaches_call (hspares : world.SparesCall forced callable arg) :
    ReflTransGen r world.state (world.call callable arg).1.state := by
  have hnote : ReflTransGen r world.state (world.called callable arg).state :=
    .single (hadmits.noted _ _)
  rw [call_fst]
  exact hnote.trans (reaches_performAll hadmits hspares)

end Acting

/-- A load is a row of steps of the state. -/
theorem steps_load : Steps forced world.state (world.load origin).1.state := reaches_load .step

/-- Actions that spare the subscribers are a row of steps of the state. -/
theorem steps_performAll (hspares : SparesAll forced world actions) :
    Steps forced world.state (performAll World.perform world actions).1.state :=
  reaches_performAll .step hspares

/-- A call that spares the subscribers is a row of steps of the state. -/
theorem steps_call (hspares : world.SparesCall forced callable arg) :
    Steps forced world.state (world.call callable arg).1.state :=
  reaches_call .step hspares

/-! ## Loading on demand -/

/-- The initialization that a load is in spares the subscribers. -/
def SparesLoad (forced : Bool) (world : World) : LoadPhase → Prop
  | .initializing _ unit => ∀ hook, unit.provider.enrollment.hook = some hook →
      SparesAll forced world hook.actions
  | _ => True

section Acting

variable {r : State → State → Prop} (hadmits : Admits forced r)

include hadmits

/-- To install what a load prepared is a row of what the relation admits. -/
theorem reaches_installFor (name : String) (prepared : Option Prepared) :
    ReflTransGen r world.state (world.installFor name prepared).1.state := by
  cases prepared with
  | none => exact .refl
  | some prepared =>
    have hinstall : ReflTransGen r world.state (world.install prepared).1.state :=
      .single (hadmits.installed _ prepared)
    unfold installFor
    dsimp only
    split <;>
    · next heq =>
      rw [heq] at hinstall
      exact hinstall

end Acting

/-- To install what a load prepared is a row of steps of the state. -/
theorem steps_installFor (name : String) (prepared : Option Prepared) :
    Steps forced world.state (world.installFor name prepared).1.state :=
  reaches_installFor .step name prepared

/-- What one step of a load on demand does, one case for each way out of a phase. -/
inductive LoadStep (request : Request) : World → LoadPhase → World → LoadPhase → Prop where
  | known {world : World} (hknown : world.state.missingOrigin request.name = none) :
      LoadStep request world .asked world .direct
  | missing {world : World} {origin : Origin}
      (hmissing : world.state.missingOrigin request.name = some origin) :
      LoadStep request world .asked world (.queued origin)
  | subscribed {world : World} : LoadStep request world .direct (world.subscribe request).1
      (.done (world.subscribe request).2)
  | waiting {world : World} {origin : Origin} (hclosed : world.state.loading = true) :
      LoadStep request world (.queued origin) world (.queued origin)
  | passed {world : World} {origin : Origin} (hopen : world.state.loading = false) :
      LoadStep request world (.queued origin) (world.setLoading true) (.admitted origin)
  | present {world : World} {origin : Origin}
      (hpresent : world.state.isRegistered request.name = true) :
      LoadStep request world (.admitted origin) world (.joining none)
  | absent {world : World} {origin : Origin}
      (habsent : world.state.isRegistered request.name = false) :
      LoadStep request world (.admitted origin) world (.opening origin)
  | opened {world after : World} {origin : Origin} {unit : ProviderUnit}
      (hopen : world.openOrigin origin = (after, .ok unit)) :
      LoadStep request world (.opening origin) after (.opened origin unit)
  | unopened {world after : World} {origin : Origin} {fault : LoadFault}
      (hopen : world.openOrigin origin = (after, .error fault)) :
      LoadStep request world (.opening origin) (after.setLoading false)
        (.done (.error (subscribeErrorOf request.name fault)))
  | resident {world : World} {origin : Origin} {unit : ProviderUnit}
      (hloaded : world.registry.isLoaded unit.name = true) :
      LoadStep request world (.opened origin unit) world (.joining none)
  | entered {world : World} {origin : Origin} {unit : ProviderUnit}
      (hloaded : world.registry.isLoaded unit.name = false) :
      LoadStep request world (.opened origin unit) (world.enterInit unit)
        (.initializing origin unit)
  | staged {world after : World} {origin : Origin} {unit : ProviderUnit} {prepared : Prepared}
      (hstage : stageInit World.perform origin unit world = (after, .ok prepared)) :
      LoadStep request world (.initializing origin unit) after (.joining (some prepared))
  | failed {world after : World} {origin : Origin} {unit : ProviderUnit} {fault : LoadFault}
      (hstage : stageInit World.perform origin unit world = (after, .error fault)) :
      LoadStep request world (.initializing origin unit) (after.setLoading false)
        (.done (.error (subscribeErrorOf request.name fault)))
  | joined {world after : World} {prepared : Option Prepared}
      (hinstall : world.installFor request.name prepared = (after, .ok ())) :
      LoadStep request world (.joining prepared) ((after.subscribe request).1.setLoading false)
        (.done (after.subscribe request).2)
  | refused {world after : World} {prepared : Option Prepared} {error : SubscriptionError}
      (hinstall : world.installFor request.name prepared = (after, .error error)) :
      LoadStep request world (.joining prepared) (after.setLoading false) (.done (.error error))
  | ended {world : World} {result : Except SubscriptionError SubscriptionId} :
      LoadStep request world (.done result) world (.done result)

/-- A load takes one of these steps. -/
theorem loadStep_stepLoad (world : World) (request : Request) (phase : LoadPhase) :
    LoadStep request world phase (world.stepLoad request phase).1
      (world.stepLoad request phase).2 := by
  unfold stepLoad
  cases phase with
  | asked =>
    dsimp only
    split
    · next hknown => exact .known hknown
    · next hmissing => exact .missing hmissing
  | direct => exact .subscribed
  | queued origin =>
    dsimp only
    split
    · next hclosed => exact .waiting hclosed
    · next hopen => exact .passed (Bool.eq_false_iff.mpr hopen)
  | admitted origin =>
    dsimp only
    split
    · next hpresent => exact .present hpresent
    · next habsent => exact .absent (Bool.eq_false_iff.mpr habsent)
  | opening origin =>
    dsimp only
    split
    · next hopen => exact .unopened hopen
    · next hopen => exact .opened hopen
  | opened origin unit =>
    dsimp only
    split
    · next hloaded => exact .resident hloaded
    · next hloaded => exact .entered (Bool.eq_false_iff.mpr hloaded)
  | initializing origin unit =>
    dsimp only
    split
    · next hstage => exact .failed hstage
    · next hstage => exact .staged hstage
  | joining prepared =>
    dsimp only
    split
    · next hinstall => exact .refused hinstall
    · next hinstall => exact .joined hinstall
  | done result => exact .ended

/-- Whatever a step of a load does to the shared state is in the relation, if that admits what
provider code does, and has the gate in it. -/
theorem LoadStep.reaches {r : State → State → Prop} {after : World} {phase reached : LoadPhase}
    (hstep : LoadStep request world phase after reached) (hadmits : Admits forced r)
    (hgated : ∀ state loading, r state { state with loading := loading })
    (hspares : world.SparesLoad forced phase) : ReflTransGen r world.state after.state := by
  have hstages {origin : Origin} {unit : ProviderUnit}
      (hspares : world.SparesLoad forced (.initializing origin unit)) :
      ReflTransGen r world.state (stageInit World.perform origin unit world).1.state :=
    reaches_stageInit hadmits.noted fun hook hhook =>
      reaches_performAll hadmits (hspares hook hhook)
  have hinstalls (prepared : Option Prepared) :
      ReflTransGen r world.state (world.installFor request.name prepared).1.state :=
    reaches_installFor hadmits request.name prepared
  have hopens (origin : Origin) : ReflTransGen r world.state (world.openOrigin origin).1.state :=
    reaches_openOrigin hadmits.noted
  cases hstep with
  | known | missing | waiting | present | absent | resident | ended => exact .refl
  | subscribed => exact .single (hadmits.subscribed _ request)
  | passed => exact .single (hgated _ true)
  | @opened _ origin _ hopen =>
    have hreaches := hopens origin
    rw [hopen] at hreaches
    exact hreaches
  | @unopened _ origin _ hopen =>
    have hreaches := hopens origin
    rw [hopen] at hreaches
    exact hreaches.tail (hgated _ false)
  | entered => exact .single (hadmits.noted _ _)
  | staged hstage =>
    have hreaches := hstages hspares
    rw [hstage] at hreaches
    exact hreaches
  | failed hstage =>
    have hreaches := hstages hspares
    rw [hstage] at hreaches
    exact hreaches.tail (hgated _ false)
  | @joined _ prepared hinstall =>
    have hreaches := hinstalls prepared
    rw [hinstall] at hreaches
    exact (hreaches.tail (hadmits.subscribed _ request)).tail (hgated _ false)
  | @refused _ prepared _ hinstall =>
    have hreaches := hinstalls prepared
    rw [hinstall] at hreaches
    exact hreaches.tail (hgated _ false)

/-- A step of a load on demand is a row of steps of the state. -/
theorem LoadStep.steps {after : World} {phase reached : LoadPhase}
    (hstep : LoadStep request world phase after reached)
    (hspares : world.SparesLoad forced phase) : Steps forced world.state after.state :=
  hstep.reaches .step (fun _ loading => .gated loading) hspares

/-- Every phase of a load on demand is a sequence of steps. -/
theorem steps_stepLoad {phase : LoadPhase} (hspares : world.SparesLoad forced phase) :
    Steps forced world.state (world.stepLoad request phase).1.state :=
  (world.loadStep_stepLoad request phase).steps hspares

end World

end MetricsDaemon
