import MetricsDaemon.Proofs.Ledger
import MetricsDaemon.Proofs.Traffic

/-!
# Moves of the world

What others may do to the world between two critical sections, one call into the daemon
at a time: connections come and go, modules are loaded and unloaded, and provider code
acts while it runs. Every move is a sequence of steps of the shared state, and a sequence
of deeds with units.
-/

namespace MetricsDaemon

open Relation (ReflTransGen)
open State (Steps Calms)
open Stock (Deeds)

/-- What others may do to the modules at a moment. -/
structure Permit where
  /-- Modules may be loaded. -/
  loads : Bool
  /-- Modules may be unloaded. -/
  unloads : Bool
  /-- A module may be unloaded although somebody holds it. -/
  forces : Bool

namespace World

/-- One move of others. -/
inductive Move (permit : Permit) : World → World → Prop where
  /-- Everything around the shared state changes as it likes. -/
  | around {world : World} (after : World) (hstate : after.state = world.state)
      (hlast : after.lastUnit = world.lastUnit) : Move permit world after
  /-- Clients take lines out of their queues, open new ones and close old ones. -/
  | relayed {world : World} (outboxes : Table OutboxId Outbox) (lastOutbox : Nat) :
      Move permit world
        (world.withState { world.state with outboxes := outboxes, lastOutbox := lastOutbox })
  | provided {world : World} (name : String) (provider : Provider) :
      Move permit world (world.withRegistry (world.registry.registerBuiltin name provider))
  | connected {world : World} (id : ConnectionId) (last capacity : Nat)
      (hfresh : world.state.connections.get? id = none) :
      Move permit world
        (world.withState ({ world.state with lastConnection := last }.reconnect id capacity).1)
  | loaded {world : World} (origin : Origin) (hmay : permit.loads = true) :
      Move permit world (world.load origin).1
  | subscribed {world : World} (request : Request) :
      Move permit world (world.withState (world.state.subscribe request).1)
  | unsubscribed {world : World} (id : SubscriptionId) :
      Move permit world (world.withState (world.state.unsubscribe id).1)
  | forgotten {world : World} (id : ConnectionId) :
      Move permit world (world.withState (world.state.forgetConnection id).1)
  | swept {world : World} (hmay : permit.unloads = true) :
      Move permit world (world.withState world.state.unloadIdle.1)
  | unloaded {world : World} (id : ModuleId) (hmay : permit.unloads = true)
      (hfree : permit.forces = true ∨ world.state.subscriptions.countOn id = 0) :
      Move permit world (world.withRegistry (world.registry.unload id))

/-- Any number of moves. -/
abbrev Moves (permit : Permit) : World → World → Prop := ReflTransGen (Move permit)

variable {permit : Permit} {world after : World} {alone : Bool} {holdings : List Holding}
  {action : Action} {actions : List Action}

/-! ## What moves are -/

/-- On the shared state a move is a sequence of steps. -/
theorem Move.steps (hmove : Move permit world after) :
    Steps permit.forces world.state after.state := by
  cases hmove with
  | around after hstate hlast =>
    rw [hstate]
    exact .refl
  | relayed outboxes lastOutbox => exact .single (.relayed outboxes lastOutbox)
  | provided name provider => exact .single (.provided name provider)
  | connected id last capacity hfresh => exact .single (.connected id last capacity hfresh)
  | loaded origin hmay => exact steps_load
  | subscribed request => exact .single (.subscribed request)
  | unsubscribed id => exact .single (.unsubscribed id)
  | forgotten id => exact .single (.forgotten id)
  | swept hmay => exact .single .swept
  | unloaded id hmay hfree => exact .single (.unloaded id hfree)

/-- Only a load brings a module in. -/
theorem Move.calms (hmove : Move permit world after) (hsound : world.state.Sound true) :
    Calms world.state after.state ∨
      ∃ origin, permit.loads = true ∧ after = (world.load origin).1 := by
  cases hmove with
  | around after hstate hlast =>
    rw [hstate]
    exact .inl .refl
  | relayed outboxes lastOutbox =>
    exact .inl (.single (.step (.relayed outboxes lastOutbox)
      ⟨.of_tables_eq rfl rfl rfl rfl, rfl⟩))
  | provided name provider =>
    exact .inl (.single (.step (.provided name provider) ⟨.of_tables_eq rfl rfl rfl rfl, rfl⟩))
  | connected id last capacity hfresh =>
    exact .inl (.single (.step (.connected id last capacity hfresh)
      ⟨.of_tables_eq rfl rfl rfl rfl, rfl⟩))
  | loaded origin hmay => exact .inr ⟨origin, hmay, rfl⟩
  | subscribed request => exact .inl (.single (hsound.calm_subscribed request))
  | unsubscribed id => exact .inl (.single (State.calm_unsubscribed id))
  | forgotten id => exact .inl (.single (State.calm_forgotten id))
  | swept hmay =>
    exact .inl (.single (.step .swept
      ((State.acted_unloadAll _).recedes fun _ => hsound.booked.modules)))
  | unloaded id hmay hfree => exact .inl (.single (hsound.calm_unloaded id))

/-- On the units a move is a sequence of deeds. -/
theorem Move.deeds (hmove : Move permit world after) (hsound : world.registry.Sound)
    (hnobody : alone = true → permit.loads = true → holdings = []) :
    Deeds alone permit.unloads (world.stock holdings) (after.stock holdings) := by
  cases hmove with
  | around after hstate hlast =>
    rw [stock, stock, registry, registry, hstate, hlast]
  | relayed outboxes lastOutbox => exact .refl
  | provided name provider => exact .single (.acted (.provided name provider))
  | connected id last capacity hfresh => exact .refl
  | loaded origin hmay => exact deeds_load fun h => hnobody h hmay
  | subscribed request =>
    exact (Stock.deeds_of_acts (State.acted_subscribe hsound.directory request).registry).weaken
  | unsubscribed id => exact (Stock.deeds_of_acts State.acted_unsubscribe.registry).weaken
  | forgotten id => exact (Stock.deeds_of_acts State.acted_forgetConnection.registry).weaken
  | swept hmay =>
    rw [hmay]
    exact Stock.deeds_of_acts (State.acted_unloadAll _).registry
  | unloaded id hmay hfree => exact .single (.acted (.unloaded id hmay))

/-- On the shared state moves are a sequence of steps. -/
theorem Moves.steps (hmoves : Moves permit world after) :
    Steps permit.forces world.state after.state := by
  induction hmoves with
  | refl => exact .refl
  | tail _ hmove ih => exact ih.trans hmove.steps

/-- On the units moves are a sequence of deeds. -/
theorem Moves.deeds (hmoves : Moves permit world after)
    (hsound : world.state.Sound permit.forces)
    (hnobody : alone = true → permit.loads = true → holdings = []) :
    Deeds alone permit.unloads (world.stock holdings) (after.stock holdings) := by
  induction hmoves with
  | refl => exact .refl
  | tail hmoves hmove ih =>
    have hmiddle := hsound.steps (Moves.steps hmoves)
    exact ih.trans (hmove.deeds hmiddle.booked.modules hnobody)

/-! ## Provider code -/

/-- The action is among those that others may take. -/
def Permits (permit : Permit) (world : World) : Action → Prop
  | .loadBuiltin _ => permit.loads = true
  | .unload name => ∀ id, world.registry.idOf? name = some id → permit.unloads = true ∧
      (permit.forces = true ∨ world.state.subscriptions.countOn id = 0)
  | _ => True

/-- The actions, taken in order, are all among those that others may take. -/
def PermitsAll (permit : Permit) : World → List Action → Prop
  | _, [] => True
  | world, action :: rest =>
      world.Permits permit action ∧ PermitsAll permit (world.perform action).1 rest

/-- The initialization of a unit does only what others may do. -/
def PermitsInit (permit : Permit) (world : World) (unit : ProviderUnit) : Prop :=
  ∀ hook, unit.provider.enrollment.hook = some hook → PermitsAll permit world hook.actions

/-- An action that others may take is a sequence of moves. -/
theorem moves_perform (hpermits : world.Permits permit action) :
    Moves permit world (world.perform action).1 := by
  cases action with
  | advance millis =>
    refine .single (.around _ (state_perform_advance millis) ?_)
    cases world
    rfl
  | observe readings =>
    refine .single (.around _ (state_perform_observe readings) ?_)
    cases world
    rfl
  | cancel => exact .single (.around _ rfl rfl)
  | drop name => exact .single (.forgotten _)
  | unsubscribe id => exact .single (.unsubscribed id)
  | loadBuiltin name =>
    have hload : (world.perform (.loadBuiltin name)).1 = (world.load (.builtin name)).1 := by
      unfold World.perform
      dsimp only
      split <;>
      · next heq => exact congrArg Prod.fst heq.symm
    rw [hload]
    exact .single (.loaded _ hpermits)
  | unload name =>
    have hunload : (world.perform (.unload name)).1 = world.unloadNamed name := rfl
    rw [hunload]
    unfold unloadNamed
    split
    · exact .refl
    · next id heq =>
      obtain ⟨hmay, hfree⟩ := hpermits id heq
      exact .single (.unloaded id hmay hfree)
  | subscribe name id variable_ arg once => exact .single (.subscribed _)

/-- Actions that others may take are a sequence of moves. -/
theorem moves_performAll (hpermits : PermitsAll permit world actions) :
    Moves permit world (performAll World.perform world actions).1 := by
  induction actions generalizing world with
  | nil => exact .refl
  | cons action rest ih =>
    obtain ⟨hfirst, hrest⟩ := hpermits
    have hperform : Moves permit world (world.perform action).1 := moves_perform hfirst
    unfold performAll
    split
    · next heq =>
      rw [heq] at hperform hrest
      exact hperform.trans (ih hrest)
    · next heq =>
      rw [heq] at hperform
      exact hperform

end World

/-! ## Loads on demand -/

/-- What a load on demand holds. A load holds nothing before it passed the gate. -/
def LoadPhase.held : LoadPhase → List Holding
  | .opened _ unit => [.opened unit]
  | .initializing _ unit => [.initializing unit]
  | .joining (some prepared) => [.prepared prepared]
  | _ => []

/-- A load that has not passed the gate holds no unit. -/
theorem LoadPhase.held_of_ungated {phase : LoadPhase} (hungated : phase.holdsGate = false) :
    phase.held = [] := by
  cases phase with
  | asked | direct | queued | done => rfl
  | _ => cases hungated

namespace World

variable {permit : Permit} {world after : World} {alone : Bool} {holdings : List Holding}
  {request : Request} {phase reached : LoadPhase} {actions : List Action}

/-- The initialization that a load is in does only what others may do. -/
def PermitsLoad (permit : Permit) (world : World) : LoadPhase → Prop
  | .initializing _ unit => world.PermitsInit permit unit
  | _ => True

/-- Who may load no module is calm. -/
theorem PermitsAll.calm (hpermits : PermitsAll permit world actions)
    (hloads : permit.loads = false) : ∀ action ∈ actions, action.isCalm = true := by
  induction actions generalizing world with
  | nil => simp
  | cons first rest ih =>
    intro action hmem
    rcases List.mem_cons.mp hmem with rfl | hmem
    · cases action with
      | loadBuiltin name => exact absurd hpermits.1 (by simp [Permits, hloads])
      | _ => rfl
    · exact ih hpermits.2 action hmem

/-- Where nobody else may load, the initialization that a load is in is calm. -/
theorem PermitsLoad.calm (hpermits : world.PermitsLoad permit phase)
    (hloads : phase.holdsGate = true → permit.loads = false) : phase.IsCalm := by
  cases phase with
  | initializing origin unit => exact fun hook hhook => (hpermits hook hhook).calm (hloads rfl)
  | _ => trivial

/-- Whoever initializes a unit holds it meanwhile. If initializations are to be alone, no other
module may be loaded until it is over. -/
theorem PermitsInit.deeds {unit : ProviderUnit} {hook : Hook}
    (hpermits : world.PermitsInit permit unit) (hsound : world.state.Sound permit.forces)
    (halone : alone = true → permit.loads = false)
    (hhook : unit.provider.enrollment.hook = some hook) :
    Deeds alone permit.unloads (world.stock (.initializing unit :: holdings))
      ((performAll perform world hook.actions).1.stock (.initializing unit :: holdings)) := by
  refine (moves_performAll (hpermits hook hhook)).deeds hsound fun h hloads => ?_
  rw [halone h] at hloads
  cases hloads

/-- Making a subscription is a sequence of deeds that leave alone what is held. -/
theorem deeds_subscribe (hsound : world.registry.Sound) :
    Deeds alone permit.unloads (world.stock holdings)
      ((world.subscribe request).1.stock holdings) :=
  (Stock.deeds_of_acts (State.acted_subscribe hsound.directory request).registry).weaken

/-- Installing what a load holds, if it holds anything, leaves nothing to be held. -/
theorem deeds_installFor (name : String) (prepared : Option Prepared) :
    Deeds alone permit.unloads (world.stock ((LoadPhase.joining prepared).held ++ holdings))
      ((world.installFor name prepared).1.stock holdings) := by
  cases prepared with
  | none => exact .refl
  | some prepared =>
    rw [installFor_fst]
    exact .single (.installed prepared)

/-- Each step of a load is a sequence of deeds with what it holds. If initializations are to be
alone, nobody else holds a unit while the load has passed the gate. -/
theorem LoadStep.deeds (hstep : LoadStep request world phase after reached)
    (hsound : world.state.Sound permit.forces) (hpermits : world.PermitsLoad permit phase)
    (halone : alone = true → phase.holdsGate = true →
      permit.loads = false ∧ holdings = []) :
    Deeds alone permit.unloads (world.stock (phase.held ++ holdings))
      (after.stock (reached.held ++ holdings)) := by
  have hregistry := hsound.booked.modules
  cases hstep with
  | known | missing | waiting | passed | present | absent | ended => exact .refl
  | subscribed => exact deeds_subscribe hregistry
  | opened hopen => exact deeds_openOrigin hopen
  | @unopened after origin fault hopen =>
    have hdeeds : Deeds alone permit.unloads (world.stock holdings) (after.stock holdings) :=
      deeds_openOrigin_error hopen
    exact hdeeds
  | resident hloaded => exact .single (.dropped fun _ h => by cases h)
  | entered hloaded => exact deeds_enterInit fun h => ⟨hloaded, (halone h rfl).2⟩
  | @staged after origin unit prepared hstage | @failed after origin unit fault hstage =>
    have hdeeds : Deeds alone permit.unloads (world.stock (.initializing unit :: holdings))
        ((stageInit World.perform origin unit world).1.stock
          (heldOf (stageInit World.perform origin unit world).2 ++ holdings)) :=
      deeds_stageInit fun hook => PermitsInit.deeds hpermits hsound fun h => (halone h rfl).1
    rw [hstage] at hdeeds
    exact hdeeds
  | @joined after prepared hinstall =>
    have hinstalls : Deeds alone permit.unloads
        (world.stock ((LoadPhase.joining prepared).held ++ holdings))
        ((world.installFor request.name prepared).1.stock holdings) :=
      deeds_installFor request.name prepared
    have hsteps : (world.installFor request.name prepared).1.state.Sound permit.forces :=
      hsound.steps (steps_installFor request.name prepared)
    rw [hinstall] at hinstalls hsteps
    exact hinstalls.trans (deeds_subscribe hsteps.booked.modules)
  | @refused after prepared error hinstall =>
    have hinstalls : Deeds alone permit.unloads
        (world.stock ((LoadPhase.joining prepared).held ++ holdings))
        ((world.installFor request.name prepared).1.stock holdings) :=
      deeds_installFor request.name prepared
    rw [hinstall] at hinstalls
    exact hinstalls

end World

end MetricsDaemon
