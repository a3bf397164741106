import MetricsDaemon.Proofs.Receding
import MetricsDaemon.Proofs.Staging

/-!
# Loads on demand in traffic

Any number of subscriptions on demand are under way on one world, each in its own phase,
and between any two of their steps connections go, ticks are planned and applied, and
idle modules leave. The gate lets one of them load at a time, so what the one that
passed has checked stays true until it installs its module.
-/

namespace MetricsDaemon

open State (Calm Calms)

/-! ## Calm provider code -/

/-- Whether an action brings no module in. -/
def Action.isCalm : Action → Bool
  | .loadBuiltin _ => false
  | _ => true

/-- A load whose unit is being initialized by code that brings no other module in. -/
def LoadPhase.IsCalm : LoadPhase → Prop
  | .initializing _ unit => ∀ hook, unit.provider.enrollment.hook = some hook →
      ∀ action ∈ hook.actions, action.isCalm = true
  | _ => True

namespace World

variable {world after : World} {request : Request} {phase reached : LoadPhase} {origin : Origin}

/-- A calm action makes calm steps. -/
theorem calms_perform {action : Action} (hsound : world.state.Sound true)
    (hcalm : action.isCalm = true) : Calms world.state (world.perform action).1.state := by
  cases action with
  | advance millis =>
    rw [state_perform_advance]
  | observe readings =>
    rw [state_perform_observe]
  | cancel => exact .refl
  | drop name => exact .single (State.calm_forgotten _)
  | unsubscribe id => exact .single (State.calm_unsubscribed id)
  | loadBuiltin name => cases hcalm
  | unload name =>
    have hunload : (world.perform (.unload name)).1 = world.unloadNamed name := rfl
    rw [hunload]
    unfold unloadNamed
    split
    · exact .refl
    · next id heq => exact .single (hsound.calm_unloaded id)
  | subscribe name id variable_ arg once => exact .single (hsound.calm_subscribed _)

/-- Calm actions make calm steps. -/
theorem calms_performAll {actions : List Action} (hsound : world.state.Sound true)
    (hcalm : ∀ action ∈ actions, action.isCalm = true) :
    Calms world.state (performAll World.perform world actions).1.state := by
  induction actions generalizing world with
  | nil => exact .refl
  | cons action rest ih =>
    have hperform : Calms world.state (world.perform action).1.state :=
      calms_perform hsound (hcalm action List.mem_cons_self)
    have hafter := (hsound.calms hperform).1
    have hrest : ∀ action ∈ rest, action.isCalm = true :=
      fun other hmem => hcalm other (List.mem_cons_of_mem _ hmem)
    unfold performAll
    split
    · next heq =>
      rw [heq] at hperform hafter
      exact hperform.trans (ih hafter hrest)
    · next heq =>
      rw [heq] at hperform
      exact hperform

/-- To open a module makes calm steps. -/
theorem calms_openOrigin (world : World) (origin : Origin) :
    Calms world.state (world.openOrigin origin).1.state :=
  reaches_openOrigin State.calm_noted

/-- To run the initialization of a calm load makes calm steps. -/
theorem calms_stageInit {unit : ProviderUnit} (hsound : world.state.Sound true)
    (hcalm : (LoadPhase.initializing origin unit).IsCalm) :
    Calms world.state (stageInit World.perform origin unit world).1.state :=
  reaches_stageInit State.calm_noted fun hook hhook =>
    calms_performAll hsound (hcalm hook hhook)

/-! ## One step of a load -/

/-- Only an installation brings a module in. -/
theorem LoadStep.recedes (hstep : LoadStep request world phase after reached)
    (hsound : world.state.Sound true) (hcalm : phase.IsCalm)
    (hnot : ∀ prepared, phase ≠ .joining (some prepared)) :
    world.registry.Recedes after.registry := by
  have hdirectory := hsound.booked.modules.directory
  cases hstep with
  | known | missing | waiting | passed | present | absent | resident | ended => exact .refl _
  | subscribed => exact (State.recedes_subscribe hdirectory request).registry
  | @opened _ origin _ hopen | @unopened _ origin _ hopen =>
    have hcalms := (hsound.calms (calms_openOrigin world origin)).2.registry
    rw [hopen] at hcalms
    exact hcalms
  | entered => exact .of_tables_eq rfl rfl rfl rfl
  | staged hstage | failed hstage =>
    have hcalms := (hsound.calms (calms_stageInit hsound hcalm)).2.registry
    rw [hstage] at hcalms
    exact hcalms
  | @joined _ prepared hinstall =>
    cases prepared with
    | some prepared => exact absurd rfl (hnot prepared)
    | none =>
      cases hinstall
      exact (State.recedes_subscribe hdirectory request).registry
  | @refused _ prepared error hinstall =>
    cases prepared with
    | some prepared => exact absurd rfl (hnot prepared)
    | none => cases hinstall

/-- How the gate and the phase of a load go together in one step: both stay as they are, or the load
passes the open gate, or it leaves the gate open. -/
theorem LoadStep.gate (hstep : LoadStep request world phase after reached)
    (hsound : world.state.Sound true) (hcalm : phase.IsCalm) :
    (reached.holdsGate = phase.holdsGate ∧ after.state.loading = world.state.loading) ∨
    (world.state.loading = false ∧ reached.holdsGate = true ∧ after.state.loading = true) ∨
    (phase.holdsGate = true ∧ reached.holdsGate = false ∧ after.state.loading = false) := by
  have hdirectory := hsound.booked.modules.directory
  cases hstep with
  | known | missing | waiting | present | absent | resident | entered | ended =>
    exact .inl ⟨rfl, rfl⟩
  | subscribed => exact .inl ⟨rfl, (State.recedes_subscribe hdirectory request).loading⟩
  | passed hopen => exact .inr (.inl ⟨hopen, rfl, rfl⟩)
  | @opened _ origin _ hopen =>
    have hcalms := (hsound.calms (calms_openOrigin world origin)).2.loading
    rw [hopen] at hcalms
    exact .inl ⟨rfl, hcalms⟩
  | staged hstage =>
    have hcalms := (hsound.calms (calms_stageInit hsound hcalm)).2.loading
    rw [hstage] at hcalms
    exact .inl ⟨rfl, hcalms⟩
  | unopened | failed | joined | refused => exact .inr (.inr ⟨rfl, rfl, rfl⟩)

end World

/-! ## What a load has found out -/

/-- What a load can still rely on in its phase. The name is mentioned by the layout if it was
catalogued; from the check behind the gate on it is free, and so is the name of the module once that
was checked as well. -/
def Registry.Awaits (registry : Registry) (name : String) : LoadPhase → Prop
  | .queued _ | .admitted _ => registry.layout.mentions name = true
  | .opening _ | .opened _ _ =>
      registry.layout.mentions name = true ∧ registry.directory.idOf? name = none
  | .initializing _ unit =>
      registry.layout.mentions name = true ∧ registry.directory.idOf? name = none ∧
        registry.isLoaded unit.name = false
  | .joining (some prepared) =>
      registry.directory.idOf? name = none ∧ registry.isLoaded prepared.unit.name = false ∧
        prepared.offers.find? (Offer.isOf name) = prepared.unit.provider.offerOf? name ∧
        ∀ offer ∈ prepared.offers,
          offer.type.cron = true ∨ registry.layout.mentions offer.name = true
  | _ => True

/-- Everything that is catalogued is mentioned by the layout. -/
def Registry.Mentioned (registry : Registry) : Prop :=
  ∀ name origin, registry.originOf name = some origin → registry.layout.mentions name = true

namespace Registry

variable {registry before after : Registry} {name : String} {phase : LoadPhase}

/-- Where nothing new comes a free name stays free. -/
theorem Recedes.idOf?_eq_none (hrecedes : before.Recedes after) (hbefore : before.Sound)
    (hafter : after.Sound) (hfree : before.directory.idOf? name = none) :
    after.directory.idOf? name = none := by
  cases hname : after.directory.idOf? name with
  | none => rfl
  | some id =>
    have hsome := hrecedes.isSome_idOf? hbefore hafter (by rw [hname]; rfl)
    rw [hfree] at hsome
    cases hsome

/-- Where nothing new comes a module that is not loaded stays so. -/
theorem Recedes.isLoaded_eq_false (hrecedes : before.Recedes after) (hbefore : before.Sound)
    (hafter : after.Sound) (hfree : before.isLoaded name = false) :
    after.isLoaded name = false := by
  cases hloaded : after.isLoaded name with
  | false => rfl
  | true =>
    rw [hrecedes.isLoaded hbefore hafter hloaded] at hfree
    cases hfree

/-- What a load relies on stays true as long as no module comes in. -/
theorem Recedes.awaits (hrecedes : before.Recedes after) (hbefore : before.Sound)
    (hafter : after.Sound) (hawaits : before.Awaits name phase) : after.Awaits name phase := by
  have hfree (hnone : before.directory.idOf? name = none) :=
    hrecedes.idOf?_eq_none hbefore hafter hnone
  cases phase with
  | queued origin | admitted origin =>
    simpa only [Awaits, hrecedes.layout] using hawaits
  | opening origin | opened origin unit =>
    exact ⟨by rw [hrecedes.layout]; exact hawaits.1, hfree hawaits.2⟩
  | initializing origin unit =>
    exact ⟨by rw [hrecedes.layout]; exact hawaits.1, hfree hawaits.2.1,
      hrecedes.isLoaded_eq_false hbefore hafter hawaits.2.2⟩
  | joining prepared =>
    cases prepared with
    | none => trivial
    | some prepared =>
      obtain ⟨hnone, hloaded, hstaged, hworth⟩ := hawaits
      exact ⟨hfree hnone, hrecedes.isLoaded_eq_false hbefore hafter hloaded, hstaged,
        by rwa [hrecedes.layout]⟩
  | asked | direct | done => trivial

/-- Before the gate a load relies on nothing but the layout. -/
theorem awaits_of_mentions_eq (hgate : phase.holdsGate = false)
    (hmentions : after.layout.mentions name = before.layout.mentions name)
    (hawaits : before.Awaits name phase) : after.Awaits name phase := by
  cases phase with
  | queued origin => exact hmentions.trans hawaits
  | asked | direct | done => trivial
  | _ => cases hgate

/-- Where nothing new comes the layout still mentions every variable that is shown. -/
theorem Recedes.mentioned (hrecedes : before.Recedes after) (hmentioned : before.Mentioned) :
    after.Mentioned := by
  intro name origin horigin
  rw [originOf, hrecedes.catalog] at horigin
  rw [hrecedes.layout]
  exact hmentioned name origin horigin

/-- Staged offers catalogue only what the layout mentions. -/
theorem mentioned_install {prepared : Prepared} (hmentioned : registry.Mentioned)
    (hworth : ∀ offer ∈ prepared.offers,
      offer.type.cron = true ∨ registry.layout.mentions offer.name = true) :
    (registry.install prepared).1.Mentioned := by
  intro name origin horigin
  rw [mentions_install]
  rcases originOf_install horigin with hold | ⟨offer, hmem, rfl, hshown⟩
  · exact hmentioned name origin hold
  · rcases hworth offer hmem with hcron | hmentions
    · rw [hshown] at hcron
      cases hcron
    · exact hmentions

end Registry

namespace World

variable {world after : World} {request : Request} {phase reached : LoadPhase} {origin : Origin}

/-- A step of a load keeps the state in order. -/
theorem sound_stepLoad (hsound : world.state.Sound true) :
    (world.stepLoad request phase).1.state.Sound true := by
  refine hsound.steps (steps_stepLoad ?_)
  cases phase with
  | initializing origin unit => exact fun hook _ => sparesAll_of_forced world hook.actions
  | _ => trivial

/-- A step of a load finds out what its next phase relies on. -/
theorem LoadStep.awaits (hstep : LoadStep request world phase after reached)
    (hsound : world.state.Sound true) (hcalm : phase.IsCalm)
    (hmentioned : world.registry.Mentioned) (hawaits : world.registry.Awaits request.name phase) :
    after.registry.Awaits request.name reached := by
  cases hstep with
  | known | subscribed | present | unopened | resident | failed | joined | refused | ended =>
    trivial
  | missing hmissing =>
    unfold State.missingOrigin at hmissing
    split at hmissing
    · cases hmissing
    · exact hmentioned request.name _ hmissing
  | waiting => exact hawaits
  | passed => exact hawaits
  | absent habsent =>
    rw [State.isRegistered, Option.isSome_eq_false_iff, Option.isNone_iff_eq_none] at habsent
    exact ⟨hawaits, habsent⟩
  | @opened _ origin _ hopen =>
    have hcalms := hsound.calms (calms_openOrigin world origin)
    rw [hopen] at hcalms
    have hkept : world.registry.Awaits request.name (.opening origin) := hawaits
    exact hcalms.2.registry.awaits hsound.booked.modules hcalms.1.booked.modules hkept
  | entered hloaded => exact ⟨hawaits.1, hawaits.2, hloaded⟩
  | @staged after origin unit prepared hstage =>
    have hcalms := hsound.calms (calms_stageInit hsound hcalm)
    rw [hstage] at hcalms
    obtain ⟨_, hfree, hloaded⟩ :=
      hcalms.2.registry.awaits hsound.booked.modules hcalms.1.booked.modules hawaits
    have hlayout : after.registry.layout = world.registry.layout := hcalms.2.registry.layout
    rw [prepared_of_stageInit hstage]
    refine ⟨hfree, hloaded, Layout.find?_staged hawaits.1, ?_⟩
    intro offer hmem
    rw [hlayout]
    exact Layout.worth_of_mem_staged hmem

/-- To install what was prepared for a name is to install it. -/
theorem installFor_fst (name : String) (prepared : Prepared) :
    (world.installFor name (some prepared)).1 = (world.install prepared).1 := by
  unfold installFor
  dsimp only
  split <;>
  · next heq => rw [heq]

/-- After the module was installed nothing else comes in. -/
theorem LoadStep.recedes_joining {prepared : Prepared}
    (hstep : LoadStep request world (.joining (some prepared)) after reached)
    (hsound : world.state.Sound true) :
    (world.install prepared).1.registry.Recedes after.registry := by
  have hinstalled : (world.install prepared).1.state.Sound true := hsound.install prepared
  have hfirst := world.installFor_fst request.name prepared
  cases hstep with
  | joined hinstall =>
    rw [hinstall] at hfirst
    rw [← hfirst] at hinstalled ⊢
    exact (State.recedes_subscribe hinstalled.booked.modules.directory request).registry
  | refused hinstall =>
    rw [hinstall] at hfirst
    rw [← hfirst]
    exact .of_tables_eq rfl rfl rfl rfl

/-- A step of a load keeps what is catalogued mentioned, and what the layout mentions. -/
theorem LoadStep.mentioned (hstep : LoadStep request world phase after reached)
    (hsound : world.state.Sound true) (hcalm : phase.IsCalm)
    (hmentioned : world.registry.Mentioned) (hawaits : world.registry.Awaits request.name phase) :
    after.registry.Mentioned ∧ ∀ name,
      after.registry.layout.mentions name = world.registry.layout.mentions name := by
  by_cases hjoining : ∃ prepared, phase = .joining (some prepared)
  · obtain ⟨prepared, rfl⟩ := hjoining
    have hrecedes := hstep.recedes_joining hsound
    have hinstalled : (world.install prepared).1.registry.Mentioned :=
      Registry.mentioned_install hmentioned hawaits.2.2.2
    refine ⟨hrecedes.mentioned hinstalled, fun name => ?_⟩
    rw [hrecedes.layout]
    exact Registry.mentions_install
  · have hrecedes := hstep.recedes hsound hcalm fun prepared heq => hjoining ⟨prepared, heq⟩
    refine ⟨hrecedes.mentioned hmentioned, fun name => ?_⟩
    rw [hrecedes.layout]

/-- What is prepared runs on every tick or is mentioned by the layout. -/
theorem worth_of_prepare {perform : Performer} {checked : Bool} {prepared : Prepared}
    (hsound : world.state.Sound true)
    (hprepare : world.prepare perform checked origin = (after, .ok prepared)) :
    ∀ offer ∈ prepared.offers,
      offer.type.cron = true ∨ world.registry.layout.mentions offer.name = true := by
  have hopen := (hsound.calms (calms_openOrigin world origin)).2.registry.layout
  unfold prepare at hprepare
  split at hprepare
  · cases hprepare
  · next middle unit heq =>
    rw [heq] at hopen
    split at hprepare
    · cases hprepare
    · rw [prepared_of_stageInit hprepare]
      intro offer hmem
      have hlayout : (middle.enterInit unit).registry.layout = world.registry.layout := hopen
      rw [hlayout] at hmem
      exact Layout.worth_of_mem_staged hmem

/-- Loading a module catalogues only what the layout mentions, and leaves the gate alone. -/
theorem mentioned_load (hsound : world.state.Sound true) (hmentioned : world.registry.Mentioned)
    (origin : Origin) :
    (world.load origin).1.state.Sound true ∧ (world.load origin).1.registry.Mentioned ∧
      (∀ name, (world.load origin).1.registry.layout.mentions name =
        world.registry.layout.mentions name) ∧
      (world.load origin).1.state.loading = world.state.loading := by
  have hprepare : Calms world.state (world.prepare performHeld true origin).1.state :=
    reaches_prepare_held State.calm_noted true
  obtain ⟨hprepared, hrecedes⟩ := hsound.calms hprepare
  have hkept : (world.prepare performHeld true origin).1.registry.Mentioned :=
    hrecedes.registry.mentioned hmentioned
  have hlayout : (world.prepare performHeld true origin).1.registry.layout =
      world.registry.layout := hrecedes.registry.layout
  refine ⟨hsound.steps steps_load, ?_⟩
  unfold load
  split
  · next heq =>
    rw [heq] at hkept hlayout hrecedes
    exact ⟨hkept, fun name => by rw [hlayout], hrecedes.loading⟩
  · next middle prepared heq =>
    have hworth := worth_of_prepare hsound heq
    rw [heq] at hkept hlayout hrecedes
    refine ⟨Registry.mentioned_install hkept ?_, fun name => ?_, hrecedes.loading⟩
    · intro offer hmem
      rw [hlayout]
      exact hworth offer hmem
    · rw [← hlayout]
      exact Registry.mentions_install

end World

/-! ## The system -/

/-- A world on which subscriptions on demand are under way. -/
structure Traffic where
  world : World
  /-- The requests in the order in which they were made, with how far each has come. -/
  calls : List (Request × LoadPhase)

namespace Traffic

/-- The traffic after one of the loads took its next step. -/
def proceed (traffic : Traffic) (slot : Nat) (request : Request) (phase : LoadPhase) : Traffic :=
  { world := (traffic.world.stepLoad request phase).1
    calls := traffic.calls.set slot (request, (traffic.world.stepLoad request phase).2) }

/-- One step of the traffic. -/
inductive Step : Traffic → Traffic → Prop where
  /-- Connections come and go, ticks are planned and applied, idle modules leave, and everything
  around the state changes as it likes. -/
  | outside {traffic : Traffic} (after : World)
      (hcalms : Calms traffic.world.state after.state) :
      Step traffic { traffic with world := after }
  /-- A module is loaded while no load on demand is in progress. -/
  | load {traffic : Traffic} (origin : Origin)
      (hidle : ∀ call ∈ traffic.calls, call.2.holdsGate = false) :
      Step traffic { traffic with world := (traffic.world.load origin).1 }
  | ask {traffic : Traffic} (request : Request) :
      Step traffic { traffic with calls := traffic.calls ++ [(request, LoadPhase.asked)] }
  | proceed {traffic : Traffic} {slot : Nat} {request : Request} {phase : LoadPhase}
      (hcall : traffic.calls[slot]? = some (request, phase)) (hcalm : phase.IsCalm) :
      Step traffic (traffic.proceed slot request phase)

/-- Any number of steps. -/
abbrev Steps : Traffic → Traffic → Prop := Relation.ReflTransGen Step

/-- Where traffic can come from a daemon without modules and connections. -/
inductive Reachable : Traffic → Prop where
  | start (world : World) (layout : Layout) (settings : Settings)
      (hstate : world.state = .new (.new layout settings)) : Reachable ⟨world, []⟩
  | step {traffic after : Traffic} (hreach : Reachable traffic) (hstep : Step traffic after) :
      Reachable after

/-- What can be reached can be left by any number of steps. -/
theorem Reachable.steps {traffic after : Traffic} (hreach : Reachable traffic)
    (hsteps : Steps traffic after) : Reachable after := by
  induction hsteps with
  | refl => exact hreach
  | tail _ hstep ih => exact ih.step hstep

/-- The load in a slot has passed the gate and not left it. -/
def Holds (traffic : Traffic) (slot : Nat) : Prop :=
  ∃ request phase, traffic.calls[slot]? = some (request, phase) ∧ phase.holdsGate = true

/-- The gate is closed exactly while one load holds it. -/
structure Gated (traffic : Traffic) : Prop where
  closed : ∀ {slot}, traffic.Holds slot → traffic.world.state.loading = true
  alone : ∀ {slot other}, traffic.Holds slot → traffic.Holds other → slot = other
  held : traffic.world.state.loading = true → ∃ slot, traffic.Holds slot

/-- The gate lets one load through at a time, and every load can rely on what it found out. -/
structure Sound (traffic : Traffic) : Prop where
  state : traffic.world.state.Sound true
  mentioned : traffic.world.registry.Mentioned
  gated : traffic.Gated
  awaits : ∀ {slot : Nat} {request : Request} {phase : LoadPhase},
    traffic.calls[slot]? = some (request, phase) →
    traffic.world.registry.Awaits request.name phase

variable {traffic after : Traffic} {slot other : Nat} {request : Request} {phase : LoadPhase}
  {origin : Origin}

/-- A load holds the gate exactly if its phase does. -/
theorem holds_iff (hcall : traffic.calls[slot]? = some (request, phase)) :
    traffic.Holds slot ↔ phase.holdsGate = true := by
  constructor
  · rintro ⟨found, foundPhase, hfound, hholds⟩
    rw [hcall] at hfound
    cases hfound
    exact hholds
  · exact fun hholds => ⟨request, phase, hcall, hholds⟩

/-! ## Steps of others -/

/-- Nothing about the gate changes when the world changes and the gate does not. -/
theorem Gated.of_loading_eq {world : World} (hgated : traffic.Gated)
    (hloading : world.state.loading = traffic.world.state.loading) :
    { traffic with world := world }.Gated where
  closed hholds := hloading.trans (hgated.closed hholds)
  alone hholds hother := hgated.alone hholds hother
  held hclosed := hgated.held (hloading.symm.trans hclosed)

/-- Calm steps of others keep the traffic in order. -/
theorem Sound.outside {world : World} (hsound : traffic.Sound)
    (hcalms : Calms traffic.world.state world.state) : { traffic with world := world }.Sound := by
  obtain ⟨hstate, hrecedes⟩ := hsound.state.calms hcalms
  refine ⟨hstate, hrecedes.registry.mentioned hsound.mentioned,
    hsound.gated.of_loading_eq hrecedes.loading, ?_⟩
  intro slot request phase hcall
  exact hrecedes.registry.awaits hsound.state.booked.modules hstate.booked.modules
    (hsound.awaits hcall)

/-- A request that was just made holds nothing and relies on nothing. -/
theorem Sound.ask (hsound : traffic.Sound) (request : Request) :
    { traffic with calls := traffic.calls ++ [(request, LoadPhase.asked)] }.Sound := by
  have hcases {slot : Nat} {made : Request} {phase : LoadPhase}
      (hcall : (traffic.calls ++ [(request, LoadPhase.asked)])[slot]? = some (made, phase)) :
      traffic.calls[slot]? = some (made, phase) ∨ phase = .asked := by
    rw [List.getElem?_append] at hcall
    split at hcall
    · exact .inl hcall
    · have hlast := List.mem_singleton.mp (List.mem_of_getElem? hcall)
      exact .inr (congrArg Prod.snd hlast)
  have hholds {slot : Nat} :
      { traffic with calls := traffic.calls ++ [(request, LoadPhase.asked)] }.Holds slot ↔
        traffic.Holds slot := by
    constructor
    · rintro ⟨made, phase, hcall, hholds⟩
      rcases hcases hcall with hold | rfl
      · exact ⟨made, phase, hold, hholds⟩
      · cases hholds
    · rintro ⟨made, phase, hcall, hholds⟩
      obtain ⟨hlt, _⟩ := List.getElem?_eq_some_iff.mp hcall
      exact ⟨made, phase, by rw [List.getElem?_append_left hlt, hcall], hholds⟩
  refine ⟨hsound.state, hsound.mentioned, ⟨?_, ?_, ?_⟩, ?_⟩
  · intro slot h
    exact hsound.gated.closed (hholds.mp h)
  · intro slot other h hother
    exact hsound.gated.alone (hholds.mp h) (hholds.mp hother)
  · intro hclosed
    obtain ⟨slot, h⟩ := hsound.gated.held hclosed
    exact ⟨slot, hholds.mpr h⟩
  · intro slot made phase hcall
    rcases hcases hcall with hold | rfl
    · exact hsound.awaits hold
    · trivial

/-- Loading a module catalogues only what the layout mentions, and leaves the gate alone. -/
theorem Sound.load (hsound : traffic.Sound)
    (hidle : ∀ call ∈ traffic.calls, call.2.holdsGate = false) :
    { traffic with world := (traffic.world.load origin).1 }.Sound := by
  obtain ⟨hstate, hmentioned, hmentions, hloading⟩ :=
    World.mentioned_load hsound.state hsound.mentioned origin
  refine ⟨hstate, hmentioned, hsound.gated.of_loading_eq hloading, ?_⟩
  intro slot request phase hcall
  have hgate : phase.holdsGate = false := hidle _ (List.mem_of_getElem? hcall)
  exact Registry.awaits_of_mentions_eq hgate (hmentions request.name) (hsound.awaits hcall)

/-! ## Steps of a load -/

/-- The gate stays closed exactly while one load holds it, when a load proceeds. Either the gate was
open and nobody else holds it, or the load that leaves was the only one, or the one that holds it
goes on. -/
theorem Gated.proceed (hgated : traffic.Gated) (hstate : traffic.world.state.Sound true)
    (hcall : traffic.calls[slot]? = some (request, phase)) (hcalm : phase.IsCalm) :
    (traffic.proceed slot request phase).Gated := by
  obtain ⟨hlt, _⟩ := List.getElem?_eq_some_iff.mp hcall
  have hself : (traffic.proceed slot request phase).calls[slot]? =
      some (request, (traffic.world.stepLoad request phase).2) := by
    rw [Traffic.proceed, List.getElem?_set_self hlt]
  have hothers {other : Nat} (hne : slot ≠ other) :
      (traffic.proceed slot request phase).Holds other ↔ traffic.Holds other := by
    rw [Holds, Holds, Traffic.proceed, List.getElem?_set_ne hne]
  have hloading : (traffic.proceed slot request phase).world.state.loading =
      (traffic.world.stepLoad request phase).1.state.loading := rfl
  rcases (traffic.world.loadStep_stepLoad request phase).gate hstate hcalm with
    ⟨hsame, hload⟩ | ⟨hopen, hholds, hload⟩ | ⟨hheld, hleft, hload⟩
  · have hiff {other : Nat} : (traffic.proceed slot request phase).Holds other ↔
        traffic.Holds other := by
      by_cases hne : slot = other
      · subst hne
        rw [holds_iff hself, holds_iff hcall, hsame]
      · exact hothers hne
    refine ⟨fun h => ?_, fun h hother => hgated.alone (hiff.mp h) (hiff.mp hother), fun h => ?_⟩
    · rw [hloading, hload]
      exact hgated.closed (hiff.mp h)
    · rw [hloading, hload] at h
      obtain ⟨other, hother⟩ := hgated.held h
      exact ⟨other, hiff.mpr hother⟩
  · have honly {other : Nat} (h : (traffic.proceed slot request phase).Holds other) :
        slot = other := by
      by_contra hne
      rw [hgated.closed ((hothers hne).mp h)] at hopen
      cases hopen
    exact ⟨fun _ => hload, fun h hother => (honly h).symm.trans (honly hother),
      fun _ => ⟨slot, (holds_iff hself).mpr hholds⟩⟩
  · have hnone {other : Nat} (h : (traffic.proceed slot request phase).Holds other) : False := by
      by_cases hne : slot = other
      · subst hne
        rw [holds_iff hself, hleft] at h
        cases h
      · exact hne (hgated.alone ((holds_iff hcall).mpr hheld) ((hothers hne).mp h))
    refine ⟨fun h => (hnone h).elim, fun h => (hnone h).elim, fun h => ?_⟩
    rw [hloading, hload] at h
    cases h

/-- The traffic stays in order when a calm load proceeds. -/
theorem Sound.proceed (hsound : traffic.Sound)
    (hcall : traffic.calls[slot]? = some (request, phase)) (hcalm : phase.IsCalm) :
    (traffic.proceed slot request phase).Sound := by
  obtain ⟨hlt, _⟩ := List.getElem?_eq_some_iff.mp hcall
  have hawaits := hsound.awaits hcall
  have hstep := traffic.world.loadStep_stepLoad request phase
  have hstate : (traffic.world.stepLoad request phase).1.state.Sound true :=
    World.sound_stepLoad hsound.state
  obtain ⟨hmentioned, hmentions⟩ := hstep.mentioned hsound.state hcalm hsound.mentioned hawaits
  refine ⟨hstate, hmentioned, hsound.gated.proceed hsound.state hcall hcalm, ?_⟩
  intro other made rival hrival
  rw [Traffic.proceed] at hrival
  by_cases hne : slot = other
  · subst hne
    rw [List.getElem?_set_self hlt] at hrival
    cases hrival
    exact hstep.awaits hsound.state hcalm hsound.mentioned hawaits
  · rw [List.getElem?_set_ne hne] at hrival
    by_cases hjoining : ∃ prepared, phase = .joining (some prepared)
    · obtain ⟨prepared, rfl⟩ := hjoining
      refine Registry.awaits_of_mentions_eq ?_ (hmentions made.name) (hsound.awaits hrival)
      cases hgate : rival.holdsGate with
      | false => rfl
      | true =>
        have hself : traffic.Holds slot := (holds_iff hcall).mpr rfl
        exact absurd (hsound.gated.alone hself ((holds_iff hrival).mpr hgate)) hne
    · have hrecedes := hstep.recedes hsound.state hcalm fun prepared heq =>
        hjoining ⟨prepared, heq⟩
      exact hrecedes.awaits hsound.state.booked.modules hstate.booked.modules
        (hsound.awaits hrival)

/-- Every step keeps the traffic in order. -/
theorem Sound.step (hsound : traffic.Sound) (hstep : Step traffic after) : after.Sound := by
  cases hstep with
  | outside world hcalms => exact hsound.outside hcalms
  | load origin hidle => exact hsound.load hidle
  | ask request => exact hsound.ask request
  | proceed hcall hcalm => exact hsound.proceed hcall hcalm

/-- Wherever it can come the traffic is in order. -/
theorem Reachable.sound (hreach : Reachable traffic) : traffic.Sound := by
  induction hreach with
  | start world layout settings hstate =>
    have hnobody {slot : Nat} : ¬Holds ⟨world, []⟩ slot := by
      rintro ⟨request, phase, hcall, _⟩
      cases hcall
    refine ⟨?_, ?_, ⟨fun h => (hnobody h).elim, fun h => (hnobody h).elim, fun h => ?_⟩, ?_⟩
    · rw [hstate]
      exact .new layout settings
    · intro name origin horigin
      rw [World.registry, hstate] at horigin
      cases horigin
    · rw [hstate] at h
      cases h
    · intro slot request phase hcall
      cases hcall
  | step _ hstep ih => exact ih.step hstep

end Traffic

end MetricsDaemon
