import Mathlib.Data.List.Perm.Basic
import MetricsDaemon.Daemon
import MetricsDaemon.Proofs.Moves
import MetricsDaemon.Proofs.Reload

/-!
# The whole daemon at work

A run with its ticks, the subscriptions on demand that are under way on it, and modules
that were prepared and wait for their installation. Every critical section of any of
these is one step, and between two of them anybody else may move. The rules say what
others never do: load a module while a load on demand has passed the gate, and unload
one while a tick is in flight.
-/

namespace MetricsDaemon

open Relation (ReflTransGen)
open State (Calm Calms)
open Stock (Deeds)
open World (Move Moves)

/-- Everything that goes on at once. -/
structure Whole where
  run : Run
  /-- The requests in the order in which they were made, with how far each has come. -/
  calls : List (Request × LoadPhase)
  /-- Modules that were prepared for a later installation. -/
  shelf : List Prepared

namespace Whole

/-- The world of the run. -/
def world (whole : Whole) : World := whole.run.world

/-- Put another world in the place of the present one. -/
def withWorld (whole : Whole) (world : World) : Whole :=
  { whole with run := { whole.run with world := world } }

/-- What the calls and the shelf hold. -/
def held (whole : Whole) : List Holding :=
  whole.calls.flatMap (fun call => call.2.held) ++ whole.shelf.map .prepared

/-- The registry, with what the calls and the shelf hold. -/
def stock (whole : Whole) : Stock := whole.world.stock whole.held

/-- Whether no load on demand has passed the gate. -/
def isUngated (whole : Whole) : Bool := whole.calls.all fun call => !call.2.holdsGate

/-- What the rules let others do at the moment. -/
def permit (rules : Permit) (whole : Whole) : Permit where
  loads := rules.loads || whole.isUngated
  unloads := rules.unloads || whole.run.flight.isNone
  forces := rules.forces

/-- The next step of one of the loads was taken. -/
def proceed (whole : Whole) (slot : Nat) (request : Request) (phase : LoadPhase) : Whole :=
  { whole.withWorld (whole.world.stepLoad request phase).1 with
    calls := whole.calls.set slot (request, (whole.world.stepLoad request phase).2) }

/-- A module was prepared for later, if that went well. -/
def prepare (whole : Whole) (checked : Bool) (origin : Origin) : Whole :=
  { whole.withWorld (whole.world.prepare World.perform checked origin).1 with
    shelf := (whole.world.prepare World.perform checked origin).2.toOption.toList ++ whole.shelf }

/-- A module from the shelf was installed. -/
def install (whole : Whole) (slot : Nat) (prepared : Prepared) : Whole :=
  { whole.withWorld (whole.world.install prepared).1 with shelf := whole.shelf.eraseIdx slot }

/-- The next job of a flight was called. What its code does are moves of others. -/
def call (whole : Whole) (flight : Flight) (job : Job) : Whole :=
  { whole with run :=
      { whole.run with
        world := whole.world.called job.callable job.arg
        flight := some (flight.answered whole.world job) } }

/-- One step of the whole. -/
inductive Step (rules : Permit) : Whole → Whole → Prop where
  | outside {whole : Whole} (after : World) (hmove : Move (whole.permit rules) whole.world after) :
      Step rules whole (whole.withWorld after)
  | ask {whole : Whole} (request : Request) :
      Step rules whole { whole with calls := whole.calls ++ [(request, LoadPhase.asked)] }
  | proceed {whole : Whole} {slot : Nat} {request : Request} {phase : LoadPhase}
      (hcall : whole.calls[slot]? = some (request, phase))
      (hpermits : whole.world.PermitsLoad (whole.permit rules) phase) :
      Step rules whole (whole.proceed slot request phase)
  | prepare {whole : Whole} (checked : Bool) (origin : Origin) (hmay : rules.loads = true)
      (hpermits : ∀ middle unit, whole.world.openOrigin origin = (middle, .ok unit) →
        (middle.enterInit unit).PermitsInit (whole.permit rules) unit) :
      Step rules whole (whole.prepare checked origin)
  | install {whole : Whole} {slot : Nat} {prepared : Prepared}
      (hshelf : whole.shelf[slot]? = some prepared) :
      Step rules whole (whole.install slot prepared)
  | plan {whole : Whole} (hidle : whole.run.flight = none) :
      Step rules whole { whole with run := whole.run.takeOff }
  | call {whole : Whole} {flight : Flight} {job : Job} (hflight : whole.run.flight = some flight)
      (hjob : flight.plan.jobs[flight.calls.length]? = some job) :
      Step rules whole (whole.call flight job)
  | apply {whole : Whole} {flight : Flight} (hflight : whole.run.flight = some flight)
      (hdone : flight.calls.length = flight.plan.jobs.length) :
      Step rules whole { whole with run := whole.run.land flight }
  /-- The tick is cancelled or fails. -/
  | abandon {whole : Whole} :
      Step rules whole { whole with run := { whole.run with flight := none } }
  | stop {whole : Whole} (hmay : (whole.permit rules).unloads = true) :
      Step rules whole (whole.withWorld whole.world.shutdown)

/-- Any number of steps. -/
abbrev Steps (rules : Permit) : Whole → Whole → Prop := ReflTransGen (Step rules)

/-- Where the whole can come from a daemon without modules and connections. -/
inductive Reachable (rules : Permit) : Whole → Prop where
  | start (world : World) (layout : Layout) (settings : Settings)
      (hstate : world.state = .new (.new layout settings)) :
      Reachable rules ⟨⟨world, none, []⟩, [], []⟩
  | step {whole after : Whole} (hreach : Reachable rules whole) (hstep : Step rules whole after) :
      Reachable rules after

variable {rules : Permit} {whole after : Whole} {slot : Nat} {request : Request}
  {phase : LoadPhase} {holdings : List Holding}

/-- What can be reached can be left by any number of steps. -/
theorem Reachable.steps (hreach : Reachable rules whole) (hsteps : Steps rules whole after) :
    Reachable rules after := by
  induction hsteps with
  | refl => exact hreach
  | tail _ hstep ih => exact ih.step hstep

end Whole

/-! ## The whole as a run -/

namespace World

variable {permit : Permit} {world : World} {action : Action} {actions : List Action}
  {unit : ProviderUnit} {phase : LoadPhase}

/-- An action that is permitted unloads no module under its subscribers, unless that may be
forced. -/
theorem Permits.spares (hpermits : world.Permits permit action) :
    world.Spares permit.forces action := by
  cases action with
  | unload name =>
    by_cases hforces : permit.forces = true
    · exact .inl hforces
    · refine .inr fun id hname => ?_
      exact (hpermits id hname).2.resolve_left hforces
  | _ => trivial

/-- Actions that are permitted unload no module under its subscribers, unless that may be forced. -/
theorem PermitsAll.spares (hpermits : PermitsAll permit world actions) :
    SparesAll permit.forces world actions := by
  induction actions generalizing world with
  | nil => trivial
  | cons action rest ih => exact ⟨Permits.spares hpermits.1, ih hpermits.2⟩

/-- A load that is permitted unloads no module under its subscribers, unless that may be forced. -/
theorem PermitsLoad.spares (hpermits : world.PermitsLoad permit phase) :
    world.SparesLoad permit.forces phase := by
  cases phase with
  | initializing origin unit => exact fun hook hhook => PermitsAll.spares (hpermits hook hhook)
  | _ => trivial

/-- To prepare a module is a sequence of steps of the state. -/
theorem steps_prepare (checked : Bool) {origin : Origin}
    (hpermits : ∀ middle unit, world.openOrigin origin = (middle, .ok unit) →
      (middle.enterInit unit).PermitsInit permit unit) :
    State.Steps permit.forces world.state (world.prepare perform checked origin).1.state :=
  reaches_prepare (fun _ event => .noted event) checked fun middle unit hook hopen hhook =>
    steps_performAll (PermitsAll.spares (hpermits middle unit hopen hook hhook))

end World

namespace Whole

variable {rules : Permit} {whole after : Whole} {slot : Nat} {request : Request}
  {phase : LoadPhase} {holdings : List Holding}

/-- Every step of the whole is some steps of its run. -/
theorem Step.runs (hstep : Step rules whole after) :
    ReflTransGen (Run.Step rules.forces) whole.run after.run := by
  cases hstep with
  | outside world hmove => exact .single (.outside _ hmove.steps)
  | ask request => exact .refl
  | proceed hcall hpermits =>
    exact .single (.outside _ (World.steps_stepLoad hpermits.spares))
  | prepare checked origin hmay hpermits =>
    have hsteps := World.steps_prepare checked hpermits
    exact .single (.outside _ hsteps)
  | @install slot prepared hshelf => exact .single (.outside _ (.single (.installed prepared)))
  | plan hidle => exact .single (.plan hidle)
  | @call flight job hflight hjob =>
    have hcall : Run.Step rules.forces whole.run
        { whole.run with flight := some (flight.answered whole.world job) } := .call hflight hjob
    exact (ReflTransGen.single hcall).tail (.outside _ (World.steps_note _))
  | apply hflight hdone => exact .single (.apply hflight hdone)
  | abandon => exact .single .abandon
  | stop hmay => exact .single (.outside _ (.single .stopped))

/-- What the whole goes through is a run. -/
theorem Reachable.toRun (hreach : Reachable rules whole) :
    Run.Reachable rules.forces whole.run := by
  induction hreach with
  | start world layout settings hstate => exact .start world layout settings hstate
  | step _ hstep ih => exact ih.steps hstep.runs

/-- Wherever the whole can come the state is in order. -/
theorem Reachable.sound (hreach : Reachable rules whole) :
    whole.world.state.Sound rules.forces :=
  hreach.toRun.sound.state

/-! ## The whole as traffic -/

/-- While a load holds the gate it is closed. -/
theorem isUngated_eq_false (hcall : whole.calls[slot]? = some (request, phase))
    (hholds : phase.holdsGate = true) : whole.isUngated = false := by
  rw [isUngated, List.all_eq_false]
  exact ⟨(request, phase), List.mem_of_getElem? hcall, by simp [hholds]⟩

/-- While a load holds the gate nobody else loads, unless the rules let him. -/
theorem loads_permit_eq_false (hloads : rules.loads = false)
    (hcall : whole.calls[slot]? = some (request, phase)) (hholds : phase.holdsGate = true) :
    (whole.permit rules).loads = false := by
  rw [permit, hloads, isUngated_eq_false hcall hholds]
  rfl

/-- If nobody may load a module while a load on demand has passed the gate, the calls are traffic,
and nothing is on the shelf. -/
theorem Reachable.traffic (hreach : Reachable rules whole) (hloads : rules.loads = false) :
    Traffic.Reachable ⟨whole.world, whole.calls⟩ ∧ whole.shelf = [] := by
  induction hreach with
  | start world layout settings hstate => exact ⟨.start world layout settings hstate, rfl⟩
  | @step whole after hreach hstep ih =>
    obtain ⟨htraffic, hshelf⟩ := ih
    have hsound := htraffic.sound.state
    cases hstep with
    | outside world hmove =>
      refine ⟨htraffic.step ?_, hshelf⟩
      rcases hmove.calms hsound with hcalms | ⟨origin, hmay, rfl⟩
      · exact .outside world hcalms
      · refine .load origin ?_
        have hopen : whole.isUngated = true := by simpa [permit, hloads] using hmay
        simpa [isUngated] using hopen
    | ask request => exact ⟨htraffic.step (.ask request), hshelf⟩
    | @proceed slot request phase hcall hpermits =>
      have hcalm : phase.IsCalm := hpermits.calm (loads_permit_eq_false hloads hcall)
      exact ⟨htraffic.step (.proceed hcall hcalm), hshelf⟩
    | prepare checked origin hmay hpermits =>
      rw [hloads] at hmay
      cases hmay
    | install hslot =>
      rw [hshelf] at hslot
      cases hslot
    | plan hidle =>
      have hplanned : Calm whole.world.state (whole.world.state.plan whole.world.host.now).1 :=
        State.calm_planned _
      exact ⟨htraffic.step (.outside _ (.single hplanned)), hshelf⟩
    | @call flight job hflight hjob =>
      have hnoted : Calm whole.world.state (whole.world.called job.callable job.arg).state :=
        State.calm_noted _ _
      exact ⟨htraffic.step (.outside _ (.single hnoted)), hshelf⟩
    | apply hflight hdone =>
      exact ⟨htraffic.step (.outside _ (.single (.applied _ _ _))), hshelf⟩
    | abandon => exact ⟨htraffic, hshelf⟩
    | stop hmay =>
      have hstopped : Calm whole.world.state whole.world.shutdown.state :=
        .step .stopped (State.acted_shutdown.recedes fun _ => hsound.booked.modules)
      exact ⟨htraffic.step (.outside _ (.single hstopped)), hshelf⟩

/-! ## The whole as deeds -/

/-- What the other loads and the shelf hold. -/
def heldBesides (whole : Whole) (slot : Nat) : List Holding :=
  (whole.calls.eraseIdx slot).flatMap (fun call => call.2.held) ++ whole.shelf.map .prepared

/-- The units that are held are those of one load and those of all others. -/
theorem held_perm (hcall : whole.calls[slot]? = some (request, phase)) :
    whole.held.Perm (phase.held ++ whole.heldBesides slot) := by
  obtain ⟨hlt, hget⟩ := List.getElem?_eq_some_iff.mp hcall
  have hperm : whole.calls.Perm ((request, phase) :: whole.calls.eraseIdx slot) := by
    rw [← hget]
    exact (List.getElem_cons_eraseIdx_perm hlt).symm
  have hholdings := hperm.flatMap_right fun call => call.2.held
  rw [heldBesides, ← List.append_assoc]
  exact hholdings.append_right _

/-- When a load proceeds, its units are exchanged for those of its next phase. -/
theorem held_proceed_perm (hcall : whole.calls[slot]? = some (request, phase)) :
    ((whole.world.stepLoad request phase).2.held ++ whole.heldBesides slot).Perm
      (whole.proceed slot request phase).held := by
  obtain ⟨hlt, _⟩ := List.getElem?_eq_some_iff.mp hcall
  have hperm := List.set_perm_cons_eraseIdx hlt
    (request, (whole.world.stepLoad request phase).2)
  have hholdings := hperm.flatMap_right fun call => call.2.held
  rw [heldBesides, ← List.append_assoc]
  exact (hholdings.append_right _).symm

/-- A prepared module comes to what is held. -/
theorem held_prepare_perm (whole : Whole) (checked : Bool) (origin : Origin) :
    (heldOf (whole.world.prepare World.perform checked origin).2 ++ whole.held).Perm
      (whole.prepare checked origin).held := by
  have hkept (result : Except LoadFault Prepared) :
      heldOf result = result.toOption.toList.map .prepared := by
    cases result <;> rfl
  have hheld : (whole.prepare checked origin).held =
      whole.calls.flatMap (fun call => call.2.held) ++
        (heldOf (whole.world.prepare World.perform checked origin).2 ++
          whole.shelf.map .prepared) := by
    rw [hkept, ← List.map_append]
    rfl
  rw [hheld]
  exact List.perm_append_comm_assoc _ _ _

/-- A module that is installed from the shelf goes from what is held. -/
theorem held_install_perm {prepared : Prepared} (hshelf : whole.shelf[slot]? = some prepared) :
    whole.held.Perm (.prepared prepared :: (whole.install slot prepared).held) := by
  obtain ⟨hlt, hget⟩ := List.getElem?_eq_some_iff.mp hshelf
  have hperm : whole.shelf.Perm (prepared :: whole.shelf.eraseIdx slot) := by
    rw [← hget]
    exact (List.getElem_cons_eraseIdx_perm hlt).symm
  exact ((hperm.map Holding.prepared).append_left _).trans List.perm_middle

/-- Nothing is held while no load has passed the gate and nothing is on the shelf. -/
theorem held_eq_nil (hungated : whole.isUngated = true) (hshelf : whole.shelf = []) :
    whole.held = [] := by
  rw [held, hshelf, List.map_nil, List.append_nil, List.flatMap_eq_nil_iff]
  intro call hmem
  have hcall := List.all_eq_true.mp hungated call hmem
  exact LoadPhase.held_of_ungated (by simpa using hcall)

/-- Nobody else holds a unit while a load has passed the gate alone. -/
theorem heldBesides_eq_nil (hgated : Traffic.Gated ⟨whole.world, whole.calls⟩)
    (hshelf : whole.shelf = []) (hcall : whole.calls[slot]? = some (request, phase))
    (hholds : phase.holdsGate = true) : whole.heldBesides slot = [] := by
  rw [heldBesides, hshelf, List.map_nil, List.append_nil, List.flatMap_eq_nil_iff]
  rintro ⟨other, rival⟩ hmem
  obtain ⟨index, hne, hrival⟩ := List.mem_eraseIdx_iff_getElem?.mp hmem
  refine LoadPhase.held_of_ungated (Bool.eq_false_iff.mpr fun hrivalHolds => hne ?_)
  exact hgated.alone ⟨other, rival, hrival, hrivalHolds⟩ ⟨request, phase, hcall, hholds⟩

/-- Every step but a call is a sequence of deeds, in which nothing is unloaded while a tick is in
flight if that is the rule. -/
theorem Reachable.deeds (hreach : Reachable rules whole) (hstep : Step rules whole after) :
    (∃ flight job, whole.run.flight = some flight ∧
      flight.plan.jobs[flight.calls.length]? = some job ∧ after = whole.call flight job) ∨
    ∃ unloads, (after.run.flight.isSome → unloads = rules.unloads) ∧
      Deeds (!rules.loads) unloads whole.stock after.stock := by
  have hsound := hreach.sound
  have hregistry := hsound.booked.modules
  have htraffic (halone : (!rules.loads) = true) :
      Traffic.Reachable ⟨whole.world, whole.calls⟩ ∧ whole.shelf = [] :=
    hreach.traffic (by simpa using halone)
  have hpermit (hflight : whole.run.flight.isSome) :
      (whole.permit rules).unloads = rules.unloads := by
    simp [permit, Option.isNone_eq_false_iff.mpr hflight]
  have hshuffle {world : World} {first second : List Holding} (hperm : first.Perm second) :
      Deeds (!rules.loads) (whole.permit rules).unloads (world.stock first) (world.stock second) :=
    .single (.shuffled hperm)
  cases hstep with
  | outside world hmove =>
    refine .inr ⟨(whole.permit rules).unloads, hpermit, hmove.deeds hregistry ?_⟩
    intro halone hloads
    have hrule : rules.loads = false := by simpa using halone
    have hungated : whole.isUngated = true := by simpa [permit, hrule] using hloads
    exact held_eq_nil hungated (htraffic halone).2
  | ask request =>
    refine .inr ⟨(whole.permit rules).unloads, hpermit, ?_⟩
    have hheld : Whole.held { whole with calls := whole.calls ++ [(request, .asked)] } =
        whole.held := by simp [held, LoadPhase.held]
    rw [stock, stock, hheld]
    exact .refl
  | @proceed slot request phase hcall hpermits =>
    refine .inr ⟨(whole.permit rules).unloads, hpermit, ?_⟩
    have hdeeds : Deeds (!rules.loads) (whole.permit rules).unloads
        (whole.world.stock (phase.held ++ whole.heldBesides slot))
        ((whole.world.stepLoad request phase).1.stock
          ((whole.world.stepLoad request phase).2.held ++ whole.heldBesides slot)) := by
      refine (whole.world.loadStep_stepLoad request phase).deeds hsound hpermits ?_
      intro halone hholds
      obtain ⟨hreachTraffic, hshelf⟩ := htraffic halone
      exact ⟨loads_permit_eq_false (by simpa using halone) hcall hholds,
        heldBesides_eq_nil hreachTraffic.sound.gated hshelf hcall hholds⟩
    exact ((hshuffle (held_perm hcall)).trans hdeeds).trans (hshuffle (held_proceed_perm hcall))
  | prepare checked origin hmay hpermits =>
    refine .inr ⟨(whole.permit rules).unloads, hpermit, ?_⟩
    have hdeeds : Deeds (!rules.loads) (whole.permit rules).unloads whole.stock
        ((whole.world.prepare World.perform checked origin).1.stock
          (heldOf (whole.world.prepare World.perform checked origin).2 ++ whole.held)) := by
      refine World.deeds_prepare checked (by simp [hmay]) fun middle unit hook hopen => ?_
      have hentered : (middle.enterInit unit).state.Sound rules.forces := by
        have hopens := hsound.steps (World.steps_openOrigin origin)
        rw [hopen] at hopens
        exact hopens.steps (World.steps_note _)
      exact (hpermits middle unit hopen).deeds hentered (by simp [hmay])
    exact hdeeds.trans (hshuffle (whole.held_prepare_perm checked origin))
  | @install slot prepared hshelf =>
    refine .inr ⟨(whole.permit rules).unloads, hpermit, ?_⟩
    have hinstalled : Deeds (!rules.loads) (whole.permit rules).unloads
        (whole.world.stock (.prepared prepared :: (whole.install slot prepared).held))
        (whole.install slot prepared).stock := .single (.installed prepared)
    exact (hshuffle (held_install_perm hshelf)).trans hinstalled
  | plan hidle =>
    refine .inr ⟨rules.unloads, fun _ => rfl, ?_⟩
    have hplanned : whole.world.state.Acted false
        (whole.world.state.plan whole.world.host.now).1 := State.acted_plan _
    exact (Stock.deeds_of_acts hplanned.registry).weaken
  | @call flight job hflight hjob => exact .inl ⟨flight, job, hflight, hjob, rfl⟩
  | @apply flight hflight hdone =>
    refine .inr ⟨true, by simp [Run.land], ?_⟩
    have happlied : whole.world.state.Acted true
        (whole.run.completion flight).applied.state := State.acted_apply hsound.booked _ _ _
    exact Stock.deeds_of_acts happlied.registry
  | abandon => exact .inr ⟨true, by simp, .refl⟩
  | stop hmay =>
    refine .inr ⟨true, fun hflight => ?_, ?_⟩
    · rw [← hpermit hflight, hmay]
    · have hstopped : whole.world.state.Acted true whole.world.state.shutdown :=
        State.acted_shutdown
      exact Stock.deeds_of_acts hstopped.registry

/-- Every unit is accounted for wherever the whole can come. -/
theorem Reachable.balanced (hreach : Reachable rules whole) : whole.stock.Balanced := by
  induction hreach with
  | start world layout settings hstate =>
    have hregistry : world.registry = .new layout settings := by rw [World.registry, hstate]; rfl
    refine ⟨?_, fun tag => ?_⟩
    · rw [stock, World.stock, Whole.world, hregistry]
      exact .new layout settings
    · rw [stock, World.stock, Whole.world, hregistry]
      exact ⟨fun _ => rfl, Nat.zero_le _, Nat.le_refl _, Nat.le_refl _, rfl⟩
  | @step whole after hreach hstep ih =>
    rcases hreach.deeds hstep with ⟨flight, job, _, _, rfl⟩ | ⟨unloads, _, hdeeds⟩
    · exact ⟨ih.registry.of_tables_eq rfl rfl rfl rfl, fun tag =>
        (ih.fair tag).of_uncounted rfl (.inr ⟨_, rfl, rfl⟩)⟩
    · exact ih.deeds hdeeds

/-- What is kept by every deed and by every call of a method is kept by every step. -/
theorem Reachable.kept_step (hreach : Reachable rules whole) (hstep : Step rules whole after)
    (kept : Stock → Prop)
    (hcall : ∀ registry last holdings tag method argument, kept ⟨registry, last, holdings⟩ →
      kept ⟨registry.note (.invoked tag method argument), last, holdings⟩)
    (hdeed : ∀ unloads before after, Stock.Balanced before → kept before →
      Stock.Deed (!rules.loads) unloads before after → kept after) (hkept : kept whole.stock) :
    kept after.stock := by
  rcases hreach.deeds hstep with ⟨flight, job, _, _, rfl⟩ | ⟨unloads, _, hdeeds⟩
  · exact hcall _ _ _ _ _ _ hkept
  · have hrun {later : Stock} (hdeeds : Deeds (!rules.loads) unloads whole.stock later) :
        kept later := by
      induction hdeeds with
      | refl => exact hkept
      | tail hdeeds hlast ih => exact hdeed _ _ _ (hreach.balanced.deeds hdeeds) ih hlast
    exact hrun hdeeds

/-- What holds before anything was loaded, and is kept by every deed and by every call of a method,
holds wherever the whole can come. -/
theorem Reachable.kept (hreach : Reachable rules whole) (kept : Stock → Prop)
    (hstart : ∀ layout settings last, kept ⟨.new layout settings, last, []⟩)
    (hcall : ∀ registry last holdings tag method argument, kept ⟨registry, last, holdings⟩ →
      kept ⟨registry.note (.invoked tag method argument), last, holdings⟩)
    (hdeed : ∀ unloads before after, Stock.Balanced before → kept before →
      Stock.Deed (!rules.loads) unloads before after → kept after) : kept whole.stock := by
  induction hreach with
  | start world layout settings hstate =>
    have hregistry : world.registry = .new layout settings := by rw [World.registry, hstate]; rfl
    rw [stock, World.stock, Whole.world, hregistry]
    exact hstart layout settings world.lastUnit
  | step hreach hstep ih => exact hreach.kept_step hstep kept hcall hdeed ih

end Whole

/-! ## The program's own runs -/

namespace World

variable {permit : Permit} {world : World} {jobs : List Job}

/-- Who may load may load any number of modules. -/
theorem moves_loadEach (hloads : permit.loads = true) (origins : List Origin) :
    Moves permit world (world.loadEach origins).1 := by
  induction origins generalizing world with
  | nil => exact .refl
  | cons origin rest ih =>
    have hload : Moves permit world (world.load origin).1 := .single (.loaded origin hloads)
    unfold loadEach
    split
    · next heq =>
      rw [heq] at hload
      exact hload.trans ih
    · next heq =>
      rw [heq] at hload
      exact hload.trans ih
    · next heq =>
      rw [heq] at hload
      exact hload

/-- Who may load may load what the settings name. -/
theorem moves_loadModules (hloads : permit.loads = true) (settings : Settings) :
    Moves permit world (Daemon.loadModules world settings).1 := by
  have hbuiltins : Moves permit world world.loadBuiltins.1 := moves_loadEach hloads _
  unfold Daemon.loadModules
  split
  · next heq =>
    rw [heq] at hbuiltins
    exact hbuiltins
  · next heq =>
    rw [heq] at hbuiltins
    split
    · exact hbuiltins
    · exact hbuiltins.trans (moves_loadEach hloads _)

/-- What the code of some jobs does when they are called in a row is among what others may do. -/
def PermitsJobs (permit : Permit) : World → List Job → Prop
  | _, [] => True
  | world, job :: rest =>
      PermitsAll permit (world.called job.callable job.arg)
        (job.callable.invoke job.arg world.host).2.actions ∧
      PermitsJobs permit (world.call job.callable job.arg).1 rest

/-- A call whose actions are permitted makes the moves of these actions. -/
theorem moves_call {callable : Callable} {arg : Option String}
    (hpermits : PermitsAll permit (world.called callable arg)
      (callable.invoke arg world.host).2.actions) :
    Moves permit (world.called callable arg) (world.call callable arg).1 := by
  rw [call_fst]
  exact moves_performAll hpermits

end World

namespace Whole

variable {rules : Permit} {whole after : Whole} {flight : Flight}

/-- Whatever others do in moves continues the whole. -/
theorem Reachable.outside {world : World} (hreach : Reachable rules whole)
    (hmoves : Moves (whole.permit rules) whole.world world) :
    Reachable rules (whole.withWorld world) := by
  induction hmoves with
  | refl => exact hreach
  | tail _ hmove ih => exact ih.step (.outside _ hmove)

/-- Making the built-in modules available and loading modules begins the whole. -/
theorem reachable_loadModules (host : Host) (disk : Disk) (layout : Layout) (settings : Settings)
    (builtins : Bool) :
    Reachable rules ⟨⟨(Daemon.loadModules (World.new host disk
      (if builtins then (Registry.new layout settings).registerBuiltins
        else .new layout settings)) settings).1, none, []⟩, [], []⟩ := by
  have hstart : Reachable rules ⟨⟨World.new host disk (.new layout settings), none, []⟩, [], []⟩ :=
    .start _ layout settings rfl
  refine hstart.outside (.trans ?_ (World.moves_loadModules (by simp [permit, isUngated]) settings))
  cases builtins with
  | false => exact .refl
  | true =>
    have hsys : Move (permit rules ⟨⟨World.new host disk (.new layout settings), none, []⟩, [], []⟩)
        (World.new host disk (.new layout settings))
        (World.new host disk ((Registry.new layout settings).registerBuiltin "sys" .sys)) :=
      .provided "sys" .sys
    exact (ReflTransGen.single hsys).tail (.provided "clock" .clock)

/-- Setting a daemon up begins the whole. -/
theorem reachable_setUp {host : Host} {disk : Disk} {settings : Settings} {world : World}
    (hsetUp : Daemon.setUp host disk settings = .ok world) :
    Reachable rules ⟨⟨world, none, []⟩, [], []⟩ := by
  unfold Daemon.setUp at hsetUp
  cases hlayout : Daemon.layoutFor disk settings with
  | error error =>
    rw [hlayout] at hsetUp
    cases hsetUp
  | ok layout =>
    rw [hlayout] at hsetUp
    have hloaded : Reachable rules _ :=
      reachable_loadModules host disk layout settings settings.builtinModules
    dsimp only [bind, Except.bind] at hsetUp
    generalize Daemon.loadModules _ settings = loaded at hsetUp hloaded
    split at hsetUp
    · cases hsetUp
      exact hloaded
    · cases hsetUp

/-- The permit while a tick is in flight. -/
theorem permit_of_flight (hflight : whole.run.flight = some flight) : whole.permit rules =
    ⟨rules.loads || whole.isUngated, rules.unloads, rules.forces⟩ := by
  simp [permit, hflight]

/-- What is kept by every part of the program's own ticks: the plan, each call with whatever the
code does, the application, and the cancellation. -/
structure Ticks (rules : Permit) (kept : Whole → Prop) : Prop where
  plan : ∀ {whole : Whole}, kept whole → whole.run.flight = none →
    kept { whole with run := whole.run.takeOff }
  call : ∀ {whole : Whole} {flight : Flight} {job : Job}, kept whole →
    whole.run.flight = some flight → flight.plan.jobs[flight.calls.length]? = some job →
    World.PermitsAll (whole.permit rules) (whole.world.called job.callable job.arg)
      (job.callable.invoke job.arg whole.world.host).2.actions →
    kept ((whole.call flight job).withWorld (whole.world.call job.callable job.arg).1)
  apply : ∀ {whole : Whole} {flight : Flight}, kept whole → whole.run.flight = some flight →
    flight.calls.length = flight.plan.jobs.length →
    kept { whole with run := whole.run.land flight }
  abandon : ∀ {whole : Whole}, kept whole →
    kept { whole with run := { whole.run with flight := none } }

/-- A tick of the program, called job by job, goes through what can be reached. -/
theorem ticks_reachable : Ticks rules (Reachable rules) where
  plan hreach hidle := hreach.step (.plan hidle)
  call hreach hflight hjob hpermits := by
    refine (hreach.step (.call hflight hjob)).outside (World.moves_call ?_)
    rw [permit_of_flight rfl]
    rw [permit_of_flight hflight] at hpermits
    exact hpermits
  apply hreach hflight hdone := hreach.step (.apply hflight hdone)
  abandon hreach := hreach.step .abandon

variable {kept : Whole → Prop}

/-- Evaluating the jobs that are left keeps it. -/
private theorem Ticks.evaluate {jobs : List Job} (hticks : Ticks rules kept) (hkept : kept whole)
    (hflight : whole.run.flight = some flight) (hjobs : flight.ahead = jobs)
    (hpermits : World.PermitsJobs (whole.permit rules) whole.world jobs) :
    ∃ done : Flight, done.before = flight.before ∧ done.moment = flight.moment ∧
      done.values = flight.values ++ (World.evaluate whole.world jobs).2 ∧
      done.calls.length = flight.calls.length + jobs.length ∧
      kept { whole with run :=
        ⟨(World.evaluate whole.world jobs).1, some done, whole.run.history⟩ } := by
  induction jobs generalizing whole flight with
  | nil =>
    refine ⟨flight, rfl, rfl, by simp [World.evaluate], by simp, ?_⟩
    rw [← hflight]
    exact hkept
  | cons job rest ih =>
    obtain ⟨hcall, hrest⟩ := hpermits
    have hacted : kept ((whole.call flight job).withWorld
        (whole.world.call job.callable job.arg).1) :=
      hticks.call hkept hflight (Flight.next_of_ahead hjobs) hcall
    have hpermit : (whole.call flight job).permit rules = whole.permit rules := by
      rw [permit_of_flight hflight, permit_of_flight rfl]
      rfl
    obtain ⟨done, hbefore, hmoment, hvalues, hcalls, hdone⟩ :=
      ih hacted rfl (Flight.ahead_answered hjobs) (by rw [← hpermit] at hrest; exact hrest)
    refine ⟨done, hbefore, hmoment, ?_, ?_, hdone⟩
    · rw [hvalues]
      simp [World.evaluate, withWorld, Whole.world]
    · rw [hcalls, Flight.length_calls_answered, List.length_cons]
      omega

/-- A whole tick of the program keeps it. -/
theorem Ticks.tick (hticks : Ticks rules kept) (hkept : kept whole)
    (hidle : whole.run.flight = none)
    (hpermits : World.PermitsJobs ⟨rules.loads || whole.isUngated, rules.unloads, rules.forces⟩
      (whole.run.world.withState (whole.run.world.state.plan whole.run.world.host.now).1)
      (whole.run.world.state.plan whole.run.world.host.now).2.jobs) :
    ∃ history, kept { whole with run := ⟨whole.run.world.tick.1, none, history⟩ } := by
  unfold World.tick
  split
  · refine ⟨whole.run.history, ?_⟩
    rw [← hidle]
    exact hkept
  · dsimp only
    have hplan : kept { whole with run := whole.run.takeOff } := hticks.plan hkept hidle
    have hjobs : (⟨whole.run.world.state, whole.run.world.host.now, []⟩ : Flight).ahead =
        (whole.run.world.state.plan whole.run.world.host.now).2.jobs := List.drop_zero
    have hpermit : ({ whole with run := whole.run.takeOff } : Whole).permit rules =
        ⟨rules.loads || whole.isUngated, rules.unloads, rules.forces⟩ := permit_of_flight rfl
    rw [← hpermit] at hpermits
    obtain ⟨done, hbefore, hmoment, hvalues, hcalls, hdone⟩ :=
      hticks.evaluate hplan rfl hjobs hpermits
    have hworld : ({ whole with run := whole.run.takeOff } : Whole).world =
        whole.run.world.withState (whole.run.world.state.plan whole.run.world.host.now).1 := rfl
    rw [hworld] at hvalues hdone
    split
    · exact ⟨whole.run.history, hticks.abandon hdone⟩
    · have hsame : done.plan = (whole.run.world.state.plan whole.run.world.host.now).2 := by
        rw [Flight.plan, hbefore, hmoment]
      have hlength : done.calls.length = done.plan.jobs.length := by
        rw [hcalls, hsame, List.length_nil, Nat.zero_add]
      have hland := hticks.apply hdone rfl hlength
      have hnone : (⟨whole.run.world.state, whole.run.world.host.now, []⟩ : Flight).values =
          [] := rfl
      simp only [Run.land, Run.completion, Completion.applied, hsame, hvalues, hnone,
        List.nil_append] at hland
      exact ⟨_, hland⟩

/-- A whole tick of the program continues the whole. -/
theorem Reachable.tick (hreach : Reachable rules whole) (hidle : whole.run.flight = none)
    (hpermits : World.PermitsJobs ⟨rules.loads || whole.isUngated, rules.unloads, rules.forces⟩
      (whole.run.world.withState (whole.run.world.state.plan whole.run.world.host.now).1)
      (whole.run.world.state.plan whole.run.world.host.now).2.jobs) :
    ∃ history, Reachable rules { whole with run := ⟨whole.run.world.tick.1, none, history⟩ } :=
  ticks_reachable.tick hreach hidle hpermits

end Whole

/-! ## A small daemon at work -/

namespace Sample

/-- Modules may be loaded at any time, and unloaded while no tick is in flight. -/
def rules : Permit := ⟨true, false, false⟩

/-- The world with one subscriber on the module. -/
def watched : World := stocked.withState (stocked.state.subscribe wish).1

/-- Nothing else is going on. -/
def attended : Whole := ⟨⟨watched, none, []⟩, [], []⟩

/-- A tick is planned for the subscriber. -/
def planned : Run := attended.run.takeOff

/-- The subscriber leaves while the tick is in flight. -/
def deserted : Whole :=
  ⟨{ planned with world := planned.world.withState (planned.world.state.forgetConnection ⟨1⟩).1 },
    [], []⟩

/-- The flight of the tick, before its call. -/
def start : Flight := ⟨watched.state, watched.host.now, []⟩

/-- The module's code was called all the same. -/
def called : Whole := deserted.call start job

/-- The tick landed, and the module left. -/
def landed : Whole := { called with run := called.run.land (start.answered deserted.world job) }

/-- The module was loaded again. -/
def again : Whole := landed.withWorld (landed.world.load (.builtin "office")).1

/-- The daemon can come to where it has one connection and one module. -/
theorem reachable_stocked : Whole.Reachable rules ⟨⟨stocked, none, []⟩, [], []⟩ := by
  have hstart : Whole.Reachable rules ⟨empty, [], []⟩ := .start _ .everything .default rfl
  have hoffered : Whole.Reachable rules ⟨⟨empty.world.withState offered, none, []⟩, [], []⟩ :=
    hstart.step (.outside _ (.provided "office" office))
  have hjoined : Whole.Reachable rules ⟨⟨empty.world.withState joined, none, []⟩, [], []⟩ :=
    hoffered.step (.outside _ (.connected ⟨1⟩ 1 Outbox.defaultCapacity rfl))
  exact hjoined.step (.outside _ (.loaded (.builtin "office") rfl))

/-- The connection can subscribe. -/
theorem reachable_attended : Whole.Reachable rules attended :=
  reachable_stocked.step (.outside _ (.subscribed wish))

/-- The subscriber can leave while a tick is in flight. -/
theorem steps_deserted : Whole.Steps rules attended deserted := by
  have hplanned : Whole.Step rules attended ⟨planned, [], []⟩ := .plan rfl
  exact (ReflTransGen.single hplanned).tail (.outside _ (.forgotten ⟨1⟩))

/-- The module can leave with that tick and be loaded again. -/
theorem steps_again : Whole.Steps rules deserted again := by
  have hcalled : Whole.Step rules deserted called := .call rfl (by with_unfolding_all rfl)
  have hlanded : Whole.Step rules called landed := .apply rfl (by with_unfolding_all rfl)
  exact ((ReflTransGen.single hcalled).tail hlanded).tail (.outside _ (.loaded _ rfl))

/-- The daemon can come to where the subscriber has left. -/
theorem reachable_deserted : Whole.Reachable rules deserted :=
  reachable_attended.steps steps_deserted

/-- The daemon can come to where the module was loaded again. -/
theorem reachable_again : Whole.Reachable rules again := reachable_deserted.steps steps_again

end Sample

end MetricsDaemon
