import MetricsDaemon.Proofs.Loading
import MetricsDaemon.Proofs.Run

/-!
# What a module is told

A unit that initializes is told for each of its offers whether it was registered. The
answer looks at the layout and at the unit's own earlier offers, and the offers that were
answered with yes are registered later, when other modules may hold their names. Those
names are skipped. So a module holds exactly what it was promised if nobody else holds a
promised name, and less otherwise.
-/

namespace MetricsDaemon

/-! ## The answers -/

namespace Layout

/-- Whether an offer is worth registering: it runs on every tick, or the layout mentions it. -/
def IsWorth (layout : Layout) (offer : Offer) : Prop :=
  offer.type.cron = true ∨ layout.mentions offer.name = true

/-- What a unit is told about each of its offers. -/
def answers (layout : Layout) (offers : List (Option Offer)) : List Bool :=
  (offerAll layout.stage [] offers).2

/-- The offers that are answered with yes. -/
def promised (layout : Layout) (offers : List (Option Offer)) : List Offer :=
  (offers.zip (layout.answers offers)).filterMap fun told => if told.2 then told.1 else none

variable {layout : Layout} {offers : List (Option Offer)} {staged : List Offer} {offer : Offer}

/-- An offer is staged exactly when it is worth it and none of its name was staged before. -/
theorem stage_cases (layout : Layout) (staged : List Offer) (offer : Offer) :
    ((layout.IsWorth offer ∧ ∀ other ∈ staged, other.name ≠ offer.name) ∧
      layout.stage staged offer = (staged ++ [offer], true)) ∨
    (¬(layout.IsWorth offer ∧ ∀ other ∈ staged, other.name ≠ offer.name) ∧
      layout.stage staged offer = (staged, false)) := by
  have hcondition : ((offer.type.cron || layout.mentions offer.name) &&
      !staged.any (fun other => other.name == offer.name)) = true ↔
        layout.IsWorth offer ∧ ∀ other ∈ staged, other.name ≠ offer.name := by
    simp [IsWorth]
  unfold stage
  by_cases haccepted : layout.IsWorth offer ∧ ∀ other ∈ staged, other.name ≠ offer.name
  · left
    rw [if_pos (hcondition.mpr haccepted)]
    exact ⟨haccepted, rfl⟩
  · right
    rw [if_neg fun h => haccepted (hcondition.mp h)]
    exact ⟨haccepted, rfl⟩

/-- The offers that are answered with yes are those that are staged. -/
theorem promised_eq_staged (layout : Layout) (offers : List (Option Offer)) :
    layout.promised offers = layout.staged offers := by
  have hall (staged : List Offer) : (offerAll layout.stage staged offers).1 = staged ++
      (offers.zip (offerAll layout.stage staged offers).2).filterMap
        fun told => if told.2 then told.1 else none := by
    induction offers generalizing staged with
    | nil => simp [offerAll]
    | cons head rest ih =>
      cases head with
      | none => exact ih staged
      | some offer =>
        rw [offerAll, List.zip_cons_cons]
        rcases layout.stage_cases staged offer with ⟨-, hstage⟩ | ⟨-, hstage⟩
        · rw [hstage, List.filterMap_cons]
          exact (ih (staged ++ [offer])).trans (List.append_assoc ..)
        · rw [hstage, List.filterMap_cons]
          exact ih staged
  exact (hall []).symm

/-- What holds of the offers before a place holds of the first one and of the others before it. -/
theorem forall_earlier_cons {head : Option Offer} {rest : List (Option Offer)} {i : Nat}
    {Holds : Offer → Prop} :
    (∀ j < i + 1, ∀ other, (head :: rest)[j]? = some (some other) → Holds other) ↔
      (∀ other, head = some other → Holds other) ∧
        ∀ j < i, ∀ other, rest[j]? = some (some other) → Holds other := by
  rw [Nat.forall_lt_succ_left]
  simp only [List.getElem?_cons_zero, List.getElem?_cons_succ, Option.some.injEq]

/-- Behind what is staged already, an offer is answered with yes exactly if it is worth registering
and its name is neither staged nor that of an earlier such offer. -/
theorem getElem?_offerAll_eq_true_iff (layout : Layout) (offers : List (Option Offer))
    (staged : List Offer) (i : Nat) : (offerAll layout.stage staged offers).2[i]? = some true ↔
      ∃ offer, offers[i]? = some (some offer) ∧ layout.IsWorth offer ∧
        (∀ other ∈ staged, other.name ≠ offer.name) ∧
        ∀ j < i, ∀ other, offers[j]? = some (some other) → layout.IsWorth other →
          other.name ≠ offer.name := by
  induction offers generalizing staged i with
  | nil => simp [offerAll]
  | cons head rest ih =>
    cases head with
    | none =>
      cases i with
      | zero => simp [offerAll]
      | succ i =>
        simp only [forall_earlier_cons]
        simpa [offerAll] using ih staged i
    | some first =>
      rw [offerAll]
      rcases layout.stage_cases staged first with ⟨hworth, hstage⟩ | ⟨hrefused, hstage⟩
      · rw [hstage]
        cases i with
        | zero => simpa using hworth
        | succ i =>
          refine (ih (staged ++ [first]) i).trans ?_
          simp only [forall_earlier_cons]
          simp [or_imp, forall_and, hworth.1, and_assoc]
      · rw [hstage]
        cases i with
        | zero => simpa using hrefused
        | succ i =>
          have hfirst (offer : Offer) (hfree : ∀ other ∈ staged, other.name ≠ offer.name)
              (hworth : layout.IsWorth first) : first.name ≠ offer.name := by
            intro heq
            exact hrefused ⟨hworth, heq ▸ hfree⟩
          refine (ih staged i).trans ?_
          simp only [forall_earlier_cons, List.getElem?_cons_succ, Option.some.injEq, forall_eq']
          constructor
          · rintro ⟨offer, hget, hworth, hfree, hearlier⟩
            exact ⟨offer, hget, hworth, hfree, hfirst offer hfree, hearlier⟩
          · rintro ⟨offer, hget, hworth, hfree, -, hearlier⟩
            exact ⟨offer, hget, hworth, hfree, hearlier⟩

/-- An offer is answered with yes exactly if it is the first of its name that is worth registering.
Nobody else's variables matter. -/
theorem getElem?_answers_eq_true_iff {i : Nat} :
    (layout.answers offers)[i]? = some true ↔
      ∃ offer, offers[i]? = some (some offer) ∧ layout.IsWorth offer ∧
        ∀ j < i, ∀ other, offers[j]? = some (some other) → layout.IsWorth other →
          other.name ≠ offer.name := by
  have hstart := layout.getElem?_offerAll_eq_true_iff offers [] i
  simp only [List.not_mem_nil, false_implies, implies_true, true_and] at hstart
  exact hstart

end Layout

/-- The answers are noted in their order, the last one in front. -/
theorem World.journal_noteAnswers (world : World) (tag : UnitTag) (answers : List Bool) :
    (world.noteAnswers tag answers).registry.journal =
      (answers.map (Event.offered tag)).reverse ++ world.registry.journal := by
  induction answers generalizing world with
  | nil => rfl
  | cons answer rest ih =>
    rw [List.map_cons, List.reverse_cons, List.append_assoc]
    exact ih (world.note (.offered tag answer))

/-- What is told to a unit whose initialization succeeds is noted just before its return. -/
theorem World.journal_stageInit {perform : Performer} {origin : Origin} {unit : ProviderUnit}
    {world after : World} {prepared : Prepared}
    (hstage : World.stageInit perform origin unit world = (after, .ok prepared)) :
    ∃ earlier, after.registry.journal = .initReturned unit.tag ::
      ((world.registry.layout.answers unit.provider.enrollment.offers).map
        (Event.offered unit.tag)).reverse ++ earlier := by
  unfold World.stageInit at hstage
  split at hstage
  · next middle offers heq =>
    cases hstage
    unfold World.finishInit at heq
    split at heq
    · next hooked _ =>
      cases hstatus : unit.provider.enrollment.status with
      | ok =>
        simp only [Prod.mk.injEq] at heq
        obtain ⟨rfl, -, -⟩ := heq
        rw [hstatus]
        exact ⟨hooked.registry.journal, congrArg (Event.initReturned unit.tag :: ·)
          (hooked.journal_noteAnswers unit.tag _)⟩
      | failed reason => simp [hstatus] at heq
      | panicked => simp [hstatus] at heq
    · next outcome hnot _ =>
      simp only [Prod.mk.injEq] at heq
      exact (hnot heq.2.2).elim
  · cases hstage
  · cases hstage

/-! ## What is registered -/

/-- What an offer says about the variable. -/
def Offer.face (offer : Offer) : String × String × TypeTag :=
  (offer.name, offer.method, offer.type)

/-- What was said about a variable when it was offered. -/
def Variable.face (variable_ : Variable) : String × String × TypeTag :=
  (variable_.name, variable_.method, variable_.type)

/-- The variables that a module holds, in the order in which they were registered. -/
def Directory.heldBy (directory : Directory) (id : ModuleId) : List Variable :=
  directory.entries.values.filter fun variable_ => variable_.module_ = id

/-- Of offers with different names, those that nobody holds are those whose names nobody holds. -/
theorem Offer.unheld_eq_filter {offers : List Offer} (hnodup : (offers.map Offer.name).Nodup)
    (held : List String) : Offer.unheld held offers = offers.filter (·.name ∉ held) := by
  induction offers generalizing held with
  | nil => rfl
  | cons offer rest ih =>
    rw [List.map_cons, List.nodup_cons] at hnodup
    rw [Offer.unheld]
    by_cases hmem : offer.name ∈ held
    · rw [if_pos hmem, List.filter_cons_of_neg (by simpa using hmem)]
      exact ih hnodup.2 held
    · rw [if_neg hmem, List.filter_cons_of_pos (by simpa using hmem), ih hnodup.2]
      refine congrArg (offer :: ·) (List.filter_congr fun other hother => ?_)
      have hne : other.name ≠ offer.name :=
        fun heq => hnodup.1 (heq ▸ List.mem_map_of_mem hother)
      simp [hne]

namespace Registry

variable {registry after : Registry} {prepared : Prepared} {id : ModuleId}

/-- A module that becomes resident holds what its installation adds. -/
theorem Sound.heldBy_accept (hsound : registry.Sound) (prepared : Prepared) :
    (registry.accept prepared).directory.heldBy registry.nextId = registry.additions prepared := by
  have hvalues : (registry.accept prepared).directory.entries.values =
      registry.directory.entries.values ++ registry.additions prepared :=
    hsound.values_installation prepared
  have hold : registry.directory.entries.values.filter
      (fun variable_ => variable_.module_ = registry.nextId) = [] := by
    rw [List.filter_eq_nil_iff]
    intro variable_ hmem hmodule
    obtain ⟨variableId, hget⟩ := hsound.directory.counted.unique.mem_values_iff.mp hmem
    exact hsound.module_ne_nextId hget (by simpa using hmodule)
  have hnew : (registry.additions prepared).filter
      (fun variable_ => variable_.module_ = registry.nextId) = registry.additions prepared := by
    rw [List.filter_eq_self]
    intro variable_ hmem
    obtain ⟨offer, -, heq⟩ := Directory.exists_of_mem_additions hmem
    rw [heq]
    simp [Directory.fresh]
  rw [Directory.heldBy, hvalues, List.filter_append, hold, hnew, List.nil_append]

/-- A module that is installed is accepted, under the next number. -/
theorem eq_accept_of_install (hinstall : registry.install prepared = (after, .ok id)) :
    after = registry.accept prepared ∧ id = registry.nextId := by
  cases hloaded : registry.isLoaded prepared.unit.name with
  | true =>
    rw [install_of_loaded hloaded] at hinstall
    cases hinstall
  | false =>
    by_cases hshown : (registry.installation prepared).shown = 0
    · rw [install_of_unused hloaded hshown] at hinstall
      cases hinstall
    · rw [install_of_shown hloaded hshown] at hinstall
      cases hinstall
      exact ⟨rfl, rfl⟩

/-- A module that becomes resident holds what was staged, but for the names that were held. -/
theorem Sound.heldBy_install (hsound : registry.Sound)
    (hnodup : (prepared.offers.map Offer.name).Nodup)
    (hinstall : registry.install prepared = (after, .ok id)) :
    (after.directory.heldBy id).map Variable.face =
      (prepared.offers.filter (·.name ∉ registry.directory.names)).map Offer.face := by
  obtain ⟨rfl, rfl⟩ := eq_accept_of_install hinstall
  rw [hsound.heldBy_accept, additions,
    hsound.directory.additions_eq Variable.face Offer.face fun _ _ => rfl,
    Offer.unheld_eq_filter hnodup]

end Registry

/-- What came of the offers of a unit whose module became resident while others held some names:
what it was told, and which variables it holds. -/
structure Honors (layout : Layout) (offers : List (Option Offer)) (taken : List String)
    (found : List Variable) : Prop where
  /-- An offer is answered with yes exactly if it is worth registering and the unit made no such
  offer under its name before. -/
  told : ∀ i : Nat, (layout.answers offers)[i]? = some true ↔
    ∃ offer, offers[i]? = some (some offer) ∧ layout.IsWorth offer ∧
      ∀ j < i, ∀ other, offers[j]? = some (some other) → layout.IsWorth other →
        other.name ≠ offer.name
  /-- The module holds what it was promised, in order, but for the names that others held. -/
  held : found.map Variable.face =
    ((layout.promised offers).filter (·.name ∉ taken)).map Offer.face
  /-- It holds all of it exactly if nobody held a promised name. -/
  whole : found.map Variable.face = (layout.promised offers).map Offer.face ↔
    ∀ offer ∈ layout.promised offers, offer.name ∉ taken

/-- Whatever happens between the initialization of a module and its installation: what it is told is
noted, and it holds what it was promised but for the names that others hold by then. -/
theorem Run.Reachable.offers_held_unless_taken {forced : Bool} {run : Run}
    {perform : World.Performer} {origin : Origin} {unit : ProviderUnit} {world middle : World}
    {prepared : Prepared} {after : Registry} {id : ModuleId} (hreach : Run.Reachable forced run)
    (hstage : World.stageInit perform origin unit world = (middle, .ok prepared))
    (hinstall : run.world.registry.install prepared = (after, .ok id)) :
    (∃ earlier, middle.registry.journal = .initReturned unit.tag ::
      ((world.registry.layout.answers unit.provider.enrollment.offers).map
        (Event.offered unit.tag)).reverse ++ earlier) ∧
    Honors world.registry.layout unit.provider.enrollment.offers run.world.registry.directory.names
      (after.directory.heldBy id) := by
  have hsound : run.world.registry.Sound := hreach.sound.state.booked.modules
  have hprepared := World.prepared_of_stageInit hstage
  have hheld := hsound.heldBy_install (by rw [hprepared]; exact Layout.nodup_staged _ _) hinstall
  rw [hprepared, ← Layout.promised_eq_staged] at hheld
  refine ⟨World.journal_stageInit hstage, fun i => Layout.getElem?_answers_eq_true_iff, hheld, ?_⟩
  rw [hheld]
  constructor
  · intro hsame
    have hlength := congrArg List.length hsame
    rw [List.length_map, List.length_map] at hlength
    have hall := List.filter_sublist.eq_of_length hlength
    simpa using List.filter_eq_self.mp hall
  · intro hfree
    rw [List.filter_eq_self.mpr (by simpa using hfree)]

/-! ## A name that is taken -/

namespace Sample

/-- A module with a door of its own and a gate. -/
def wing : Provider :=
  Script.provider
    { name := "wing"
      offers := [Declared.variableOf "door" 0 0, Declared.variableOf "gate" 0 0]
      methods := []
      hook := none
      openPanics := false
      teardownPanics := false }

/-- The module was opened. -/
def wingUnit : ProviderUnit := ⟨⟨2⟩, wing⟩

/-- The module was initialized. -/
def winged : Prepared :=
  ⟨wingUnit, .builtin "wing", [Declared.variableOf "door" 0 0, Declared.variableOf "gate" 0 0]⟩

/-- The state with the first module resident and the second one on offer. -/
def extended : State :=
  { furnished with registry := furnished.registry.registerBuiltin "wing" wing }

/-- A daemon in which the door is taken. -/
def rival : Run := { empty with world := empty.world.withState extended }

/-- A daemon in which the door is taken is reached, whether or not unloading is forced. -/
theorem reachable_rival (forced : Bool) : Run.Reachable forced rival := by
  have hstart : Run.Reachable forced empty := .start _ .everything .default rfl
  have hinstalled : State.Step forced empty.world.state furnished := .installed _
  have hprovided : State.Step forced furnished extended := .provided _ _
  have hsteps : State.Steps forced empty.world.state rival.world.state :=
    (Relation.ReflTransGen.single hinstalled).tail hprovided
  exact hstart.outside hsteps

end Sample

/-- A module initializes while the door is free, and is installed when another one has it. -/
theorem offers_held_unless_taken_rival :
    (World.stageInit World.perform (.builtin "wing") Sample.wingUnit Sample.empty.world).2 =
        .ok Sample.winged ∧
      (Sample.rival.world.registry.install Sample.winged).2 = .ok ⟨2⟩ ∧
      Honors .everything Sample.wing.enrollment.offers ["door"]
        ((Sample.rival.world.registry.install Sample.winged).1.directory.heldBy ⟨2⟩) :=
  ⟨rfl, rfl, (Run.Reachable.offers_held_unless_taken (Sample.reachable_rival false)
    (show World.stageInit World.perform (.builtin "wing") Sample.wingUnit Sample.empty.world =
      (_, .ok Sample.winged) from rfl)
    (show Sample.rival.world.registry.install Sample.winged = (_, .ok ⟨2⟩) from rfl)).2⟩

/-- What a module is promised and what it holds may differ: a module that is loaded while another
one has the door is told that its own door was registered, and does not hold it. -/
theorem promised_though_taken :
    ¬∀ (run : Run) (origin : Origin) (provider : Provider) (after : World) (id : ModuleId),
      Run.Reachable false run → run.world.candidate? origin = some provider →
      run.world.load origin = (after, .ok id) →
      (after.registry.directory.heldBy id).map Variable.face =
        (run.world.registry.layout.promised provider.enrollment.offers).map Offer.face := by
  intro hpromise
  have hsame := hpromise Sample.rival (.builtin "wing") Sample.wing
    (Sample.rival.world.load (.builtin "wing")).1 ⟨2⟩ (Sample.reachable_rival false) rfl rfl
  have hheld : ((Sample.rival.world.load (.builtin "wing")).1.registry.directory.heldBy ⟨2⟩).map
      Variable.face = [("gate", "gate", .ofBits 0)] := rfl
  have hpromised : (Sample.rival.world.registry.layout.promised
      Sample.wing.enrollment.offers).map Offer.face =
        [("door", "door", .ofBits 0), ("gate", "gate", .ofBits 0)] := rfl
  rw [hheld, hpromised] at hsame
  simp at hsame

end MetricsDaemon
