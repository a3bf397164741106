import MetricsDaemon.Proofs.Deeds

/-!
# Accounts of units

The journal says how often a unit was opened, entered, returned from and torn down. A
unit is opened once at most, and each time that its initialization returned is settled:
the unit was torn down, or it is prepared or resident. So nothing is done to a unit
after it was torn down.
-/

namespace MetricsDaemon

/-- The unit that an event is about. -/
@[simp] def Event.unit : Event → UnitTag
  | .opened unit | .initEntered unit _ | .offered unit _ | .initReturned unit
  | .methodAsked unit _ _ | .invoked unit _ _ | .tornDown unit => unit

/-- Whether an event is one of those that the accounts of units count. -/
def Event.isCounted : Event → Bool
  | .opened _ | .initEntered _ _ | .initReturned _ | .tornDown _ => true
  | _ => false

/-- Whether an event is the beginning or the end of an initialization. -/
def Event.isInit : Event → Bool
  | .initEntered _ _ | .initReturned _ => true
  | _ => false

namespace Journal

variable (journal : Journal) (tag : UnitTag)

/-- How often a unit was opened. -/
def openings : Nat := journal.count (.opened tag)

/-- Whether the initialization of a unit was entered. -/
def enters (tag : UnitTag) : Event → Bool
  | .initEntered unit _ => decide (unit = tag)
  | _ => false

/-- How often the initialization of a unit was entered. -/
def entries : Nat := journal.countP (enters tag)

/-- How often the initialization of a unit returned. -/
def returns : Nat := journal.count (.initReturned tag)

/-- How often a unit was torn down. -/
def teardowns : Nat := journal.count (.tornDown tag)

variable {event : Event}

/-- One event more is one opening more, if it opens the unit. -/
@[simp] theorem openings_cons : openings (event :: journal) tag =
    openings journal tag + if event = .opened tag then 1 else 0 := by
  simp [openings, List.count_cons]

/-- One event more is one entry more, if it enters the initialization of the unit. -/
@[simp] theorem entries_cons : entries (event :: journal) tag =
    entries journal tag + if enters tag event then 1 else 0 := by
  simp [entries, List.countP_cons]

/-- One event more is one return more, if the initialization of the unit returned. -/
@[simp] theorem returns_cons : returns (event :: journal) tag =
    returns journal tag + if event = .initReturned tag then 1 else 0 := by
  simp [returns, List.count_cons]

/-- One event more is one teardown more, if it tears the unit down. -/
@[simp] theorem teardowns_cons : teardowns (event :: journal) tag =
    teardowns journal tag + if event = .tornDown tag then 1 else 0 := by
  simp [teardowns, List.count_cons]

end Journal

namespace Registry

/-- How many modules a unit is resident as. -/
def residents (registry : Registry) (tag : UnitTag) : Nat :=
  registry.modules.values.countP fun module_ => decide (module_.unit.tag = tag)

variable {registry before after : Registry} {tag : UnitTag} {id : ModuleId} {module_ : Module}
  {prepared : Prepared} {unloads : Bool}

/-- The unit of a resident module is resident. -/
theorem residents_pos (hget : registry.get? id = some module_) :
    0 < registry.residents module_.unit.tag :=
  List.countP_pos_iff.mpr ⟨module_, Table.mem_values_of_get? hget, by simp⟩

/-- A unit that is resident is the unit of a resident module. -/
theorem Sound.exists_of_residents_pos (hsound : registry.Sound)
    (hpos : 0 < registry.residents tag) :
    ∃ id module_, registry.get? id = some module_ ∧ module_.unit.tag = tag := by
  obtain ⟨module_, hmem, htag⟩ := List.countP_pos_iff.mp hpos
  exact ⟨module_.id, module_, hsound.mem_values_iff.mp hmem, by simpa using htag⟩

/-- Counting clients leaves the residents as they are. -/
@[simp] theorem residents_recount {change : Nat → Nat} :
    (registry.recount id change).residents tag = registry.residents tag :=
  Table.countP_values_modify _ fun _ => rfl

/-- Binding a method leaves the residents as they are. -/
@[simp] theorem residents_bind {unit : ProviderUnit} {variableId : VariableId} :
    (registry.bind unit variableId).residents tag = registry.residents tag := by
  rw [residents, residents, modules_bind]

/-- With the module that is unloaded its unit is resident no more. -/
theorem residents_unload (hsound : registry.Sound) (hget : registry.get? id = some module_) :
    (registry.unload id).residents tag + (decide (module_.unit.tag = tag)).toNat =
      registry.residents tag := by
  rw [residents, modules_unload hget]
  exact hsound.counted.unique.countP_values_erase _ hget

/-- With the module that is taken in its unit becomes resident. -/
theorem residents_accept (hsound : registry.Sound) : (registry.accept prepared).residents tag =
    registry.residents tag + (decide (prepared.unit.tag = tag)).toNat :=
  Table.countP_values_put_of_get?_eq_none _ hsound.get?_nextId

/-- What is noted comes first in the journal. -/
@[simp] theorem journal_note {event : Event} :
    (registry.note event).journal = event :: registry.journal := rfl

/-- To note an event leaves the residents as they are. -/
@[simp] theorem residents_note {event : Event} :
    (registry.note event).residents tag = registry.residents tag := rfl

/-- To unload a resident module is to tear its unit down. -/
theorem journal_unload (hget : registry.get? id = some module_) :
    (registry.unload id).journal = .tornDown module_.unit.tag :: registry.journal := by
  simp [unload, hget, tearDown, note]

/-- Installing notes nothing but that the unit was torn down. -/
theorem journal_install : (registry.install prepared).1.journal = registry.journal ∨
    (registry.install prepared).1.journal =
      .tornDown prepared.unit.tag :: registry.journal := by
  rcases registry.install_cases prepared with h | h | ⟨_, h⟩
  · exact .inr (by rw [h]; rfl)
  · exact .inr (by rw [h]; rfl)
  · exact .inl (by rw [h]; rfl)

/-- An act notes that a resident unit was asked for a method or torn down, or nothing. -/
theorem journal_act (hact : Act unloads before after) : after.journal = before.journal ∨
    ∃ event : Event, event.isInit = false ∧ 0 < before.residents event.unit ∧
      after.journal = event :: before.journal := by
  cases hact with
  | provided | counted | sampled => exact .inl rfl
  | @bound id variable_ module_ hvariable hmodule =>
    rcases before.journal_bind module_.unit id with h | ⟨method, h⟩
    · exact .inl h
    · exact .inr ⟨.methodAsked module_.unit.tag id method, rfl, residents_pos hmodule, h⟩
  | unloaded id hmay =>
    cases hget : before.get? id with
    | none => exact .inl (by rw [unload_of_get?_eq_none hget])
    | some module_ =>
      exact .inr ⟨.tornDown module_.unit.tag, rfl, residents_pos hget, journal_unload hget⟩

end Registry

namespace Holding

/-- Whether a unit is held before its initialization. -/
@[simp] def waits (tag : UnitTag) : Holding → Bool
  | .opened unit => decide (unit.tag = tag)
  | _ => false

/-- Whether a unit is held in the middle of its initialization. -/
@[simp] def runs (tag : UnitTag) : Holding → Bool
  | .initializing unit => decide (unit.tag = tag)
  | _ => false

/-- Whether a unit is held after its initialization. -/
@[simp] def rests (tag : UnitTag) : Holding → Bool
  | .prepared kept => decide (kept.unit.tag = tag)
  | _ => false

variable {holdings other : List Holding} {holding : Holding} {tag : UnitTag}

/-- How often a unit is held before its initialization. -/
def waiting (holdings : List Holding) (tag : UnitTag) : Nat := holdings.countP (waits tag)

/-- How often a unit is held in the middle of its initialization. -/
def running (holdings : List Holding) (tag : UnitTag) : Nat := holdings.countP (runs tag)

/-- How often a unit is held after its initialization. -/
def resting (holdings : List Holding) (tag : UnitTag) : Nat := holdings.countP (rests tag)

/-- Who holds nothing has no unit that waits to be entered. -/
@[simp] theorem waiting_nil : waiting [] tag = 0 := rfl

/-- Who holds nothing has no unit that is being initialized. -/
@[simp] theorem running_nil : running [] tag = 0 := rfl

/-- Who holds nothing has no unit that is prepared. -/
@[simp] theorem resting_nil : resting [] tag = 0 := rfl

/-- One holding more is one unit more that waits, if it is held unentered. -/
@[simp] theorem waiting_cons : waiting (holding :: holdings) tag =
    waiting holdings tag + if waits tag holding then 1 else 0 :=
  List.countP_cons

/-- One holding more is one unit more that is being initialized, if it is held so. -/
@[simp] theorem running_cons : running (holding :: holdings) tag =
    running holdings tag + if runs tag holding then 1 else 0 :=
  List.countP_cons

/-- One holding more is one prepared unit more, if it is held so. -/
@[simp] theorem resting_cons : resting (holding :: holdings) tag =
    resting holdings tag + if rests tag holding then 1 else 0 :=
  List.countP_cons

end Holding

namespace Stock

open Holding (waiting running resting waits runs rests)

/-- A unit was opened once at most, is in one place at a time, and if its initialization returned it
was torn down, is resident, or is prepared. -/
structure Fair (stock : Stock) (tag : UnitTag) : Prop where
  unopened : stock.lastUnit < tag.id.number → stock.registry.journal.openings tag = 0
  opened : stock.registry.journal.openings tag ≤ 1
  entered : waiting stock.holdings tag + stock.registry.journal.entries tag ≤
    stock.registry.journal.openings tag
  returned : running stock.holdings tag + stock.registry.journal.returns tag ≤
    stock.registry.journal.entries tag
  settled : stock.registry.journal.returns tag =
    stock.registry.journal.teardowns tag + stock.registry.residents tag +
      resting stock.holdings tag

/-- Every unit is accounted for. -/
structure Balanced (stock : Stock) : Prop where
  registry : stock.registry.Sound
  fair : ∀ tag, stock.Fair tag

variable {alone unloads : Bool} {stock before after : Stock} {tag : UnitTag}
  {registry later : Registry} {last next : Nat} {holdings other : List Holding}
  {unit : ProviderUnit} {prepared : Prepared} {holding : Holding} {event : Event}

/-- The accounts do not change with an event that is not counted. -/
theorem Fair.of_uncounted (hfair : Fair ⟨registry, last, holdings⟩ tag)
    (hresidents : later.residents tag = registry.residents tag)
    (hjournal : later.journal = registry.journal ∨
      ∃ event : Event, event.isCounted = false ∧ later.journal = event :: registry.journal) :
    Fair ⟨later, last, holdings⟩ tag := by
  obtain ⟨hunopened, hopened, hentered, hreturned, hsettled⟩ := hfair
  rcases hjournal with h | ⟨event, huncounted, h⟩
  · constructor <;> simpa only [h, hresidents]
  · cases event with
    | offered unit answer => constructor <;> simpa [h, hresidents, Journal.enters]
    | methodAsked unit id method => constructor <;> simpa [h, hresidents, Journal.enters]
    | invoked unit method argument => constructor <;> simpa [h, hresidents, Journal.enters]
    | _ => cases huncounted

/-! ## Deeds with a unit -/

/-- The accounts stay fair when a unit is opened under the next number and held. -/
theorem fair_opened {provider : Provider} (hfair : Fair ⟨registry, last, holdings⟩ tag) :
    Fair ⟨registry.note (.opened (ProviderUnit.mk ⟨last + 1⟩ provider).tag), last + 1,
      .opened ⟨⟨last + 1⟩, provider⟩ :: holdings⟩ tag := by
  obtain ⟨hunopened, hopened, hentered, hreturned, hsettled⟩ := hfair
  have hnumber : (ProviderUnit.mk ⟨last + 1⟩ provider).tag = tag → tag.id.number = last + 1 := by
    rintro rfl
    rfl
  by_cases heq : (ProviderUnit.mk ⟨last + 1⟩ provider).tag = tag <;> constructor <;>
  · simp [Journal.enters, heq] at *
    omega

/-- The accounts stay fair when the initialization of a unit that is held is entered. -/
theorem fair_entered {hooked : Bool} (hfair : Fair ⟨registry, last, .opened unit :: holdings⟩ tag) :
    Fair ⟨registry.note (.initEntered unit.tag hooked), last, .initializing unit :: holdings⟩
      tag := by
  obtain ⟨hunopened, hopened, hentered, hreturned, hsettled⟩ := hfair
  by_cases heq : unit.tag = tag <;> constructor <;>
  · simp [Journal.enters, heq] at *
    omega

/-- The accounts stay fair when an initialization returns and its unit is held prepared. -/
theorem fair_returned (hfair : Fair ⟨registry, last, .initializing prepared.unit :: holdings⟩ tag) :
    Fair ⟨registry.note (.initReturned prepared.unit.tag), last, .prepared prepared :: holdings⟩
      tag := by
  obtain ⟨hunopened, hopened, hentered, hreturned, hsettled⟩ := hfair
  by_cases heq : prepared.unit.tag = tag <;> constructor <;>
  · simp [Journal.enters, heq] at *
    omega

/-- The accounts stay fair when a unit is dropped that is not prepared. -/
theorem fair_dropped (hfair : Fair ⟨registry, last, holding :: holdings⟩ tag)
    (hloose : ∀ prepared, holding ≠ .prepared prepared) :
    Fair ⟨registry, last, holdings⟩ tag := by
  obtain ⟨hunopened, hopened, hentered, hreturned, hsettled⟩ := hfair
  cases holding with
  | prepared kept => exact absurd rfl (hloose kept)
  | opened unit =>
    constructor <;> simp at * <;> omega
  | initializing unit =>
    constructor <;> simp at * <;> omega

/-- The accounts stay fair when a prepared unit is torn down instead of installed. -/
theorem fair_discarded (hfair : Fair ⟨registry, last, .prepared prepared :: holdings⟩ tag) :
    Fair ⟨registry.tearDown prepared.unit, last, holdings⟩ tag := by
  obtain ⟨hunopened, hopened, hentered, hreturned, hsettled⟩ := hfair
  by_cases heq : prepared.unit.tag = tag <;> constructor <;>
  · simp [Registry.tearDown, Journal.enters, heq] at *
    omega

/-- A module that is installed is torn down or becomes resident. -/
theorem fair_installed (hsound : registry.Sound)
    (hfair : Fair ⟨registry, last, .prepared prepared :: holdings⟩ tag) :
    Fair ⟨(registry.install prepared).1, last, holdings⟩ tag := by
  rcases registry.install_cases prepared with h | h | ⟨_, h⟩
  · rw [h]
    exact fair_discarded hfair
  · rw [h]
    have hdiscarded : Fair ⟨registry.tearDown prepared.unit, last, holdings⟩ tag :=
      fair_discarded hfair
    exact ⟨hdiscarded.unopened, hdiscarded.opened, hdiscarded.entered, hdiscarded.returned,
      hdiscarded.settled⟩
  · have hjournal : (registry.accept prepared).journal = registry.journal := rfl
    have hresidents : (registry.accept prepared).residents tag =
        registry.residents tag + (decide (prepared.unit.tag = tag)).toNat :=
      Registry.residents_accept hsound
    obtain ⟨hunopened, hopened, hentered, hreturned, hsettled⟩ := hfair
    rw [h]
    by_cases heq : prepared.unit.tag = tag <;> constructor <;>
    · simp [hjournal, hresidents, heq] at *
      omega

/-- The accounts do not depend on the order of what is held. -/
theorem fair_shuffled (hfair : Fair ⟨registry, last, holdings⟩ tag) (hperm : holdings.Perm other) :
    Fair ⟨registry, last, other⟩ tag := by
  have hcount (p : Holding → Bool) : other.countP p = holdings.countP p := (hperm.countP_eq p).symm
  obtain ⟨hunopened, hopened, hentered, hreturned, hsettled⟩ := hfair
  constructor <;> simpa only [waiting, running, resting, hcount]

/-! ## Acts on the registry -/

/-- The accounts stay fair when a module is unloaded. -/
theorem fair_unloaded {id : ModuleId} (hsound : registry.Sound)
    (hfair : Fair ⟨registry, last, holdings⟩ tag) :
    Fair ⟨registry.unload id, last, holdings⟩ tag := by
  cases hget : registry.get? id with
  | none => rwa [Registry.unload_of_get?_eq_none hget]
  | some module_ =>
    have hresidents : (registry.unload id).residents tag +
        (decide (module_.unit.tag = tag)).toNat = registry.residents tag :=
      Registry.residents_unload hsound hget
    obtain ⟨hunopened, hopened, hentered, hreturned, hsettled⟩ := hfair
    by_cases heq : module_.unit.tag = tag <;> constructor <;>
    · simp [Registry.journal_unload hget, Journal.enters, heq] at *
      omega

/-- The accounts stay fair whatever act is done. -/
theorem fair_act (hsound : registry.Sound) (hact : registry.Act unloads later)
    (hfair : Fair ⟨registry, last, holdings⟩ tag) : Fair ⟨later, last, holdings⟩ tag := by
  cases hact with
  | provided name provider => exact hfair.of_uncounted rfl (.inl rfl)
  | sampled id arg now checksum => exact hfair.of_uncounted rfl (.inl rfl)
  | counted id change => exact hfair.of_uncounted Registry.residents_recount (.inl rfl)
  | @bound id variable_ module_ hvariable hmodule =>
    refine hfair.of_uncounted Registry.residents_bind ?_
    rcases registry.journal_bind module_.unit id with h | ⟨method, h⟩
    · exact .inl h
    · exact .inr ⟨_, rfl, h⟩
  | unloaded id hmay => exact fair_unloaded hsound hfair

/-! ## Every deed -/

/-- Every deed leaves the accounts balanced. -/
theorem Balanced.deed (hbalanced : before.Balanced) (hdeed : Deed alone unloads before after) :
    after.Balanced := by
  have hsound := hbalanced.registry
  have hnoted {registry : Registry} (hsound : registry.Sound) (event : Event) :
      (registry.note event).Sound := hsound.of_tables_eq rfl rfl rfl rfl
  cases hdeed with
  | acted hact => exact ⟨hsound.act hact, fun tag => fair_act hsound hact (hbalanced.fair tag)⟩
  | opened provider => exact ⟨hnoted hsound _, fun tag => fair_opened (hbalanced.fair tag)⟩
  | entered hooked halone =>
    exact ⟨hnoted hsound _, fun tag => fair_entered (hbalanced.fair tag)⟩
  | offered answer =>
    exact ⟨hnoted hsound _, fun tag =>
      (hbalanced.fair tag).of_uncounted rfl (.inr ⟨_, rfl, rfl⟩)⟩
  | returned prepared hworth =>
    exact ⟨hnoted hsound _, fun tag => fair_returned (hbalanced.fair tag)⟩
  | dropped hloose => exact ⟨hsound, fun tag => fair_dropped (hbalanced.fair tag) hloose⟩
  | discarded prepared =>
    exact ⟨hsound.tearDown, fun tag => fair_discarded (hbalanced.fair tag)⟩
  | installed prepared =>
    exact ⟨hsound.install, fun tag => fair_installed hsound (hbalanced.fair tag)⟩
  | shuffled hperm => exact ⟨hsound, fun tag => fair_shuffled (hbalanced.fair tag) hperm⟩

/-- However many deeds are done, the accounts stay balanced. -/
theorem Balanced.deeds (hbalanced : before.Balanced) (hdeeds : Deeds alone unloads before after) :
    after.Balanced := by
  induction hdeeds with
  | refl => exact hbalanced
  | tail _ hdeed ih => exact ih.deed hdeed

/-! ## Nothing after a teardown -/

/-- A unit that is not opened yet, that somebody holds, or that is resident was not torn down. -/
theorem Fair.not_tornDown (hfair : stock.Fair tag)
    (hlive : stock.registry.journal.openings tag = 0 ∨ 0 < waiting stock.holdings tag ∨
      0 < running stock.holdings tag ∨ 0 < resting stock.holdings tag ∨
      0 < stock.registry.residents tag) :
    .tornDown tag ∉ stock.registry.journal := by
  obtain ⟨_, hopened, hentered, hreturned, hsettled⟩ := hfair
  have hnone : stock.registry.journal.teardowns tag = 0 := by omega
  rwa [Journal.teardowns, List.count_eq_zero] at hnone

/-- A deed notes one event at most, and never about a unit that was torn down before. -/
theorem Balanced.journal_deed (hbalanced : before.Balanced)
    (hdeed : Deed alone unloads before after) :
    after.registry.journal = before.registry.journal ∨
    ∃ event : Event, after.registry.journal = event :: before.registry.journal ∧
      .tornDown event.unit ∉ before.registry.journal := by
  have hfair := hbalanced.fair
  cases hdeed with
  | acted hact =>
    rcases Registry.journal_act hact with h | ⟨event, _, hpos, h⟩
    · exact .inl h
    · exact .inr ⟨event, h, (hfair _).not_tornDown (.inr (.inr (.inr (.inr hpos))))⟩
  | @opened registry last holdings provider =>
    have hnone := (hfair (ProviderUnit.mk ⟨last + 1⟩ provider).tag).unopened (Nat.lt_succ_self _)
    exact .inr ⟨_, rfl, (hfair _).not_tornDown (.inl hnone)⟩
  | entered => exact .inr ⟨_, rfl, (hfair _).not_tornDown (.inr (.inl (by simp)))⟩
  | offered => exact .inr ⟨_, rfl, (hfair _).not_tornDown (.inr (.inr (.inl (by simp))))⟩
  | returned => exact .inr ⟨_, rfl, (hfair _).not_tornDown (.inr (.inr (.inl (by simp))))⟩
  | dropped | shuffled => exact .inl rfl
  | discarded =>
    exact .inr ⟨_, rfl, (hfair _).not_tornDown (.inr (.inr (.inr (.inl (by simp)))))⟩
  | @installed registry last holdings prepared =>
    have hlive := (hfair prepared.unit.tag).not_tornDown (.inr (.inr (.inr (.inl (by simp)))))
    rcases registry.journal_install with h | h
    · exact .inl h
    · exact .inr ⟨_, h, hlive⟩

end Stock

/-- No event is about a unit that was torn down before. -/
def Journal.Final (journal : Journal) : Prop :=
  journal.Pairwise fun later earlier => earlier ≠ .tornDown later.unit

/-- Nothing is done to a unit after its teardown, if the newest event is about a unit that was not
torn down. -/
theorem Journal.Final.cons {journal : Journal} {event : Event} (hfinal : journal.Final)
    (hlive : .tornDown event.unit ∉ journal) : Final (event :: journal) :=
  List.pairwise_cons.mpr ⟨fun _ hmem heq => hlive (heq ▸ hmem), hfinal⟩

/-- However many deeds are done, nothing is done to a unit after it was torn down. -/
theorem Stock.Balanced.final_deeds {alone unloads : Bool} {before after : Stock}
    (hbalanced : before.Balanced) (hfinal : before.registry.journal.Final)
    (hdeeds : Deeds alone unloads before after) : after.registry.journal.Final := by
  induction hdeeds with
  | refl => exact hfinal
  | tail hdeeds hdeed ih =>
    rcases (hbalanced.deeds hdeeds).journal_deed hdeed with h | ⟨event, h, hlive⟩
    · rwa [h]
    · rw [h]
      exact ih.cons hlive

end MetricsDaemon
