import MetricsDaemon.Proofs.Whole

/-!
# No module is initialized twice

A load on demand looks for a resident module of the name before it initializes its own,
and the gate keeps every other load out until it has installed it. So whenever an
initialization is entered, no other unit of the name is live.
-/

namespace MetricsDaemon

open Stock (Deed Deeds)

/-! ## Units and the names of modules -/

namespace Registry

/-- Every resident module has the name of its unit. -/
def Titled (registry : Registry) : Prop :=
  ∀ id module_, registry.get? id = some module_ → module_.name = module_.unit.name

variable {registry before after : Registry} {unloads : Bool} {prepared : Prepared}
  {tag : UnitTag} {name other : String}

/-- An act leaves every module with the name of its unit. -/
theorem Titled.act (htitled : before.Titled) (hact : Act unloads before after) :
    after.Titled := by
  intro id found hget
  obtain ⟨module_, hmodule, hsame⟩ := hact.resident hget
  rw [hsame]
  exact htitled id module_ hmodule

/-- An installation leaves every module with the name of its unit. -/
theorem Titled.install (htitled : registry.Titled) : (registry.install prepared).1.Titled := by
  intro id module_ hget
  rcases resident_of_install hget with hold | ⟨_, rfl⟩
  · exact htitled id module_ hold
  · rfl

/-- A unit that is resident occupies its name. -/
theorem Titled.isLoaded (htitled : registry.Titled) (hsound : registry.Sound)
    (hresident : 0 < registry.residents tag) : registry.isLoaded tag.name = true := by
  obtain ⟨id, module_, hget, rfl⟩ := hsound.exists_of_residents_pos hresident
  have hname : module_.name = module_.unit.tag.name := htitled id module_ hget
  have hindex : registry.idOf? module_.unit.tag.name = some id :=
    hsound.named.mpr ⟨module_, hget, by rw [hname]⟩
  rw [Registry.isLoaded, hindex]
  rfl

/-- Names that differ in case only are occupied together. -/
theorem isLoaded_eq_of_lowercase_eq (h : Text.lowercase name = Text.lowercase other) :
    registry.isLoaded name = registry.isLoaded other := by
  rw [isLoaded, isLoaded, idOf?, idOf?, h]

end Registry

/-! ## One initialization at a time -/

/-- Of two events of a journal one was noted after the other. -/
theorem Journal.suffix_of_mem {journal : Journal} {first second : Event} (hne : first ≠ second)
    (hfirst : first ∈ journal) (hsecond : second ∈ journal) :
    (∃ past, first :: past <:+ journal ∧ second ∈ past) ∨
      ∃ past, second :: past <:+ journal ∧ first ∈ past := by
  obtain ⟨newer, past, rfl⟩ := List.append_of_mem hfirst
  rcases List.mem_append.mp hsecond with hnewer | holder
  · obtain ⟨newest, middle, rfl⟩ := List.append_of_mem hnewer
    exact .inr ⟨middle ++ first :: past, ⟨newest, by simp⟩, by simp⟩
  · have hmem : second ∈ past := by
      rcases List.mem_cons.mp holder with rfl | hmem
      · exact absurd rfl hne
      · exact hmem
    exact .inl ⟨past, ⟨newer, rfl⟩, hmem⟩

namespace Stock

open Holding (waiting running resting)

/-- The initialization of the unit did not panic: it returned, or somebody is still in it. -/
def Intact (stock : Stock) (tag : UnitTag) : Prop :=
  .initReturned tag ∈ stock.registry.journal ∨ 0 < running stock.holdings tag

/-- At an earlier moment the initialization of the unit had been entered, and the unit had not been
torn down yet; nor has its initialization panicked so far. -/
structure Live (stock : Stock) (past : Journal) (tag : UnitTag) : Prop where
  entered : ∃ hooked, .initEntered tag hooked ∈ past
  standing : .tornDown tag ∉ past
  intact : stock.Intact tag

/-- Whenever an initialization was entered, the live units had other names. -/
def Alone (stock : Stock) : Prop :=
  ∀ tag hooked past, .initEntered tag hooked :: past <:+ stock.registry.journal →
    ∀ rival, stock.Live past rival → Text.lowercase rival.name ≠ Text.lowercase tag.name

variable {unloads : Bool} {before after : Stock} {registry : Registry} {last : Nat}
  {holdings : List Holding} {unit : ProviderUnit} {tag rival : UnitTag} {hooked : Bool}

/-- An entry that is not the newest event was noted before. -/
theorem suffix_of_cons {event : Event} {past journal : Journal}
    (hevent : ∀ tag hooked, event ≠ .initEntered tag hooked)
    (hsuffix : .initEntered tag hooked :: past <:+ event :: journal) :
    .initEntered tag hooked :: past <:+ journal := by
  rcases List.suffix_cons_iff.mp hsuffix with heq | hsuffix
  · cases heq
    exact absurd rfl (hevent tag hooked)
  · exact hsuffix

/-- Who neither enters an initialization nor returns from one leaves everybody as alone as
before. -/
theorem Alone.quiet (halone : before.Alone)
    (hjournal : after.registry.journal = before.registry.journal ∨ ∃ event : Event,
      event.isInit = false ∧ after.registry.journal = event :: before.registry.journal)
    (hruns : ∀ tag, running after.holdings tag ≤ running before.holdings tag) : after.Alone := by
  intro tag hooked past hsuffix rival hlive
  have hkept : .initEntered tag hooked :: past <:+ before.registry.journal ∧
      (.initReturned rival ∈ after.registry.journal →
        .initReturned rival ∈ before.registry.journal) := by
    rcases hjournal with h | ⟨event, hquiet, h⟩
    · rw [h] at hsuffix ⊢
      exact ⟨hsuffix, fun hmem => hmem⟩
    · rw [h] at hsuffix ⊢
      refine ⟨suffix_of_cons (by rintro _ _ rfl; cases hquiet) hsuffix, fun hmem => ?_⟩
      rcases List.mem_cons.mp hmem with rfl | hmem
      · cases hquiet
      · exact hmem
  have hintact : before.Intact rival :=
    hlive.intact.imp hkept.2 fun hpos => Nat.lt_of_lt_of_le hpos (hruns rival)
  exact halone tag hooked past hkept.1 rival ⟨hlive.entered, hlive.standing, hintact⟩

/-- Whoever returns from an initialization was in it. -/
theorem Alone.returned {prepared : Prepared}
    (halone : Alone ⟨registry, last, .initializing prepared.unit :: holdings⟩) :
    Alone ⟨registry.note (.initReturned prepared.unit.tag), last,
      .prepared prepared :: holdings⟩ := by
  intro tag hooked past hsuffix rival hlive
  have hintact : Intact ⟨registry, last, .initializing prepared.unit :: holdings⟩ rival := by
    rcases hlive.intact with hreturned | hruns
    · rcases List.mem_cons.mp hreturned with heq | hreturned
      · cases heq
        exact .inr (by simp)
      · exact .inl hreturned
    · exact .inr (Nat.lt_of_lt_of_le hruns (by simp))
  exact halone tag hooked past (suffix_of_cons (fun _ _ h => by cases h) hsuffix) rival
    ⟨hlive.entered, hlive.standing, hintact⟩

/-- A unit that waits for its initialization has not entered it yet. -/
theorem Fair.not_entered (hfair : before.Fair tag) (hwaits : 0 < waiting before.holdings tag) :
    .initEntered tag hooked ∉ before.registry.journal := by
  intro hmem
  obtain ⟨_, hopened, hentered, _, _⟩ := hfair
  have hpos : 0 < before.registry.journal.entries tag :=
    List.countP_pos_iff.mpr ⟨_, hmem, by simp [Journal.enters]⟩
  omega

/-- If nobody holds another unit, a unit that returned and was not torn down is resident. -/
theorem Fair.resident (hfair : before.Fair tag) (hresting : resting before.holdings tag = 0)
    (hreturned : .initReturned tag ∈ before.registry.journal)
    (hstanding : .tornDown tag ∉ before.registry.journal) :
    0 < before.registry.residents tag := by
  have hpos : 0 < before.registry.journal.returns tag := List.count_pos_iff.mpr hreturned
  have hnone : before.registry.journal.teardowns tag = 0 := List.count_eq_zero.mpr hstanding
  have hsettled := hfair.settled
  omega

/-- Who enters an initialization while nobody holds another unit and no module of the name is
resident is alone. -/
theorem Alone.entered (halone : Alone ⟨registry, last, [.opened unit]⟩)
    (hbalanced : Balanced ⟨registry, last, [.opened unit]⟩) (htitled : registry.Titled)
    (hfree : registry.isLoaded unit.name = false) :
    Alone ⟨registry.note (.initEntered unit.tag hooked), last, [.initializing unit]⟩ := by
  intro tag flag past hsuffix rival hlive
  have hwaits : 0 < waiting [.opened unit] unit.tag := by simp
  have hpast : past ⊆ registry.journal := by
    rcases List.suffix_cons_iff.mp hsuffix with heq | hsuffix
    · cases heq
      exact List.Subset.refl _
    · exact fun event hmem => hsuffix.subset (List.mem_cons_of_mem _ hmem)
  have hother : unit.tag ≠ rival := by
    rintro rfl
    obtain ⟨flag, hentered⟩ := hlive.entered
    exact (hbalanced.fair unit.tag).not_entered hwaits (hpast hentered)
  have hreturned : .initReturned rival ∈ registry.journal := by
    rcases hlive.intact with hreturned | hruns
    · rcases List.mem_cons.mp hreturned with h | hreturned
      · cases h
      · exact hreturned
    · simp [hother] at hruns
  rcases List.suffix_cons_iff.mp hsuffix with heq | hsuffix
  · cases heq
    have hresident : 0 < registry.residents rival :=
      (hbalanced.fair rival).resident (by simp) hreturned hlive.standing
    have hloaded := htitled.isLoaded hbalanced.registry hresident
    intro hname
    rw [Registry.isLoaded_eq_of_lowercase_eq hname] at hloaded
    exact absurd (hloaded.symm.trans hfree) nofun
  · exact halone tag flag past hsuffix rival ⟨hlive.entered, hlive.standing, .inl hreturned⟩

/-- Whoever is live now was live at every moment since the initialization was entered. -/
theorem Live.earlier {event : Event} {past : Journal}
    (hlive : before.Live before.registry.journal tag)
    (hsuffix : event :: past <:+ before.registry.journal)
    (hentered : .initEntered tag hooked ∈ past) : before.Live past tag where
  entered := ⟨hooked, hentered⟩
  standing hmem := hlive.standing (hsuffix.subset (List.mem_cons_of_mem _ hmem))
  intact := hlive.intact

/-- No two live units have the same name. -/
theorem Alone.eq_of_live (halone : before.Alone)
    (htag : before.Live before.registry.journal tag)
    (hrival : before.Live before.registry.journal rival)
    (hname : Text.lowercase tag.name = Text.lowercase rival.name) : tag = rival := by
  by_contra hne
  obtain ⟨hooked, hentered⟩ := htag.entered
  obtain ⟨flag, hentered'⟩ := hrival.entered
  have hevents : Event.initEntered tag hooked ≠ .initEntered rival flag := by
    intro heq
    cases heq
    exact hne rfl
  rcases Journal.suffix_of_mem hevents hentered hentered' with ⟨past, hsuffix, hmem⟩ |
    ⟨past, hsuffix, hmem⟩
  · exact halone tag hooked past hsuffix rival (hrival.earlier hsuffix hmem) hname.symm
  · exact halone rival flag past hsuffix tag (htag.earlier hsuffix hmem) hname

/-- A deed leaves every module with the name of its unit. -/
theorem Deed.titled {alone : Bool} (hdeed : Deed alone unloads before after)
    (htitled : before.registry.Titled) : after.registry.Titled := by
  cases hdeed with
  | acted hact => exact htitled.act hact
  | installed prepared => exact htitled.install
  | _ => exact htitled

/-- A deed where initializations are alone enters none while a live unit has the name. -/
theorem Alone.deed (halone : before.Alone) (hbalanced : before.Balanced)
    (htitled : before.registry.Titled) (hdeed : Deed true unloads before after) :
    after.Alone := by
  cases hdeed with
  | acted hact =>
    refine halone.quiet ?_ fun _ => Nat.le_refl _
    exact (Registry.journal_act hact).imp_right fun ⟨event, hquiet, _, h⟩ => ⟨event, hquiet, h⟩
  | opened provider => exact halone.quiet (.inr ⟨_, rfl, rfl⟩) fun _ => by simp
  | entered hooked hfree =>
    obtain ⟨hloaded, rfl⟩ := hfree rfl
    exact halone.entered hbalanced htitled hloaded
  | offered answer => exact halone.quiet (.inr ⟨_, rfl, rfl⟩) fun _ => Nat.le_refl _
  | returned prepared hworth => exact halone.returned
  | dropped hloose => exact halone.quiet (.inl rfl) fun _ => by simp
  | discarded prepared => exact halone.quiet (.inr ⟨_, rfl, rfl⟩) fun _ => by simp
  | installed prepared =>
    exact halone.quiet (Registry.journal_install.imp_right fun h => ⟨_, rfl, h⟩) fun _ => by simp
  | shuffled hperm => exact halone.quiet (.inl rfl) fun _ => Nat.le_of_eq (hperm.countP_eq _).symm

end Stock

namespace Whole

variable {rules : Permit} {whole after : Whole}

/-- If nobody may load a module while a load on demand has passed the gate, initializations are
alone. -/
theorem Reachable.alone (hreach : Reachable rules whole) (hloads : rules.loads = false) :
    whole.stock.registry.Titled ∧ whole.stock.Alone := by
  refine hreach.kept (fun stock => stock.registry.Titled ∧ stock.Alone)
    (fun layout settings last => ⟨fun id module_ hget => ?_, ?_⟩)
    (fun _ _ _ _ _ _ hkept => ⟨hkept.1, hkept.2.quiet (.inr ⟨_, rfl, rfl⟩) fun _ => Nat.le_refl _⟩)
    fun unloads before after hbalanced hkept hdeed => ?_
  · cases hget
  · intro tag hooked past hsuffix
    cases List.suffix_nil.mp hsuffix
  · rw [hloads] at hdeed
    exact ⟨hdeed.titled hkept.1, hkept.2.deed hbalanced hkept.1 hdeed⟩

end Whole

end MetricsDaemon
