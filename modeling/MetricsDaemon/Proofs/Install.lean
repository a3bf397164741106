import MetricsDaemon.Proofs.Registry
import MetricsDaemon.Registry.Install

/-!
# Sound installations

An installation only adds to the directory: what was registered before it stays, and
what is new belongs to the module that is installed. Whether the module stays or is
torn down again, the registry is sound afterwards.
-/

namespace MetricsDaemon

namespace Installation

/-- How far an installation that began with a directory has come. Every variable that it added has
a new number, belongs to the module, and was neither bound nor evaluated. -/
structure Extends (start : Directory) (id : ModuleId) (installation : Installation) : Prop where
  directory : installation.directory.Sound
  last : start.lastId ≤ installation.directory.lastId
  old : ∀ {variableId variable_}, start.get? variableId = some variable_ →
    installation.directory.get? variableId = some variable_
  new : ∀ {variableId variable_}, installation.directory.get? variableId = some variable_ →
    start.get? variableId = some variable_ ∨ variableId ∈ installation.registered
  registered : ∀ {variableId}, variableId ∈ installation.registered →
    start.lastId < variableId.number ∧
      ∃ variable_, installation.directory.get? variableId = some variable_ ∧
        variable_.module_ = id ∧ variable_.samples = .empty
  distinct : installation.registered.Nodup
  pinned : installation.pinned = true ↔ ∃ variableId ∈ installation.registered,
    ∃ variable_, installation.directory.get? variableId = some variable_ ∧
      variable_.isCron = true

variable {start : Directory} {id : ModuleId} {installation : Installation} {settings : Settings}
  {offer : Offer} {variableId : VariableId}

/-- An installation that begins has registered nothing yet. -/
theorem Extends.begin (hsound : start.Sound) (layout : Layout) :
    Extends start id ⟨start, layout, [], 0, false⟩ where
  directory := hsound
  last := Nat.le_refl _
  old h := h
  new h := .inl h
  registered h := by cases h
  distinct := List.nodup_nil
  pinned := by simp

/-- An offer of a name that is taken changes nothing. -/
theorem register_of_taken (htaken : installation.directory.idOf? offer.name = some variableId) :
    register settings id installation offer = installation := by
  unfold register
  rw [Directory.insert_of_taken htaken]

/-- An offer with a free name is registered for the new module under the next number. -/
theorem register_of_free (hfree : installation.directory.idOf? offer.name = none) :
    register settings id installation offer =
      { directory := installation.directory.extend offer (settings.timeoutFor offer) id
        layout := installation.layout.bind offer.name installation.directory.nextId
        registered := installation.registered ++ [installation.directory.nextId]
        shown := if offer.type.cron then installation.shown else installation.shown + 1
        pinned := installation.pinned || offer.type.cron } := by
  unfold register
  rw [Directory.insert_of_free hfree]

/-- An installation goes on extending the directory with every offer. -/
theorem Extends.register (hextends : Extends start id installation) :
    Extends start id (register settings id installation offer) := by
  cases hname : installation.directory.idOf? offer.name with
  | some taken =>
    rw [register_of_taken hname]
    exact hextends
  | none =>
    rw [register_of_free hname]
    have hnext : installation.directory.get? installation.directory.nextId = none :=
      hextends.directory.get?_nextId
    have hnew : installation.directory.nextId ∉ installation.registered := by
      intro hmem
      obtain ⟨_, variable_, hget, _⟩ := hextends.registered hmem
      rw [hnext] at hget
      cases hget
    have hstay {variableId variable_}
        (hget : installation.directory.get? variableId = some variable_) :
        (installation.directory.extend offer (settings.timeoutFor offer) id).get? variableId =
          some variable_ :=
      hextends.directory.get?_extend_of_get? hget
    have hfresh : (installation.directory.extend offer (settings.timeoutFor offer) id).get?
        installation.directory.nextId = some (Directory.fresh installation.directory.nextId offer
          (settings.timeoutFor offer) id) := by
      rw [Directory.get?_extend, if_pos rfl]
    refine ⟨hextends.directory.extend hname, ?_, fun h => hstay (hextends.old h), ?_, ?_, ?_, ?_⟩
    · have hlast := hextends.last
      exact Nat.le_succ_of_le hlast
    · intro variableId variable_ hget
      rw [Directory.get?_extend] at hget
      split at hget
      · next heq => exact .inr (by simp [heq])
      · rcases hextends.new hget with hold | hmem
        · exact .inl hold
        · exact .inr (List.mem_append_left _ hmem)
    · intro variableId hmem
      rcases List.mem_append.mp hmem with hmem | hmem
      · obtain ⟨hlt, variable_, hget, hfields⟩ := hextends.registered hmem
        exact ⟨hlt, variable_, hstay hget, hfields⟩
      · obtain rfl := List.mem_singleton.mp hmem
        have hlast := hextends.last
        exact ⟨Nat.lt_succ_of_le hlast, _, hfresh, rfl, rfl⟩
    · exact List.nodup_append.mpr ⟨hextends.distinct, by simp, by
        rintro a ha b hb rfl
        rw [List.mem_singleton.mp hb] at ha
        exact hnew ha⟩
    · rw [Bool.or_eq_true, hextends.pinned]
      constructor
      · rintro (⟨variableId, hmem, variable_, hget, hcron⟩ | hcron)
        · exact ⟨variableId, List.mem_append_left _ hmem, variable_, hstay hget, hcron⟩
        · exact ⟨_, List.mem_append_right _ (by simp), _, hfresh, hcron⟩
      · rintro ⟨variableId, hmem, variable_, hget, hcron⟩
        rcases List.mem_append.mp hmem with hmem | hmem
        · obtain ⟨_, found, hfound, _⟩ := hextends.registered hmem
          rw [hstay hfound] at hget
          cases hget
          exact .inl ⟨variableId, hmem, _, hfound, hcron⟩
        · obtain rfl := List.mem_singleton.mp hmem
          rw [hfresh] at hget
          cases hget
          exact .inr hcron

end Installation

namespace Registry

variable {registry : Registry} {prepared : Prepared} {id : ModuleId} {module_ : Module}
  {variableId : VariableId} {variable_ : Variable}

/-- The number that the next module gets. -/
def nextId (registry : Registry) : ModuleId := ⟨registry.lastId + 1⟩

/-- The installation of a prepared module under the next number. -/
def installation (registry : Registry) (prepared : Prepared) : Installation :=
  registry.beginInstall prepared registry.nextId

/-- The installation of a module extends the directory. -/
theorem Sound.extends_installation (hsound : registry.Sound) (prepared : Prepared) :
    Installation.Extends registry.directory registry.nextId (registry.installation prepared) := by
  unfold installation beginInstall
  have hbegin : Installation.Extends registry.directory registry.nextId
      ⟨registry.directory, registry.layout, [], 0, false⟩ := .begin hsound.directory registry.layout
  generalize (⟨registry.directory, registry.layout, [], 0, false⟩ : Installation) = current
    at hbegin ⊢
  induction prepared.offers generalizing current with
  | nil => exact hbegin
  | cons offer offers ih => exact ih _ hbegin.register

/-- The registry after a module turned out to have nothing to show. -/
def reject (registry : Registry) (prepared : Prepared) : Registry :=
  { registry with
    lastId := registry.lastId + 1
    layout := (registry.installation prepared).layout
    directory := (registry.installation prepared).directory.removeAll
      (registry.installation prepared).registered }.tearDown prepared.unit

/-- The module that a prepared one becomes. -/
def resident (registry : Registry) (prepared : Prepared) : Module :=
  { id := registry.nextId
    name := prepared.unit.name
    origin := prepared.origin
    unit := prepared.unit
    clients := (registry.installation prepared).pinned.toNat
    pinned := (registry.installation prepared).pinned
    owned := (registry.installation prepared).registered }

/-- The registry after a prepared module became resident. -/
def accept (registry : Registry) (prepared : Prepared) : Registry :=
  { registry with
    lastId := registry.lastId + 1
    layout := (registry.installation prepared).layout
    directory := (registry.installation prepared).directory
    catalog := catalogue (registry.installation prepared).directory prepared.origin registry.catalog
      (registry.installation prepared).registered
    byName := registry.byName.put (Text.lowercase prepared.unit.name) registry.nextId
    modules := registry.modules.put registry.nextId (registry.resident prepared) }

/-- A module whose name is loaded is torn down instead of installed. -/
theorem install_of_loaded (hloaded : registry.isLoaded prepared.unit.name = true) :
    registry.install prepared =
      (registry.tearDown prepared.unit, .error (.alreadyLoaded prepared.unit.name)) := by
  simp [install, hloaded]

/-- A module that shows nothing is turned down. -/
theorem install_of_unused (hloaded : registry.isLoaded prepared.unit.name = false)
    (hshown : (registry.installation prepared).shown = 0) :
    registry.install prepared =
      (registry.reject prepared, .error (.unused prepared.unit.name)) := by
  have hshown' : (registry.beginInstall prepared ⟨registry.lastId + 1⟩).shown = 0 := hshown
  simp only [install, hloaded, Bool.false_eq_true, if_false, if_pos hshown']
  rfl

/-- A module that shows something is taken in under the next number. -/
theorem install_of_shown (hloaded : registry.isLoaded prepared.unit.name = false)
    (hshown : (registry.installation prepared).shown ≠ 0) :
    registry.install prepared = (registry.accept prepared, .ok registry.nextId) := by
  have hshown' : ¬(registry.beginInstall prepared ⟨registry.lastId + 1⟩).shown = 0 := hshown
  simp only [install, hloaded, Bool.false_eq_true, if_false, if_neg hshown']
  rfl

/-- An installation ends in one of three ways. -/
theorem install_cases (registry : Registry) (prepared : Prepared) :
    (registry.install prepared).1 = registry.tearDown prepared.unit ∨
    (registry.install prepared).1 = registry.reject prepared ∨
    (registry.isLoaded prepared.unit.name = false ∧
      (registry.install prepared).1 = registry.accept prepared) := by
  cases hloaded : registry.isLoaded prepared.unit.name with
  | true =>
    left
    rw [install_of_loaded hloaded]
  | false =>
    right
    by_cases hshown : (registry.installation prepared).shown = 0
    · left
      rw [install_of_unused hloaded hshown]
    · right
      rw [install_of_shown hloaded hshown]
      exact ⟨rfl, rfl⟩

/-- Whether or not the module stays, the layout was told of its variables. -/
theorem layout_install (registry : Registry) (prepared : Prepared) :
    (registry.install prepared).1.layout =
      if registry.isLoaded prepared.unit.name = true then registry.layout
      else (registry.installation prepared).layout := by
  split
  · next hloaded =>
    rw [install_of_loaded hloaded]
    rfl
  · next hfree =>
    rw [Bool.not_eq_true] at hfree
    by_cases hshown : (registry.installation prepared).shown = 0
    · rw [install_of_unused hfree hshown]
      rfl
    · rw [install_of_shown hfree hshown]
      rfl

/-! ## A module that is torn down again -/

/-- A teardown keeps the registry in order. -/
theorem Sound.tearDown {unit : ProviderUnit} (hsound : registry.Sound) :
    (registry.tearDown unit).Sound :=
  hsound.of_tables_eq rfl rfl rfl rfl

/-- A rejected module leaves the variables as they were. -/
theorem Sound.get?_directory_reject (hsound : registry.Sound) :
    (registry.reject prepared).directory.get? variableId = registry.directory.get? variableId := by
  have hextends := hsound.extends_installation prepared
  have hremove : (registry.reject prepared).directory =
      (registry.installation prepared).directory.removeAll
        (registry.installation prepared).registered := rfl
  rw [hremove, Directory.get?_removeAll]
  split
  · next hmem =>
    obtain ⟨hlt, _⟩ := hextends.registered hmem
    exact (hsound.directory.counted.get?_eq_none hlt).symm
  · next hmem =>
    cases hget : (registry.installation prepared).directory.get? variableId with
    | some variable_ =>
      rcases hextends.new hget with hold | hnew
      · exact hold.symm
      · contradiction
    | none =>
      cases hold : registry.directory.get? variableId with
      | none => rfl
      | some variable_ =>
        rw [hextends.old hold] at hget
        cases hget

/-- To turn a module down keeps the registry in order. -/
theorem Sound.reject (hsound : registry.Sound) : (registry.reject prepared).Sound where
  directory := (hsound.extends_installation prepared).directory.removeAll _
  counted := ⟨hsound.counted.ascending, fun key hkey =>
    Nat.le_succ_of_le (hsound.counted.bounded key hkey)⟩
  numbered := hsound.numbered
  named := hsound.named
  owner := by
    intro variableId variable_ hget
    rw [hsound.get?_directory_reject] at hget
    exact hsound.owner hget
  owned := by
    intro id module_ variableId hget hmem
    rw [hsound.get?_directory_reject]
    exact hsound.owned hget hmem
  distinct := hsound.distinct
  pinned := by
    intro id module_ hget
    simp only [hsound.get?_directory_reject]
    exact hsound.pinned hget

/-! ## A module that stays -/

/-- After a module was taken in the next number leads to it, and the others lead where they led. -/
theorem get?_accept : (registry.accept prepared).get? id =
    if registry.nextId = id then some (registry.resident prepared) else registry.get? id :=
  Table.get?_put ..

/-- No module is resident under the next number. -/
theorem Sound.get?_nextId (hsound : registry.Sound) : registry.get? registry.nextId = none :=
  hsound.counted.get?_eq_none (Nat.lt_succ_self _)

/-- To take a module in leaves the others as they are. -/
theorem Sound.get?_accept_of_get? (hsound : registry.Sound)
    (hget : registry.get? id = some module_) :
    (registry.accept prepared).get? id = some module_ := by
  have hne : registry.nextId ≠ id := by
    intro heq
    rw [← heq, hsound.get?_nextId] at hget
    cases hget
  rw [get?_accept, if_neg hne, hget]

/-- No variable is registered for the next module yet. -/
theorem Sound.module_ne_nextId (hsound : registry.Sound)
    (hget : registry.directory.get? variableId = some variable_) :
    variable_.module_ ≠ registry.nextId := by
  intro heq
  obtain ⟨module_, hmodule, _⟩ := hsound.owner hget
  rw [heq, hsound.get?_nextId] at hmodule
  cases hmodule

/-- The variables of the next module are those that its installation adds. -/
theorem Sound.mem_registered_iff (hsound : registry.Sound)
    (hget : (registry.installation prepared).directory.get? variableId = some variable_) :
    variableId ∈ (registry.installation prepared).registered ↔
      variable_.module_ = registry.nextId := by
  have hextends := hsound.extends_installation prepared
  constructor
  · intro hmem
    obtain ⟨_, found, hfound, hmodule, _⟩ := hextends.registered hmem
    rw [hget] at hfound
    cases hfound
    exact hmodule
  · intro hmodule
    rcases hextends.new hget with hold | hmem
    · exact absurd hmodule (hsound.module_ne_nextId hold)
    · exact hmem

/-- After a module was taken in the index of names leads exactly to those that are resident. -/
private theorem Sound.named_accept (hsound : registry.Sound)
    (hloaded : registry.isLoaded prepared.unit.name = false) {key : String} :
    (registry.accept prepared).byName.get? key = some id ↔
      ∃ module_, (registry.accept prepared).get? id = some module_ ∧
        Text.lowercase module_.name = key := by
  have hname : (registry.accept prepared).byName.get? key =
      if Text.lowercase prepared.unit.name = key then some registry.nextId
      else registry.byName.get? key := Table.get?_put ..
  have hfree : registry.byName.get? (Text.lowercase prepared.unit.name) = none := by
    simpa [isLoaded, idOf?] using hloaded
  rw [hname, get?_accept]
  by_cases hnext : registry.nextId = id
  · subst hnext
    have hnone : registry.byName.get? key ≠ some registry.nextId := by
      intro hkey
      obtain ⟨module_, hget, _⟩ := hsound.named.mp hkey
      rw [hsound.get?_nextId] at hget
      cases hget
    by_cases hkey : Text.lowercase prepared.unit.name = key <;> simp [hkey, hnone, resident]
  · by_cases hkey : Text.lowercase prepared.unit.name = key
    · have hnone : ∀ module_, registry.get? id = some module_ →
          Text.lowercase module_.name ≠ key := by
        intro module_ hget heq
        rw [hkey, hsound.named.mpr ⟨module_, hget, heq⟩] at hfree
        cases hfree
      simpa [hkey, hnext] using hnone
    · simpa [hkey, hnext] using hsound.named

/-- After a module was taken in every variable belongs to a resident module that lists it. -/
private theorem Sound.owner_accept (hsound : registry.Sound)
    (hget : (registry.accept prepared).directory.get? variableId = some variable_) :
    ∃ module_, (registry.accept prepared).get? variable_.module_ = some module_ ∧
      variableId ∈ module_.owned := by
  rcases (hsound.extends_installation prepared).new hget with hold | hmem
  · obtain ⟨module_, hmodule, howned⟩ := hsound.owner hold
    exact ⟨module_, hsound.get?_accept_of_get? hmodule, howned⟩
  · refine ⟨registry.resident prepared, ?_, hmem⟩
    rw [get?_accept, if_pos ((hsound.mem_registered_iff hget).mp hmem).symm]

/-- After a module was taken in every module lists variables of its own only. -/
private theorem Sound.owned_accept (hsound : registry.Sound)
    (hget : (registry.accept prepared).get? id = some module_)
    (hmem : variableId ∈ module_.owned) :
    ∃ variable_, (registry.accept prepared).directory.get? variableId = some variable_ ∧
      variable_.module_ = id := by
  have hextends := hsound.extends_installation prepared
  rw [get?_accept] at hget
  split at hget
  · next heq =>
    cases hget
    obtain ⟨_, variable_, hvariable, hmodule, _⟩ := hextends.registered hmem
    exact ⟨variable_, hvariable, hmodule.trans heq⟩
  · obtain ⟨variable_, hvariable, hmodule⟩ := hsound.owned hget hmem
    exact ⟨variable_, hextends.old hvariable, hmodule⟩

/-- After a module was taken in exactly those are pinned that have a variable for every tick. -/
private theorem Sound.pinned_accept (hsound : registry.Sound)
    (hget : (registry.accept prepared).get? id = some module_) :
    module_.pinned = true ↔ ∃ variableId variable_,
      (registry.accept prepared).directory.get? variableId = some variable_ ∧
        variable_.module_ = id ∧ variable_.isCron = true := by
  have hextends := hsound.extends_installation prepared
  rw [get?_accept] at hget
  split at hget
  · next heq =>
    subst heq
    cases hget
    refine hextends.pinned.trans ⟨?_, ?_⟩
    · rintro ⟨variableId, hmem, variable_, hvariable, hcron⟩
      exact ⟨variableId, variable_, hvariable, (hsound.mem_registered_iff hvariable).mp hmem, hcron⟩
    · rintro ⟨variableId, variable_, hvariable, hmodule, hcron⟩
      exact ⟨variableId, (hsound.mem_registered_iff hvariable).mpr hmodule, variable_, hvariable,
        hcron⟩
  · next hne =>
    rw [hsound.pinned hget]
    constructor
    · rintro ⟨variableId, variable_, hvariable, hrest⟩
      exact ⟨variableId, variable_, hextends.old hvariable, hrest⟩
    · rintro ⟨variableId, variable_, hvariable, hmodule, hcron⟩
      rcases hextends.new hvariable with hold | hmem
      · exact ⟨variableId, variable_, hold, hmodule, hcron⟩
      · have hnext := (hsound.mem_registered_iff hvariable).mp hmem
        exact absurd (hnext.symm.trans hmodule) hne

/-- To take a module in keeps the registry in order. -/
theorem Sound.accept (hsound : registry.Sound)
    (hloaded : registry.isLoaded prepared.unit.name = false) :
    (registry.accept prepared).Sound where
  directory := (hsound.extends_installation prepared).directory
  counted := hsound.counted.put_next rfl
  numbered := by
    intro id module_ hget
    rw [get?_accept] at hget
    split at hget
    · next heq =>
      cases hget
      exact heq
    · exact hsound.numbered hget
  named := hsound.named_accept hloaded
  owner := hsound.owner_accept
  owned := hsound.owned_accept
  distinct := by
    intro id module_ hget
    rw [get?_accept] at hget
    split at hget
    · cases hget
      exact (hsound.extends_installation prepared).distinct
    · exact hsound.distinct hget
  pinned := hsound.pinned_accept

/-! ## Every installation -/

/-- An installation keeps the registry in order, however it ends. -/
theorem Sound.install (hsound : registry.Sound) : (registry.install prepared).1.Sound := by
  rcases registry.install_cases prepared with h | h | ⟨hloaded, h⟩
  · rw [h]
    exact hsound.tearDown
  · rw [h]
    exact hsound.reject
  · rw [h]
    exact hsound.accept hloaded

/-- The modules that were resident stay what they were. -/
theorem Sound.get?_install_of_get? (hsound : registry.Sound)
    (hget : registry.get? id = some module_) :
    (registry.install prepared).1.get? id = some module_ := by
  rcases registry.install_cases prepared with h | h | ⟨_, h⟩
  · rw [h]
    exact hget
  · rw [h]
    exact hget
  · rw [h]
    exact hsound.get?_accept_of_get? hget

/-- A module that was not resident before is the one that was prepared, under the next number. -/
theorem resident_of_install (hget : (registry.install prepared).1.get? id = some module_) :
    registry.get? id = some module_ ∨
      (id = registry.nextId ∧ module_ = registry.resident prepared) := by
  rcases registry.install_cases prepared with h | h | ⟨_, h⟩
  · rw [h] at hget
    exact .inl hget
  · rw [h] at hget
    exact .inl hget
  · rw [h, get?_accept] at hget
    split at hget
    · next heq =>
      cases hget
      exact .inr ⟨heq.symm, rfl⟩
    · exact .inl hget

/-- A module that was not resident before has no clients but its pin. -/
theorem get?_of_install (hget : (registry.install prepared).1.get? id = some module_) :
    registry.get? id = some module_ ∨
      (id = registry.nextId ∧ module_.clients = module_.pinned.toNat) := by
  rcases resident_of_install hget with hold | ⟨hid, rfl⟩
  · exact .inl hold
  · exact .inr ⟨hid, rfl⟩

/-- An installation takes no number back. -/
theorem lastId_le_install : registry.lastId ≤ (registry.install prepared).1.lastId := by
  rcases registry.install_cases prepared with h | h | ⟨_, h⟩
  · rw [h]
    exact Nat.le_refl _
  · rw [h]
    exact Nat.le_succ _
  · rw [h]
    exact Nat.le_succ _

/-- An installation leaves the variables that are registered as they are. -/
theorem Sound.get?_directory_install_of_get? (hsound : registry.Sound)
    (hget : registry.directory.get? variableId = some variable_) :
    (registry.install prepared).1.directory.get? variableId = some variable_ := by
  rcases registry.install_cases prepared with h | h | ⟨_, h⟩
  · rw [h]
    exact hget
  · rw [h, hsound.get?_directory_reject]
    exact hget
  · rw [h]
    exact (hsound.extends_installation prepared).old hget

/-- Installing adds variables and leaves those that are there alone. -/
theorem Sound.keeps_install (hsound : registry.Sound) :
    registry.directory.Keeps (registry.install prepared).1.directory := by
  have hextends := hsound.extends_installation prepared
  rcases registry.install_cases prepared with h | h | ⟨_, h⟩
  · rw [h]
    exact .refl hsound.directory
  · rw [h]
    refine .of_subset ?_ hsound.directory ?_
    · have hlast : (registry.reject prepared).directory.lastId =
          (registry.installation prepared).directory.lastId := Directory.lastId_removeAll _
      rw [hlast]
      exact hextends.last
    · intro variableId variable_ hget
      rwa [hsound.get?_directory_reject] at hget
  · rw [h]
    refine ⟨hextends.last, ?_, ?_⟩
    · intro variableId found hget hle
      rcases hextends.new hget with hold | hmem
      · exact ⟨found, hold, rfl, rfl, fun _ => rfl⟩
      · obtain ⟨hlt, _⟩ := hextends.registered hmem
        omega
    · intro variableId found hget hlt
      rcases hextends.new hget with hold | hmem
      · have hle := hsound.directory.le_lastId hold
        omega
      · obtain ⟨_, variable_, hvariable, _, hsamples⟩ := hextends.registered hmem
        have hsame : variable_ = found := Option.some.inj (hvariable.symm.trans hget)
        rw [← hsame, hsamples]

end Registry

end MetricsDaemon
