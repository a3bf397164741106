import MetricsDaemon.Proofs.Directory
import MetricsDaemon.Registry.Basic

/-!
# Sound registries

In a sound registry every variable belongs to a resident module that lists it, and the
index of module names leads exactly to the resident modules. Counting clients and
unloading keep a registry sound; unloading takes away a module with its variables and
nothing else.
-/

namespace MetricsDaemon.Registry

/-- The modules, their names and their variables fit together. -/
structure Sound (registry : Registry) : Prop where
  directory : registry.directory.Sound
  counted : registry.modules.Counted ModuleId.number registry.lastId
  numbered : ∀ {id module_}, registry.get? id = some module_ → module_.id = id
  named : ∀ {key id}, registry.byName.get? key = some id ↔
    ∃ module_, registry.get? id = some module_ ∧ Text.lowercase module_.name = key
  owner : ∀ {id variable_}, registry.directory.get? id = some variable_ →
    ∃ module_, registry.get? variable_.module_ = some module_ ∧ id ∈ module_.owned
  owned : ∀ {id module_ variableId}, registry.get? id = some module_ →
    variableId ∈ module_.owned →
    ∃ variable_, registry.directory.get? variableId = some variable_ ∧ variable_.module_ = id
  distinct : ∀ {id module_}, registry.get? id = some module_ → module_.owned.Nodup
  pinned : ∀ {id module_}, registry.get? id = some module_ → (module_.pinned = true ↔
    ∃ variableId variable_, registry.directory.get? variableId = some variable_ ∧
      variable_.module_ = id ∧ variable_.isCron = true)

/-- A new registry is in order. -/
theorem Sound.new (layout : Layout) (settings : Settings) : (new layout settings).Sound where
  directory := .empty
  counted := .empty _ _
  numbered h := by cases h
  named := ⟨fun h => (by cases h), fun ⟨_, h, _⟩ => by cases h⟩
  owner h := by cases h
  owned h := by cases h
  distinct h := by cases h
  pinned h := by cases h

variable {registry : Registry} {id other : ModuleId} {module_ : Module} {change : Nat → Nat}
  {variableId : VariableId}

/-- The number of a resident module was given out. -/
theorem Sound.le_lastId (hsound : registry.Sound) (hget : registry.get? id = some module_) :
    id.number ≤ registry.lastId :=
  hsound.counted.le_of_get? hget

/-- The resident modules are what the numbers lead to. -/
theorem Sound.mem_values_iff (hsound : registry.Sound) :
    module_ ∈ registry.modules.values ↔ registry.get? module_.id = some module_ := by
  rw [hsound.counted.unique.mem_values_iff]
  constructor
  · rintro ⟨key, hget⟩
    have hid : module_.id = key := hsound.numbered hget
    rwa [hid]
  · intro hget
    exact ⟨module_.id, hget⟩

/-- A registry that differs in what the tables do not say is sound as well. -/
theorem Sound.of_tables_eq {twin : Registry} (hsound : registry.Sound)
    (hmodules : twin.modules = registry.modules) (hbyName : twin.byName = registry.byName)
    (hlast : twin.lastId = registry.lastId) (hdirectory : twin.directory = registry.directory) :
    twin.Sound := by
  obtain ⟨builtins, modules, byName, catalog, layout, settings, lastId, directory, journal⟩ := twin
  simp only at hmodules hbyName hlast hdirectory
  subst hmodules hbyName hlast hdirectory
  exact ⟨hsound.directory, hsound.counted, hsound.numbered, hsound.named, hsound.owner,
    hsound.owned, hsound.distinct, hsound.pinned⟩

/-- Variables may be bound and sampled in a sound registry. -/
theorem Sound.withDirectory {directory : Directory} (hsound : registry.Sound)
    (hdirectory : directory.Sound) (halike : registry.directory.Alike directory) :
    { registry with directory := directory : Registry }.Sound where
  directory := hdirectory
  counted := hsound.counted
  numbered := hsound.numbered
  named := hsound.named
  owner := by
    intro variableId variable_ hget
    obtain ⟨found, hfound, hprofile⟩ := halike.symm.get?_after hget
    obtain ⟨module_, hmodule, hmem⟩ := hsound.owner hfound
    rw [Variable.module_eq_of_profile_eq hprofile] at hmodule
    exact ⟨module_, hmodule, hmem⟩
  owned := by
    intro id module_ variableId hget hmem
    obtain ⟨variable_, hvariable, hmodule⟩ := hsound.owned hget hmem
    obtain ⟨found, hfound, hprofile⟩ := halike.get?_after hvariable
    exact ⟨found, hfound, (Variable.module_eq_of_profile_eq hprofile).trans hmodule⟩
  distinct := hsound.distinct
  pinned := by
    intro id module_ hget
    rw [hsound.pinned hget]
    have hcron {first second : Directory} (h : first.Alike second) :
        (∃ variableId variable_, first.get? variableId = some variable_ ∧
          variable_.module_ = id ∧ variable_.isCron = true) →
        ∃ variableId variable_, second.get? variableId = some variable_ ∧
          variable_.module_ = id ∧ variable_.isCron = true := by
      rintro ⟨variableId, variable_, hvariable, hmodule, hcron⟩
      obtain ⟨found, hfound, hprofile⟩ := h.get?_after hvariable
      have htype : found.isCron = variable_.isCron :=
        congrArg TypeTag.cron (Variable.type_eq_of_profile_eq hprofile)
      exact ⟨variableId, found, hfound, (Variable.module_eq_of_profile_eq hprofile).trans hmodule,
        htype.trans hcron⟩
    exact ⟨hcron halike, hcron halike.symm⟩

/-! ## Counting clients -/

/-- The registry with another number of clients of a module. -/
def recount (registry : Registry) (id : ModuleId) (change : Nat → Nat) : Registry :=
  { registry with
    modules := registry.modules.modify id fun module_ =>
      { module_ with clients := change module_.clients } }

/-- To acquire a module is to count one client more. -/
theorem acquire_fst : (registry.acquire id).1 = registry.recount id (· + 1) := by
  unfold acquire recount
  split
  · next hget => rw [Table.modify_of_get?_eq_none hget]
  · next hget => rw [Table.modify_of_get?_eq_some hget]

/-- To release a module is to count one client less. -/
theorem release_fst : (registry.release id).1 = registry.recount id (· - 1) := by
  unfold release recount
  split
  · next hget => rw [Table.modify_of_get?_eq_none hget]
  · next hget => rw [Table.modify_of_get?_eq_some hget]

/-- Only the clients of the counted module change. -/
theorem get?_recount : (registry.recount id change).get? other =
    if id = other then
      (registry.get? other).map fun module_ => { module_ with clients := change module_.clients }
    else registry.get? other :=
  Table.get?_modify ..

/-- Counting clients leaves the directory as it is. -/
@[simp] theorem directory_recount :
    (registry.recount id change).directory = registry.directory := rfl

/-- Counting clients gives out no number. -/
@[simp] theorem lastId_recount : (registry.recount id change).lastId = registry.lastId := rfl

/-- Counting clients leaves the index of names as it is. -/
@[simp] theorem byName_recount : (registry.recount id change).byName = registry.byName := rfl

/-- Nothing but the number of clients changes. -/
theorem get?_of_recount (hget : (registry.recount id change).get? other = some module_) :
    ∃ found, registry.get? other = some found ∧ module_ = { found with
      clients := if id = other then change found.clients else found.clients } := by
  rw [get?_recount] at hget
  split at hget
  · next heq =>
    obtain ⟨found, hfound, rfl⟩ := Option.map_eq_some_iff.mp hget
    exact ⟨found, hfound, by rw [if_pos heq]⟩
  · next heq => exact ⟨module_, hget, by rw [if_neg heq]⟩

/-- A module that is counted stays what it is but for its clients. -/
theorem recount_of_get? (hget : registry.get? other = some module_) :
    ∃ found, (registry.recount id change).get? other = some found ∧
      found = { module_ with clients := found.clients } := by
  rw [get?_recount]
  split
  · exact ⟨_, by rw [hget]; rfl, rfl⟩
  · exact ⟨module_, hget, rfl⟩

/-- Counting clients keeps the registry in order. -/
theorem Sound.recount (hsound : registry.Sound) : (registry.recount id change).Sound where
  directory := hsound.directory
  counted := hsound.counted.modify
  numbered := by
    intro other module_ hget
    obtain ⟨found, hfound, rfl⟩ := get?_of_recount hget
    have hid : found.id = other := hsound.numbered hfound
    exact hid
  named := by
    intro key other
    refine hsound.named.trans ?_
    constructor
    · rintro ⟨module_, hget, hname⟩
      obtain ⟨found, hfound, hsame⟩ := recount_of_get? hget
      refine ⟨found, hfound, ?_⟩
      rw [hsame]
      exact hname
    · rintro ⟨module_, hget, hname⟩
      obtain ⟨found, hfound, rfl⟩ := get?_of_recount hget
      exact ⟨found, hfound, hname⟩
  owner := by
    intro variableId variable_ hget
    obtain ⟨module_, hmodule, hmem⟩ := hsound.owner hget
    obtain ⟨found, hfound, hsame⟩ := recount_of_get? hmodule
    refine ⟨found, hfound, ?_⟩
    rw [hsame]
    exact hmem
  owned := by
    intro other module_ variableId hget hmem
    obtain ⟨found, hfound, rfl⟩ := get?_of_recount hget
    exact hsound.owned hfound hmem
  distinct := by
    intro other module_ hget
    obtain ⟨found, hfound, rfl⟩ := get?_of_recount hget
    have hnodup : found.owned.Nodup := hsound.distinct hfound
    exact hnodup
  pinned := by
    intro other module_ hget
    obtain ⟨found, hfound, rfl⟩ := get?_of_recount hget
    have hpinned := hsound.pinned hfound
    exact hpinned

/-! ## Unloading -/

/-- To unload what is not resident changes nothing. -/
theorem unload_of_get?_eq_none (hget : registry.get? id = none) :
    registry.unload id = registry := by
  simp [unload, hget]

/-- Only the module that is unloaded is gone. -/
theorem get?_unload : (registry.unload id).get? other =
    if id = other then none else registry.get? other := by
  unfold unload
  split
  · next hget =>
    by_cases heq : id = other
    · rw [if_pos heq, ← heq, hget]
    · rw [if_neg heq]
  · exact Table.get?_erase ..

/-- Unloading takes no number back. -/
@[simp] theorem lastId_unload : (registry.unload id).lastId = registry.lastId := by
  unfold unload
  split <;> rfl

/-- The module that is unloaded leaves the table. -/
theorem modules_unload (hget : registry.get? id = some module_) :
    (registry.unload id).modules = registry.modules.erase id := by
  simp [unload, hget, tearDown, note]

/-- With a module go the variables that it lists. -/
theorem directory_unload (hget : registry.get? id = some module_) :
    (registry.unload id).directory = registry.directory.removeAll module_.owned := by
  simp [unload, hget, tearDown, note]

/-- Unloading takes no number of a variable back. -/
@[simp] theorem lastId_directory_unload :
    (registry.unload id).directory.lastId = registry.directory.lastId := by
  cases hget : registry.get? id with
  | none => rw [unload_of_get?_eq_none hget]
  | some module_ => rw [directory_unload hget, Directory.lastId_removeAll]

/-- The variables of the module go, and no others. -/
theorem Sound.get?_directory_unload (hsound : registry.Sound) :
    (registry.unload id).directory.get? variableId =
      (registry.directory.get? variableId).filter fun variable_ =>
        decide (variable_.module_ ≠ id) := by
  cases hget : registry.get? id with
  | none =>
    rw [unload_of_get?_eq_none hget]
    cases hvariable : registry.directory.get? variableId with
    | none => rfl
    | some variable_ =>
      obtain ⟨module_, hmodule, _⟩ := hsound.owner hvariable
      have hne : variable_.module_ ≠ id := by
        rintro rfl
        rw [hget] at hmodule
        cases hmodule
      simp [Option.filter, hne]
  | some module_ =>
    rw [directory_unload hget, Directory.get?_removeAll]
    cases hvariable : registry.directory.get? variableId with
    | none => simp
    | some variable_ =>
      have howned : variableId ∈ module_.owned ↔ variable_.module_ = id := by
        constructor
        · intro hmem
          obtain ⟨found, hfound, hmodule⟩ := hsound.owned hget hmem
          rw [hvariable] at hfound
          cases hfound
          exact hmodule
        · rintro rfl
          obtain ⟨found, hfound, hmem⟩ := hsound.owner hvariable
          rw [hget] at hfound
          cases hfound
          exact hmem
      by_cases heq : variable_.module_ = id <;> simp [howned, heq, Option.filter]

/-- A variable that stays belongs to another module. -/
theorem Sound.get?_directory_unload_iff {variable_ : Variable} (hsound : registry.Sound) :
    (registry.unload id).directory.get? variableId = some variable_ ↔
      registry.directory.get? variableId = some variable_ ∧ variable_.module_ ≠ id := by
  rw [hsound.get?_directory_unload, Option.filter_eq_some_iff]
  simp

/-- After a module was unloaded the index of names leads exactly to those that are left. -/
private theorem Sound.named_unload (hsound : registry.Sound) {key : String} :
    (registry.unload id).byName.get? key = some other ↔
      ∃ module_, (registry.unload id).get? other = some module_ ∧
        Text.lowercase module_.name = key := by
  cases hget : registry.get? id with
  | none =>
    rw [unload_of_get?_eq_none hget]
    exact hsound.named
  | some gone =>
    have hname : (registry.unload id).byName.get? key =
        if Text.lowercase gone.name = key then none else registry.byName.get? key := by
      have hby : (registry.unload id).byName =
          registry.byName.erase (Text.lowercase gone.name) := by
        simp [unload, hget, tearDown, note]
      rw [hby]
      exact Table.get?_erase ..
    have hgone : registry.byName.get? (Text.lowercase gone.name) = some id :=
      hsound.named.mpr ⟨gone, hget, rfl⟩
    rw [hname, get?_unload]
    by_cases hid : id = other
    · subst hid
      have hnot : Text.lowercase gone.name ≠ key → registry.byName.get? key ≠ some id := by
        intro hne hsome
        obtain ⟨found, hfound, hfoundName⟩ := hsound.named.mp hsome
        rw [hget] at hfound
        cases hfound
        exact hne hfoundName
      by_cases heq : Text.lowercase gone.name = key
      · simp [heq]
      · simp [heq, hnot heq]
    · by_cases heq : Text.lowercase gone.name = key
      · have hnot : ∀ found, registry.get? other = some found →
            Text.lowercase found.name ≠ key := by
          intro found hfound hfoundName
          have hsome : registry.byName.get? key = some other :=
            hsound.named.mpr ⟨found, hfound, hfoundName⟩
          rw [← heq, hgone] at hsome
          exact hid (Option.some.inj hsome)
        simpa [heq, hid] using hnot
      · simpa [heq, hid] using hsound.named

/-- Unloading keeps the registry in order. -/
theorem Sound.unload (hsound : registry.Sound) : (registry.unload id).Sound where
  directory := by
    cases hget : registry.get? id with
    | none =>
      rw [unload_of_get?_eq_none hget]
      exact hsound.directory
    | some module_ =>
      rw [directory_unload hget]
      exact hsound.directory.removeAll _
  counted := by
    cases hget : registry.get? id with
    | none =>
      rw [unload_of_get?_eq_none hget]
      exact hsound.counted
    | some module_ =>
      rw [modules_unload hget, lastId_unload]
      exact hsound.counted.erase
  numbered := by
    intro other module_ hget
    rw [get?_unload] at hget
    split at hget
    · cases hget
    · exact hsound.numbered hget
  named := hsound.named_unload
  owner := by
    intro variableId variable_ hget
    obtain ⟨hvariable, hne⟩ := hsound.get?_directory_unload_iff.mp hget
    obtain ⟨module_, hmodule, hmem⟩ := hsound.owner hvariable
    exact ⟨module_, by rw [get?_unload, if_neg hne.symm, hmodule], hmem⟩
  owned := by
    intro other module_ variableId hget hmem
    rw [get?_unload] at hget
    split at hget
    · cases hget
    · next hne =>
      obtain ⟨variable_, hvariable, rfl⟩ := hsound.owned hget hmem
      exact ⟨variable_, hsound.get?_directory_unload_iff.mpr ⟨hvariable, Ne.symm hne⟩, rfl⟩
  distinct := by
    intro other module_ hget
    rw [get?_unload] at hget
    split at hget
    · cases hget
    · exact hsound.distinct hget
  pinned := by
    intro other module_ hget
    rw [get?_unload] at hget
    split at hget
    · cases hget
    · next hne =>
      rw [hsound.pinned hget]
      constructor
      · rintro ⟨variableId, variable_, hvariable, rfl, hcron⟩
        exact ⟨variableId, variable_,
          hsound.get?_directory_unload_iff.mpr ⟨hvariable, Ne.symm hne⟩, rfl, hcron⟩
      · rintro ⟨variableId, variable_, hvariable, hmodule, hcron⟩
        exact ⟨variableId, variable_, (hsound.get?_directory_unload_iff.mp hvariable).1,
          hmodule, hcron⟩

/-! ## Unloading several modules -/

variable {ids : List ModuleId}

/-- Unload modules one after the other. -/
def unloadAll (registry : Registry) (ids : List ModuleId) : Registry := ids.foldl unload registry

/-- However many modules are unloaded, the registry stays in order. -/
theorem Sound.unloadAll (hsound : registry.Sound) : (registry.unloadAll ids).Sound := by
  induction ids generalizing registry with
  | nil => exact hsound
  | cons id ids ih => exact ih hsound.unload

/-- Only the modules that are unloaded are gone. -/
theorem get?_unloadAll : (registry.unloadAll ids).get? other =
    if other ∈ ids then none else registry.get? other := by
  induction ids generalizing registry with
  | nil => simp [unloadAll]
  | cons id ids ih =>
    have hstep : registry.unloadAll (id :: ids) = (registry.unload id).unloadAll ids := rfl
    rw [hstep, ih, get?_unload]
    by_cases hid : id = other
    · simp [hid]
    · have hne : ¬other = id := fun h => hid h.symm
      simp [hid, hne]

/-- However many modules are unloaded, no number is taken back. -/
@[simp] theorem lastId_unloadAll : (registry.unloadAll ids).lastId = registry.lastId := by
  induction ids generalizing registry with
  | nil => rfl
  | cons id ids ih =>
    have hrest : ((registry.unload id).unloadAll ids).lastId = (registry.unload id).lastId := ih
    exact hrest.trans lastId_unload

/-- However many modules are unloaded, no number of a variable is taken back. -/
@[simp] theorem lastId_directory_unloadAll :
    (registry.unloadAll ids).directory.lastId = registry.directory.lastId := by
  induction ids generalizing registry with
  | nil => rfl
  | cons id ids ih =>
    have hrest : ((registry.unload id).unloadAll ids).directory.lastId =
        (registry.unload id).directory.lastId := ih
    exact hrest.trans lastId_directory_unload

/-- The variables that stay are those of the modules that stay. -/
theorem Sound.get?_directory_unloadAll_iff {variable_ : Variable} (hsound : registry.Sound) :
    (registry.unloadAll ids).directory.get? variableId = some variable_ ↔
      registry.directory.get? variableId = some variable_ ∧ variable_.module_ ∉ ids := by
  induction ids generalizing registry with
  | nil => simp [Registry.unloadAll]
  | cons id ids ih =>
    have hstep : registry.unloadAll (id :: ids) = (registry.unload id).unloadAll ids := rfl
    rw [hstep, ih hsound.unload, hsound.get?_directory_unload_iff, List.mem_cons, not_or, and_assoc]

/-- Unloading some of the modules leaves all others. -/
theorem Sound.size_unloadAll (hsound : registry.Sound) (hnodup : ids.Nodup)
    (hresident : ∀ id ∈ ids, (registry.get? id).isSome) :
    (registry.unloadAll ids).modules.size + ids.length = registry.modules.size := by
  induction ids generalizing registry with
  | nil => rfl
  | cons id ids ih =>
    obtain ⟨hfresh, hrest⟩ := List.nodup_cons.mp hnodup
    obtain ⟨module_, hget⟩ := Option.isSome_iff_exists.mp (hresident id List.mem_cons_self)
    have hstays : ∀ other ∈ ids, ((registry.unload id).get? other).isSome := by
      intro other hmem
      have hne : id ≠ other := fun heq => hfresh (heq ▸ hmem)
      rw [get?_unload, if_neg hne]
      exact hresident other (List.mem_cons_of_mem _ hmem)
    have hone : (registry.unload id).modules.size + 1 = registry.modules.size := by
      rw [modules_unload hget]
      exact hsound.counted.unique.size_erase hget
    have hothers := ih hsound.unload hrest hstays
    rw [List.length_cons, ← hone, ← hothers]
    rfl

/-- The idle modules are the resident ones without clients. -/
theorem Sound.mem_idleModules_iff (hsound : registry.Sound) :
    id ∈ registry.idleModules ↔
      ∃ module_, registry.get? id = some module_ ∧ module_.clients = 0 := by
  simp only [idleModules, List.mem_map, List.mem_filter, beq_iff_eq]
  constructor
  · rintro ⟨module_, ⟨hmem, hclients⟩, rfl⟩
    exact ⟨module_, hsound.mem_values_iff.mp hmem, hclients⟩
  · rintro ⟨module_, hget, hclients⟩
    have hid : module_.id = id := hsound.numbered hget
    subst hid
    exact ⟨module_, ⟨hsound.mem_values_iff.mpr hget, hclients⟩, rfl⟩

/-- No module is listed as idle twice. -/
theorem Sound.nodup_idleModules (hsound : registry.Sound) : registry.idleModules.Nodup := by
  have hkeys : registry.modules.values.map Module.id = registry.modules.keys :=
    hsound.counted.unique.map_values fun _ _ hget => hsound.numbered hget
  refine List.Nodup.sublist (List.filter_sublist.map _) ?_
  rw [hkeys]
  exact hsound.counted.unique

/-- The sweep tells by how much the table of modules becomes smaller. -/
theorem Sound.size_unloadIdle (hsound : registry.Sound) :
    registry.unloadIdle.1.modules.size + registry.unloadIdle.2 = registry.modules.size := by
  refine hsound.size_unloadAll hsound.nodup_idleModules fun id hmem => ?_
  obtain ⟨module_, hget, _⟩ := hsound.mem_idleModules_iff.mp hmem
  exact Option.isSome_iff_exists.mpr ⟨module_, hget⟩

/-- A sweep unloads all idle modules. -/
theorem unloadIdle_fst : registry.unloadIdle.1 = registry.unloadAll registry.idleModules := rfl

/-- A shutdown unloads all resident modules. -/
theorem unloadEvery_eq : registry.unloadEvery =
    registry.unloadAll (registry.modules.values.map Module.id) := rfl

/-- Every resident module has its turn when all are unloaded. -/
theorem Sound.get?_unloadEvery (hsound : registry.Sound) : registry.unloadEvery.get? id = none := by
  rw [unloadEvery_eq, get?_unloadAll]
  split
  · rfl
  · next hmem =>
    cases hget : registry.get? id with
    | none => rfl
    | some module_ =>
      have hid : module_.id = id := hsound.numbered hget
      exact absurd (List.mem_map.mpr
        ⟨module_, hsound.mem_values_iff.mpr (by rwa [hid]), hid⟩) hmem

end MetricsDaemon.Registry
