import MetricsDaemon.Directory
import MetricsDaemon.Proofs.Table

/-!
# Sound directories

In a sound directory the index of names and the numbered entries say the same. Every
operation keeps a directory sound, and each has one lemma that says what becomes of
the entries. Binding a method and noting a sample change nothing else about a variable.
-/

namespace MetricsDaemon

/-- The variable after its method was asked for, unless that had been done before. -/
def Variable.bindWith (resolver : String → TypeTag → Except BindingError Callable)
    (variable_ : Variable) : Variable :=
  match variable_.binding with
  | .unresolved =>
      { variable_ with
        binding := Directory.bindingOf (resolver variable_.method variable_.type) }
  | _ => variable_

namespace Variable

variable {variable_ : Variable} {resolver : String → TypeTag → Except BindingError Callable}

/-- A variable that is not bound becomes bound to what the resolver says. -/
theorem bindWith_of_unresolved (h : variable_.binding = .unresolved) :
    variable_.bindWith resolver =
      { variable_ with
        binding := Directory.bindingOf (resolver variable_.method variable_.type) } := by
  simp [bindWith, h]

/-- A variable whose method was asked for stays as it is. -/
theorem bindWith_of_ne_unresolved (h : variable_.binding ≠ .unresolved) :
    variable_.bindWith resolver = variable_ := by
  unfold bindWith
  split
  · contradiction
  · rfl

/-- A variable is broken if its method could not be bound. -/
theorem isBroken_iff : variable_.isBroken = true ↔ variable_.binding = .broken := by
  cases hbinding : variable_.binding <;> simp [isBroken, hbinding]

/-- Binding a method changes nothing but the binding. -/
theorem bindWith_eq : variable_.bindWith resolver =
    { variable_ with binding := (variable_.bindWith resolver).binding } := by
  unfold bindWith
  split <;> rfl

/-- Binding leaves the number of a variable as it is. -/
@[simp] theorem id_bindWith : (variable_.bindWith resolver).id = variable_.id := by
  rw [bindWith_eq]

/-- Binding leaves the name of a variable as it is. -/
@[simp] theorem name_bindWith : (variable_.bindWith resolver).name = variable_.name := by
  rw [bindWith_eq]

/-- Binding leaves a variable with its module. -/
@[simp] theorem module_bindWith : (variable_.bindWith resolver).module_ = variable_.module_ := by
  rw [bindWith_eq]

/-- Binding leaves the type of a variable as it is. -/
@[simp] theorem type_bindWith : (variable_.bindWith resolver).type = variable_.type := by
  rw [bindWith_eq]

/-- Binding leaves the name of the method as it is. -/
@[simp] theorem method_bindWith : (variable_.bindWith resolver).method = variable_.method := by
  rw [bindWith_eq]

/-- Binding leaves the samples of a variable as they are. -/
@[simp] theorem samples_bindWith :
    (variable_.bindWith resolver).samples = variable_.samples := by
  rw [bindWith_eq]

/-- What never changes about a registered variable: all but its binding and its samples. -/
def profile (variable_ : Variable) : Variable :=
  { variable_ with binding := .unresolved, samples := .empty }

/-- Binding leaves all that describes a variable as it is. -/
@[simp] theorem profile_bindWith : (variable_.bindWith resolver).profile = variable_.profile := by
  rw [bindWith_eq]
  rfl

/-- A sample changes nothing that describes a variable. -/
@[simp] theorem profile_record {arg : Option String} {now checksum : Nat} :
    (variable_.record arg now checksum).profile = variable_.profile := rfl

variable {found : Variable}

/-- Variables of one description belong to one module. -/
theorem module_eq_of_profile_eq (h : found.profile = variable_.profile) :
    found.module_ = variable_.module_ := by
  have hfield := congrArg Variable.module_ h
  exact hfield

/-- Variables of one description have one type. -/
theorem type_eq_of_profile_eq (h : found.profile = variable_.profile) :
    found.type = variable_.type := by
  have hfield := congrArg Variable.type h
  exact hfield

/-- Variables of one description have one method. -/
theorem method_eq_of_profile_eq (h : found.profile = variable_.profile) :
    found.method = variable_.method := by
  have hfield := congrArg Variable.method h
  exact hfield

/-- Variables of one description have one timeout. -/
theorem timeout_eq_of_profile_eq (h : found.profile = variable_.profile) :
    found.timeout = variable_.timeout := by
  have hfield := congrArg Variable.timeout h
  exact hfield

/-- Variables of one description have one number. -/
theorem id_eq_of_profile_eq (h : found.profile = variable_.profile) :
    found.id = variable_.id := by
  have hfield := congrArg Variable.id h
  exact hfield

/-- Variables of one description have one name. -/
theorem name_eq_of_profile_eq (h : found.profile = variable_.profile) :
    found.name = variable_.name := by
  have hfield := congrArg Variable.name h
  exact hfield

end Variable

namespace Directory

/-- The numbers of the entries were given out by counting, every entry knows its number, and the
index of names leads exactly to the entries. -/
structure Sound (directory : Directory) : Prop where
  counted : directory.entries.Counted VariableId.number directory.lastId
  numbered : ∀ {id variable_}, directory.get? id = some variable_ → variable_.id = id
  named : ∀ {name id}, directory.idOf? name = some id ↔
    ∃ variable_, directory.get? id = some variable_ ∧ variable_.name = name

/-- The empty directory is in order. -/
theorem Sound.empty : empty.Sound where
  counted := .empty _ _
  numbered h := by cases h
  named := ⟨fun h => (by cases h), fun ⟨_, h, _⟩ => by cases h⟩

variable {directory : Directory} {id other : VariableId} {variable_ changed : Variable}
  {offer : Offer} {timeout : Nat} {module_ : ModuleId} {name : String}

/-- The number of a registered variable was given out. -/
theorem Sound.le_lastId (hsound : directory.Sound) (hget : directory.get? id = some variable_) :
    id.number ≤ directory.lastId :=
  hsound.counted.le_of_get? hget

/-- The variables that run on every tick, in the order of their numbers. -/
theorem Sound.cronIds_eq (hsound : directory.Sound) : directory.cronIds =
    directory.entries.keys.filter fun id => (directory.get? id).any Variable.isCron := by
  have hentry : ∀ entry ∈ directory.entries.entries,
      directory.get? entry.1 = some entry.2 ∧ entry.2.id = entry.1 := by
    intro entry hmem
    have hget : directory.get? entry.1 = some entry.2 :=
      Table.find_of_mem hsound.counted.unique hmem
    exact ⟨hget, hsound.numbered hget⟩
  rw [cronIds, Table.values, Table.keys, List.filter_map, List.map_map, List.filter_map]
  have hfilter : directory.entries.entries.filter (Variable.isCron ∘ Prod.snd) =
      directory.entries.entries.filter
        ((fun id => (directory.get? id).any Variable.isCron) ∘ Prod.fst) := by
    refine List.filter_congr fun entry hmem => ?_
    simp [(hentry entry hmem).1]
  rw [hfilter]
  exact List.map_congr_left fun entry hmem => (hentry entry (List.mem_filter.mp hmem).1).2

/-- A name that a variable bears is taken. -/
theorem Sound.idOf?_name (hsound : directory.Sound) (hget : directory.get? id = some variable_) :
    directory.idOf? variable_.name = some id :=
  hsound.named.mpr ⟨variable_, hget, rfl⟩

/-! ## Registering a variable -/

/-- The number that the next variable gets. -/
def nextId (directory : Directory) : VariableId := ⟨directory.lastId + 1⟩

/-- The directory with one more variable, whose name must be free. -/
def extend (directory : Directory) (offer : Offer) (timeout : Nat) (module_ : ModuleId) :
    Directory :=
  { entries := directory.entries.put directory.nextId
      (fresh directory.nextId offer timeout module_)
    byName := directory.byName.put offer.name directory.nextId
    lastId := directory.lastId + 1 }

/-- A name that is taken is not registered again. -/
theorem insert_of_taken (htaken : directory.idOf? offer.name = some id) :
    directory.insert offer timeout module_ = (directory, none) := by
  have hcontains : directory.byName.contains offer.name = true :=
    Table.contains_iff.mpr ⟨id, htaken⟩
  simp [insert, hcontains]

/-- A free name is registered under the next number. -/
theorem insert_of_free (hfree : directory.idOf? offer.name = none) :
    directory.insert offer timeout module_ =
      (directory.extend offer timeout module_, some directory.nextId) := by
  have hcontains : directory.byName.contains offer.name = false := by
    rw [Table.contains, show directory.byName.get? offer.name = none from hfree]
    rfl
  simp [insert, hcontains, extend, nextId]

/-- After a registration the next number leads to the new variable, and the others lead where they
led. -/
theorem get?_extend : (directory.extend offer timeout module_).get? id =
    if directory.nextId = id then some (fresh directory.nextId offer timeout module_)
    else directory.get? id :=
  Table.get?_put ..

/-- After a registration the new name leads to the next number, and the others lead where they
led. -/
theorem idOf?_extend : (directory.extend offer timeout module_).idOf? name =
    if offer.name = name then some directory.nextId else directory.idOf? name :=
  Table.get?_put ..

/-- Nothing is registered under the next number. -/
theorem Sound.get?_nextId (hsound : directory.Sound) :
    directory.get? directory.nextId = none :=
  hsound.counted.get?_eq_none (Nat.lt_succ_self _)

/-- The entries that were there stay what they were. -/
theorem Sound.get?_extend_of_get? (hsound : directory.Sound)
    (hget : directory.get? id = some variable_) :
    (directory.extend offer timeout module_).get? id = some variable_ := by
  have hne : directory.nextId ≠ id := by
    intro heq
    rw [← heq, hsound.get?_nextId] at hget
    cases hget
  rw [get?_extend, if_neg hne, hget]

/-- A registration under a free name keeps the directory in order. -/
theorem Sound.extend (hsound : directory.Sound) (hfree : directory.idOf? offer.name = none) :
    (directory.extend offer timeout module_).Sound where
  counted := hsound.counted.put_next rfl
  numbered := by
    intro id variable_ hget
    rw [get?_extend] at hget
    split at hget
    · next heq =>
      cases hget
      exact heq
    · exact hsound.numbered hget
  named := by
    intro name id
    rw [idOf?_extend, get?_extend]
    by_cases hnext : directory.nextId = id
    · subst hnext
      have hnone : directory.idOf? name ≠ some directory.nextId := by
        intro hname
        obtain ⟨variable_, hget, _⟩ := hsound.named.mp hname
        rw [hsound.get?_nextId] at hget
        cases hget
      by_cases hname : offer.name = name <;> simp [hname, hnone, fresh]
    · by_cases hname : offer.name = name
      · have hnone : ∀ variable_, directory.get? id = some variable_ → variable_.name ≠ name := by
          intro variable_ hget heq
          rw [hname, ← heq, hsound.idOf?_name hget] at hfree
          cases hfree
        simpa [hname, hnext] using hnone
      · simpa [hname, hnext] using hsound.named

/-! ## Forgetting variables -/

/-- Only what is removed is gone. -/
theorem get?_remove : (directory.remove id).get? other =
    if id = other then none else directory.get? other := by
  unfold remove
  split
  · next hget =>
    by_cases heq : id = other
    · rw [if_pos heq, ← heq, hget]
    · rw [if_neg heq]
  · exact Table.get?_erase ..

/-- Removing takes no number back. -/
@[simp] theorem lastId_remove : (directory.remove id).lastId = directory.lastId := by
  unfold remove
  split <;> rfl

/-- Removing keeps the directory in order. -/
theorem Sound.remove (hsound : directory.Sound) : (directory.remove id).Sound := by
  cases hget : directory.get? id with
  | none =>
    have hsame : directory.remove id = directory := by simp [Directory.remove, hget]
    rwa [hsame]
  | some gone =>
    refine ⟨?_, ?_, ?_⟩
    · have hentries : (directory.remove id).entries = directory.entries.erase id := by
        simp [Directory.remove, hget]
      rw [hentries, lastId_remove]
      exact hsound.counted.erase
    · intro other variable_ hother
      rw [get?_remove] at hother
      split at hother
      · cases hother
      · exact hsound.numbered hother
    · intro name other
      have hname : (directory.remove id).idOf? name =
          if gone.name = name then none else directory.idOf? name := by
        have hby : (directory.remove id).byName = directory.byName.erase gone.name := by
          simp [Directory.remove, hget]
        rw [idOf?, hby]
        exact Table.get?_erase ..
      have hgone : directory.idOf? gone.name = some id := hsound.idOf?_name hget
      rw [hname, get?_remove]
      by_cases hid : id = other
      · subst hid
        by_cases heq : gone.name = name
        · simp [heq]
        · have hnot : directory.idOf? name ≠ some id := by
            intro hsome
            obtain ⟨found, hfound, hfoundName⟩ := hsound.named.mp hsome
            rw [hget] at hfound
            cases hfound
            exact heq hfoundName
          simp [heq, hnot]
      · by_cases heq : gone.name = name
        · have hnot : ∀ found, directory.get? other = some found → found.name ≠ name := by
            intro found hfound hfoundName
            have hsome := hsound.idOf?_name hfound
            rw [hfoundName, ← heq, hgone] at hsome
            exact hid (Option.some.inj hsome)
          simpa [heq, hid] using hnot
        · simpa [heq, hid] using hsound.named

/-- Only those that are removed are gone. -/
theorem get?_removeAll (ids : List VariableId) : (directory.removeAll ids).get? other =
    if other ∈ ids then none else directory.get? other := by
  induction ids generalizing directory with
  | nil => simp [removeAll]
  | cons id ids ih =>
    have hstep : directory.removeAll (id :: ids) = (directory.remove id).removeAll ids := rfl
    rw [hstep, ih, get?_remove]
    by_cases hid : id = other
    · simp [hid]
    · have hne : ¬other = id := fun h => hid h.symm
      simp [hid, hne]

/-- However many are removed, no number is taken back. -/
@[simp] theorem lastId_removeAll (ids : List VariableId) :
    (directory.removeAll ids).lastId = directory.lastId := by
  induction ids generalizing directory with
  | nil => rfl
  | cons id ids ih =>
    have hrest : ((directory.remove id).removeAll ids).lastId = (directory.remove id).lastId := ih
    exact hrest.trans lastId_remove

/-- However many are removed, the directory stays in order. -/
theorem Sound.removeAll (hsound : directory.Sound) (ids : List VariableId) :
    (directory.removeAll ids).Sound := by
  induction ids generalizing directory with
  | nil => exact hsound
  | cons id ids ih => exact ih hsound.remove

/-! ## Changing a variable in its place -/

/-- A change that keeps the number and the name of a variable keeps the directory sound. -/
theorem Sound.put_same (hsound : directory.Sound) (hget : directory.get? id = some variable_)
    (hid : changed.id = variable_.id) (hname : changed.name = variable_.name) :
    { directory with entries := directory.entries.put id changed : Directory }.Sound := by
  have hput (other : VariableId) :
      { directory with entries := directory.entries.put id changed : Directory }.get? other =
        if id = other then some changed else directory.get? other :=
    Table.get?_put ..
  refine ⟨hsound.counted.put_old hget, ?_, ?_⟩
  · intro other found hfound
    rw [hput] at hfound
    split at hfound
    · next heq =>
      cases hfound
      rw [hid, hsound.numbered hget, heq]
    · exact hsound.numbered hfound
  · intro name other
    rw [hput]
    refine hsound.named.trans ?_
    by_cases heq : id = other
    · subst heq
      simp [hget, hname]
    · simp [heq]

variable {resolver : String → TypeTag → Except BindingError Callable}

/-- Binding a method changes the binding of its own variable only. -/
theorem get?_resolve : (directory.resolve id resolver).1.get? other =
    if id = other then (directory.get? other).map (Variable.bindWith resolver)
    else directory.get? other := by
  cases hget : directory.get? id with
  | none =>
    by_cases heq : id = other
    · subst heq
      simp [resolve, hget]
    · simp [resolve, hget, heq]
  | some found =>
    by_cases hbinding : found.binding = .unresolved
    · have hentries : (directory.resolve id resolver).1.entries =
          directory.entries.put id (found.bindWith resolver) := by
        simp [resolve, hget, hbinding, Variable.bindWith_of_unresolved hbinding]
      rw [Directory.get?, hentries, Table.get?_put]
      by_cases heq : id = other
      · subst heq
        simp [hget]
      · rw [if_neg heq, if_neg heq]
        rfl
    · have hsame : (directory.resolve id resolver).1 = directory := by
        simp only [resolve, hget]
        split <;> simp_all
      rw [hsame]
      by_cases heq : id = other
      · subst heq
        rw [if_pos rfl, hget, Option.map_some, Variable.bindWith_of_ne_unresolved hbinding]
      · rw [if_neg heq]

/-- What binding leads to: the callable of the variable's binding afterwards. -/
theorem callable_resolve : (directory.resolve id resolver).2.callable =
    (directory.get? id).bind fun variable_ =>
      callableOf (variable_.bindWith resolver).binding := by
  cases hget : directory.get? id with
  | none => simp [resolve, hget]
  | some found =>
    simp only [resolve, hget, Option.bind_some]
    cases hbinding : found.binding with
    | unresolved => simp [Variable.bindWith_of_unresolved hbinding]
    | ready callable =>
      rw [Variable.bindWith_of_ne_unresolved (by simp [hbinding]), hbinding]
      rfl
    | broken =>
      rw [Variable.bindWith_of_ne_unresolved (by simp [hbinding]), hbinding]
      rfl

/-- What is bound is not asked for again. -/
theorem resolve_of_ne_unresolved (hget : directory.get? id = some variable_)
    (hbound : variable_.binding ≠ .unresolved) :
    directory.resolve id resolver = (directory, ⟨callableOf variable_.binding, none⟩) := by
  cases hbinding : variable_.binding with
  | unresolved => exact absurd hbinding hbound
  | ready callable => simp [resolve, hget, hbinding, callableOf]
  | broken => simp [resolve, hget, hbinding, callableOf]

/-- Binding a method leaves the index of names as it is. -/
@[simp] theorem byName_resolve :
    (directory.resolve id resolver).1.byName = directory.byName := by
  unfold resolve
  split
  · rfl
  · split <;> rfl

/-- Binding a method gives out no number. -/
@[simp] theorem lastId_resolve :
    (directory.resolve id resolver).1.lastId = directory.lastId := by
  unfold resolve
  split
  · rfl
  · split <;> rfl

/-- Binding a method keeps the directory in order. -/
theorem Sound.resolve (hsound : directory.Sound) :
    (directory.resolve id resolver).1.Sound := by
  unfold Directory.resolve
  split
  · exact hsound
  · next found hget =>
    split
    · exact hsound
    · exact hsound
    · exact hsound.put_same hget rfl rfl

variable {arg : Option String} {now checksum : Nat}

/-- A sample is noted for its own variable only. -/
theorem get?_recordSample : (directory.recordSample id arg now checksum).1.get? other =
    if id = other then (directory.get? other).map fun variable_ =>
      variable_.record arg now checksum
    else directory.get? other := by
  cases hget : directory.get? id with
  | none =>
    by_cases heq : id = other
    · subst heq
      simp [recordSample, hget]
    · simp [recordSample, hget, heq]
  | some found =>
    have hentries : (directory.recordSample id arg now checksum).1.entries =
        directory.entries.put id (found.record arg now checksum) := by
      simp [recordSample, hget]
    rw [Directory.get?, hentries, Table.get?_put]
    by_cases heq : id = other
    · subst heq
      simp [hget]
    · rw [if_neg heq, if_neg heq]
      rfl

/-- A sample counts as a change if its checksum differs from that of the sample before. -/
theorem changed_recordSample : (directory.recordSample id arg now checksum).2 =
    (directory.get? id).map fun variable_ => differs (variable_.sampleFor arg) checksum := by
  cases hget : directory.get? id <;> simp [recordSample, hget]

/-- A sample leaves the index of names as it is. -/
@[simp] theorem byName_recordSample :
    (directory.recordSample id arg now checksum).1.byName = directory.byName := by
  unfold recordSample
  split <;> rfl

/-- A sample gives out no number. -/
@[simp] theorem lastId_recordSample :
    (directory.recordSample id arg now checksum).1.lastId = directory.lastId := by
  unfold recordSample
  split <;> rfl

/-- A sample keeps the directory in order. -/
theorem Sound.recordSample (hsound : directory.Sound) :
    (directory.recordSample id arg now checksum).1.Sound := by
  unfold Directory.recordSample
  split
  · exact hsound
  · next found hget => exact hsound.put_same hget rfl rfl

/-! ## What stays of a directory -/

/-- Both directories hold the same variables, up to bindings and samples. -/
def Alike (before after : Directory) : Prop :=
  ∀ id, (after.get? id).map Variable.profile = (before.get? id).map Variable.profile

/-- After a method was bound the same variables are registered under the same descriptions. -/
theorem alike_resolve : directory.Alike (directory.resolve id resolver).1 := by
  intro other
  rw [get?_resolve]
  split
  · cases directory.get? other <;> simp
  · rfl

/-- After a sample the same variables are registered under the same descriptions. -/
theorem alike_recordSample : directory.Alike (directory.recordSample id arg now checksum).1 := by
  intro other
  rw [get?_recordSample]
  split
  · cases directory.get? other <;> simp
  · rfl

/-- Two directories are alike in either direction. -/
theorem Alike.symm {before after : Directory} (halike : before.Alike after) :
    after.Alike before :=
  fun id => (halike id).symm

/-- A variable of one of two alike directories is in the other one too, with the same
description. -/
theorem Alike.get?_after {before after : Directory} (halike : before.Alike after)
    (hget : before.get? id = some variable_) :
    ∃ found, after.get? id = some found ∧ found.profile = variable_.profile := by
  have hprofile := halike id
  rw [hget, Option.map_some] at hprofile
  obtain ⟨found, hfound, heq⟩ := Option.map_eq_some_iff.mp hprofile
  exact ⟨found, hfound, heq⟩

/-- How a directory can change while no value is recorded. Variables come with new numbers and
without samples, and those that stay keep what they have; only a method is still to be bound. -/
structure Keeps (before after : Directory) : Prop where
  last : before.lastId ≤ after.lastId
  kept : ∀ {id found}, after.get? id = some found → id.number ≤ before.lastId →
    ∃ variable_, before.get? id = some variable_ ∧ found.profile = variable_.profile ∧
      found.samples = variable_.samples ∧
      (variable_.binding ≠ .unresolved → found.binding = variable_.binding)
  blank : ∀ {id found}, after.get? id = some found → before.lastId < id.number →
    found.samples = .empty

/-- Forgetting variables keeps the others. -/
theorem Keeps.of_subset {before after : Directory} (hlast : before.lastId ≤ after.lastId)
    (hsound : before.Sound)
    (hsubset : ∀ id found, after.get? id = some found → before.get? id = some found) :
    before.Keeps after where
  last := hlast
  kept hget _ := ⟨_, hsubset _ _ hget, rfl, rfl, fun _ => rfl⟩
  blank hget hlt := by
    have hle := hsound.le_lastId (hsubset _ _ hget)
    omega

/-- A directory keeps what it has. -/
theorem Keeps.refl (hsound : directory.Sound) : directory.Keeps directory :=
  .of_subset (Nat.le_refl _) hsound fun _ _ h => h

/-- What is kept twice in a row is kept. -/
theorem Keeps.trans {before middle after : Directory} (hfirst : before.Keeps middle)
    (hlast : middle.Keeps after) : before.Keeps after where
  last := Nat.le_trans hfirst.last hlast.last
  kept := by
    intro id found hget hle
    obtain ⟨between, hbetween, hprofile, hsamples, hbinding⟩ :=
      hlast.kept hget (Nat.le_trans hle hfirst.last)
    obtain ⟨variable_, hvariable, hprofile', hsamples', hbinding'⟩ := hfirst.kept hbetween hle
    refine ⟨variable_, hvariable, hprofile.trans hprofile', hsamples.trans hsamples', ?_⟩
    intro hbound
    have hsame := hbinding' hbound
    rw [hbinding (by rwa [hsame]), hsame]
  blank := by
    intro id found hget hlt
    by_cases hle : id.number ≤ middle.lastId
    · obtain ⟨between, hbetween, _, hsamples, _⟩ := hlast.kept hget hle
      rw [hsamples, hfirst.blank hbetween hlt]
    · exact hlast.blank hget (by omega)

/-- Binding a method keeps every variable. -/
theorem Sound.keeps_resolve (hsound : directory.Sound) :
    directory.Keeps (directory.resolve id resolver).1 where
  last := Nat.le_of_eq lastId_resolve.symm
  kept := by
    intro other found hget _
    rw [get?_resolve] at hget
    split at hget
    · obtain ⟨variable_, hvariable, rfl⟩ := Option.map_eq_some_iff.mp hget
      refine ⟨variable_, hvariable, by simp, by simp, ?_⟩
      intro hbound
      rw [Variable.bindWith_of_ne_unresolved hbound]
    · exact ⟨found, hget, rfl, rfl, fun _ => rfl⟩
  blank := by
    intro other found hget hlt
    rw [get?_resolve] at hget
    split at hget
    · obtain ⟨variable_, hvariable, rfl⟩ := Option.map_eq_some_iff.mp hget
      have hle := hsound.le_lastId hvariable
      omega
    · have hle := hsound.le_lastId hget
      omega

end Directory

end MetricsDaemon
