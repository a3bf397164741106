import MetricsDaemon.Proofs.Acts

/-!
# Methods that are bound early

A plan binds methods, and a tick that comes to nothing leaves them bound. Two directories,
registries or states stand in this relation if the second differs from the first in that
only. Everything that is done to the shared state keeps them so, and leads to the same
answers, because a method that is not bound yet is bound to the same callable when it is
needed.
-/

namespace MetricsDaemon

/-- The unit of a resident module. -/
def Registry.unitOf (registry : Registry) (id : ModuleId) : Option ProviderUnit :=
  (registry.get? id).map Module.unit

/-! ## Variables -/

/-- The second variable is the first one, whose method may have been asked for since. -/
def Variable.Prebinds (units : ModuleId → Option ProviderUnit) (plain bound : Variable) : Prop :=
  bound = plain ∨ ∃ unit, units plain.module_ = some unit ∧ bound = plain.bindWith unit.resolve

namespace Variable

variable {units other : ModuleId → Option ProviderUnit} {plain middle bound : Variable}
  {unit : ProviderUnit} {resolver : String → TypeTag → Except BindingError Callable}

/-- After a variable was to be bound its method has been asked for. -/
theorem binding_bindWith_ne : (plain.bindWith resolver).binding ≠ .unresolved := by
  intro hbinding
  by_cases hplain : plain.binding = .unresolved
  · rw [bindWith_of_unresolved hplain] at hbinding
    dsimp only at hbinding
    cases hanswer : resolver plain.method plain.type <;> rw [hanswer] at hbinding <;>
      cases hbinding
  · rw [bindWith_of_ne_unresolved hplain] at hbinding
    exact hplain hbinding

/-- A method is asked for once. -/
theorem bindWith_bindWith :
    (plain.bindWith resolver).bindWith resolver = plain.bindWith resolver :=
  bindWith_of_ne_unresolved binding_bindWith_ne

/-- It makes no difference whether a sample comes before or after the binding. -/
theorem bindWith_record {arg : Option String} {now checksum : Nat} :
    (plain.record arg now checksum).bindWith resolver =
      (plain.bindWith resolver).record arg now checksum := by
  by_cases hplain : plain.binding = .unresolved
  · have hrecord : (plain.record arg now checksum).binding = .unresolved := hplain
    rw [bindWith_of_unresolved hplain, bindWith_of_unresolved hrecord]
    rfl
  · have hrecord : (plain.record arg now checksum).binding ≠ .unresolved := hplain
    rw [bindWith_of_ne_unresolved hplain, bindWith_of_ne_unresolved hrecord]

/-- A variable is prebound to itself. -/
theorem Prebinds.refl (units : ModuleId → Option ProviderUnit) (plain : Variable) :
    plain.Prebinds units plain := .inl rfl

/-- Prebinding changes nothing that describes a variable. -/
theorem Prebinds.profile (hbound : plain.Prebinds units bound) :
    bound.profile = plain.profile := by
  rcases hbound with rfl | ⟨unit, _, rfl⟩
  · rfl
  · exact profile_bindWith

/-- Prebinding leaves the samples as they are. -/
theorem Prebinds.samples (hbound : plain.Prebinds units bound) :
    bound.samples = plain.samples := by
  rcases hbound with rfl | ⟨unit, _, rfl⟩
  · rfl
  · exact samples_bindWith

/-- Prebinding leaves a variable with its module. -/
theorem Prebinds.module (hbound : plain.Prebinds units bound) :
    bound.module_ = plain.module_ := module_eq_of_profile_eq hbound.profile

/-- To prebind twice is to prebind. -/
theorem Prebinds.trans (hfirst : plain.Prebinds units middle)
    (hlast : middle.Prebinds units bound) : plain.Prebinds units bound := by
  rcases hlast with rfl | ⟨unit, hunit, rfl⟩
  · exact hfirst
  · rcases hfirst with rfl | ⟨earlier, hearlier, rfl⟩
    · exact .inr ⟨unit, hunit, rfl⟩
    · rw [module_bindWith, hearlier] at hunit
      obtain rfl : earlier = unit := Option.some.inj hunit
      exact .inr ⟨earlier, hearlier, bindWith_bindWith⟩

/-- Once its own unit is asked for the method, nothing tells the two variables apart. -/
theorem Prebinds.bindWith_eq (hbound : plain.Prebinds units bound)
    (hunit : units plain.module_ = some unit) :
    bound.bindWith unit.resolve = plain.bindWith unit.resolve := by
  rcases hbound with rfl | ⟨earlier, hearlier, rfl⟩
  · rfl
  · rw [hunit] at hearlier
    cases hearlier
    exact bindWith_bindWith

/-- Variables stay prebound when both get the same sample. -/
theorem Prebinds.record {arg : Option String} {now checksum : Nat}
    (hbound : plain.Prebinds units bound) :
    (plain.record arg now checksum).Prebinds units (bound.record arg now checksum) := by
  rcases hbound with rfl | ⟨unit, hunit, rfl⟩
  · exact .refl units _
  · exact .inr ⟨unit, hunit, bindWith_record.symm⟩

/-- What is prebound stays so where the unit of its module is known as well. -/
theorem Prebinds.mono (hbound : plain.Prebinds units bound)
    (hunits : ∀ unit, units plain.module_ = some unit → other plain.module_ = some unit) :
    plain.Prebinds other bound := by
  rcases hbound with rfl | ⟨unit, hunit, rfl⟩
  · exact .refl other _
  · exact .inr ⟨unit, hunits unit hunit, rfl⟩

end Variable

/-! ## Directories -/

/-- The second directory is the first one, but some methods may have been asked for since. -/
structure Directory.Prebinds (units : ModuleId → Option ProviderUnit) (plain bound : Directory) :
    Prop where
  keys : bound.entries.keys = plain.entries.keys
  byName : bound.byName = plain.byName
  last : bound.lastId = plain.lastId
  ahead : ∀ {id variable_}, plain.get? id = some variable_ →
    ∃ found, bound.get? id = some found ∧ variable_.Prebinds units found

namespace Directory

variable {units other : ModuleId → Option ProviderUnit} {plain middle bound directory : Directory}
  {id : VariableId} {variable_ : Variable} {unit : ProviderUnit} {offer : Offer} {timeout : Nat}
  {module_ : ModuleId} {arg : Option String} {now checksum : Nat}

/-- A directory is prebound to itself. -/
theorem Prebinds.refl (units : ModuleId → Option ProviderUnit) (plain : Directory) :
    plain.Prebinds units plain := ⟨rfl, rfl, rfl, fun hget => ⟨_, hget, .refl units _⟩⟩

/-- To prebind twice is to prebind. -/
theorem Prebinds.trans (hfirst : plain.Prebinds units middle)
    (hlast : middle.Prebinds units bound) : plain.Prebinds units bound where
  keys := hlast.keys.trans hfirst.keys
  byName := hlast.byName.trans hfirst.byName
  last := hlast.last.trans hfirst.last
  ahead := by
    intro id variable_ hget
    obtain ⟨between, hbetween, hfirst⟩ := hfirst.ahead hget
    obtain ⟨found, hfound, hlast⟩ := hlast.ahead hbetween
    exact ⟨found, hfound, hfirst.trans hlast⟩

/-- A directory stays prebound where the units of its modules are known as well. -/
theorem Prebinds.mono (hbound : plain.Prebinds units bound)
    (hunits : ∀ id variable_ unit, plain.get? id = some variable_ →
      units variable_.module_ = some unit → other variable_.module_ = some unit) :
    plain.Prebinds other bound where
  keys := hbound.keys
  byName := hbound.byName
  last := hbound.last
  ahead := by
    intro id variable_ hget
    obtain ⟨found, hfound, hahead⟩ := hbound.ahead hget
    exact ⟨found, hfound, hahead.mono fun unit => hunits id variable_ unit hget⟩

/-- Prebinding neither registers nor removes a variable. -/
theorem Prebinds.get?_eq_none_iff (hbound : plain.Prebinds units bound) :
    bound.get? id = none ↔ plain.get? id = none := by
  rw [get?, get?, Table.get?_eq_none_iff, Table.get?_eq_none_iff, hbound.keys]

/-- What does not depend on bindings is the same for both. -/
theorem Prebinds.map_get? {β : Type} (hbound : plain.Prebinds units bound)
    {view : Variable → β} (hview : ∀ first second, first.Prebinds units second →
      view second = view first) (id : VariableId) :
    (bound.get? id).map view = (plain.get? id).map view := by
  cases hget : plain.get? id with
  | none => rw [hbound.get?_eq_none_iff.mpr hget]
  | some variable_ =>
    obtain ⟨found, hfound, hahead⟩ := hbound.ahead hget
    rw [hfound, Option.map_some, Option.map_some, hview _ _ hahead]

/-- Binding a method leaves the numbers that are in use as they are. -/
theorem keys_resolve {resolver : String → TypeTag → Except BindingError Callable} :
    (directory.resolve id resolver).1.entries.keys = directory.entries.keys := by
  unfold resolve
  split
  · rfl
  · next hget =>
    split
    · rfl
    · rfl
    · exact Table.keys_put_of_get?_eq_some hget

/-- A sample leaves the numbers that are in use as they are. -/
theorem keys_recordSample :
    (directory.recordSample id arg now checksum).1.entries.keys = directory.entries.keys := by
  unfold recordSample
  split
  · rfl
  · next hget => exact Table.keys_put_of_get?_eq_some hget

/-- Asking the unit of its module for the method of a variable goes ahead. -/
theorem prebinds_resolve (hunit : ∀ variable_, plain.get? id = some variable_ →
      units variable_.module_ = some unit) :
    plain.Prebinds units (plain.resolve id unit.resolve).1 where
  keys := keys_resolve
  byName := byName_resolve
  last := lastId_resolve
  ahead := by
    intro other variable_ hget
    rw [get?_resolve]
    split
    · next heq =>
      subst heq
      rw [hget]
      exact ⟨_, rfl, .inr ⟨unit, hunit variable_ hget, rfl⟩⟩
    · exact ⟨variable_, hget, .refl units _⟩

/-- Directories stay prebound when a method is bound in both through the unit of its module. -/
theorem Prebinds.resolve (hbound : plain.Prebinds units bound)
    (hunit : ∀ variable_, plain.get? id = some variable_ →
      units variable_.module_ = some unit) :
    (plain.resolve id unit.resolve).1.Prebinds units (bound.resolve id unit.resolve).1 where
  keys := by rw [keys_resolve, keys_resolve, hbound.keys]
  byName := by rw [byName_resolve, byName_resolve, hbound.byName]
  last := by rw [lastId_resolve, lastId_resolve, hbound.last]
  ahead := by
    intro other variable_ hget
    rw [get?_resolve] at hget ⊢
    split at hget
    · next heq =>
      subst heq
      obtain ⟨before, hbefore, rfl⟩ := Option.map_eq_some_iff.mp hget
      obtain ⟨found, hfound, hahead⟩ := hbound.ahead hbefore
      have hsame := hahead.bindWith_eq (hunit before hbefore)
      rw [if_pos rfl, hfound, Option.map_some, hsame]
      exact ⟨_, rfl, .refl units _⟩
    · next hne =>
      rw [if_neg hne]
      exact hbound.ahead hget

/-- Both lead to the same callable. -/
theorem Prebinds.callable_resolve (hbound : plain.Prebinds units bound)
    (hunit : ∀ variable_, plain.get? id = some variable_ →
      units variable_.module_ = some unit) :
    (bound.resolve id unit.resolve).2.callable = (plain.resolve id unit.resolve).2.callable := by
  rw [Directory.callable_resolve, Directory.callable_resolve]
  cases hget : plain.get? id with
  | none => rw [hbound.get?_eq_none_iff.mpr hget]
  | some variable_ =>
    obtain ⟨found, hfound, hahead⟩ := hbound.ahead hget
    rw [hfound, Option.bind_some, Option.bind_some, hahead.bindWith_eq (hunit variable_ hget)]

/-- Directories stay prebound when both get the same sample. -/
theorem Prebinds.recordSample (hbound : plain.Prebinds units bound) :
    (plain.recordSample id arg now checksum).1.Prebinds units
      (bound.recordSample id arg now checksum).1 where
  keys := by rw [keys_recordSample, keys_recordSample, hbound.keys]
  byName := by rw [byName_recordSample, byName_recordSample, hbound.byName]
  last := by rw [lastId_recordSample, lastId_recordSample, hbound.last]
  ahead := by
    intro other variable_ hget
    rw [get?_recordSample] at hget ⊢
    split at hget
    · next heq =>
      obtain ⟨before, hbefore, rfl⟩ := Option.map_eq_some_iff.mp hget
      obtain ⟨found, hfound, hahead⟩ := hbound.ahead hbefore
      rw [if_pos heq, hfound]
      exact ⟨_, rfl, hahead.record⟩
    · next hne =>
      rw [if_neg hne]
      exact hbound.ahead hget

/-- Both notice the same. -/
theorem Prebinds.changed_recordSample (hbound : plain.Prebinds units bound) :
    (bound.recordSample id arg now checksum).2 = (plain.recordSample id arg now checksum).2 := by
  rw [Directory.changed_recordSample, Directory.changed_recordSample]
  refine hbound.map_get? ?_ id
  intro first second hahead
  rw [Variable.sampleFor, Variable.sampleFor, hahead.samples]

/-- Directories stay prebound when a variable leaves both. -/
theorem Prebinds.remove (hbound : plain.Prebinds units bound) :
    (plain.remove id).Prebinds units (bound.remove id) := by
  cases hget : plain.get? id with
  | none =>
    have hplain : plain.remove id = plain := by simp [Directory.remove, hget]
    have hboth : bound.remove id = bound := by
      simp [Directory.remove, hbound.get?_eq_none_iff.mpr hget]
    rw [hplain, hboth]
    exact hbound
  | some variable_ =>
    obtain ⟨found, hfound, hahead⟩ := hbound.ahead hget
    have hname : found.name = variable_.name := Variable.name_eq_of_profile_eq hahead.profile
    refine ⟨?_, ?_, ?_, ?_⟩
    · simp [Directory.remove, hget, hfound, Table.keys_erase, hbound.keys]
    · simp [Directory.remove, hget, hfound, hname, hbound.byName]
    · rw [lastId_remove, lastId_remove, hbound.last]
    · intro other kept hkept
      rw [get?_remove] at hkept ⊢
      split at hkept
      · cases hkept
      · next hne =>
        rw [if_neg hne]
        exact hbound.ahead hkept

/-- Directories stay prebound when the same variables leave both. -/
theorem Prebinds.removeAll (ids : List VariableId) (hbound : plain.Prebinds units bound) :
    (plain.removeAll ids).Prebinds units (bound.removeAll ids) := by
  induction ids generalizing plain bound with
  | nil => exact hbound
  | cons id ids ih => exact ih hbound.remove

/-- Prebinding leaves the index of names as it is. -/
theorem Prebinds.idOf? (hbound : plain.Prebinds units bound) (name : String) :
    bound.idOf? name = plain.idOf? name := by
  rw [Directory.idOf?, Directory.idOf?, hbound.byName]

/-- Prebinding gives out no number. -/
theorem Prebinds.nextId (hbound : plain.Prebinds units bound) : bound.nextId = plain.nextId := by
  rw [Directory.nextId, Directory.nextId, hbound.last]

/-- Directories stay prebound when the same variable is registered in both. -/
theorem Prebinds.extend (hbound : plain.Prebinds units bound) :
    (plain.extend offer timeout module_).Prebinds units
      (bound.extend offer timeout module_) where
  keys := by
    have hnext := hbound.nextId
    have hsame := Table.keys_put_eq hbound.keys plain.nextId
      (fresh plain.nextId offer timeout module_) (fresh plain.nextId offer timeout module_)
    rw [Directory.extend, Directory.extend, hnext]
    exact hsame
  byName := by
    rw [Directory.extend, Directory.extend, hbound.nextId, hbound.byName]
  last := by
    rw [Directory.extend, Directory.extend, hbound.last]
  ahead := by
    intro id variable_ hget
    rw [get?_extend] at hget ⊢
    rw [hbound.nextId]
    split at hget
    · next heq =>
      cases hget
      rw [if_pos heq]
      exact ⟨_, rfl, .refl units _⟩
    · next hne =>
      rw [if_neg hne]
      exact hbound.ahead hget

/-- Prebinding keeps a directory in order. -/
theorem Prebinds.sound (hbound : plain.Prebinds units bound) (hplain : plain.Sound) :
    bound.Sound where
  counted := by
    rw [hbound.last]
    exact hplain.counted.of_keys_eq hbound.keys
  numbered := by
    intro id found hget
    have hid : (bound.get? id).map Variable.id = (plain.get? id).map Variable.id :=
      hbound.map_get? (fun _ _ hahead => Variable.id_eq_of_profile_eq hahead.profile) id
    rw [hget, Option.map_some] at hid
    obtain ⟨variable_, hvariable, hsame⟩ := Option.map_eq_some_iff.mp hid.symm
    rw [← hsame, hplain.numbered hvariable]
  named := by
    intro name id
    have hname : (bound.get? id).map Variable.name = (plain.get? id).map Variable.name :=
      hbound.map_get? (fun _ _ hahead => Variable.name_eq_of_profile_eq hahead.profile) id
    have hiff : (∃ variable_, bound.get? id = some variable_ ∧ variable_.name = name) ↔
        ∃ variable_, plain.get? id = some variable_ ∧ variable_.name = name := by
      rw [← Option.map_eq_some_iff, hname, Option.map_eq_some_iff]
    rw [hbound.idOf?, hiff]
    exact hplain.named

/-- The variables that run on every tick are the same. -/
theorem Prebinds.cronIds (hbound : plain.Prebinds units bound) (hplain : plain.Sound) :
    bound.cronIds = plain.cronIds := by
  have hcron (id : VariableId) :
      (bound.get? id).any Variable.isCron = (plain.get? id).any Variable.isCron := by
    have hview : (bound.get? id).map Variable.isCron = (plain.get? id).map Variable.isCron :=
      hbound.map_get? (fun _ _ hahead =>
        congrArg TypeTag.cron (Variable.type_eq_of_profile_eq hahead.profile)) id
    have hany (found : Option Variable) :
        found.any Variable.isCron = (found.map Variable.isCron).any fun cron => cron := by
      cases found <;> rfl
    rw [hany, hany, hview]
  rw [(hbound.sound hplain).cronIds_eq, hplain.cronIds_eq, hbound.keys]
  simp only [hcron]

end Directory

/-! ## Installations -/

/-- The second installation is the first one, but some methods may have been asked for since. -/
structure Installation.Prebinds (units : ModuleId → Option ProviderUnit)
    (plain bound : Installation) : Prop where
  directory : plain.directory.Prebinds units bound.directory
  layout : bound.layout = plain.layout
  registered : bound.registered = plain.registered
  shown : bound.shown = plain.shown
  pinned : bound.pinned = plain.pinned

namespace Installation

variable {units : ModuleId → Option ProviderUnit} {plain bound : Installation}
  {settings : Settings} {id : ModuleId} {offer : Offer}

/-- Installations stay prebound when the same offer is registered in both. -/
theorem Prebinds.register (hbound : plain.Prebinds units bound) :
    (plain.register settings id offer).Prebinds units (bound.register settings id offer) := by
  have hname := hbound.directory.idOf? offer.name
  cases hidOf : plain.directory.idOf? offer.name with
  | some taken =>
    rw [hidOf] at hname
    rw [register_of_taken hidOf, register_of_taken hname]
    exact hbound
  | none =>
    rw [hidOf] at hname
    rw [register_of_free hidOf, register_of_free hname]
    refine ⟨hbound.directory.extend, ?_, ?_, ?_, ?_⟩
    · rw [hbound.layout, hbound.directory.nextId]
    · rw [hbound.registered, hbound.directory.nextId]
    · rw [hbound.shown]
    · rw [hbound.pinned]

/-- Installations stay prebound when the same offers are registered in both. -/
theorem Prebinds.registerAll (offers : List Offer) (hbound : plain.Prebinds units bound) :
    (offers.foldl (Installation.register settings id) plain).Prebinds units
      (offers.foldl (Installation.register settings id) bound) := by
  induction offers generalizing plain bound with
  | nil => exact hbound
  | cons offer offers ih => exact ih hbound.register

end Installation

/-! ## Registries -/

/-- The second registry is the first one, but some methods may have been asked for since. -/
structure Registry.Prebinds (plain bound : Registry) : Prop where
  same : ∃ directory journal, bound = { plain with directory := directory, journal := journal }
  directory : plain.directory.Prebinds plain.unitOf bound.directory

namespace Registry

variable {plain middle bound registry : Registry} {id : ModuleId} {variableId : VariableId}
  {unit : ProviderUnit} {change : Nat → Nat} {prepared : Prepared}

/-- A registry is prebound to itself. -/
theorem Prebinds.refl (registry : Registry) : registry.Prebinds registry :=
  ⟨⟨registry.directory, registry.journal, rfl⟩, .refl _ _⟩

/-- To prebind twice is to prebind. -/
theorem Prebinds.trans (hfirst : plain.Prebinds middle) (hlast : middle.Prebinds bound) :
    plain.Prebinds bound where
  same := by
    obtain ⟨_, _, rfl⟩ := hfirst.same
    obtain ⟨directory, journal, rfl⟩ := hlast.same
    exact ⟨directory, journal, rfl⟩
  directory := by
    have hunits : middle.unitOf = plain.unitOf := by
      obtain ⟨_, _, rfl⟩ := hfirst.same
      rfl
    have hrest := hlast.directory
    rw [hunits] at hrest
    exact hfirst.directory.trans hrest

/-- Prebinding leaves the modules as they are. -/
theorem Prebinds.modules (hbound : plain.Prebinds bound) : bound.modules = plain.modules := by
  obtain ⟨_, _, rfl⟩ := hbound.same
  rfl

/-- In a prebound registry the same modules are resident. -/
theorem Prebinds.get? (hbound : plain.Prebinds bound) (id : ModuleId) :
    bound.get? id = plain.get? id := by
  rw [Registry.get?, Registry.get?, hbound.modules]

/-- In a prebound registry the same names are loaded. -/
theorem Prebinds.isLoaded (hbound : plain.Prebinds bound) (name : String) :
    bound.isLoaded name = plain.isLoaded name := by
  obtain ⟨_, _, rfl⟩ := hbound.same
  rfl

/-- Registries stay prebound whatever is noted in the journals of both. -/
theorem Prebinds.note (hbound : plain.Prebinds bound) (event : Event) :
    (plain.note event).Prebinds (bound.note event) where
  same := by
    obtain ⟨directory, journal, rfl⟩ := hbound.same
    exact ⟨directory, event :: journal, rfl⟩
  directory := hbound.directory

/-- Registries stay prebound when both are provided with the same code. -/
theorem Prebinds.registerBuiltin (hbound : plain.Prebinds bound) (name : String)
    (provider : Provider) :
    (plain.registerBuiltin name provider).Prebinds (bound.registerBuiltin name provider) where
  same := by
    obtain ⟨directory, journal, rfl⟩ := hbound.same
    exact ⟨directory, journal, rfl⟩
  directory := hbound.directory

/-- The unit of a module depends on the modules only. -/
theorem unitOf_eq_of_modules_eq {other : Registry} (hmodules : other.modules = registry.modules) :
    other.unitOf = registry.unitOf := by
  funext id
  rw [unitOf, unitOf, Registry.get?, hmodules]
  rfl

/-- Counting clients changes no unit. -/
theorem unitOf_recount : (registry.recount id change).unitOf = registry.unitOf := by
  funext other
  rw [unitOf, unitOf, get?_recount]
  split
  · cases registry.get? other <;> rfl
  · rfl

/-- Registries stay prebound when the clients of a module are counted in both. -/
theorem Prebinds.recount (hbound : plain.Prebinds bound) :
    (plain.recount id change).Prebinds (bound.recount id change) where
  same := by
    obtain ⟨directory, journal, rfl⟩ := hbound.same
    exact ⟨directory, journal, rfl⟩
  directory := by
    rw [unitOf_recount]
    exact hbound.directory

/-- Registries stay prebound when both get the same sample. -/
theorem Prebinds.recordSample {arg : Option String} {now checksum : Nat}
    (hbound : plain.Prebinds bound) :
    { plain with directory := (plain.directory.recordSample variableId arg now checksum).1
      : Registry }.Prebinds
      { bound with
        directory := (bound.directory.recordSample variableId arg now checksum).1 } where
  same := by
    obtain ⟨directory, journal, rfl⟩ := hbound.same
    exact ⟨_, journal, rfl⟩
  directory := hbound.directory.recordSample

/-! ### Binding -/

/-- The unit belongs to the module of the variable. -/
def Owns (registry : Registry) (unit : ProviderUnit) (id : VariableId) : Prop :=
  ∀ variable_, registry.directory.get? id = some variable_ →
    registry.unitOf variable_.module_ = some unit

/-- The unit of the module of a variable is the one that may be asked for its method. -/
theorem owns_of_get? {variable_ : Variable} {module_ : Module}
    (hvariable : registry.directory.get? variableId = some variable_)
    (hmodule : registry.get? variable_.module_ = some module_) :
    registry.Owns module_.unit variableId := by
  intro found hfound
  rw [hvariable] at hfound
  cases hfound
  rw [unitOf, hmodule, Option.map_some]

/-- Binding the method of a variable through the unit of its module goes ahead. -/
theorem prebinds_bind (howns : registry.Owns unit variableId) :
    registry.Prebinds (registry.bind unit variableId) where
  same := by
    obtain ⟨journal, h⟩ := registry.bind_eq unit variableId
    exact ⟨_, journal, h⟩
  directory := by
    rw [directory_bind]
    exact Directory.prebinds_resolve howns

/-- Registries stay prebound when a method is bound in both through the unit that owns it. -/
theorem Prebinds.bind (hbound : plain.Prebinds bound) (howns : plain.Owns unit variableId) :
    (plain.bind unit variableId).Prebinds (bound.bind unit variableId) := by
  have hunits : (plain.bind unit variableId).unitOf = plain.unitOf :=
    unitOf_eq_of_modules_eq modules_bind
  refine ⟨?_, ?_⟩
  · obtain ⟨journal, hplain⟩ := plain.bind_eq unit variableId
    obtain ⟨later, hlater⟩ := bound.bind_eq unit variableId
    obtain ⟨_, _, hsame⟩ := hbound.same
    refine ⟨(bound.bind unit variableId).directory, later, ?_⟩
    rw [hplain, hlater]
    dsimp only
    generalize (bound.directory.resolve variableId unit.resolve).1 = resolved
    rw [hsame]
  · rw [hunits, directory_bind, directory_bind]
    exact hbound.directory.resolve howns

/-! ### Leaving and arriving -/

/-- Registries stay prebound when a module is unloaded in both. -/
theorem Prebinds.unload (hbound : plain.Prebinds bound) (hplain : plain.Sound) :
    (plain.unload id).Prebinds (bound.unload id) := by
  cases hget : plain.get? id with
  | none =>
    have hgone : bound.get? id = none := by rw [hbound.get?, hget]
    rw [unload_of_get?_eq_none hget, unload_of_get?_eq_none hgone]
    exact hbound
  | some module_ =>
    have hfound : bound.get? id = some module_ := by rw [hbound.get?, hget]
    refine ⟨?_, ?_⟩
    · obtain ⟨directory, journal, rfl⟩ := hbound.same
      refine ⟨directory.removeAll module_.owned, .tornDown module_.unit.tag :: journal, ?_⟩
      simp [Registry.unload, hget, hfound, tearDown, Registry.note]
    · rw [directory_unload hfound]
      have hremoved : (plain.directory.removeAll module_.owned).Prebinds plain.unitOf
          (bound.directory.removeAll module_.owned) := hbound.directory.removeAll _
      rw [← directory_unload hget] at hremoved
      refine hremoved.mono ?_
      intro variableId variable_ unit hvariable hunit
      obtain ⟨_, hne⟩ := hplain.get?_directory_unload_iff.mp hvariable
      rw [unitOf, get?_unload, if_neg hne.symm]
      exact hunit

/-- Registries stay prebound when the same modules are unloaded in both. -/
theorem Prebinds.unloadAll (ids : List ModuleId) (hbound : plain.Prebinds bound)
    (hplain : plain.Sound) : (plain.unloadAll ids).Prebinds (bound.unloadAll ids) := by
  induction ids generalizing plain bound with
  | nil => exact hbound
  | cons id ids ih => exact ih (hbound.unload hplain) hplain.unload

/-- The variables of a module are registered in prebound registries alike. -/
theorem Prebinds.installation (hbound : plain.Prebinds bound) (prepared : Prepared) :
    (plain.installation prepared).Prebinds plain.unitOf (bound.installation prepared) := by
  have hdirectory := hbound.directory
  obtain ⟨directory, journal, rfl⟩ := hbound.same
  exact Installation.Prebinds.registerAll prepared.offers ⟨hdirectory, rfl, rfl, rfl, rfl⟩

/-- The same is catalogued. -/
theorem catalogue_eq {units : ModuleId → Option ProviderUnit} {first second : Directory}
    (hbound : first.Prebinds units second) (origin : Origin) (catalog : Table String Origin)
    (ids : List VariableId) :
    catalogue second origin catalog ids = catalogue first origin catalog ids := by
  induction ids generalizing catalog with
  | nil => rfl
  | cons id ids ih =>
    have hstep (directory : Directory) : catalogue directory origin catalog (id :: ids) =
        catalogue directory origin (catalogue directory origin catalog [id]) ids := rfl
    have hone : catalogue second origin catalog [id] = catalogue first origin catalog [id] := by
      cases hget : first.get? id with
      | none => simp [catalogue, hget, hbound.get?_eq_none_iff.mpr hget]
      | some variable_ =>
        obtain ⟨found, hfound, hahead⟩ := hbound.ahead hget
        have hname : found.name = variable_.name := Variable.name_eq_of_profile_eq hahead.profile
        have hcron : found.isCron = variable_.isCron :=
          congrArg TypeTag.cron (Variable.type_eq_of_profile_eq hahead.profile)
        simp [catalogue, hget, hfound, hname, hcron]
    rw [hstep, hstep first, hone, ih]

/-- Registries stay prebound when a prepared module is turned down in both. -/
private theorem Prebinds.reject (hbound : plain.Prebinds bound) :
    (plain.reject prepared).Prebinds (bound.reject prepared) := by
  have hinstallation := hbound.installation prepared
  refine ⟨?_, ?_⟩
  · obtain ⟨directory, journal, hsame⟩ := hbound.same
    refine ⟨(bound.reject prepared).directory, (bound.reject prepared).journal, ?_⟩
    simp only [Registry.reject, hinstallation.layout]
    generalize bound.installation prepared = installation
    rw [hsame]
    rfl
  · have hdirectory : (bound.reject prepared).directory =
        (bound.installation prepared).directory.removeAll
          (plain.installation prepared).registered := by
      rw [← hinstallation.registered]
      rfl
    rw [hdirectory]
    exact hinstallation.directory.removeAll _

/-- Registries stay prebound when a prepared module is taken in by both. The new module has another
number than those that were resident, so the units that are known stay known. -/
private theorem Prebinds.accept (hbound : plain.Prebinds bound) (hplain : plain.Sound) :
    (plain.accept prepared).Prebinds (bound.accept prepared) := by
  have hinstallation := hbound.installation prepared
  refine ⟨?_, ?_⟩
  · have hcatalogue := catalogue_eq hinstallation.directory prepared.origin
    obtain ⟨directory, journal, hsame⟩ := hbound.same
    refine ⟨(bound.accept prepared).directory, journal, ?_⟩
    simp only [Registry.accept, resident, hinstallation.layout, hinstallation.registered,
      hinstallation.pinned, hcatalogue]
    generalize (bound.installation prepared).directory = later
    rw [hsame]
    rfl
  · refine hinstallation.directory.mono ?_
    intro variableId variable_ unit _ hunit
    obtain ⟨module_, hmodule, rfl⟩ := Option.map_eq_some_iff.mp hunit
    rw [unitOf, hplain.get?_accept_of_get? hmodule, Option.map_some]

/-- Registries stay prebound when a prepared module is installed in both. -/
theorem Prebinds.install (hbound : plain.Prebinds bound) (hplain : plain.Sound) :
    (plain.install prepared).1.Prebinds (bound.install prepared).1 := by
  have hloaded := hbound.isLoaded prepared.unit.name
  cases hcase : plain.isLoaded prepared.unit.name with
  | true =>
    rw [hcase] at hloaded
    rw [install_of_loaded hcase, install_of_loaded hloaded]
    exact hbound.note _
  | false =>
    rw [hcase] at hloaded
    have hshown := (hbound.installation prepared).shown
    by_cases hnone : (plain.installation prepared).shown = 0
    · rw [install_of_unused hcase hnone, install_of_unused hloaded (hshown.trans hnone)]
      exact hbound.reject
    · rw [install_of_shown hcase hnone, install_of_shown hloaded (by rwa [hshown])]
      exact hbound.accept hplain

end Registry

/-! ## States -/

/-- The second state is the first one, but some methods may have been asked for since. -/
def State.Prebinds (plain bound : State) : Prop :=
  ∃ registry, bound = { plain with registry := registry } ∧ plain.registry.Prebinds registry

namespace State

variable {plain middle bound state : State} {variableId : VariableId} {unit : ProviderUnit}
  {now : Nat} {subscription : Subscription}

/-- A state is prebound to itself. -/
theorem Prebinds.refl (state : State) : state.Prebinds state :=
  ⟨state.registry, rfl, .refl state.registry⟩

/-- To prebind twice is to prebind. -/
theorem Prebinds.trans (hfirst : plain.Prebinds middle) (hlast : middle.Prebinds bound) :
    plain.Prebinds bound := by
  obtain ⟨_, rfl, hfirst⟩ := hfirst
  obtain ⟨registry, rfl, hlast⟩ := hlast
  exact ⟨registry, rfl, hfirst.trans hlast⟩

/-- The registry of a prebound state is prebound. -/
theorem Prebinds.registry (hbound : plain.Prebinds bound) :
    plain.registry.Prebinds bound.registry := by
  obtain ⟨registry, rfl, hregistry⟩ := hbound
  exact hregistry

/-- The directory of a prebound state is prebound. -/
theorem Prebinds.directory (hbound : plain.Prebinds bound) :
    plain.directory.Prebinds plain.registry.unitOf bound.directory :=
  hbound.registry.directory

/-- Prebinding leaves the subscriptions as they are. -/
theorem Prebinds.subscriptions (hbound : plain.Prebinds bound) :
    bound.subscriptions = plain.subscriptions := by
  obtain ⟨_, rfl, _⟩ := hbound
  rfl

/-- Prebinding leaves the connections as they are. -/
theorem Prebinds.connections (hbound : plain.Prebinds bound) :
    bound.connections = plain.connections := by
  obtain ⟨_, rfl, _⟩ := hbound
  rfl

/-- To bind a method in a state is to bind it in its registry. -/
theorem bindMethod_eq (state : State) (unit : ProviderUnit) (variableId : VariableId) :
    (state.bindMethod unit variableId).1 =
      { state with registry := state.registry.bind unit variableId } := by
  rw [← registry_bindMethod]
  obtain ⟨journal, h⟩ := bindMethod_fst state unit variableId
  rw [h]

/-- A method that is bound through the unit that owns it is bound early. -/
theorem prebinds_bindMethod (howns : state.registry.Owns unit variableId) :
    state.Prebinds (state.bindMethod unit variableId).1 := by
  rw [bindMethod_eq]
  exact ⟨_, rfl, Registry.prebinds_bind howns⟩

/-- States stay prebound when a method is bound in both through the unit that owns it. -/
theorem Prebinds.bindMethod (hbound : plain.Prebinds bound)
    (howns : plain.registry.Owns unit variableId) :
    (plain.bindMethod unit variableId).1.Prebinds (bound.bindMethod unit variableId).1 := by
  obtain ⟨registry, rfl, hregistry⟩ := hbound
  rw [bindMethod_eq, bindMethod_eq]
  exact ⟨_, rfl, hregistry.bind howns⟩

/-- The method leads to the same, whenever it is bound. -/
theorem Prebinds.callable_bindMethod (hbound : plain.Prebinds bound)
    (howns : plain.registry.Owns unit variableId) :
    (bound.bindMethod unit variableId).2 = (plain.bindMethod unit variableId).2 :=
  hbound.directory.callable_resolve howns

/-- Who wants a variable evaluated does not depend on whether it is bound. -/
theorem Prebinds.isWanting (hbound : plain.Prebinds bound) :
    bound.isWanting now subscription = plain.isWanting now subscription := by
  have hdue : (bound.variableOf subscription).map
        (fun variable_ => variable_.isDue subscription.interest.arg now) =
      (plain.variableOf subscription).map
        fun variable_ => variable_.isDue subscription.interest.arg now := by
    refine hbound.directory.map_get? ?_ _
    intro first second hahead
    rw [Variable.isDue, Variable.isDue, Variable.sampleFor, Variable.sampleFor,
      Variable.timeoutNanos, Variable.timeoutNanos,
      Variable.timeout_eq_of_profile_eq hahead.profile, hahead.samples]
  have hany (found : Option Variable) (due : Variable → Bool) :
      found.any due = (found.map due).any fun wants => wants := by
    cases found <;> rfl
  rw [State.isWanting, State.isWanting, hany, hany (plain.variableOf subscription), hdue]

end State

end MetricsDaemon
