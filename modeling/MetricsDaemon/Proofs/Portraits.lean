import MetricsDaemon.Proofs.Loading

/-!
# Registries without their numbers

The portrait of a registry shows its modules, its variables and its catalogue, and leaves
out under which numbers they are kept. Registries with the same portrait are the same up
to these numbers. Whether a module can be made resident, and what the registry looks
like afterwards, is told by the portrait alone.
-/

namespace MetricsDaemon

/-- A variable without its number. -/
structure Variable.Portrait where
  name : String
  method : String
  type : TypeTag
  timeout : Nat
  /-- The name of its module. -/
  owner : Option String
  binding : Binding
  samples : Table String Sample

/-- A module without its number. -/
structure Module.Portrait where
  name : String
  origin : Origin
  provider : Provider
  clients : Nat
  pinned : Bool
  /-- The names of its variables. -/
  owned : List (Option String)

/-- A registry without numbers. -/
structure Registry.Portrait where
  modules : List Module.Portrait
  registered : List Variable.Portrait
  catalog : Table String Origin

/-- The portrait of a variable whose module has a given name. -/
def Variable.portrait (owner : Option String) (variable_ : Variable) : Variable.Portrait :=
  { name := variable_.name
    method := variable_.method
    type := variable_.type
    timeout := variable_.timeout
    owner := owner
    binding := variable_.binding
    samples := variable_.samples }

/-- The portrait of a module whose variables have given names. -/
def Module.portrait (owned : List (Option String)) (module_ : Module) : Module.Portrait :=
  { name := module_.name
    origin := module_.origin
    provider := module_.unit.provider
    clients := module_.clients
    pinned := module_.pinned
    owned := owned }

namespace Registry

/-- The name of the module with a number. -/
def nameOf? (registry : Registry) (id : ModuleId) : Option String :=
  (registry.get? id).map Module.name

/-- The name of the variable with a number. -/
def variableName? (registry : Registry) (id : VariableId) : Option String :=
  (registry.directory.get? id).map Variable.name

/-- The portrait of a registry, its modules and variables in the order of their arrival. -/
def portrait (registry : Registry) : Portrait :=
  { modules := registry.modules.values.map fun module_ =>
      module_.portrait (module_.owned.map registry.variableName?)
    registered := registry.directory.entries.values.map fun variable_ =>
      variable_.portrait (registry.nameOf? variable_.module_)
    catalog := registry.catalog }

/-! ## What a portrait shows -/

variable {registry : Registry} {prepared : Prepared} {name : String}

/-- The portrait of a registry has those of its modules, with the names of their variables. -/
theorem modules_portrait (registry : Registry) :
    registry.portrait.modules = registry.modules.values.map fun module_ =>
      module_.portrait (module_.owned.map registry.variableName?) := rfl

/-- The portrait of a registry has those of its variables, with the names of their modules. -/
theorem registered_portrait (registry : Registry) :
    registry.portrait.registered = registry.directory.entries.values.map fun variable_ =>
      variable_.portrait (registry.nameOf? variable_.module_) := rfl

/-- The variables of a portrait have the names that are registered. -/
theorem names_portrait (registry : Registry) :
    registry.portrait.registered.map Variable.Portrait.name = registry.directory.names := by
  rw [registered_portrait, List.map_map]
  rfl

/-- A module is loaded exactly when one of the portrait has its name, in any case. -/
theorem Sound.isLoaded_iff (hsound : registry.Sound) : registry.isLoaded name = true ↔
    ∃ module_ ∈ registry.portrait.modules,
      Text.lowercase module_.name = Text.lowercase name := by
  rw [isLoaded, idOf?, Option.isSome_iff_exists]
  simp only [hsound.named, portrait, List.mem_map, hsound.counted.unique.mem_values_iff]
  constructor
  · rintro ⟨id, module_, hget, hname⟩
    exact ⟨_, ⟨module_, ⟨id, hget⟩, rfl⟩, hname⟩
  · rintro ⟨_, ⟨module_, ⟨id, hget⟩, rfl⟩, hname⟩
    exact ⟨id, module_, hget, hname⟩

/-! ## Making a module resident -/

/-- The portrait of a variable that was just registered. -/
def Portrait.fresh (settings : Settings) (owner : String) (offer : Offer) : Variable.Portrait :=
  { name := offer.name
    method := offer.method
    type := offer.type
    timeout := settings.timeoutFor offer
    owner := some owner
    binding := .unresolved
    samples := .empty }

/-- The variables that offers add to a portrait. -/
def Portrait.additions (before : Portrait) (settings : Settings) (owner : String)
    (offers : List Offer) : List Variable.Portrait :=
  (Offer.unheld (before.registered.map Variable.Portrait.name) offers).map
    (Portrait.fresh settings owner)

/-- Catalogue the shown ones among some variables. -/
def Portrait.catalogue (origin : Origin) (catalog : Table String Origin)
    (added : List Variable.Portrait) : Table String Origin :=
  added.foldl (fun catalog variable_ =>
    if variable_.type.cron then catalog else catalog.put variable_.name origin) catalog

/-- The portrait with one more module. -/
def Portrait.join (before : Portrait) (settings : Settings) (provider : Provider)
    (origin : Origin) (offers : List Offer) : Portrait :=
  let added := before.additions settings provider.name offers
  let pinned := added.any fun variable_ => variable_.type.cron
  { modules := before.modules ++
      [⟨provider.name, origin, provider, pinned.toNat, pinned,
        added.map fun variable_ => some variable_.name⟩]
    registered := before.registered ++ added
    catalog := Portrait.catalogue origin before.catalog added }

/-- Whether some of the variables are shown. -/
def Portrait.shows (added : List Variable.Portrait) : Bool :=
  added.any fun variable_ => !variable_.type.cron

/-- What an installation adds is told by the portrait. -/
theorem Sound.portrait_additions (hsound : registry.Sound) (prepared : Prepared) :
    (registry.additions prepared).map (Variable.portrait (some prepared.unit.name)) =
      registry.portrait.additions registry.settings prepared.unit.name prepared.offers := by
  rw [Portrait.additions, names_portrait]
  exact hsound.directory.additions_eq _ _ fun _ _ => rfl

/-- An installation shows something exactly when some variable that is added to the portrait is
shown. -/
theorem Sound.shown_iff (hsound : registry.Sound) (prepared : Prepared) :
    (registry.installation prepared).shown ≠ 0 ↔
      Portrait.shows (registry.portrait.additions registry.settings prepared.unit.name
        prepared.offers) = true := by
  rw [shown_installation_iff, ← hsound.portrait_additions, Portrait.shows, List.any_map]
  rfl

/-- The variables that a module brings have their names in the registry that accepted it. -/
theorem Sound.variableName?_additions (hsound : registry.Sound) (prepared : Prepared) :
    ((registry.additions prepared).map Variable.id).map
        (registry.accept prepared).variableName? =
      (registry.additions prepared).map fun variable_ => some variable_.name := by
  rw [List.map_map]
  refine List.map_congr_left fun variable_ hmem => ?_
  have hget : (registry.accept prepared).directory.get? variable_.id = some variable_ :=
    hsound.get?_of_mem_additions hmem
  rw [Function.comp_apply, variableName?, hget]
  rfl

/-- The modules that were resident look as before. -/
theorem Sound.modules_portrait_accept (hsound : registry.Sound) (prepared : Prepared) :
    (registry.accept prepared).portrait.modules = registry.portrait.modules ++
      [(registry.resident prepared).portrait
        ((registry.additions prepared).map fun variable_ => some variable_.name)] := by
  have hvalues : (registry.accept prepared).modules.values =
      registry.modules.values ++ [registry.resident prepared] :=
    Table.values_put_of_get?_eq_none hsound.get?_nextId
  have howned : (registry.resident prepared).owned =
      (registry.additions prepared).map Variable.id := registered_installation registry prepared
  rw [modules_portrait, hvalues, List.map_append, List.map_singleton, howned,
    hsound.variableName?_additions, modules_portrait]
  congr 1
  refine List.map_congr_left fun module_ hmem => ?_
  have hget : registry.get? module_.id = some module_ := hsound.mem_values_iff.mp hmem
  have hnames : module_.owned.map (registry.accept prepared).variableName? =
      module_.owned.map registry.variableName? := by
    refine List.map_congr_left fun variableId howns => ?_
    obtain ⟨variable_, hvariable, _⟩ := hsound.owned hget howns
    have hkept : (registry.accept prepared).directory.get? variableId = some variable_ :=
      (hsound.extends_installation prepared).old hvariable
    rw [variableName?, variableName?, hvariable, hkept]
  rw [hnames]

/-- The variables that were registered look as before. -/
theorem Sound.registered_portrait_accept (hsound : registry.Sound) (prepared : Prepared) :
    (registry.accept prepared).portrait.registered = registry.portrait.registered ++
      (registry.additions prepared).map (Variable.portrait (some prepared.unit.name)) := by
  have hvalues : (registry.accept prepared).directory.entries.values =
      registry.directory.entries.values ++ registry.additions prepared :=
    hsound.values_installation prepared
  rw [registered_portrait, hvalues, List.map_append, registered_portrait]
  congr 1
  · refine List.map_congr_left fun variable_ hmem => ?_
    obtain ⟨variableId, hget⟩ := hsound.directory.counted.unique.mem_values_iff.mp hmem
    obtain ⟨module_, hmodule, _⟩ := hsound.owner hget
    rw [nameOf?, nameOf?, hmodule, hsound.get?_accept_of_get? hmodule]
  · refine List.map_congr_left fun variable_ hmem => ?_
    obtain ⟨offer, _, heq⟩ := Directory.exists_of_mem_additions hmem
    have hmodule : variable_.module_ = registry.nextId := by rw [heq]; rfl
    rw [nameOf?, hmodule, get?_accept, if_pos rfl]
    rfl

/-- Cataloguing found variables by their numbers is cataloguing the variables. -/
theorem catalogue_of_found {directory : Directory} {origin : Origin} {catalog : Table String Origin}
    {added : List Variable} {owner : Option String}
    (hfound : ∀ variable_ ∈ added, directory.get? variable_.id = some variable_) :
    catalogue directory origin catalog (added.map Variable.id) =
      Portrait.catalogue origin catalog (added.map (Variable.portrait owner)) := by
  induction added generalizing catalog with
  | nil => rfl
  | cons variable_ rest ih =>
    have hget := hfound variable_ List.mem_cons_self
    have hrest := fun catalog => @ih catalog fun other hmem =>
      hfound other (List.mem_cons_of_mem _ hmem)
    have hstep : catalogue directory origin catalog ((variable_ :: rest).map Variable.id) =
        catalogue directory origin
          (if variable_.isCron then catalog else catalog.put variable_.name origin)
          (rest.map Variable.id) := by
      rw [catalogue, List.map_cons, List.foldl_cons, hget]
      rfl
    rw [hstep, hrest]
    rfl

/-- A module that becomes resident is joined to the portrait. -/
theorem Sound.portrait_accept (hsound : registry.Sound) (prepared : Prepared) :
    (registry.accept prepared).portrait = registry.portrait.join registry.settings
      prepared.unit.provider prepared.origin prepared.offers := by
  have hadded := hsound.portrait_additions prepared
  have hmodules := hsound.modules_portrait_accept prepared
  have hvariables := hsound.registered_portrait_accept prepared
  have hcatalog : (registry.accept prepared).portrait.catalog =
      Portrait.catalogue prepared.origin registry.catalog
        ((registry.additions prepared).map (Variable.portrait (some prepared.unit.name))) := by
    have hdefined : (registry.accept prepared).portrait.catalog =
        catalogue (registry.installation prepared).directory prepared.origin registry.catalog
          (registry.installation prepared).registered := rfl
    rw [hdefined, registered_installation]
    exact catalogue_of_found fun variable_ hmem => hsound.get?_of_mem_additions hmem
  have hpinned : (registry.installation prepared).pinned =
      (registry.portrait.additions registry.settings prepared.unit.name prepared.offers).any
        fun variable_ => variable_.type.cron := by
    rw [pinned_installation, ← hadded, List.any_map]
    rfl
  have hnames : ((registry.additions prepared).map fun variable_ => some variable_.name) =
      (registry.portrait.additions registry.settings prepared.unit.name prepared.offers).map
        fun variable_ => some variable_.name := by
    rw [← hadded, List.map_map]
    rfl
  have hportrait (whole : Portrait) :
      whole = ⟨whole.modules, whole.registered, whole.catalog⟩ := rfl
  rw [hportrait (registry.accept prepared).portrait, hmodules, hvariables, hcatalog, hadded, hnames]
  unfold resident Module.portrait
  simp only [hpinned]
  rfl

end Registry

end MetricsDaemon
