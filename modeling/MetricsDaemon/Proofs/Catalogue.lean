import MetricsDaemon.Proofs.Consistency
import MetricsDaemon.Proofs.Lineage
import MetricsDaemon.Proofs.Loading

/-!
# The catalogue leads back

A variable that is shown is catalogued under the origin of the module that owns it, and a
name stays in the catalogue for good. Modules come and go, and a name may pass from one to
another; but whenever the module of a name is gone, loading the origin in the catalogue
brings the variable back as it was.
-/

namespace MetricsDaemon

open Relation (ReflTransGen)

/-! ## Bringing a name back -/

namespace Directory

variable {settings : Settings} {module_ : ModuleId} {directory : Directory} {offer : Offer}
  {offers : List Offer} {name : String}

/-- The first offer of a free name is added as it is. -/
theorem exists_fresh_mem_additions (hfree : directory.idOf? name = none)
    (hfind : offers.find? (Offer.isOf name) = some offer) :
    ∃ id, fresh id offer (settings.timeoutFor offer) module_ ∈
      additions settings module_ directory offers := by
  induction offers generalizing directory with
  | nil => cases hfind
  | cons other rest ih =>
    rw [List.find?_cons] at hfind
    cases hother : Offer.isOf name other with
    | true =>
      rw [hother] at hfind
      cases hfind
      have hname : offer.name = name := by simpa [Offer.isOf] using hother
      rw [← hname] at hfree
      rw [additions_of_free hfree]
      exact ⟨directory.nextId, List.mem_cons_self⟩
    | false =>
      rw [hother] at hfind
      have hne : other.name ≠ name := by simpa [Offer.isOf] using hother
      cases htaken : directory.idOf? other.name with
      | some taken =>
        rw [additions_of_taken htaken]
        exact ih hfree hfind
      | none =>
        rw [additions_of_free htaken]
        have hstill : (directory.extend other (settings.timeoutFor other) module_).idOf? name =
            none := by rw [idOf?_extend, if_neg hne, hfree]
        obtain ⟨id, hmem⟩ := ih hstill hfind
        exact ⟨id, List.mem_cons_of_mem _ hmem⟩

end Directory

namespace Registry

variable {registry before after : Registry} {prepared : Prepared} {name : String} {offer : Offer}
  {directory : Directory} {origin : Origin} {catalog : Table String Origin}
  {ids : List VariableId} {id : VariableId} {variable_ : Variable} {unloads : Bool}

/-- A module whose name is free and that offers a free name to be shown becomes resident with a
new variable of that name, which is just as it was offered. -/
theorem Sound.accept_of_offer (hsound : registry.Sound)
    (hloaded : registry.isLoaded prepared.unit.name = false)
    (hfree : registry.directory.idOf? name = none)
    (hfind : prepared.offers.find? (Offer.isOf name) = some offer)
    (hshown : offer.type.cron = false) :
    registry.install prepared = (registry.accept prepared, .ok registry.nextId) ∧
      ∃ id : VariableId, registry.directory.lastId < id.number ∧
        (registry.accept prepared).directory.get? id =
          some (Directory.fresh id offer (registry.settings.timeoutFor offer)
            registry.nextId) := by
  obtain ⟨hinstall, _⟩ := hsound.install_of_offer hloaded hfree hfind hshown
  obtain ⟨id, hmem⟩ : ∃ id, Directory.fresh id offer (registry.settings.timeoutFor offer)
      registry.nextId ∈ registry.additions prepared :=
    Directory.exists_fresh_mem_additions hfree hfind
  have hregistered : id ∈ (registry.installation prepared).registered := by
    rw [registered_installation]
    exact List.mem_map_of_mem hmem
  exact ⟨hinstall, id, ((hsound.extends_installation prepared).registered hregistered).1,
    hsound.get?_of_mem_additions hmem⟩

/-! ## What an installation catalogues -/

/-- Cataloguing the ids of a list starts with the first: its variable's name is put down under the
origin, unless it is a CRON variable. -/
theorem catalogue_cons : catalogue directory origin catalog (id :: ids) =
    catalogue directory origin
      (match directory.get? id with
        | some variable_ => if variable_.isCron then catalog else catalog.put variable_.name origin
        | none => catalog) ids := rfl

/-- What is catalogued under the origin remains so while more is catalogued. -/
theorem get?_catalogue_of_get? (hcatalog : catalog.get? name = some origin) :
    (catalogue directory origin catalog ids).get? name = some origin := by
  induction ids generalizing catalog with
  | nil => exact hcatalog
  | cons id rest ih =>
    rw [catalogue_cons]
    refine ih ?_
    split
    · split
      · exact hcatalog
      · rw [Table.get?_put]
        split
        · rfl
        · exact hcatalog
    · exact hcatalog

/-- A variable that is shown gets catalogued. -/
theorem get?_catalogue_of_mem (hmem : id ∈ ids) (hget : directory.get? id = some variable_)
    (hshown : variable_.isCron = false) :
    (catalogue directory origin catalog ids).get? variable_.name = some origin := by
  induction ids generalizing catalog with
  | nil => cases hmem
  | cons other rest ih =>
    rw [catalogue_cons]
    rcases List.mem_cons.mp hmem with rfl | hmem
    · rw [hget]
      refine get?_catalogue_of_get? ?_
      simp [hshown]
    · exact ih hmem

/-- A name that none of the variables bears stays catalogued as it was. -/
theorem get?_catalogue_of_ne (hnone : ∀ id ∈ ids, ∀ variable_,
      directory.get? id = some variable_ → variable_.name ≠ name) :
    (catalogue directory origin catalog ids).get? name = catalog.get? name := by
  induction ids generalizing catalog with
  | nil => rfl
  | cons other rest ih =>
    rw [catalogue_cons, ih fun id hmem => hnone id (List.mem_cons_of_mem _ hmem)]
    split
    · next variable_ hget =>
      split
      · rfl
      · rw [Table.get?_put, if_neg (hnone other List.mem_cons_self variable_ hget)]
    · rfl

/-- A name that is catalogued is still catalogued after more ids. -/
theorem isSome_get?_catalogue (hcatalog : (catalog.get? name).isSome) :
    ((catalogue directory origin catalog ids).get? name).isSome := by
  induction ids generalizing catalog with
  | nil => exact hcatalog
  | cons id rest ih =>
    rw [catalogue_cons]
    refine ih ?_
    split
    · split
      · exact hcatalog
      · rw [Table.get?_put]
        split
        · rfl
        · exact hcatalog
    · exact hcatalog

/-- What is catalogued stays catalogued. -/
theorem isSome_originOf_install (hcatalog : (registry.originOf name).isSome) :
    ((registry.install prepared).1.originOf name).isSome := by
  rcases registry.install_cases prepared with h | h | ⟨_, h⟩ <;> rw [h]
  · exact hcatalog
  · exact hcatalog
  · exact isSome_get?_catalogue hcatalog

/-- Installing a module does not change the settings. -/
theorem settings_install : (registry.install prepared).1.settings = registry.settings := by
  rcases registry.install_cases prepared with h | h | ⟨_, h⟩ <;> rw [h] <;> rfl

/-- No act on the registry changes the settings. -/
theorem Act.settings (hact : Act unloads before after) : after.settings = before.settings := by
  cases hact with
  | provided | counted | sampled => rfl
  | @bound id variable_ module_ hvariable hmodule =>
    obtain ⟨journal, h⟩ := before.bind_eq module_.unit id
    rw [h]
  | unloaded =>
    unfold unload
    split <;> rfl

/-! ## Whose a variable is -/

/-- The variable belongs to the module: the module offers it, and the name is catalogued under the
module's origin. -/
structure Files (registry : Registry) (variable_ : Variable) (module_ : Module) : Prop where
  origin : registry.originOf variable_.name = some module_.origin
  offered : ∃ offer, module_.unit.provider.offerOf? variable_.name = some offer ∧
    variable_.method = offer.method ∧ variable_.type = offer.type ∧
    variable_.timeout = registry.settings.timeoutFor offer

/-- Every variable that is shown is filed under its own module. -/
def Filed (registry : Registry) : Prop :=
  ∀ id variable_, registry.directory.get? id = some variable_ → variable_.isCron = false →
    ∃ module_, registry.get? variable_.module_ = some module_ ∧ registry.Files variable_ module_

/-- Whether every variable is filed depends on the modules, the catalogue, the settings and the
variables only. -/
theorem Filed.of_tables_eq (hfiled : before.Filed) (hmodules : after.modules = before.modules)
    (hcatalog : after.catalog = before.catalog) (hsettings : after.settings = before.settings)
    (hdirectory : ∀ id, after.directory.get? id = before.directory.get? id) : after.Filed := by
  intro id variable_ hget hshown
  rw [hdirectory] at hget
  obtain ⟨module_, hmodule, hfiles⟩ := hfiled id variable_ hget hshown
  refine ⟨module_, ?_, ?_, ?_⟩
  · rw [Registry.get?, hmodules]
    exact hmodule
  · rw [originOf, hcatalog]
    exact hfiles.origin
  · rw [hsettings]
    exact hfiles.offered

/-- An act leaves every variable filed. -/
theorem Filed.act (hfiled : before.Filed) (hsound : before.Sound)
    (hact : Act unloads before after) : after.Filed := by
  intro id found hget hcron
  obtain ⟨variable_, hvariable, hprofile⟩ := hact.registered (fun _ => hsound) hget
  have hname : found.name = variable_.name := Variable.name_eq_of_profile_eq hprofile
  have htype : found.type = variable_.type := Variable.type_eq_of_profile_eq hprofile
  have hshown : variable_.isCron = false := (congrArg TypeTag.cron htype).symm.trans hcron
  obtain ⟨module_, hmodule, hfiles⟩ := hfiled id variable_ hvariable hshown
  obtain ⟨owner, howner, _⟩ := (hsound.act hact).owner hget
  obtain ⟨resident, hresident, hsame⟩ := hact.resident howner
  rw [Variable.module_eq_of_profile_eq hprofile, hmodule] at hresident
  cases hresident
  refine ⟨owner, howner, ?_, ?_⟩
  · rw [originOf, hact.layout_catalog.2, hname, hsame]
    exact hfiles.origin
  · obtain ⟨offer, hoffer, hmethod, hofferType, htimeout⟩ := hfiles.offered
    refine ⟨offer, ?_, ?_, htype.trans hofferType, ?_⟩
    · rw [hname, hsame]
      exact hoffer
    · exact (Variable.method_eq_of_profile_eq hprofile).trans hmethod
    · rw [Variable.timeout_eq_of_profile_eq hprofile, hact.settings]
      exact htimeout

/-- A variable of a module that has just become resident is filed under it. -/
private theorem Sound.files_accept (hsound : registry.Sound)
    (hmakes : prepared.unit.provider.Makes prepared.offers)
    (hmem : variable_ ∈ registry.additions prepared) (hshown : variable_.isCron = false) :
    (registry.accept prepared).Files variable_ (registry.resident prepared) where
  origin := by
    have hregistered : variable_.id ∈ (registry.installation prepared).registered := by
      rw [registered_installation]
      exact List.mem_map_of_mem hmem
    exact get?_catalogue_of_mem hregistered (hsound.get?_of_mem_additions hmem) hshown
  offered := by
    obtain ⟨offer, hoffer, heq⟩ := Directory.exists_of_mem_additions hmem
    have hcron : offer.type.cron = false := by
      rw [heq] at hshown
      exact hshown
    have hfirst := (hmakes offer hoffer).2 hcron
    refine ⟨offer, ?_, ?_, ?_, ?_⟩ <;> rw [heq]
    · exact hfirst
    all_goals rfl

/-- A variable that was there keeps its place in the catalogue, for no new one bears its name. -/
private theorem Sound.originOf_accept (hsound : registry.Sound)
    (hget : registry.directory.get? id = some variable_) :
    (registry.accept prepared).originOf variable_.name = registry.originOf variable_.name := by
  have hextends := hsound.extends_installation prepared
  refine get?_catalogue_of_ne fun other hmem found hfound heq => ?_
  have hold := hextends.directory.idOf?_name (hextends.old hget)
  have hnew := hextends.directory.idOf?_name hfound
  rw [heq, hold] at hnew
  obtain ⟨hlt, _⟩ := hextends.registered hmem
  have hle := hsound.directory.le_lastId hget
  rw [Option.some.inj hnew] at hle
  omega

/-- Installing a module leaves every variable filed, the new ones among them. -/
theorem Filed.install (hfiled : registry.Filed) (hsound : registry.Sound)
    (hmakes : prepared.unit.provider.Makes prepared.offers) :
    (registry.install prepared).1.Filed := by
  rcases registry.install_cases prepared with h | h | ⟨_, h⟩
  · rw [h]
    exact hfiled.of_tables_eq rfl rfl rfl fun _ => rfl
  · rw [h]
    exact hfiled.of_tables_eq rfl rfl rfl fun _ => hsound.get?_directory_reject
  · rw [h]
    intro id variable_ hget hshown
    have hvalue : variable_ ∈ registry.directory.entries.values ++ registry.additions prepared := by
      rw [← hsound.values_installation prepared]
      exact Table.mem_values_of_get? hget
    rcases List.mem_append.mp hvalue with hold | hnew
    · obtain ⟨other, hother⟩ := hsound.directory.counted.unique.mem_values_iff.mp hold
      obtain ⟨module_, hmodule, hfiles⟩ := hfiled other variable_ hother hshown
      refine ⟨module_, hsound.get?_accept_of_get? hmodule, ?_, hfiles.offered⟩
      rw [hsound.originOf_accept hother]
      exact hfiles.origin
    · refine ⟨registry.resident prepared, ?_, hsound.files_accept hmakes hnew hshown⟩
      obtain ⟨offer, _, heq⟩ := Directory.exists_of_mem_additions hnew
      rw [heq, get?_accept]
      exact if_pos rfl

end Registry

/-! ## Every deed -/

namespace Stock

open Registry (Filed)

variable {alone unloads : Bool} {before after : Stock} {name : String}

/-- Every variable is filed, and so it will be with what is prepared. -/
structure Filing (stock : Stock) : Prop where
  filed : stock.registry.Filed
  makes : ∀ prepared, .prepared prepared ∈ stock.holdings →
    prepared.unit.provider.Makes prepared.offers

/-- A deed leaves every variable filed, and what it prepares makes what it offers. -/
theorem Filing.deed (hfiling : before.Filing) (hsound : before.registry.Sound)
    (hdeed : Deed alone unloads before after) : after.Filing := by
  refine ⟨?_, hdeed.makes hfiling.makes⟩
  have hfiled := hfiling.filed
  cases hdeed with
  | acted hact => exact hfiled.act hsound hact
  | installed prepared =>
    exact hfiled.install hsound (hfiling.makes prepared List.mem_cons_self)
  | _ => exact hfiled.of_tables_eq rfl rfl rfl fun _ => rfl

/-- No deed changes the settings. -/
theorem Deed.settings (hdeed : Deed alone unloads before after) :
    after.registry.settings = before.registry.settings := by
  cases hdeed with
  | acted hact => exact hact.settings
  | installed prepared => exact Registry.settings_install
  | _ => rfl

/-- No deed takes a name out of the catalogue. -/
theorem Deed.isSome_originOf (hdeed : Deed alone unloads before after)
    (hcatalog : (before.registry.originOf name).isSome) :
    (after.registry.originOf name).isSome := by
  cases hdeed with
  | acted hact =>
    rw [Registry.originOf, hact.layout_catalog.2]
    exact hcatalog
  | installed prepared => exact Registry.isSome_originOf_install hcatalog
  | _ => exact hcatalog

/-- No sequence of deeds changes the settings. -/
theorem Deeds.settings (hdeeds : Deeds alone unloads before after) :
    after.registry.settings = before.registry.settings := by
  induction hdeeds with
  | refl => rfl
  | tail _ hdeed ih => exact hdeed.settings.trans ih

/-- No sequence of deeds takes a name out of the catalogue. -/
theorem Deeds.isSome_originOf (hdeeds : Deeds alone unloads before after)
    (hcatalog : (before.registry.originOf name).isSome) :
    (after.registry.originOf name).isSome := by
  induction hdeeds with
  | refl => exact hcatalog
  | tail _ hdeed ih => exact hdeed.isSome_originOf ih

end Stock

/-! ## Wherever the whole can come -/

namespace World

/-- Loading the origin succeeds, and brings the variable back under a number that was never given
out before, with nothing but its description. -/
def Regains (world : World) (origin : Origin) (variable_ : Variable) : Prop :=
  ∃ (moduleId : ModuleId) (id : VariableId) (module_ : Module),
    (world.load origin).2 = .ok moduleId ∧
    (world.load origin).1.registry.get? moduleId = some module_ ∧ module_.origin = origin ∧
    world.registry.lastId < moduleId.number ∧ world.registry.directory.lastId < id.number ∧
    (world.load origin).1.registry.directory.idOf? variable_.name = some id ∧
    (world.load origin).1.registry.directory.get? id = some
      { variable_ with id := id, module_ := moduleId, binding := .unresolved, samples := .empty }

/-- The module's unit opens and starts with the same name and the same offers. -/
def Reopens (world : World) (module_ : Module) : Prop :=
  ∃ after unit, world.openOrigin module_.origin = (after, .ok unit) ∧ unit.name = module_.name ∧
    unit.provider.enrollment.offers = module_.unit.provider.enrollment.offers ∧
    unit.provider.starts = true

variable {world middle : World} {origin : Origin} {provider : Provider} {variable_ : Variable}
  {offer : Offer}

/-- Loading brings back a variable whose description is the provider's offer. -/
theorem regains_of_offer (hsound : world.registry.Sound)
    (hcandidate : world.candidate? origin = some provider)
    (hfree : world.registry.directory.idOf? variable_.name = none)
    (hmentions : world.registry.layout.mentions variable_.name = true)
    (hoffer : provider.offerOf? variable_.name = some offer)
    (hmethod : variable_.method = offer.method) (htype : variable_.type = offer.type)
    (htimeout : variable_.timeout = world.registry.settings.timeoutFor offer)
    (hshown : variable_.isCron = false) : world.Regains origin variable_ := by
  obtain ⟨middle, hjotted, _, ⟨hnone, _⟩ | ⟨found, hfound, hload⟩⟩ := world.load_cases origin
  · rw [hcandidate] at hnone
    cases hnone
  rw [hcandidate] at hfound
  cases hfound
  obtain ⟨journal, hmiddle⟩ := registry_of_jotted hjotted
  have hsame : middle.registry.Sound := by
    rw [hmiddle]
    exact hsound.of_tables_eq rfl rfl rfl rfl
  have hloaded : middle.registry.isLoaded provider.name = false := by
    have hfilter := (Option.filter_eq_some_iff.mp hcandidate).2
    have hfreeName : world.registry.isLoaded provider.name = false := by
      simpa using (Bool.and_eq_true_iff.mp hfilter).1
    rw [hmiddle]
    exact hfreeName
  have hfreeMiddle : middle.registry.directory.idOf? variable_.name = none := by
    rw [hmiddle]
    exact hfree
  have hfind : (world.readied origin provider).offers.find? (Offer.isOf variable_.name) =
      some offer := by
    rw [← hoffer]
    exact Layout.find?_staged hmentions
  have hcron : offer.type.cron = false := by
    rw [← htype]
    exact hshown
  have haccepts : middle.registry.isLoaded (world.readied origin provider).unit.name = false :=
    hloaded
  obtain ⟨hinstall, id, hlast, hget⟩ := hsame.accept_of_offer haccepts hfreeMiddle hfind hcron
  have haccept : (middle.registry.accept (world.readied origin provider)).Sound :=
    hsame.accept hloaded
  have hregistry : (world.load origin).1.registry =
      middle.registry.accept (world.readied origin provider) := by
    rw [hload]
    exact congrArg Prod.fst hinstall
  have hname : offer.name = variable_.name := by
    simpa [Offer.isOf] using List.find?_some hoffer
  have hagain : Directory.fresh id offer (middle.registry.settings.timeoutFor offer)
      middle.registry.nextId = { variable_ with
        id := id, module_ := middle.registry.nextId, binding := .unresolved,
        samples := .empty } := by
    rw [Directory.fresh, hname, ← hmethod, ← htype, hmiddle]
    simp only [Variable.mk.injEq, true_and, and_true]
    exact htimeout.symm
  refine ⟨middle.registry.nextId, id, middle.registry.resident (world.readied origin provider),
    ?_, ?_, rfl, ?_, ?_, ?_, ?_⟩
  · rw [hload, World.install, hinstall]
    rfl
  · rw [hregistry, Registry.get?_accept]
    exact if_pos rfl
  · rw [hmiddle]
    exact Nat.lt_succ_self _
  · rw [hmiddle] at hlast
    exact hlast
  · rw [hregistry, ← hname]
    exact haccept.directory.idOf?_name hget
  · rw [hregistry, hget, hagain]

end World

namespace Whole

variable {rules : Permit} {whole after : Whole} {name : String}

/-- Every variable is filed wherever the daemon can come. -/
theorem Reachable.filing (hreach : Reachable rules whole) : whole.stock.Filing := by
  refine hreach.kept Stock.Filing (fun layout settings last => ?_)
    (fun _ _ _ _ _ _ hkept =>
      ⟨hkept.filed.of_tables_eq rfl rfl rfl fun _ => rfl, hkept.makes⟩)
    fun unloads before after hbalanced hkept hdeed => hkept.deed hbalanced.registry hdeed
  refine ⟨fun id variable_ hget => ?_, fun prepared hmem => ?_⟩
  · cases hget
  · cases hmem

/-- Whatever happens later, the settings and what the layout mentions stay what they are, and what
is catalogued stays catalogued. -/
structure Settled (whole after : Whole) : Prop where
  settings : after.world.registry.settings = whole.world.registry.settings
  mentions : ∀ name, after.world.registry.layout.mentions name =
    whole.world.registry.layout.mentions name
  catalogued : ∀ name, (whole.world.registry.originOf name).isSome →
    (after.world.registry.originOf name).isSome

/-- Between any two moments of the daemon the settings and the layout stay, and the catalogue only
grows. -/
theorem Reachable.settled (hreach : Reachable rules whole) (hsteps : Steps rules whole after) :
    whole.Settled after := by
  induction hsteps with
  | refl => exact ⟨rfl, fun _ => rfl, fun _ h => h⟩
  | @tail middle after hsteps hstep ih =>
    have hlast : middle.Settled after := by
      rcases (hreach.steps hsteps).deeds hstep with ⟨flight, job, _, _, rfl⟩ | ⟨_, _, hdeeds⟩
      · exact ⟨rfl, fun _ => rfl, fun _ h => h⟩
      · exact ⟨Stock.Deeds.settings hdeeds, Stock.Deeds.mentions hdeeds,
          fun _ h => Stock.Deeds.isSome_originOf hdeeds h⟩
    exact ⟨hlast.settings.trans ih.settings,
      fun name => (hlast.mentions name).trans (ih.mentions name),
      fun name h => hlast.catalogued name (ih.catalogued name h)⟩

/-- What the catalogue is good for. -/
structure LeadsBack (rules : Permit) (whole : Whole) : Prop where
  /-- Every variable that is shown is catalogued under the origin of its own module. -/
  owners : ∀ id variable_, whole.world.registry.directory.get? id = some variable_ →
    variable_.isCron = false → ∃ module_,
      whole.world.registry.get? variable_.module_ = some module_ ∧
        whole.world.registry.originOf variable_.name = some module_.origin
  /-- No name ever leaves the catalogue. -/
  lasting : ∀ name, (whole.world.registry.originOf name).isSome → ∀ after,
    Steps rules whole after → (after.world.registry.originOf name).isSome
  /-- Whatever happened since: if the name is not registered, is still catalogued under the origin
  and no module of the module's name is resident, a wish for the name leads to the origin, and
  loading that brings the variable back. -/
  returns : ∀ id variable_ module_, whole.world.registry.directory.get? id = some variable_ →
    variable_.isCron = false → whole.world.registry.get? variable_.module_ = some module_ →
    ∀ after, Steps rules whole after →
      after.world.registry.directory.idOf? variable_.name = none →
      after.world.registry.originOf variable_.name = some module_.origin →
      after.world.registry.isLoaded module_.name = false → after.world.Reopens module_ →
      after.world.state.missingOrigin variable_.name = some module_.origin ∧
        after.world.Regains module_.origin variable_

/-- Wherever the daemon can come, the catalogue leads back. -/
theorem Reachable.catalogue_leads_back (hreach : Reachable rules whole) :
    whole.LeadsBack rules where
  owners := by
    intro id variable_ hget hshown
    obtain ⟨module_, hmodule, hfiles⟩ := hreach.filing.filed id variable_ hget hshown
    exact ⟨module_, hmodule, hfiles.origin⟩
  lasting name hcatalog after hsteps := (hreach.settled hsteps).catalogued name hcatalog
  returns := by
    intro id variable_ module_ hget hshown hmodule after hsteps hfree horigin hloaded hreopens
    have hsettled := hreach.settled hsteps
    obtain ⟨owner, howner, hfiles⟩ := hreach.filing.filed id variable_ hget hshown
    have hsame : owner = module_ := Option.some.inj (howner.symm.trans hmodule)
    subst hsame
    obtain ⟨offer, hoffer, hmethod, htype, htimeout⟩ := hfiles.offered
    obtain ⟨middle, unit, hopen, hname, hoffers, hstarts⟩ := hreopens
    refine ⟨?_, ?_⟩
    · have hunregistered : after.world.state.isRegistered variable_.name = false := by
        rw [State.isRegistered]
        exact Option.isSome_eq_false_iff.mpr (Option.isNone_iff_eq_none.mpr hfree)
      rw [State.missingOrigin, hunregistered]
      exact horigin
    · have hcandidate : after.world.candidate? owner.origin = some unit.provider := by
        have hfreeName : after.world.registry.isLoaded unit.provider.name = false := by
          rw [← hname] at hloaded
          exact hloaded
        rw [World.candidate?, World.source_of_openOrigin hopen, Option.filter_some, hfreeName,
          hstarts]
        rfl
      refine World.regains_of_offer (hreach.steps hsteps).balanced.registry hcandidate hfree ?_ ?_
        hmethod htype ?_ hshown
      · rw [hsettled.mentions]
        exact hreach.presentable.referenced id variable_ hget hshown
      · rw [Provider.offerOf?, hoffers]
        exact hoffer
      · rw [hsettled.settings]
        exact htimeout

end Whole

/-! ## A module that left and comes back -/

namespace Sample

/-- The daemon comes from the attended moment to the one after the tick landed. -/
theorem steps_landed : Whole.Steps rules attended landed := by
  have hcalled : Whole.Step rules deserted called := .call rfl (by with_unfolding_all rfl)
  have hlanded : Whole.Step rules called landed := .apply rfl (by with_unfolding_all rfl)
  exact (steps_deserted.tail hcalled).tail hlanded

/-- The office opens again in the world after the tick landed. -/
theorem reopens_landed {module_ : Module} (hname : module_.name = "office")
    (horigin : module_.origin = .builtin "office")
    (hoffers : module_.unit.provider.enrollment.offers = office.enrollment.offers) :
    landed.world.Reopens module_ := by
  rw [World.Reopens, hname, horigin, hoffers]
  with_unfolding_all exact ⟨_, _, rfl, rfl, rfl, rfl⟩

end Sample

/-- The door is gone with its module and comes back with it. -/
theorem catalogue_leads_back_landed : ∃ variable_ module_,
    Sample.attended.world.registry.directory.get? ⟨1⟩ = some variable_ ∧
    variable_.name = "door" ∧ variable_.binding ≠ .unresolved ∧
    Sample.attended.world.registry.get? variable_.module_ = some module_ ∧
    Sample.landed.world.registry.directory.idOf? "door" = none ∧
    Sample.landed.world.state.missingOrigin "door" = some (.builtin "office") ∧
    Sample.landed.world.Regains (.builtin "office") variable_ := by
  have hleads := Whole.Reachable.catalogue_leads_back Sample.reachable_attended
  obtain ⟨hmissing, hregains⟩ := hleads.returns ⟨1⟩ _ _ rfl rfl rfl Sample.landed
    Sample.steps_landed (by with_unfolding_all rfl) (by with_unfolding_all rfl)
    (by with_unfolding_all rfl) (Sample.reopens_landed rfl rfl rfl)
  refine ⟨_, _, rfl, rfl, nofun, rfl, ?_, hmissing, hregains⟩
  with_unfolding_all rfl

end MetricsDaemon
