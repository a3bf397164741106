import MetricsDaemon.Proofs.Staging

/-!
# What an installation adds

Registering offers in turn adds variables at the end of the directory, one for each offer
whose name is free by then. Which offers these are depends only on the names that are
held. Taking the added variables away again undoes the installation: the directory is
what it was, but for the numbers that were given out.
-/

namespace MetricsDaemon

namespace Table

variable {κ α : Type} [DecidableEq κ] {t : Table κ α} {key : κ} {value : α}

/-- Erasing what was written last under a new key. -/
theorem erase_put (hget : t.get? key = none) : (t.put key value).erase key = t := by
  have hkeep : t.entries.filter (fun entry => decide (entry.1 ≠ key)) = t.entries := by
    refine List.filter_eq_self.mpr fun entry hmem => ?_
    have hne : entry.1 ≠ key := by
      rintro rfl
      exact get?_eq_none_iff.mp hget (List.mem_map_of_mem hmem)
    simpa using hne
  obtain ⟨entries⟩ := t
  rw [erase, entries_put_of_get?_eq_none hget, List.filter_append, hkeep]
  simp

/-- Two keys can be erased in either order. -/
theorem erase_comm (t : Table κ α) (key other : κ) :
    (t.erase key).erase other = (t.erase other).erase key := by
  simp only [erase, List.filter_filter, Bool.and_comm]

end Table

namespace Directory

variable {settings : Settings} {module_ : ModuleId} {directory : Directory} {offer : Offer}
  {offers : List Offer} {timeout : Nat} {name : String}

/-- The names that are held, in the order in which the variables were registered. -/
def names (directory : Directory) : List String :=
  directory.entries.values.map Variable.name

/-- The variables that offers become when they are registered in turn. -/
def additions (settings : Settings) (module_ : ModuleId) : Directory → List Offer → List Variable
  | _, [] => []
  | directory, offer :: rest =>
      match directory.idOf? offer.name with
      | some _ => additions settings module_ directory rest
      | none =>
          fresh directory.nextId offer (settings.timeoutFor offer) module_ ::
            additions settings module_
              (directory.extend offer (settings.timeoutFor offer) module_) rest

/-- The directory after offers were registered in turn. -/
def enroll (settings : Settings) (module_ : ModuleId) (directory : Directory)
    (offers : List Offer) : Directory :=
  offers.foldl (fun directory offer =>
    (directory.insert offer (settings.timeoutFor offer) module_).1) directory

/-- An offer whose name is taken adds nothing. -/
theorem additions_of_taken {id : VariableId} (htaken : directory.idOf? offer.name = some id) :
    additions settings module_ directory (offer :: offers) =
      additions settings module_ directory offers := by
  rw [additions, htaken]

/-- An offer with a free name adds its variable before those of the others. -/
theorem additions_of_free (hfree : directory.idOf? offer.name = none) :
    additions settings module_ directory (offer :: offers) =
      fresh directory.nextId offer (settings.timeoutFor offer) module_ ::
        additions settings module_
          (directory.extend offer (settings.timeoutFor offer) module_) offers := by
  rw [additions, hfree]

/-- An offer whose name is taken is passed over. -/
theorem enroll_of_taken {id : VariableId} (htaken : directory.idOf? offer.name = some id) :
    enroll settings module_ directory (offer :: offers) =
      enroll settings module_ directory offers := by
  rw [enroll, List.foldl_cons, insert_of_taken htaken]
  rfl

/-- An offer with a free name is enrolled before the others. -/
theorem enroll_of_free (hfree : directory.idOf? offer.name = none) :
    enroll settings module_ directory (offer :: offers) =
      enroll settings module_ (directory.extend offer (settings.timeoutFor offer) module_)
        offers := by
  rw [enroll, List.foldl_cons, insert_of_free hfree]
  rfl

/-- Each of the variables is one of the offers, just as it was offered. -/
theorem exists_of_mem_additions {variable_ : Variable}
    (hmem : variable_ ∈ additions settings module_ directory offers) :
    ∃ offer ∈ offers,
      variable_ = fresh variable_.id offer (settings.timeoutFor offer) module_ := by
  induction offers generalizing directory with
  | nil => cases hmem
  | cons offer rest ih =>
    cases hname : directory.idOf? offer.name with
    | some taken =>
      rw [additions_of_taken hname] at hmem
      obtain ⟨other, hother, heq⟩ := ih hmem
      exact ⟨other, List.mem_cons_of_mem _ hother, heq⟩
    | none =>
      rw [additions_of_free hname] at hmem
      rcases List.mem_cons.mp hmem with rfl | hmem
      · exact ⟨offer, List.mem_cons_self, rfl⟩
      · obtain ⟨other, hother, heq⟩ := ih hmem
        exact ⟨other, List.mem_cons_of_mem _ hother, heq⟩

/-! ## The names -/

/-- The names of a directory are those that lead somewhere. -/
theorem Sound.mem_names_iff (hsound : directory.Sound) :
    name ∈ directory.names ↔ ∃ id, directory.idOf? name = some id := by
  simp only [names, List.mem_map, hsound.counted.unique.mem_values_iff, hsound.named]
  constructor
  · rintro ⟨variable_, ⟨id, hget⟩, hname⟩
    exact ⟨id, variable_, hget, hname⟩
  · rintro ⟨id, variable_, hget, hname⟩
    exact ⟨variable_, ⟨id, hget⟩, hname⟩

/-- A new variable comes after the others. -/
theorem Sound.values_extend (hsound : directory.Sound) :
    (directory.extend offer timeout module_).entries.values =
      directory.entries.values ++ [fresh directory.nextId offer timeout module_] :=
  Table.values_put_of_get?_eq_none hsound.get?_nextId

end Directory

/-- The first offers of names that are not held. -/
def Offer.unheld : List String → List Offer → List Offer
  | _, [] => []
  | held, offer :: rest =>
      if offer.name ∈ held then unheld held rest
      else offer :: unheld (held ++ [offer.name]) rest

namespace Directory

variable {settings : Settings} {module_ : ModuleId} {directory : Directory} {offer : Offer}
  {offers : List Offer}

/-- What is added depends on the names that are held, and on nothing else of the directory. -/
theorem Sound.additions_eq {α : Type} (hsound : directory.Sound) (view : Variable → α)
    (mark : Offer → α)
    (hview : ∀ id offer, view (fresh id offer (settings.timeoutFor offer) module_) = mark offer) :
    (additions settings module_ directory offers).map view =
      (Offer.unheld directory.names offers).map mark := by
  induction offers generalizing directory with
  | nil => rfl
  | cons offer rest ih =>
    rw [Offer.unheld]
    cases hname : directory.idOf? offer.name with
    | some taken =>
      rw [additions_of_taken hname, if_pos (hsound.mem_names_iff.mpr ⟨taken, hname⟩)]
      exact ih hsound
    | none =>
      have hfree : offer.name ∉ directory.names := by
        intro hmem
        obtain ⟨id, hid⟩ := hsound.mem_names_iff.mp hmem
        rw [hname] at hid
        cases hid
      have hnames : (directory.extend offer (settings.timeoutFor offer) module_).names =
          directory.names ++ [offer.name] := by
        rw [names, hsound.values_extend, List.map_append]
        rfl
      rw [additions_of_free hname, if_neg hfree, List.map_cons, List.map_cons, hview,
        ih (hsound.extend hname), hnames]

/-! ## Adding and taking away -/

/-- The variables are added at the end. -/
theorem Sound.values_enroll (hsound : directory.Sound) :
    (Directory.enroll settings module_ directory offers).entries.values =
      directory.entries.values ++ additions settings module_ directory offers := by
  induction offers generalizing directory with
  | nil => exact (List.append_nil _).symm
  | cons offer rest ih =>
    cases hname : directory.idOf? offer.name with
    | some taken =>
      rw [enroll_of_taken hname, additions_of_taken hname]
      exact ih hsound
    | none =>
      rw [enroll_of_free hname, additions_of_free hname, ih (hsound.extend hname),
        hsound.values_extend, List.append_assoc]
      rfl

/-- Two variables can be removed in either order. -/
theorem remove_comm (directory : Directory) (id other : VariableId) :
    (directory.remove id).remove other = (directory.remove other).remove id := by
  have hkeep {gone : VariableId} (hgone : directory.get? gone = none) (kept : VariableId) :
      (directory.remove kept).get? gone = none := by
    rw [get?_remove, hgone, ite_self]
  have hnothing {directory : Directory} {gone : VariableId} (hgone : directory.get? gone = none) :
      directory.remove gone = directory := by
    rw [remove, hgone]
  by_cases heq : id = other
  · rw [heq]
  cases hid : directory.get? id with
  | none => rw [hnothing hid, hnothing (hkeep hid other)]
  | some one =>
    cases hother : directory.get? other with
    | none => rw [hnothing hother, hnothing (hkeep hother id)]
    | some two =>
      have htwo : (directory.remove id).get? other = some two := by
        rw [get?_remove, if_neg heq, hother]
      have hone : (directory.remove other).get? id = some one := by
        rw [get?_remove, if_neg (Ne.symm heq), hid]
      have hboth {directory : Directory} {gone : VariableId} {variable_ : Variable}
          (hget : directory.get? gone = some variable_) : directory.remove gone =
            { directory with
              entries := directory.entries.erase gone
              byName := directory.byName.erase variable_.name } := by
        rw [remove, hget]
      rw [hboth htwo, hboth hone, hboth hid, hboth hother]
      simp only [Table.erase_comm]

/-- It makes no difference whether one variable is removed before the others or after them. -/
theorem remove_removeAll (directory : Directory) (id : VariableId) (ids : List VariableId) :
    (directory.remove id).removeAll ids = (directory.removeAll ids).remove id := by
  induction ids generalizing directory with
  | nil => rfl
  | cons other rest ih =>
    calc ((directory.remove id).remove other).removeAll rest
        = ((directory.remove other).remove id).removeAll rest := by rw [remove_comm]
      _ = ((directory.remove other).removeAll rest).remove id := ih _

/-- Taking the variable away that was registered last. -/
theorem Sound.remove_extend {timeout last : Nat} (hsound : directory.Sound)
    (hfree : directory.idOf? offer.name = none) :
    ({ directory.extend offer timeout module_ with lastId := last } : Directory).remove
      directory.nextId = { directory with lastId := last } := by
  have hentries : (directory.extend offer timeout module_).entries.erase directory.nextId =
      directory.entries := Table.erase_put hsound.get?_nextId
  have hnames : (directory.extend offer timeout module_).byName.erase offer.name =
      directory.byName := Table.erase_put hfree
  have hget : ({ directory.extend offer timeout module_ with lastId := last } : Directory).get?
      directory.nextId = some (fresh directory.nextId offer timeout module_) := by
    have hlast : (directory.extend offer timeout module_).get? directory.nextId =
        some (fresh directory.nextId offer timeout module_) := by rw [get?_extend, if_pos rfl]
    exact hlast
  rw [Directory.remove, hget]
  simp only [fresh, hentries, hnames]

/-- Taking all added variables away again leaves nothing but the numbers that were given out. -/
theorem Sound.removeAll_enroll (hsound : directory.Sound) :
    (Directory.enroll settings module_ directory offers).removeAll
        ((additions settings module_ directory offers).map Variable.id) =
      { directory with
        lastId := (Directory.enroll settings module_ directory offers).lastId } := by
  induction offers generalizing directory with
  | nil => rfl
  | cons offer rest ih =>
    cases hname : directory.idOf? offer.name with
    | some taken =>
      rw [enroll_of_taken hname, additions_of_taken hname]
      exact ih hsound
    | none =>
      rw [enroll_of_free hname, additions_of_free hname, List.map_cons]
      have hextended : (directory.extend offer (settings.timeoutFor offer) module_).Sound :=
        hsound.extend hname
      have hrest := ih hextended
      have hfirst := remove_removeAll (Directory.enroll settings module_
        (directory.extend offer (settings.timeoutFor offer) module_) rest) directory.nextId
        ((additions settings module_
          (directory.extend offer (settings.timeoutFor offer) module_) rest).map Variable.id)
      rw [hrest, hsound.remove_extend hname] at hfirst
      exact hfirst

end Directory

/-! ## Installations -/

namespace Installation

variable {settings : Settings} {id : ModuleId} {installation : Installation} {offer : Offer}
  {offers : List Offer}

/-- An installation that went on by some variables. -/
structure Adds (added : List Variable) (before after : Installation) : Prop where
  registered : after.registered = before.registered ++ added.map Variable.id
  shown : after.shown = before.shown + added.countP fun variable_ => !variable_.isCron
  pinned : after.pinned = (before.pinned || added.any Variable.isCron)

/-- The directory of an installation is the one in which its offers were enrolled. -/
theorem directory_registerAll : (registerAll settings id installation offers).directory =
    installation.directory.enroll settings id offers := by
  induction offers generalizing installation with
  | nil => rfl
  | cons offer rest ih =>
    have hstep : (registerAll settings id installation (offer :: rest)).directory =
        (register settings id installation offer).directory.enroll settings id rest := ih
    rw [hstep]
    cases hname : installation.directory.idOf? offer.name with
    | some taken => rw [register_of_taken hname, Directory.enroll_of_taken hname]
    | none => rw [register_of_free hname, Directory.enroll_of_free hname]

/-- To register the offers adds the variables that they add. -/
theorem adds_registerAll (settings : Settings) (id : ModuleId) (installation : Installation)
    (offers : List Offer) : Adds (installation.directory.additions settings id offers) installation
      (registerAll settings id installation offers) := by
  induction offers generalizing installation with
  | nil => exact ⟨(List.append_nil _).symm, rfl, (Bool.or_false _).symm⟩
  | cons offer rest ih =>
    have hstep : registerAll settings id installation (offer :: rest) =
        registerAll settings id (register settings id installation offer) rest := rfl
    have hrest := ih (register settings id installation offer)
    rw [hstep]
    cases hname : installation.directory.idOf? offer.name with
    | some taken =>
      rw [register_of_taken hname] at hrest ⊢
      rw [Directory.additions_of_taken hname]
      exact hrest
    | none =>
      rw [register_of_free hname] at hrest ⊢
      rw [Directory.additions_of_free hname]
      have hcron : (Directory.fresh installation.directory.nextId offer (settings.timeoutFor offer)
          id).isCron = offer.type.cron := rfl
      refine ⟨?_, ?_, ?_⟩
      · rw [hrest.registered, List.map_cons, List.append_assoc]
        rfl
      · rw [hrest.shown, List.countP_cons, hcron]
        cases offer.type.cron <;> simp only [Bool.not_true, Bool.not_false, if_true, if_false,
          Bool.false_eq_true] <;> omega
      · rw [hrest.pinned, List.any_cons, hcron, Bool.or_assoc]

end Installation

namespace Registry

variable {registry : Registry} {prepared : Prepared}

/-- The variables that an installation adds. -/
def additions (registry : Registry) (prepared : Prepared) : List Variable :=
  registry.directory.additions registry.settings registry.nextId prepared.offers

/-- An installation adds the variables that its offers add. -/
theorem adds_installation (registry : Registry) (prepared : Prepared) :
    Installation.Adds (registry.additions prepared)
      ⟨registry.directory, registry.layout, [], 0, false⟩ (registry.installation prepared) := by
  rw [installation_eq, additions]
  exact Installation.adds_registerAll registry.settings registry.nextId
    ⟨registry.directory, registry.layout, [], 0, false⟩ prepared.offers

/-- An installation lists the numbers of the variables that it adds. -/
theorem registered_installation (registry : Registry) (prepared : Prepared) :
    (registry.installation prepared).registered =
      (registry.additions prepared).map Variable.id :=
  (registry.adds_installation prepared).registered

/-- An installation is pinned if it adds a variable for every tick. -/
theorem pinned_installation (registry : Registry) (prepared : Prepared) :
    (registry.installation prepared).pinned =
      (registry.additions prepared).any Variable.isCron :=
  (registry.adds_installation prepared).pinned

/-- An installation shows something if it adds a variable that is not for every tick. -/
theorem shown_installation_iff (registry : Registry) (prepared : Prepared) :
    (registry.installation prepared).shown ≠ 0 ↔
      (registry.additions prepared).any (fun variable_ => !variable_.isCron) = true := by
  rw [(registry.adds_installation prepared).shown, Nat.zero_add, List.any_eq_true,
    ← Nat.pos_iff_ne_zero, List.countP_pos_iff]

/-- The directory of an installation is that of the registry with the offers enrolled. -/
theorem directory_installation (registry : Registry) (prepared : Prepared) :
    (registry.installation prepared).directory =
      registry.directory.enroll registry.settings registry.nextId prepared.offers :=
  Installation.directory_registerAll

/-- The variables of an installation come after those of the registry. -/
theorem Sound.values_installation (hsound : registry.Sound) (prepared : Prepared) :
    (registry.installation prepared).directory.entries.values =
      registry.directory.entries.values ++ registry.additions prepared := by
  rw [directory_installation]
  exact hsound.directory.values_enroll

/-- Each of the added variables is found under its number. -/
theorem Sound.get?_of_mem_additions {variable_ : Variable} (hsound : registry.Sound)
    (hmem : variable_ ∈ registry.additions prepared) :
    (registry.installation prepared).directory.get? variable_.id = some variable_ := by
  have hdirectory := (hsound.extends_installation prepared).directory
  have hvalue : variable_ ∈ (registry.installation prepared).directory.entries.values := by
    rw [hsound.values_installation prepared]
    exact List.mem_append_right _ hmem
  obtain ⟨id, hget⟩ := hdirectory.counted.unique.mem_values_iff.mp hvalue
  have hid : variable_.id = id := hdirectory.numbered hget
  rw [hid]
  exact hget

/-- A rejected module leaves the directory as it was, but for the numbers that were given out. -/
theorem Sound.directory_reject (hsound : registry.Sound) (prepared : Prepared) :
    (registry.reject prepared).directory =
      { registry.directory with
        lastId := (registry.installation prepared).directory.lastId } := by
  have hreject : (registry.reject prepared).directory =
      (registry.installation prepared).directory.removeAll
        (registry.installation prepared).registered := rfl
  rw [hreject, registered_installation, directory_installation]
  exact hsound.directory.removeAll_enroll

end Registry

end MetricsDaemon
