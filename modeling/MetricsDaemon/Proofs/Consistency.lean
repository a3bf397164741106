import MetricsDaemon.Proofs.Whole

/-!
# One consistent structure

The modules and the variables, with an index of names each and a list of variables for
each module, never contradict each other. What is shown is mentioned by the layout, and
no module stays that shows nothing. A number that was given out once leads to the same
module or variable for as long as it leads anywhere.
-/

namespace MetricsDaemon

open Stock (Deed Deeds)

/-! ## Numbers are given out once -/

/-- What was registered under a number of the earlier directory and still is, is the same up to its
binding and its samples. -/
structure Directory.Succeeds (before after : Directory) : Prop where
  last : before.lastId ≤ after.lastId
  same : ∀ {id found}, after.get? id = some found → id.number ≤ before.lastId →
    ∃ variable_, before.get? id = some variable_ ∧ found.profile = variable_.profile

namespace Directory

variable {before middle after : Directory}

/-- A directory comes after itself. -/
theorem Succeeds.refl (directory : Directory) : directory.Succeeds directory :=
  ⟨Nat.le_refl _, fun hget _ => ⟨_, hget, rfl⟩⟩

/-- What comes after a later directory comes after the earlier one. -/
theorem Succeeds.trans (hfirst : before.Succeeds middle) (hlast : middle.Succeeds after) :
    before.Succeeds after where
  last := Nat.le_trans hfirst.last hlast.last
  same := by
    intro id found hget hle
    obtain ⟨between, hbetween, hprofile⟩ := hlast.same hget (Nat.le_trans hle hfirst.last)
    obtain ⟨variable_, hvariable, hprofile'⟩ := hfirst.same hbetween hle
    exact ⟨variable_, hvariable, hprofile.trans hprofile'⟩

/-- A directory that keeps what was there comes after it. -/
theorem Keeps.succeeds (hkeeps : before.Keeps after) : before.Succeeds after where
  last := hkeeps.last
  same := by
    intro id found hget hle
    obtain ⟨variable_, hvariable, hprofile, _⟩ := hkeeps.kept hget hle
    exact ⟨variable_, hvariable, hprofile⟩

end Directory

namespace Registry

/-- What bore a number of the earlier registry and still is there, is the same: a module up to its
clients, and a variable up to its binding and its samples. -/
structure Succeeds (before after : Registry) : Prop where
  last : before.lastId ≤ after.lastId
  same : ∀ {id found}, after.get? id = some found → id.number ≤ before.lastId →
    ∃ module_, before.get? id = some module_ ∧ found = { module_ with clients := found.clients }
  directory : before.directory.Succeeds after.directory

variable {registry before middle after : Registry} {unloads : Bool} {prepared : Prepared}

/-- A registry with the same tables comes after the other. -/
theorem Succeeds.of_tables_eq (hmodules : after.modules = before.modules)
    (hlast : after.lastId = before.lastId) (hdirectory : after.directory = before.directory) :
    before.Succeeds after where
  last := Nat.le_of_eq hlast.symm
  same hget _ := ⟨_, by rwa [Registry.get?, hmodules] at hget, rfl⟩
  directory := by
    rw [hdirectory]
    exact .refl _

/-- What comes after a later registry comes after the earlier one. -/
theorem Succeeds.trans (hfirst : before.Succeeds middle) (hlast : middle.Succeeds after) :
    before.Succeeds after where
  last := Nat.le_trans hfirst.last hlast.last
  same := by
    intro id found hget hle
    obtain ⟨between, hbetween, hsame⟩ := hlast.same hget (Nat.le_trans hle hfirst.last)
    obtain ⟨module_, hmodule, hsame'⟩ := hfirst.same hbetween hle
    refine ⟨module_, hmodule, ?_⟩
    rw [hsame, hsame']
  directory := hfirst.directory.trans hlast.directory

/-- What an act leaves comes after what was there. -/
theorem Sound.succeeds_act (hsound : before.Sound) (hact : Act unloads before after) :
    before.Succeeds after where
  last := Nat.le_of_eq hact.lastId.symm
  same hget _ := hact.resident hget
  directory := ⟨Nat.le_of_eq hact.lastId_directory.symm, fun hget _ =>
    hact.registered (fun _ => hsound) hget⟩

/-- What an installation leaves comes after what was there. -/
theorem Sound.succeeds_install (hsound : registry.Sound) :
    registry.Succeeds (registry.install prepared).1 where
  last := lastId_le_install
  same := by
    intro id found hget hle
    rcases get?_of_install hget with hold | ⟨rfl, _⟩
    · exact ⟨found, hold, rfl⟩
    · exact absurd hle (Nat.not_succ_le_self _)
  directory := hsound.keeps_install.succeeds

/-! ## What is shown -/

/-- Every resident module has a variable that is shown. -/
def Shown (registry : Registry) : Prop :=
  ∀ id module_, registry.get? id = some module_ → ∃ variableId variable_,
    registry.directory.get? variableId = some variable_ ∧ variable_.module_ = id ∧
      variable_.isCron = false

/-- Every variable that is shown is mentioned by the layout. -/
def Referenced (registry : Registry) : Prop :=
  ∀ variableId variable_, registry.directory.get? variableId = some variable_ →
    variable_.isCron = false → registry.layout.mentions variable_.name = true

/-- Variables may be bound and sampled. -/
theorem Shown.withDirectory {directory : Directory} (hshown : registry.Shown)
    (halike : registry.directory.Alike directory) :
    Shown { registry with directory := directory } := by
  intro id module_ hget
  obtain ⟨variableId, variable_, hvariable, hmodule, hcron⟩ := hshown id module_ hget
  obtain ⟨found, hfound, hprofile⟩ := halike.get?_after hvariable
  have htype := congrArg TypeTag.cron (Variable.type_eq_of_profile_eq hprofile)
  exact ⟨variableId, found, hfound, (Variable.module_eq_of_profile_eq hprofile).trans hmodule,
    htype.trans hcron⟩

/-- After an act every module that is not pinned still shows something. -/
theorem Shown.act (hshown : before.Shown) (hsound : before.Sound)
    (hact : Act unloads before after) : after.Shown := by
  cases hact with
  | provided name provider => exact hshown
  | counted id change =>
    intro other found hget
    obtain ⟨module_, hmodule, _⟩ := get?_of_recount hget
    exact hshown other module_ hmodule
  | @bound id variable_ module_ hvariable hmodule =>
    obtain ⟨journal, h⟩ := before.bind_eq module_.unit id
    rw [h]
    have hwith : Shown { before with
        directory := (before.directory.resolve id module_.unit.resolve).1 } :=
      hshown.withDirectory Directory.alike_resolve
    exact hwith
  | sampled id arg now checksum => exact hshown.withDirectory Directory.alike_recordSample
  | unloaded id hmay =>
    intro other found hget
    rw [get?_unload] at hget
    split at hget
    · cases hget
    · next hne =>
      obtain ⟨variableId, variable_, hvariable, rfl, hcron⟩ := hshown other found hget
      exact ⟨variableId, variable_,
        hsound.get?_directory_unload_iff.mpr ⟨hvariable, Ne.symm hne⟩, rfl, hcron⟩

/-- After an act every variable that is shown is still mentioned. -/
theorem Referenced.act (hreferenced : before.Referenced) (hsound : before.Sound)
    (hact : Act unloads before after) : after.Referenced := by
  intro variableId found hget hcron
  obtain ⟨variable_, hvariable, hprofile⟩ := hact.registered (fun _ => hsound) hget
  have htype := congrArg TypeTag.cron (Variable.type_eq_of_profile_eq hprofile)
  rw [hact.layout, Variable.name_eq_of_profile_eq hprofile]
  exact hreferenced variableId variable_ hvariable (htype.symm.trans hcron)

/-- A module that comes in and stays has something to show. -/
theorem Shown.install (hshown : registry.Shown) (hsound : registry.Sound) :
    (registry.install prepared).1.Shown := by
  have hold (id : ModuleId) (module_ : Module) (hget : registry.get? id = some module_) :
      ∃ variableId variable_,
        (registry.install prepared).1.directory.get? variableId = some variable_ ∧
          variable_.module_ = id ∧ variable_.isCron = false := by
    obtain ⟨variableId, variable_, hvariable, hrest⟩ := hshown id module_ hget
    exact ⟨variableId, variable_, hsound.get?_directory_install_of_get? hvariable, hrest⟩
  intro id module_ hget
  cases hloaded : registry.isLoaded prepared.unit.name with
  | true =>
    rw [install_of_loaded hloaded] at hget
    exact hold id module_ hget
  | false =>
    by_cases hnone : (registry.installation prepared).shown = 0
    · rw [install_of_unused hloaded hnone] at hget
      exact hold id module_ hget
    · have haccept := install_of_shown hloaded hnone
      have hfound : (registry.accept prepared).get? id = some module_ := by rwa [haccept] at hget
      rw [get?_accept] at hfound
      split at hfound
      · next heq =>
        obtain ⟨variableId, hmem, variable_, hvariable, hcron⟩ :=
          hsound.shows_installation prepared hnone
        rw [haccept]
        exact ⟨variableId, variable_, hvariable,
          ((hsound.mem_registered_iff hvariable).mp hmem).trans heq, hcron⟩
      · exact hold id module_ hfound

/-- After an installation every variable that is shown is mentioned, if the offers were worth it. -/
theorem Referenced.install (hreferenced : registry.Referenced) (hsound : registry.Sound)
    (hworth : registry.layout.Worth prepared.offers) :
    (registry.install prepared).1.Referenced := by
  intro variableId variable_ hget hcron
  rw [mentions_install]
  rcases hsound.get?_directory_of_install hget with hold | ⟨offer, hmem, timeout, rfl⟩
  · exact hreferenced variableId variable_ hold hcron
  · rcases hworth offer hmem with hpinned | hmentions
    · exact absurd (hpinned.symm.trans hcron) nofun
    · exact hmentions

end Registry

/-! ## Every deed -/

namespace Stock

/-- What is resident is shown, what is shown is mentioned, and so it will be with what is
prepared. -/
structure Presentable (stock : Stock) : Prop where
  shown : stock.registry.Shown
  referenced : stock.registry.Referenced
  worth : ∀ prepared, .prepared prepared ∈ stock.holdings →
    stock.registry.layout.Worth prepared.offers

variable {alone unloads : Bool} {before after : Stock}

/-- What is held after a deed was held before, unless its initialization has just returned. -/
theorem Deed.worth (hdeed : Deed alone unloads before after)
    (hworth : ∀ prepared, .prepared prepared ∈ before.holdings →
      before.registry.layout.Worth prepared.offers) :
    ∀ prepared, .prepared prepared ∈ after.holdings →
      after.registry.layout.Worth prepared.offers := by
  have hkeep {offers : List Offer} (h : before.registry.layout.Worth offers) :
      after.registry.layout.Worth offers := Deeds.worth (.single hdeed) h
  intro prepared hmem
  cases hdeed with
  | acted hact => exact hkeep (hworth prepared hmem)
  | opened =>
    rcases List.mem_cons.mp hmem with h | hmem
    · cases h
    · exact hkeep (hworth prepared hmem)
  | entered | offered =>
    rcases List.mem_cons.mp hmem with h | hmem
    · cases h
    · exact hkeep (hworth prepared (List.mem_cons_of_mem _ hmem))
  | returned kept hkept =>
    rcases List.mem_cons.mp hmem with h | hmem
    · cases h
      exact hkeep hkept
    · exact hkeep (hworth prepared (List.mem_cons_of_mem _ hmem))
  | dropped | discarded | installed => exact hkeep (hworth prepared (List.mem_cons_of_mem _ hmem))
  | shuffled hperm => exact hkeep (hworth prepared (hperm.mem_iff.mpr hmem))

/-- Every deed leaves what is held presentable. -/
theorem Presentable.deed (hpresentable : before.Presentable) (hsound : before.registry.Sound)
    (hdeed : Deed alone unloads before after) : after.Presentable := by
  refine ⟨?_, ?_, hdeed.worth hpresentable.worth⟩
  · have hshown := hpresentable.shown
    cases hdeed with
    | acted hact => exact hshown.act hsound hact
    | installed prepared => exact hshown.install hsound
    | _ => exact hshown
  · have hreferenced := hpresentable.referenced
    cases hdeed with
    | acted hact => exact hreferenced.act hsound hact
    | installed prepared =>
      exact hreferenced.install hsound (hpresentable.worth prepared List.mem_cons_self)
    | _ => exact hreferenced

/-- What a deed leaves comes after what was there. -/
theorem Deed.succeeds (hdeed : Deed alone unloads before after)
    (hsound : before.registry.Sound) : before.registry.Succeeds after.registry := by
  cases hdeed with
  | acted hact => exact hsound.succeeds_act hact
  | installed prepared => exact hsound.succeeds_install
  | _ => exact .of_tables_eq rfl rfl rfl

/-- What any number of deeds leaves comes after what was there. -/
theorem Deeds.succeeds (hdeeds : Deeds alone unloads before after)
    (hbalanced : before.Balanced) : before.registry.Succeeds after.registry := by
  induction hdeeds with
  | refl => exact .of_tables_eq rfl rfl rfl
  | tail hdeeds hdeed ih => exact ih.trans (hdeed.succeeds (hbalanced.deeds hdeeds).registry)

end Stock

/-! ## Wherever the whole can come -/

/-- The modules, the variables, their indices of names and the lists of what each module owns say
the same, and they fit the layout. -/
structure Registry.Consistent (registry : Registry) : Prop where
  variableNames : ∀ name id, registry.directory.idOf? name = some id ↔
    ∃ variable_, registry.directory.get? id = some variable_ ∧ variable_.name = name
  moduleNames : ∀ key id, registry.byName.get? key = some id ↔
    ∃ module_, registry.get? id = some module_ ∧ Text.lowercase module_.name = key
  /-- No two resident modules have the same name but for its case. -/
  distinct : ∀ id other module_ rival, registry.get? id = some module_ →
    registry.get? other = some rival →
    Text.lowercase module_.name = Text.lowercase rival.name → id = other
  owner : ∀ id variable_, registry.directory.get? id = some variable_ →
    ∃ module_, registry.get? variable_.module_ = some module_ ∧ module_.owned.count id = 1
  owned : ∀ id module_, registry.get? id = some module_ → ∀ variableId ∈ module_.owned,
    ∃ variable_, registry.directory.get? variableId = some variable_ ∧ variable_.module_ = id
  pinned : ∀ id module_, registry.get? id = some module_ → (module_.pinned = true ↔
    ∃ variableId variable_, registry.directory.get? variableId = some variable_ ∧
      variable_.module_ = id ∧ variable_.isCron = true)
  shown : ∀ id module_, registry.get? id = some module_ →
    ∃ variableId variable_, registry.directory.get? variableId = some variable_ ∧
      variable_.module_ = id ∧ variable_.isCron = false
  referenced : ∀ id variable_, registry.directory.get? id = some variable_ →
    variable_.isCron = false → registry.layout.mentions variable_.name = true
  moduleNumbers : ∀ id module_, registry.get? id = some module_ →
    module_.id = id ∧ id.number ≤ registry.lastId
  variableNumbers : ∀ id variable_, registry.directory.get? id = some variable_ →
    variable_.id = id ∧ id.number ≤ registry.directory.lastId

/-- A registry in order is consistent, if its modules show something and what they show is
mentioned. -/
theorem Registry.Sound.consistent {registry : Registry} (hsound : registry.Sound)
    (hshown : registry.Shown) (hreferenced : registry.Referenced) : registry.Consistent where
  variableNames _ _ := hsound.directory.named
  moduleNames _ _ := hsound.named
  distinct := by
    intro id other module_ rival hget hrival hname
    have hfirst := hsound.named.mpr ⟨module_, hget, hname⟩
    have hsecond := hsound.named.mpr ⟨rival, hrival, rfl⟩
    exact Option.some.inj (hfirst.symm.trans hsecond)
  owner := by
    intro id variable_ hget
    obtain ⟨module_, hmodule, hmem⟩ := hsound.owner hget
    exact ⟨module_, hmodule, List.count_eq_one_of_mem (hsound.distinct hmodule) hmem⟩
  owned _ _ hget _ hmem := hsound.owned hget hmem
  pinned _ _ hget := hsound.pinned hget
  shown := hshown
  referenced := hreferenced
  moduleNumbers _ _ hget := ⟨hsound.numbered hget, hsound.le_lastId hget⟩
  variableNumbers _ _ hget := ⟨hsound.directory.numbered hget, hsound.directory.le_lastId hget⟩

namespace Whole

variable {rules : Permit} {whole after : Whole}

/-- Wherever the whole can come it is presentable. -/
theorem Reachable.presentable (hreach : Reachable rules whole) : whole.stock.Presentable := by
  refine hreach.kept Stock.Presentable (fun layout settings last => ?_)
    (fun _ _ _ _ _ _ hkept => ⟨hkept.shown, hkept.referenced, hkept.worth⟩)
    fun unloads before after hbalanced hkept hdeed => hkept.deed hbalanced.registry hdeed
  refine ⟨fun id module_ hget => ?_, fun id variable_ hget => ?_, fun prepared hmem => ?_⟩
  · cases hget
  · cases hget
  · cases hmem

/-- What the whole comes to comes after what it was. -/
theorem Reachable.succeeds (hreach : Reachable rules whole) (hsteps : Steps rules whole after) :
    whole.world.registry.Succeeds after.world.registry := by
  induction hsteps with
  | refl => exact .of_tables_eq rfl rfl rfl
  | tail hsteps hstep ih =>
    have hmiddle := hreach.steps hsteps
    refine ih.trans ?_
    rcases hmiddle.deeds hstep with ⟨flight, job, _, _, rfl⟩ | ⟨unloads, _, hdeeds⟩
    · exact .of_tables_eq rfl rfl rfl
    · exact hdeeds.succeeds hmiddle.balanced

/-- Wherever the whole can come, the registry and the directory are one consistent structure; and
whatever happens later, a number that was given out before leads to what it led to before, or to
nothing. -/
theorem Reachable.registry_consistent (hreach : Reachable rules whole) :
    whole.world.registry.Consistent ∧
      ∀ after, Steps rules whole after →
        whole.world.registry.Succeeds after.world.registry := by
  have hpresentable := hreach.presentable
  exact ⟨hreach.balanced.registry.consistent hpresentable.shown hpresentable.referenced,
    fun _ hsteps => hreach.succeeds hsteps⟩

end Whole

/-- The module that was loaded again has a new number, and so has its variable. -/
theorem registry_consistent_again :
    Sample.attended.world.registry.Consistent ∧
    Sample.attended.world.registry.Succeeds Sample.again.world.registry ∧
    (Sample.attended.world.registry.get? ⟨1⟩).map Module.name = some "office" ∧
    (Sample.again.world.registry.get? ⟨1⟩).map Module.name = none ∧
    (Sample.again.world.registry.get? ⟨2⟩).map Module.name = some "office" ∧
    Sample.attended.world.registry.directory.idOf? "door" = some ⟨1⟩ ∧
    Sample.again.world.registry.directory.idOf? "door" = some ⟨2⟩ := by
  obtain ⟨hconsistent, hsucceeds⟩ := Whole.Reachable.registry_consistent Sample.reachable_attended
  refine ⟨hconsistent, hsucceeds _ (Sample.steps_deserted.trans Sample.steps_again), rfl, ?_, ?_,
    rfl, ?_⟩ <;> with_unfolding_all rfl

end MetricsDaemon
