import MetricsDaemon.Proofs.Portraits
import MetricsDaemon.Proofs.Whole

/-!
# Loads that fail

A load that ends in an error leaves no trace: modules, clients, names, catalogue and
variables are what they were, whatever the module had registered before it was turned
down. So when modules are loaded one after the other, those that fail do not matter:
the others might as well have been loaded alone.
-/

namespace MetricsDaemon

/-- The tables of the registry are what they were. Numbers may have been given out, and the
layout may remember the number of a variable that is gone. -/
structure Registry.Restored (before after : Registry) : Prop where
  modules : after.modules = before.modules
  byName : after.byName = before.byName
  catalog : after.catalog = before.catalog
  entries : after.directory.entries = before.directory.entries
  names : after.directory.byName = before.directory.byName
  lastId : before.lastId ≤ after.lastId
  lastVariable : before.directory.lastId ≤ after.directory.lastId

namespace Registry

variable {registry before middle after : Registry} {prepared : Prepared} {error : LoadError}

/-- Whatever the journal says, the registry is restored. -/
theorem restored_withJournal (registry : Registry) (journal : Journal) :
    registry.Restored (registry.withJournal journal) :=
  ⟨rfl, rfl, rfl, rfl, rfl, Nat.le_refl _, Nat.le_refl _⟩

/-- What is restored twice in a row is restored. -/
theorem Restored.trans (hfirst : before.Restored middle) (hlast : middle.Restored after) :
    before.Restored after where
  modules := hlast.modules.trans hfirst.modules
  byName := hlast.byName.trans hfirst.byName
  catalog := hlast.catalog.trans hfirst.catalog
  entries := hlast.entries.trans hfirst.entries
  names := hlast.names.trans hfirst.names
  lastId := Nat.le_trans hfirst.lastId hlast.lastId
  lastVariable := Nat.le_trans hfirst.lastVariable hlast.lastVariable

/-- A registry that is restored shows what it showed before. -/
theorem Restored.portrait (hrestored : before.Restored after) :
    after.portrait = before.portrait := by
  have hname : after.nameOf? = before.nameOf? := by
    funext id
    rw [nameOf?, Registry.get?, hrestored.modules]
    rfl
  have hvariable : after.variableName? = before.variableName? := by
    funext id
    rw [variableName?, Directory.get?, hrestored.entries]
    rfl
  rw [Registry.portrait, hrestored.modules, hrestored.entries, hrestored.catalog, hname,
    hvariable]
  rfl

/-- To turn a prepared module down restores the registry. -/
theorem Sound.restored_reject (hsound : registry.Sound) (prepared : Prepared) :
    registry.Restored (registry.reject prepared) := by
  have hdirectory := hsound.directory_reject prepared
  refine ⟨rfl, rfl, rfl, ?_, ?_, Nat.le_succ _, ?_⟩
  · rw [hdirectory]
  · rw [hdirectory]
  · rw [hdirectory]
    exact (hsound.extends_installation prepared).last

/-- An installation that ends in an error leaves no trace. -/
theorem Sound.restored_install (hsound : registry.Sound)
    (hfails : (registry.install prepared).2 = .error error) :
    registry.Restored (registry.install prepared).1 := by
  cases hloaded : registry.isLoaded prepared.unit.name with
  | true =>
    rw [install_of_loaded hloaded]
    exact registry.restored_withJournal _
  | false =>
    by_cases hshown : (registry.installation prepared).shown = 0
    · rw [install_of_unused hloaded hshown]
      exact hsound.restored_reject prepared
    · rw [install_of_shown hloaded hshown] at hfails
      cases hfails

end Registry

namespace World

/-- Whatever has nothing to do with resident modules is what it was. -/
structure Keeps (before after : World) : Prop where
  rest : after.state = { before.state with registry := after.registry }
  disk : after.disk = before.disk
  builtins : after.registry.builtins = before.registry.builtins
  settings : after.registry.settings = before.registry.settings
  mentions : ∀ name, after.registry.layout.mentions name = before.registry.layout.mentions name

/-- Nothing came of what was done. -/
structure Restored (before after : World) : Prop where
  keeps : before.Keeps after
  registry : before.registry.Restored after.registry

/-- Both worlds are the same up to numbers. -/
structure Mirrors (left right : World) : Prop where
  keeps : left.Keeps right
  portrait : right.registry.portrait = left.registry.portrait
  left : left.registry.Sound
  right : right.registry.Sound

variable {world before middle after left right : World} {origin : Origin} {provider : Provider}
  {prepared : Prepared} {fault : LoadFault} {error : LoadError} {name : String}

/-- A world keeps what it has. -/
theorem Keeps.refl (world : World) : world.Keeps world := ⟨rfl, rfl, rfl, rfl, fun _ => rfl⟩

/-- What a world keeps it would keep on the way back. -/
theorem Keeps.symm (hkeeps : before.Keeps after) : after.Keeps before where
  rest := by rw [hkeeps.rest]; rfl
  disk := hkeeps.disk.symm
  builtins := hkeeps.builtins.symm
  settings := hkeeps.settings.symm
  mentions name := (hkeeps.mentions name).symm

/-- What is kept twice in a row is kept. -/
theorem Keeps.trans (hfirst : before.Keeps middle) (hlast : middle.Keeps after) :
    before.Keeps after where
  rest := by rw [hlast.rest, hfirst.rest]
  disk := hlast.disk.trans hfirst.disk
  builtins := hlast.builtins.trans hfirst.builtins
  settings := hlast.settings.trans hfirst.settings
  mentions name := (hlast.mentions name).trans (hfirst.mentions name)

/-! ## One load -/

/-- What only jots something down and leaves the disk alone keeps the world. -/
theorem keeps_of_jotted (hjotted : before.state.Jotted after.state)
    (hdisk : after.disk = before.disk) : before.Keeps after := by
  obtain ⟨journal, hregistry⟩ := registry_of_jotted hjotted
  refine ⟨?_, hdisk, ?_, ?_, fun name => ?_⟩
  · obtain ⟨_, h⟩ := hjotted
    rw [registry, h]
  all_goals
    rw [hregistry]
    rfl

/-- An installation keeps all that the winners of later loads depend on. -/
theorem keeps_install (world : World) (prepared : Prepared) :
    world.Keeps (world.install prepared).1 := by
  have hcases := world.registry.install_cases prepared
  refine ⟨rfl, rfl, ?_, ?_, fun name => Registry.mentions_install⟩ <;>
  · have hinstall : (world.install prepared).1.registry =
        (world.registry.install prepared).1 := rfl
    rw [hinstall]
    rcases hcases with h | h | ⟨_, h⟩ <;>
    · rw [h]
      rfl

/-- A load keeps all that the winners of later loads depend on. -/
theorem keeps_load (world : World) (origin : Origin) : world.Keeps (world.load origin).1 := by
  obtain ⟨middle, hjotted, hdisk, ⟨_, fault, hload⟩ | ⟨provider, _, hload⟩⟩ :=
    world.load_cases origin
  · rw [hload]
    exact keeps_of_jotted hjotted hdisk
  · rw [hload]
    exact (keeps_of_jotted hjotted hdisk).trans (keeps_install middle _)

/-! ## Which loads succeed -/

/-- The code that a load makes a resident module of, if it does. -/
def winner? (world : World) (origin : Origin) : Option Provider :=
  (world.candidate? origin).filter fun provider =>
    Registry.Portrait.shows (world.registry.portrait.additions world.registry.settings
      provider.name (world.registry.layout.staged provider.enrollment.offers))

/-- Where a candidate is about to be installed: only the journal differs. -/
theorem install_readied (hsound : world.registry.Sound) (hjotted : world.state.Jotted middle.state)
    (hcandidate : world.candidate? origin = some provider) :
    middle.registry.Sound ∧ world.registry.Restored middle.registry ∧
      (if (world.winner? origin).isSome then
        middle.registry.install (world.readied origin provider) =
          (middle.registry.accept (world.readied origin provider), .ok middle.registry.nextId)
      else middle.registry.install (world.readied origin provider) =
        (middle.registry.reject (world.readied origin provider),
          .error (.unused provider.name))) := by
  obtain ⟨journal, hmiddle⟩ := registry_of_jotted hjotted
  have hsame : middle.registry.Sound := by
    rw [hmiddle]
    exact hsound.of_tables_eq rfl rfl rfl rfl
  have hrestored : world.registry.Restored middle.registry := by
    rw [hmiddle]
    exact world.registry.restored_withJournal journal
  have hloaded : middle.registry.isLoaded provider.name = false := by
    have hfilter := (Option.filter_eq_some_iff.mp hcandidate).2
    have hfree : world.registry.isLoaded provider.name = false := by
      simpa using (Bool.and_eq_true_iff.mp hfilter).1
    rw [hmiddle]
    exact hfree
  have hshown := hsame.shown_iff (world.readied origin provider)
  have hwinner : (world.winner? origin).isSome =
      Registry.Portrait.shows (world.registry.portrait.additions world.registry.settings
        provider.name (world.registry.layout.staged provider.enrollment.offers)) := by
    rw [winner?, hcandidate, Option.filter_some]
    split <;> simp_all
  have hadditions : middle.registry.portrait.additions middle.registry.settings
      (world.readied origin provider).unit.name (world.readied origin provider).offers =
        world.registry.portrait.additions world.registry.settings provider.name
          (world.registry.layout.staged provider.enrollment.offers) := by
    rw [hrestored.portrait, hmiddle]
    rfl
  rw [hadditions, ← hwinner] at hshown
  refine ⟨hsame, hrestored, ?_⟩
  split
  · next hwins => exact Registry.install_of_shown hloaded (hshown.mpr hwins)
  · next hloses =>
    exact Registry.install_of_unused hloaded (not_not.mp fun hne => hloses (hshown.mp hne))

/-- A load without a winner fails and leaves no trace. -/
theorem load_of_winner_eq_none (hsound : world.registry.Sound)
    (hwinner : world.winner? origin = none) :
    (∃ fault, (world.load origin).2 = .error fault) ∧ world.Restored (world.load origin).1 := by
  have hkeeps := world.keeps_load origin
  obtain ⟨middle, hjotted, _, ⟨_, fault, hload⟩ | ⟨provider, hcandidate, hload⟩⟩ :=
    world.load_cases origin
  · obtain ⟨journal, hmiddle⟩ := registry_of_jotted hjotted
    refine ⟨⟨fault, by rw [hload]⟩, hkeeps, ?_⟩
    rw [hload, hmiddle]
    exact world.registry.restored_withJournal journal
  · obtain ⟨hsame, hrestored, hinstall⟩ := install_readied hsound hjotted hcandidate
    rw [hwinner, if_neg (by simp)] at hinstall
    have hregistry : (world.load origin).1.registry =
        middle.registry.reject (world.readied origin provider) := by
      rw [hload]
      exact congrArg Prod.fst hinstall
    refine ⟨⟨.refused (.unused provider.name), ?_⟩, hkeeps, ?_⟩
    · rw [hload, World.install, hinstall]
      rfl
    · rw [hregistry]
      exact hrestored.trans (hsame.restored_reject _)

/-- A load with a winner succeeds and joins it to the portrait. -/
theorem load_of_winner (hsound : world.registry.Sound)
    (hwinner : world.winner? origin = some provider) :
    (∃ id, (world.load origin).2 = .ok id) ∧ (world.load origin).1.registry.Sound ∧
      (world.load origin).1.registry.portrait = world.registry.portrait.join
        world.registry.settings provider origin
        (world.registry.layout.staged provider.enrollment.offers) := by
  have hcandidate : world.candidate? origin = some provider :=
    (Option.filter_eq_some_iff.mp hwinner).1
  obtain ⟨middle, hjotted, _, ⟨hnone, _⟩ | ⟨found, hfound, hload⟩⟩ := world.load_cases origin
  · rw [hcandidate] at hnone
    cases hnone
  · rw [hcandidate] at hfound
    cases hfound
    obtain ⟨hsame, hrestored, hinstall⟩ := install_readied hsound hjotted hcandidate
    rw [hwinner, if_pos (by simp)] at hinstall
    have hregistry : (world.load origin).1.registry =
        middle.registry.accept (world.readied origin provider) := by
      rw [hload]
      exact congrArg Prod.fst hinstall
    have hsettings : middle.registry.settings = world.registry.settings := by
      obtain ⟨journal, hmiddle⟩ := registry_of_jotted hjotted
      rw [hmiddle]
      rfl
    have hafter : ((middle.registry.install (world.readied origin provider)).1).Sound :=
      hsame.install
    rw [hinstall] at hafter
    refine ⟨⟨middle.registry.nextId, ?_⟩, ?_, ?_⟩
    · rw [hload, World.install, hinstall]
      rfl
    · rw [hregistry]
      exact hafter
    · rw [hregistry, hsame.portrait_accept, hrestored.portrait, hsettings]
      rfl

/-- A load that ends in an error leaves no trace. -/
theorem restored_load (hsound : world.registry.Sound)
    (hfails : (world.load origin).2 = .error fault) : world.Restored (world.load origin).1 := by
  cases hwinner : world.winner? origin with
  | none => exact (load_of_winner_eq_none hsound hwinner).2
  | some provider =>
    obtain ⟨⟨id, hok⟩, _⟩ := load_of_winner hsound hwinner
    rw [hfails] at hok
    cases hok

/-- A load keeps the registry in order. -/
theorem sound_load (hsound : world.registry.Sound) : (world.load origin).1.registry.Sound := by
  obtain ⟨middle, hjotted, _, ⟨_, fault, hload⟩ | ⟨provider, hcandidate, hload⟩⟩ :=
    world.load_cases origin
  · obtain ⟨journal, hmiddle⟩ := registry_of_jotted hjotted
    rw [hload, hmiddle]
    exact hsound.of_tables_eq rfl rfl rfl rfl
  · have hsame := (install_readied hsound hjotted hcandidate).1
    rw [hload]
    exact hsame.install

/-! ## The same load in two worlds -/

/-- In a mirrored world an origin leads to the same code. -/
theorem Mirrors.candidate (hmirrors : left.Mirrors right) (origin : Origin) :
    right.candidate? origin = left.candidate? origin := by
  have hsource : right.source? origin = left.source? origin := by
    cases origin with
    | builtin name =>
      rw [source?, source?, Registry.builtin?, hmirrors.keeps.builtins]
      rfl
    | file path => rw [source?, source?, hmirrors.keeps.disk]
  have hloaded (name : String) : right.registry.isLoaded name = left.registry.isLoaded name := by
    rw [Bool.eq_iff_iff, hmirrors.right.isLoaded_iff, hmirrors.left.isLoaded_iff,
      hmirrors.portrait]
  simp only [candidate?, hsource, hloaded]

/-- What is staged depends on the names that the layout mentions only. -/
theorem staged_of_mentions {layout other : Layout}
    (hmentions : ∀ name, other.mentions name = layout.mentions name)
    (offers : List (Option Offer)) : other.staged offers = layout.staged offers := by
  have hstage : other.stage = layout.stage := by
    funext staged offer
    rw [Layout.stage, Layout.stage, hmentions]
  rw [Layout.staged, Layout.staged, hstage]

/-- In a mirrored world an origin wins with the same code, or fails. -/
theorem Mirrors.winner (hmirrors : left.Mirrors right) (origin : Origin) :
    right.winner? origin = left.winner? origin := by
  simp only [winner?, hmirrors.candidate, hmirrors.portrait, hmirrors.keeps.settings,
    staged_of_mentions hmirrors.keeps.mentions]

/-- A load that succeeds in one world does so in the other, with the same outcome up to
numbers. -/
theorem Mirrors.load (hmirrors : left.Mirrors right)
    (hwinner : left.winner? origin = some provider) :
    (left.load origin).1.Mirrors (right.load origin).1 := by
  have hother : right.winner? origin = some provider := by rw [hmirrors.winner, hwinner]
  obtain ⟨_, hleft, hportraitLeft⟩ := load_of_winner hmirrors.left hwinner
  obtain ⟨_, hright, hportraitRight⟩ := load_of_winner hmirrors.right hother
  refine ⟨?_, ?_, hleft, hright⟩
  · exact ((left.keeps_load origin).symm.trans hmirrors.keeps).trans (right.keeps_load origin)
  · rw [hportraitLeft, hportraitRight, hmirrors.portrait, hmirrors.keeps.settings,
      staged_of_mentions hmirrors.keeps.mentions]

/-- A load that fails in one world need not be made in the other. -/
theorem Mirrors.skip (hmirrors : left.Mirrors right) (hwinner : left.winner? origin = none) :
    (left.load origin).1.Mirrors right := by
  obtain ⟨_, hrestored⟩ := load_of_winner_eq_none hmirrors.left hwinner
  refine ⟨(left.keeps_load origin).symm.trans hmirrors.keeps, ?_, sound_load hmirrors.left,
    hmirrors.right⟩
  rw [hrestored.registry.portrait, hmirrors.portrait]

/-! ## One load after the other -/

/-- What comes of each load when they are made one after the other. -/
def attempts : World → List Origin → List (Origin × Except LoadFault ModuleId)
  | _, [] => []
  | world, origin :: rest =>
      (origin, (world.load origin).2) :: attempts (world.load origin).1 rest

/-- Whether a load succeeded. -/
def succeeded (attempt : Origin × Except LoadFault ModuleId) : Bool :=
  match attempt.2 with
  | .ok _ => true
  | .error _ => false

/-- The origins whose loads succeed when they are made one after the other. -/
def winners (world : World) (origins : List Origin) : List Origin :=
  ((world.attempts origins).filter succeeded).map Prod.fst

/-- A module that loads is counted before the others. -/
theorem loadEach_of_ok {id : ModuleId} {rest : List Origin}
    (hload : (world.load origin).2 = .ok id) : world.loadEach (origin :: rest) =
      (((world.load origin).1.loadEach rest).1,
        ((world.load origin).1.loadEach rest).2.map Nat.succ) := by
  rw [loadEach]
  split
  · next heq => rw [heq]
  · next heq =>
    rw [heq] at hload
    cases hload
  · next heq =>
    rw [heq] at hload
    cases hload

/-- A module that is refused is not counted. -/
theorem loadEach_of_refused {rest : List Origin}
    (hload : (world.load origin).2 = .error (.refused error)) :
    world.loadEach (origin :: rest) = (world.load origin).1.loadEach rest := by
  rw [loadEach]
  split
  · next heq =>
    rw [heq] at hload
    cases hload
  · next heq => rw [heq]
  · next heq =>
    rw [heq] at hload
    cases hload

/-- A module that panics puts an end to the loading. -/
theorem loadEach_of_panicked {rest : List Origin}
    (hload : (world.load origin).2 = .error .panicked) :
    (world.loadEach (origin :: rest)).2 = none := by
  rw [loadEach]
  split
  · next heq =>
    rw [heq] at hload
    cases hload
  · next heq =>
    rw [heq] at hload
    cases hload
  · rfl

/-- An origin that loads is a winner. -/
theorem winners_of_ok {id : ModuleId} {rest : List Origin}
    (hload : (world.load origin).2 = .ok id) :
    world.winners (origin :: rest) = origin :: (world.load origin).1.winners rest := by
  rw [winners, attempts, List.filter_cons_of_pos (by simp [succeeded, hload])]
  rfl

/-- An origin that does not load is no winner. -/
theorem winners_of_error {rest : List Origin} (hload : (world.load origin).2 = .error fault) :
    world.winners (origin :: rest) = (world.load origin).1.winners rest := by
  rw [winners, attempts, List.filter_cons_of_neg (by simp [succeeded, hload])]
  rfl

/-- Some load panics, of those that are made one after the other. -/
def Panics (world : World) (origins : List Origin) : Prop :=
  ∃ attempt ∈ world.attempts origins, attempt.2 = .error .panicked

/-- A row of origins panics at the first one or behind it. -/
theorem panics_cons {rest : List Origin} : world.Panics (origin :: rest) ↔
    (world.load origin).2 = .error .panicked ∨ (world.load origin).1.Panics rest := by
  simp [Panics, attempts]

/-- The loading is put to an end exactly if an origin panics. -/
theorem loadEach_eq_none_iff (origins : List Origin) :
    (world.loadEach origins).2 = none ↔ world.Panics origins := by
  induction origins generalizing world with
  | nil => simp [loadEach, Panics, attempts]
  | cons origin rest ih =>
    rw [panics_cons, ← ih]
    cases hload : (world.load origin).2 with
    | ok id => simp [loadEach_of_ok hload]
    | error fault =>
      cases fault with
      | refused error => simp [loadEach_of_refused hload]
      | panicked => simp [loadEach_of_panicked hload]

/-- Of the loads that are made in one world only those that succeed are made in the other. -/
theorem Mirrors.loadEach {origins : List Origin} {count : Nat} (hmirrors : left.Mirrors right)
    (hcount : (left.loadEach origins).2 = some count) :
    count = (left.winners origins).length ∧
      (right.loadEach (left.winners origins)).2 = some count ∧
      (left.loadEach origins).1.Mirrors (right.loadEach (left.winners origins)).1 := by
  induction origins generalizing left right count with
  | nil =>
    cases hcount
    exact ⟨rfl, rfl, hmirrors⟩
  | cons origin rest ih =>
    cases hwinner : left.winner? origin with
    | some provider =>
      obtain ⟨⟨id, hleft⟩, _⟩ := load_of_winner hmirrors.left hwinner
      obtain ⟨⟨other, hright⟩, _⟩ :=
        load_of_winner hmirrors.right ((hmirrors.winner origin).trans hwinner)
      rw [loadEach_of_ok hleft] at hcount ⊢
      obtain ⟨fewer, hfewer, rfl⟩ := Option.map_eq_some_iff.mp hcount
      obtain ⟨hlength, hagain, halike⟩ := ih (hmirrors.load hwinner) hfewer
      rw [winners_of_ok hleft, loadEach_of_ok hright, hagain, List.length_cons, ← hlength]
      exact ⟨rfl, rfl, halike⟩
    | none =>
      obtain ⟨⟨fault, hleft⟩, _⟩ := load_of_winner_eq_none hmirrors.left hwinner
      cases fault with
      | refused error =>
        rw [loadEach_of_refused hleft] at hcount ⊢
        rw [winners_of_error hleft]
        exact ih (hmirrors.skip hwinner) hcount
      | panicked =>
        rw [loadEach_of_panicked hleft] at hcount
        cases hcount

/-- Loading modules one after the other comes to what loading those alone comes to that succeed,
up to numbers, and they are counted. It comes to no end only if provider code panics. -/
structure Selects (world : World) (origins : List Origin) (loaded : World × Option Nat) : Prop where
  panics : loaded.2 = none ↔ world.Panics origins
  counts : ∀ count, loaded.2 = some count → count = (world.winners origins).length
  alone : ∀ count, loaded.2 = some count →
    (world.loadEach (world.winners origins)).2 = some count
  mirrors : ∀ count, loaded.2 = some count →
    loaded.1.Mirrors (world.loadEach (world.winners origins)).1

/-- To load a row of origins is to load its winners, of which the number is the answer. -/
theorem selects_loadEach (hsound : world.registry.Sound) (origins : List Origin) :
    world.Selects origins (world.loadEach origins) := by
  have hmirrors : world.Mirrors world := ⟨.refl world, rfl, hsound, hsound⟩
  refine ⟨loadEach_eq_none_iff origins, fun count hcount => ?_, fun count hcount => ?_,
    fun count hcount => ?_⟩
  · exact (hmirrors.loadEach hcount).1
  · exact (hmirrors.loadEach hcount).2.1
  · exact (hmirrors.loadEach hcount).2.2

/-- What fails leaves no trace, whether it is a load, the installation of what was prepared, or one
of many loads. -/
structure Rejects (world : World) : Prop where
  load : ∀ origin fault, (world.load origin).2 = .error fault →
    world.Restored (world.load origin).1
  install : ∀ prepared error, (world.install prepared).2 = .error error →
    world.Restored (world.install prepared).1
  builtins : world.Selects (world.registry.builtinNames.map .builtin) world.loadBuiltins
  files : ∀ directory,
    world.Selects ((world.disk.loadableFiles directory).map .file) (world.loadAll directory)

end World

namespace Whole

variable {rules : Permit} {whole : Whole}

/-- Wherever the daemon has come, what fails to load leaves no trace. -/
theorem Reachable.failed_load_restores (hreach : Reachable rules whole) : whole.world.Rejects := by
  have hsound : whole.world.registry.Sound := hreach.balanced.registry
  refine ⟨fun origin fault hfails => World.restored_load hsound hfails, ?_,
    World.selects_loadEach hsound _, fun directory => World.selects_loadEach hsound _⟩
  intro prepared error hfails
  exact ⟨World.keeps_install whole.world prepared, hsound.restored_install hfails⟩

end Whole

/-! ## A module that comes too late -/

namespace Sample

/-- A module with a variable that another module has, and one that runs on every tick. -/
def outpost : Provider :=
  Script.provider
    { name := "outpost"
      offers := [Declared.variableOf "tick" 0 32, Declared.variableOf "door" 0 0]
      methods := []
      hook := none
      openPanics := false
      teardownPanics := false }

/-- The module is on offer while the other one is resident. -/
def outdone : Whole :=
  attended.withWorld (watched.withRegistry (watched.registry.registerBuiltin "outpost" outpost))

/-- The daemon can come to where the name of the outpost's variable is taken. -/
theorem reachable_outdone : Whole.Reachable rules outdone :=
  reachable_attended.step (.outside _ (.provided "outpost" outpost))

end Sample

/-- The variable that runs on every tick was registered under the next number, and is gone. -/
theorem failed_load_restores_outdone :
    (Sample.outdone.world.load (.builtin "outpost")).2 = .error (.refused (.unused "outpost")) ∧
      Sample.outdone.world.Restored (Sample.outdone.world.load (.builtin "outpost")).1 ∧
      Sample.outdone.world.registry.directory.lastId = 1 ∧
      (Sample.outdone.world.load (.builtin "outpost")).1.registry.directory.lastId = 2 := by
  have hrejects := Whole.Reachable.failed_load_restores Sample.reachable_outdone
  have hfails : (Sample.outdone.world.load (.builtin "outpost")).2 =
      .error (.refused (.unused "outpost")) := rfl
  exact ⟨hfails, hrejects.load _ _ hfails, rfl, rfl⟩

end MetricsDaemon
