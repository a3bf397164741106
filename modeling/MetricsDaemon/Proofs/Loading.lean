import MetricsDaemon.Proofs.Additions

/-!
# Loading while the state is held

What a load comes to can be told beforehand: whether the origin leads to code that opens,
whether a module of its name is resident, and how its initialization ends. Only the
journal changes until the module is installed, and neither the files nor the built-in
modules change at all.
-/

namespace MetricsDaemon

open Relation (ReflTransGen)

/-- The registry with another journal. -/
def Registry.withJournal (registry : Registry) (journal : Journal) : Registry :=
  { registry with journal := journal }

/-- Nothing but the journal differs. -/
def State.Jotted (before after : State) : Prop :=
  ∃ journal, after = { before with registry := before.registry.withJournal journal }

/-- To jot something down any number of times is to jot down. -/
theorem State.Jotted.of_reaches {before after : State}
    (hreaches : ReflTransGen State.Jotted before after) : before.Jotted after := by
  induction hreaches with
  | refl => exact ⟨before.registry.journal, rfl⟩
  | tail _ hlast ih =>
    obtain ⟨_, rfl⟩ := ih
    obtain ⟨journal, rfl⟩ := hlast
    exact ⟨journal, rfl⟩

/-- To note an event is to jot it down. -/
theorem State.jotted_note (state : State) (event : Event) :
    state.Jotted { state with registry := state.registry.note event } :=
  ⟨event :: state.registry.journal, rfl⟩

/-- Whether an entry point ends well. -/
def Outcome.isOk : Outcome → Bool
  | .ok => true
  | _ => false

/-- An initialization goes well if it ends so. -/
theorem Outcome.isOk_iff {outcome : Outcome} : outcome.isOk = true ↔ outcome = .ok := by
  cases outcome <;> simp [isOk]

/-- How a hook ends if nobody interferes. -/
def Hook.ending (hook : Option Hook) : Outcome := hook.elim .ok Hook.outcome

/-- Whether the initialization comes to a good end if nobody interferes. -/
def Provider.starts (provider : Provider) : Bool :=
  (Hook.ending provider.enrollment.hook).isOk && provider.enrollment.status.isOk

namespace World

variable {world middle after : World} {origin : Origin} {unit : ProviderUnit} {provider : Provider}
  {actions : List Action}

/-! ## The code of an origin -/

/-- The code that an origin leads to, if it opens. -/
def source? (world : World) : Origin → Option Provider
  | .builtin name => (world.registry.builtin? name).filter fun provider => !provider.openPanics
  | .file path => (world.disk.findProvider path).toOption

/-- Code that is found is opened under the next number. -/
theorem openOrigin_of_source (hsource : world.source? origin = some provider) :
    world.openOrigin origin =
      ((world.openUnit provider).1, .ok ⟨⟨world.lastUnit + 1⟩, provider⟩) := by
  cases origin with
  | builtin name =>
    obtain ⟨hbuiltin, hopens⟩ := Option.filter_eq_some_iff.mp hsource
    have hquiet : provider.openPanics = false := by simpa using hopens
    unfold openOrigin
    simp only [hbuiltin, hquiet]
    rfl
  | file path =>
    have hfind : world.disk.findProvider path = .ok provider := by
      have hfile : (world.disk.findProvider path).toOption = some provider := hsource
      cases hcase : world.disk.findProvider path with
      | error error =>
        rw [hcase] at hfile
        cases hfile
      | ok found =>
        rw [hcase] at hfile
        cases hfile
        rfl
    unfold openOrigin
    simp only [hfind]
    rfl

/-- Where no code is found nothing is opened. -/
theorem openOrigin_of_source_eq_none (hsource : world.source? origin = none) :
    ∃ fault, (world.openOrigin origin).2 = .error fault := by
  cases origin with
  | builtin name =>
    unfold openOrigin
    dsimp only
    split
    · exact ⟨_, rfl⟩
    · next provider hbuiltin =>
      have hpanics : provider.openPanics = true := by
        have hnone : (world.registry.builtin? name).filter
            (fun provider => !provider.openPanics) = none := hsource
        rw [hbuiltin] at hnone
        simpa [Option.filter] using hnone
      exact ⟨.panicked, by simp [hpanics]⟩
  | file path =>
    unfold openOrigin
    dsimp only
    split
    · exact ⟨_, rfl⟩
    · next provider hfind =>
      have hnone : (world.disk.findProvider path).toOption = none := hsource
      rw [hfind] at hnone
      cases hnone

/-- Whoever opens an origin found its code. -/
theorem source_of_openOrigin (hopen : world.openOrigin origin = (after, .ok unit)) :
    world.source? origin = some unit.provider := by
  cases hsource : world.source? origin with
  | none =>
    obtain ⟨fault, hfault⟩ := openOrigin_of_source_eq_none hsource
    rw [hopen] at hfault
    cases hfault
  | some provider =>
    rw [openOrigin_of_source hsource] at hopen
    cases hopen
    rfl

/-! ## What stays the same -/

/-- Actions leave the disk as it is. -/
theorem disk_performAll_held (world : World) (actions : List Action) :
    (performAll performHeld world actions).1.disk = world.disk := by
  induction actions generalizing world with
  | nil => rfl
  | cons action rest ih =>
    cases world
    cases action <;> exact ih _

/-- While the state is held, no action panics. -/
theorem performAll_held_snd (world : World) (actions : List Action) :
    (performAll performHeld world actions).2 = true := by
  induction actions generalizing world with
  | nil => rfl
  | cons action rest ih =>
    obtain ⟨middle, hperform, _, _⟩ := performHeld_eq world action
    rw [performAll, hperform]
    exact ih middle

/-- Under the lock a hook leaves the disk as it is and ends as it would anyway. -/
theorem runHook_held (world : World) (hook : Option Hook) :
    (runHook performHeld world hook).1.disk = world.disk ∧
      (runHook performHeld world hook).2 = Hook.ending hook := by
  cases hook with
  | none => exact ⟨rfl, rfl⟩
  | some hook =>
    have hdisk := disk_performAll_held world hook.actions
    have hnone := performAll_held_snd world hook.actions
    unfold runHook
    dsimp only
    split
    · next heq =>
      rw [heq] at hdisk
      exact ⟨hdisk, rfl⟩
    · next heq =>
      rw [heq] at hnone
      cases hnone

/-- To note answers leaves the disk as it is. -/
theorem disk_noteAnswers (world : World) (tag : UnitTag) (answers : List Bool) :
    (world.noteAnswers tag answers).disk = world.disk := by
  induction answers generalizing world with
  | nil => rfl
  | cons answer rest ih => exact ih _

/-- To note a return leaves the disk as it is. -/
theorem disk_noteReturn (world : World) (unit : ProviderUnit) (outcome : Outcome) :
    (world.noteReturn unit outcome).disk = world.disk := by
  cases outcome <;> rfl

/-- An initialization leaves the disk as it is. -/
theorem disk_finishInit {σ : Type} (register : σ → Offer → σ × Bool) (start : σ)
    (unit : ProviderUnit) (world : World) :
    (finishInit performHeld register start unit world).1.disk = world.disk := by
  have hrun := (runHook_held world unit.provider.enrollment.hook).1
  unfold finishInit
  split
  · next heq =>
    rw [heq] at hrun
    rw [disk_noteReturn, disk_noteAnswers, hrun]
  · next heq =>
    rw [heq] at hrun
    rw [disk_noteReturn, hrun]

/-- Staging leaves the disk as it is. -/
theorem disk_stageInit (origin : Origin) (unit : ProviderUnit) (world : World) :
    (stageInit performHeld origin unit world).1.disk = world.disk := by
  have hfinish := disk_finishInit world.registry.layout.stage [] unit world
  unfold stageInit
  split <;>
  · next heq =>
    rw [heq] at hfinish
    exact hfinish

/-- To open a module leaves the disk as it is. -/
theorem disk_openOrigin (world : World) (origin : Origin) :
    (world.openOrigin origin).1.disk = world.disk := by
  cases origin <;>
  · unfold openOrigin
    dsimp only
    split <;> rfl

/-- To prepare a module leaves the disk as it is. -/
theorem disk_prepare (checked : Bool) (origin : Origin) (world : World) :
    (world.prepare performHeld checked origin).1.disk = world.disk := by
  have hopen := world.disk_openOrigin origin
  unfold prepare
  split
  · next heq =>
    rw [heq] at hopen
    exact hopen
  · next middle unit heq =>
    rw [heq] at hopen
    split
    · exact hopen
    · exact (disk_stageInit origin unit (middle.enterInit unit)).trans hopen

/-- Under the lock to prepare a module only jots down what happens. -/
theorem jotted_prepare (world : World) (origin : Origin) :
    world.state.Jotted (world.prepare performHeld true origin).1.state :=
  .of_reaches (reaches_prepare_held State.jotted_note true)

/-! ## What is prepared -/

/-- The code that an origin leads to, if a module can be made of it. -/
def candidate? (world : World) (origin : Origin) : Option Provider :=
  (world.source? origin).filter fun provider =>
    !world.registry.isLoaded provider.name && provider.starts

/-- The module that is made of a candidate. -/
def readied (world : World) (origin : Origin) (provider : Provider) : Prepared :=
  ⟨⟨⟨world.lastUnit + 1⟩, provider⟩, origin,
    world.registry.layout.staged provider.enrollment.offers⟩

/-- Under the lock an initialization goes well exactly if the code starts. -/
theorem finishInit_held {σ : Type} (register : σ → Offer → σ × Bool) (start : σ)
    (unit : ProviderUnit) (world : World) :
    (finishInit performHeld register start unit world).2.2 = .ok ↔
      unit.provider.starts = true := by
  have hrun := (runHook_held world unit.provider.enrollment.hook).2
  rw [Provider.starts, Bool.and_eq_true, Outcome.isOk_iff, Outcome.isOk_iff]
  unfold finishInit
  split
  · next heq =>
    rw [heq] at hrun
    have hending : Hook.ending unit.provider.enrollment.hook = .ok := hrun.symm
    simp only [hending, true_and]
  · next outcome hnot heq =>
    rw [heq] at hrun
    have hending : Hook.ending unit.provider.enrollment.hook = outcome := hrun.symm
    have hbad : outcome ≠ .ok := hnot
    simp only [hending, hbad, false_and]

/-- An initialization stages its offers if it comes to a good end, and else nothing. -/
theorem toOption_stageInit (origin : Origin) (unit : ProviderUnit) (world : World) :
    (stageInit performHeld origin unit world).2.toOption =
      if unit.provider.starts then
        some ⟨unit, origin, world.registry.layout.staged unit.provider.enrollment.offers⟩
      else none := by
  have hstarts := finishInit_held world.registry.layout.stage [] unit world
  unfold stageInit
  split
  · next middle offers heq =>
    rw [heq] at hstarts
    rw [if_pos (hstarts.mp rfl), ← offers_of_finishInit heq]
    rfl
  · next heq =>
    rw [heq] at hstarts
    rw [if_neg fun hgood => Outcome.noConfusion (hstarts.mpr hgood)]
    rfl
  · next heq =>
    rw [heq] at hstarts
    rw [if_neg fun hgood => Outcome.noConfusion (hstarts.mpr hgood)]
    rfl

/-- A module whose code is found is prepared, unless its name is loaded already. -/
theorem prepare_of_source (hsource : world.source? origin = some provider) :
    world.prepare performHeld true origin =
      if world.registry.isLoaded provider.name then
        ((world.openUnit provider).1, .error (.refused (.alreadyLoaded provider.name)))
      else stageInit performHeld origin ⟨⟨world.lastUnit + 1⟩, provider⟩
        ((world.openUnit provider).1.enterInit ⟨⟨world.lastUnit + 1⟩, provider⟩) := by
  rw [prepare, openOrigin_of_source hsource]
  rfl

/-- A module whose code is not found is not prepared. -/
theorem prepare_of_source_eq_none (hsource : world.source? origin = none) :
    (world.prepare performHeld true origin).2.toOption = none := by
  obtain ⟨fault, hfault⟩ := openOrigin_of_source_eq_none hsource
  unfold prepare
  split
  · rfl
  · next heq =>
    rw [heq] at hfault
    cases hfault

/-- A load prepares the candidate of its origin, and nothing if there is none. -/
theorem toOption_prepare (world : World) (origin : Origin) :
    (world.prepare performHeld true origin).2.toOption =
      (world.candidate? origin).map (world.readied origin) := by
  unfold candidate?
  cases hsource : world.source? origin with
  | none => exact prepare_of_source_eq_none hsource
  | some provider =>
    rw [prepare_of_source hsource, Option.filter_some]
    cases hresident : world.registry.isLoaded provider.name with
    | true => rfl
    | false =>
      rw [if_neg Bool.false_ne_true, toOption_stageInit]
      cases provider.starts <;> rfl

/-! ## What a load comes to -/

/-- What only jots something down leaves all of the registry but the journal. -/
theorem registry_of_jotted (hjotted : world.state.Jotted middle.state) :
    ∃ journal, middle.registry = world.registry.withJournal journal := by
  obtain ⟨journal, h⟩ := hjotted
  refine ⟨journal, ?_⟩
  rw [registry, h]
  rfl

/-- What a load comes to: nothing was prepared, or the candidate of the origin is installed. -/
theorem load_cases (world : World) (origin : Origin) :
    ∃ middle, world.state.Jotted middle.state ∧ middle.disk = world.disk ∧
      ((world.candidate? origin = none ∧
          ∃ fault, world.load origin = (middle, .error fault)) ∨
        ∃ provider, world.candidate? origin = some provider ∧
          world.load origin = ((middle.install (world.readied origin provider)).1,
            faultOf (middle.install (world.readied origin provider)).2)) := by
  have hjotted := world.jotted_prepare origin
  have hdisk := disk_prepare true origin world
  have hprepared := world.toOption_prepare origin
  refine ⟨(world.prepare performHeld true origin).1, hjotted, hdisk, ?_⟩
  unfold load
  split
  · next middle fault heq =>
    left
    rw [heq] at hprepared ⊢
    exact ⟨Option.map_eq_none_iff.mp hprepared.symm, fault, rfl⟩
  · next middle prepared heq =>
    right
    rw [heq] at hprepared ⊢
    obtain ⟨provider, hcandidate, hreadied⟩ := Option.map_eq_some_iff.mp hprepared.symm
    refine ⟨provider, hcandidate, ?_⟩
    rw [hreadied]

end World

end MetricsDaemon
