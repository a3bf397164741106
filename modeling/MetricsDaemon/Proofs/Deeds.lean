import MetricsDaemon.Proofs.Acts
import MetricsDaemon.Proofs.Staging

/-!
# What happens to units

A unit that was opened is held by whoever opened it, until it becomes resident, is torn
down, or is dropped. Opening, initializing, installing and loading are sequences of
deeds, each of which concerns one unit and notes at most one event about it.
-/

namespace MetricsDaemon

open Relation (ReflTransGen)

/-- A unit that somebody holds although it is not resident. -/
inductive Holding where
  | opened (unit : ProviderUnit)
  /-- The initialization of the unit was entered and has not ended. -/
  | initializing (unit : ProviderUnit)
  | prepared (prepared : Prepared)

/-- The registry, the number of the unit that was opened last, and the units that are held. -/
structure Stock where
  registry : Registry
  lastUnit : Nat
  holdings : List Holding

/-- The registry of a world, with the units that are held. -/
def World.stock (world : World) (holdings : List Holding) : Stock :=
  ⟨world.registry, world.lastUnit, holdings⟩

/-- What is held after an attempt to prepare a module. -/
def heldOf : Except LoadFault Prepared → List Holding
  | .ok prepared => [.prepared prepared]
  | .error _ => []

/-- Every offer runs on every tick or is mentioned. -/
def Layout.Worth (layout : Layout) (offers : List Offer) : Prop :=
  ∀ offer ∈ offers, offer.type.cron = true ∨ layout.mentions offer.name = true

namespace Stock

/-- One thing that is done with a unit, or one act on the registry. If initializations are to be
`alone`, one is entered only while no other unit is held and no module of the name is resident. -/
inductive Deed (alone unloads : Bool) : Stock → Stock → Prop where
  | acted {registry after : Registry} {last : Nat} {holdings : List Holding}
      (hact : registry.Act unloads after) :
      Deed alone unloads ⟨registry, last, holdings⟩ ⟨after, last, holdings⟩
  | opened {registry : Registry} {last : Nat} {holdings : List Holding} (provider : Provider) :
      Deed alone unloads ⟨registry, last, holdings⟩
        ⟨registry.note (.opened (ProviderUnit.mk ⟨last + 1⟩ provider).tag), last + 1,
          .opened ⟨⟨last + 1⟩, provider⟩ :: holdings⟩
  | entered {registry : Registry} {last : Nat} {holdings : List Holding} {unit : ProviderUnit}
      (hooked : Bool)
      (halone : alone = true → registry.isLoaded unit.name = false ∧ holdings = []) :
      Deed alone unloads ⟨registry, last, .opened unit :: holdings⟩
        ⟨registry.note (.initEntered unit.tag hooked), last, .initializing unit :: holdings⟩
  | offered {registry : Registry} {last : Nat} {holdings : List Holding} {unit : ProviderUnit}
      (answer : Bool) :
      Deed alone unloads ⟨registry, last, .initializing unit :: holdings⟩
        ⟨registry.note (.offered unit.tag answer), last, .initializing unit :: holdings⟩
  | returned {registry : Registry} {last : Nat} {holdings : List Holding} (prepared : Prepared)
      (hworth : registry.layout.Worth prepared.offers)
      (hmakes : prepared.unit.provider.Makes prepared.offers) :
      Deed alone unloads ⟨registry, last, .initializing prepared.unit :: holdings⟩
        ⟨registry.note (.initReturned prepared.unit.tag), last, .prepared prepared :: holdings⟩
  /-- A unit that is opened only, or whose initialization panicked, is forgotten. -/
  | dropped {registry : Registry} {last : Nat} {holdings : List Holding} {holding : Holding}
      (hloose : ∀ prepared, holding ≠ .prepared prepared) :
      Deed alone unloads ⟨registry, last, holding :: holdings⟩ ⟨registry, last, holdings⟩
  | discarded {registry : Registry} {last : Nat} {holdings : List Holding} (prepared : Prepared) :
      Deed alone unloads ⟨registry, last, .prepared prepared :: holdings⟩
        ⟨registry.tearDown prepared.unit, last, holdings⟩
  | installed {registry : Registry} {last : Nat} {holdings : List Holding}
      (prepared : Prepared) :
      Deed alone unloads ⟨registry, last, .prepared prepared :: holdings⟩
        ⟨(registry.install prepared).1, last, holdings⟩
  | shuffled {registry : Registry} {last : Nat} {holdings other : List Holding}
      (hperm : holdings.Perm other) :
      Deed alone unloads ⟨registry, last, holdings⟩ ⟨registry, last, other⟩

/-- Any number of deeds. -/
abbrev Deeds (alone unloads : Bool) : Stock → Stock → Prop := ReflTransGen (Deed alone unloads)

variable {alone unloads : Bool} {before after : Stock} {registry later : Registry} {last : Nat}
  {holdings : List Holding}

/-- Who may unload modules need not. -/
theorem Deed.weaken (hdeed : Deed alone false before after) : Deed alone unloads before after := by
  cases hdeed with
  | acted hact => exact .acted hact.weaken
  | opened provider => exact .opened provider
  | entered hooked halone => exact .entered hooked halone
  | offered answer => exact .offered answer
  | returned prepared hworth hmakes => exact .returned prepared hworth hmakes
  | dropped hloose => exact .dropped hloose
  | discarded prepared => exact .discarded prepared
  | installed prepared => exact .installed prepared
  | shuffled hperm => exact .shuffled hperm

/-- Deeds that unload nothing are deeds where unloading is allowed. -/
theorem Deeds.weaken (hdeeds : Deeds alone false before after) :
    Deeds alone unloads before after := by
  induction hdeeds with
  | refl => exact .refl
  | tail _ hdeed ih => exact ih.tail hdeed.weaken

/-- Acts on the registry are deeds that leave alone what is held. -/
theorem deeds_of_acts (hacts : registry.Acts unloads later) :
    Deeds alone unloads ⟨registry, last, holdings⟩ ⟨later, last, holdings⟩ := by
  induction hacts with
  | refl => exact .refl
  | tail _ hact ih => exact ih.tail (.acted hact)

/-! ## The layout -/

/-- No deed changes what the layout mentions. -/
theorem Deed.mentions (hdeed : Deed alone unloads before after) (name : String) :
    after.registry.layout.mentions name = before.registry.layout.mentions name := by
  cases hdeed with
  | acted hact => rw [hact.layout]
  | installed prepared => exact Registry.mentions_install
  | _ => rfl

/-- No sequence of deeds changes what the layout mentions. -/
theorem Deeds.mentions (hdeeds : Deeds alone unloads before after) (name : String) :
    after.registry.layout.mentions name = before.registry.layout.mentions name := by
  induction hdeeds with
  | refl => rfl
  | tail _ hdeed ih => exact (hdeed.mentions name).trans ih

/-- What is worth registering stays so. -/
theorem Deeds.worth {offers : List Offer} (hdeeds : Deeds alone unloads before after)
    (hworth : before.registry.layout.Worth offers) : after.registry.layout.Worth offers := by
  intro offer hmem
  rw [hdeeds.mentions]
  exact hworth offer hmem

end Stock

/-! ## Loading -/

namespace World

open Stock (Deeds)

variable {alone unloads : Bool} {world after : World} {origin : Origin} {unit : ProviderUnit}
  {holdings : List Holding} {perform : Performer} {prepared : Prepared} {fault : LoadFault}

/-- Opening a unit is a deed, after which it is held. -/
theorem deeds_openUnit (provider : Provider) :
    Deeds alone unloads (world.stock holdings)
      ((world.openUnit provider).1.stock (.opened (world.openUnit provider).2 :: holdings)) :=
  .single (.opened provider)

/-- A unit that was opened is held. -/
theorem deeds_openOrigin (hopen : world.openOrigin origin = (after, .ok unit)) :
    Deeds alone unloads (world.stock holdings) (after.stock (.opened unit :: holdings)) := by
  cases origin with
  | builtin name =>
    unfold openOrigin at hopen
    dsimp only at hopen
    split at hopen
    · cases hopen
    · next provider _ =>
      split at hopen
      · cases hopen
      · cases hopen
        exact deeds_openUnit provider
  | file path =>
    unfold openOrigin at hopen
    dsimp only at hopen
    split at hopen
    · cases hopen
    · next provider _ =>
      cases hopen
      exact deeds_openUnit provider

/-- Nothing is held of code that did not open. -/
theorem deeds_openOrigin_error (hopen : world.openOrigin origin = (after, .error fault)) :
    Deeds alone unloads (world.stock holdings) (after.stock holdings) := by
  cases origin with
  | builtin name =>
    unfold openOrigin at hopen
    dsimp only at hopen
    split at hopen
    · cases hopen
      exact .refl
    · next provider _ =>
      split at hopen
      · cases hopen
        exact (deeds_openUnit provider).tail (.dropped fun _ h => by cases h)
      · cases hopen
  | file path =>
    unfold openOrigin at hopen
    dsimp only at hopen
    split at hopen
    · cases hopen
      exact .refl
    · cases hopen

/-- Entering the initialization is a deed of a unit that was opened, alone if it has to be. -/
theorem deeds_enterInit
    (halone : alone = true → world.registry.isLoaded unit.name = false ∧ holdings = []) :
    Deeds alone unloads (world.stock (.opened unit :: holdings))
      ((world.enterInit unit).stock (.initializing unit :: holdings)) :=
  .single (.entered _ halone)

/-- Noting what an initialization was answered is a deed. -/
theorem deeds_noteAnswers (answers : List Bool) :
    Deeds alone unloads (world.stock (.initializing unit :: holdings))
      ((world.noteAnswers unit.tag answers).stock (.initializing unit :: holdings)) := by
  induction answers generalizing world with
  | nil => exact .refl
  | cons answer rest ih =>
    have hrest : Deeds alone unloads
        ((world.note (.offered unit.tag answer)).stock (.initializing unit :: holdings))
        (((world.note (.offered unit.tag answer)).noteAnswers unit.tag rest).stock
          (.initializing unit :: holdings)) := ih
    exact .head (.offered answer) hrest

/-- Noting that an initialization returned is a deed, after which a module is prepared. -/
theorem deeds_noteReturn {outcome : Outcome} (prepared : Prepared) (hunit : prepared.unit = unit)
    (hworth : world.registry.layout.Worth prepared.offers)
    (hmakes : unit.provider.Makes prepared.offers) (hreturn : outcome ≠ .panicked) :
    Deeds alone unloads (world.stock (.initializing unit :: holdings))
      ((world.noteReturn unit outcome).stock (.prepared prepared :: holdings)) := by
  subst hunit
  cases outcome with
  | panicked => contradiction
  | ok => exact .single (.returned prepared hworth hmakes)
  | failed reason => exact .single (.returned prepared hworth hmakes)

section Hook

variable {hook : Option Hook}
  (hhook : ∀ hook, unit.provider.enrollment.hook = some hook →
    Deeds alone unloads (world.stock (.initializing unit :: holdings))
      ((performAll perform world hook.actions).1.stock (.initializing unit :: holdings)))

include hhook

/-- What a unit runs while it is initialized are deeds. -/
theorem deeds_runHook : Deeds alone unloads (world.stock (.initializing unit :: holdings))
    ((runHook perform world unit.provider.enrollment.hook).1.stock
      (.initializing unit :: holdings)) := by
  cases hcase : unit.provider.enrollment.hook with
  | none => exact .refl
  | some hook =>
    have hdeeds := hhook hook hcase
    unfold runHook
    dsimp only
    split <;>
    · next heq =>
      rw [heq] at hdeeds
      exact hdeeds

/-- An initialization that returns makes a prepared module of the unit. -/
theorem deeds_finishInit {σ : Type} {register : σ → Offer → σ × Bool} {start reached : σ}
    {outcome : Outcome}
    (hfinish : finishInit perform register start unit world = (after, reached, outcome))
    (hunit : prepared.unit = unit) (hworth : world.registry.layout.Worth prepared.offers)
    (hmakes : unit.provider.Makes prepared.offers) (hreturn : outcome ≠ .panicked) :
    Deeds alone unloads (world.stock (.initializing unit :: holdings))
      (after.stock (.prepared prepared :: holdings)) := by
  have hrun := deeds_runHook hhook
  unfold finishInit at hfinish
  split at hfinish
  · next middle heq =>
    rw [heq] at hrun
    simp only [Prod.mk.injEq] at hfinish
    obtain ⟨rfl, _, rfl⟩ := hfinish
    have hoffered := hrun.trans
      (deeds_noteAnswers (offerAll register start unit.provider.enrollment.offers).2)
    exact hoffered.trans
      (deeds_noteReturn prepared hunit (Deeds.worth hoffered hworth) hmakes hreturn)
  · next middle outcome' _ heq =>
    rw [heq] at hrun
    simp only [Prod.mk.injEq] at hfinish
    obtain ⟨rfl, _, rfl⟩ := hfinish
    exact hrun.trans (deeds_noteReturn prepared hunit (Deeds.worth hrun hworth) hmakes hreturn)

/-- An initialization that panics leaves the unit to be dropped. -/
theorem deeds_finishInit_panicked {σ : Type} {register : σ → Offer → σ × Bool}
    {start reached : σ}
    (hfinish : finishInit perform register start unit world = (after, reached, .panicked)) :
    Deeds alone unloads (world.stock (.initializing unit :: holdings)) (after.stock holdings) := by
  have hrun := deeds_runHook hhook
  have hdrop (middle : World) : Deeds alone unloads
      (middle.stock (.initializing unit :: holdings)) (middle.stock holdings) :=
    .single (.dropped fun _ h => by cases h)
  unfold finishInit at hfinish
  split at hfinish
  · next middle heq =>
    rw [heq] at hrun
    simp only [Prod.mk.injEq] at hfinish
    obtain ⟨rfl, _, hstatus⟩ := hfinish
    have hoffered := hrun.trans
      (deeds_noteAnswers (offerAll register start unit.provider.enrollment.offers).2)
    rw [hstatus]
    exact hoffered.trans (hdrop _)
  · next middle outcome' _ heq =>
    rw [heq] at hrun
    simp only [Prod.mk.injEq] at hfinish
    obtain ⟨rfl, _, rfl⟩ := hfinish
    exact hrun.trans (hdrop _)

/-- A unit whose initialization succeeds is held with its staged offers, one that fails is torn
down, and one that panics is dropped. -/
theorem deeds_stageInit : Deeds alone unloads (world.stock (.initializing unit :: holdings))
    ((stageInit perform origin unit world).1.stock
      (heldOf (stageInit perform origin unit world).2 ++ holdings)) := by
  have hworth : world.registry.layout.Worth
      (world.registry.layout.staged unit.provider.enrollment.offers) :=
    fun offer => Layout.worth_of_mem_staged
  have hmakes : unit.provider.Makes
      (world.registry.layout.staged unit.provider.enrollment.offers) :=
    world.registry.layout.makes_staged unit.provider
  unfold stageInit
  split
  · next middle offers heq =>
    have hoffers := offers_of_finishInit heq
    subst hoffers
    exact deeds_finishInit hhook heq rfl hworth hmakes (by simp)
  · next middle offers reason heq =>
    have hreturned : Deeds alone unloads (world.stock (.initializing unit :: holdings))
        (middle.stock (.prepared ⟨unit, origin, []⟩ :: holdings)) :=
      deeds_finishInit hhook heq rfl (fun _ h => by cases h) (fun _ h => by cases h) (by simp)
    exact hreturned.tail (.discarded _)
  · next middle offers heq => exact deeds_finishInit_panicked hhook heq

end Hook

/-- An attempt to prepare a module leaves it prepared or leaves nothing of it. -/
theorem deeds_prepare (checked : Bool)
    (halone : alone = true → checked = true ∧ holdings = [])
    (hhook : ∀ middle unit hook, world.openOrigin origin = (middle, .ok unit) →
      unit.provider.enrollment.hook = some hook →
      Deeds alone unloads ((middle.enterInit unit).stock (.initializing unit :: holdings))
        ((performAll perform (middle.enterInit unit) hook.actions).1.stock
          (.initializing unit :: holdings))) :
    Deeds alone unloads (world.stock holdings)
      ((world.prepare perform checked origin).1.stock
        (heldOf (world.prepare perform checked origin).2 ++ holdings)) := by
  unfold prepare
  split
  · next hopen => exact deeds_openOrigin_error hopen
  · next middle unit hopen =>
    have hopened : Deeds alone unloads (world.stock holdings)
        (middle.stock (.opened unit :: holdings)) := deeds_openOrigin hopen
    split
    · exact hopened.tail (.dropped fun _ h => by cases h)
    · next hchecked =>
      have hfree : alone = true → middle.registry.isLoaded unit.name = false ∧ holdings = [] := by
        intro h
        obtain ⟨rfl, hnobody⟩ := halone h
        exact ⟨by simpa using hchecked, hnobody⟩
      exact (hopened.trans (deeds_enterInit hfree)).trans
        (deeds_stageInit fun hook => hhook middle unit hook hopen)

/-- What is done while the registry is held leaves the registry and what is held alone. -/
theorem stock_performAll_held (actions : List Action) :
    (performAll performHeld world actions).1.stock holdings = world.stock holdings := by
  rw [stock, registry, state_performAll_held, lastUnit_performAll_held]
  rfl

/-- Loading a module while the state is held leaves nothing to be held. -/
theorem deeds_load (halone : alone = true → holdings = []) :
    Deeds alone unloads (world.stock holdings) ((world.load origin).1.stock holdings) := by
  have hprepare : Deeds alone unloads (world.stock holdings)
      ((world.prepare performHeld true origin).1.stock
        (heldOf (world.prepare performHeld true origin).2 ++ holdings)) := by
    refine deeds_prepare true (fun h => ⟨rfl, halone h⟩) fun middle unit hook _ _ => ?_
    rw [stock_performAll_held]
  unfold load
  split
  · next heq =>
    rw [heq] at hprepare
    exact hprepare
  · next middle prepared heq =>
    rw [heq] at hprepare
    exact hprepare.tail (.installed prepared)

end World

end MetricsDaemon
