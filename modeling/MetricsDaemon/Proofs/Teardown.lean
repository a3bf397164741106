import MetricsDaemon.Proofs.Lineage

/-!
# The end of units

A method that is bound is one of the unit of the variable's module. While a tick is in
flight nothing is unloaded, so the units whose methods it is going to call stay resident
until it lands, and no code of a unit runs after the unit was torn down. A shutdown
while nobody holds a unit tears down whatever was initialized and is left, each unit
once, and leaves nothing behind.
-/

namespace MetricsDaemon

open Stock (Deed Deeds)

/-! ## What is resident -/

namespace Stock

variable {alone unloads : Bool} {before after : Stock} {tag : UnitTag}

/-- As long as nothing is unloaded, what is resident stays. -/
theorem Deed.residents_le (hdeed : Deed alone false before after)
    (hsound : before.registry.Sound) :
    before.registry.residents tag ≤ after.registry.residents tag := by
  cases hdeed with
  | acted hact =>
    cases hact with
    | counted id change => exact Nat.le_of_eq Registry.residents_recount.symm
    | bound hvariable hmodule => exact Nat.le_of_eq Registry.residents_bind.symm
    | provided | sampled => exact Nat.le_refl _
    | unloaded id hmay => cases hmay
  | @installed registry last holdings prepared =>
    rcases registry.install_cases prepared with h | h | ⟨_, h⟩
    · rw [h]
      exact Nat.le_refl _
    · rw [h]
      exact Nat.le_refl _
    · rw [h, Registry.residents_accept hsound]
      exact Nat.le_add_right _ _
  | _ => exact Nat.le_refl _

/-- Without unloading, a unit that is resident stays so. -/
theorem Deeds.residents_le (hdeeds : Deeds alone false before after)
    (hbalanced : before.Balanced) :
    before.registry.residents tag ≤ after.registry.residents tag := by
  induction hdeeds with
  | refl => exact Nat.le_refl _
  | tail hdeeds hdeed ih =>
    exact Nat.le_trans ih (hdeed.residents_le (hbalanced.deeds hdeeds).registry)

end Stock

/-! ## While a tick is in flight -/

namespace Whole

variable {rules : Permit} {whole after : Whole} {flight : Flight} {job : Job}

/-- A flight was there before a step with the same plan, or it was planned in it. -/
theorem Step.flight_cases (hstep : Step rules whole after)
    (hflight : after.run.flight = some flight) :
    (∃ earlier, whole.run.flight = some earlier ∧ earlier.plan = flight.plan) ∨
      after.run = whole.run.takeOff := by
  cases hstep with
  | plan hidle => exact .inr rfl
  | call hearlier hjob =>
    cases hflight
    exact .inl ⟨_, hearlier, rfl⟩
  | apply | abandon => cases hflight
  | _ => exact .inl ⟨flight, hflight, rfl⟩

/-- The units whose methods a tick is going to call are resident when it was planned. -/
theorem Reachable.residents_planned (hreach : Reachable rules whole)
    (hstep : Step rules whole after) (htakeOff : after.run = whole.run.takeOff)
    (hflight : after.run.flight = some flight) (hjob : job ∈ flight.plan.jobs) :
    0 < after.world.registry.residents job.callable.owner := by
  have hstemming := (hreach.step hstep).stemming
  rw [htakeOff] at hflight
  cases hflight
  have hcollects : whole.run.world.state.Collects
      ((whole.run.world.state.plan whole.run.world.host.now).1,
        (whole.run.world.state.plan whole.run.world.host.now).2.jobs) :=
    State.collects_plan hreach.sound.booked.modules.directory
  obtain ⟨variable_, hvariable, hready, _⟩ := hcollects.ready job hjob
  have hregistry : after.world.registry =
      (whole.run.world.state.plan whole.run.world.host.now).1.registry := by
    rw [Whole.world, htakeOff]
    rfl
  rw [hregistry] at hstemming ⊢
  obtain ⟨module_, hmodule, hstems⟩ := hstemming job.variable_ variable_ hvariable
  rw [(ProviderUnit.owner_of_resolve (hstems.resolve_of_ready hready)).1]
  exact Registry.residents_pos hmodule

/-- If nothing is unloaded while a tick is in flight, the units whose methods it is going to call
are resident until it lands. -/
theorem Reachable.residents_flight (hreach : Reachable rules whole)
    (hunloads : rules.unloads = false) (hflight : whole.run.flight = some flight)
    (hjob : job ∈ flight.plan.jobs) :
    0 < whole.world.registry.residents job.callable.owner := by
  induction hreach generalizing flight with
  | start => cases hflight
  | @step whole after hreach hstep ih =>
    rcases hstep.flight_cases hflight with ⟨earlier, hearlier, hplan⟩ | htakeOff
    · rw [← hplan] at hjob
      have hbefore := ih hearlier hjob
      rcases hreach.deeds hstep with ⟨_, _, _, _, rfl⟩ | ⟨unloads, hrule, hdeeds⟩
      · exact hbefore
      · have hnever : unloads = false := by rw [hrule (by rw [hflight]; rfl), hunloads]
        subst hnever
        exact Nat.lt_of_lt_of_le hbefore (hdeeds.residents_le hreach.balanced)
    · exact hreach.residents_planned hstep htakeOff hflight hjob

/-- Where nothing is unloaded during a tick, no unit that a planned job calls has been torn down. -/
theorem Reachable.not_tornDown_flight (hreach : Reachable rules whole)
    (hunloads : rules.unloads = false) (hflight : whole.run.flight = some flight)
    (hjob : job ∈ flight.plan.jobs) :
    .tornDown job.callable.owner ∉ whole.world.registry.journal := by
  have hfair := hreach.balanced.fair job.callable.owner
  have hpos := hreach.residents_flight hunloads hflight hjob
  exact hfair.not_tornDown (.inr (.inr (.inr (.inr hpos))))

/-- Where nothing is unloaded during a tick, a unit that was torn down takes part in nothing any
more. -/
theorem Reachable.final (hreach : Reachable rules whole) (hunloads : rules.unloads = false) :
    whole.world.registry.journal.Final := by
  induction hreach with
  | start world layout settings hstate =>
    have hnone : world.state.registry.journal = [] := by
      rw [hstate]
      rfl
    rw [Whole.world, World.registry, hnone]
    exact .nil
  | @step whole after hreach hstep ih =>
    rcases hreach.deeds hstep with ⟨flight, job, hflight, hjob, rfl⟩ | ⟨unloads, _, hdeeds⟩
    · exact ih.cons (hreach.not_tornDown_flight hunloads hflight (List.mem_of_getElem? hjob))
    · exact hreach.balanced.final_deeds ih hdeeds

/-- No code of a unit runs after the unit was torn down, if nothing is unloaded while a tick is in
flight: every event since then is about another unit. In particular the units whose methods the
tick in flight is going to call are not torn down before it lands. -/
theorem Reachable.no_event_after_tornDown (hreach : Reachable rules whole)
    (hunloads : rules.unloads = false) :
    (∀ newer older tag, whole.world.registry.journal = newer ++ .tornDown tag :: older →
      ∀ event ∈ newer, event.unit ≠ tag) ∧
    ∀ flight, whole.run.flight = some flight → ∀ job ∈ flight.plan.jobs,
      .tornDown job.callable.owner ∉ whole.world.registry.journal := by
  constructor
  · rintro newer older tag hjournal event hmem rfl
    have hfinal := hreach.final hunloads
    rw [hjournal, Journal.Final, List.pairwise_append] at hfinal
    exact hfinal.2.2 event hmem _ List.mem_cons_self rfl
  · intro flight hflight job hjob
    exact hreach.not_tornDown_flight hunloads hflight hjob

end Whole

/-- The module whose only subscriber leaves during the tick is still there when its code is called,
and is torn down when the tick lands. What comes afterwards is about the unit of the second load. -/
theorem no_event_after_tornDown_again :
    (∃ flight job, Sample.deserted.run.flight = some flight ∧ job ∈ flight.plan.jobs ∧
      .tornDown job.callable.owner ∉ Sample.deserted.world.registry.journal) ∧
    ∃ tag newer older, Sample.again.world.registry.journal = newer ++ .tornDown tag :: older ∧
      .invoked tag "door" .none ∈ older ∧ newer.length = 4 ∧ ∀ event ∈ newer, event.unit ≠ tag := by
  have hjob : Sample.job ∈ Sample.start.plan.jobs := by
    with_unfolding_all exact List.mem_singleton_self _
  have hfirst := Whole.Reachable.no_event_after_tornDown Sample.reachable_deserted rfl
  have hlast := Whole.Reachable.no_event_after_tornDown Sample.reachable_again rfl
  have hjournal : Sample.again.world.registry.journal =
      Sample.again.world.registry.journal.take 4 ++ .tornDown Sample.job.callable.owner ::
        Sample.again.world.registry.journal.drop 5 := by with_unfolding_all rfl
  refine ⟨⟨Sample.start, Sample.job, rfl, hjob, hfirst.2 _ rfl _ hjob⟩, Sample.job.callable.owner,
    _, _, hjournal, ?_, ?_, hlast.1 _ _ _ hjournal⟩
  · decide +kernel
  · with_unfolding_all rfl

/-! ## Shutting down -/

namespace State

/-- Nothing is left: no connection, no subscription, no module and no variable, and neither index
leads anywhere. -/
structure Bare (state : State) : Prop where
  connections : state.connections = .empty
  subscriptions : state.subscriptions.entries = .empty
  modules : state.registry.modules = .empty
  moduleNames : state.registry.byName = .empty
  registered : state.directory.entries = .empty
  variableNames : state.directory.byName = .empty

variable {state : State} {forced : Bool}

/-- Nothing is left after the shutdown of a sound state. -/
theorem Sound.bare_shutdown (hsound : state.Sound forced) : state.shutdown.Bare := by
  have hregistry := hsound.shutdown.booked.modules
  have hemptied : state.emptied.registry.Sound :=
    (booked_unsubscribeAll _ (hsound.forgetAll state.connections.keys).booked).modules
  have hmodules (id : ModuleId) : state.shutdown.registry.get? id = none :=
    hemptied.get?_unloadEvery
  have hvariables (id : VariableId) : state.shutdown.directory.get? id = none := by
    cases hget : state.shutdown.directory.get? id with
    | none => rfl
    | some variable_ =>
      obtain ⟨module_, hmodule, _⟩ := hregistry.owner hget
      rw [hmodules] at hmodule
      cases hmodule
  constructor
  · exact Table.eq_empty fun _ => get?_connections_emptied
  · exact Table.eq_empty fun _ => hsound.get?_subscriptions_emptied
  · exact Table.eq_empty hmodules
  · refine Table.eq_empty fun key => Option.eq_none_iff_forall_ne_some.mpr fun id hname => ?_
    obtain ⟨module_, hmodule, _⟩ := hregistry.named.mp hname
    rw [hmodules] at hmodule
    cases hmodule
  · exact Table.eq_empty hvariables
  · refine Table.eq_empty fun name => Option.eq_none_iff_forall_ne_some.mpr fun id hname => ?_
    obtain ⟨variable_, hvariable, _⟩ := hregistry.directory.named.mp hname
    have hnone : state.shutdown.registry.directory.get? id = none := hvariables id
    exact absurd (hvariable.symm.trans hnone) nofun

end State

/-- Every unit whose initialization returned was torn down once, and no other unit was. -/
def Journal.Closed (journal : Journal) : Prop :=
  ∀ tag, journal.teardowns tag = if .initReturned tag ∈ journal then 1 else 0

/-- The accounts are closed once no module is resident and nobody holds a unit. -/
theorem Stock.Balanced.closed {stock : Stock} (hbalanced : stock.Balanced)
    (hmodules : stock.registry.modules = .empty) (hholdings : stock.holdings = []) :
    stock.registry.journal.Closed := by
  intro tag
  obtain ⟨_, hopened, hentered, hreturned, hsettled⟩ := hbalanced.fair tag
  have hresidents : stock.registry.residents tag = 0 := by
    rw [Registry.residents, hmodules]
    rfl
  have hresting : Holding.resting stock.holdings tag = 0 := by
    rw [hholdings]
    rfl
  split
  · next hmem =>
    have hpos : 0 < stock.registry.journal.returns tag := List.count_pos_iff.mpr hmem
    omega
  · next hnot =>
    have hnone : stock.registry.journal.returns tag = 0 := List.count_eq_zero.mpr hnot
    omega

/-- A shutdown while no load is past the gate and nothing waits on the shelf closes the accounts:
each unit whose initialization returned was torn down exactly once, in whatever way it left, and no
other unit ever was. Nothing is left in the state. -/
theorem Whole.Reachable.shutdown_tears_down_once {rules : Permit} {whole : Whole}
    (hreach : Reachable rules whole) (hungated : whole.isUngated = true)
    (hshelf : whole.shelf = []) :
    whole.world.shutdown.registry.journal.Closed ∧ whole.world.shutdown.state.Bare := by
  have hbare : whole.world.shutdown.state.Bare := hreach.sound.bare_shutdown
  have hholdings : whole.stock.holdings = [] := held_eq_nil hungated hshelf
  have hstopped : whole.world.state.Acted true whole.world.shutdown.state := State.acted_shutdown
  have hdeeds : Deeds false true whole.stock (whole.world.shutdown.stock whole.held) :=
    Stock.deeds_of_acts hstopped.registry
  exact ⟨(hreach.balanced.deeds hdeeds).closed hbare.modules hholdings, hbare⟩

namespace Sample

/-- A module that stays for ever once it is resident, and panics when it is torn down. -/
def tower : Provider :=
  Script.provider
    { name := "tower"
      offers := [Declared.variableOf "bell" 0 0, Declared.variableOf "pulse" 0 32]
      methods := [("bell", .none, .sequence [⟨[], some (.text "rings")⟩])]
      hook := none
      openPanics := false
      teardownPanics := true }

/-- A module whose initialization fails. -/
def annex : Provider := Script.provider ⟨"annex", [], [], some ⟨[], .failed "closed"⟩, false, false⟩

/-- A module whose initialization panics. -/
def cellar : Provider := Script.provider ⟨"cellar", [], [], some ⟨[], .panicked⟩, false, false⟩

/-- The world after a module was made available and loaded. -/
def supply (world : World) (provider : Provider) : World :=
  ((world.withRegistry (world.registry.registerBuiltin provider.name provider)).load
    (.builtin provider.name)).1

/-- The state with one connection. -/
def visited : State :=
  ({ empty.world.state with lastConnection := 1 }.reconnect ⟨1⟩ Outbox.defaultCapacity).1

/-- The world after the three modules were loaded. -/
def supplied : World := supply (supply (supply (empty.world.withState visited) tower) annex) cellar

/-- A daemon with one subscriber on the module that stays. -/
def crowded : Whole :=
  ⟨⟨supplied.withState (supplied.state.subscribe ⟨⟨1⟩, "a", "bell", none, false⟩).1, none, []⟩,
    [], []⟩

/-- Nobody loads anything on demand, so a module may be supplied. -/
theorem moves_supply {permit : Permit} (world : World) (provider : Provider) :
    World.Moves (Whole.permit permit ⟨⟨world, none, []⟩, [], []⟩) world
      (supply world provider) := by
  have hloads : (Whole.permit permit ⟨⟨world, none, []⟩, [], []⟩).loads = true := by
    simp [Whole.permit, Whole.isUngated]
  have hprovided : World.Moves (Whole.permit permit ⟨⟨world, none, []⟩, [], []⟩) world
      (world.withRegistry (world.registry.registerBuiltin provider.name provider)) :=
    .single (.provided provider.name provider)
  exact hprovided.tail (.loaded (.builtin provider.name) hloads)

/-- From a daemon that was reached, the one with one more module loaded is reached. -/
theorem reachable_supply {permit : Permit} {world : World} (provider : Provider)
    (hreach : Whole.Reachable permit ⟨⟨world, none, []⟩, [], []⟩) :
    Whole.Reachable permit ⟨⟨supply world provider, none, []⟩, [], []⟩ :=
  hreach.outside (moves_supply world provider)

/-- The daemon comes to where it has one subscriber on the module that stays. -/
theorem reachable_crowded : Whole.Reachable rules crowded := by
  have hstart : Whole.Reachable rules ⟨empty, [], []⟩ := .start _ .everything .default rfl
  have hvisited : Whole.Reachable rules ⟨⟨empty.world.withState visited, none, []⟩, [], []⟩ :=
    hstart.step (.outside _ (.connected ⟨1⟩ 1 Outbox.defaultCapacity rfl))
  have hsupplied : Whole.Reachable rules ⟨⟨supplied, none, []⟩, [], []⟩ :=
    reachable_supply cellar (reachable_supply annex (reachable_supply tower hvisited))
  exact hsupplied.step (.outside _ (.subscribed _))

end Sample

/-- The pinned module is torn down by the shutdown although that panics, the one that failed was
torn down before, and the one that panicked never is. -/
theorem shutdown_tears_down_once_crowded :
    Sample.crowded.isUngated = true ∧ Sample.crowded.shelf = [] ∧
    Sample.crowded.world.shutdown.registry.journal.Closed ∧
    Sample.crowded.world.shutdown.registry.journal =
      [.tornDown ⟨⟨1⟩, "tower", .scripted⟩, .methodAsked ⟨⟨1⟩, "tower", .scripted⟩ ⟨1⟩ "bell",
        .initEntered ⟨⟨3⟩, "cellar", .scripted⟩ true, .opened ⟨⟨3⟩, "cellar", .scripted⟩,
        .tornDown ⟨⟨2⟩, "annex", .scripted⟩, .initReturned ⟨⟨2⟩, "annex", .scripted⟩,
        .initEntered ⟨⟨2⟩, "annex", .scripted⟩ true, .opened ⟨⟨2⟩, "annex", .scripted⟩,
        .initReturned ⟨⟨1⟩, "tower", .scripted⟩, .offered ⟨⟨1⟩, "tower", .scripted⟩ true,
        .offered ⟨⟨1⟩, "tower", .scripted⟩ true, .initEntered ⟨⟨1⟩, "tower", .scripted⟩ false,
        .opened ⟨⟨1⟩, "tower", .scripted⟩] ∧
    Sample.crowded.world.shutdown.state.Bare := by
  have hcloses := Whole.Reachable.shutdown_tears_down_once Sample.reachable_crowded rfl rfl
  exact ⟨rfl, rfl, hcloses.1, rfl, hcloses.2⟩

end MetricsDaemon
