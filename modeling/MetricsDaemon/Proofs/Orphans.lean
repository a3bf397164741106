import MetricsDaemon.Proofs.Endings
import MetricsDaemon.Proofs.Ledger
import MetricsDaemon.Proofs.Succession
import MetricsDaemon.Proofs.Sweeping

/-!
# Modules that are unloaded under their subscribers

Nobody tells a subscription that its module was unloaded. But its variable is gone, and
neither number is given out again, even where the module is loaded again under the same
name. So the next plan asks nothing for it and has it among its orphans, and when that
plan is applied it ends. No module that is resident then counts it, so none loses a
client for it.
-/

namespace MetricsDaemon

open Relation (ReflTransGen)
open Run (Tracks LandedSince)

/-! ## Orphans -/

namespace State

variable {forced : Bool} {state : State} {now : Nat} {id : SubscriptionId}
  {subscription : Subscription} {job : Job}

/-- A live subscription is an orphan exactly when its variable is gone. -/
theorem mem_orphans_iff (htable : state.subscriptions.Sound)
    (hget : state.subscriptions.get? id = some subscription) :
    id ∈ state.orphans ↔ state.directory.get? subscription.interest.variable_ = none := by
  have hid : subscription.id = id := htable.numbered hget
  simp only [orphans, variableOf, List.mem_map, List.mem_filter, htable.mem_toList_iff,
    Option.isNone_iff_eq_none]
  constructor
  · rintro ⟨found, ⟨hfound, hnone⟩, rfl⟩
    obtain rfl : found = subscription := Option.some.inj (hfound.symm.trans hget)
    exact hnone
  · exact fun hnone => ⟨subscription, ⟨by rwa [hid], hnone⟩, hid⟩

/-- A subscription is an orphan as soon as its module has left. -/
theorem Rooted.mem_orphans_iff (hrooted : state.Rooted) (hsound : state.Sound forced)
    (hget : state.subscriptions.get? id = some subscription) :
    id ∈ state.orphans ↔ state.registry.get? subscription.interest.module_ = none := by
  rw [State.mem_orphans_iff hsound.booked.table hget]
  constructor
  · intro hnone
    by_contra hresident
    obtain ⟨variable_, _, hvariable, _⟩ :=
      hsound.booked.anchored hget (Option.isSome_iff_ne_none.mpr hresident)
    have hfound : state.directory.get? subscription.interest.variable_ = some variable_ := hvariable
    rw [hnone] at hfound
    cases hfound
  · intro hnone
    by_contra hregistered
    obtain ⟨variable_, hvariable⟩ := Option.ne_none_iff_exists'.mp hregistered
    obtain ⟨module_, hmodule, _⟩ := hsound.booked.modules.owner hvariable
    rw [hrooted id subscription variable_ hget hvariable, hnone] at hmodule
    cases hmodule

/-- A plan has jobs for registered variables only. -/
theorem registered_of_job (hsound : state.directory.Sound)
    (hjob : job ∈ (state.plan now).2.jobs) : state.directory.get? job.variable_ ≠ none := by
  intro hnone
  obtain ⟨variable_, hvariable, _⟩ := (collects_plan hsound).ready job hjob
  have hplanned : (state.plan now).1.directory.get? job.variable_ = none :=
    (prebinds_plan state now).directory.get?_eq_none_iff.mpr hnone
  rw [hplanned] at hvariable
  cases hvariable

/-- The state after a module was unloaded, whoever is subscribed to it. -/
def evict (state : State) (id : ModuleId) : State :=
  { state with registry := state.registry.unload id }

/-- With a module go the variables of its subscriptions. -/
theorem Rooted.get?_directory_evict (hrooted : state.Rooted) (hsound : state.Sound forced)
    (hget : state.subscriptions.get? id = some subscription) :
    (state.evict subscription.interest.module_).directory.get?
      subscription.interest.variable_ = none := by
  cases hfound : (state.evict subscription.interest.module_).directory.get?
      subscription.interest.variable_ with
  | none => rfl
  | some variable_ =>
    obtain ⟨hvariable, hother⟩ := hsound.booked.modules.get?_directory_unload_iff.mp hfound
    exact absurd (hrooted id subscription variable_ hget hvariable) hother

/-- The variables of those who were on a module that was unloaded do not come back. -/
theorem Succeeds.get?_directory_eq_none {later : State} (hrooted : state.Rooted)
    (hsound : state.Sound forced) (hget : state.subscriptions.get? id = some subscription)
    (hlater : (state.evict subscription.interest.module_).Succeeds later) :
    later.directory.get? subscription.interest.variable_ = none := by
  cases hfound : later.directory.get? subscription.interest.variable_ with
  | none => rfl
  | some variable_ =>
    have hle : subscription.interest.variable_.number ≤
        (state.evict subscription.interest.module_).directory.lastId := by
      have hlast : (state.evict subscription.interest.module_).directory.lastId = _ :=
        Registry.lastId_directory_unload
      rw [hlast]
      exact hsound.booked.variable_le hget
    obtain ⟨earlier, hearlier, _⟩ := hlater.registry.directory.same hfound hle
    have hgone := hrooted.get?_directory_evict hsound hget
    rw [State.directory, hearlier] at hgone
    cases hgone

end State

/-! ## A tick that was planned later -/

namespace Completion

variable {forced : Bool} {completion : Completion} {id : SubscriptionId}
  {subscription : Subscription} {left : ModuleId}

/-- The plan knew the subscription, and its module had left by then. -/
def Orphaned (completion : Completion) (subscription : Subscription) : Prop :=
  completion.saw subscription.id ∧
    completion.flight.before.registry.get? subscription.interest.module_ = none

/-- What a tick does about a module that had left under the subscribers it had in a state. -/
structure Heals (completion : Completion) (state : State) (left : ModuleId) : Prop where
  /-- It asks nothing for those who were on the module, and queues nothing for them. -/
  unasked : ∀ id subscription, state.subscriptions.get? id = some subscription →
    subscription.interest.module_ = left →
      (∀ job ∈ completion.flight.plan.jobs,
        job.variable_ ≠ subscription.interest.variable_) ∧
      (∀ slot, (id, slot) ∉ completion.flight.plan.targets) ∧
      pushesFor completion.applied.pushes id = []
  /-- It leaves none of them. -/
  cleared : ∀ id subscription,
    completion.applied.state.subscriptions.get? id = some subscription →
      subscription.interest.module_ ≠ left
  /-- It ends those whose modules had left when it was planned, and those who have a reason of their
  own. Everybody else stays. -/
  exact : ∀ id subscription, completion.met.subscriptions.get? id = some subscription →
    (completion.applied.state.subscriptions.get? id = none ↔
      completion.Orphaned subscription ∨ completion.Ends subscription)
  /-- From no resident module it takes a client for any but those who have a reason of their own. -/
  released : ∀ other module_, completion.met.registry.get? other = some module_ →
    (∃ rest, module_.clients = rest + completion.met.subscriptions.endedOn
        completion.applied.state.subscriptions other ∧
      completion.applied.state.registry.get? other = module_.keep? rest) ∧
    ∀ id subscription, completion.met.subscriptions.get? id = some subscription →
      subscription.interest.module_ = other →
      completion.applied.state.subscriptions.get? id = none → completion.Ends subscription

/-- The orphans of a plan are those of the state for which it was made. -/
theorem orphans_eq : completion.flight.plan.orphans = completion.flight.before.orphans :=
  State.orphans_plan_eq ..

/-- The orphans of a plan are those whose modules had left. -/
theorem mem_orphans_iff (hrooted : completion.flight.before.Rooted)
    (hmet : completion.met.Sound forced)
    (htracks : Tracks forced completion.flight completion.met)
    (hget : completion.met.subscriptions.get? id = some subscription) :
    id ∈ completion.flight.plan.orphans ↔ completion.Orphaned subscription := by
  obtain rfl : subscription.id = id := hmet.booked.table.numbered hget
  rw [orphans_eq, Orphaned]
  by_cases hsaw : completion.saw subscription.id
  · rw [hrooted.mem_orphans_iff htracks.before (get?_before_of_saw htracks hsaw hget)]
    exact (and_iff_right hsaw).symm
  · have hunseen : completion.flight.before.subscriptions.get? subscription.id = none := by
      rwa [saw, Option.not_isSome_iff_eq_none] at hsaw
    refine iff_of_false (fun hmem => ?_) fun h => hsaw h.1
    obtain ⟨found, hfound, hid⟩ := List.mem_map.mp hmem
    have hlive := htracks.before.booked.table.mem_toList_iff.mp (List.mem_filter.mp hfound).1
    rw [hid, hunseen] at hlive
    cases hlive

/-- A tick has nothing for those whose variable was gone when it was planned. -/
theorem unasked_of_gone (hmet : completion.met.Sound forced)
    (htracks : Tracks forced completion.flight completion.met)
    (hgone : completion.flight.before.directory.get? subscription.interest.variable_ = none)
    (hsame : ∀ found, completion.flight.before.subscriptions.get? id = some found →
      found.interest = subscription.interest) :
    (∀ job ∈ completion.flight.plan.jobs, job.variable_ ≠ subscription.interest.variable_) ∧
      (∀ slot, (id, slot) ∉ completion.flight.plan.targets) ∧
      pushesFor completion.applied.pushes id = [] := by
  have hjobs : ∀ job ∈ completion.flight.plan.jobs,
      job.variable_ ≠ subscription.interest.variable_ := by
    intro job hjob heq
    exact State.registered_of_job htracks.before.booked.modules.directory hjob (heq ▸ hgone)
  have hnone : findJob completion.flight.plan.jobs subscription.interest.key = none := by
    refine findJob_eq_none_iff.mpr fun hmem => ?_
    obtain ⟨job, hjob, hkey⟩ := List.mem_map.mp hmem
    exact hjobs job hjob (congrArg Prod.fst hkey)
  refine ⟨hjobs, fun slot htarget => ?_, ?_⟩
  · obtain ⟨found, hfound, hslot⟩ := (State.mem_targets_iff htracks.before.booked.table).mp htarget
    rw [hsame found hfound] at hslot
    exact absurd hslot (hnone ▸ nofun)
  · cases hlive : completion.met.subscriptions.get? id with
    | none => exact pushesFor_of_gone hmet hlive
    | some found =>
      refine (served_of_not_saw hmet htracks hlive fun hsaw => ?_).2
      rw [hsame found (get?_before_of_saw htracks hsaw hlive), hnone]

/-- Whoever is on a module that had left when the tick was planned was there by then. -/
theorem orphaned_of_left (hmet : completion.met.Sound forced)
    (hflown : completion.flight.before.Succeeds completion.met)
    (hget : completion.met.subscriptions.get? id = some subscription)
    (hleft : completion.flight.before.registry.get? subscription.interest.module_ = none)
    (hgiven : subscription.interest.module_.number ≤ completion.flight.before.registry.lastId) :
    completion.Orphaned subscription := by
  obtain rfl : subscription.id = id := hmet.booked.table.numbered hget
  obtain ⟨earlier, hearlier, _⟩ :=
    hflown.subscriptions.same hget (hflown.le_lastId hget hleft hgiven)
  exact ⟨Option.isSome_iff_exists.mpr ⟨earlier, hearlier⟩, hleft⟩

/-- No resident module is that of an orphan. -/
theorem Orphaned.get?_eq_none (horphaned : completion.Orphaned subscription)
    (hmet : completion.met.Sound forced)
    (htracks : Tracks forced completion.flight completion.met)
    (hflown : completion.flight.before.Succeeds completion.met)
    (hget : completion.met.subscriptions.get? id = some subscription) :
    completion.met.registry.get? subscription.interest.module_ = none := by
  obtain rfl : subscription.id = id := hmet.booked.table.numbered hget
  obtain ⟨hsaw, hleft⟩ := horphaned
  exact hflown.get?_eq_none hleft
    (htracks.before.booked.module_le (get?_before_of_saw htracks hsaw hget))

/-- A tick that is planned after a module was unloaded heals. -/
theorem heals {state : State} {module_ : Module} (hstate : state.Sound forced)
    (hrooted : state.Rooted) (hresident : state.registry.get? left = some module_)
    (hbefore : completion.flight.before.Rooted) (hmet : completion.met.Sound forced)
    (htracks : Tracks forced completion.flight completion.met)
    (hplanned : (state.evict left).Succeeds completion.flight.before)
    (hflown : completion.flight.before.Succeeds completion.met) :
    completion.Heals state left := by
  have hends {id : SubscriptionId} {subscription : Subscription}
      (hget : completion.met.subscriptions.get? id = some subscription) :
      completion.applied.state.subscriptions.get? id = none ↔
        completion.Orphaned subscription ∨ completion.Ends subscription :=
    (gone_iff hmet htracks hget).trans
      (or_congr_left (mem_orphans_iff hbefore hmet htracks hget))
  have hlast : left.number ≤ (state.evict left).registry.lastId := by
    rw [State.evict, Registry.lastId_unload]
    exact hstate.booked.modules.le_lastId hresident
  have hgiven : left.number ≤ completion.flight.before.registry.lastId :=
    Nat.le_trans hlast hplanned.registry.last
  have hleft : completion.flight.before.registry.get? left = none := by
    refine hplanned.get?_eq_none ?_ hlast
    rw [State.evict, Registry.get?_unload, if_pos rfl]
  refine ⟨?_, ?_, fun _ _ => hends, ?_⟩
  · rintro id subscription hget rfl
    refine unasked_of_gone hmet htracks
      (State.Succeeds.get?_directory_eq_none hrooted hstate hget hplanned) fun found hfound => ?_
    obtain ⟨same, hsame, hinterest⟩ :=
      hplanned.subscriptions.same hfound (hstate.booked.table.le_lastId hget)
    obtain rfl : subscription = same := Option.some.inj (hget.symm.trans hsame)
    exact hinterest
  · rintro id subscription hget rfl
    obtain ⟨found, hfound, hinterest⟩ := State.get?_of_apply hmet.booked hget
    rw [← hinterest] at hleft hgiven
    have hnone := (hends hfound).mpr (.inl (orphaned_of_left hmet hflown hfound hleft hgiven))
    rw [hget] at hnone
    cases hnone
  · intro other found hfound
    refine ⟨State.released_apply hmet.booked hfound, ?_⟩
    rintro id subscription hget rfl hnone
    refine ((hends hget).mp hnone).resolve_left fun horphaned => ?_
    rw [horphaned.get?_eq_none hmet htracks hflown hget] at hfound
    cases hfound

end Completion

/-! ## Every run -/

namespace Run

variable {run after : Run} {id : ModuleId} {module_ : Module}

/-- The run after a module was unloaded, whoever is subscribed to it. -/
def evict (run : Run) (id : ModuleId) : Run :=
  { run with world := run.world.withRegistry (run.world.registry.unload id) }

/-- Unloading a module under its subscribers is a step of a run in which unloading may be forced. -/
theorem step_evict (run : Run) (id : ModuleId) : Step true run (run.evict id) :=
  .outside _ (.single (.unloaded id (.inl rfl)))

/-- A tick that was planned and applied after a module was unloaded heals. -/
theorem Reachable.heals_of_landed {idle : Run} {completion : Completion}
    (hreach : Reachable true run) (hresident : run.world.registry.get? id = some module_)
    (hidle : ReflTransGen (Step true) (run.evict id) idle)
    (hlanded : LandedSince true idle completion)
    (hmem : completion ∈ after.history) (hafter : Reachable true after) :
    completion.Heals run.world.state id := by
  obtain ⟨landed, ⟨planned, hplanned, hflown, hbefore⟩, hmet⟩ := hlanded
  obtain ⟨hmetSound, htracks, _⟩ := hafter.sound.history hmem
  have hevicted : Reachable true (run.evict id) := hreach.step (run.step_evict id)
  have hplannedReach : Reachable true planned := hevicted.steps (hidle.trans hplanned)
  have hlater : (run.world.state.evict id).Succeeds completion.flight.before := by
    rw [hbefore]
    exact hevicted.succeeds_steps (hidle.trans hplanned)
  have hrooted : completion.flight.before.Rooted := by
    rw [hbefore]
    exact hplannedReach.rooted
  have hpassed : completion.flight.before.Succeeds completion.met := by
    rw [hbefore, hmet]
    exact hplannedReach.succeeds_steps hflown
  exact Completion.heals hreach.sound.state hreach.rooted hresident hrooted hmetSound htracks
    hlater hpassed

/-- Wherever a module is unloaded, also while a tick is in flight and under its subscribers, its
unit is torn down once. From then on the clients of every resident module are those that hold it,
also where the module was loaded again, and unloading the number again does nothing. Every tick
that is planned later and applied heals, and the queues get its lines and nothing else. -/
theorem Reachable.ticks_heal_after_unload (hreach : Reachable true run)
    (hresident : run.world.registry.get? id = some module_) :
    (run.evict id).world.registry.journal =
      .tornDown module_.unit.tag :: run.world.registry.journal ∧
    ∀ after, ReflTransGen (Step true) (run.evict id) after →
      (∀ other found, after.world.registry.get? other = some found →
        found.clients = found.pinned.toNat + after.world.state.subscriptions.countOn other) ∧
      after.world.registry.unload id = after.world.registry ∧
      (after.flight = none → ∀ later, ReflTransGen (Step true) after later →
        ∃ recent, later.history = recent ++ after.history ∧
          ∀ completion ∈ recent, completion.Heals run.world.state id ∧ completion.Enqueues) := by
  have hevicted : Reachable true (run.evict id) := hreach.step (run.step_evict id)
  refine ⟨Registry.journal_unload hresident, fun after hsteps => ?_⟩
  have hafter := hevicted.steps hsteps
  have hlast : id.number ≤ (run.evict id).world.state.registry.lastId := by
    have hsame : (run.evict id).world.state.registry.lastId = _ := Registry.lastId_unload
    rw [hsame]
    exact hreach.sound.state.booked.modules.le_lastId hresident
  have hleft : (run.evict id).world.state.registry.get? id = none :=
    Registry.get?_unload.trans (if_pos rfl)
  refine ⟨fun _ _ hget => hafter.sound.state.booked.clients hget, ?_, ?_⟩
  · exact Registry.unload_of_get?_eq_none
      ((hevicted.succeeds_steps hsteps).get?_eq_none hleft hlast)
  · intro hidle later hlater
    obtain ⟨recent, hhistory, hrecent⟩ := (since_of_steps hidle hlater).history
    refine ⟨recent, hhistory, fun completion hmem => ?_⟩
    have happlied : completion ∈ later.history := by
      rw [hhistory]
      exact List.mem_append_left _ hmem
    have hfinal := hafter.steps hlater
    exact ⟨hreach.heals_of_landed hresident hsteps (hrecent completion hmem) happlied hfinal,
      hfinal.enqueues happlied⟩

end Run

namespace Sample

/-- The first tick, before its values are applied. -/
def boarding : Run := { subscribed.takeOff with flight := some flight }

/-- The daemon without the module of its subscriber. -/
def vacated : Run := boarding.evict ⟨1⟩

/-- The state with the module loaded again and another subscriber. -/
def refurbished : State :=
  ({ vacated.world.state with
    registry := (vacated.world.registry.install
      ⟨⟨⟨2⟩, office⟩, .builtin "office", [Declared.variableOf "door" 0 0]⟩).1 }.subscribe
        ⟨⟨1⟩, "b", "door", none, false⟩).1

/-- The daemon after the tick that was in flight all the while. -/
def resettled : Run := { vacated with world := vacated.world.withState refurbished }.land flight

/-- The only job of the second tick. -/
def secondJob : Job :=
  { job with
    variable_ := ⟨2⟩
    callable := { job.callable with owner := ⟨⟨2⟩, "office", .scripted⟩ } }

/-- The second tick, all of whose jobs were called. -/
def secondFlight : Flight :=
  (⟨resettled.world.state, resettled.world.host.now, []⟩ : Flight).answered
    resettled.takeOff.world secondJob

/-- The daemon after its second tick. -/
def recovered : Run := { resettled.takeOff with flight := some secondFlight }.land secondFlight

/-- The daemon comes to where the first tick is in flight. -/
theorem reachable_boarding : Run.Reachable true boarding :=
  ((reachable_subscribed true).step (.plan rfl)).step (.call rfl (by with_unfolding_all rfl))

/-- From where the module has left, the run comes to where it is loaded again and the tick was
applied. -/
theorem steps_resettled : ReflTransGen (Run.Step true) vacated resettled := by
  have hinstalled : State.Step true vacated.world.state
      { vacated.world.state with
        registry := (vacated.world.registry.install
          ⟨⟨⟨2⟩, office⟩, .builtin "office", [Declared.variableOf "door" 0 0]⟩).1 } := .installed _
  have hsteps : State.Steps true vacated.world.state refurbished :=
    (ReflTransGen.single hinstalled).tail (.subscribed _)
  exact (ReflTransGen.single (.outside (vacated.world.withState refurbished) hsteps)).tail
    (.apply rfl (by with_unfolding_all rfl))

/-- From there the run comes to where the second tick was applied. -/
theorem steps_recovered : ReflTransGen (Run.Step true) resettled recovered := by
  have hcalled : Run.Step true resettled.takeOff
      { resettled.takeOff with flight := some secondFlight } :=
    .call rfl (by with_unfolding_all rfl)
  exact ((ReflTransGen.single (.plan rfl)).tail hcalled).tail
    (.apply rfl (by with_unfolding_all rfl))

end Sample

/-- The module of the only subscriber is unloaded and loaded again while the first tick is in
flight, and somebody else subscribes. The second tick ends the first subscription and leaves the
other one and the new module as they are. -/
theorem ticks_heal_after_unload_resettled :
    Sample.vacated.world.state.subscriptions.countOn ⟨1⟩ = 1 ∧
    Sample.vacated.world.registry.journal =
      .tornDown ⟨⟨1⟩, "office", .scripted⟩ :: Sample.boarding.world.registry.journal ∧
    Sample.recovered.world.registry.unload ⟨1⟩ = Sample.recovered.world.registry ∧
    (∃ completion ∈ Sample.recovered.history,
      completion.Heals Sample.boarding.world.state ⟨1⟩ ∧ completion.Enqueues) ∧
    Sample.resettled.world.state.subscriptions.toList.map Subscription.id = [⟨1⟩, ⟨2⟩] ∧
    Sample.recovered.world.state.subscriptions.toList.map Subscription.id = [⟨2⟩] ∧
    (Sample.recovered.world.registry.get? ⟨2⟩).map Module.clients = some 1 := by
  obtain ⟨htorn, hlater⟩ := Run.Reachable.ticks_heal_after_unload Sample.reachable_boarding
    (show Sample.boarding.world.registry.get? ⟨1⟩ = some _ by with_unfolding_all rfl)
  obtain ⟨_, _, hheals⟩ := hlater _ Sample.steps_resettled
  obtain ⟨_, hunload, _⟩ := hlater _ (Sample.steps_resettled.trans Sample.steps_recovered)
  obtain ⟨recent, hhistory, hrecent⟩ := hheals rfl _ Sample.steps_recovered
  have hlast : [({ Sample.resettled.takeOff with
      flight := some Sample.secondFlight } : Run).completion Sample.secondFlight] = recent :=
    List.append_cancel_right hhistory
  refine ⟨by with_unfolding_all rfl, htorn, hunload, ⟨_, List.mem_cons_self, hrecent _ ?_⟩,
    by with_unfolding_all rfl, by with_unfolding_all rfl, by with_unfolding_all rfl⟩
  rw [← hlast]
  exact List.mem_singleton_self _

end MetricsDaemon
