import Mathlib.Data.List.Sort
import MetricsDaemon.Proofs.Queues
import MetricsDaemon.Proofs.Sweeping

/-!
# What a tick reports

A tick ends with four numbers, counted in four loops: how many jobs had a value, how many
lines were queued, how many subscriptions left, and how many modules. Each is what the
tables and the queues show, whatever was planned and whatever changed since. And whoever
left had a line, or was to have one that could not be queued.
-/

namespace MetricsDaemon

open Relation (ReflTransGen)
open Run (Tracks)

namespace State

variable {state : State} {id : SubscriptionId} {subscription : Subscription} {result : Result}
  {connection : ConnectionId} {plan : Plan} {values : List (Option Value)} {now : Nat}

/-! ## The numbers -/

/-- Removing a subscription, if it is there, makes the table smaller by one. -/
theorem size_unsubscribe (htable : state.subscriptions.Sound) :
    (state.unsubscribe id).1.subscriptions.size + (state.unsubscribe id).2.toNat =
      state.subscriptions.size := by
  cases hget : state.subscriptions.get? id with
  | none =>
    rw [unsubscribe_of_get?_eq_none hget]
    rfl
  | some subscription =>
    rw [unsubscribe_of_get?_eq_some hget, discharge_of_get?_eq_some hget]
    exact htable.counted.unique.size_erase hget

/-- Whoever is not there any more when its turn comes is not counted. -/
theorem size_foldl_retireOne (hbooked : Booked state.registry state.subscriptions)
    (ids : List SubscriptionId) (count : Nat) :
    (ids.foldl retireOne (state, count)).1.subscriptions.size +
        (ids.foldl retireOne (state, count)).2 = state.subscriptions.size + count := by
  induction ids generalizing state count with
  | nil => rfl
  | cons id ids ih =>
    have hone : (state.unsubscribe id).1.subscriptions.size +
        (state.unsubscribe id).2.toNat = state.subscriptions.size :=
      size_unsubscribe hbooked.table
    have hafter : Booked (state.unsubscribe id).1.registry (state.unsubscribe id).1.subscriptions :=
      booked_unsubscribe hbooked
    have hrest := ih hafter (count + (state.unsubscribe id).2.toNat)
    rw [List.foldl_cons, retireOne]
    dsimp only
    omega

/-- Recording and serving remove no subscription. -/
theorem size_marked (hbooked : Booked state.registry state.subscriptions) :
    (state.marked plan values now).subscriptions.size = state.subscriptions.size := by
  have hserves : (state.recorded plan values now).Serves _ (state.marked plan values now) :=
    serves_marked hbooked
  have halike := hserves.alike
  rw [subscriptions_recorded] at halike
  exact hbooked.table.size_eq_of_alike (booked_marked hbooked).table halike

/-- Retiring subscriptions unloads no module. -/
theorem size_registry_retired (hbooked : Booked state.registry state.subscriptions) :
    (state.retired plan values now).registry.modules.size = state.registry.modules.size := by
  have hretired : Booked (state.retired plan values now).registry
      (state.retired plan values now).subscriptions := booked_retired hbooked
  refine hretired.modules.counted.unique.size_eq hbooked.modules.counted.unique fun id => ?_
  have hget : (state.retired plan values now).registry.get? id = _ := get?_registry_retired hbooked
  have hsame := congrArg Option.isSome hget
  rwa [Option.isSome_map] at hsame

/-- The numbers of a report are what the application did. -/
structure Reckons (state : State) (plan : Plan) (values : List (Option Value)) (now : Nat) :
    Prop where
  evaluated : values.length = plan.jobs.length →
    (state.apply plan values now).report.evaluated = values.countP Option.isSome
  pushed : (state.apply plan values now).state.waiting.length =
    state.waiting.length + (state.apply plan values now).report.pushed
  removed : (state.apply plan values now).state.subscriptions.size +
    (state.apply plan values now).report.removed = state.subscriptions.size
  unloaded : (state.apply plan values now).state.registry.modules.size +
    (state.apply plan values now).report.unloaded = state.registry.modules.size
  /-- No line is one too many for its queue. -/
  within : ∀ id, state.Within id → (state.apply plan values now).state.Within id

/-- The numbers that an application reports are what it did. -/
theorem reckons_apply (hbooked : Booked state.registry state.subscriptions) (plan : Plan)
    (values : List (Option Value)) (now : Nat) : state.Reckons plan values now where
  evaluated hlength := by
    have hvalues : (plan.jobs.zip values).map Prod.snd = values :=
      List.map_snd_zip (Nat.le_of_eq hlength)
    have hcount : values.countP Option.isSome =
        ((plan.jobs.zip values).map Prod.snd).countP Option.isSome := by rw [hvalues]
    rw [hcount, List.countP_map]
    rfl
  pushed := (fills_apply hbooked).waiting
  removed := by
    have hmarked : Booked (state.marked plan values now).registry
        (state.marked plan values now).subscriptions := booked_marked hbooked
    have hretired := size_foldl_retireOne hmarked
      (state.marked plan values now).subscriptions.leaving 0
    rw [← retired_eq, size_marked hbooked] at hretired
    rw [state_apply, report_apply]
    exact hretired
  unloaded := by
    have hretired : Booked (state.retired plan values now).registry
        (state.retired plan values now).subscriptions := booked_retired hbooked
    have hswept := hretired.modules.size_unloadIdle
    rw [size_registry_retired hbooked] at hswept
    rw [state_apply, report_apply]
    exact hswept
  within := (fills_apply hbooked).within

end State

namespace Completion

variable {completion : Completion}

/-- What a tick reports and queues, and whom it ends. -/
structure Reports (completion : Completion) : Prop where
  numbers : completion.met.Reckons completion.flight.plan completion.flight.values completion.moment
  evaluated : completion.applied.report.evaluated =
    completion.flight.calls.countP fun call => call.value.isSome
  called : completion.flight.calls.length = completion.flight.plan.jobs.length
  /-- The queues get the lines of the pushes, each the lines of its own connection. -/
  queues : ∀ id, completion.applied.state.outboxes.get? id =
    (completion.met.outboxes.get? id).map fun outbox =>
      outbox.append (linesFor completion.met.connections completion.applied.pushes id)
  /-- The pushes come in the order in which the subscriptions were made, one for each at most. -/
  ordered : (completion.applied.pushes.map Push.subscription).Sublist
    (completion.met.subscriptions.toList.map Subscription.id)
  owned : ∀ push ∈ completion.applied.pushes, ∃ subscription,
    completion.met.subscriptions.get? push.subscription = some subscription ∧
      push.connection = subscription.interest.connection
  refused : ∀ connection, completion.met.Refuses connection →
    ∀ push ∈ completion.applied.pushes, push.connection ≠ connection
  /-- A line for a subscription is queued, or it could not be and the subscription is gone. -/
  warranted : ∀ id subscription, completion.met.subscriptions.get? id = some subscription →
    completion.Warrants subscription →
      ((∃ push, pushesFor completion.applied.pushes id = [push]) ∧
        (completion.applied.state.subscriptions.get? id = none ↔
          subscription.interest.once = true)) ∨
      (pushesFor completion.applied.pushes id = [] ∧
        completion.applied.state.Refuses subscription.interest.connection ∧
        completion.applied.state.subscriptions.get? id = none)
  /-- Without a line for it a subscription stays, whatever becomes of others. -/
  unwarranted : ∀ id subscription, completion.met.subscriptions.get? id = some subscription →
    ¬completion.Warrants subscription →
      pushesFor completion.applied.pushes id = [] ∧
        ∃ after, completion.applied.state.subscriptions.get? id = some after ∧
          after.interest = subscription.interest

variable {forced : Bool} {id : SubscriptionId} {subscription : Subscription}

/-- The targets of the plan are served in order, and nobody was subscribed earlier by then. -/
theorem ordered_pushes (hmet : completion.met.Sound forced)
    (htracks : Tracks forced completion.flight completion.met) :
    (completion.applied.pushes.map Push.subscription).Sublist
      (completion.met.subscriptions.toList.map Subscription.id) := by
  have hantisymm : Std.Antisymm fun first second : SubscriptionId =>
      first.number < second.number := ⟨fun _ _ hlt hgt => absurd hgt (Nat.lt_asymm hlt)⟩
  have hsublist : (completion.applied.pushes.map Push.subscription).Sublist
      (completion.flight.plan.targets.map Prod.fst) := by
    rw [pushes_eq]
    exact State.sublist_serveAll (booked_recorded hmet)
  have htargets : (completion.flight.plan.targets.map fun target => target.1.number).Pairwise
      (· < ·) := State.ascending_targets htracks.before.booked.table
  have hpushes : (completion.applied.pushes.map Push.subscription).Pairwise
      fun first second => first.number < second.number := by
    refine List.Pairwise.sublist hsublist ?_
    rw [List.pairwise_map] at htargets ⊢
    exact htargets
  have hids : (completion.met.subscriptions.toList.map Subscription.id).Pairwise
      fun first second => first.number < second.number := by
    have hordered := hmet.booked.table.ordered_toList
    rw [List.pairwise_map] at hordered ⊢
    exact hordered
  have hnodup : (completion.applied.pushes.map Push.subscription).Nodup :=
    hpushes.imp fun hlt heq => by rw [heq] at hlt; exact Nat.lt_irrefl _ hlt
  have hsubset : completion.applied.pushes.map Push.subscription ⊆
      completion.met.subscriptions.toList.map Subscription.id := by
    intro id hmem
    obtain ⟨push, hpush, rfl⟩ := List.mem_map.mp hmem
    obtain ⟨subscription, hget, _⟩ := owned_pushes hmet htracks hpush
    have hid : subscription.id = push.subscription := hmet.booked.table.numbered hget
    rw [← hid] at hget ⊢
    exact List.mem_map_of_mem (hmet.booked.table.mem_toList_iff.mpr hget)
  exact List.sublist_of_subperm_of_pairwise (List.subperm_of_subset hnodup hsubset) hpushes hids

/-- Nobody is an orphan while no module is unloaded under its subscribers. -/
theorem gone_iff_ends (hmet : completion.met.Sound false)
    (htracks : Tracks false completion.flight completion.met)
    (hget : completion.met.subscriptions.get? id = some subscription) :
    completion.applied.state.subscriptions.get? id = none ↔ completion.Ends subscription := by
  have horphans : completion.flight.plan.orphans = [] :=
    (htracks.before.plansExactly completion.flight.moment).orphans
  rw [gone_iff hmet htracks hget, horphans]
  simp

/-- A tick that meets a sound state reports what it did. -/
theorem reports_of_sound (hmet : completion.met.Sound false)
    (htracks : Tracks false completion.flight completion.met)
    (hcalled : completion.flight.calls.length = completion.flight.plan.jobs.length) :
    completion.Reports where
  numbers := State.reckons_apply hmet.booked _ _ _
  evaluated := by
    have hlength : completion.flight.values.length = completion.flight.plan.jobs.length := by
      rw [Flight.values, List.length_map, hcalled]
    have hcount : completion.applied.report.evaluated =
        completion.flight.values.countP Option.isSome :=
      (State.reckons_apply hmet.booked _ _ _).evaluated hlength
    rw [hcount, Flight.values, List.countP_map]
    rfl
  called := hcalled
  queues := outboxes_applied hmet
  ordered := ordered_pushes hmet htracks
  owned _ hpush := owned_pushes hmet htracks hpush
  refused _ hrefuses _ hpush := connection_ne_of_refuses hmet hrefuses hpush
  warranted id subscription hget hwarrants := by
    obtain rfl : subscription.id = id := hmet.booked.table.numbered hget
    have hgone := gone_iff_ends hmet htracks hget
    rw [Ends, and_iff_right hwarrants] at hgone
    obtain ⟨after, _, houtcome⟩ := exists_outcome hmet htracks hget
    generalize pushesFor completion.applied.pushes subscription.id = pushes at houtcome hgone ⊢
    cases houtcome with
    | spared hnothing => exact absurd hwarrants hnothing
    | pushed push => exact .inl ⟨⟨push, rfl⟩, by simpa using hgone⟩
    | refused _ hrefuses =>
      have hroutes : completion.served.Routes completion.applied.state := State.routes_apply
      exact .inr ⟨rfl, hroutes.refuses hrefuses, hgone.mpr (.inr rfl)⟩
  unwarranted id subscription hget hnothing := by
    have hgone := gone_iff_ends hmet htracks hget
    have hstays : completion.applied.state.subscriptions.get? id ≠ none :=
      fun hnone => hnothing (hgone.mp hnone).1
    obtain ⟨after, hafter⟩ := Option.ne_none_iff_exists'.mp hstays
    obtain ⟨before, hbefore, hinterest⟩ := State.get?_of_apply hmet.booked hafter
    obtain rfl : before = subscription := Option.some.inj (hbefore.symm.trans hget)
    exact ⟨pushesFor_of_not_warrants hmet htracks hget hnothing, after, hafter, hinterest.symm⟩

end Completion

/-! ## Every run -/

/-- As long as no module is unloaded under its subscribers, every tick reports what it did: whatever
plan and whatever values are applied, the numbers are those of the tables and the queues. A tick
queues the lines of every connection in the order of its subscriptions, and ends whoever could not
have a line; and as long as nobody else puts lines into queues, none holds more than it may. -/
theorem Run.Reachable.report_counts_changes {run : Run} (hreach : Reachable false run) :
    (∀ plan values now, run.world.state.Reckons plan values now) ∧
    (∀ completion ∈ run.history, completion.Reports) ∧
    (run.Confined → run.world.state.Fits) := by
  refine ⟨?_, fun completion hmem => ?_, Run.Confined.fits⟩
  · exact fun plan values now => State.reckons_apply hreach.sound.state.booked plan values now
  · obtain ⟨hmet, htracks, hcalled⟩ := hreach.sound.history hmem
    exact Completion.reports_of_sound hmet htracks hcalled

namespace Sample

/-- In the daemon after its first tick all queues are within their bounds. -/
theorem confined_served : served.Confined := by
  have hempty : empty.Confined := .start _ .everything .default rfl
  have hinstalled : State.Step true empty.world.state furnished := .installed _
  have hconnected : State.Step true furnished connected := .connected _ _ _ rfl
  have hsubscribed : State.Step true connected subscribed.world.state := .subscribed _
  have hfurnished : empty.world.state.Drains furnished := .of_outboxes_eq rfl
  have hopened : furnished.Drains connected := State.drains_reconnect
  have hasked : connected.Drains subscribed.world.state :=
    .of_outboxes_eq (State.outboxes_subscribe _)
  have hstart : subscribed.Confined :=
    hempty.outside _ (((ReflTransGen.single hinstalled).tail hconnected).tail hsubscribed)
      ((hfurnished.trans hopened).trans hasked)
  have hcalled : Run.Confined { subscribed.takeOff with flight := some flight } :=
    (hstart.plan rfl).call rfl (by with_unfolding_all rfl)
  exact hcalled.apply rfl (by with_unfolding_all rfl)

/-- The state with one connection, whose queue has room for one line. -/
def narrow : State := ({ furnished with lastConnection := 1 }.reconnect ⟨1⟩ 1).1

/-- A daemon with two subscribers on that connection. -/
def jostling : Run :=
  { empty with
    world := empty.world.withState
      ((narrow.subscribe ⟨⟨1⟩, "a", "door", none, false⟩).1.subscribe
        ⟨⟨1⟩, "b", "door", none, false⟩).1 }

/-- The first tick, all of whose jobs were called. -/
def hurried : Flight :=
  (⟨jostling.world.state, jostling.world.host.now, []⟩ : Flight).answered
    jostling.takeOff.world job

/-- The daemon after its first tick. -/
def jammed : Run := { jostling.takeOff with flight := some hurried }.land hurried

/-- The daemon comes to where the queue was too full for a second subscriber. -/
theorem reachable_jammed : Run.Reachable false jammed := by
  have hstart : Run.Reachable false empty := .start _ .everything .default rfl
  have hinstalled : State.Step false empty.world.state furnished := .installed _
  have hconnected : State.Step false furnished narrow := .connected _ _ _ rfl
  have hfirst : State.Step false narrow
      (narrow.subscribe ⟨⟨1⟩, "a", "door", none, false⟩).1 := .subscribed _
  have hsecond : State.Step false (narrow.subscribe ⟨⟨1⟩, "a", "door", none, false⟩).1
      jostling.world.state := .subscribed _
  have hjostling : Run.Reachable false jostling :=
    hstart.outside ((((ReflTransGen.single hinstalled).tail hconnected).tail hfirst).tail hsecond)
  have hcalled : Run.Reachable false { jostling.takeOff with flight := some hurried } :=
    (hjostling.step (.plan rfl)).step (.call rfl (by with_unfolding_all rfl))
  exact hcalled.step (.apply rfl (by with_unfolding_all rfl))

end Sample

/-- Two subscribers wait for the first tick of a small daemon, and there is room for one line. One
has it, the other one leaves, and the tick says so. The queue of a daemon whose clients only take
lines out holds no more than it may. -/
theorem report_counts_changes_jammed :
    (∃ completion ∈ Sample.jammed.history, completion.applied.report = ⟨1, 1, 1, 0⟩ ∧
      completion.met.waiting = [] ∧ completion.applied.state.waiting = ["a:0:open\r\n"] ∧
      completion.applied.state.subscriptions.get? ⟨2⟩ = none ∧ completion.Reports) ∧
    Sample.served.world.state.waiting = ["a:0:open\r\n"] ∧ Sample.served.world.state.Fits :=
  ⟨⟨_, List.mem_cons_self, by with_unfolding_all rfl, by with_unfolding_all rfl,
      by with_unfolding_all rfl, by with_unfolding_all rfl,
      (Run.Reachable.report_counts_changes Sample.reachable_jammed).2.1 _ List.mem_cons_self⟩,
    by with_unfolding_all rfl,
    (Run.Reachable.report_counts_changes (Sample.reachable_served false)).2.2
      Sample.confined_served⟩

end MetricsDaemon
