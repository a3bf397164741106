import MetricsDaemon.Proofs.Delivery
import MetricsDaemon.Proofs.Sweeping

/-!
# One-shots push at most once

A one-shot that is still subscribed was never served: the first value that reaches its
turn ends it, whether the line is queued or refused. So whatever else shares its variable
and its argument, and however many ticks panic or are cancelled before, one line at most
is ever queued for it, and it leaves its connection and its module in the same tick.
-/

namespace MetricsDaemon

open Relation (ReflTransGen)
open Run (Tracks)
open State (Fate)

namespace Completion

variable {completion : Completion} {id : SubscriptionId} {subscription : Subscription}

/-! ## One tick -/

/-- Whoever serving left as it was outlives the tick. -/
theorem get?_applied_of_served (hmet : completion.met.Sound false)
    (htracks : Tracks false completion.flight completion.met)
    (hget : completion.met.subscriptions.get? id = some subscription)
    (hserved : completion.served.subscriptions.get? id = some subscription) :
    completion.applied.state.subscriptions.get? id = some subscription := by
  have horphans : completion.flight.plan.orphans = [] :=
    (htracks.before.plansExactly completion.flight.moment).orphans
  refine (State.get?_subscriptions_apply_iff hmet.booked).mpr ⟨hserved, hmet.settled hget, ?_⟩
  rw [horphans]
  exact List.not_mem_nil

/-- Every subscription that a tick meets has its fate, and without a value it is left alone. -/
theorem exists_fate (hmet : completion.met.Sound false)
    (htracks : Tracks false completion.flight completion.met)
    (hget : completion.met.subscriptions.get? id = some subscription) : ∃ result after,
      completion.served.subscriptions.get? id = some after ∧
      Fate completion.served subscription result after
        (pushesFor completion.applied.pushes id) ∧
      (completion.answer subscription.interest.key = none → result = none) := by
  rcases served_cases hmet htracks hget with
    ⟨_, hserved, hpushes⟩ | ⟨_, job, after, _, _, _, hserved, hfate⟩
  · refine ⟨none, subscription, hserved, ?_, fun _ => rfl⟩
    rw [hpushes]
    exact .unserved
  · exact ⟨_, after, hserved, hfate, fun hnone => by rw [hnone, Option.map_none]⟩

/-- A subscription for which the tick got no value is left as it was. -/
theorem kept_of_answer_eq_none (hmet : completion.met.Sound false)
    (htracks : Tracks false completion.flight completion.met)
    (hget : completion.met.subscriptions.get? id = some subscription)
    (hnone : completion.answer subscription.interest.key = none) :
    completion.applied.state.subscriptions.get? id = some subscription ∧
      pushesFor completion.applied.pushes id = [] := by
  obtain ⟨result, after, hserved, hfate, hresult⟩ := exists_fate hmet htracks hget
  rw [hresult hnone] at hfate
  generalize pushesFor completion.applied.pushes id = pushes at hfate ⊢
  cases hfate with
  | unserved => exact ⟨get?_applied_of_served hmet htracks hget hserved, rfl⟩

/-- Whoever serving left about to be removed does not outlive the tick. -/
theorem get?_applied_of_pending {after : Subscription} (hmet : completion.met.Sound false)
    (hserved : completion.served.subscriptions.get? id = some after)
    (hpending : after.pending = true) : completion.applied.state.subscriptions.get? id = none := by
  cases hfinal : completion.applied.state.subscriptions.get? id with
  | none => rfl
  | some found =>
    obtain ⟨hfound, hstays, _⟩ := (State.get?_subscriptions_apply_iff hmet.booked).mp hfinal
    obtain rfl : after = found := Option.some.inj (hserved.symm.trans hfound)
    rw [hpending] at hstays
    cases hstays

/-- The first value that reaches the turn of a one-shot ends it. -/
theorem kept_or_ended (hmet : completion.met.Sound false)
    (htracks : Tracks false completion.flight completion.met)
    (hget : completion.met.subscriptions.get? id = some subscription)
    (hfirst : subscription.first = true) (honce : subscription.interest.once = true) :
    (completion.applied.state.subscriptions.get? id = some subscription ∧
      pushesFor completion.applied.pushes id = []) ∨
    (completion.applied.state.subscriptions.get? id = none ∧
      (pushesFor completion.applied.pushes id).length ≤ 1) := by
  obtain ⟨result, after, hserved, hfate, _⟩ := exists_fate hmet htracks hget
  generalize pushesFor completion.applied.pushes id = pushes at hfate ⊢
  cases hfate with
  | unserved => exact .inl ⟨get?_applied_of_served hmet htracks hget hserved, rfl⟩
  | quiet hneeds =>
    rw [needsPush, hfirst, Bool.or_true, Bool.true_or] at hneeds
    cases hneeds
  | queued =>
    refine .inr ⟨get?_applied_of_pending hmet hserved ?_, Nat.le_refl 1⟩
    rw [honce, Bool.or_true]
  | refused => exact .inr ⟨get?_applied_of_pending hmet hserved rfl, Nat.zero_le 1⟩

/-- The subscription left the table and the list of its connection, and its module counts one client
less for it and for everybody else who left; if none is left, so did the module. -/
structure Retires (completion : Completion) (id : SubscriptionId) (subscription : Subscription) :
    Prop where
  gone : completion.applied.state.subscriptions.get? id = none
  unlisted : ∀ connection entry,
    completion.applied.state.connections.get? connection = some entry → id ∉ entry.subscriptions
  counted : 0 < completion.met.subscriptions.endedOn completion.applied.state.subscriptions
    subscription.interest.module_
  released : ∃ module_ left,
    completion.met.registry.get? subscription.interest.module_ = some module_ ∧
    module_.clients = left + completion.met.subscriptions.endedOn
      completion.applied.state.subscriptions subscription.interest.module_ ∧
    completion.applied.state.registry.get? subscription.interest.module_ = module_.keep? left

/-- A subscription that a tick met and that is gone after it was retired in order. -/
theorem retires_of_gone (hmet : completion.met.Sound false)
    (hget : completion.met.subscriptions.get? id = some subscription)
    (hgone : completion.applied.state.subscriptions.get? id = none) :
    completion.Retires id subscription where
  gone := hgone
  unlisted := by
    intro connection entry hentry hmem
    obtain ⟨found, hfound, _⟩ := (Run.sound_applied hmet).listed.live hentry hmem
    rw [hgone] at hfound
    cases hfound
  counted := by
    have hid : subscription.id = id := hmet.booked.table.numbered hget
    rw [Subscriptions.endedOn, List.countP_pos_iff]
    refine ⟨subscription, hmet.booked.table.mem_toList_iff.mpr (by rwa [hid]), ?_⟩
    rw [hid, hgone]
    simp
  released := by
    obtain ⟨module_, hmodule⟩ := Option.isSome_iff_exists.mp (hmet.held rfl hget)
    obtain ⟨left, hclients, hleft⟩ := State.released_apply hmet.booked hmodule
    exact ⟨module_, left, hmodule, hclients, hleft⟩

end Completion

/-! ## Every run -/

/-- A one-shot that is still subscribed was never served. -/
def State.Waits (state : State) : Prop :=
  ∀ id subscription, state.subscriptions.get? id = some subscription →
    subscription.interest.once = true → subscription.first = true

/-- Steps of others leave the one-shots waiting. -/
theorem State.Waits.keeps {before after : State} (hwaits : before.Waits)
    (hkeeps : before.Keeps after) : after.Waits := by
  intro id subscription hget honce
  by_cases hle : id.number ≤ before.subscriptions.lastId
  · exact hwaits id subscription (hkeeps.subscriptions.kept hget hle) honce
  · exact (hkeeps.subscriptions.unserved hget (Nat.lt_of_not_le hle)).1

/-- The one-shots that are left after a tick still wait. -/
theorem Completion.waits_applied {completion : Completion} (hwaits : completion.met.Waits)
    (hmet : completion.met.Sound false)
    (htracks : Tracks false completion.flight completion.met) :
    completion.applied.state.Waits := by
  intro id subscription hget honce
  obtain ⟨before, hbefore, hinterest⟩ := State.get?_of_apply hmet.booked hget
  rw [← hinterest] at honce
  have hfirst := hwaits id before hbefore honce
  rcases kept_or_ended hmet htracks hbefore hfirst honce with ⟨hkept, _⟩ | ⟨hgone, _⟩
  · obtain rfl : before = subscription := Option.some.inj (hkept.symm.trans hget)
    exact hfirst
  · rw [hgone] at hget
    cases hget

namespace Run

variable {run after : Run} {id : SubscriptionId} {subscription : Subscription}

/-- The one-shots wait for their first value now, and did so whenever a tick was applied. -/
structure Waits (run : Run) : Prop where
  current : run.world.state.Waits
  applied : ∀ completion ∈ run.history, completion.met.Waits

/-- Every step of a run leaves the one-shots waiting. -/
theorem Waits.step (hwaits : run.Waits) (hsound : Sound false run)
    (hstep : Step false run after) : after.Waits := by
  cases hstep with
  | outside world hsteps =>
    exact ⟨hwaits.current.keeps (hsound.state.keeps_steps hsteps), hwaits.applied⟩
  | plan hidle =>
    have hkeeps : run.world.state.Keeps (run.world.state.plan run.world.host.now).1 :=
      hsound.state.keeps_binds (State.binds_plan hsound.state.booked.modules.directory)
    exact ⟨hwaits.current.keeps hkeeps, hwaits.applied⟩
  | call | abandon => exact ⟨hwaits.current, hwaits.applied⟩
  | @apply flight hflight hdone =>
    have hmet : (run.completion flight).met.Waits := hwaits.current
    refine ⟨Completion.waits_applied hmet hsound.state (hsound.flight hflight), ?_⟩
    intro completion hmem
    rcases List.mem_cons.mp hmem with rfl | hmem
    · exact hmet
    · exact hwaits.applied completion hmem

/-- In every reachable run the one-shots that are subscribed wait for their first value. -/
theorem Reachable.waits (hreach : Reachable false run) : run.Waits := by
  induction hreach with
  | start world layout settings hstate =>
    refine ⟨?_, ?_⟩
    · intro id subscription hget
      rw [hstate] at hget
      cases hget
    · intro completion hmem
      cases hmem
  | step hbefore hstep ih => exact ih.step hbefore.sound hstep

/-- Nothing was queued for a one-shot that is still subscribed. -/
theorem Reachable.queued_eq_nil (hreach : Reachable false run)
    (hget : run.world.state.subscriptions.get? id = some subscription)
    (honce : subscription.interest.once = true) : queued id run.history = [] := by
  have htells := hreach.tells hget
  obtain ⟨variable_, _, hlines⟩ := htells.lines
  rw [hlines, htells.unserved (hreach.waits.current id subscription hget honce), List.map_nil]

/-- The number belongs to a one-shot, subscribed or not any more, for which one line was queued at
most. -/
structure Spends (run : Run) (id : SubscriptionId) : Prop where
  known : id.number ≤ run.world.state.subscriptions.lastId
  once : ∀ subscription, run.world.state.subscriptions.get? id = some subscription →
    subscription.interest.once = true
  single : (queued id run.history).length ≤ 1

/-- A one-shot for which a line was queued stays one in every step. -/
theorem Spends.step (hspends : run.Spends id) (hreach : Reachable false run)
    (hstep : Step false run after) : after.Spends id where
  known := Nat.le_trans hspends.known (hreach.sound.succeeds hstep).last
  once := by
    intro found hget
    obtain ⟨subscription, hbefore, hinterest⟩ :=
      (hreach.sound.succeeds hstep).same hget hspends.known
    rw [hinterest]
    exact hspends.once subscription hbefore
  single := by
    cases hstep with
    | outside | plan | call | abandon => exact hspends.single
    | @apply flight hflight hdone =>
      have hmet : (run.completion flight).met.Sound false := hreach.sound.state
      have hland : queued id (run.land flight).history = queued id run.history ++
          (pushesFor (run.completion flight).applied.pushes id).map Push.line := rfl
      rw [hland, List.length_append, List.length_map]
      cases hget : (run.completion flight).met.subscriptions.get? id with
      | none =>
        rw [Completion.pushesFor_of_gone hmet hget]
        exact hspends.single
      | some subscription =>
        have honce := hspends.once subscription hget
        have hfirst := hreach.waits.current id subscription hget honce
        rw [hreach.queued_eq_nil hget honce, List.length_nil, Nat.zero_add]
        rcases Completion.kept_or_ended hmet (hreach.sound.flight hflight) hget hfirst honce with
          ⟨_, hnone⟩ | ⟨_, hone⟩
        · rw [hnone]
          exact Nat.zero_le 1
        · exact hone

/-- A one-shot for which a line was queued stays one in any number of steps. -/
theorem Spends.steps (hspends : run.Spends id) (hreach : Reachable false run)
    (hsteps : ReflTransGen (Step false) run after) : after.Spends id := by
  induction hsteps with
  | refl => exact hspends
  | tail hsteps hstep ih => exact ih.step (hreach.steps hsteps) hstep

/-- Whoever was never served has a place in every plan. -/
theorem Reachable.aims (hreach : Reachable false run)
    (hget : run.world.state.subscriptions.get? id = some subscription)
    (hfirst : subscription.first = true) (now : Nat) : ∃ slot job,
      (id, slot) ∈ (run.world.state.plan now).2.targets ∧
      (run.world.state.plan now).2.jobs[slot]? = some job ∧
      job.key = subscription.interest.key := by
  have hsound := hreach.sound.state
  have hexact := hsound.plansExactly now
  have hmem : subscription ∈ run.world.state.subscriptions.toList := by
    rw [hsound.booked.table.mem_toList_iff, hsound.booked.table.numbered hget, hget]
  have hasked : subscription.interest.key ∈ run.world.state.askedKeys now := by
    refine List.mem_map.mpr ⟨subscription, List.mem_filter.mpr ⟨hmem, ?_⟩, rfl⟩
    rw [State.isAsking, hfirst, Bool.true_or]
  have hkeys : subscription.interest.key ∈ (run.world.state.plan now).2.jobs.map Job.key := by
    obtain ⟨fixed, further, hjobs, _, _, _, hfurther⟩ := hexact.jobs
    rw [hjobs, List.map_append, List.mem_append, hfurther, List.mem_eraseDups, List.mem_filter,
      decide_eq_true_iff]
    by_cases hfixed : subscription.interest.key ∈ fixed.map Job.key
    · exact .inl hfixed
    · exact .inr ⟨hasked, hfixed⟩
  obtain ⟨job, hjob, hkey⟩ := List.mem_map.mp hkeys
  obtain ⟨slot, hslot⟩ := List.getElem?_of_mem hjob
  have htarget := (hexact.targets id slot).mpr ⟨subscription, job, hget, hslot, hkey⟩
  exact ⟨slot, job, htarget, hslot, hkey⟩

/-- As long as no module is unloaded under its subscribers, a one-shot that is subscribed has not
had a line, is a target of every plan, and will have one line at most, as the queues get the lines
of the ticks and nothing else. A tick that queues its line ends it, with all that belongs to it. A
tick whose provider gave no value for it leaves it and its flags as they were. -/
theorem Reachable.oneShot_queued_at_most_once (hreach : Reachable false run) :
    (∀ id subscription, run.world.state.subscriptions.get? id = some subscription →
      subscription.interest.once = true →
        queued id run.history = [] ∧
        (∀ now, ∃ slot job, (id, slot) ∈ (run.world.state.plan now).2.targets ∧
          (run.world.state.plan now).2.jobs[slot]? = some job ∧
          job.key = subscription.interest.key) ∧
        ∀ after, ReflTransGen (Step false) run after →
          (queued id after.history).length ≤ 1 ∧
          ∀ completion ∈ after.history, completion.Enqueues) ∧
    ∀ completion ∈ run.history, completion.Enqueues ∧ ∀ id subscription,
      completion.met.subscriptions.get? id = some subscription →
      subscription.interest.once = true →
        (pushesFor completion.applied.pushes id ≠ [] →
          (∃ push, pushesFor completion.applied.pushes id = [push]) ∧
          completion.Retires id subscription) ∧
        (completion.answer subscription.interest.key = none →
          pushesFor completion.applied.pushes id = [] ∧
          completion.applied.state.subscriptions.get? id = some subscription ∧
          ∃ entry, completion.applied.state.connections.get? subscription.interest.connection =
            some entry ∧ id ∈ entry.subscriptions) := by
  refine ⟨?_, ?_⟩
  · intro id subscription hget honce
    have hnothing := hreach.queued_eq_nil hget honce
    have hspends : run.Spends id := by
      refine ⟨hreach.sound.state.booked.table.le_lastId hget, ?_, ?_⟩
      · intro found hfound
        obtain rfl : found = subscription := Option.some.inj (hfound.symm.trans hget)
        exact honce
      · rw [hnothing]
        exact Nat.zero_le 1
    refine ⟨hnothing, hreach.aims hget (hreach.waits.current id subscription hget honce), ?_⟩
    exact fun after hsteps => ⟨(hspends.steps hreach hsteps).single,
      fun completion hmem => (hreach.steps hsteps).enqueues hmem⟩
  · intro completion hmem
    refine ⟨hreach.enqueues hmem, fun id subscription hget honce => ?_⟩
    obtain ⟨hmet, htracks, _⟩ := hreach.sound.history hmem
    have hfirst := hreach.waits.applied completion hmem id subscription hget honce
    refine ⟨?_, ?_⟩
    · intro hpushed
      rcases Completion.kept_or_ended hmet htracks hget hfirst honce with
        ⟨_, hnone⟩ | ⟨hgone, hone⟩
      · exact absurd hnone hpushed
      · have hpositive := List.length_pos_iff.mpr hpushed
        exact ⟨List.length_eq_one_iff.mp (by omega), Completion.retires_of_gone hmet hget hgone⟩
    · intro hnone
      obtain ⟨hkept, hpushes⟩ := Completion.kept_of_answer_eq_none hmet htracks hget hnone
      exact ⟨hpushes, hkept, (sound_applied hmet).listed.listed hkept⟩

end Run

namespace Sample

/-- A daemon with one subscriber who wants to know once. -/
def curious : Run :=
  { empty with
    world := empty.world.withState (connected.subscribe ⟨⟨1⟩, "a", "door", none, true⟩).1 }

/-- The first tick, all of whose jobs were called. -/
def answered : Flight :=
  (⟨curious.world.state, curious.world.host.now, []⟩ : Flight).answered curious.takeOff.world job

/-- The daemon after its first tick. -/
def satisfied : Run := { curious.takeOff with flight := some answered }.land answered

/-- A daemon with one subscriber who wants to know once is reached. -/
theorem reachable_curious : Run.Reachable false curious := by
  have hstart : Run.Reachable false empty := .start _ .everything .default rfl
  have hinstalled : State.Step false empty.world.state furnished := .installed _
  have hconnected : State.Step false furnished connected := .connected _ _ _ rfl
  have hsubscribed : State.Step false connected curious.world.state := .subscribed _
  exact hstart.outside (((ReflTransGen.single hinstalled).tail hconnected).tail hsubscribed)

/-- Its first tick leads to where the subscriber knows. -/
theorem steps_satisfied : ReflTransGen (Run.Step false) curious satisfied := by
  have hcalled : Run.Step false curious.takeOff
      { curious.takeOff with flight := some answered } := .call rfl (by with_unfolding_all rfl)
  exact ((ReflTransGen.single (.plan rfl)).tail hcalled).tail
    (.apply rfl (by with_unfolding_all rfl))

end Sample

/-- The first tick of a small daemon queues the line of its only subscriber, a one-shot, which
leaves with it; and so does the module. -/
theorem oneShot_queued_at_most_once_satisfied :
    queued ⟨1⟩ Sample.curious.history = [] ∧
    queued ⟨1⟩ Sample.satisfied.history = ["a:0:open\r\n"] ∧
    (queued ⟨1⟩ Sample.satisfied.history).length ≤ 1 ∧
    (Sample.satisfied.world.state.outboxes.get? ⟨1⟩).map Outbox.lines = some ["a:0:open\r\n"] ∧
    (∃ completion ∈ Sample.satisfied.history, completion.Enqueues ∧ ∃ subscription,
      completion.Retires ⟨1⟩ subscription) ∧
    Sample.satisfied.world.state.registry.get? ⟨1⟩ = none := by
  obtain ⟨hnothing, _, hlater⟩ :=
    (Run.Reachable.oneShot_queued_at_most_once Sample.reachable_curious).1 ⟨1⟩ _ rfl rfl
  have hreach := Sample.reachable_curious.steps Sample.steps_satisfied
  have hmem : Sample.curious.takeOff.completion Sample.answered ∈ Sample.satisfied.history :=
    List.mem_cons_self
  obtain ⟨hqueues, hends⟩ := (Run.Reachable.oneShot_queued_at_most_once hreach).2 _ hmem
  obtain ⟨hended, _⟩ := hends ⟨1⟩ _ (by with_unfolding_all rfl) rfl
  have hpushed : pushesFor (Sample.curious.takeOff.completion Sample.answered).applied.pushes ⟨1⟩ =
      [⟨⟨1⟩, ⟨1⟩, "a:0:open\r\n"⟩] := by with_unfolding_all rfl
  have hleaves := (hended (hpushed ▸ List.cons_ne_nil _ _)).2
  exact ⟨hnothing, by with_unfolding_all rfl, (hlater _ Sample.steps_satisfied).1,
    by with_unfolding_all rfl, ⟨_, hmem, hqueues, _, hleaves⟩, by with_unfolding_all rfl⟩

end MetricsDaemon
