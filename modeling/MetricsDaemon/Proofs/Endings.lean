import MetricsDaemon.Proofs.InFlight

/-!
# Why subscriptions end with a tick

A tick has a line for a subscription if it was planned for it and the value of its job is
one to be pushed. The line is queued, or the queue refuses it and the subscription ends.
So a tick ends the orphans of its plan, the one-shots that it pushes to, and those whose
lines are refused. Everybody else stays, whoever else shares the connection.
-/

namespace MetricsDaemon

open Run (Tracks)
open State (Fate Refuses)

namespace Completion

variable {forced : Bool} {completion : Completion} {id : SubscriptionId}
  {subscription : Subscription}

/-- The tick has a line for the subscription: the plan knew it, and its job got a value that is to
be pushed. -/
def Warrants (completion : Completion) (subscription : Subscription) : Prop :=
  completion.saw subscription.id ∧ ∃ job ∈ completion.flight.plan.jobs, ∃ value,
    job.key = subscription.interest.key ∧
    completion.answer subscription.interest.key = some value ∧
    needsPush (completion.met.notices job (some value)) subscription.first
      subscription.pending = true

/-- The subscription ends for a reason of its own: it was a one-shot and had its line, or its line
could not be queued. -/
def Ends (completion : Completion) (subscription : Subscription) : Prop :=
  completion.Warrants subscription ∧
    (subscription.interest.once = true ∨
      pushesFor completion.applied.pushes subscription.id = [])

/-- What a tick makes of a subscription, and what it queues for it. -/
inductive Outcome (completion : Completion) (subscription : Subscription) :
    Subscription → List Push → Prop where
  | spared {after : Subscription} (hnothing : ¬completion.Warrants subscription)
      (hpending : after.pending = subscription.pending) :
      Outcome completion subscription after []
  | pushed {after : Subscription} (push : Push) (hwarrants : completion.Warrants subscription)
      (hpending : after.pending = (subscription.pending || subscription.interest.once)) :
      Outcome completion subscription after [push]
  | refused {after : Subscription} (hwarrants : completion.Warrants subscription)
      (hrefuses : completion.served.Refuses subscription.interest.connection)
      (hpending : after.pending = true) : Outcome completion subscription after []

/-- There is one job at most for a variable and an argument. -/
theorem job_unique {first second : Job} (hbefore : completion.flight.before.Sound forced)
    (hfirst : first ∈ completion.flight.plan.jobs) (hsecond : second ∈ completion.flight.plan.jobs)
    (hkey : first.key = second.key) : first = second :=
  List.inj_on_of_nodup_map (distinct_jobs hbefore) hfirst hsecond hkey

/-- With a value for its job, a subscription of the plan is pushed to if the value is to be
pushed. -/
theorem warrants_iff {job : Job} {value : Value}
    (hbefore : completion.flight.before.Sound forced) (hsaw : completion.saw subscription.id)
    (hjob : job ∈ completion.flight.plan.jobs) (hkey : job.key = subscription.interest.key)
    (hanswer : completion.answer subscription.interest.key = some value) :
    completion.Warrants subscription ↔
      needsPush (completion.resultOf job value).changed subscription.first
        subscription.pending = true := by
  constructor
  · rintro ⟨_, other, hother, found, hsame, hfound, hneeds⟩
    obtain rfl := job_unique hbefore hjob hother (hkey.trans hsame.symm)
    obtain rfl := Option.some.inj (hanswer.symm.trans hfound)
    exact hneeds
  · exact fun hneeds => ⟨hsaw, job, hjob, value, hkey, hanswer, hneeds⟩

/-- Every subscription that a tick met is still there when it was served, with what the tick made of
it. -/
theorem exists_outcome (hmet : completion.met.Sound forced)
    (htracks : Tracks forced completion.flight completion.met)
    (hget : completion.met.subscriptions.get? id = some subscription) : ∃ after,
      completion.served.subscriptions.get? id = some after ∧
      Outcome completion subscription after (pushesFor completion.applied.pushes id) := by
  obtain rfl : subscription.id = id := hmet.booked.table.numbered hget
  rcases served_cases hmet htracks hget with
    ⟨hnot, hserved, hpushes⟩ | ⟨slot, job, after, hsaw, hjob, hkey, hserved, hfate⟩
  · refine ⟨subscription, hserved, ?_⟩
    rw [hpushes]
    refine .spared ?_ rfl
    rintro ⟨hsaw, job, hjob, _, hkey, _⟩
    have hnone := findJob_eq_none_iff.mp (hnot hsaw)
    exact hnone (hkey ▸ List.mem_map_of_mem hjob)
  · refine ⟨after, hserved, ?_⟩
    have hwarrants {value : Value}
        (hanswer : completion.answer subscription.interest.key = some value) :
        completion.Warrants subscription ↔ _ :=
      warrants_iff htracks.before hsaw (List.mem_of_getElem? hjob) hkey hanswer
    generalize pushesFor completion.applied.pushes subscription.id = pushes at hfate
    generalize hresult :
      (completion.answer subscription.interest.key).map (completion.resultOf job) = result at hfate
    cases hfate with
    | unserved =>
      refine .spared ?_ rfl
      rintro ⟨_, _, _, value, _, hanswer, _⟩
      rw [hanswer] at hresult
      cases hresult
    | quiet hneeds =>
      obtain ⟨value, hanswer, rfl⟩ := Option.map_eq_some_iff.mp hresult
      refine .spared (fun h => ?_) rfl
      rw [(hwarrants hanswer).mp h] at hneeds
      cases hneeds
    | queued hneeds =>
      obtain ⟨value, hanswer, rfl⟩ := Option.map_eq_some_iff.mp hresult
      exact .pushed _ ((hwarrants hanswer).mpr hneeds) rfl
    | refused hneeds hrefuses =>
      obtain ⟨value, hanswer, rfl⟩ := Option.map_eq_some_iff.mp hresult
      exact .refused ((hwarrants hanswer).mpr hneeds) hrefuses rfl

/-- What is not warranted is not queued. -/
theorem pushesFor_of_not_warrants (hmet : completion.met.Sound forced)
    (htracks : Tracks forced completion.flight completion.met)
    (hget : completion.met.subscriptions.get? id = some subscription)
    (hnothing : ¬completion.Warrants subscription) :
    pushesFor completion.applied.pushes id = [] := by
  obtain ⟨after, _, houtcome⟩ := exists_outcome hmet htracks hget
  generalize pushesFor completion.applied.pushes id = pushes at houtcome
  cases houtcome with
  | spared | refused => rfl
  | pushed _ hwarrants => exact absurd hwarrants hnothing

/-- Serving leaves a subscription about to be removed exactly if it ends for a reason of its own. -/
theorem Outcome.pending_iff {after : Subscription}
    (houtcome : Outcome completion subscription after
      (pushesFor completion.applied.pushes subscription.id))
    (hsettled : subscription.pending = false) :
    after.pending = true ↔ completion.Ends subscription := by
  rw [Ends]
  generalize pushesFor completion.applied.pushes subscription.id = pushes at houtcome ⊢
  cases houtcome with
  | spared hnothing hpending => simp [hpending, hsettled, hnothing]
  | pushed push hwarrants hpending => simp [hpending, hsettled, hwarrants]
  | refused hwarrants hrefuses hpending => simp [hpending, hwarrants]

/-- The orphans of the plan end with the tick, and those who end for reasons of their own. -/
theorem gone_iff (hmet : completion.met.Sound forced)
    (htracks : Tracks forced completion.flight completion.met)
    (hget : completion.met.subscriptions.get? id = some subscription) :
    completion.applied.state.subscriptions.get? id = none ↔
      id ∈ completion.flight.plan.orphans ∨ completion.Ends subscription := by
  obtain rfl : subscription.id = id := hmet.booked.table.numbered hget
  obtain ⟨after, hserved, houtcome⟩ := exists_outcome hmet htracks hget
  have hends := houtcome.pending_iff (hmet.settled hget)
  have hstays : completion.applied.state.subscriptions.get? subscription.id = some after ↔
      after.pending = false ∧ subscription.id ∉ completion.flight.plan.orphans := by
    refine (State.get?_subscriptions_apply_iff hmet.booked).trans ⟨And.right, fun h => ⟨hserved, h⟩⟩
  rw [← hends, or_comm, ← not_iff_not, not_or, Bool.not_eq_true, ← hstays]
  constructor
  · intro hsome
    obtain ⟨found, hfound⟩ := Option.ne_none_iff_exists'.mp hsome
    obtain ⟨hsame, _⟩ := (State.get?_subscriptions_apply_iff hmet.booked).mp hfound
    obtain rfl : found = after := Option.some.inj (hsame.symm.trans hserved)
    exact hfound
  · intro hsome hnone
    rw [hnone] at hsome
    cases hsome

end Completion

end MetricsDaemon
