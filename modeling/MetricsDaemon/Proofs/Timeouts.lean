import MetricsDaemon.Proofs.Exactness
import MetricsDaemon.Proofs.Rooting

/-!
# Timeouts over whole runs

A sample is stamped with the moment at which its tick was applied, and whether it is too
old is judged at the moment of a later plan. As long as the clock does not go back, the
stamps are those of the last recorded values, so a variable rests for its timeout after
each value that was recorded for it, unless it runs on every tick or somebody is still
waiting for a first value. And nobody waits longer than that: whoever is subscribed when
a plan is made gets a call for a value that is old enough.
-/

namespace MetricsDaemon

open Run (Tracks)

/-! ## What is said about time -/

/-- The moment at which the last value of a key was recorded. -/
def lastRecordedAt (key : VariableId × String) (history : List Completion) : Option Nat :=
  history.findSome? fun completion => (completion.recordedValue key).map fun _ => completion.moment

/-- The calls that a tick made for a key so far. -/
def Flight.callsFor (flight : Flight) (key : VariableId × String) : List Call :=
  ((flight.plan.jobs.zip flight.calls).filter fun entry => entry.1.key = key).map Prod.snd

/-- A live subscription of the plan wants the key and was never served. -/
def Flight.Awaits (flight : Flight) (earlier : List Completion) (key : VariableId × String) :
    Prop :=
  ∃ subscription ∈ flight.before.liveSubscriptions, subscription.interest.key = key ∧
    subscription.first = true ∧ wasServed subscription.id key earlier = false

/-- The timeouts are kept by the plan of a tick, given the ticks before it. -/
structure Flight.Rests (flight : Flight) (earlier : List Completion) : Prop where
  /-- A job for a key has a plan that is as late as the timeout demands after each value that was
  recorded for the key, unless the variable runs on every tick or somebody waits for a first
  value. -/
  late : ∀ job ∈ flight.plan.jobs, ∃ variable_,
    flight.before.directory.get? job.variable_ = some variable_ ∧
      ∀ completion ∈ earlier, (completion.recordedValue job.key).isSome →
        completion.moment + variable_.timeoutNanos ≤ flight.moment ∨
        (variable_.isCron = true ∧ sampleKey job.arg = "") ∨ flight.Awaits earlier job.key
  /-- Whoever is subscribed to a variable whose timeout has run out has exactly one job. -/
  due : ∀ id subscription variable_,
    flight.before.subscriptions.get? id = some subscription →
    flight.before.directory.get? subscription.interest.variable_ = some variable_ →
    (variable_.timeout = 0 ∨ ∀ moment ∈ lastRecordedAt subscription.interest.key earlier,
      moment + variable_.timeoutNanos ≤ flight.moment) →
    (flight.plan.jobs.map Job.key).count subscription.interest.key = 1

/-- Whoever was subscribed, when a tick was planned, to a variable whose timeout had run out saw it
evaluated exactly once by the tick: there was one call for its key, of what the method of the
variable leads to. -/
def Completion.Evaluates (completion : Completion) (earlier : List Completion) : Prop :=
  ∀ id subscription variable_,
    completion.flight.before.subscriptions.get? id = some subscription →
    completion.flight.before.directory.get? subscription.interest.variable_ = some variable_ →
    (variable_.timeout = 0 ∨ ∀ moment ∈ lastRecordedAt subscription.interest.key earlier,
      moment + variable_.timeoutNanos ≤ completion.flight.moment) →
    ∃ call, completion.flight.callsFor subscription.interest.key = [call] ∧
      completion.flight.before.callableFor subscription.interest.variable_ = some call.callable ∧
      sampleKey call.arg = sampleKey subscription.interest.arg

/-! ## The last recorded moment -/

section History

variable {key : VariableId × String} {completion : Completion} {history : List Completion}
  {moment : Nat}

/-- The last value of a key was recorded by the newest tick, if it recorded one, or else before. -/
theorem lastRecordedAt_cons : lastRecordedAt key (completion :: history) =
    ((completion.recordedValue key).map fun _ => completion.moment).or
      (lastRecordedAt key history) := by
  rw [lastRecordedAt, List.findSome?_cons]
  cases completion.recordedValue key <;> rfl

/-- The last moment is that of one of the ticks. -/
theorem exists_of_lastRecordedAt (hlast : lastRecordedAt key history = some moment) :
    ∃ completion ∈ history, (completion.recordedValue key).isSome ∧
      completion.moment = moment := by
  obtain ⟨completion, hmem, hmoment⟩ := List.exists_of_findSome?_eq_some hlast
  obtain ⟨value, hvalue, hsame⟩ := Option.map_eq_some_iff.mp hmoment
  exact ⟨completion, hmem, by rw [hvalue]; rfl, hsame⟩

/-- Where the ticks stand in order, the newest first, no value was recorded after the last one. -/
theorem le_lastRecordedAt
    (hsorted : (history.map Completion.moment).Pairwise (· ≥ ·)) (hmem : completion ∈ history)
    (hrecorded : (completion.recordedValue key).isSome) :
    ∃ moment, lastRecordedAt key history = some moment ∧ completion.moment ≤ moment := by
  induction history with
  | nil => cases hmem
  | cons newest earlier ih =>
    rw [List.map_cons, List.pairwise_cons] at hsorted
    rw [lastRecordedAt_cons]
    rcases List.mem_cons.mp hmem with rfl | hmem
    · obtain ⟨value, hvalue⟩ := Option.isSome_iff_exists.mp hrecorded
      exact ⟨completion.moment, by rw [hvalue]; rfl, Nat.le_refl _⟩
    · cases hnewest : newest.recordedValue key with
      | none => simpa using ih hsorted.2 hmem
      | some value =>
        exact ⟨newest.moment, rfl, hsorted.1 _ (List.mem_map_of_mem hmem)⟩

end History

/-! ## One tick -/

namespace Completion

variable {forced : Bool} {completion : Completion} {key : VariableId × String}
  {id : SubscriptionId} {subscription after : Subscription}

/-- A value that is recorded was answered. -/
theorem isSome_answer (hrecorded : (completion.recordedValue key).isSome) :
    (completion.answer key).isSome = true := by
  obtain ⟨value, hvalue⟩ := Option.isSome_iff_exists.mp hrecorded
  rw [recordedValue, Option.filter_eq_some_iff] at hvalue
  rw [hvalue.1]
  rfl

/-- A subscription counts as served once its plan had it and its job got a value. -/
theorem first_served (hmet : completion.met.Sound forced)
    (htracks : Tracks forced completion.flight completion.met)
    (hget : completion.met.subscriptions.get? id = some subscription)
    (hafter : completion.served.subscriptions.get? id = some after) :
    after.first = (subscription.first &&
      !(completion.saw id && (completion.answer subscription.interest.key).isSome)) := by
  have hsame {found : Subscription}
      (hfound : completion.served.subscriptions.get? id = some found) : found = after :=
    Option.some.inj (hfound.symm.trans hafter)
  cases hsaw : completion.saw id with
  | false =>
    obtain ⟨hserved, _⟩ := served_of_not_saw hmet htracks hget fun h => by
      rw [hsaw] at h
      cases h
    rw [← hsame hserved, Bool.false_and, Bool.not_false, Bool.and_true]
  | true =>
    cases hslot : findJob completion.flight.plan.jobs subscription.interest.key with
    | none =>
      obtain ⟨hserved, _⟩ := served_of_not_saw hmet htracks hget fun _ => hslot
      rw [← hsame hserved, answer_of_findJob_eq_none hslot, Option.isSome_none, Bool.and_false,
        Bool.not_false, Bool.and_true]
    | some slot =>
      obtain ⟨job, found, _, _, hserved, hfate⟩ := fate_of_saw hmet htracks hsaw hget hslot
      rw [← hsame hserved]
      generalize completion.answer subscription.interest.key = answer at hfate
      generalize pushesFor completion.applied.pushes id = pushes at hfate
      generalize hresult : answer.map (completion.resultOf job) = result at hfate
      cases hfate with
      | unserved =>
        rw [Option.map_eq_none_iff.mp hresult]
        simp
      | quiet | queued | refused =>
        obtain ⟨value, rfl, rfl⟩ := Option.map_eq_some_iff.mp hresult
        simp

end Completion

/-! ## The samples follow the history -/

/-- The stamps of the samples and the flags of the subscriptions say what the history says. -/
structure Dated (history : List Completion) (state : State) : Prop where
  seen : ∀ completion ∈ history, ∀ id, completion.saw id → id.number ≤ state.subscriptions.lastId
  known : ∀ completion ∈ history, ∀ key, (completion.recordedValue key).isSome →
    key.1.number ≤ state.directory.lastId
  stamped : ∀ id variable_, state.directory.get? id = some variable_ → ∀ arg,
    (variable_.samples.get? arg).map Sample.evaluatedAt = lastRecordedAt (id, arg) history
  flagged : ∀ id subscription, state.subscriptions.get? id = some subscription →
    wasServed id subscription.interest.key history = true → subscription.first = false

namespace Dated

variable {forced : Bool} {history earlier : List Completion} {before after state : State}
  {completion : Completion} {flight : Flight}

/-- Without variables and subscriptions the stamps say what an empty history says. -/
theorem empty (hnone : ∀ id, state.subscriptions.get? id = none)
    (hempty : ∀ id, state.directory.get? id = none) : Dated [] state where
  seen _ hmem := by cases hmem
  known _ hmem := by cases hmem
  stamped id variable_ hget := by
    rw [hempty] at hget
    cases hget
  flagged id subscription hget := by
    rw [hnone] at hget
    cases hget

/-- No value was recorded for a variable whose number was not given out yet. -/
theorem lastRecordedAt_of_lt {id : VariableId} (hdated : Dated history state)
    (hlt : state.directory.lastId < id.number) (arg : String) :
    lastRecordedAt (id, arg) history = none := by
  cases hlast : lastRecordedAt (id, arg) history with
  | none => rfl
  | some moment =>
    obtain ⟨completion, hmem, hrecorded, _⟩ := exists_of_lastRecordedAt hlast
    exact absurd (hdated.known completion hmem (id, arg) hrecorded) (Nat.not_le_of_lt hlt)

/-- Whatever happens between two applications, the stamps go on following the history. -/
theorem keeps (hdated : Dated history before) (hkeeps : before.Keeps after) :
    Dated history after where
  seen completion hmem id hsaw :=
    Nat.le_trans (hdated.seen completion hmem id hsaw) hkeeps.subscriptions.last
  known completion hmem key hrecorded :=
    Nat.le_trans (hdated.known completion hmem key hrecorded) hkeeps.directory.last
  stamped := by
    intro id found hfound arg
    by_cases hle : id.number ≤ before.directory.lastId
    · obtain ⟨variable_, hvariable, _, hsamples, _⟩ := hkeeps.directory.kept hfound hle
      rw [hsamples]
      exact hdated.stamped id variable_ hvariable arg
    · have hlt := Nat.lt_of_not_le hle
      rw [hkeeps.directory.blank hfound hlt, hdated.lastRecordedAt_of_lt hlt]
      rfl
  flagged := by
    intro id subscription hget hserved
    by_cases hle : id.number ≤ before.subscriptions.lastId
    · exact hdated.flagged id subscription (hkeeps.subscriptions.kept hget hle) hserved
    · have hunseen : ∀ completion ∈ history, completion.saw id = false := by
        intro completion hmem
        cases hsaw : completion.saw id with
        | false => rfl
        | true => exact absurd (hdated.seen completion hmem id hsaw) hle
      rw [(owed_of_unseen hunseen).1] at hserved
      cases hserved

/-- Applying a tick keeps the stamps in step with the history. -/
theorem apply (hdated : Dated earlier completion.met) (hmet : completion.met.Sound forced)
    (htracks : Tracks forced completion.flight completion.met) :
    Dated (completion :: earlier) completion.applied.state where
  seen := by
    have hlast : completion.applied.state.subscriptions.lastId =
        completion.met.subscriptions.lastId := State.lastId_subscriptions_apply hmet.booked
    intro other hmem id hsaw
    rw [hlast]
    rcases List.mem_cons.mp hmem with rfl | hmem
    · exact Completion.le_lastId_of_saw htracks hsaw
    · exact hdated.seen other hmem id hsaw
  known := by
    have hlast : completion.applied.state.directory.lastId =
        completion.met.directory.lastId := State.lastId_directory_apply hmet.booked
    intro other hmem key hrecorded
    rw [hlast]
    rcases List.mem_cons.mp hmem with rfl | hmem
    · exact Completion.le_lastId_of_recorded hmet hrecorded
    · exact hdated.known other hmem key hrecorded
  stamped := by
    intro id variable_ hget arg
    obtain ⟨before, hbefore, _, hsamples⟩ := Completion.get?_directory_applied hmet htracks hget
    rw [hsamples arg, lastRecordedAt_cons]
    cases completion.recordedValue (id, arg) with
    | none => exact hdated.stamped id before hbefore arg
    | some value => rfl
  flagged := by
    intro id subscription hget hserved
    obtain ⟨before, hbefore, hinterest⟩ := State.get?_of_apply hmet.booked hget
    obtain ⟨hfinal, _⟩ := (State.get?_subscriptions_apply_iff hmet.booked).mp hget
    rw [Completion.first_served hmet htracks hbefore hfinal, hinterest]
    rw [wasServed_cons, Bool.or_eq_true, Bool.and_eq_true] at hserved
    rcases hserved with ⟨hsaw, hrecorded⟩ | hearlier
    · rw [hsaw, Completion.isSome_answer hrecorded]
      simp
    · rw [hdated.flagged id before hbefore (by rw [hinterest]; exact hearlier), Bool.false_and]

/-- A timeout runs out at the moment of the last value plus the timeout. -/
theorem isDue_iff {id : VariableId} {variable_ : Variable} {arg : Option String} {now : Nat}
    (hdated : Dated history state) (hget : state.directory.get? id = some variable_) :
    variable_.isDue arg now = true ↔ variable_.timeout = 0 ∨
      ∀ moment ∈ lastRecordedAt (id, sampleKey arg) history,
        moment + variable_.timeoutNanos ≤ now := by
  rw [← hdated.stamped id variable_ hget, Variable.isDue, Variable.sampleFor]
  by_cases hzero : variable_.timeout = 0
  · simp [hzero]
  · have hpositive : 0 < variable_.timeoutNanos :=
      Nat.mul_pos (Nat.pos_of_ne_zero hzero) (by decide)
    rw [if_neg hzero]
    cases variable_.samples.get? (sampleKey arg) with
    | none => simp
    | some sample =>
      simp only [decide_eq_true_eq, hzero, false_or, Option.map_some, Option.mem_some_iff,
        forall_eq']
      omega

end Dated

/-! ## One plan -/

/-- A plan comes to a pair because its variable runs on every tick or because some subscription asks
for a value. -/
theorem State.Sound.mem_pairs {forced : Bool} {state : State} {now : Nat}
    {pair : VariableId × Option String} (hsound : state.Sound forced)
    (hpair : pair ∈ state.pairs now) :
    (∃ variable_, state.directory.get? pair.1 = some variable_ ∧ variable_.isCron = true ∧
      pair.2 = none) ∨
    ∃ subscription, state.subscriptions.get? subscription.id = some subscription ∧
      pairOf subscription = pair ∧ state.isAsking now subscription = true := by
  have hdirectory : state.directory.Sound := hsound.booked.modules.directory
  rcases List.mem_append.mp hpair with hcron | hwanting
  · obtain ⟨id, hid, rfl⟩ := List.mem_map.mp hcron
    rw [hdirectory.cronIds_eq, List.mem_filter, Option.any_eq_true] at hid
    obtain ⟨variable_, hget, hruns⟩ := hid.2
    exact .inl ⟨variable_, hget, hruns, rfl⟩
  · obtain ⟨subscription, hsubscription, rfl⟩ := List.mem_map.mp hwanting
    obtain ⟨hlisted, hwants⟩ := List.mem_filter.mp hsubscription
    have hget := hsound.booked.table.mem_toList_iff.mp hlisted
    rw [isWanting_eq_isAsking (hsound.settled hget)] at hwants
    exact .inr ⟨subscription, hget, rfl, hwants⟩

/-- A subscription that has a job is live. -/
theorem State.Sound.mem_liveSubscriptions {forced : Bool} {state : State} {job : Job}
    {subscription : Subscription} (hsound : state.Sound forced)
    (hget : state.subscriptions.get? subscription.id = some subscription)
    (hjob : state.jobFor (pairOf subscription) = some job) :
    subscription ∈ state.liveSubscriptions := by
  refine List.mem_filter.mpr ⟨hsound.booked.table.mem_toList_iff.mpr hget, ?_⟩
  by_contra hnot
  have hnone : state.jobFor (pairOf subscription) = none :=
    jobFor_of_isHopeless (isHopeless_of_not_live (Bool.eq_false_iff.mpr hnot))
  rw [hjob] at hnone
  cases hnone

namespace Dated

variable {forced : Bool} {earlier : List Completion} {flight : Flight} {job : Job}

/-- Where the clock did not go back, a variable whose timeout has run out rested since every value
that was recorded for it. -/
theorem rested_of_isDue {history : List Completion} {state : State} {id : VariableId}
    {variable_ : Variable} {arg : Option String} {now : Nat} {completion : Completion}
    (hdated : Dated history state) (hget : state.directory.get? id = some variable_)
    (hsorted : (history.map Completion.moment).Pairwise (· ≥ ·))
    (hpast : ∀ completion ∈ history, completion.moment ≤ now)
    (hdue : variable_.isDue arg now = true) (hmem : completion ∈ history)
    (hrecorded : (completion.recordedValue (id, sampleKey arg)).isSome) :
    completion.moment + variable_.timeoutNanos ≤ now := by
  rcases (hdated.isDue_iff hget).mp hdue with hzero | hrested
  · rw [Variable.timeoutNanos, hzero, Nat.zero_mul]
    exact hpast completion hmem
  · obtain ⟨moment, hlast, hle⟩ := le_lastRecordedAt hsorted hmem hrecorded
    exact Nat.le_trans (Nat.add_le_add_right hle _) (hrested moment hlast)

/-- A tick has a job for a key only when the timeout of the variable is over, when it runs on every
tick, or when a subscription awaits its first value. -/
theorem late (hdated : Dated earlier flight.before) (hsound : flight.before.Sound forced)
    (hsorted : (earlier.map Completion.moment).Pairwise (· ≥ ·))
    (hpast : ∀ completion ∈ earlier, completion.moment ≤ flight.moment)
    (hjob : job ∈ flight.plan.jobs) : ∃ variable_,
      flight.before.directory.get? job.variable_ = some variable_ ∧
        ∀ completion ∈ earlier, (completion.recordedValue job.key).isSome →
          completion.moment + variable_.timeoutNanos ≤ flight.moment ∨
          (variable_.isCron = true ∧ sampleKey job.arg = "") ∨ flight.Awaits earlier job.key := by
  obtain ⟨pair, hpair, hfor⟩ := State.mem_jobs_plan hjob
  obtain ⟨variable_, callable, hvariable, hcallable, rfl⟩ := State.jobFor_eq_some_iff.mp hfor
  refine ⟨variable_, hvariable, fun completion hmem hrecorded => ?_⟩
  rcases hsound.mem_pairs hpair with ⟨found, hfound, hcron, hnone⟩ |
    ⟨subscription, hget, rfl, hasks⟩
  · have hsame : found = variable_ := Option.some.inj (hfound.symm.trans hvariable)
    rw [← hsame]
    exact .inr (.inl ⟨hcron, by rw [hnone]; rfl⟩)
  · have hvariableOf : flight.before.variableOf subscription = some variable_ := hvariable
    rw [State.isAsking, Bool.or_eq_true, hvariableOf, Option.any_some] at hasks
    rcases hasks with hfirst | hdue
    · refine .inr (.inr ⟨subscription, hsound.mem_liveSubscriptions hget hfor, rfl, hfirst, ?_⟩)
      refine Bool.eq_false_iff.mpr fun hserved => ?_
      rw [hdated.flagged _ subscription hget hserved] at hfirst
      cases hfirst
    · exact .inl (hdated.rested_of_isDue hvariable hsorted hpast hdue hmem hrecorded)

/-- A tick has exactly one job for the key of a live subscription whose variable has rested for its
timeout. -/
theorem due {id : SubscriptionId} {subscription : Subscription} {variable_ : Variable}
    (hdated : Dated earlier flight.before) (hsound : flight.before.Sound forced)
    (hrooted : flight.before.Rooted)
    (hget : flight.before.subscriptions.get? id = some subscription)
    (hvariable : flight.before.directory.get? subscription.interest.variable_ = some variable_)
    (hrested : variable_.timeout = 0 ∨ ∀ moment ∈ lastRecordedAt subscription.interest.key earlier,
      moment + variable_.timeoutNanos ≤ flight.moment) :
    (flight.plan.jobs.map Job.key).count subscription.interest.key = 1 := by
  have hdirectory : flight.before.directory.Sound := hsound.booked.modules.directory
  have hdistinct : (flight.plan.jobs.map Job.key).Nodup := (State.collects_plan hdirectory).distinct
  refine List.count_eq_one_of_mem hdistinct ?_
  have hwants : flight.before.isWanting flight.moment subscription = true := by
    have hdue : variable_.isDue subscription.interest.arg flight.moment = true :=
      (hdated.isDue_iff hvariable).mpr hrested
    rw [State.isWanting, State.variableOf, hvariable, Option.any_some, hdue, Bool.true_or,
      Bool.true_or]
  have hpair : State.pairOf subscription ∈ flight.before.pairs flight.moment := by
    have hid := hsound.booked.table.numbered hget
    rw [← hid] at hget
    exact List.mem_append_right _ (List.mem_map_of_mem
      (List.mem_filter.mpr ⟨hsound.booked.table.mem_toList_iff.mpr hget, hwants⟩))
  have hsome : (flight.before.jobFor (State.pairOf subscription)).isSome = true := by
    obtain ⟨callable, hcallable⟩ := hrooted.callable hsound hget hvariable
    rw [State.isSome_jobFor, State.pairOf, hcallable]
    rfl
  rw [Flight.plan, State.jobs_plan, keys_gather (fun _ _ => State.key_of_jobFor),
    List.mem_eraseDups]
  exact List.mem_map.mpr ⟨State.pairOf subscription, List.mem_filter.mpr ⟨hpair, hsome⟩, rfl⟩

/-- A plan that is made in step with the history keeps the timeouts. -/
theorem rests (hdated : Dated earlier flight.before) (hsound : flight.before.Sound forced)
    (hrooted : flight.before.Rooted)
    (hsorted : (earlier.map Completion.moment).Pairwise (· ≥ ·))
    (hpast : ∀ completion ∈ earlier, completion.moment ≤ flight.moment) : flight.Rests earlier where
  late _ hjob := hdated.late hsound hsorted hpast hjob
  due _ _ _ hget hvariable hrested := hdated.due hsound hrooted hget hvariable hrested

end Dated

/-! ## Every run -/

namespace Run

/-- Where a run can come while the clock does not go back. -/
inductive Timely (forced : Bool) : Run → Prop where
  | start (world : World) (layout : Layout) (settings : Settings)
      (hstate : world.state = .new (.new layout settings)) : Timely forced ⟨world, none, []⟩
  | step {run after : Run} (htimely : Timely forced run) (hstep : Step forced run after)
      (hclock : run.world.host.now ≤ after.world.host.now) : Timely forced after

variable {forced : Bool} {run after : Run}

/-- A run whose clock does not go back is a run. -/
theorem Timely.reachable (htimely : Timely forced run) : Reachable forced run := by
  induction htimely with
  | start world layout settings hstate => exact .start world layout settings hstate
  | step _ hstep _ ih => exact ih.step hstep

/-- The stamps follow the history, no moment of it lies ahead, and every plan that was made kept the
timeouts. -/
structure Timed (run : Run) : Prop where
  current : Dated run.history run.world.state
  past : ∀ completion ∈ run.history, completion.moment ≤ run.world.host.now
  sorted : (run.history.map Completion.moment).Pairwise (· ≥ ·)
  flight : ∀ flight, run.flight = some flight → flight.Rests run.history
  applied : ∀ completion earlier, completion :: earlier <:+ run.history →
    completion.flight.Rests earlier

/-- Every step after which the clock is not earlier leaves the stamps as the history says. -/
theorem Timed.step (htimed : run.Timed) (hreach : Reachable forced run)
    (hstep : Step forced run after) (hclock : run.world.host.now ≤ after.world.host.now) :
    after.Timed := by
  have hsound := hreach.sound
  cases hstep with
  | outside world hsteps =>
    exact ⟨htimed.current.keeps (hsound.state.keeps_steps hsteps),
      fun completion hmem => Nat.le_trans (htimed.past completion hmem) hclock, htimed.sorted,
      htimed.flight, htimed.applied⟩
  | plan hidle =>
    refine ⟨htimed.current.keeps (hsound.state.keeps_step (.planned _)), htimed.past,
      htimed.sorted, ?_, htimed.applied⟩
    intro flight hflight
    cases hflight
    exact htimed.current.rests hsound.state hreach.rooted htimed.sorted htimed.past
  | call hflight hjob =>
    refine ⟨htimed.current, htimed.past, htimed.sorted, ?_, htimed.applied⟩
    intro answered hanswered
    cases hanswered
    exact ⟨(htimed.flight _ hflight).late, (htimed.flight _ hflight).due⟩
  | abandon =>
    refine ⟨htimed.current, htimed.past, htimed.sorted, ?_, htimed.applied⟩
    intro flight hflight
    cases hflight
  | @apply flight hflight hdone =>
    have htracks : Tracks forced (run.completion flight).flight (run.completion flight).met :=
      hsound.flight hflight
    refine ⟨htimed.current.apply hsound.state htracks, ?_, ?_, ?_, ?_⟩
    · intro completion hmem
      rcases List.mem_cons.mp hmem with rfl | hmem
      · exact Nat.le_refl _
      · exact htimed.past completion hmem
    · refine List.pairwise_cons.mpr ⟨?_, htimed.sorted⟩
      intro moment hmoment
      obtain ⟨completion, hmem, rfl⟩ := List.mem_map.mp hmoment
      exact htimed.past completion hmem
    · intro flight' hflight'
      cases hflight'
    · intro completion earlier hsuffix
      rcases List.suffix_cons_iff.mp hsuffix with heq | hsuffix
      · cases heq
        exact htimed.flight flight hflight
      · exact htimed.applied completion earlier hsuffix

/-- While the clock does not go back, the stamps say what the history says. -/
theorem Timely.timed (htimely : Timely forced run) : run.Timed := by
  induction htimely with
  | start world layout settings hstate =>
    refine ⟨?_, ?_, .nil, ?_, ?_⟩
    · rw [hstate]
      exact .empty (fun _ => rfl) fun _ => rfl
    · intro completion hmem
      cases hmem
    · intro flight hflight
      cases hflight
    · intro completion earlier hsuffix
      exact absurd (List.eq_nil_of_suffix_nil hsuffix) (List.cons_ne_nil _ _)
  | step hbefore hstep hclock ih => exact ih.step hbefore.reachable hstep hclock

end Run

namespace Completion

variable {forced : Bool} {completion : Completion} {earlier : List Completion}
  {key : VariableId × String}

/-- Once all jobs were called, a key has as many calls as jobs. -/
theorem length_callsFor
    (hdone : completion.flight.calls.length = completion.flight.plan.jobs.length) :
    (completion.flight.callsFor key).length =
      (completion.flight.plan.jobs.map Job.key).count key := by
  have hjobs : (completion.flight.plan.jobs.zip completion.flight.calls).map Prod.fst =
      completion.flight.plan.jobs := List.map_fst_zip (Nat.le_of_eq hdone.symm)
  calc (completion.flight.callsFor key).length
      = (completion.flight.plan.jobs.zip completion.flight.calls).countP
          fun entry => entry.1.key = key := by
        rw [Flight.callsFor, List.length_map, List.countP_eq_length_filter]
    _ = (((completion.flight.plan.jobs.zip completion.flight.calls).map Prod.fst).map
          Job.key).count key := by
        rw [List.map_map, List.count, List.countP_map]
        exact List.countP_congr fun entry _ => by simp
    _ = (completion.flight.plan.jobs.map Job.key).count key := by rw [hjobs]

/-- A call for a key was made for a job of the key. -/
theorem job_of_mem_callsFor {call : Call} (hfaithful : completion.flight.Faithful)
    (hmem : call ∈ completion.flight.callsFor key) : ∃ job ∈ completion.flight.plan.jobs,
      job.key = key ∧ call.callable = job.callable ∧ call.arg = job.arg := by
  obtain ⟨⟨job, found⟩, hentry, rfl⟩ := List.mem_map.mp hmem
  obtain ⟨hzip, hkey⟩ := List.mem_filter.mp hentry
  obtain ⟨slot, hslot⟩ := List.mem_iff_getElem?.mp hzip
  obtain ⟨hjob, hcall⟩ := List.getElem?_zip_eq_some.mp hslot
  obtain ⟨called, hcalled, hcallable, harg⟩ := hfaithful slot found hcall
  have hsame : called = job := Option.some.inj (hcalled.symm.trans hjob)
  rw [hsame] at hcallable harg
  exact ⟨job, List.mem_of_getElem? hjob, by simpa using hkey, hcallable, harg⟩

/-- A tick calls what its plan has. -/
theorem evaluates_of_rests (htracks : Tracks forced completion.flight completion.met)
    (hdone : completion.flight.calls.length = completion.flight.plan.jobs.length)
    (hrests : completion.flight.Rests earlier) : completion.Evaluates earlier := by
  intro id subscription variable_ hget hvariable hrested
  have hone := hrests.due id subscription variable_ hget hvariable hrested
  rw [← length_callsFor hdone] at hone
  obtain ⟨call, hcalls⟩ := List.length_eq_one_iff.mp hone
  obtain ⟨job, hjob, hkey, hcallable, harg⟩ :=
    job_of_mem_callsFor htracks.faithful (by rw [hcalls]; exact List.mem_singleton_self call)
  obtain ⟨pair, _, hfor⟩ := State.mem_jobs_plan hjob
  obtain ⟨_, callable, _, hready, rfl⟩ := State.jobFor_eq_some_iff.mp hfor
  have hpair : pair.1 = subscription.interest.variable_ := congrArg Prod.fst hkey
  rw [hpair] at hready
  exact ⟨call, hcalls, by rw [hready, hcallable], by rw [harg]; exact congrArg Prod.snd hkey⟩

end Completion

/-- While the clock does not go back, the timeouts limit how often variables are evaluated. No tick,
not even one that is still in flight, has a job for a key before the timeout of the variable has run
out since each value that was recorded for it, unless the variable runs on every tick or somebody
waits for a first value. And every tick that was applied evaluated, exactly once, each key that
somebody was subscribed to and whose timeout had run out since its last value. -/
theorem Run.Timely.evaluated_iff_due {forced : Bool} {run : Run} (htimely : run.Timely forced) :
    (∀ flight, run.flight = some flight → flight.Rests run.history) ∧
    (∀ completion earlier, completion :: earlier <:+ run.history →
      completion.flight.Rests earlier ∧ completion.Evaluates earlier) := by
  have htimed := htimely.timed
  refine ⟨htimed.flight, ?_⟩
  intro completion earlier hsuffix
  obtain ⟨_, htracks, hdone⟩ :=
    htimely.reachable.sound.history (hsuffix.subset List.mem_cons_self)
  have hrests := htimed.applied completion earlier hsuffix
  exact ⟨hrests, Completion.evaluates_of_rests htracks hdone hrests⟩

namespace Sample

/-- The state with a variable that rests for two seconds. -/
def drowsy : State :=
  { empty.world.state with
    registry := (empty.world.state.registry.install
      ⟨⟨⟨1⟩, office⟩, .builtin "office", [Declared.variableOf "door" 2 0]⟩).1 }

/-- A daemon with a subscriber to that variable. -/
def yawning : Run :=
  { empty with
    world := empty.world.withState
      (({ drowsy with lastConnection := 1 }.reconnect ⟨1⟩ Outbox.defaultCapacity).1.subscribe
        ⟨⟨1⟩, "a", "door", none, false⟩).1 }

/-- Its first tick, all of whose jobs were called. -/
def nod : Flight :=
  (⟨yawning.world.state, yawning.world.host.now, []⟩ : Flight).answered yawning.takeOff.world job

/-- The daemon after its first tick. -/
def dozing : Run := { yawning.takeOff with flight := some nod }.land nod

/-- The world some time later. -/
def later (now : Nat) : World :=
  { dozing.world with host := { dozing.world.host with now := now } }

/-- The next plan. -/
def roused (now : Nat) : Run := { dozing with world := later now }.takeOff

/-- The daemon comes to its next plan in a run whose clock does not go back. -/
theorem timely_roused (forced : Bool) (now : Nat) : (roused now).Timely forced := by
  have hstart : Run.Timely forced empty := .start _ .everything .default rfl
  have hinstalled : State.Step forced empty.world.state drowsy := .installed _
  have hconnected : State.Step forced drowsy
      ({ drowsy with lastConnection := 1 }.reconnect ⟨1⟩ Outbox.defaultCapacity).1 :=
    .connected _ _ _ rfl
  have hsteps : State.Steps forced empty.world.state yawning.world.state :=
    ((Relation.ReflTransGen.single hinstalled).tail hconnected).tail (.subscribed _)
  have hsubscribed : Run.Timely forced yawning := hstart.step (.outside _ hsteps) (Nat.le_refl _)
  have hplan : Run.Timely forced yawning.takeOff := hsubscribed.step (.plan rfl) (Nat.le_refl _)
  have hcall : Run.Timely forced { yawning.takeOff with flight := some nod } :=
    hplan.step (.call rfl (by with_unfolding_all rfl)) (Nat.le_refl _)
  have happly : Run.Timely forced dozing :=
    hcall.step (.apply rfl (by with_unfolding_all rfl)) (Nat.le_refl _)
  have hlater : Run.Timely forced { dozing with world := later now } :=
    happly.step (.outside _ .refl) (Nat.zero_le _)
  exact hlater.step (.plan rfl) (Nat.le_refl _)

end Sample

/-- A second after its first value a variable with a timeout of two seconds rests, and another
second later it is evaluated again. -/
theorem evaluated_iff_due_roused :
    (∃ flight, (Sample.roused 1000000000).flight = some flight ∧ flight.plan.jobs = [] ∧
      flight.Rests (Sample.roused 1000000000).history) ∧
    (∃ flight, (Sample.roused 2000000000).flight = some flight ∧
      (flight.plan.jobs.map Job.key) = [(⟨1⟩, "")] ∧
      flight.Rests (Sample.roused 2000000000).history) :=
  ⟨⟨_, rfl, by with_unfolding_all rfl,
      (Run.Timely.evaluated_iff_due (Sample.timely_roused false 1000000000)).1 _ rfl⟩,
    ⟨_, rfl, by with_unfolding_all rfl,
      (Run.Timely.evaluated_iff_due (Sample.timely_roused false 2000000000)).1 _ rfl⟩⟩

end MetricsDaemon
