import MetricsDaemon.Proofs.Gathering

/-!
# Plans are exact

While no module is unloaded under its subscribers, every subscription is on a variable
that can be evaluated. So a plan has the jobs of the variables that run on every tick,
then those of the keys that some subscription is due for, each once and no others, and
its targets are the subscriptions whose key has a job.
-/

namespace MetricsDaemon

/-! ## One plan -/

section Gather

variable {jobFor : VariableId × Option String → Option Job}

/-- Where all keys differ, every pair that has a job gets it. -/
theorem gather_of_nodup (hkey : ∀ pair job, jobFor pair = some job → job.key = keyOf pair)
    (pairs : List (VariableId × Option String)) (hnodup : (pairs.map keyOf).Nodup) :
    pairs.foldl (gather jobFor) [] = pairs.filterMap jobFor := by
  induction pairs using List.reverseRecOn with
  | nil => rfl
  | append_singleton pairs pair ih =>
    rw [List.map_append, List.nodup_append] at hnodup
    obtain ⟨hpairs, _, hdistinct⟩ := hnodup
    have hnew : keyOf pair ∉ (pairs.foldl (gather jobFor) []).map Job.key := by
      intro hmem
      obtain ⟨job, hjob, hsame⟩ := List.mem_map.mp hmem
      obtain ⟨other, hother, hfound⟩ := mem_gather pairs hjob
      rw [hkey other job hfound] at hsame
      exact hdistinct _ (List.mem_map_of_mem hother) _ (by simp) hsame
    rw [List.foldl_append, List.foldl_cons, List.foldl_nil, gather,
      findJob_eq_none_iff.mpr hnew, ih hpairs, List.filterMap_append]
    cases hjob : jobFor pair <;> simp [hjob]

end Gather

namespace State

variable {state : State} {now : Nat} {id : SubscriptionId} {subscription : Subscription}
  {variableId : VariableId}

/-- Whether a subscription was never served, or its variable is due. -/
def isAsking (state : State) (now : Nat) (subscription : Subscription) : Bool :=
  subscription.first || (state.variableOf subscription).any fun variable_ =>
    variable_.isDue subscription.interest.arg now

/-- The keys that somebody asks for, in the order of the subscriptions. -/
def askedKeys (state : State) (now : Nat) : List (VariableId × String) :=
  (state.subscriptions.toList.filter (state.isAsking now)).map fun subscription =>
    subscription.interest.key

/-- What a plan has, and that it has nothing else. -/
structure PlansExactly (state : State) (now : Nat) : Prop where
  /-- First come the jobs of the variables that run on every tick, in the order of their numbers,
  then one for each further key that somebody asks for, in the order in which it is asked for. -/
  jobs : ∃ fixed further, (state.plan now).2.jobs = fixed ++ further ∧
    (∀ job ∈ fixed, job.arg = none) ∧
    (fixed.map fun job => job.variable_.number).Pairwise (· < ·) ∧
    (∀ id, id ∈ fixed.map Job.variable_ ↔ ∃ variable_, state.directory.get? id = some variable_ ∧
      variable_.isCron = true ∧ (state.callableFor id).isSome) ∧
    further.map Job.key = ((state.askedKeys now).filter fun key =>
      decide (key ∉ fixed.map Job.key)).eraseDups
  /-- A job has the type of its variable and calls what the method of the variable leads to. -/
  ready : ∀ job ∈ (state.plan now).2.jobs, ∃ variable_,
    state.directory.get? job.variable_ = some variable_ ∧ job.type = variable_.type ∧
      state.callableFor job.variable_ = some job.callable
  distinct : ((state.plan now).2.jobs.map Job.key).Nodup
  /-- The table has the subscriptions in the order in which they were made, and so do the targets.
  -/
  ordered : (state.subscriptions.toList.map fun subscription => subscription.id.number).Pairwise
    (· < ·)
  ascending : ((state.plan now).2.targets.map fun target => target.1.number).Pairwise (· < ·)
  targets : ∀ id slot, (id, slot) ∈ (state.plan now).2.targets ↔ ∃ subscription job,
    state.subscriptions.get? id = some subscription ∧ (state.plan now).2.jobs[slot]? = some job ∧
      job.key = subscription.interest.key
  /-- No subscription is left out because its variable is broken, and none because it is gone. -/
  live : state.cronJobs.1.liveSubscriptions = state.subscriptions.toList
  orphans : (state.plan now).2.orphans = []

/-- A job is made for a variable exactly when there is something to call for it. -/
theorem isSome_jobFor (pair : VariableId × Option String) :
    (state.jobFor pair).isSome = (state.callableFor pair.1).isSome := by
  rw [jobFor, callableFor]
  cases hget : state.directory.get? pair.1 with
  | none => rfl
  | some variable_ =>
    simp only [Option.bind_eq_bind, Option.bind_some, Option.pure_def]
    cases (state.registry.unitOf variable_.module_).bind fun unit =>
      Directory.callableOf (variable_.bindWith unit.resolve).binding <;> rfl

/-- Whoever is subscribed can be served. -/
theorem Sound.ready (hsound : state.Sound false)
    (hget : state.subscriptions.get? id = some subscription) : ∃ variable_ callable,
      state.directory.get? subscription.interest.variable_ = some variable_ ∧
      variable_.binding = .ready callable ∧
      state.callableFor subscription.interest.variable_ = some callable := by
  obtain ⟨variable_, callable, hvariable, _, hbinding⟩ :=
    hsound.booked.anchored hget (hsound.held rfl hget)
  exact ⟨variable_, callable, hvariable, hbinding,
    callableFor_of_ready hsound.booked.modules hvariable hbinding⟩

/-- Whoever is not about to be removed wants a value only if it asks for one. -/
theorem isWanting_eq_isAsking (hpending : subscription.pending = false) :
    state.isWanting now subscription = state.isAsking now subscription := by
  rw [isWanting, isAsking, hpending, Bool.or_false, Bool.or_comm]

/-- The jobs of the variables that run on every tick. -/
def fixedJobs (state : State) : List Job :=
  state.directory.cronIds.filterMap fun id => state.jobFor (id, none)

/-- The jobs that run on every tick are for the CRON variables for which there is something to
call. -/
theorem variables_fixedJobs (state : State) : state.fixedJobs.map Job.variable_ =
    state.directory.cronIds.filter fun id => (state.callableFor id).isSome := by
  rw [fixedJobs]
  induction state.directory.cronIds with
  | nil => rfl
  | cons id ids ih =>
    have hsome := state.isSome_jobFor (id, none)
    cases hjob : state.jobFor (id, none) with
    | none =>
      rw [hjob] at hsome
      simp [hjob, ← hsome, ih]
    | some job =>
      rw [hjob] at hsome
      obtain ⟨_, _, _, _, rfl⟩ := jobFor_eq_some_iff.mp hjob
      simp [hjob, ← hsome, ih]

/-- The CRON variables are listed in the order of their numbers. -/
theorem ascending_cronIds (hsound : state.directory.Sound) :
    (state.directory.cronIds.map VariableId.number).Pairwise (· < ·) := by
  rw [hsound.cronIds_eq, List.pairwise_map]
  exact (List.pairwise_map.mp hsound.counted.ascending).filter _

/-- The jobs that run on every tick are gathered from the CRON variables, without an argument. -/
theorem fixedJobs_eq (hsound : state.directory.Sound) : state.fixedJobs =
    (state.directory.cronIds.map fun id => (id, none)).foldl (gather state.jobFor) [] := by
  rw [gather_of_nodup (fun _ _ => key_of_jobFor), List.filterMap_map]
  · rfl
  · rw [List.map_map, List.nodup_iff_pairwise_ne, List.pairwise_map]
    refine (List.pairwise_map.mp (ascending_cronIds hsound)).imp fun hlt heq => ?_
    have hsame := congrArg (fun key : VariableId × String => key.1.number) heq
    dsimp only [Function.comp, keyOf] at hsame
    omega

/-- A variable has a job that runs on every tick exactly when it is a CRON variable with something
to call. -/
theorem mem_fixedJobs_iff (hsound : state.directory.Sound) :
    variableId ∈ state.fixedJobs.map Job.variable_ ↔
      ∃ variable_, state.directory.get? variableId = some variable_ ∧ variable_.isCron = true ∧
        (state.callableFor variableId).isSome := by
  rw [variables_fixedJobs, List.mem_filter, hsound.cronIds_eq, List.mem_filter,
    Table.mem_keys_iff]
  constructor
  · rintro ⟨⟨⟨variable_, hget⟩, hcron⟩, hsome⟩
    have hvariable : state.directory.get? variableId = some variable_ := hget
    rw [hvariable] at hcron
    exact ⟨variable_, hvariable, hcron, hsome⟩
  · rintro ⟨variable_, hget, hcron, hsome⟩
    refine ⟨⟨⟨variable_, hget⟩, ?_⟩, hsome⟩
    rw [hget]
    exact hcron

/-- Every subscription that wants a value has a job for it. -/
theorem Sound.keys_wanting (hsound : state.Sound false) :
    (((state.subscriptions.toList.filter (state.isWanting now)).map pairOf).filter fun pair =>
      (state.jobFor pair).isSome).map keyOf = state.askedKeys now := by
  have hwanting : state.subscriptions.toList.filter (state.isWanting now) =
      state.subscriptions.toList.filter (state.isAsking now) :=
    List.filter_congr fun subscription hmem =>
      isWanting_eq_isAsking (hsound.settled (hsound.booked.table.mem_toList_iff.mp hmem))
  have hall : ((state.subscriptions.toList.filter (state.isAsking now)).map pairOf).filter
      (fun pair => (state.jobFor pair).isSome) =
        (state.subscriptions.toList.filter (state.isAsking now)).map pairOf := by
    rw [List.filter_eq_self]
    intro pair hmem
    obtain ⟨subscription, hsubscription, rfl⟩ := List.mem_map.mp hmem
    have hget := hsound.booked.table.mem_toList_iff.mp (List.mem_filter.mp hsubscription).1
    obtain ⟨_, callable, _, _, hcallable⟩ := hsound.ready hget
    rw [isSome_jobFor, pairOf, hcallable]
    rfl
  rw [hwanting, hall, List.map_map]
  rfl

/-- Whatever runs on every tick comes first. -/
theorem fixedJobs_prefix {now : Nat} (hdirectory : state.directory.Sound) :
    state.fixedJobs <+: (state.plan now).2.jobs := by
  rw [jobs_plan, pairs, List.foldl_append, ← fixedJobs_eq hdirectory]
  exact prefix_gather _ _

/-- After the jobs of variables that run on every tick come those of the further keys. -/
theorem Sound.jobs_further (hsound : state.Sound false) (now : Nat) : ∃ further,
    (state.plan now).2.jobs = state.fixedJobs ++ further ∧
      further.map Job.key = ((state.askedKeys now).filter fun key =>
        decide (key ∉ state.fixedJobs.map Job.key)).eraseDups := by
  have hkeys (pairs : List (VariableId × Option String)) :
      (pairs.foldl (gather state.jobFor) []).map Job.key =
        ((pairs.filter fun pair => (state.jobFor pair).isSome).map keyOf).eraseDups :=
    keys_gather (fun _ _ => key_of_jobFor) pairs
  have hfixed := fixedJobs_eq hsound.booked.modules.directory
  have hjobs := state.jobs_plan now
  have hall := hkeys (state.pairs now)
  have hfirst := hkeys (state.directory.cronIds.map fun id => (id, none))
  rw [← hjobs] at hall
  rw [← hfixed] at hfirst
  obtain ⟨further, hfurther⟩ : state.fixedJobs <+: (state.plan now).2.jobs :=
    fixedJobs_prefix hsound.booked.modules.directory
  refine ⟨further, hfurther.symm, ?_⟩
  rw [← hfurther, pairs, List.filter_append, List.map_append, List.map_append,
    List.eraseDups_append, hsound.keys_wanting, ← hfirst] at hall
  rw [List.append_cancel_left hall, List.removeAll]
  congr 1
  refine List.filter_congr fun key _ => ?_
  rw [hfirst, List.elem_eq_mem]
  simp only [List.mem_eraseDups, decide_not]

/-- After the CRON variables were bound, all subscriptions are live. -/
theorem Sound.liveSubscriptions_cronJobs (hsound : state.Sound false) :
    state.cronJobs.1.liveSubscriptions = state.subscriptions.toList := by
  have hcron : state.Prebinds state.cronJobs.1 := prebinds_addJobs _ (state, [])
  rw [liveSubscriptions, hcron.subscriptions, List.filter_eq_self]
  intro subscription hmem
  obtain ⟨variable_, callable, hvariable, hbinding, _⟩ :=
    hsound.ready (hsound.booked.table.mem_toList_iff.mp hmem)
  obtain ⟨found, hfound, hahead⟩ := hcron.directory.ahead hvariable
  have hsame : found = variable_ := by
    rcases hahead with rfl | ⟨unit, _, rfl⟩
    · rfl
    · exact Variable.bindWith_of_ne_unresolved (by simp [hbinding])
  rw [variableOf, hfound, hsame, Option.any_some]
  simp [Variable.isBroken, hbinding]

/-- A sound state plans what it has to plan, and nothing else. -/
theorem Sound.plansExactly (hsound : state.Sound false) (now : Nat) :
    state.PlansExactly now where
  jobs := by
    obtain ⟨further, hjobs, hkeys⟩ := hsound.jobs_further now
    refine ⟨state.fixedJobs, further, hjobs, ?_, ?_, ?_, hkeys⟩
    · intro job hmem
      obtain ⟨id, _, hjob⟩ := List.mem_filterMap.mp hmem
      obtain ⟨_, _, _, _, rfl⟩ := jobFor_eq_some_iff.mp hjob
      rfl
    · have hascending := ascending_cronIds hsound.booked.modules.directory
      rw [List.pairwise_map] at hascending
      have hids : (state.fixedJobs.map Job.variable_).Pairwise
          fun first second => first.number < second.number := by
        rw [variables_fixedJobs]
        exact hascending.filter _
      rw [List.pairwise_map] at hids ⊢
      exact hids
    · exact fun id => mem_fixedJobs_iff hsound.booked.modules.directory
  ready := by
    intro job hmem
    obtain ⟨pair, _, hjob⟩ := mem_jobs_plan hmem
    obtain ⟨variable_, callable, hvariable, hcallable, rfl⟩ := jobFor_eq_some_iff.mp hjob
    exact ⟨variable_, hvariable, rfl, hcallable⟩
  distinct := (collects_plan hsound.booked.modules.directory).distinct
  ordered := hsound.booked.table.ordered_toList
  ascending := ascending_targets hsound.booked.table
  targets := by
    intro id slot
    rw [mem_targets_iff hsound.booked.table]
    constructor
    · rintro ⟨subscription, hget, hfind⟩
      obtain ⟨job, hjob, hkey⟩ := job_of_findJob hfind
      exact ⟨subscription, job, hget, hjob, hkey⟩
    · rintro ⟨subscription, job, hget, hjob, hkey⟩
      refine ⟨subscription, hget, ?_⟩
      rw [← hkey]
      exact findJob_of_getElem? (collects_plan hsound.booked.modules.directory).distinct hjob
  live := hsound.liveSubscriptions_cronJobs
  orphans := by
    rw [orphans_plan_eq, orphans, List.map_eq_nil_iff, List.filter_eq_nil_iff]
    intro subscription hmem
    obtain ⟨_, _, hvariable, _⟩ := hsound.ready (hsound.booked.table.mem_toList_iff.mp hmem)
    rw [variableOf, hvariable]
    simp

end State

end MetricsDaemon
