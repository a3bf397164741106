import Mathlib.Data.List.Induction
import MetricsDaemon.Proofs.Prebinding

/-!
# Which jobs a plan has

A plan goes through the variables and arguments that are wanted, binds each method when
it comes to it, and skips what cannot be evaluated. What comes out does not depend on
what is bound in between: it is the jobs of the pairs that have one, each key once, in
the order of their first pairs.
-/

namespace MetricsDaemon

/-- The variable and the argument of a job, without distinction between no argument and an empty
one. -/
def keyOf (pair : VariableId × Option String) : VariableId × String := (pair.1, sampleKey pair.2)

/-- Add the job of a pair, if there is one and its key is new. -/
def gather (jobFor : VariableId × Option String → Option Job) (jobs : List Job)
    (pair : VariableId × Option String) : List Job :=
  if (findJob jobs (keyOf pair)).isSome then jobs else jobs ++ (jobFor pair).toList

section Gather

variable {jobFor : VariableId × Option String → Option Job} {jobs : List Job} {job : Job}

/-- What is gathered is the job of one of the pairs. -/
theorem mem_gather (pairs : List (VariableId × Option String))
    (hmem : job ∈ pairs.foldl (gather jobFor) []) : ∃ pair ∈ pairs, jobFor pair = some job := by
  induction pairs using List.reverseRecOn with
  | nil => cases hmem
  | append_singleton pairs pair ih =>
    rw [List.foldl_append, List.foldl_cons, List.foldl_nil, gather] at hmem
    split at hmem
    · obtain ⟨found, hfound, hjob⟩ := ih hmem
      exact ⟨found, List.mem_append_left _ hfound, hjob⟩
    · rcases List.mem_append.mp hmem with hmem | hmem
      · obtain ⟨found, hfound, hjob⟩ := ih hmem
        exact ⟨found, List.mem_append_left _ hfound, hjob⟩
      · exact ⟨pair, List.mem_append_right _ (List.mem_singleton_self _),
          Option.mem_toList.mp hmem⟩

/-- Going on adds jobs at the end. -/
theorem prefix_gather (jobs : List Job) (pairs : List (VariableId × Option String)) :
    jobs <+: pairs.foldl (gather jobFor) jobs := by
  induction pairs generalizing jobs with
  | nil => exact List.prefix_rfl
  | cons pair pairs ih =>
    have hstep : jobs <+: gather jobFor jobs pair := by
      unfold gather
      split
      · exact List.prefix_rfl
      · exact List.prefix_append _ _
    exact hstep.trans (ih _)

/-- Each key that has a job comes once, where it came first. -/
theorem keys_gather (hkey : ∀ pair job, jobFor pair = some job → job.key = keyOf pair)
    (pairs : List (VariableId × Option String)) :
    (pairs.foldl (gather jobFor) []).map Job.key =
      ((pairs.filter fun pair => (jobFor pair).isSome).map keyOf).eraseDups := by
  induction pairs using List.reverseRecOn with
  | nil => rfl
  | append_singleton pairs pair ih =>
    rw [List.foldl_append, List.foldl_cons, List.foldl_nil, gather, List.filter_append,
      List.map_append, List.eraseDups_append, ← ih]
    cases hjob : jobFor pair with
    | none =>
      have hnone : [pair].filter (fun pair => (jobFor pair).isSome) = [] := by simp [hjob]
      rw [hnone, Option.toList_none, List.append_nil, ite_self]
      simp [List.removeAll]
    | some job =>
      have hone : [pair].filter (fun pair => (jobFor pair).isSome) = [pair] := by simp [hjob]
      have hmem : keyOf pair ∈ (pairs.filter fun pair => (jobFor pair).isSome).map keyOf ↔
          keyOf pair ∈ (pairs.foldl (gather jobFor) []).map Job.key := by
        rw [ih, List.mem_eraseDups]
      rw [hone, List.map_singleton]
      generalize (pairs.filter fun pair => (jobFor pair).isSome).map keyOf = earlier at hmem ⊢
      cases hfind : findJob (pairs.foldl (gather jobFor) []) (keyOf pair) with
      | none =>
        have hnew : keyOf pair ∉ earlier := fun h => findJob_eq_none_iff.mp hfind (hmem.mp h)
        simp [hkey pair job hjob, List.removeAll, hnew, List.eraseDups_cons]
      | some slot =>
        have hold : keyOf pair ∈ earlier := by
          by_contra hnew
          rw [findJob_eq_none_iff.mpr fun h => hnew (hmem.mpr h)] at hfind
          cases hfind
        simp [List.removeAll, hold]

end Gather

namespace State

variable {plain bound state : State} {progress : State × List Job} {now : Nat}
  {pair : VariableId × Option String}

/-! ## The job of a pair -/

/-- What the method of a variable leads to, whether or not it was asked for already. -/
def callableFor (state : State) (id : VariableId) : Option Callable := do
  let variable_ ← state.directory.get? id
  let unit ← state.registry.unitOf variable_.module_
  Directory.callableOf (variable_.bindWith unit.resolve).binding

/-- The job of a variable and an argument, if the variable can be evaluated. -/
def jobFor (state : State) (pair : VariableId × Option String) : Option Job := do
  let variable_ ← state.directory.get? pair.1
  let callable ← state.callableFor pair.1
  return ⟨pair.1, variable_.type, pair.2, callable⟩

/-- A pair has a job if its variable is registered and its method can be called. -/
theorem jobFor_eq_some_iff {job : Job} : state.jobFor pair = some job ↔
    ∃ variable_ callable, state.directory.get? pair.1 = some variable_ ∧
      state.callableFor pair.1 = some callable ∧
      job = ⟨pair.1, variable_.type, pair.2, callable⟩ := by
  simp only [jobFor, Option.bind_eq_bind, Option.pure_def, Option.bind_eq_some_iff,
    Option.some.injEq]
  constructor
  · rintro ⟨variable_, hvariable, callable, hcallable, rfl⟩
    exact ⟨variable_, callable, hvariable, hcallable, rfl⟩
  · rintro ⟨variable_, callable, hvariable, hcallable, rfl⟩
    exact ⟨variable_, hvariable, callable, hcallable, rfl⟩

/-- The job of a pair has its key. -/
theorem key_of_jobFor {job : Job} (hjob : state.jobFor pair = some job) : job.key = keyOf pair := by
  obtain ⟨_, _, _, _, rfl⟩ := jobFor_eq_some_iff.mp hjob
  rfl

/-- Early bindings make no difference to what can be called. -/
theorem Prebinds.callableFor (hbound : plain.Prebinds bound) (id : VariableId) :
    bound.callableFor id = plain.callableFor id := by
  have hunits : bound.registry.unitOf = plain.registry.unitOf := by
    funext module_
    rw [Registry.unitOf, Registry.unitOf, hbound.registry.get?]
  rw [State.callableFor, State.callableFor, hunits]
  cases hget : plain.directory.get? id with
  | none => rw [hbound.directory.get?_eq_none_iff.mpr hget]
  | some variable_ =>
    obtain ⟨found, hfound, hahead⟩ := hbound.directory.ahead hget
    simp only [hfound, Option.bind_eq_bind, Option.bind_some, hahead.module]
    cases hunit : plain.registry.unitOf variable_.module_ with
    | none => rfl
    | some unit => rw [Option.bind_some, Option.bind_some, hahead.bindWith_eq hunit]

/-- Early bindings make no difference to the jobs. -/
theorem Prebinds.jobFor (hbound : plain.Prebinds bound) : bound.jobFor = plain.jobFor := by
  funext pair
  rw [State.jobFor, State.jobFor, hbound.callableFor]
  cases hget : plain.directory.get? pair.1 with
  | none => rw [hbound.directory.get?_eq_none_iff.mpr hget]
  | some variable_ =>
    obtain ⟨found, hfound, hahead⟩ := hbound.directory.ahead hget
    have htype : found.type = variable_.type := Variable.type_eq_of_profile_eq hahead.profile
    simp only [hfound, Option.bind_eq_bind, Option.bind_some, htype]

/-- What can be called for a variable is what binding its method gives. -/
theorem callableFor_eq {variable_ : Variable} {module_ : Module}
    (hvariable : state.directory.get? pair.1 = some variable_)
    (hmodule : state.registry.get? variable_.module_ = some module_) :
    state.callableFor pair.1 = (state.bindMethod module_.unit pair.1).2 := by
  have hcallable : (state.bindMethod module_.unit pair.1).2 =
      (state.directory.resolve pair.1 module_.unit.resolve).2.callable := rfl
  have hunit : state.registry.unitOf variable_.module_ = some module_.unit := by
    rw [Registry.unitOf, hmodule, Option.map_some]
  rw [hcallable, Directory.callable_resolve, callableFor, hvariable]
  simp only [Option.bind_eq_bind, Option.bind_some, hunit]

/-- A variable that is bound leads to its callable. -/
theorem callableFor_of_ready {variable_ : Variable} {callable : Callable} {id : VariableId}
    (hmodules : state.registry.Sound) (hvariable : state.directory.get? id = some variable_)
    (hbinding : variable_.binding = .ready callable) : state.callableFor id = some callable := by
  obtain ⟨module_, hmodule, _⟩ := hmodules.owner hvariable
  have hunit : state.registry.unitOf variable_.module_ = some module_.unit := by
    rw [Registry.unitOf, hmodule, Option.map_some]
  have hbound : (variable_.bindWith module_.unit.resolve).binding = .ready callable := by
    rw [Variable.bindWith_of_ne_unresolved (by simp [hbinding]), hbinding]
  simp only [callableFor, hvariable, Option.bind_eq_bind, Option.bind_some, hunit, hbound,
    Directory.callableOf]

/-- Bind the method of a variable through the unit of its module, if both are there. -/
def askFor (state : State) (id : VariableId) : State :=
  match state.directory.get? id with
  | none => state
  | some variable_ =>
      match state.registry.get? variable_.module_ with
      | none => state
      | some module_ => (state.bindMethod module_.unit id).1

/-- To ask for a registered variable is to bind its method through the unit of its module. -/
theorem askFor_of_get? {variable_ : Variable} {module_ : Module} {id : VariableId}
    (hvariable : state.directory.get? id = some variable_)
    (hmodule : state.registry.get? variable_.module_ = some module_) :
    state.askFor id = (state.bindMethod module_.unit id).1 := by
  simp [askFor, hvariable, hmodule]

/-- To ask for a variable is to bind early at most. -/
theorem prebinds_askFor (state : State) (id : VariableId) : state.Prebinds (state.askFor id) := by
  unfold askFor
  split
  · exact .refl state
  · next hvariable =>
    split
    · exact .refl state
    · next hmodule => exact prebinds_bindMethod (Registry.owns_of_get? hvariable hmodule)

/-- States stay prebound when both ask for the same variable. -/
theorem Prebinds.askFor (hbound : plain.Prebinds bound) (id : VariableId) :
    (plain.askFor id).Prebinds (bound.askFor id) := by
  cases hvariable : plain.directory.get? id with
  | none =>
    have hgone := hbound.directory.get?_eq_none_iff.mpr hvariable
    simpa [State.askFor, hvariable, hgone] using hbound
  | some variable_ =>
    obtain ⟨found, hfound, hahead⟩ := hbound.directory.ahead hvariable
    cases hmodule : plain.registry.get? variable_.module_ with
    | none =>
      have hgone : bound.registry.get? found.module_ = none := by
        rw [hbound.registry.get?, hahead.module, hmodule]
      simpa [State.askFor, hvariable, hmodule, hfound, hgone] using hbound
    | some module_ =>
      have hthere : bound.registry.get? found.module_ = some module_ := by
        rw [hbound.registry.get?, hahead.module, hmodule]
      rw [askFor_of_get? hvariable hmodule, askFor_of_get? hfound hthere]
      exact hbound.bindMethod (Registry.owns_of_get? hvariable hmodule)

/-- Whether a variable is gone, or its method was asked for in vain. -/
def isHopeless (state : State) (id : VariableId) : Bool :=
  (state.directory.get? id).all Variable.isBroken

/-- What is no live subscription is on a hopeless variable. -/
theorem isHopeless_of_not_live {subscription : Subscription}
    (hnot : (state.variableOf subscription).any (fun variable_ => !variable_.isBroken) = false) :
    state.isHopeless subscription.interest.variable_ = true := by
  rw [variableOf] at hnot
  rw [isHopeless]
  cases hget : state.directory.get? subscription.interest.variable_ with
  | none => rfl
  | some variable_ => simpa [hget] using hnot

/-- Nobody is asked for the method of a hopeless variable. -/
theorem askFor_of_isHopeless {id : VariableId} (hhopeless : state.isHopeless id = true) :
    state.askFor id = state := by
  cases hvariable : state.directory.get? id with
  | none => simp [askFor, hvariable]
  | some variable_ =>
    have hbroken : variable_.binding = .broken := by
      rw [isHopeless, hvariable, Option.all_some] at hhopeless
      exact Variable.isBroken_iff.mp hhopeless
    cases hmodule : state.registry.get? variable_.module_ with
    | none => simp [askFor, hvariable, hmodule]
    | some module_ =>
      have hresolve : state.directory.resolve id module_.unit.resolve =
          (state.directory, ⟨none, none⟩) := by
        rw [Directory.resolve_of_ne_unresolved hvariable (by simp [hbroken]), hbroken]
        rfl
      rw [askFor_of_get? hvariable hmodule, bindMethod, hresolve]
      rfl

/-- There is no job for a hopeless variable. -/
theorem jobFor_of_isHopeless (hhopeless : state.isHopeless pair.1 = true) :
    state.jobFor pair = none := by
  cases hjob : state.jobFor pair with
  | none => rfl
  | some job =>
    obtain ⟨variable_, callable, hvariable, hcallable, _⟩ := jobFor_eq_some_iff.mp hjob
    rw [isHopeless, hvariable, Option.all_some] at hhopeless
    have hbroken := Variable.isBroken_iff.mp hhopeless
    simp only [callableFor, hvariable, Option.bind_eq_bind, Option.bind_some,
      Option.bind_eq_some_iff] at hcallable
    obtain ⟨unit, _, hcallable⟩ := hcallable
    rw [Variable.bindWith_of_ne_unresolved (by simp [hbroken]), hbroken] at hcallable
    cases hcallable

/-- A variable that is hopeless stays so with early bindings. -/
theorem Prebinds.isHopeless {id : VariableId} (hbound : plain.Prebinds bound)
    (hhopeless : plain.isHopeless id = true) : bound.isHopeless id = true := by
  rw [State.isHopeless] at hhopeless ⊢
  cases hvariable : plain.directory.get? id with
  | none =>
    rw [hbound.directory.get?_eq_none_iff.mpr hvariable]
    rfl
  | some variable_ =>
    rw [hvariable, Option.all_some] at hhopeless
    have hbroken := Variable.isBroken_iff.mp hhopeless
    obtain ⟨found, hfound, hahead⟩ := hbound.directory.ahead hvariable
    have hsame : found = variable_ := by
      rcases hahead with rfl | ⟨unit, _, rfl⟩
      · rfl
      · exact Variable.bindWith_of_ne_unresolved (by simp [hbroken])
    rw [hfound, hsame, Option.all_some, hhopeless]

/-! ## Collecting jobs -/

/-- Adding a job asks for the method and adds the job, unless there is one already. -/
theorem addJob_eq (state : State) (jobs : List Job) (pair : VariableId × Option String) :
    addJob (state, jobs) pair =
      if (findJob jobs (keyOf pair)).isSome then (state, jobs)
      else (state.askFor pair.1, jobs ++ (state.jobFor pair).toList) := by
  unfold addJob
  dsimp only
  rw [keyOf]
  split
  · rfl
  · split
    · next hvariable => simp [askFor, jobFor, hvariable]
    · next variable_ hvariable =>
      split
      · next hmodule =>
        have hunit : state.registry.unitOf variable_.module_ = none := by
          rw [Registry.unitOf, hmodule, Option.map_none]
        simp [askFor, jobFor, callableFor, hvariable, hmodule, hunit]
      · next module_ hmodule =>
        have hcallable := callableFor_eq hvariable hmodule
        rw [askFor_of_get? hvariable hmodule, jobFor, hcallable, hvariable]
        split <;> next heq => simp [heq]

/-- To look for the job of a pair is to gather it. -/
theorem addJob_snd (progress : State × List Job) (pair : VariableId × Option String) :
    (addJob progress pair).2 = gather progress.1.jobFor progress.2 pair := by
  rw [addJob_eq, gather]
  split <;> rfl

/-- To look for a job is to bind early at most. -/
theorem prebinds_addJob (progress : State × List Job) (pair : VariableId × Option String) :
    progress.1.Prebinds (addJob progress pair).1 := by
  rw [addJob_eq]
  split
  · exact .refl _
  · exact prebinds_askFor _ _

/-- To look for any number of jobs is to bind early at most. -/
theorem prebinds_addJobs (pairs : List (VariableId × Option String))
    (progress : State × List Job) : progress.1.Prebinds (pairs.foldl addJob progress).1 := by
  induction pairs generalizing progress with
  | nil => exact .refl _
  | cons pair pairs ih => exact (prebinds_addJob progress pair).trans (ih _)

/-- The jobs that are looked for are gathered by what the first state knows. -/
theorem addJobs_snd (pairs : List (VariableId × Option String)) (progress : State × List Job) :
    (pairs.foldl addJob progress).2 = pairs.foldl (gather progress.1.jobFor) progress.2 := by
  induction pairs generalizing progress with
  | nil => rfl
  | cons pair pairs ih =>
    rw [List.foldl_cons, ih, (prebinds_addJob progress pair).jobFor, addJob_snd, List.foldl_cons]

/-- Collecting the jobs of the same pairs ends in states that differ in what was bound before. -/
theorem Prebinds.addJobs (hbound : plain.Prebinds bound) (jobs : List Job)
    (pairs : List (VariableId × Option String)) :
    (pairs.foldl addJob (plain, jobs)).1.Prebinds (pairs.foldl addJob (bound, jobs)).1 := by
  induction pairs generalizing plain bound jobs with
  | nil => exact hbound
  | cons pair pairs ih =>
    rw [List.foldl_cons, List.foldl_cons, addJob_eq, addJob_eq, hbound.jobFor]
    split
    · exact ih hbound jobs
    · exact ih (hbound.askFor pair.1) _

/-! ## The jobs of a plan -/

/-- The variables and arguments that a plan goes through: those of variables that run on every tick,
then those of the subscriptions that want a value. -/
def pairs (state : State) (now : Nat) : List (VariableId × Option String) :=
  (state.directory.cronIds.map fun id => (id, none)) ++
    (state.subscriptions.toList.filter (state.isWanting now)).map pairOf

/-- Nothing comes of a pair whose variable is hopeless. -/
theorem addJob_of_isHopeless {jobs : List Job} (hhopeless : state.isHopeless pair.1 = true) :
    addJob (state, jobs) pair = (state, jobs) := by
  rw [addJob_eq, askFor_of_isHopeless hhopeless, jobFor_of_isHopeless hhopeless,
    Option.toList_none, List.append_nil, ite_self]

/-- It makes no difference that a plan leaves out subscriptions on hopeless variables. -/
theorem addJobs_live (hbound : state.Prebinds progress.1) (wants : Subscription → Bool)
    (subscriptions : List Subscription) :
    ((((subscriptions.filter fun subscription =>
        (state.variableOf subscription).any fun variable_ => !variable_.isBroken).filter
          wants).map pairOf).foldl addJob progress) =
      ((subscriptions.filter wants).map pairOf).foldl addJob progress := by
  induction subscriptions generalizing progress with
  | nil => rfl
  | cons subscription rest ih =>
    cases hwants : wants subscription with
    | false =>
      have hrest := ih hbound
      cases hlive : (state.variableOf subscription).any fun variable_ => !variable_.isBroken <;>
        simpa [hwants, hlive] using hrest
    | true =>
      cases hlive : (state.variableOf subscription).any fun variable_ => !variable_.isBroken with
      | true =>
        have hrest := ih (hbound.trans (prebinds_addJob progress (pairOf subscription)))
        simpa [hwants, hlive] using hrest
      | false =>
        have hhopeless : state.isHopeless (pairOf subscription).1 = true :=
          isHopeless_of_not_live hlive
        have hnothing : addJob progress (pairOf subscription) = progress :=
          addJob_of_isHopeless (hbound.isHopeless hhopeless)
        have hrest := ih hbound
        simpa [hwants, hlive, hnothing] using hrest

/-- A plan collects the jobs of its pairs and binds the methods on the way. -/
theorem plan_eq_addJobs (state : State) (now : Nat) :
    ((state.plan now).1, (state.plan now).2.jobs) = (state.pairs now).foldl addJob (state, []) := by
  have hcron : state.Prebinds state.cronJobs.1 := prebinds_addJobs _ (state, [])
  have hsame : state.cronJobs.1.isWanting now = state.isWanting now := by
    funext subscription
    exact hcron.isWanting
  rw [plan_eq, wantedPairs, liveSubscriptions, hsame, hcron.subscriptions,
    addJobs_live (.refl _), pairs, List.foldl_append]
  rfl

/-- To plan a tick is to bind early at most. -/
theorem prebinds_plan (state : State) (now : Nat) : state.Prebinds (state.plan now).1 := by
  have hplan := congrArg Prod.fst (state.plan_eq_addJobs now)
  dsimp only at hplan
  rw [hplan]
  exact prebinds_addJobs _ (state, [])

/-- The jobs of a plan are gathered from the fixed and the wanted pairs. -/
theorem jobs_plan (state : State) (now : Nat) :
    (state.plan now).2.jobs = (state.pairs now).foldl (gather state.jobFor) [] := by
  have hplan := congrArg Prod.snd (state.plan_eq_addJobs now)
  dsimp only at hplan
  rw [hplan, addJobs_snd]

/-- Every job of a plan is that of a pair. -/
theorem mem_jobs_plan {job : Job} {now : Nat} (hmem : job ∈ (state.plan now).2.jobs) :
    ∃ pair ∈ state.pairs now, state.jobFor pair = some job := by
  rw [jobs_plan] at hmem
  exact mem_gather _ hmem

/-- The targets are the subscriptions whose variable and argument have a job. -/
theorem targets_plan_eq (state : State) (now : Nat) : (state.plan now).2.targets =
    state.subscriptions.toList.filterMap (targetOf (state.plan now).2.jobs) := by
  have hcron : state.Prebinds state.cronJobs.1 := prebinds_addJobs _ (state, [])
  rw [targets_plan, liveSubscriptions, hcron.subscriptions, List.filterMap_filter]
  refine List.filterMap_congr fun subscription _ => ?_
  split
  · rfl
  · next hnot =>
    symm
    rw [targetOf, Option.map_eq_none_iff, findJob_eq_none_iff]
    intro hmem
    obtain ⟨job, hjob, hkey⟩ := List.mem_map.mp hmem
    obtain ⟨pair, _, hpair⟩ := mem_jobs_plan hjob
    have hvariable : pair.1 = subscription.interest.variable_ := by
      rw [key_of_jobFor hpair] at hkey
      exact congrArg Prod.fst hkey
    have hhopeless : state.cronJobs.1.isHopeless pair.1 = true := by
      rw [hvariable]
      exact isHopeless_of_not_live (Bool.eq_false_iff.mpr hnot)
    have hnone := jobFor_of_isHopeless hhopeless
    rw [hcron.jobFor, hpair] at hnone
    cases hnone

/-- The targets of a plan are the live subscriptions whose key has a job, each with the slot of that
job. -/
theorem mem_targets_iff {id : SubscriptionId} {slot : Nat} (htable : state.subscriptions.Sound) :
    (id, slot) ∈ (state.plan now).2.targets ↔ ∃ subscription,
      state.subscriptions.get? id = some subscription ∧
        findJob (state.plan now).2.jobs subscription.interest.key = some slot := by
  rw [targets_plan_eq]
  simp only [List.mem_filterMap, htable.mem_toList_iff, targetOf, Option.map_eq_some_iff,
    Prod.mk.injEq]
  constructor
  · rintro ⟨subscription, hget, found, hfind, rfl, rfl⟩
    exact ⟨subscription, hget, hfind⟩
  · rintro ⟨subscription, hget, hfind⟩
    have hid : subscription.id = id := htable.numbered hget
    exact ⟨subscription, by rwa [hid], slot, hfind, hid, rfl⟩

/-- The targets come in the order of the subscriptions, each once at most. -/
theorem ascending_targets (htable : state.subscriptions.Sound) :
    ((state.plan now).2.targets.map fun target => target.1.number).Pairwise (· < ·) := by
  have hsublist : ((state.plan now).2.targets.map fun target => target.1.number).Sublist
      (state.subscriptions.toList.map fun subscription => subscription.id.number) := by
    rw [targets_plan_eq]
    induction state.subscriptions.toList with
    | nil => exact .slnil
    | cons subscription rest ih =>
      cases hfind : findJob (state.plan now).2.jobs subscription.interest.key with
      | none => simpa [targetOf, hfind] using ih.cons _
      | some slot => simpa [targetOf, hfind] using ih
  exact htable.ordered_toList.sublist hsublist

/-- No subscription is a target twice. -/
theorem nodup_targets (htable : state.subscriptions.Sound) :
    ((state.plan now).2.targets.map Prod.fst).Nodup := by
  have hascending : ((state.plan now).2.targets.map fun target => target.1.number).Pairwise
      (· < ·) := ascending_targets htable
  rw [List.pairwise_map] at hascending
  rw [List.nodup_iff_pairwise_ne, List.pairwise_map]
  refine hascending.imp fun hlt heq => ?_
  rw [heq] at hlt
  exact Nat.lt_irrefl _ hlt

/-- Early bindings make no orphan. -/
theorem Prebinds.orphans (hbound : plain.Prebinds bound) : bound.orphans = plain.orphans := by
  have hgone (subscription : Subscription) :
      (bound.variableOf subscription).isNone = (plain.variableOf subscription).isNone := by
    rw [Bool.eq_iff_iff, Option.isNone_iff_eq_none, Option.isNone_iff_eq_none]
    exact hbound.directory.get?_eq_none_iff
  rw [State.orphans, State.orphans, hbound.subscriptions]
  simp only [hgone]

/-- The orphans of a plan are those of the state. -/
theorem orphans_plan_eq (state : State) (now : Nat) :
    (state.plan now).2.orphans = state.orphans := by
  have hcron : state.Prebinds state.cronJobs.1 := prebinds_addJobs _ (state, [])
  rw [orphans_plan, hcron.orphans]

/-- Early bindings make no difference to the pairs that are looked for. -/
theorem Prebinds.pairs (hbound : plain.Prebinds bound) (hsound : plain.directory.Sound) :
    bound.pairs now = plain.pairs now := by
  have hsame : bound.isWanting now = plain.isWanting now := by
    funext subscription
    exact hbound.isWanting
  rw [State.pairs, State.pairs, hbound.directory.cronIds hsound, hbound.subscriptions, hsame]

/-- The plan is the same whatever was bound before. -/
theorem Prebinds.plan_snd (hbound : plain.Prebinds bound) (hsound : plain.directory.Sound) :
    (bound.plan now).2 = (plain.plan now).2 := by
  have hjobs : (bound.plan now).2.jobs = (plain.plan now).2.jobs := by
    rw [jobs_plan, jobs_plan, hbound.pairs hsound, hbound.jobFor]
  have htargets : (bound.plan now).2.targets = (plain.plan now).2.targets := by
    rw [targets_plan_eq, targets_plan_eq, hbound.subscriptions, hjobs]
  have horphans : (bound.plan now).2.orphans = (plain.plan now).2.orphans := by
    rw [orphans_plan_eq, orphans_plan_eq, hbound.orphans]
  generalize (bound.plan now).2 = second at hjobs htargets horphans
  generalize (plain.plan now).2 = first at hjobs htargets horphans
  cases first
  cases second
  dsimp only at hjobs htargets horphans
  rw [hjobs, htargets, horphans]

/-- States that are prebound stay so when both plan a tick. -/
theorem Prebinds.plan_fst (hbound : plain.Prebinds bound) (hsound : plain.directory.Sound) :
    (plain.plan now).1.Prebinds (bound.plan now).1 := by
  have hplain := congrArg Prod.fst (plain.plan_eq_addJobs now)
  have hlater := congrArg Prod.fst (bound.plan_eq_addJobs now)
  dsimp only at hplain hlater
  rw [hplain, hlater, hbound.pairs hsound]
  exact hbound.addJobs [] _

end State

end MetricsDaemon
