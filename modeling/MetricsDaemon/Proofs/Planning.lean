import MetricsDaemon.Proofs.Subscribing
import MetricsDaemon.State.Tick

/-!
# What a plan is

Planning binds methods and changes nothing else. No two jobs of a plan are on the same
variable and argument, every job has the callable that its variable is bound to, and the
targets are the live subscriptions whose variable and argument have a job.
-/

namespace MetricsDaemon

/-- The variable and the argument under which the samples of an interest are kept. -/
def Interest.key (interest : Interest) : VariableId × String :=
  (interest.variable_, sampleKey interest.arg)

/-! ## Finding a job -/

section Jobs

variable {jobs : List Job} {job : Job} {key : VariableId × String} {slot : Nat}

/-- There is no job for a key exactly if no job has it. -/
theorem findJob_eq_none_iff : findJob jobs key = none ↔ key ∉ jobs.map Job.key := by
  simp only [findJob, List.findIdx?_eq_none_iff, List.mem_map, decide_eq_false_iff_not]
  constructor
  · rintro hnone ⟨job, hmem, heq⟩
    exact hnone job hmem heq
  · intro hnone job hmem heq
    exact hnone ⟨job, hmem, heq⟩

/-- The job that is found has the key. -/
theorem job_of_findJob (hfind : findJob jobs key = some slot) :
    ∃ job, jobs[slot]? = some job ∧ job.key = key := by
  obtain ⟨hlt, hkey, _⟩ := List.findIdx?_eq_some_iff_getElem.mp hfind
  exact ⟨jobs[slot], List.getElem?_eq_getElem hlt, by simpa using hkey⟩

/-- Where no two jobs share a key, a job is found where it stands. -/
theorem findJob_of_getElem? (hnodup : (jobs.map Job.key).Nodup) (hget : jobs[slot]? = some job) :
    findJob jobs job.key = some slot := by
  have hmem : job.key ∈ jobs.map Job.key :=
    List.mem_map.mpr ⟨job, List.mem_of_getElem? hget, rfl⟩
  cases hfind : findJob jobs job.key with
  | none => exact absurd hmem (findJob_eq_none_iff.mp hfind)
  | some other =>
    obtain ⟨found, hfound, hkey⟩ := job_of_findJob hfind
    obtain ⟨hlt, _⟩ := List.getElem?_eq_some_iff.mp hfound
    have hother : (jobs.map Job.key)[other]? = some job.key := by
      rw [List.getElem?_map, hfound, Option.map_some, hkey]
    have hslot : (jobs.map Job.key)[slot]? = some job.key := by
      rw [List.getElem?_map, hget, Option.map_some]
    have hsame : other = slot :=
      (List.getElem?_inj (by simpa using hlt) hnodup).mp (hother.trans hslot.symm)
    rw [hsame]

end Jobs

namespace State

variable {state before middle after : State} {unit : ProviderUnit} {variableId : VariableId}

/-! ## Steps that only bind methods -/

/-- Nothing but the bindings of variables and the journal may differ. -/
structure Binds (before after : State) : Prop where
  same : ∃ directory journal, after = { before with
    registry := { before.registry with directory := directory, journal := journal } }
  sound : after.directory.Sound
  last : after.directory.lastId = before.directory.lastId
  alike : before.directory.Alike after.directory
  keeps : before.directory.Keeps after.directory

/-- Where no method is bound everything stays. -/
theorem Binds.refl (hsound : state.directory.Sound) : state.Binds state where
  same := ⟨state.registry.directory, state.registry.journal, rfl⟩
  sound := hsound
  last := rfl
  alike _ := rfl
  keeps := .refl hsound

/-- To bind methods twice is to bind methods. -/
theorem Binds.trans (hfirst : before.Binds middle) (hlast : middle.Binds after) :
    before.Binds after where
  same := by
    obtain ⟨_, _, rfl⟩ := hfirst.same
    obtain ⟨directory, journal, rfl⟩ := hlast.same
    exact ⟨directory, journal, rfl⟩
  sound := hlast.sound
  last := hlast.last.trans hfirst.last
  alike id := (hlast.alike id).trans (hfirst.alike id)
  keeps := hfirst.keeps.trans hlast.keeps

/-- To bind one method is to bind methods. -/
theorem binds_bindMethod (hsound : state.directory.Sound) :
    state.Binds (state.bindMethod unit variableId).1 where
  same := by
    obtain ⟨journal, h⟩ := bindMethod_fst state unit variableId
    exact ⟨_, journal, h⟩
  sound := by
    rw [directory_bindMethod]
    exact hsound.resolve
  last := by rw [directory_bindMethod, Directory.lastId_resolve]
  alike := by
    rw [directory_bindMethod]
    exact Directory.alike_resolve
  keeps := by
    rw [directory_bindMethod]
    exact hsound.keeps_resolve

/-- Binding methods leaves the subscriptions as they are. -/
theorem Binds.subscriptions (hbinds : before.Binds after) :
    after.subscriptions = before.subscriptions := by
  obtain ⟨_, _, rfl⟩ := hbinds.same
  rfl

/-- Binding methods leaves the connections as they are. -/
theorem Binds.connections (hbinds : before.Binds after) :
    after.connections = before.connections := by
  obtain ⟨_, _, rfl⟩ := hbinds.same
  rfl

/-- Binding methods leaves the modules as they are. -/
theorem Binds.get?_registry (hbinds : before.Binds after) (id : ModuleId) :
    after.registry.get? id = before.registry.get? id := by
  obtain ⟨_, _, rfl⟩ := hbinds.same
  rfl

/-- Binding methods keeps the books in order. -/
theorem Binds.booked (hbinds : before.Binds after)
    (hbooked : Booked before.registry before.subscriptions) :
    Booked after.registry after.subscriptions := by
  have hkeeps := hbinds.keeps
  have hsound := hbinds.sound
  have hlast := hbinds.last
  have halike := hbinds.alike
  obtain ⟨directory, journal, rfl⟩ := hbinds.same
  have hwith : Booked { before.registry with directory := directory } before.subscriptions := by
    refine hbooked.withDirectory hsound hlast halike ?_
    intro id variable_ found callable hvariable hfound hbinding
    obtain ⟨kept, hkept, _, _, hbound⟩ :=
      hkeeps.kept hfound (hbooked.modules.directory.le_lastId hvariable)
    have hsame : kept = variable_ := Option.some.inj (hkept.symm.trans hvariable)
    subst hsame
    exact hbound (by simp [hbinding])
  exact hwith.of_tables_eq rfl rfl rfl rfl

/-! ## Collecting jobs -/

/-- The jobs that were collected since a state: no two share a key, and each has the callable and
the type of its variable. -/
structure Collects (start : State) (progress : State × List Job) : Prop where
  binds : start.Binds progress.1
  distinct : (progress.2.map Job.key).Nodup
  ready : ∀ job ∈ progress.2, ∃ variable_,
    progress.1.directory.get? job.variable_ = some variable_ ∧
      variable_.binding = .ready job.callable ∧ variable_.type = job.type

variable {start : State} {progress : State × List Job} {pair : VariableId × Option String}

/-- At the beginning nothing is collected. -/
theorem Collects.begin (hbinds : start.Binds state) : start.Collects (state, []) where
  binds := hbinds
  distinct := List.nodup_nil
  ready job hmem := by cases hmem

/-- A variable that is bound stays bound. -/
private theorem ready_of_binds {job : Job} (hbinds : before.Binds after)
    (hsound : before.directory.Sound)
    (hready : ∃ variable_, before.directory.get? job.variable_ = some variable_ ∧
      variable_.binding = .ready job.callable ∧ variable_.type = job.type) :
    ∃ variable_, after.directory.get? job.variable_ = some variable_ ∧
      variable_.binding = .ready job.callable ∧ variable_.type = job.type := by
  obtain ⟨variable_, hvariable, hbinding, htype⟩ := hready
  obtain ⟨found, hfound, hprofile⟩ := hbinds.alike.get?_after hvariable
  obtain ⟨kept, hkept, _, _, hbound⟩ := hbinds.keeps.kept hfound (hsound.le_lastId hvariable)
  rw [hvariable] at hkept
  cases hkept
  refine ⟨found, hfound, ?_, ?_⟩
  · rw [hbound (by simp [hbinding]), hbinding]
  · rw [Variable.type_eq_of_profile_eq hprofile, htype]

/-- Adding a job ends in one of three ways: nothing happened, the method was asked for in vain, or
there is one job more, whose key is new. -/
theorem addJob_cases (progress : State × List Job) (pair : VariableId × Option String) :
    addJob progress pair = progress ∨
    (∃ variable_ module_, progress.1.directory.get? pair.1 = some variable_ ∧
      progress.1.registry.get? variable_.module_ = some module_ ∧
      addJob progress pair = ((progress.1.bindMethod module_.unit pair.1).1, progress.2)) ∨
    (∃ variable_ module_ callable,
      findJob progress.2 (pair.1, sampleKey pair.2) = none ∧
      progress.1.directory.get? pair.1 = some variable_ ∧
      progress.1.registry.get? variable_.module_ = some module_ ∧
      (progress.1.bindMethod module_.unit pair.1).2 = some callable ∧
      addJob progress pair = ((progress.1.bindMethod module_.unit pair.1).1,
        progress.2 ++ [⟨pair.1, variable_.type, pair.2, callable⟩])) := by
  unfold addJob
  dsimp only
  split
  · exact .inl rfl
  · next hfind =>
    split
    · exact .inl rfl
    · next variable_ hvariable =>
      split
      · exact .inl rfl
      · next module_ hmodule =>
        split
        · next heq => exact .inr (.inl ⟨variable_, module_, hvariable, hmodule, by rw [heq]⟩)
        · next bound callable heq =>
          refine .inr (.inr
            ⟨variable_, module_, callable, by simpa using hfind, hvariable, hmodule, ?_⟩)
          rw [heq]
          exact ⟨rfl, rfl⟩

/-- To look for one more job is to collect. -/
theorem Collects.addJob (hcollects : start.Collects progress) :
    start.Collects (addJob progress pair) := by
  have hsound := hcollects.binds.sound
  rcases addJob_cases progress pair with h | ⟨_, module_, _, _, h⟩ |
    ⟨variable_, module_, callable, hnew, hget, _, hcallable, h⟩
  · rw [h]
    exact hcollects
  · rw [h]
    have hbinds : progress.1.Binds (progress.1.bindMethod module_.unit pair.1).1 :=
      binds_bindMethod hsound
    exact ⟨hcollects.binds.trans hbinds, hcollects.distinct,
      fun job hmem => ready_of_binds hbinds hsound (hcollects.ready job hmem)⟩
  · rw [h]
    have hbinds : progress.1.Binds (progress.1.bindMethod module_.unit pair.1).1 :=
      binds_bindMethod hsound
    refine ⟨hcollects.binds.trans hbinds, ?_, ?_⟩
    · rw [List.map_append, List.nodup_append]
      refine ⟨hcollects.distinct, by simp, ?_⟩
      rintro a ha b hb rfl
      simp only [List.map_cons, List.map_nil, List.mem_singleton] at hb
      subst hb
      exact findJob_eq_none_iff.mp hnew ha
    · intro job hmem
      rcases List.mem_append.mp hmem with hmem | hmem
      · exact ready_of_binds hbinds hsound (hcollects.ready job hmem)
      · obtain rfl := List.mem_singleton.mp hmem
        obtain ⟨found, hfound, hbinding⟩ := bindMethod_snd_eq_some_iff.mp hcallable
        rw [hget] at hfound
        cases hfound
        refine ⟨variable_.bindWith module_.unit.resolve, ?_, hbinding, by simp⟩
        rw [directory_bindMethod, Directory.get?_resolve, if_pos rfl, hget]
        rfl

/-- To look for any number of jobs is to collect. -/
theorem Collects.addJobs (pairs : List (VariableId × Option String))
    (hcollects : start.Collects progress) : start.Collects (pairs.foldl State.addJob progress) := by
  induction pairs generalizing progress with
  | nil => exact hcollects
  | cons pair pairs ih => exact ih hcollects.addJob

/-! ## The whole plan -/

variable {now slot : Nat} {id : SubscriptionId}

/-- The state and the jobs after the jobs of variables that run on every tick were collected. -/
def cronJobs (state : State) : State × List Job :=
  (state.directory.cronIds.map fun id => (id, none)).foldl addJob (state, [])

/-- The variables and arguments that some subscription is due for. -/
def wantedPairs (state : State) (now : Nat) : List (VariableId × Option String) :=
  (state.liveSubscriptions.filter (state.isWanting now)).map pairOf

/-- The target that a subscription is, if its variable and argument have a job. -/
def targetOf (jobs : List Job) (subscription : Subscription) : Option (SubscriptionId × Nat) :=
  (findJob jobs subscription.interest.key).map fun slot => (subscription.id, slot)

/-- A plan is told in parts: the fixed jobs, the wanted pairs, the targets and the orphans. -/
theorem plan_eq (state : State) (now : Nat) : state.plan now =
    (((state.cronJobs.1.wantedPairs now).foldl addJob state.cronJobs).1,
      ⟨((state.cronJobs.1.wantedPairs now).foldl addJob state.cronJobs).2,
        state.cronJobs.1.liveSubscriptions.filterMap
          (targetOf ((state.cronJobs.1.wantedPairs now).foldl addJob state.cronJobs).2),
        state.cronJobs.1.orphans⟩) := by
  rw [plan]
  rfl

/-- The targets of a plan are the live subscriptions whose variable and argument have a job. -/
theorem targets_plan (state : State) (now : Nat) : (state.plan now).2.targets =
    state.cronJobs.1.liveSubscriptions.filterMap (targetOf (state.plan now).2.jobs) := by
  rw [plan_eq]

/-- The orphans of a plan are those of the state after the fixed jobs were collected. -/
theorem orphans_plan (state : State) (now : Nat) :
    (state.plan now).2.orphans = state.cronJobs.1.orphans := by
  rw [plan_eq]

/-- The fixed jobs of a plan are collected. -/
theorem collects_cronJobs (hsound : state.directory.Sound) : state.Collects state.cronJobs :=
  Collects.addJobs _ (.begin (.refl hsound))

/-- The jobs of a plan are collected. -/
theorem collects_plan (hsound : state.directory.Sound) :
    state.Collects ((state.plan now).1, (state.plan now).2.jobs) := by
  rw [plan_eq]
  exact (collects_cronJobs hsound).addJobs _

/-- A plan binds methods and changes nothing else. -/
theorem binds_plan (hsound : state.directory.Sound) : state.Binds (state.plan now).1 :=
  (collects_plan hsound).binds

end State

end MetricsDaemon
