import MetricsDaemon.Proofs.Planning

/-!
# Recording the values of a tick

The values of a plan's jobs are recorded one after the other. As no two jobs share a
variable and an argument, each is compared with the sample that was there when the
recording began, and afterwards the samples are those of the values, and the old ones
for the rest.
-/

namespace MetricsDaemon

/-- The jobs of a tick, each with its value unless the provider panicked. -/
abbrev Valued := List (Job × Option Value)

namespace Valued

variable {entries : Valued} {key : VariableId × String} {job : Job} {value : Option Value}

/-- The value for a variable and an argument. -/
def valueOf (entries : Valued) (key : VariableId × String) : Option Value :=
  (entries.find? fun entry => decide (entry.1.key = key)).bind Prod.snd

/-- No two jobs share a variable and an argument. -/
def Distinct (entries : Valued) : Prop := (entries.map fun entry => entry.1.key).Nodup

/-- The first of distinct jobs shares its key with none of the others, which are distinct as
well. -/
theorem Distinct.cons {entry : Job × Option Value} (hdistinct : Distinct (entry :: entries)) :
    (∀ other ∈ entries, other.1.key ≠ entry.1.key) ∧ Distinct entries := by
  obtain ⟨hfresh, hrest⟩ := List.nodup_cons.mp hdistinct
  exact ⟨fun other hmem heq => hfresh (List.mem_map.mpr ⟨other, hmem, heq⟩), hrest⟩

/-- The value for the key of the first job is its own. -/
theorem valueOf_cons_self : valueOf ((job, value) :: entries) job.key = value := by
  simp [valueOf]

/-- The value for any other key is one of the others. -/
theorem valueOf_cons_of_ne (hne : job.key ≠ key) :
    valueOf ((job, value) :: entries) key = valueOf entries key := by
  simp [valueOf, hne]

/-- There is no value for a key that no job has. -/
theorem valueOf_eq_none (hnot : ∀ entry ∈ entries, entry.1.key ≠ key) :
    valueOf entries key = none := by
  have hfind : entries.find? (fun entry => decide (entry.1.key = key)) = none := by
    rw [List.find?_eq_none]
    intro entry hmem
    simpa using hnot entry hmem
  rw [valueOf, hfind]
  rfl

/-- Where no two jobs share a key, every job has its own value. -/
theorem valueOf_of_mem (hdistinct : Distinct entries) (hmem : (job, value) ∈ entries) :
    valueOf entries job.key = value := by
  induction entries with
  | nil => cases hmem
  | cons entry rest ih =>
    obtain ⟨hfresh, hrest⟩ := hdistinct.cons
    rcases List.mem_cons.mp hmem with rfl | hmem
    · exact valueOf_cons_self
    · rw [← ih hrest hmem]
      exact valueOf_cons_of_ne (hfresh (job, value) hmem).symm

/-- Jobs with different keys keep them when they are given values. -/
theorem distinct_zip {jobs : List Job} (values : List (Option Value))
    (hdistinct : (jobs.map Job.key).Nodup) : Distinct (jobs.zip values) := by
  have hsublist : ((jobs.zip values).map fun entry => entry.1.key).Sublist (jobs.map Job.key) := by
    clear hdistinct
    induction jobs generalizing values with
    | nil => simp
    | cons job jobs ih =>
      cases values with
      | nil => simp
      | cons value values => simpa using ih values
  exact hdistinct.sublist hsublist

/-- The value for the key of a job is the one at its place. -/
theorem valueOf_zip {jobs : List Job} {slot : Nat} (values : List (Option Value))
    (hdistinct : (jobs.map Job.key).Nodup) (hjob : jobs[slot]? = some job) :
    valueOf (jobs.zip values) job.key = (values[slot]?).join := by
  cases hvalue : values[slot]? with
  | some value =>
    have hzip : (jobs.zip values)[slot]? = some (job, value) :=
      List.getElem?_zip_eq_some.mpr ⟨hjob, hvalue⟩
    exact valueOf_of_mem (distinct_zip values hdistinct) (List.mem_of_getElem? hzip)
  | none =>
    apply valueOf_eq_none
    intro entry hmem heq
    obtain ⟨other, hother⟩ := List.getElem?_of_mem hmem
    obtain ⟨hotherJob, hotherValue⟩ := List.getElem?_zip_eq_some.mp hother
    have hplace := findJob_of_getElem? hdistinct hotherJob
    rw [heq, findJob_of_getElem? hdistinct hjob] at hplace
    cases hplace
    rw [hvalue] at hotherValue
    cases hotherValue

/-- A key has the value at the place of its job, if it has a job. -/
theorem valueOf_zip_eq {jobs : List Job} (values : List (Option Value))
    (hdistinct : (jobs.map Job.key).Nodup) : valueOf (jobs.zip values) key =
      (findJob jobs key).bind fun slot => (values[slot]?).join := by
  cases hslot : findJob jobs key with
  | none =>
    refine valueOf_eq_none fun entry hmem heq => findJob_eq_none_iff.mp hslot ?_
    rw [← heq]
    exact List.mem_map_of_mem (List.of_mem_zip hmem).1
  | some slot =>
    obtain ⟨job, hjob, rfl⟩ := job_of_findJob hslot
    exact valueOf_zip values hdistinct hjob

end Valued

namespace State

variable {state : State} {now : Nat} {entries : Valued} {job : Job} {value : Option Value}
  {variableId : VariableId} {variable_ : Variable} {arg : String}

/-- The checksum of the sample for a variable and an argument. -/
def storedChecksum (state : State) (key : VariableId × String) : Option Nat :=
  ((state.directory.get? key.1).bind fun variable_ => variable_.samples.get? key.2).map
    Sample.checksum

/-- Recording may change the directory only. -/
theorem recordValue_fst (state : State) (now : Nat) (job : Job) (value : Option Value) :
    ∃ directory, (state.recordValue now job value).1 = state.withDirectory directory := by
  cases value with
  | none => exact ⟨state.directory, rfl⟩
  | some value => exact ⟨_, rfl⟩

/-- Recording values changes nothing but the samples of the variables. -/
theorem recordAll_fst (state : State) (now : Nat) (entries : Valued) :
    ∃ directory, (recordAll now state entries).1 = state.withDirectory directory := by
  induction entries generalizing state with
  | nil => exact ⟨state.directory, rfl⟩
  | cons entry rest ih =>
    obtain ⟨job, value⟩ := entry
    obtain ⟨first, hfirst⟩ := recordValue_fst state now job value
    obtain ⟨last, hlast⟩ := ih (state.recordValue now job value).1
    refine ⟨last, ?_⟩
    have hstep : (recordAll now state ((job, value) :: rest)).1 =
        (recordAll now (state.recordValue now job value).1 rest).1 := rfl
    rw [hstep, hlast, hfirst]
    rfl

/-- Recording values leaves the books right. -/
theorem booked_recordAll (entries : Valued) (hbooked : Booked state.registry state.subscriptions) :
    Booked (recordAll now state entries).1.registry
      (recordAll now state entries).1.subscriptions := by
  induction entries generalizing state with
  | nil => exact hbooked
  | cons entry rest ih =>
    obtain ⟨job, value⟩ := entry
    apply ih
    cases value with
    | none => exact hbooked
    | some value => exact hbooked.recordSample

/-- What one record does to a variable: it may put one sample, under its own key. -/
theorem get?_directory_recordValue (state : State) (now : Nat) (job : Job) (value : Option Value)
    (variableId : VariableId) :
    (state.recordValue now job value).1.directory.get? variableId =
      (state.directory.get? variableId).map fun variable_ =>
        if job.variable_ = variableId then
          value.elim variable_ fun value => variable_.record job.arg now value.checksum
        else variable_ := by
  cases value with
  | none =>
    cases hget : state.directory.get? variableId <;> simp [recordValue, hget]
  | some value =>
    have hdirectory : (state.recordValue now job (some value)).1.directory =
        (state.directory.recordSample job.variable_ job.arg now value.checksum).1 := rfl
    rw [hdirectory, Directory.get?_recordSample]
    split
    · simp
    · cases state.directory.get? variableId <;> rfl

/-- A variable after recording has what it had before, but the samples of the values. -/
theorem get?_directory_recordAll (now : Nat) (hdistinct : entries.Distinct)
    (hget : state.directory.get? variableId = some variable_) :
    ∃ found, (recordAll now state entries).1.directory.get? variableId = some found ∧
      found.profile = variable_.profile ∧ found.binding = variable_.binding ∧
      ∀ arg, found.samples.get? arg =
        ((entries.valueOf (variableId, arg)).elim (variable_.samples.get? arg) fun value =>
          some ⟨value.checksum, now⟩) := by
  induction entries generalizing state variable_ with
  | nil => exact ⟨variable_, hget, rfl, rfl, fun arg => rfl⟩
  | cons entry rest ih =>
    obtain ⟨job, value⟩ := entry
    obtain ⟨hfresh, hrest⟩ := hdistinct.cons
    have hstep : (recordAll now state ((job, value) :: rest)).1 =
        (recordAll now (state.recordValue now job value).1 rest).1 := rfl
    have hfirst := get?_directory_recordValue state now job value variableId
    rw [hget, Option.map_some] at hfirst
    obtain ⟨found, hfound, hprofile, hbinding, hsamples⟩ := ih hrest hfirst
    rw [hstep]
    by_cases hvariable : job.variable_ = variableId
    · simp only [if_pos hvariable] at hprofile hbinding hsamples
      refine ⟨found, hfound, ?_, ?_, ?_⟩
      · rw [hprofile]
        cases value <;> rfl
      · rw [hbinding]
        cases value <;> rfl
      · intro arg
        rw [hsamples arg]
        by_cases harg : sampleKey job.arg = arg
        · have hkey : job.key = (variableId, arg) := by rw [Job.key, hvariable, harg]
          have hnone : Valued.valueOf rest (variableId, arg) = none := by
            apply Valued.valueOf_eq_none
            intro entry hmem
            rw [← hkey]
            exact hfresh entry hmem
          rw [hnone, ← hkey, Valued.valueOf_cons_self]
          cases value <;> simp [Variable.record, harg]
        · have hkey : job.key ≠ (variableId, arg) := by
            intro heq
            exact harg (congrArg Prod.snd heq)
          rw [Valued.valueOf_cons_of_ne hkey]
          cases value <;> simp [Variable.record, Table.get?_put, harg]
    · simp only [if_neg hvariable] at hprofile hbinding hsamples
      refine ⟨found, hfound, hprofile, hbinding, ?_⟩
      intro arg
      have hkey : job.key ≠ (variableId, arg) := by
        intro heq
        exact hvariable (congrArg Prod.fst heq)
      rw [hsamples arg, Valued.valueOf_cons_of_ne hkey]

/-- Recording values brings no variable back. -/
theorem get?_directory_recordAll_eq_none (now : Nat) (entries : Valued)
    (hget : state.directory.get? variableId = none) :
    (recordAll now state entries).1.directory.get? variableId = none := by
  induction entries generalizing state with
  | nil => exact hget
  | cons entry rest ih =>
    obtain ⟨job, value⟩ := entry
    apply ih
    rw [get?_directory_recordValue, hget]
    rfl

/-- Recording registers nothing and takes nothing away. -/
theorem alike_recordAll (now : Nat) (entries : Valued) :
    state.directory.Alike (recordAll now state entries).1.directory := by
  induction entries generalizing state with
  | nil => exact fun _ => rfl
  | cons entry rest ih =>
    obtain ⟨job, value⟩ := entry
    intro id
    have hrest : (state.recordValue now job value).1.directory.Alike
        (recordAll now (state.recordValue now job value).1 rest).1.directory := ih
    refine (hrest id).trans ?_
    cases value with
    | none => rfl
    | some value => exact Directory.alike_recordSample id

/-- Recording values gives out no number of a variable. -/
theorem lastId_directory_recordAll :
    (recordAll now state entries).1.directory.lastId = state.directory.lastId := by
  induction entries generalizing state with
  | nil => rfl
  | cons entry rest ih =>
    obtain ⟨job, value⟩ := entry
    have hrest : (recordAll now (state.recordValue now job value).1 rest).1.directory.lastId =
        (state.recordValue now job value).1.directory.lastId := ih
    refine hrest.trans ?_
    cases value with
    | none => rfl
    | some value => exact Directory.lastId_recordSample

/-! ## What is noticed as a change -/

/-- Whether a value would be noticed as a change if it was recorded now. -/
def notices (state : State) (job : Job) (value : Option Value) : Bool :=
  value.any fun value => (state.directory.get? job.variable_).any fun variable_ =>
    Directory.differs (variable_.sampleFor job.arg) value.checksum

/-- A value is noticed exactly if its checksum is not the stored one. -/
theorem notices_eq (value : Value) (hget : state.directory.get? job.variable_ = some variable_) :
    state.notices job (some value) = (state.storedChecksum job.key != some value.checksum) := by
  simp only [notices, storedChecksum, Job.key, hget, Option.any_some, Option.bind_some,
    Directory.differs, Variable.sampleFor]
  cases variable_.samples.get? (sampleKey job.arg) with
  | none => rfl
  | some sample =>
    have hiff : sample.checksum ≠ value.checksum ↔ some sample.checksum ≠ some value.checksum := by
      rw [ne_eq, ne_eq, Option.some.injEq]
    rw [Option.all_some, Option.map_some, Bool.eq_iff_iff, bne_iff_ne, bne_iff_ne]
    exact hiff

/-- Recording a value tells whether it is noticed as a change. -/
theorem recordValue_snd : (state.recordValue now job value).2 = state.notices job value := by
  cases value with
  | none => rfl
  | some value =>
    have hmarked : (state.recordValue now job (some value)).2 =
        (state.directory.recordSample job.variable_ job.arg now value.checksum).2.getD false := rfl
    rw [hmarked, Directory.changed_recordSample]
    cases hget : state.directory.get? job.variable_ <;> simp [notices, hget]

/-- A record does not hide what is recorded under another key. -/
private theorem notices_recordValue {other : Job} {otherValue : Option Value}
    (hne : job.key ≠ other.key) :
    (state.recordValue now job value).1.notices other otherValue =
      state.notices other otherValue := by
  cases otherValue with
  | none => rfl
  | some otherValue =>
    simp only [notices, Option.any_some, get?_directory_recordValue, Option.any_map]
    congr 1
    funext variable_
    split
    · next hvariable =>
      have harg : sampleKey job.arg ≠ sampleKey other.arg := by
        intro heq
        exact hne (by rw [Job.key, Job.key, hvariable, heq])
      cases value with
      | none => rfl
      | some value => simp [Variable.sampleFor, Variable.record, Table.get?_put, harg]
    · rfl

/-- Every value is compared with the sample that was there at the beginning. -/
theorem recordAll_snd (hdistinct : entries.Distinct) :
    (recordAll now state entries).2 =
      entries.map fun entry => state.notices entry.1 entry.2 := by
  induction entries generalizing state with
  | nil => rfl
  | cons entry rest ih =>
    obtain ⟨job, value⟩ := entry
    obtain ⟨hfresh, hrest⟩ := hdistinct.cons
    have hstep : (recordAll now state ((job, value) :: rest)).2 =
        (state.recordValue now job value).2 ::
          (recordAll now (state.recordValue now job value).1 rest).2 := rfl
    rw [hstep, ih hrest, recordValue_snd, List.map_cons]
    congr 1
    apply List.map_congr_left
    intro other hmem
    exact notices_recordValue (hfresh other hmem).symm

end State

end MetricsDaemon
