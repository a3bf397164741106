import MetricsDaemon.Proofs.InFlight

/-!
# Every change is delivered once

What a subscription is to hear of can be told from the ticks that were applied: the first
value that was recorded for a plan that had it, and from then on every value that differs
from the one recorded before. The daemon keeps no such history. It has one sample for each
variable and argument, which all subscriptions share, and one flag for each subscription.
Both follow the history in every run, so the lines are the right ones.
-/

namespace MetricsDaemon

open State (Refuses Fate)
open Run (Tracks)

/-! ## What a history owes to a subscription -/

section History

variable (id : SubscriptionId) (key : VariableId × String)

/-- The value that a tick recorded: what it got, unless the variable was gone by then. -/
def Completion.recordedValue (completion : Completion) : Option Value :=
  (completion.answer key).filter fun _ => (completion.met.directory.get? key.1).isSome

/-- The value that was recorded last. -/
def lastRecorded : List Completion → Option Value
  | [] => none
  | completion :: earlier => (completion.recordedValue key).or (lastRecorded earlier)

/-- Whether some tick whose plan had the subscription recorded a value. -/
def wasServed (history : List Completion) : Bool :=
  history.any fun completion => completion.saw id && (completion.recordedValue key).isSome

/-- Whether the subscription is to hear of a value. The first one counts in any case, and a later
one if its checksum differs from that of the value before it. -/
def isNews (completion : Completion) (earlier : List Completion) (value : Value) : Bool :=
  if wasServed id key earlier then
    (lastRecorded key earlier).map Value.checksum != some value.checksum
  else completion.saw id

/-- The value of a tick that the subscription is to hear of, given the ticks before. -/
def Completion.news (completion : Completion) (earlier : List Completion) : Option Value :=
  (completion.recordedValue key).filter (isNews id key completion earlier)

/-- All values that the subscription is to hear of, in order. -/
def owed : List Completion → List Value
  | [] => []
  | completion :: earlier => owed earlier ++ (completion.news id key earlier).toList

/-- The lines that were queued for the subscription, in order. -/
def queued : List Completion → List String
  | [] => []
  | completion :: earlier =>
      queued earlier ++ (pushesFor completion.applied.pushes id).map Push.line

end History

variable {id : SubscriptionId} {key : VariableId × String} {completion : Completion}
  {history earlier : List Completion} {value : Value}

/-- A subscription was served if the newest tick served it, or it was served before. -/
theorem wasServed_cons : wasServed id key (completion :: earlier) =
    (completion.saw id && (completion.recordedValue key).isSome || wasServed id key earlier) :=
  rfl

/-- Nothing is owed to a subscription that no plan had. -/
theorem owed_of_unseen (hunseen : ∀ completion ∈ history, completion.saw id = false) :
    wasServed id key history = false ∧ owed id key history = [] := by
  induction history with
  | nil => exact ⟨rfl, rfl⟩
  | cons completion earlier ih =>
    obtain ⟨hserved, howed⟩ := ih fun other hmem => hunseen other (List.mem_cons_of_mem _ hmem)
    have hsaw : completion.saw id = false := hunseen completion List.mem_cons_self
    refine ⟨by rw [wasServed_cons, hsaw, hserved]; rfl, ?_⟩
    have hnews : completion.news id key earlier = none := by
      rw [Completion.news, Option.filter_eq_none_iff]
      intro value _
      simp [isNews, hserved, hsaw]
    rw [owed, howed, hnews]
    rfl

/-- Where no plan had a subscription and such ticks queue nothing for it, nothing was queued. -/
theorem queued_of_unseen (hunseen : ∀ completion ∈ history, completion.saw id = false)
    (hquiet : ∀ completion ∈ history, completion.saw id = false →
      pushesFor completion.applied.pushes id = []) : queued id history = [] := by
  induction history with
  | nil => rfl
  | cons completion earlier ih =>
    have hearlier : queued id earlier = [] :=
      ih (fun other hmem => hunseen other (List.mem_cons_of_mem _ hmem))
        fun other hmem => hquiet other (List.mem_cons_of_mem _ hmem)
    have hnow := hunseen completion List.mem_cons_self
    rw [queued, hearlier, hquiet completion List.mem_cons_self hnow]
    rfl

/-- Whoever was served was so with a value that some tick recorded. -/
theorem isSome_lastRecorded (hserved : wasServed id key history = true) :
    (lastRecorded key history).isSome := by
  induction history with
  | nil => cases hserved
  | cons completion earlier ih =>
    rw [lastRecorded, Option.isSome_or, Bool.or_eq_true]
    rcases Bool.or_eq_true_iff.mp hserved with hnow | hbefore
    · exact .inl (Bool.and_eq_true_iff.mp hnow).2
    · exact .inr (ih hbefore)

/-- The last value that a subscription is to hear of is as good as the last recorded one, once there
is one. -/
theorem getLast?_owed (id : SubscriptionId) (key : VariableId × String)
    (history : List Completion) :
    (owed id key history).getLast?.map Value.checksum =
      if wasServed id key history then (lastRecorded key history).map Value.checksum
      else none := by
  induction history with
  | nil => rfl
  | cons completion earlier ih =>
    rw [owed, lastRecorded, wasServed_cons, Completion.news]
    cases hrecorded : completion.recordedValue key with
    | none => simpa using ih
    | some value =>
      rw [Option.filter_some]
      split
      · next hnews =>
        have hserved : completion.saw id = true ∨ wasServed id key earlier = true := by
          rw [isNews] at hnews
          split at hnews
          · next hserved => exact .inr hserved
          · exact .inl hnews
        rcases hserved with h | h <;> simp [h]
      · next hnews =>
        rw [isNews] at hnews
        rw [Option.toList_none, List.append_nil, ih]
        split at hnews
        · next hserved =>
          have hsame : (lastRecorded key earlier).map Value.checksum = some value.checksum := by
            simpa using hnews
          simp [hserved, hsame]
        · next hserved => simp [hserved, hnews]

/-! ## The tables follow the history -/

/-- The samples and the flags say what the history says, and so do the queued lines. -/
structure Tallies (history : List Completion) (state : State) : Prop where
  seen : ∀ completion ∈ history, ∀ id, completion.saw id → id.number ≤ state.subscriptions.lastId
  known : ∀ key value, lastRecorded key history = some value →
    key.1.number ≤ state.directory.lastId
  stored : ∀ key, (state.directory.get? key.1).isSome →
    state.storedChecksum key = (lastRecorded key history).map Value.checksum
  /-- The flag of a live subscription tells whether it was served. -/
  flagged : ∀ id subscription, state.subscriptions.get? id = some subscription →
    subscription.first = !wasServed id subscription.interest.key history
  /-- The lines of a live subscription carry the values that were owed to it. -/
  lines : ∀ id subscription variable_, state.subscriptions.get? id = some subscription →
    state.directory.get? subscription.interest.variable_ = some variable_ →
      queued id history = (owed id subscription.interest.key history).map
        (pushLine subscription.interest.clientId variable_.type)

namespace Tallies

variable {forced : Bool} {before after state : State} {subscription : Subscription}

/-- Nothing is told where nothing was recorded and nobody is subscribed. -/
theorem empty (hnone : ∀ id, state.subscriptions.get? id = none)
    (hempty : ∀ id, state.directory.get? id = none) : Tallies [] state where
  seen _ hmem := by cases hmem
  known _ _ hlast := by cases hlast
  stored key hsome := by
    rw [hempty] at hsome
    cases hsome
  flagged id subscription hget := by
    rw [hnone] at hget
    cases hget
  lines id subscription _ hget := by
    rw [hnone] at hget
    cases hget

/-- No plan of the history had a subscription whose number was not given out yet. -/
theorem unseen (htallies : Tallies history state) (hlt : state.subscriptions.lastId < id.number) :
    ∀ completion ∈ history, completion.saw id = false := by
  intro completion hmem
  cases hsaw : completion.saw id with
  | false => rfl
  | true => exact absurd (htallies.seen completion hmem id hsaw) (Nat.not_le_of_lt hlt)

/-- No tick of the history recorded a value for a variable whose number was not given out yet. -/
theorem unrecorded (htallies : Tallies history state)
    (hlt : state.directory.lastId < key.1.number) : lastRecorded key history = none := by
  cases hlast : lastRecorded key history with
  | none => rfl
  | some value => exact absurd (htallies.known key value hlast) (Nat.not_le_of_lt hlt)

/-- Whatever happens between two applications, the tables go on following the history. What is new
comes with numbers that the history does not know. -/
theorem keeps (htallies : Tallies history before) (hsound : before.Sound forced)
    (hkeeps : before.Keeps after)
    (hquiet : ∀ completion ∈ history, ∀ id, completion.saw id = false →
      pushesFor completion.applied.pushes id = []) : Tallies history after where
  seen completion hmem id hsaw :=
    Nat.le_trans (htallies.seen completion hmem id hsaw) hkeeps.subscriptions.last
  known key value hlast := Nat.le_trans (htallies.known key value hlast) hkeeps.directory.last
  stored := by
    intro key hsome
    obtain ⟨found, hfound⟩ := Option.isSome_iff_exists.mp hsome
    by_cases hle : key.1.number ≤ before.directory.lastId
    · obtain ⟨variable_, hvariable, _, hsamples, _⟩ := hkeeps.directory.kept hfound hle
      rw [← htallies.stored key (by rw [hvariable]; rfl)]
      simp only [State.storedChecksum, hfound, hvariable, Option.bind_some, hsamples]
    · have hlt := Nat.lt_of_not_le hle
      rw [State.storedChecksum, hfound, Option.bind_some, hkeeps.directory.blank hfound hlt,
        htallies.unrecorded hlt]
      rfl
  flagged := by
    intro id subscription hget
    by_cases hle : id.number ≤ before.subscriptions.lastId
    · exact htallies.flagged id subscription (hkeeps.subscriptions.kept hget hle)
    · have hlt := Nat.lt_of_not_le hle
      rw [(hkeeps.subscriptions.unserved hget hlt).1, (owed_of_unseen (htallies.unseen hlt)).1]
      rfl
  lines := by
    intro id subscription variable_ hget hvariable
    by_cases hle : id.number ≤ before.subscriptions.lastId
    · have hbefore := hkeeps.subscriptions.kept hget hle
      obtain ⟨found, hfound, hprofile, _⟩ :=
        hkeeps.directory.kept hvariable (hsound.booked.variable_le hbefore)
      rw [htallies.lines id subscription found hbefore hfound,
        Variable.type_eq_of_profile_eq hprofile]
    · have hunseen := htallies.unseen (Nat.lt_of_not_le hle)
      rw [queued_of_unseen hunseen fun completion hmem => hquiet completion hmem id,
        (owed_of_unseen hunseen).2]
      rfl

end Tallies

/-! ## One tick -/

namespace Completion

variable {forced : Bool} {subscription : Subscription} {variable_ : Variable} {slot : Nat}
  {job : Job}

/-- A tick records what it got for a variable that is still there. -/
theorem recordedValue_of_get? (hget : completion.met.directory.get? key.1 = some variable_) :
    completion.recordedValue key = completion.answer key := by
  rw [recordedValue, hget]
  cases completion.answer key <;> rfl

/-- A tick gets nothing for what it has no job for. -/
theorem answer_of_findJob_eq_none (hnone : findJob completion.flight.plan.jobs key = none) :
    completion.answer key = none := by
  apply Valued.valueOf_eq_none
  intro entry hmem heq
  have hjob : entry.1 ∈ completion.flight.plan.jobs := (List.of_mem_zip hmem).1
  exact findJob_eq_none_iff.mp hnone (List.mem_map.mpr ⟨entry.1, hjob, heq⟩)

/-- The numbers of the subscriptions that a plan had are given out. -/
theorem le_lastId_of_saw (htracks : Tracks forced completion.flight completion.met)
    (hsaw : completion.saw id) : id.number ≤ completion.met.subscriptions.lastId := by
  obtain ⟨subscription, hget⟩ := Option.isSome_iff_exists.mp hsaw
  have hle := htracks.before.booked.table.le_lastId hget
  rw [← subscriptions_planned htracks.before] at hle
  exact Nat.le_trans hle htracks.keeps.subscriptions.last

/-- So are the numbers of the variables for which a value was recorded. -/
theorem le_lastId_of_recorded (hmet : completion.met.Sound forced)
    (hrecorded : (completion.recordedValue key).isSome) :
    key.1.number ≤ completion.met.directory.lastId := by
  obtain ⟨value, hvalue⟩ := Option.isSome_iff_exists.mp hrecorded
  rw [recordedValue, Option.filter_eq_some_iff] at hvalue
  obtain ⟨variable_, hget⟩ := Option.isSome_iff_exists.mp hvalue.2
  exact hmet.booked.modules.directory.le_lastId hget

/-- A subscription that the plan did not have was never served. -/
theorem first_of_not_saw (htracks : Tracks forced completion.flight completion.met)
    (hget : completion.met.subscriptions.get? id = some subscription)
    (hnot : completion.saw id = false) : subscription.first = true := by
  by_cases hle : id.number ≤ completion.flight.planned.subscriptions.lastId
  · have hbefore := htracks.keeps.subscriptions.kept hget hle
    rw [subscriptions_planned htracks.before] at hbefore
    rw [saw, hbefore] at hnot
    cases hnot
  · exact (htracks.keeps.subscriptions.unserved hget (Nat.lt_of_not_le hle)).1

/-- A job has the type that its variable still has. -/
theorem type_of_job (htracks : Tracks forced completion.flight completion.met)
    (hjob : completion.flight.plan.jobs[slot]? = some job)
    (hget : completion.met.directory.get? job.variable_ = some variable_) :
    job.type = variable_.type := by
  have hdirectory := htracks.before.booked.modules.directory
  obtain ⟨planned, hplanned, _, htype⟩ :=
    (State.collects_plan hdirectory).ready job (List.mem_of_getElem? hjob)
  have hle : job.variable_.number ≤ completion.flight.planned.directory.lastId :=
    (State.binds_plan hdirectory).sound.le_lastId hplanned
  obtain ⟨found, hfound, hprofile, _⟩ := htracks.keeps.directory.kept hget hle
  have hsame : found = planned := Option.some.inj (hfound.symm.trans hplanned)
  rw [Variable.type_eq_of_profile_eq hprofile, hsame, htype]

/-- What a tick does for a live subscription, which becomes `after`. It queues the line of the value
that is news to the subscription and no other; if that line is refused, the subscription is on its
way out. -/
structure Turn (completion : Completion) (earlier : List Completion) (id : SubscriptionId)
    (subscription : Subscription) (type : TypeTag) (after : Subscription) : Prop where
  served : completion.served.subscriptions.get? id = some after
  interest : after.interest = subscription.interest
  first : after.first = (subscription.first &&
    !(completion.saw id && (completion.recordedValue subscription.interest.key).isSome))
  pushes : (pushesFor completion.applied.pushes id).map Push.line =
      (completion.news id subscription.interest.key earlier).toList.map
        (pushLine subscription.interest.clientId type) ∨
    (completion.news id subscription.interest.key earlier).isSome ∧
      pushesFor completion.applied.pushes id = [] ∧ after.pending = true ∧
      completion.served.Refuses subscription.interest.connection

/-- A subscription that the plan did not have is left alone, and nothing is news to it. -/
theorem turn_of_not_saw (hmet : completion.met.Sound forced)
    (htracks : Tracks forced completion.flight completion.met)
    (htallies : Tallies earlier completion.met)
    (hget : completion.met.subscriptions.get? id = some subscription)
    (hnot : completion.saw id = false) (type : TypeTag) :
    Turn completion earlier id subscription type subscription := by
  have hflag := htallies.flagged id subscription hget
  rw [first_of_not_saw htracks hget hnot] at hflag
  have hunserved : wasServed id subscription.interest.key earlier = false := by
    simpa using hflag.symm
  have hnews : completion.news id subscription.interest.key earlier = none := by
    rw [news, Option.filter_eq_none_iff]
    intro value _
    simp [isNews, hnot, hunserved]
  obtain ⟨hserved, hpushes⟩ := served_of_not_saw hmet htracks hget fun hsaw => by
    rw [hnot] at hsaw
    cases hsaw
  refine ⟨hserved, rfl, ?_, .inl ?_⟩
  · rw [hnot, Bool.false_and, Bool.not_false, Bool.and_true]
  · rw [hpushes, hnews]
    rfl

/-- A subscription that no job was for is left alone, and there is no news. -/
theorem turn_of_no_job (hmet : completion.met.Sound forced)
    (htracks : Tracks forced completion.flight completion.met)
    (hget : completion.met.subscriptions.get? id = some subscription)
    (hvariable : completion.met.directory.get? subscription.interest.variable_ = some variable_)
    (hnone : findJob completion.flight.plan.jobs subscription.interest.key = none)
    (type : TypeTag) : Turn completion earlier id subscription type subscription := by
  have hrecorded : completion.recordedValue subscription.interest.key = none := by
    rw [recordedValue_of_get? hvariable, answer_of_findJob_eq_none hnone]
  obtain ⟨hserved, hpushes⟩ := served_of_not_saw hmet htracks hget fun _ => hnone
  refine ⟨hserved, rfl, ?_, .inl ?_⟩
  · rw [hrecorded, Option.isSome_none, Bool.and_false, Bool.not_false, Bool.and_true]
  · rw [hpushes, news, hrecorded]
    rfl

/-- The flags and the sample know the history, so what needs a push is what is news. -/
theorem needsPush_eq_isNews (hmet : completion.met.Sound forced)
    (htallies : Tallies earlier completion.met) (hsaw : completion.saw id)
    (hget : completion.met.subscriptions.get? id = some subscription)
    (hkey : job.key = subscription.interest.key)
    (hvariable : completion.met.directory.get? job.variable_ = some variable_) (value : Value) :
    needsPush (completion.resultOf job value).changed subscription.first subscription.pending =
      isNews id subscription.interest.key completion earlier value := by
  have hstored := htallies.stored job.key (by rw [Job.key, hvariable]; rfl)
  have hchanged : (completion.resultOf job value).changed =
      ((lastRecorded subscription.interest.key earlier).map Value.checksum !=
        some value.checksum) := by
    rw [← hkey, ← hstored]
    exact State.notices_eq value hvariable
  rw [hchanged, isNews, hmet.settled hget, htallies.flagged id subscription hget, hsaw, needsPush]
  cases wasServed id subscription.interest.key earlier <;> simp

/-- A subscription of the plan that a job was for hears of the value if that is news. -/
theorem turn_of_job (hmet : completion.met.Sound forced)
    (htracks : Tracks forced completion.flight completion.met)
    (htallies : Tallies earlier completion.met) (hsaw : completion.saw id)
    (hget : completion.met.subscriptions.get? id = some subscription)
    (hvariable : completion.met.directory.get? subscription.interest.variable_ = some variable_)
    (hslot : findJob completion.flight.plan.jobs subscription.interest.key = some slot) :
    ∃ after, Turn completion earlier id subscription variable_.type after := by
  obtain ⟨job, after, hjob, hkey, hserved, hfate⟩ := fate_of_saw hmet htracks hsaw hget hslot
  have hrecorded : completion.recordedValue subscription.interest.key =
      completion.answer subscription.interest.key := recordedValue_of_get? hvariable
  have hjobVariable : job.variable_ = subscription.interest.variable_ := congrArg Prod.fst hkey
  rw [← hjobVariable] at hvariable
  have htype : job.type = variable_.type := type_of_job htracks hjob hvariable
  have hneeds := needsPush_eq_isNews hmet htallies hsaw hget hkey hvariable
  suffices hrest : after.interest = subscription.interest ∧ _ ∧ _ from
    ⟨after, hserved, hrest.1, hrest.2.1, hrest.2.2⟩
  rw [news, hrecorded, hsaw]
  generalize completion.answer subscription.interest.key = answer at hfate
  generalize pushesFor completion.applied.pushes id = pushes at hfate
  generalize hresult : answer.map (completion.resultOf job) = result at hfate
  cases hfate with
  | unserved =>
    rw [Option.map_eq_none_iff.mp hresult]
    exact ⟨rfl, by simp, .inl rfl⟩
  | quiet hquiet =>
    obtain ⟨value, rfl, rfl⟩ := Option.map_eq_some_iff.mp hresult
    rw [hneeds value] at hquiet
    exact ⟨rfl, by simp, .inl (by simp [hquiet])⟩
  | queued hneed =>
    obtain ⟨value, rfl, rfl⟩ := Option.map_eq_some_iff.mp hresult
    rw [hneeds value] at hneed
    refine ⟨rfl, by simp, .inl ?_⟩
    rw [← htype, Option.filter_some, if_pos hneed]
    rfl
  | refused hneed hrefuses =>
    obtain ⟨value, rfl, rfl⟩ := Option.map_eq_some_iff.mp hresult
    rw [hneeds value] at hneed
    exact ⟨rfl, by simp, .inr ⟨by simp [hneed], rfl, rfl, hrefuses⟩⟩

/-- A tick does for every live subscription what it owes to it. -/
theorem turn (hmet : completion.met.Sound forced)
    (htracks : Tracks forced completion.flight completion.met)
    (htallies : Tallies earlier completion.met)
    (hget : completion.met.subscriptions.get? id = some subscription)
    (hvariable : completion.met.directory.get? subscription.interest.variable_ = some variable_) :
    ∃ after, Turn completion earlier id subscription variable_.type after := by
  cases hsaw : completion.saw id with
  | false => exact ⟨_, turn_of_not_saw hmet htracks htallies hget hsaw _⟩
  | true =>
    cases hslot : findJob completion.flight.plan.jobs subscription.interest.key with
    | none => exact ⟨_, turn_of_no_job hmet htracks hget hvariable hslot _⟩
    | some slot => exact turn_of_job hmet htracks htallies hsaw hget hvariable hslot

/-- Nothing is queued for a subscription that the plan of the tick did not have. -/
theorem pushesFor_of_not_saw (hmet : completion.met.Sound forced)
    (htracks : Tracks forced completion.flight completion.met) (hnot : completion.saw id = false) :
    pushesFor completion.applied.pushes id = [] := by
  cases hget : completion.met.subscriptions.get? id with
  | none => exact pushesFor_of_gone hmet hget
  | some subscription =>
    refine (served_of_not_saw hmet htracks hget fun hsaw => ?_).2
    rw [hnot] at hsaw
    cases hsaw

/-- A subscription that outlives a tick was told all that it was to hear of. -/
theorem turn_of_live (hmet : completion.met.Sound false)
    (htracks : Tracks false completion.flight completion.met)
    (htallies : Tallies earlier completion.met)
    (hget : completion.applied.state.subscriptions.get? id = some subscription) :
    ∃ before variable_, completion.met.subscriptions.get? id = some before ∧
      before.interest = subscription.interest ∧
      completion.met.directory.get? subscription.interest.variable_ = some variable_ ∧
      subscription.first = (before.first &&
        !(completion.saw id &&
          (completion.recordedValue subscription.interest.key).isSome)) ∧
      (pushesFor completion.applied.pushes id).map Push.line =
        (completion.news id subscription.interest.key earlier).toList.map
          (pushLine subscription.interest.clientId variable_.type) := by
  obtain ⟨before, hbefore, hinterest⟩ := State.get?_of_apply hmet.booked hget
  obtain ⟨hserved, hpending, _⟩ := (State.get?_subscriptions_apply_iff hmet.booked).mp hget
  obtain ⟨variable_, _, hvariable, _⟩ := hmet.booked.anchored hbefore (hmet.held rfl hbefore)
  obtain ⟨after, hturn⟩ := turn hmet htracks htallies hbefore hvariable
  have hsame : after = subscription := Option.some.inj (hturn.served.symm.trans hserved)
  subst hsame
  have hfirst := hturn.first
  have hpushes := hturn.pushes
  rw [hinterest] at hvariable hfirst hpushes
  refine ⟨before, variable_, hbefore, hinterest, hvariable, hfirst, ?_⟩
  rcases hpushes with hlines | ⟨_, _, hleaving, _⟩
  · exact hlines
  · rw [hpending] at hleaving
    cases hleaving

/-- The variables that outlive a tick have the samples that it recorded. -/
theorem get?_directory_applied {variableId : VariableId} (hmet : completion.met.Sound forced)
    (htracks : Tracks forced completion.flight completion.met)
    (hget : completion.applied.state.directory.get? variableId = some variable_) :
    ∃ before, completion.met.directory.get? variableId = some before ∧
      variable_.profile = before.profile ∧ ∀ arg, variable_.samples.get? arg =
        (completion.recordedValue (variableId, arg)).elim (before.samples.get? arg) fun value =>
          some ⟨value.checksum, completion.moment⟩ := by
  have hrecorded := State.get?_directory_of_apply hmet.booked hget
  have hdistinct : completion.entries.Distinct :=
    Valued.distinct_zip _ (distinct_jobs htracks.before)
  cases hbefore : completion.met.directory.get? variableId with
  | none =>
    have hnone :=
      State.get?_directory_recordAll_eq_none completion.moment completion.entries hbefore
    rw [State.recorded] at hrecorded
    rw [entries, hrecorded] at hnone
    cases hnone
  | some before =>
    obtain ⟨found, hfound, hprofile, _, hsamples⟩ :=
      State.get?_directory_recordAll completion.moment hdistinct hbefore
    have hsame : found = variable_ := Option.some.inj (hfound.symm.trans hrecorded)
    subst hsame
    refine ⟨before, rfl, hprofile, fun arg => ?_⟩
    rw [hsamples arg, recordedValue_of_get? hbefore]
    rfl

end Completion

/-- Applying a tick keeps the tables in step with the history. -/
theorem Tallies.apply (htallies : Tallies earlier completion.met)
    (hmet : completion.met.Sound false)
    (htracks : Tracks false completion.flight completion.met) :
    Tallies (completion :: earlier) completion.applied.state where
  seen := by
    have hlast : completion.applied.state.subscriptions.lastId =
        completion.met.subscriptions.lastId := State.lastId_subscriptions_apply hmet.booked
    intro other hmem id hsaw
    rw [hlast]
    rcases List.mem_cons.mp hmem with rfl | hmem
    · exact Completion.le_lastId_of_saw htracks hsaw
    · exact htallies.seen other hmem id hsaw
  known := by
    have hlast : completion.applied.state.directory.lastId =
        completion.met.directory.lastId := State.lastId_directory_apply hmet.booked
    intro key value hvalue
    rw [hlast]
    rw [lastRecorded, Option.or_eq_some_iff] at hvalue
    rcases hvalue with hrecorded | ⟨_, hearlier⟩
    · exact Completion.le_lastId_of_recorded hmet (Option.isSome_of_eq_some hrecorded)
    · exact htallies.known key value hearlier
  stored := by
    intro key hsome
    obtain ⟨variable_, hget⟩ := Option.isSome_iff_exists.mp hsome
    obtain ⟨before, hbefore, _, hsamples⟩ :=
      Completion.get?_directory_applied hmet htracks hget
    have hstored := htallies.stored key (by rw [hbefore]; rfl)
    rw [State.storedChecksum, hbefore, Option.bind_some] at hstored
    rw [State.storedChecksum, hget, Option.bind_some, hsamples key.2, lastRecorded]
    cases completion.recordedValue key with
    | none => exact hstored
    | some value => rfl
  flagged := by
    intro id subscription hget
    obtain ⟨before, _, hbefore, hinterest, _, hfirst, _⟩ :=
      Completion.turn_of_live hmet htracks htallies hget
    rw [hfirst, htallies.flagged id before hbefore, hinterest, wasServed_cons, Bool.not_or,
      Bool.and_comm]
  lines := by
    intro id subscription variable_ hget hvariable
    obtain ⟨before, found, hbefore, hinterest, hfound, _, hlines⟩ :=
      Completion.turn_of_live hmet htracks htallies hget
    have hqueued := htallies.lines id before found hbefore (by rw [hinterest]; exact hfound)
    obtain ⟨same, hsame, hprofile, _⟩ :=
      Completion.get?_directory_applied hmet htracks hvariable
    rw [hfound] at hsame
    cases hsame
    rw [hinterest] at hqueued
    rw [queued, owed, hlines, hqueued, List.map_append, Variable.type_eq_of_profile_eq hprofile]

/-! ## Every run -/

/-- The tables follow the history now, and did so whenever a tick was applied. -/
structure Run.Tallied (run : Run) : Prop where
  current : Tallies run.history run.world.state
  applied : ∀ completion earlier, completion :: earlier <:+ run.history →
    Tallies earlier completion.met

/-- Every step of a run leaves samples, flags and queued lines as the history says. -/
theorem Run.Tallied.step {run after : Run} (htallied : run.Tallied) (hsound : Sound false run)
    (hstep : Step false run after) : after.Tallied := by
  have hquiet : ∀ completion ∈ run.history, ∀ id, completion.saw id = false →
      pushesFor completion.applied.pushes id = [] := by
    intro completion hmem id hnot
    obtain ⟨hmet, htracks, _⟩ := hsound.history hmem
    exact Completion.pushesFor_of_not_saw hmet htracks hnot
  cases hstep with
  | outside world hsteps =>
    have hkeeps := hsound.state.keeps_steps hsteps
    exact ⟨htallied.current.keeps hsound.state hkeeps hquiet, htallied.applied⟩
  | plan hidle =>
    have hkeeps : run.world.state.Keeps (run.world.state.plan run.world.host.now).1 :=
      hsound.state.keeps_binds (State.binds_plan hsound.state.booked.modules.directory)
    exact ⟨htallied.current.keeps hsound.state hkeeps hquiet, htallied.applied⟩
  | call hflight hjob => exact ⟨htallied.current, htallied.applied⟩
  | abandon => exact ⟨htallied.current, htallied.applied⟩
  | @apply flight hflight hdone =>
    have htracks : Tracks false (run.completion flight).flight (run.completion flight).met :=
      hsound.flight hflight
    refine ⟨htallied.current.apply hsound.state htracks, ?_⟩
    intro completion earlier hsuffix
    rcases List.suffix_cons_iff.mp hsuffix with heq | hsuffix
    · cases heq
      exact htallied.current
    · exact htallied.applied completion earlier hsuffix

/-- In every reachable run the samples, the flags and the queued lines say what the history says. -/
theorem Run.Reachable.tallied {run : Run} (hreach : Reachable false run) : run.Tallied := by
  induction hreach with
  | start world layout settings hstate =>
    refine ⟨?_, ?_⟩
    · rw [hstate]
      exact .empty (fun _ => rfl) fun _ => rfl
    · intro completion earlier hsuffix
      exact absurd (List.eq_nil_of_suffix_nil hsuffix) (List.cons_ne_nil _ _)
  | step hbefore hstep ih => exact ih.step hbefore.sound hstep

/-- A tick did for the subscriptions what it owed to them. -/
structure Completion.Settles (completion : Completion) (earlier : List Completion) : Prop where
  /-- A live subscription was queued the line of the value that was news to it, and no other. If the
  queue did not take the line, the subscription is gone. -/
  told : ∀ id subscription, completion.met.subscriptions.get? id = some subscription →
    ∃ variable_, completion.met.directory.get? subscription.interest.variable_ = some variable_ ∧
      ((pushesFor completion.applied.pushes id).map Push.line =
          (completion.news id subscription.interest.key earlier).toList.map
            (pushLine subscription.interest.clientId variable_.type) ∨
        (completion.news id subscription.interest.key earlier).isSome ∧
          pushesFor completion.applied.pushes id = [] ∧
          completion.applied.state.subscriptions.get? id = none ∧
          completion.applied.state.Refuses subscription.interest.connection)
  /-- A subscription that was removed before got nothing. -/
  gone : ∀ id, completion.met.subscriptions.get? id = none →
    pushesFor completion.applied.pushes id = []

/-- A live subscription was told all that it was to hear of, and nothing else. -/
structure Run.Tells (run : Run) (id : SubscriptionId) (subscription : Subscription) : Prop where
  lines : ∃ variable_,
    run.world.state.directory.get? subscription.interest.variable_ = some variable_ ∧
    queued id run.history = (owed id subscription.interest.key run.history).map
      (pushLine subscription.interest.clientId variable_.type)
  unserved : subscription.first = true → owed id subscription.interest.key run.history = []
  /-- What a served subscription was told last has the checksum that is stored. -/
  last : subscription.first = false →
    ∃ value, (owed id subscription.interest.key run.history).getLast? = some value ∧
      run.world.state.storedChecksum subscription.interest.key = some value.checksum

/-- A tick that meets a state in which everything is as the history says does what it owes to the
subscriptions. -/
theorem Completion.settles_of_tallies {completion : Completion} {earlier : List Completion}
    (hmet : completion.met.Sound false)
    (htracks : Tracks false completion.flight completion.met)
    (htallies : Tallies earlier completion.met) : completion.Settles earlier where
  told := by
    intro id subscription hget
    obtain ⟨variable_, _, hvariable, _⟩ := hmet.booked.anchored hget (hmet.held rfl hget)
    refine ⟨variable_, hvariable, ?_⟩
    obtain ⟨after, hturn⟩ := turn hmet htracks htallies hget hvariable
    rcases hturn.pushes with hlines | ⟨hnews, hnone, hleaving, hrefuses⟩
    · exact .inl hlines
    · have hroutes : completion.served.Routes completion.applied.state := State.routes_apply
      refine .inr ⟨hnews, hnone, ?_, hroutes.refuses hrefuses⟩
      cases hfinal : completion.applied.state.subscriptions.get? id with
      | none => rfl
      | some found =>
        obtain ⟨hserved, hpending, _⟩ :=
          (State.get?_subscriptions_apply_iff hmet.booked).mp hfinal
        have hsame : after = found := Option.some.inj (hturn.served.symm.trans hserved)
        rw [hsame, hpending] at hleaving
        cases hleaving
  gone _ hnone := pushesFor_of_gone hmet hnone

/-- A live subscription of a reachable run was told all that it was to hear of, and nothing else. -/
theorem Run.Reachable.tells {run : Run} {id : SubscriptionId} {subscription : Subscription}
    (hreach : Reachable false run)
    (hget : run.world.state.subscriptions.get? id = some subscription) :
    run.Tells id subscription := by
  have hsound := hreach.sound.state
  have htallies := hreach.tallied.current
  have hflag := htallies.flagged id subscription hget
  have hlast := getLast?_owed id subscription.interest.key run.history
  obtain ⟨variable_, _, hvariable, _⟩ := hsound.booked.anchored hget (hsound.held rfl hget)
  refine ⟨⟨variable_, hvariable, htallies.lines id subscription variable_ hget hvariable⟩, ?_, ?_⟩
  · intro hfirst
    have hunserved : wasServed id subscription.interest.key run.history = false := by
      rw [hfirst] at hflag
      simpa using hflag.symm
    rw [hunserved, if_neg Bool.false_ne_true, Option.map_eq_none_iff] at hlast
    exact List.getLast?_eq_none_iff.mp hlast
  · intro hfirst
    have hserved : wasServed id subscription.interest.key run.history = true := by
      rw [hfirst] at hflag
      simpa using hflag.symm
    have hstored := htallies.stored subscription.interest.key
      (Option.isSome_iff_exists.mpr ⟨variable_, hvariable⟩)
    obtain ⟨recorded, hrecorded⟩ := Option.isSome_iff_exists.mp (isSome_lastRecorded hserved)
    rw [if_pos hserved, hrecorded, Option.map_some] at hlast
    obtain ⟨value, hvalue, hsame⟩ := Option.map_eq_some_iff.mp hlast
    refine ⟨value, hvalue, ?_⟩
    rw [hstored, hrecorded, Option.map_some, hsame]

/-- Whatever happens between ticks and during them, every tick queues for every subscription the
line of the value that is news to it and no other, the queues themselves get these lines and nothing
else, and a live subscription has been told exactly what it was to hear of. So nothing is lost and
nothing is said twice, also where a value was found on behalf of somebody else. -/
theorem Run.Reachable.each_change_queued_once {run : Run} (hreach : Reachable false run) :
    (∀ completion earlier, completion :: earlier <:+ run.history →
      completion.Settles earlier ∧ completion.Enqueues) ∧
    (∀ id subscription, run.world.state.subscriptions.get? id = some subscription →
      run.Tells id subscription) := by
  refine ⟨?_, fun id subscription hget => hreach.tells hget⟩
  intro completion earlier hsuffix
  have hmem : completion ∈ run.history := hsuffix.subset List.mem_cons_self
  obtain ⟨hmet, htracks, _⟩ := hreach.sound.history hmem
  have htallies := hreach.tallied.applied completion earlier hsuffix
  exact ⟨Completion.settles_of_tallies hmet htracks htallies, hreach.enqueues hmem⟩

/-- After the first tick of a small daemon its subscriber was told one value, and the line is in the
queue. -/
theorem each_change_queued_once_served :
    ∃ subscription, Sample.served.world.state.subscriptions.get? ⟨1⟩ = some subscription ∧
      queued ⟨1⟩ Sample.served.history = ["a:0:open\r\n"] ∧
      (Sample.served.world.state.outboxes.get? ⟨1⟩).map Outbox.lines = some ["a:0:open\r\n"] ∧
      Sample.served.Tells ⟨1⟩ subscription ∧
      ∀ completion ∈ Sample.served.history, completion.Enqueues := by
  have hget : ∃ subscription,
      Sample.served.world.state.subscriptions.get? ⟨1⟩ = some subscription :=
    ⟨_, by with_unfolding_all rfl⟩
  obtain ⟨subscription, hget⟩ := hget
  obtain ⟨hticks, htold⟩ := Run.Reachable.each_change_queued_once (Sample.reachable_served false)
  refine ⟨subscription, hget, by with_unfolding_all rfl, by with_unfolding_all rfl,
    htold ⟨1⟩ subscription hget, fun completion hmem => ?_⟩
  obtain rfl := List.mem_singleton.mp hmem
  exact (hticks _ [] (List.suffix_refl _)).2

end MetricsDaemon
