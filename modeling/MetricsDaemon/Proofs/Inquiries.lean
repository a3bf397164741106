import MetricsDaemon.Proofs.Exactness
import MetricsDaemon.Proofs.Teardown

/-!
# Methods are asked for once

Every question for a method is noted in the journal with the number of the variable whose
method it was, and no number is there twice. A variable whose method was asked for keeps
the answer for as long as it is registered, so that one without a method is never
evaluated.
-/

namespace MetricsDaemon

open Relation (ReflTransGen)
open Stock (Deed)

/-! ## Questions -/

/-- A question for a method: the variable whose method it was, and what unit was asked. -/
structure Inquiry where
  variable_ : VariableId
  unit : UnitTag
  method : String

/-- The question that an event is. -/
def Event.inquiry? : Event → Option Inquiry
  | .methodAsked unit id method => some ⟨id, unit, method⟩
  | _ => none

/-- The questions for methods, the newest first. -/
def Journal.inquiries (journal : Journal) : List Inquiry := journal.filterMap Event.inquiry?

/-- An event that is no question adds none. -/
theorem Journal.inquiries_cons {event : Event} (journal : Journal)
    (hevent : event.inquiry? = none) : Journal.inquiries (event :: journal) = journal.inquiries :=
  List.filterMap_cons_none hevent

namespace Registry

/-- No method was asked for twice: there is at most one question for each number, and only numbers
of variables that were given out are asked for. A registered variable was asked for exactly if its
method is bound or could not be, and the question was for its own method and went to the unit of its
module. -/
structure AsksOnce (registry : Registry) : Prop where
  once : (registry.journal.inquiries.map Inquiry.variable_).Nodup
  known : ∀ inquiry ∈ registry.journal.inquiries,
    inquiry.variable_.number ≤ registry.directory.lastId
  asked : ∀ {id variable_}, registry.directory.get? id = some variable_ →
    (variable_.binding ≠ .unresolved ↔ id ∈ registry.journal.inquiries.map Inquiry.variable_)
  own : ∀ inquiry ∈ registry.journal.inquiries, ∀ variable_,
    registry.directory.get? inquiry.variable_ = some variable_ →
      inquiry.method = variable_.method ∧
        ∃ unit, registry.unitOf variable_.module_ = some unit ∧ inquiry.unit = unit.tag

/-- Nobody was asked for a method: the variables that stay are bound as they were and to the same
units, and those that came are not bound. -/
structure Unasked (before after : Registry) : Prop where
  journal : after.journal.inquiries = before.journal.inquiries
  last : before.directory.lastId ≤ after.directory.lastId
  kept : ∀ {id found}, after.directory.get? id = some found →
    id.number ≤ before.directory.lastId → ∃ variable_,
      before.directory.get? id = some variable_ ∧ found.profile = variable_.profile ∧
        found.binding = variable_.binding ∧
        after.unitOf variable_.module_ = before.unitOf variable_.module_
  fresh : ∀ {id found}, after.directory.get? id = some found →
    before.directory.lastId < id.number → found.binding = .unresolved

variable {registry before after : Registry} {unloads : Bool} {prepared : Prepared} {event : Event}
  {id : VariableId} {variable_ : Variable} {module_ : Module}

/-- Where nobody was asked, no method was asked for twice. -/
theorem AsksOnce.unasked (hasks : before.AsksOnce) (hunasked : before.Unasked after) :
    after.AsksOnce where
  once := by
    rw [hunasked.journal]
    exact hasks.once
  known := by
    rw [hunasked.journal]
    exact fun inquiry hmem => Nat.le_trans (hasks.known inquiry hmem) hunasked.last
  asked := by
    intro id found hget
    rw [hunasked.journal]
    by_cases hle : id.number ≤ before.directory.lastId
    · obtain ⟨variable_, hvariable, _, hbinding, _⟩ := hunasked.kept hget hle
      rw [hbinding]
      exact hasks.asked hvariable
    · have hbinding := hunasked.fresh hget (by omega)
      have hnot : id ∉ before.journal.inquiries.map Inquiry.variable_ := by
        intro hmem
        obtain ⟨inquiry, hinquiry, rfl⟩ := List.mem_map.mp hmem
        exact hle (hasks.known inquiry hinquiry)
      simp [hbinding, hnot]
  own := by
    rw [hunasked.journal]
    intro inquiry hmem found hget
    obtain ⟨variable_, hvariable, hprofile, _, hunits⟩ :=
      hunasked.kept hget (hasks.known inquiry hmem)
    obtain ⟨hmethod, unit, hunit, htag⟩ := hasks.own inquiry hmem variable_ hvariable
    rw [Variable.method_eq_of_profile_eq hprofile, Variable.module_eq_of_profile_eq hprofile,
      hunits]
    exact ⟨hmethod, unit, hunit, htag⟩

/-- What leaves the variables and the modules alone asks nobody. -/
theorem Unasked.of_tables_eq (hsound : before.directory.Sound)
    (hmodules : after.modules = before.modules) (hdirectory : after.directory = before.directory)
    (hjournal : after.journal.inquiries = before.journal.inquiries) : before.Unasked after where
  journal := hjournal
  last := Nat.le_of_eq (congrArg Directory.lastId hdirectory.symm)
  kept := by
    intro id found hget _
    rw [hdirectory] at hget
    exact ⟨found, hget, rfl, rfl, by rw [unitOf_eq_of_modules_eq hmodules]⟩
  fresh := by
    intro id found hget hlt
    rw [hdirectory] at hget
    have hle := hsound.le_lastId hget
    omega

/-- To note what is no question is to ask nobody. -/
theorem unasked_note (hsound : before.directory.Sound) (hevent : event.inquiry? = none) :
    before.Unasked (before.note event) :=
  .of_tables_eq hsound rfl rfl (before.journal.inquiries_cons hevent)

/-- Unloading a module asks for no method. -/
theorem unasked_unload {moduleId : ModuleId} (hsound : before.Sound) :
    before.Unasked (before.unload moduleId) where
  journal := by
    cases hget : before.get? moduleId with
    | none => rw [unload_of_get?_eq_none hget]
    | some module_ =>
      rw [journal_unload hget]
      exact before.journal.inquiries_cons rfl
  last := Nat.le_of_eq lastId_directory_unload.symm
  kept := by
    intro id found hget _
    obtain ⟨hvariable, hne⟩ := hsound.get?_directory_unload_iff.mp hget
    refine ⟨found, hvariable, rfl, rfl, ?_⟩
    rw [unitOf, unitOf, get?_unload, if_neg hne.symm]
  fresh := by
    intro id found hget hlt
    have hle := hsound.directory.le_lastId (hsound.get?_directory_unload_iff.mp hget).1
    omega

/-- Installing a module asks for no method. -/
theorem unasked_install (hsound : before.Sound) :
    before.Unasked (before.install prepared).1 where
  journal := by
    rcases before.journal_install with h | h
    · rw [h]
    · rw [h]
      exact before.journal.inquiries_cons rfl
  last := hsound.keeps_install.last
  kept := by
    intro id found hget hle
    obtain ⟨variable_, hvariable, _⟩ := hsound.keeps_install.kept hget hle
    have hsame : (before.install prepared).1.directory.get? id = some variable_ :=
      hsound.get?_directory_install_of_get? hvariable
    obtain rfl : found = variable_ := Option.some.inj (hget.symm.trans hsame)
    obtain ⟨module_, hmodule, _⟩ := hsound.owner hvariable
    refine ⟨found, hvariable, rfl, rfl, ?_⟩
    rw [unitOf, unitOf, hsound.get?_install_of_get? hmodule, hmodule]
  fresh := by
    intro id found hget hlt
    rcases hsound.get?_directory_of_install hget with hold | ⟨offer, _, timeout, rfl⟩
    · have hle := hsound.directory.le_lastId hold
      omega
    · rfl

/-- Recording a sample asks for no method. -/
theorem unasked_recordSample {arg : Option String} {now checksum : Nat}
    (hsound : before.directory.Sound) :
    before.Unasked { before with
      directory := (before.directory.recordSample id arg now checksum).1 } where
  journal := rfl
  last := Nat.le_of_eq Directory.lastId_recordSample.symm
  kept := by
    intro other found hget _
    rw [Directory.get?_recordSample] at hget
    split at hget
    · obtain ⟨variable_, hvariable, rfl⟩ := Option.map_eq_some_iff.mp hget
      exact ⟨variable_, hvariable, rfl, rfl, rfl⟩
    · exact ⟨found, hget, rfl, rfl, rfl⟩
  fresh := by
    intro other found hget hlt
    have hle := hsound.recordSample.le_lastId hget
    rw [Directory.lastId_recordSample] at hle
    omega

/-- What is bound is not asked for again. -/
theorem bind_of_ne_unresolved {unit : ProviderUnit}
    (hget : registry.directory.get? id = some variable_)
    (hbound : variable_.binding ≠ .unresolved) : registry.bind unit id = registry := by
  rw [bind, Directory.resolve_of_ne_unresolved hget hbound]

/-- What is not bound yet is asked for, on behalf of its own number. -/
theorem inquiries_bind_of_unresolved {unit : ProviderUnit}
    (hget : registry.directory.get? id = some variable_)
    (hbinding : variable_.binding = .unresolved) : (registry.bind unit id).journal.inquiries =
      ⟨id, unit.tag, variable_.method⟩ :: registry.journal.inquiries := by
  have hjournal : (registry.bind unit id).journal =
      .methodAsked unit.tag id variable_.method :: registry.journal := by
    simp [bind, Directory.resolve, hget, hbinding, Registry.note]
  rw [hjournal]
  rfl

/-- A question for a variable that is not bound is the first one for it, and goes to the unit of its
module. -/
theorem AsksOnce.bind_of_unresolved (hasks : registry.AsksOnce)
    (hsound : registry.directory.Sound) (hvariable : registry.directory.get? id = some variable_)
    (hmodule : registry.get? variable_.module_ = some module_)
    (hbinding : variable_.binding = .unresolved) : (registry.bind module_.unit id).AsksOnce where
  once := by
    rw [inquiries_bind_of_unresolved hvariable hbinding]
    have hnew : id ∉ registry.journal.inquiries.map Inquiry.variable_ := fun hmem =>
      (hasks.asked hvariable).mpr hmem hbinding
    exact List.nodup_cons.mpr ⟨hnew, hasks.once⟩
  known := by
    rw [inquiries_bind_of_unresolved hvariable hbinding, directory_bind, Directory.lastId_resolve]
    intro inquiry hmem
    rcases List.mem_cons.mp hmem with rfl | hmem
    · exact hsound.le_lastId hvariable
    · exact hasks.known inquiry hmem
  asked := by
    intro other found hget
    rw [inquiries_bind_of_unresolved hvariable hbinding]
    rw [directory_bind, Directory.get?_resolve] at hget
    split at hget
    · next heq =>
      obtain ⟨_, _, rfl⟩ := Option.map_eq_some_iff.mp hget
      simp [← heq, Variable.binding_bindWith_ne]
    · next hne =>
      have hother : other ≠ id := fun h => hne h.symm
      rw [hasks.asked hget]
      simp [hother]
  own := by
    rw [inquiries_bind_of_unresolved hvariable hbinding, unitOf_eq_of_modules_eq modules_bind]
    intro inquiry hmem found hget
    rw [directory_bind, Directory.get?_resolve] at hget
    rcases List.mem_cons.mp hmem with rfl | hmem
    · rw [if_pos rfl, hvariable] at hget
      cases hget
      refine ⟨Variable.method_bindWith.symm, module_.unit, ?_, rfl⟩
      rw [Variable.module_bindWith, unitOf, hmodule, Option.map_some]
    · split at hget
      · obtain ⟨earlier, hearlier, rfl⟩ := Option.map_eq_some_iff.mp hget
        rw [Variable.method_bindWith, Variable.module_bindWith]
        exact hasks.own inquiry hmem earlier hearlier
      · exact hasks.own inquiry hmem found hget

/-- Binding a method asks for none a second time. -/
theorem AsksOnce.bind (hasks : registry.AsksOnce) (hsound : registry.directory.Sound)
    (hvariable : registry.directory.get? id = some variable_)
    (hmodule : registry.get? variable_.module_ = some module_) :
    (registry.bind module_.unit id).AsksOnce := by
  by_cases hbinding : variable_.binding = .unresolved
  · exact hasks.bind_of_unresolved hsound hvariable hmodule hbinding
  · rw [bind_of_ne_unresolved hvariable hbinding]
    exact hasks

/-- No act asks for a method a second time. -/
theorem AsksOnce.act (hasks : before.AsksOnce) (hsound : before.Sound)
    (hact : Act unloads before after) : after.AsksOnce := by
  cases hact with
  | provided name provider => exact hasks.unasked (.of_tables_eq hsound.directory rfl rfl rfl)
  | counted id change =>
    refine hasks.unasked ⟨rfl, Nat.le_refl _, fun hget _ => ?_, ?_⟩
    · exact ⟨_, hget, rfl, rfl, by rw [unitOf_recount]⟩
    · intro id found hget hlt
      have hle := hsound.directory.le_lastId hget
      omega
  | bound hvariable hmodule => exact hasks.bind hsound.directory hvariable hmodule
  | sampled id arg now checksum => exact hasks.unasked (unasked_recordSample hsound.directory)
  | unloaded id hmay => exact hasks.unasked (unasked_unload hsound)

end Registry

/-- No deed asks for a method a second time. -/
theorem Stock.Deed.asksOnce {alone unloads : Bool} {before after : Stock}
    (hdeed : Deed alone unloads before after) (hsound : before.registry.Sound)
    (hasks : before.registry.AsksOnce) : after.registry.AsksOnce := by
  have hnote {event : Event} (hevent : event.inquiry? = none) :
      (before.registry.note event).AsksOnce :=
    hasks.unasked (Registry.unasked_note hsound.directory hevent)
  cases hdeed with
  | acted hact => exact hasks.act hsound hact
  | installed prepared => exact hasks.unasked (Registry.unasked_install hsound)
  | dropped | shuffled => exact hasks
  | opened | entered | offered | returned | discarded => exact hnote rfl

/-- No method is asked for twice wherever the whole can come. -/
theorem Whole.Reachable.asksOnce {rules : Permit} {whole : Whole}
    (hreach : Reachable rules whole) : whole.world.registry.AsksOnce := by
  refine hreach.kept (fun stock => stock.registry.AsksOnce) ?_ ?_ ?_
  · intro layout settings last
    exact ⟨List.nodup_nil, nofun, nofun, nofun⟩
  · intro registry last holdings tag method argument hasks
    exact ⟨hasks.once, hasks.known, hasks.asked, hasks.own⟩
  · intro unloads before after hbalanced hasks hdeed
    exact hdeed.asksOnce hbalanced.registry hasks

/-! ## Answers -/

/-- Variables that stay keep what their methods were bound to, and that they could not be bound. -/
structure Directory.Decided (before after : Directory) : Prop where
  last : before.lastId ≤ after.lastId
  kept : ∀ {id found}, after.get? id = some found → id.number ≤ before.lastId →
    ∃ variable_, before.get? id = some variable_ ∧
      (variable_.binding ≠ .unresolved → found.binding = variable_.binding)

namespace Directory

variable {before middle after : Directory}

/-- Variables that are kept keep what was decided about their methods. -/
theorem Keeps.decided (hkeeps : before.Keeps after) : before.Decided after where
  last := hkeeps.last
  kept := by
    intro id found hget hle
    obtain ⟨variable_, hvariable, _, _, hbinding⟩ := hkeeps.kept hget hle
    exact ⟨variable_, hvariable, hbinding⟩

/-- What stays decided up to a moment, and from there on, stays decided throughout. -/
theorem Decided.trans (hfirst : before.Decided middle) (hlast : middle.Decided after) :
    before.Decided after where
  last := Nat.le_trans hfirst.last hlast.last
  kept := by
    intro id found hget hle
    obtain ⟨between, hbetween, hlater⟩ := hlast.kept hget (Nat.le_trans hle hfirst.last)
    obtain ⟨variable_, hvariable, hearlier⟩ := hfirst.kept hbetween hle
    refine ⟨variable_, hvariable, fun hbound => ?_⟩
    have hsame := hearlier hbound
    rw [hlater (by rwa [hsame]), hsame]

end Directory

namespace Run

variable {forced : Bool} {run after : Run} {job : Job} {id : VariableId} {variable_ : Variable}

/-- The job belongs to a tick that is in flight or was applied. -/
def Plans (run : Run) (job : Job) : Prop :=
  (∃ flight, run.flight = some flight ∧ job ∈ flight.plan.jobs) ∨
    ∃ completion ∈ run.history, job ∈ completion.flight.plan.jobs

/-- What is decided at a moment is decided then. -/
theorem Sound.decided_refl (hsound : Sound forced run) :
    run.world.state.directory.Decided run.world.state.directory :=
  (Directory.Keeps.refl hsound.state.booked.modules.directory).decided

/-- No step of a run changes what was decided about a method. -/
theorem Sound.decided (hsound : Sound forced run) (hstep : Step forced run after) :
    run.world.state.directory.Decided after.world.state.directory := by
  cases hstep with
  | outside world hsteps => exact (hsound.state.keeps_steps hsteps).directory.decided
  | plan hidle =>
    have hbinds : run.world.state.Binds (run.world.state.plan run.world.host.now).1 :=
      State.binds_plan hsound.state.booked.modules.directory
    exact hbinds.keeps.decided
  | call | abandon => exact hsound.decided_refl
  | @apply flight hflight hdone =>
    have hbooked := hsound.state.booked
    have htracks := hsound.flight hflight
    have hdistinct : Valued.Distinct (flight.plan.jobs.zip flight.values) :=
      Valued.distinct_zip _ (State.collects_plan htracks.before.booked.modules.directory).distinct
    refine ⟨Nat.le_of_eq (State.lastId_directory_apply hbooked).symm, ?_⟩
    intro id found hget _
    have hrecorded : (State.recordAll run.world.host.now run.world.state
        (flight.plan.jobs.zip flight.values)).1.directory.get? id = some found :=
      State.get?_directory_of_apply hbooked hget
    cases hvariable : run.world.state.directory.get? id with
    | none =>
      have hnone := State.get?_directory_recordAll_eq_none run.world.host.now
        (flight.plan.jobs.zip flight.values) hvariable
      rw [hnone] at hrecorded
      cases hrecorded
    | some variable_ =>
      obtain ⟨kept, hkept, _, hbinding, _⟩ :=
        State.get?_directory_recordAll run.world.host.now hdistinct hvariable
      obtain rfl : kept = found := Option.some.inj (hkept.symm.trans hrecorded)
      exact ⟨variable_, rfl, fun _ => hbinding⟩

/-- What was decided about a method stays so whatever happens in a run. -/
theorem Reachable.decided (hreach : Reachable forced run)
    (hsteps : ReflTransGen (Step forced) run after) :
    run.world.state.directory.Decided after.world.state.directory := by
  induction hsteps with
  | refl => exact hreach.sound.decided_refl
  | tail hsteps hstep ih => exact ih.trans ((hreach.steps hsteps).sound.decided hstep)

/-- A step that plans a tick adds the jobs of its plan, and no other step adds any. -/
theorem Step.plans_cases (hstep : Step forced run after) (hplans : after.Plans job) :
    run.Plans job ∨ (after = run.takeOff ∧
      job ∈ (run.world.state.plan run.world.host.now).2.jobs) := by
  cases hstep with
  | outside | abandon =>
    rcases hplans with ⟨flight, hflight, hjob⟩ | hhistory
    · first
      | exact .inl (.inl ⟨flight, hflight, hjob⟩)
      | cases hflight
    · exact .inl (.inr hhistory)
  | plan hidle =>
    rcases hplans with ⟨flight, hflight, hjob⟩ | hhistory
    · cases hflight
      exact .inr ⟨rfl, hjob⟩
    · exact .inl (.inr hhistory)
  | call hearlier _ =>
    rcases hplans with ⟨flight, hflight, hjob⟩ | hhistory
    · cases hflight
      exact .inl (.inl ⟨_, hearlier, hjob⟩)
    · exact .inl (.inr hhistory)
  | apply hflight hdone =>
    rcases hplans with ⟨flight, hnone, _⟩ | ⟨completion, hmem, hjob⟩
    · cases hnone
    · rcases List.mem_cons.mp hmem with rfl | hmem
      · exact .inl (.inl ⟨_, hflight, hjob⟩)
      · exact .inl (.inr ⟨completion, hmem, hjob⟩)

/-- Whatever had a job was bound then, and still is if it is still registered. -/
theorem Reachable.ready_of_plans (hreach : Reachable forced run) (hplans : run.Plans job) :
    job.variable_.number ≤ run.world.state.directory.lastId ∧
      ∀ variable_, run.world.state.directory.get? job.variable_ = some variable_ →
        ∃ callable, variable_.binding = .ready callable := by
  induction hreach with
  | start =>
    rcases hplans with ⟨_, hflight, _⟩ | ⟨_, hmem, _⟩
    · cases hflight
    · cases hmem
  | @step run after hbefore hstep ih =>
    rcases hstep.plans_cases hplans with hplans | ⟨rfl, hjob⟩
    · obtain ⟨hle, hready⟩ := ih hplans
      have hdecided := hbefore.sound.decided hstep
      refine ⟨Nat.le_trans hle hdecided.last, fun found hget => ?_⟩
      obtain ⟨variable_, hvariable, hbinding⟩ := hdecided.kept hget hle
      obtain ⟨callable, hcallable⟩ := hready variable_ hvariable
      exact ⟨callable, by rw [hbinding (by simp [hcallable]), hcallable]⟩
    · have hcollects : run.world.state.Collects
          ((run.world.state.plan run.world.host.now).1,
            (run.world.state.plan run.world.host.now).2.jobs) :=
        State.collects_plan hbefore.sound.state.booked.modules.directory
      obtain ⟨variable_, hvariable, hbinding, _⟩ := hcollects.ready job hjob
      refine ⟨hcollects.binds.sound.le_lastId hvariable, fun found hget => ?_⟩
      obtain rfl : found = variable_ := Option.some.inj (hget.symm.trans hvariable)
      exact ⟨job.callable, hbinding⟩

/-- What cannot be bound has no job at any time before. -/
theorem Reachable.not_plans_before (hreach : Reachable forced run)
    (hsteps : ReflTransGen (Step forced) run after)
    (hget : after.world.state.directory.get? id = some variable_)
    (hbroken : variable_.binding = .broken) (hplans : run.Plans job) : job.variable_ ≠ id := by
  rintro rfl
  obtain ⟨hle, hready⟩ := hreach.ready_of_plans hplans
  obtain ⟨earlier, hearlier, hbinding⟩ := (hreach.decided hsteps).kept hget hle
  obtain ⟨callable, hcallable⟩ := hready earlier hearlier
  rw [hbinding (by simp [hcallable]), hcallable] at hbroken
  cases hbroken

/-- The variable is broken or gone, and no tick has a job for it. -/
structure Inert (run : Run) (id : VariableId) : Prop where
  known : id.number ≤ run.world.state.directory.lastId
  broken : ∀ variable_, run.world.state.directory.get? id = some variable_ →
    variable_.binding = .broken
  unplanned : ∀ job, run.Plans job → job.variable_ ≠ id

/-- A variable for which no tick has a job, being broken or gone, gets none in any step. -/
theorem Inert.step (hinert : run.Inert id) (hsound : Sound forced run)
    (hstep : Step forced run after) : after.Inert id where
  known := Nat.le_trans hinert.known (hsound.decided hstep).last
  broken := by
    intro found hget
    obtain ⟨variable_, hvariable, hbinding⟩ := (hsound.decided hstep).kept hget hinert.known
    have hbroken := hinert.broken variable_ hvariable
    rw [hbinding (by simp [hbroken]), hbroken]
  unplanned := by
    intro job hplans
    rcases hstep.plans_cases hplans with hplans | ⟨_, hjob⟩
    · exact hinert.unplanned job hplans
    · rintro rfl
      have hhopeless : run.world.state.isHopeless job.variable_ = true := by
        rw [State.isHopeless]
        cases hget : run.world.state.directory.get? job.variable_ with
        | none => rfl
        | some variable_ => exact Variable.isBroken_iff.mpr (hinert.broken variable_ hget)
      obtain ⟨pair, _, hpair⟩ := State.mem_jobs_plan hjob
      have hkey : job.variable_ = pair.1 := congrArg Prod.fst (State.key_of_jobFor hpair)
      rw [State.jobFor_of_isHopeless (by rwa [← hkey])] at hpair
      cases hpair

/-- What cannot be bound never has a job again. -/
theorem Reachable.inert (hreach : Reachable forced run)
    (hsteps : ReflTransGen (Step forced) run after)
    (hget : run.world.state.directory.get? id = some variable_)
    (hbroken : variable_.binding = .broken) : after.Inert id := by
  induction hsteps with
  | refl =>
    refine ⟨hreach.sound.state.booked.modules.directory.le_lastId hget, ?_, ?_⟩
    · intro found hfound
      obtain rfl : found = variable_ := Option.some.inj (hfound.symm.trans hget)
      exact hbroken
    · exact fun job hplans => hreach.not_plans_before .refl hget hbroken hplans
  | tail hsteps hstep ih => exact ih.step (hreach.steps hsteps).sound hstep

end Run

namespace Whole

variable {rules : Permit} {whole after : Whole}

/-- Steps of the whole daemon are steps of its run. -/
theorem Steps.runs (hsteps : Steps rules whole after) :
    ReflTransGen (Run.Step rules.forces) whole.run after.run := by
  induction hsteps with
  | refl => exact .refl
  | tail _ hstep ih => exact ih.trans hstep.runs

/-- If no module is unloaded under its subscribers, every plan is exact. No method was asked for
twice on behalf of one variable; and a variable whose method cannot be bound never has a job in any
tick, before or after that was found out. -/
theorem Reachable.plan_exact_and_asked_once (hreach : Reachable rules whole)
    (hforces : rules.forces = false) :
    (∀ now, whole.world.state.PlansExactly now) ∧
    whole.world.registry.AsksOnce ∧
    ∀ id variable_, whole.world.state.directory.get? id = some variable_ →
      variable_.binding = .broken → ∀ other,
        Steps rules whole other ∨ (Reachable rules other ∧ Steps rules other whole) →
          ∀ job, other.run.Plans job → job.variable_ ≠ id := by
  refine ⟨?_, hreach.asksOnce, ?_⟩
  · have hsound := hreach.sound
    rw [hforces] at hsound
    exact hsound.plansExactly
  · intro id variable_ hget hbroken other hother job hplans
    rcases hother with hsteps | ⟨hearlier, hsteps⟩
    · have hinert : other.run.Inert id := hreach.toRun.inert hsteps.runs hget hbroken
      exact hinert.unplanned job hplans
    · exact hearlier.toRun.not_plans_before hsteps.runs hget hbroken hplans

end Whole

namespace Sample

/-- The first tick is planned for the subscriber, and the method of the variable that runs on every
tick could not be bound. -/
def pulsing : Whole := { crowded with run := crowded.run.takeOff }

/-- The daemon comes to where the plan of the first tick asked for two methods. -/
theorem reachable_pulsing : Whole.Reachable rules pulsing := reachable_crowded.step (.plan rfl)

end Sample

/-- The subscriber has a job, and the variable whose method could not be bound has none. Each of the
two was asked for once. -/
theorem plan_exact_and_asked_once_pulsing :
    Sample.rules.forces = false ∧
    (Sample.pulsing.world.state.plan 0).2.targets = [(⟨1⟩, 0)] ∧
    Sample.pulsing.world.state.PlansExactly 0 ∧
    Sample.pulsing.world.registry.AsksOnce ∧
    Sample.pulsing.world.registry.journal.inquiries.map Inquiry.variable_ = [⟨2⟩, ⟨1⟩] ∧
    ∃ pulse, Sample.pulsing.world.state.directory.get? ⟨2⟩ = some pulse ∧ pulse.isBroken = true ∧
      ∀ job, Sample.pulsing.run.Plans job → job.variable_ ≠ ⟨2⟩ := by
  obtain ⟨hexact, hasks, hinert⟩ :=
    Whole.Reachable.plan_exact_and_asked_once Sample.reachable_pulsing rfl
  obtain ⟨pulse, hget, hbroken⟩ : ∃ pulse,
      Sample.pulsing.world.state.directory.get? ⟨2⟩ = some pulse ∧ pulse.binding = .broken := by
    with_unfolding_all exact ⟨_, rfl, rfl⟩
  exact ⟨rfl, by with_unfolding_all rfl, hexact 0, hasks, by with_unfolding_all rfl, pulse, hget,
    Variable.isBroken_iff.mpr hbroken, hinert _ _ hget hbroken _ (.inl .refl)⟩

end MetricsDaemon
