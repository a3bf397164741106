import MetricsDaemon.Proofs.Lineage
import MetricsDaemon.Proofs.Timeouts
import MetricsDaemon.Provider.Clock
import MetricsDaemon.Provider.Native
import MetricsDaemon.Provider.Sys

/-!
# Who reads the snapshot, and who refreshes it

The system module alone refreshes the snapshot of the machine, in the method of a
variable that runs on every tick; five others of its variables are read from the
snapshot. So a plan has one job that refreshes, and it comes before all that read.
-/

namespace MetricsDaemon

/-! ## Providers -/

/-- No method of the provider refreshes the snapshot. -/
def Provider.LeavesSnapshot (provider : Provider) : Prop :=
  ∀ method type code, provider.method method type = .ok code → code.refreshes = false

/-- A method that is bound is among those that were declared under its name. -/
theorem Declared.mem_methods_of_resolve {declared : Declared} {method : String} {type : TypeTag}
    {code : Method} (hresolve : declared.resolve method type = .ok code) :
    (method, code) ∈ declared.methods := by
  unfold resolve at hresolve
  split at hresolve
  · cases hresolve
  · next heq =>
    split at hresolve
    · cases hresolve
      exact Table.mem_of_get?_ofList heq
    · cases hresolve

/-- A declared provider without a method that refreshes leaves the snapshot alone. -/
theorem Declared.leavesSnapshot {declared : Declared}
    (hmethods : ∀ entry ∈ declared.methods, entry.2.refreshes = false) :
    declared.provider.LeavesSnapshot :=
  fun _ _ _ hmethod => hmethods _ (mem_methods_of_resolve hmethod)

/-- The clock leaves the snapshot alone. -/
theorem Provider.leavesSnapshot_clock : Provider.clock.LeavesSnapshot :=
  Declared.leavesSnapshot (by decide)

/-- Every script leaves the snapshot alone. -/
theorem Script.leavesSnapshot (script : Script) : script.provider.LeavesSnapshot := by
  refine Declared.leavesSnapshot fun entry hmem => ?_
  obtain ⟨written, _, rfl⟩ := List.mem_map.mp hmem
  rfl

/-- Every native library leaves the snapshot alone. -/
theorem Native.Library.leavesSnapshot {library : Library} {provider : Provider}
    (hprovider : library.provider? = some provider) : provider.LeavesSnapshot := by
  obtain ⟨bytes, _, rfl⟩ := Option.map_eq_some_iff.mp hprovider
  intro method type code hmethod
  change library.resolve _ method type = .ok code at hmethod
  unfold resolve at hmethod
  split at hmethod
  · cases hmethod
  · split at hmethod
    · cases hmethod
      rfl
    · cases hmethod

namespace Provider

/-! ## The system module -/

/-- The variables of the system module that are read from the snapshot. -/
inductive Figure where
  | cpu
  | cpugraph
  | cpucore
  | mem
  | memused

namespace Figure

/-- The name of the variable, and of its method. -/
def name : Figure → String
  | .cpu => "cpu"
  | .cpugraph => "cpugraph"
  | .cpucore => "cpucore"
  | .mem => "mem"
  | .memused => "memused"

/-- The kind of argument that the variable takes. -/
def kind : Figure → ArgumentKind
  | .cpucore => .integer
  | _ => .none

/-- What the variable shows of a snapshot; only one of them has use for the number. -/
def read (figure : Figure) (index : Int) (snapshot : Snapshot) : Value :=
  match figure with
  | .cpu | .cpugraph => percentLevel snapshot.globalUsage
  | .cpucore => coreLevel snapshot index
  | .mem => .ofInt snapshot.memoryShare
  | .memused => .text (showBytes snapshot.usedMemory)

/-- The value that a snapshot gives for the text of a subscription. -/
def value (figure : Figure) (snapshot : Snapshot) (arg : Option String) : Value :=
  figure.read (integerOf (Argument.coerce figure.kind arg)) snapshot

/-- The method of the variable. -/
def method (figure : Figure) : Method :=
  reading figure.kind fun index host => some (figure.read index host.snapshot)

end Figure

/-- The name of the variable that refreshes the snapshot. -/
def refresherName : String := "sys_refresh"

variable {offer : Offer} {name : String} {type : TypeTag} {code : Method} {figure : Figure}

/-- The method of every variable is named like it. What refreshes runs on every tick, and no figure
does. -/
theorem sys_offers (hmem : some offer ∈ sys.enrollment.offers) :
    offer.method = offer.name ∧ (offer.name = refresherName → offer.type = .ofBits 32) ∧
      ∀ figure : Figure, offer.name = figure.name → offer.type.cron = false := by
  have hall : ∀ offer ∈ sysDeclared.offers, offer.method = offer.name ∧
      (offer.name = refresherName → offer.type = .ofBits 32) ∧
      (offer.name ≠ refresherName → offer.type.cron = false) := by decide
  obtain ⟨found, hfound, heq⟩ := List.mem_map.mp hmem
  cases heq
  obtain ⟨hmethod, hrefresher, hothers⟩ := hall offer hfound
  refine ⟨hmethod, hrefresher, fun figure hname => hothers ?_⟩
  rw [hname]
  cases figure <;> decide

/-- Only one method refreshes the snapshot. -/
theorem refreshes_sys (hmethod : sys.method name type = .ok code) :
    code.refreshes = true ↔ name = refresherName := by
  have hall : ∀ entry ∈ sysDeclared.methods,
      (entry.2.refreshes = true ↔ entry.1 = refresherName) := by decide
  exact hall _ (Declared.mem_methods_of_resolve hmethod)

/-- The system module has the method that refreshes the snapshot. -/
theorem method_refresher : ∃ code, sys.method refresherName (.ofBits 32) = .ok code := ⟨_, rfl⟩

/-- The method that the system module has under the name of a figure is the figure's. -/
theorem method_figure (hmethod : sys.method figure.name type = .ok code) :
    code = figure.method := by
  change sysDeclared.resolve figure.name type = .ok code at hmethod
  have hget : (Table.ofList sysDeclared.methods).get? figure.name = some figure.method := by
    cases figure <;> rfl
  unfold Declared.resolve at hmethod
  rw [hget] at hmethod
  dsimp only at hmethod
  split at hmethod
  · exact (Except.ok.inj hmethod).symm
  · cases hmethod

end Provider

namespace State

/-! ## One plan -/

/-- The system module is resident with the variable that refreshes the snapshot, whoever subscribes
to that variable has no argument for it, and no other module refreshes the snapshot, which is
private to the system module. -/
structure Gauges (state : State) (system : ModuleId) (refresher : VariableId) : Prop where
  resident : ∃ module_, state.registry.get? system = some module_ ∧ module_.unit.provider = .sys
  registered : ∃ variable_, state.directory.get? refresher = some variable_ ∧
    variable_.module_ = system ∧ variable_.name = Provider.refresherName
  plain : ∀ id subscription, state.subscriptions.get? id = some subscription →
    subscription.interest.variable_ = refresher → sampleKey subscription.interest.arg = ""
  others : ∀ other module_, state.registry.get? other = some module_ → other ≠ system →
    module_.unit.provider.LeavesSnapshot

/-- The variable is the system module's for a figure. -/
def Shows (state : State) (system : ModuleId) (id : VariableId) (figure : Provider.Figure) : Prop :=
  ∃ variable_, state.directory.get? id = some variable_ ∧ variable_.module_ = system ∧
    variable_.name = figure.name

/-- The job at the slot is the only one of the plan that refreshes the snapshot and the only one of
the refresher, and the jobs of figures come after it. -/
structure RefreshesAt (state : State) (now : Nat) (system : ModuleId) (refresher : VariableId)
    (slot : Nat) : Prop where
  refresh : ∃ job, (state.plan now).2.jobs[slot]? = some job ∧ job.variable_ = refresher ∧
    job.callable.method.refreshes = true
  single : ∀ (other : Nat) (job : Job), (state.plan now).2.jobs[other]? = some job →
    job.variable_ = refresher ∨ job.callable.method.refreshes = true → other = slot
  later : ∀ (other : Nat) (job : Job) (figure : Provider.Figure),
    (state.plan now).2.jobs[other]? = some job → state.Shows system job.variable_ figure →
    slot < other

variable {forced : Bool} {state : State} {now : Nat} {system : ModuleId}
  {id refresher : VariableId} {variable_ : Variable} {callable : Callable} {job : Job}
  {figure : Provider.Figure}

/-- A variable of the system module is one of those that it offers. -/
theorem Gauges.offered {module_ : Module} (hgauges : state.Gauges system refresher)
    (hmodule : state.registry.get? system = some module_)
    (hstems : variable_.StemsFrom module_.unit) :
    module_.unit.provider = .sys ∧ variable_.method = variable_.name ∧
      (variable_.name = Provider.refresherName → variable_.type = .ofBits 32) ∧
      ∀ figure : Provider.Figure, variable_.name = figure.name → variable_.isCron = false := by
  obtain ⟨resident, hresident, hprovider⟩ := hgauges.resident
  rw [hmodule] at hresident
  cases hresident
  obtain ⟨offer, hoffer, hname, hmethod, htype⟩ := hstems.offered
  rw [hprovider] at hoffer
  obtain ⟨hnamed, hrefresher, hfigures⟩ := Provider.sys_offers hoffer
  rw [Variable.isCron, hname, hmethod, htype]
  exact ⟨hprovider, hnamed, hrefresher, hfigures⟩

/-- Only the refresher leads to a method that refreshes the snapshot. -/
theorem Gauges.refreshes_iff (hgauges : state.Gauges system refresher)
    (hdirectory : state.directory.Sound) (hstemming : state.registry.Stemming)
    (hcallable : state.callableFor id = some callable) :
    callable.method.refreshes = true ↔ id = refresher := by
  obtain ⟨registered, hregistered, howned, hnamed⟩ := hgauges.registered
  obtain ⟨variable_, module_, hvariable, hmodule, hstems, hmethod⟩ :=
    method_of_callableFor hstemming hcallable
  by_cases hsystem : variable_.module_ = system
  · rw [hsystem] at hmodule
    obtain ⟨hprovider, hsame, _, _⟩ := hgauges.offered hmodule hstems
    rw [hprovider, hsame] at hmethod
    rw [Provider.refreshes_sys hmethod]
    constructor
    · intro hname
      have hid := hdirectory.idOf?_name hvariable
      rw [hname, ← hnamed, hdirectory.idOf?_name hregistered] at hid
      exact (Option.some.inj hid).symm
    · rintro rfl
      rw [hregistered] at hvariable
      cases hvariable
      exact hnamed
  · rw [hgauges.others _ module_ hmodule hsystem _ _ _ hmethod]
    refine ⟨Bool.noConfusion, ?_⟩
    rintro rfl
    rw [hregistered] at hvariable
    cases hvariable
    exact absurd howned hsystem

/-- The refresher runs on every tick and has its method. -/
theorem Gauges.refresher_runs (hgauges : state.Gauges system refresher)
    (hstemming : state.registry.Stemming) : ∃ variable_ callable,
      state.directory.get? refresher = some variable_ ∧ variable_.isCron = true ∧
      state.callableFor refresher = some callable := by
  obtain ⟨variable_, hvariable, howned, hnamed⟩ := hgauges.registered
  obtain ⟨module_, hmodule, hstems⟩ := hstemming refresher variable_ hvariable
  rw [howned] at hmodule
  obtain ⟨hprovider, hsame, htype, _⟩ := hgauges.offered hmodule hstems
  obtain ⟨code, hcode⟩ := Provider.method_refresher
  have hresolve : module_.unit.resolve variable_.method variable_.type =
      .ok ⟨module_.unit.tag, variable_.method, code⟩ := by
    rw [ProviderUnit.resolve, hprovider, htype hnamed, hsame, hnamed, hcode]
    rfl
  refine ⟨variable_, ⟨module_.unit.tag, variable_.method, code⟩, hvariable, ?_, ?_⟩
  · rw [Variable.isCron, htype hnamed]
    rfl
  · rw [← howned] at hmodule
    rw [callableFor_of_stems hvariable hmodule hstems, hresolve]
    rfl

/-- A variable that shows a figure does not run on every tick, and leads to the method that reads
the figure. -/
theorem Gauges.method_of_shows (hgauges : state.Gauges system refresher)
    (hstemming : state.registry.Stemming) (hshows : state.Shows system id figure)
    (hcallable : state.callableFor id = some callable) :
    (∀ variable_, state.directory.get? id = some variable_ → variable_.isCron = false) ∧
      callable.method = figure.method := by
  obtain ⟨shown, hshown, howned, hnamed⟩ := hshows
  obtain ⟨variable_, module_, hvariable, hmodule, hstems, hmethod⟩ :=
    method_of_callableFor hstemming hcallable
  rw [hshown] at hvariable
  cases hvariable
  rw [howned] at hmodule
  obtain ⟨hprovider, hsame, _, hcron⟩ := hgauges.offered hmodule hstems
  rw [hprovider, hsame, hnamed] at hmethod
  refine ⟨fun variable_ hget => ?_, Provider.method_figure hmethod⟩
  rw [hshown] at hget
  cases hget
  exact hcron figure hnamed

/-! ### Slots -/

/-- Every job of a plan calls what its variable is bound to. -/
theorem callableFor_of_mem_jobs (hmem : job ∈ (state.plan now).2.jobs) :
    state.callableFor job.variable_ = some job.callable := by
  obtain ⟨pair, _, hfor⟩ := mem_jobs_plan hmem
  obtain ⟨_, callable, _, hcallable, rfl⟩ := jobFor_eq_some_iff.mp hfor
  exact hcallable

/-- The refresher has no job with an argument. -/
theorem Gauges.key_refresher (hgauges : state.Gauges system refresher)
    (hsound : state.Sound forced) (hmem : job ∈ (state.plan now).2.jobs)
    (hjob : job.variable_ = refresher) : job.key = (refresher, "") := by
  obtain ⟨pair, hpair, hfor⟩ := mem_jobs_plan hmem
  obtain ⟨_, _, _, _, rfl⟩ := jobFor_eq_some_iff.mp hfor
  have hkey : sampleKey pair.2 = "" := by
    rcases hsound.mem_pairs hpair with ⟨_, _, _, hnone⟩ | ⟨subscription, hget, rfl, _⟩
    · rw [hnone]
      rfl
    · exact hgauges.plain _ subscription hget hjob
  exact Prod.ext hjob hkey

/-- A plan refreshes the snapshot once, and before anything is read from it. -/
theorem Gauges.exists_refreshesAt (hgauges : state.Gauges system refresher)
    (hsound : state.Sound forced) (hstemming : state.registry.Stemming) (now : Nat) :
    ∃ slot, state.RefreshesAt now system refresher slot := by
  have hdirectory : state.directory.Sound := hsound.booked.modules.directory
  obtain ⟨variable_, callable, hvariable, hcron, hcallable⟩ := hgauges.refresher_runs hstemming
  have hfixed : refresher ∈ state.fixedJobs.map Job.variable_ :=
    (mem_fixedJobs_iff hdirectory).mpr ⟨variable_, hvariable, hcron, by rw [hcallable]; rfl⟩
  obtain ⟨refresh, hrefresh, hrefreshes⟩ := List.mem_map.mp hfixed
  obtain ⟨further, hjobs⟩ : state.fixedJobs <+: (state.plan now).2.jobs :=
    fixedJobs_prefix hdirectory
  obtain ⟨slot, hslot⟩ := List.mem_iff_getElem?.mp hrefresh
  have hlt : slot < state.fixedJobs.length := (List.getElem?_eq_some_iff.mp hslot).1
  have hat : (state.plan now).2.jobs[slot]? = some refresh := by
    rw [← hjobs, List.getElem?_append_left hlt, hslot]
  have hiff {job : Job} {other : Nat} (hjob : (state.plan now).2.jobs[other]? = some job) :
      job.callable.method.refreshes = true ↔ job.variable_ = refresher :=
    hgauges.refreshes_iff hdirectory hstemming
      (callableFor_of_mem_jobs (List.mem_of_getElem? hjob))
  have hkey {job : Job} {other : Nat} (hjob : (state.plan now).2.jobs[other]? = some job)
      (hown : job.variable_ = refresher) : job.key = (refresher, "") :=
    hgauges.key_refresher hsound (List.mem_of_getElem? hjob) hown
  refine ⟨slot, ⟨refresh, hat, hrefreshes, (hiff hat).mpr hrefreshes⟩, ?_, ?_⟩
  · intro other job hjob howns
    have hown : job.variable_ = refresher := howns.elim id (hiff hjob).mp
    have hdistinct : ((state.plan now).2.jobs.map Job.key).Nodup :=
      (collects_plan hdirectory).distinct
    have hfound := findJob_of_getElem? hdistinct hjob
    rw [hkey hjob hown, ← hkey hat hrefreshes, findJob_of_getElem? hdistinct hat] at hfound
    exact (Option.some.inj hfound).symm
  · intro other job figure hjob hshows
    by_contra hnot
    have hfirst : other < state.fixedJobs.length := by omega
    rw [← hjobs, List.getElem?_append_left hfirst] at hjob
    have hmem : job.variable_ ∈ state.fixedJobs.map Job.variable_ :=
      List.mem_map_of_mem (List.mem_of_getElem? hjob)
    obtain ⟨shown, hshown, hruns, hsome⟩ := (mem_fixedJobs_iff hdirectory).mp hmem
    obtain ⟨found, hfound⟩ := Option.isSome_iff_exists.mp hsome
    rw [(hgauges.method_of_shows hstemming hshows hfound).1 shown hshown] at hruns
    cases hruns

end State

end MetricsDaemon
