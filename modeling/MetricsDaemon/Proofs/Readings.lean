import Mathlib.Data.List.Chain
import MetricsDaemon.Proofs.Elapsing
import MetricsDaemon.Proofs.Gauges
import MetricsDaemon.Proofs.Teardown

/-!
# The readings of a tick agree

Each call finds the snapshot as the call before left it, whatever happens in between. As a
tick refreshes the snapshot once, before anything is read from it, all that it reads is
computed from one snapshot; and from one tick to the next the snapshot stays what it is
unless the pause since its last refresh is over.
-/

namespace MetricsDaemon

open Relation (ReflTransGen)

/-! ## Calls in a row -/

/-- The host that the code of a call saw, after the refresh if there was one. -/
def Call.host (call : Call) : Host := (call.world.called call.callable call.arg).host

/-- Each call found the snapshot as the one before it left it. -/
def Flight.Chained (flight : Flight) : Prop :=
  flight.calls.IsChain fun call next => next.world.host.snapshot = call.host.snapshot

/-- The job at the slot is the one that refreshes the snapshot, and whatever the jobs of figures
return is computed from the snapshot that its call left. -/
structure Flight.Consults (flight : Flight) (system : ModuleId) (refresher : VariableId)
    (slot : Nat) : Prop where
  plan : flight.before.RefreshesAt flight.moment system refresher slot
  values : ∀ (other : Nat) (job : Job) (call : Call) (figure : Provider.Figure),
    flight.plan.jobs[other]? = some job → flight.calls[other]? = some call →
    flight.before.Shows system job.variable_ figure →
    ∃ refresh, flight.calls[slot]? = some refresh ∧
      call.value = some (figure.value refresh.host.snapshot job.arg)

section Calls

variable {flight : Flight} {call : Call} {world : World} {job : Job} {slot : Nat}

/-- A call that does not refresh leaves the snapshot as it is. -/
theorem Call.snapshot_of_quiet (hquiet : call.callable.method.refreshes = false) :
    call.host.snapshot = call.world.host.snapshot := by
  change (call.callable.prepareHost call.world.host).snapshot = _
  rw [Callable.prepareHost, hquiet]
  rfl

/-- The method of a figure answers with the figure in the snapshot that it sees. -/
theorem Call.value_of_figure {figure : Provider.Figure}
    (hmethod : call.callable.method = figure.method) :
    call.value = some (figure.value call.host.snapshot call.arg) := by
  obtain ⟨world, ⟨owner, name, method⟩, arg⟩ := call
  dsimp only at hmethod
  subst hmethod
  rfl

/-- The calls of a flight stay chained when one is added that finds the snapshot of the last. -/
theorem Flight.Chained.answered (hchained : flight.Chained)
    (hlast : ∀ call ∈ flight.calls.getLast?, world.host.snapshot = call.host.snapshot) :
    (flight.answered world job).Chained := by
  refine hchained.append (.singleton _) fun call hcall next hnext => ?_
  obtain rfl : (⟨world, job.callable, job.arg⟩ : Call) = next := Option.some.inj hnext
  exact hlast call hcall

/-- If no call after the one at the slot refreshes the snapshot, they all leave it as that one
did. -/
theorem Flight.Chained.snapshot_eq {first : Call} (hchained : flight.Chained)
    (hfirst : flight.calls[slot]? = some first)
    (hquiet : ∀ (later : Nat) (call : Call), slot < later → flight.calls[later]? = some call →
      call.callable.method.refreshes = false)
    {other : Nat} (hle : slot ≤ other) (hcall : flight.calls[other]? = some call) :
    call.host.snapshot = first.host.snapshot := by
  induction other, hle using Nat.le_induction generalizing call with
  | base =>
    rw [hfirst] at hcall
    cases hcall
    rfl
  | succ other hle ih =>
    obtain ⟨hlt, hget⟩ := List.getElem?_eq_some_iff.mp hcall
    have hother : other < flight.calls.length := by omega
    have hbefore : flight.calls[other]? = some flight.calls[other] :=
      List.getElem?_eq_getElem hother
    have hlink := List.IsChain.getElem hchained other hlt
    rw [hget] at hlink
    rw [Call.snapshot_of_quiet (hquiet (other + 1) call (by omega) hcall), hlink]
    exact ih hbefore

end Calls

/-! ## Runs in which nothing but a refresh renews the snapshot -/

namespace Whole

open World (Moves)

/-- One step of the whole, or any number of moves of others, that leaves the snapshot alone, or a
call, which may refresh it. -/
inductive MeasuredStep (rules : Permit) : Whole → Whole → Prop where
  | outside {whole : Whole} (world : World) (hmoves : Moves (whole.permit rules) whole.world world)
      (hhost : whole.world.host.Elapses world.host) :
      MeasuredStep rules whole (whole.withWorld world)
  | inside {whole after : Whole} (hstep : Step rules whole after)
      (hhost : whole.world.host.Elapses after.world.host) : MeasuredStep rules whole after
  | called {whole : Whole} {flight : Flight} {job : Job} (hflight : whole.run.flight = some flight)
      (job_survey : flight.plan.jobs[flight.calls.length]? = some job) :
      MeasuredStep rules whole (whole.call flight job)

/-- Any number of such steps. -/
abbrev MeasuredSteps (rules : Permit) : Whole → Whole → Prop := ReflTransGen (MeasuredStep rules)

/-- Where the whole can come in such steps from a daemon without modules and connections. -/
inductive Measured (rules : Permit) : Whole → Prop where
  | start (world : World) (layout : Layout) (settings : Settings)
      (hstate : world.state = .new (.new layout settings)) :
      Measured rules ⟨⟨world, none, []⟩, [], []⟩
  | step {whole after : Whole} (hmeasured : Measured rules whole)
      (hstep : MeasuredStep rules whole after) : Measured rules after

variable {rules : Permit} {whole after : Whole} {flight : Flight} {job : Job}

/-- A measured step leads to what can be reached. -/
theorem MeasuredStep.steps (hreach : Reachable rules whole)
    (hstep : MeasuredStep rules whole after) : Reachable rules after := by
  cases hstep with
  | outside world hmoves hhost => exact hreach.outside hmoves
  | inside hstep hhost => exact hreach.step hstep
  | called hflight hjob => exact hreach.step (.call hflight hjob)

/-- What a clock that does not go back leads to can be reached. -/
theorem Measured.reachable (hmeasured : Measured rules whole) : Reachable rules whole := by
  induction hmeasured with
  | start world layout settings hstate => exact .start world layout settings hstate
  | step _ hstep ih => exact hstep.steps ih

/-- During a measured step the snapshot rests. -/
theorem MeasuredStep.rests (hstep : MeasuredStep rules whole after) :
    whole.world.host.Rests after.world.host := by
  cases hstep with
  | outside world hmoves hhost => exact hhost.rests
  | inside hstep hhost => exact hhost.rests
  | called hflight hjob => exact World.rests_called

/-- During measured steps the snapshot rests. -/
theorem MeasuredSteps.rests (hsteps : MeasuredSteps rules whole after) :
    whole.world.host.Rests after.world.host := by
  induction hsteps with
  | refl => exact .refl _
  | tail _ hstep ih => exact ih.trans hstep.rests

/-! ### The program's own runs -/

/-- Whatever the whole does is such a step, unless something around the daemon changes. -/
theorem Step.measured (hstep : Step rules whole after) : MeasuredStep rules whole after ∨
    ∃ world, after = whole.withWorld world ∧ world.state = whole.world.state ∧
      world.lastUnit = whole.world.lastUnit := by
  have hstill (heq : after.world.host = whole.world.host) : MeasuredStep rules whole after := by
    refine .inside hstep ?_
    rw [heq]
    exact .refl _
  cases hstep with
  | outside world hmove =>
    cases hmove with
    | around after hstate hlast => exact .inr ⟨_, rfl, hstate, hlast⟩
    | loaded origin hmay =>
      exact .inl (.inside (.outside _ (.loaded origin hmay)) (World.elapses_load _ origin))
    | _ => exact .inl (hstill rfl)
  | @proceed slot request phase hcall hpermits =>
    exact .inl (.inside (.proceed hcall hpermits) (World.loadStep_stepLoad _ _ phase).elapses)
  | prepare checked origin hmay hpermits =>
    exact .inl (.inside (.prepare checked origin hmay hpermits)
      (World.elapses_prepare World.elapses_perform checked))
  | call hflight hjob => exact .inl (.called hflight hjob)
  | _ => exact .inl (hstill rfl)

/-- A tick of the program, called job by job, goes through what is measured. -/
theorem ticks_measured : Ticks rules (Measured rules) where
  plan hmeasured hidle := hmeasured.step (.inside (.plan hidle) (.refl _))
  call hmeasured hflight hjob hpermits := by
    have hcalled := hmeasured.step (.called hflight hjob)
    refine hcalled.step (.outside _ (World.moves_call ?_) World.elapses_call)
    rw [permit_of_flight rfl]
    rw [permit_of_flight hflight] at hpermits
    exact hpermits
  apply hmeasured hflight hdone :=
    hmeasured.step (.inside (.apply hflight hdone) (.refl _))
  abandon hmeasured := hmeasured.step (.inside .abandon (.refl _))

/-- A whole tick of the program is made of such steps. -/
theorem Measured.tick (hmeasured : Measured rules whole) (hidle : whole.run.flight = none)
    (hpermits : World.PermitsJobs ⟨rules.loads || whole.isUngated, rules.unloads, rules.forces⟩
      (whole.run.world.withState (whole.run.world.state.plan whole.run.world.host.now).1)
      (whole.run.world.state.plan whole.run.world.host.now).2.jobs) :
    ∃ history, Measured rules { whole with run := ⟨whole.run.world.tick.1, none, history⟩ } :=
  ticks_measured.tick hmeasured hidle hpermits

/-! ### What every step keeps -/

/-- The calls of the ticks follow one another. -/
structure Traced (whole : Whole) : Prop where
  chained : ∀ flight ∈ whole.flights, flight.Chained
  last : ∀ flight, whole.run.flight = some flight → ∀ call ∈ flight.calls.getLast?,
    whole.world.host.snapshot = call.host.snapshot
  past : ∀ flight ∈ whole.flights, ∀ call ∈ flight.calls, call.host.Rests whole.world.host
  ordered : whole.flights.Pairwise fun later earlier => ∀ call ∈ later.calls,
    ∀ prior ∈ earlier.calls, prior.host.Rests call.host

/-- Where no call is made, time passes. -/
theorem Traced.elapses (htraced : whole.Traced)
    (hhost : whole.world.host.Elapses after.world.host)
    (hflights : after.flights.Sublist whole.flights)
    (hflight : ∀ flight, after.run.flight = some flight → whole.run.flight = some flight) :
    after.Traced where
  chained flight hmem := htraced.chained flight (hflights.subset hmem)
  last flight hcurrent call hcall := by
    rw [hhost.snapshot]
    exact htraced.last flight (hflight flight hcurrent) call hcall
  past flight hmem call hcall :=
    (htraced.past flight (hflights.subset hmem) call hcall).trans hhost.rests
  ordered := htraced.ordered.sublist hflights

/-- The calls are traced when a tick is planned, as it has none yet. -/
theorem Traced.takeOff (htraced : whole.Traced) (hidle : whole.run.flight = none) :
    ({ whole with run := whole.run.takeOff } : Whole).Traced := by
  have hflights : ({ whole with run := whole.run.takeOff } : Whole).flights =
      ⟨whole.run.world.state, whole.run.world.host.now, []⟩ :: whole.flights := by
    rw [flights, flights, hidle]
    rfl
  refine ⟨?_, ?_, ?_, ?_⟩
  · rw [hflights]
    exact List.forall_mem_cons.mpr ⟨.nil, htraced.chained⟩
  · intro flight hflight call hcall
    cases hflight
    cases hcall
  · rw [hflights]
    exact List.forall_mem_cons.mpr ⟨fun call hcall => (List.not_mem_nil hcall).elim, htraced.past⟩
  · rw [hflights]
    exact List.pairwise_cons.mpr
      ⟨fun _ _ call hcall => (List.not_mem_nil hcall).elim, htraced.ordered⟩

/-- The calls are traced when one more is made. -/
theorem Traced.call (htraced : whole.Traced) (hflight : whole.run.flight = some flight) :
    (whole.call flight job).Traced := by
  have hbefore : whole.flights = flight :: whole.run.history.map Completion.flight := by
    rw [flights, hflight]
    rfl
  have hflights : (whole.call flight job).flights =
      flight.answered whole.world job :: whole.run.history.map Completion.flight := rfl
  have hmem : flight ∈ whole.flights := by
    rw [hbefore]
    exact List.mem_cons_self
  have hpast : ∀ earlier ∈ whole.flights, ∀ call ∈ earlier.calls,
      call.host.Rests (whole.call flight job).world.host :=
    fun earlier hearlier call hcall =>
      (htraced.past earlier hearlier call hcall).trans World.rests_called
  have hchained := htraced.chained
  have hordered := htraced.ordered
  rw [hbefore] at hchained hordered hpast
  obtain ⟨hfirst, hrest⟩ := List.forall_mem_cons.mp hchained
  obtain ⟨hnewest, hearlier⟩ := List.pairwise_cons.mp hordered
  obtain ⟨hcalls, hhistory⟩ := List.forall_mem_cons.mp hpast
  have hanswered : ∀ call ∈ (flight.answered whole.world job).calls,
      call ∈ flight.calls ∨ call = ⟨whole.world, job.callable, job.arg⟩ :=
    fun call hcall => (List.mem_append.mp hcall).imp_right List.mem_singleton.mp
  refine ⟨?_, ?_, ?_, ?_⟩
  · rw [hflights]
    exact List.forall_mem_cons.mpr
      ⟨hfirst.answered (htraced.last flight hflight), hrest⟩
  · intro answered heq call hcall
    cases heq
    rw [Flight.answered, List.getLast?_concat] at hcall
    cases hcall
    rfl
  · rw [hflights]
    refine List.forall_mem_cons.mpr ⟨fun call hcall => ?_, hhistory⟩
    rcases hanswered call hcall with hold | rfl
    · exact hcalls call hold
    · exact .refl _
  · rw [hflights]
    refine List.pairwise_cons.mpr ⟨fun earlier hmem call hcall prior hprior => ?_, hearlier⟩
    rcases hanswered call hcall with hold | rfl
    · exact hnewest earlier hmem call hold prior hprior
    · exact hhistory earlier hmem prior hprior

/-- Every measured step keeps the calls traced. -/
theorem Traced.step (htraced : whole.Traced) (hstep : MeasuredStep rules whole after) :
    after.Traced := by
  cases hstep with
  | outside world hmoves hhost =>
    exact htraced.elapses hhost (List.Sublist.refl _) fun _ h => h
  | called hflight hjob => exact htraced.call hflight
  | inside hstep hhost =>
    cases hstep with
    | plan hidle => exact htraced.takeOff hidle
    | call hflight hjob => exact htraced.call hflight
    | @apply flight hflight hdone =>
      refine htraced.elapses hhost ?_ fun _ h => by cases h
      rw [flights, flights, hflight]
      exact List.Sublist.refl _
    | abandon =>
      refine htraced.elapses hhost ?_ fun _ h => by cases h
      exact List.sublist_append_right _ _
    | _ => exact htraced.elapses hhost (List.Sublist.refl _) fun _ h => h

/-- Wherever the clock does not go back the calls are traced. -/
theorem Measured.traced (hmeasured : Measured rules whole) : whole.Traced := by
  induction hmeasured with
  | start world layout settings hstate =>
    refine ⟨?_, ?_, ?_, .nil⟩
    · intro flight hmem
      cases hmem
    · intro flight hflight
      cases hflight
    · intro flight hmem
      cases hmem
  | step _ hstep ih => exact ih.step hstep

/-! ### Every tick -/

/-- What is said of the snapshot and the ticks of a run. -/
structure Steady (rules : Permit) (whole : Whole) : Prop where
  /-- All that a tick reads from the snapshot it reads from what its one refresh left. -/
  consults : ∀ flight ∈ whole.flights, ∀ system refresher, flight.before.Gauges system refresher →
    ∃ slot, flight.Consults system refresher slot
  /-- What the refresh of the tick in flight left is the snapshot of the machine until it lands. -/
  current : ∀ flight system refresher slot refresh, whole.run.flight = some flight →
    flight.Consults system refresher slot → flight.calls[slot]? = some refresh →
    whole.world.host.snapshot = refresh.host.snapshot
  /-- From one tick to a later one the snapshot stays the same unless the pause is over. -/
  ordered : whole.flights.Pairwise fun later earlier => ∀ call ∈ later.calls,
    ∀ prior ∈ earlier.calls, prior.host.Rests call.host
  /-- So it does from now on, whatever ticks there will be. -/
  rests : ∀ after, MeasuredSteps rules whole after → whole.world.host.Rests after.world.host

/-- After the refresh of a tick no call of it refreshes again. -/
theorem quiet_after {system : ModuleId} {refresher : VariableId} {slot later : Nat} {call : Call}
    (hfaithful : flight.Faithful)
    (hplan : flight.before.RefreshesAt flight.moment system refresher slot) (hlt : slot < later)
    (hcall : flight.calls[later]? = some call) : call.callable.method.refreshes = false := by
  obtain ⟨job, hjob, hcallable, _⟩ := hfaithful later call hcall
  rw [hcallable]
  by_contra hrefreshes
  have hsame := hplan.single later job hjob (.inr (by simpa using hrefreshes))
  omega

/-- A tick with the gauges in order consults one snapshot. -/
theorem Measured.consults (hmeasured : Measured rules whole) (hmem : flight ∈ whole.flights)
    {system : ModuleId} {refresher : VariableId}
    (hgauges : flight.before.Gauges system refresher) :
    ∃ slot, flight.Consults system refresher slot := by
  have hreach := hmeasured.reachable
  have hsound : flight.before.Sound rules.forces :=
    hreach.before_flight (fun state => state.Sound rules.forces) Reachable.sound hmem
  have hstemming : flight.before.registry.Stemming :=
    hreach.before_flight (fun state => state.registry.Stemming) Reachable.stemming hmem
  have hfaithful := hreach.faithful hmem
  obtain ⟨slot, hplan⟩ := hgauges.exists_refreshesAt hsound hstemming flight.moment
  refine ⟨slot, hplan, fun other job call figure hjob hcall hshows => ?_⟩
  have hlt : slot < other := hplan.later other job figure hjob hshows
  have hlength : other < flight.calls.length := (List.getElem?_eq_some_iff.mp hcall).1
  have hslot : slot < flight.calls.length := by omega
  have hrefresh : flight.calls[slot]? = some flight.calls[slot] := List.getElem?_eq_getElem hslot
  refine ⟨_, hrefresh, ?_⟩
  obtain ⟨called, hcalled, hcallable, harg⟩ := hfaithful other call hcall
  rw [hjob] at hcalled
  cases hcalled
  have hmethod : call.callable.method = figure.method := by
    rw [hcallable]
    exact (hgauges.method_of_shows hstemming hshows
      (State.callableFor_of_mem_jobs (List.mem_of_getElem? hjob))).2
  rw [Call.value_of_figure hmethod, harg,
    (hmeasured.traced.chained flight hmem).snapshot_eq hrefresh
      (fun later call => quiet_after hfaithful hplan) (Nat.le_of_lt hlt) hcall]

/-- Whatever time passes and whatever the machine does meanwhile, every tick reads from one
snapshot, and the snapshot is renewed only after the pause. -/
theorem Measured.tick_reads_one_snapshot (hmeasured : Measured rules whole) :
    whole.Steady rules where
  consults flight hmem system refresher hgauges := hmeasured.consults hmem hgauges
  current := by
    intro flight system refresher slot refresh hflight hconsults hrefresh
    have hmem : flight ∈ whole.flights := mem_flights_iff.mpr (.inl hflight)
    have htraced := hmeasured.traced
    have hlt : slot < flight.calls.length := (List.getElem?_eq_some_iff.mp hrefresh).1
    have hlast : flight.calls.length - 1 < flight.calls.length := by omega
    have hcall : flight.calls[flight.calls.length - 1]? =
        some flight.calls[flight.calls.length - 1] := List.getElem?_eq_getElem hlast
    rw [htraced.last flight hflight _ (List.getLast?_eq_getElem?.trans hcall)]
    exact (htraced.chained flight hmem).snapshot_eq hrefresh
      (fun _ _ => quiet_after (hmeasured.reachable.faithful hmem) hconsults.plan) (by omega) hcall
  ordered := hmeasured.traced.ordered
  rests after hsteps := MeasuredSteps.rests hsteps

end Whole

/-! ## A machine that runs out of memory -/

namespace Sample

/-- What the machine reports of its memory. -/
def memory (available : Nat) : Readings :=
  { Readings.idle 0 with totalMemory := 4, availableMemory := available }

/-- A module whose code takes its time, while somebody takes the rest of the memory. -/
def sluggard : Provider :=
  Script.provider
    { name := "sluggard"
      offers := [Declared.variableOf "nap" 0 0]
      methods :=
        [("nap", .none, .sequence [⟨[.advance 300, .observe (memory 0)], some (.text "")⟩])]
      hook := none
      openPanics := false
      teardownPanics := false }

/-- A world on a machine with some memory left, with one connection. -/
def roomy : World :=
  { empty.world with
    host := { empty.world.host with readings := memory 1 }
    state := visited }

/-- The world with the system module and the other one. -/
def equipped : World := supply (supply roomy .sys) sluggard

/-- Somebody wants the other one to nap. -/
def wearied : World :=
  equipped.withState (equipped.state.subscribe ⟨⟨1⟩, "a", "nap", none, false⟩).1

/-- And then to know how much of the memory is in use. -/
def gauged : World := wearied.withState (wearied.state.subscribe ⟨⟨1⟩, "b", "mem", none, false⟩).1

/-- The job that refreshes the snapshot. -/
def refreshJob : Job :=
  { variable_ := ⟨1⟩
    type := .ofBits 32
    arg := none
    callable := ⟨⟨⟨1⟩, "sys", .compiled⟩, "sys_refresh", Provider.refreshing⟩ }

/-- The job that takes its time. -/
def napJob : Job :=
  { variable_ := ⟨9⟩
    type := .plain
    arg := none
    callable := ⟨⟨⟨2⟩, "sluggard", .scripted⟩, "nap",
      Script.method .none (.sequence
        [⟨[.advance 300, .observe (memory 0)], some (.text "")⟩])⟩ }

/-- The job that reads the memory. -/
def memJob : Job :=
  { variable_ := ⟨5⟩
    type := .ofBits 1
    arg := none
    callable := ⟨⟨⟨1⟩, "sys", .compiled⟩, "mem", Provider.Figure.mem.method⟩ }

/-- The tick is planned. -/
def poised : Whole := { (⟨⟨gauged, none, []⟩, [], []⟩ : Whole) with
  run := (⟨gauged, none, []⟩ : Run).takeOff }

/-- The flight of the tick, before its calls. -/
def survey : Flight := ⟨gauged.state, gauged.host.now, []⟩

/-- The snapshot was refreshed. -/
def refreshed : Whole := poised.call survey refreshJob

/-- The flight after the refresh. -/
def surveyed : Flight := survey.answered poised.world refreshJob

/-- The other module took its time. -/
def rested : Whole :=
  (refreshed.call surveyed napJob).withWorld
    (refreshed.world.call napJob.callable napJob.arg).1

/-- The memory was read. -/
def observed : Whole := rested.call (surveyed.answered refreshed.world napJob) memJob

/-- The tick has the refresh first, then the nap and the memory. -/
theorem job_survey (slot : Nat) :
    survey.plan.jobs[slot]? = [refreshJob, napJob, memJob][slot]? := by
  have hjobs : survey.plan.jobs = [refreshJob, napJob, memJob] := by with_unfolding_all rfl
  rw [hjobs]

/-- A module may be supplied while time passes. -/
theorem measured_supply {permit : Permit} {world : World} (provider : Provider)
    (hmeasured : Whole.Measured permit ⟨⟨world, none, []⟩, [], []⟩) :
    Whole.Measured permit ⟨⟨supply world provider, none, []⟩, [], []⟩ := by
  have hhost : world.host.Elapses (supply world provider).host :=
    World.elapses_load (world.withRegistry (world.registry.registerBuiltin provider.name provider))
      (.builtin provider.name)
  exact hmeasured.step (.outside _ (moves_supply world provider) hhost)

/-- Somebody may subscribe while time passes. -/
theorem measured_subscribe {permit : Permit} {world : World} (request : Request)
    (hmeasured : Whole.Measured permit ⟨⟨world, none, []⟩, [], []⟩) :
    Whole.Measured permit
      ⟨⟨world.withState (world.state.subscribe request).1, none, []⟩, [], []⟩ :=
  hmeasured.step (.inside (.outside _ (.subscribed request)) (.refl _))

/-- The daemon comes to its reading while time passes. -/
theorem measured_observed : Whole.Measured rules observed := by
  have hstart : Whole.Measured rules
      ⟨⟨{ roomy with state := empty.world.state }, none, []⟩, [], []⟩ :=
    .start _ .everything .default rfl
  have hroomy : Whole.Measured rules ⟨⟨roomy, none, []⟩, [], []⟩ :=
    hstart.step (.outside roomy (.single (.connected ⟨1⟩ 1 Outbox.defaultCapacity rfl)) (.refl _))
  have hequipped : Whole.Measured rules ⟨⟨equipped, none, []⟩, [], []⟩ :=
    measured_supply sluggard (measured_supply .sys hroomy)
  have hgauged : Whole.Measured rules ⟨⟨gauged, none, []⟩, [], []⟩ :=
    measured_subscribe _ (measured_subscribe _ hequipped)
  have hpoised : Whole.Measured rules poised := Whole.ticks_measured.plan hgauged rfl
  have hrefreshed : Whole.Measured rules refreshed := hpoised.step (.called rfl (job_survey 0))
  have hrested : Whole.Measured rules rested :=
    Whole.ticks_measured.call hrefreshed rfl (job_survey 1) ⟨trivial, trivial, trivial⟩
  exact hrested.step (.called rfl (job_survey 2))

/-- The gauges of the daemon are in order when the tick is planned. -/
theorem gauges_gauged : gauged.state.Gauges ⟨1⟩ ⟨1⟩ where
  resident := ⟨_, rfl, rfl⟩
  registered := ⟨_, rfl, rfl, rfl⟩
  plain := by
    intro id subscription hget hrefresher
    have hnone : ∀ subscription ∈ gauged.state.subscriptions.entries.values,
        subscription.interest.variable_ ≠ ⟨1⟩ := by decide +kernel
    exact absurd hrefresher (hnone subscription (Table.mem_values_of_get? hget))
  others := by
    intro other module_ hget hother
    have hmem : (other, module_) ∈ gauged.registry.modules.entries := Table.mem_of_find hget
    rcases List.mem_cons.mp hmem with heq | hmem
    · exact absurd (congrArg Prod.fst heq) hother
    · have hprovider : module_.unit.provider = sluggard :=
        congrArg (fun entry => entry.2.unit.provider) (List.mem_singleton.mp hmem)
      rw [hprovider]
      exact Script.leavesSnapshot _

end Sample

/-- The nap took longer than the pause, and no memory is left by then: what the tick reads last is
what its refresh left all the same, with a quarter of the memory available. -/
theorem tick_reads_one_snapshot_observed :
    Sample.survey.before.Gauges ⟨1⟩ ⟨1⟩ ∧ ∃ flight refresh nap mem,
      Sample.observed.run.flight = some flight ∧ flight.before = Sample.survey.before ∧
      flight.calls = [refresh, nap, mem] ∧ flight.Consults ⟨1⟩ ⟨1⟩ 0 ∧
      refresh.host.now + Snapshot.pause < mem.host.now ∧
      mem.world.host.readings.availableMemory = 0 ∧
      mem.value = some (Provider.Figure.mem.value refresh.host.snapshot none) ∧
      mem.value = some (.level 75) ∧
      Sample.observed.world.host.snapshot = refresh.host.snapshot := by
  have hsteady := Whole.Measured.tick_reads_one_snapshot Sample.measured_observed
  obtain ⟨slot, hconsults⟩ :=
    hsteady.consults _ (Whole.mem_flights_iff.mpr (.inl rfl)) ⟨1⟩ ⟨1⟩ Sample.gauges_gauged
  have hslot : 0 = slot :=
    hconsults.plan.single 0 Sample.refreshJob (Sample.job_survey 0) (.inl rfl)
  subst hslot
  obtain ⟨refresh, hrefresh, hvalue⟩ :=
    hconsults.values 2 Sample.memJob _ .mem (Sample.job_survey 2) rfl ⟨_, rfl, rfl, rfl⟩
  cases hrefresh
  exact ⟨Sample.gauges_gauged, _, _, _, _, rfl, rfl, rfl, hconsults, by decide +kernel, rfl,
    hvalue, by decide +kernel, hsteady.current _ _ _ _ _ rfl hconsults rfl⟩

end MetricsDaemon
