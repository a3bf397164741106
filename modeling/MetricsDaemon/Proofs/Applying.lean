import MetricsDaemon.Proofs.Pushing

/-!
# Applying the values of a plan

Applying records, serves, marks, retires and sweeps, in that order. Each part has its
frame, and together they keep the accounts, whatever was planned and whatever changed
since. What is left of a subscription is what serving left, unless it was to be removed.
-/

namespace MetricsDaemon

/-- The state between two steps: everything is in order. A forced unload may take modules away
under their subscriptions. -/
structure State.Sound (forced : Bool) (state : State) : Prop where
  booked : Booked state.registry state.subscriptions
  listed : Listed state.connections state.subscriptions
  held : forced = false → Held state.registry state.subscriptions
  settled : Settled state.subscriptions

/-- Those who leave are the live subscriptions that are about to be removed. -/
theorem Subscriptions.Sound.mem_leaving_iff {subscriptions : Subscriptions} {id : SubscriptionId}
    (hsound : subscriptions.Sound) : id ∈ subscriptions.leaving ↔
      ∃ subscription, subscriptions.get? id = some subscription ∧ subscription.pending = true := by
  simp only [leaving, List.mem_map, List.mem_filter, hsound.mem_toList_iff]
  constructor
  · rintro ⟨subscription, ⟨hget, hpending⟩, rfl⟩
    exact ⟨subscription, hget, hpending⟩
  · rintro ⟨subscription, hget, hpending⟩
    have hid : subscription.id = id := hsound.numbered hget
    subst hid
    exact ⟨subscription, ⟨hget, hpending⟩, rfl⟩

/-- Unloading the idle modules leaves every subscription its module. -/
theorem Held.unloadIdle {registry : Registry} {subscriptions : Subscriptions}
    (hheld : Held registry subscriptions) (hbooked : Booked registry subscriptions) :
    Held registry.unloadIdle.1 subscriptions := by
  intro id subscription hget
  obtain ⟨module_, hmodule⟩ := Option.isSome_iff_exists.mp (hheld hget)
  rw [Registry.unloadIdle_fst, Registry.get?_unloadAll, if_neg, hmodule]
  · rfl
  · intro hidle
    obtain ⟨idle, hidle, hclients⟩ := hbooked.modules.mem_idleModules_iff.mp hidle
    have hcount := hbooked.countOn_of_clients_eq_zero hidle hclients
    exact hbooked.table.countOn_eq_zero_iff.mp hcount hget rfl

namespace State

variable {state : State} {id other : SubscriptionId} {subscription : Subscription}
  {connection : ConnectionId} {forced : Bool}

/-! ## Removing several subscriptions -/

/-- Remove subscriptions one after the other. -/
def unsubscribeAll (state : State) (ids : List SubscriptionId) : State :=
  ids.foldl (fun state id => (state.unsubscribe id).1) state

/-- To retire subscriptions one by one is to unsubscribe them all. -/
theorem foldl_retireOne_fst (ids : List SubscriptionId) (progress : State × Nat) :
    (ids.foldl retireOne progress).1 = progress.1.unsubscribeAll ids := by
  induction ids generalizing progress with
  | nil => rfl
  | cons id ids ih =>
    rw [List.foldl_cons, ih]
    rfl

/-- To unsubscribe any number is to let them leave. -/
theorem leaves_unsubscribeAll (ids : List SubscriptionId) :
    state.Leaves (state.unsubscribeAll ids) := by
  induction ids generalizing state with
  | nil => exact .refl state
  | cons id ids ih => exact leaves_unsubscribe.trans ih

/-- However many are unsubscribed, the books stay in order. -/
theorem booked_unsubscribeAll (ids : List SubscriptionId)
    (hbooked : Booked state.registry state.subscriptions) :
    Booked (state.unsubscribeAll ids).registry (state.unsubscribeAll ids).subscriptions := by
  induction ids generalizing state with
  | nil => exact hbooked
  | cons id ids ih => exact ih (booked_unsubscribe hbooked)

/-- However many are unsubscribed, the lists stay in order. -/
theorem listed_unsubscribeAll (ids : List SubscriptionId)
    (hlisted : Listed state.connections state.subscriptions) :
    Listed (state.unsubscribeAll ids).connections (state.unsubscribeAll ids).subscriptions := by
  induction ids generalizing state with
  | nil => exact hlisted
  | cons id ids ih => exact ih (listed_unsubscribe hlisted)

/-- Only those who are unsubscribed are gone. -/
theorem get?_subscriptions_unsubscribeAll (ids : List SubscriptionId) :
    (state.unsubscribeAll ids).subscriptions.get? other =
      if other ∈ ids then none else state.subscriptions.get? other := by
  induction ids generalizing state with
  | nil => simp [unsubscribeAll]
  | cons id ids ih =>
    have hstep : state.unsubscribeAll (id :: ids) = (state.unsubscribe id).1.unsubscribeAll ids :=
      rfl
    rw [hstep, ih, get?_subscriptions_unsubscribe]
    by_cases heq : id = other
    · simp [heq]
    · have hne : ¬other = id := fun h => heq h.symm
      simp [heq, hne]

/-- Whatever is about to be removed is removed, and nothing else. -/
theorem get?_subscriptions_retire_iff (htable : state.subscriptions.Sound) :
    (state.unsubscribeAll state.subscriptions.leaving).subscriptions.get? id = some subscription ↔
      state.subscriptions.get? id = some subscription ∧ subscription.pending = false := by
  rw [get?_subscriptions_unsubscribeAll]
  split
  · next hleaving =>
    obtain ⟨found, hfound, hpending⟩ := htable.mem_leaving_iff.mp hleaving
    constructor
    · intro h
      cases h
    · rintro ⟨hget, hstays⟩
      rw [hfound] at hget
      cases hget
      rw [hpending] at hstays
      cases hstays
  · next hstays =>
    constructor
    · intro hget
      refine ⟨hget, ?_⟩
      cases hpending : subscription.pending with
      | false => rfl
      | true => exact absurd (htable.mem_leaving_iff.mpr ⟨subscription, hget, hpending⟩) hstays
    · exact fun h => h.1

/-- The queues are the same and every connection has the queue that it had. -/
structure Routes (before after : State) : Prop where
  outboxes : after.outboxes = before.outboxes
  connections : ∀ id, (after.connections.get? id).map Connection.outbox =
    (before.connections.get? id).map Connection.outbox

/-- A state has the routes that it has. -/
theorem Routes.refl (state : State) : state.Routes state := ⟨rfl, fun _ => rfl⟩

/-- Routes that are the same twice in a row are the same. -/
theorem Routes.trans {before middle after : State} (hfirst : before.Routes middle)
    (hlast : middle.Routes after) : before.Routes after where
  outboxes := hlast.outboxes.trans hfirst.outboxes
  connections id := (hlast.connections id).trans (hfirst.connections id)

/-- To unsubscribe leaves the routes as they are. -/
theorem routes_unsubscribe : state.Routes (state.unsubscribe id).1 := by
  cases hget : state.subscriptions.get? id with
  | none =>
    rw [unsubscribe_of_get?_eq_none hget]
    exact .refl state
  | some subscription =>
    rw [unsubscribe_of_get?_eq_some hget, discharge_of_get?_eq_some hget]
    refine ⟨rfl, ?_⟩
    intro other
    have hmodify : (state.connections.modify subscription.interest.connection fun entry =>
        { entry with subscriptions := entry.subscriptions.filter fun other => other ≠ id }).get?
          other = if subscription.interest.connection = other then
            (state.connections.get? other).map fun entry =>
              { entry with subscriptions := entry.subscriptions.filter fun other => other ≠ id }
          else state.connections.get? other := Table.get?_modify ..
    simp only [detach, hmodify]
    split
    · cases state.connections.get? other <;> rfl
    · rfl

/-- However many are unsubscribed, the routes stay as they are. -/
theorem routes_unsubscribeAll (ids : List SubscriptionId) :
    state.Routes (state.unsubscribeAll ids) := by
  induction ids generalizing state with
  | nil => exact .refl state
  | cons id ids ih => exact routes_unsubscribe.trans ih

/-- A queue refuses for as long as it stays what it is. -/
theorem Routes.refuses {before after : State} (hroutes : before.Routes after)
    (hrefuses : before.Refuses connection) : after.Refuses connection := by
  rw [refuses_iff] at hrefuses ⊢
  intro entry outbox hentry houtbox
  have hconnection := hroutes.connections connection
  rw [hentry, Option.map_some] at hconnection
  obtain ⟨earlier, hearlier, hsame⟩ := Option.map_eq_some_iff.mp hconnection.symm
  rw [hroutes.outboxes, ← hsame] at houtbox
  exact hrefuses earlier outbox hearlier houtbox

/-! ## Marking orphans -/

/-- Mark subscriptions as leaving. -/
def markAll (state : State) (ids : List SubscriptionId) : State := ids.foldl markPending state

/-- To mark subscriptions queues nothing and changes flags only. -/
theorem serves_markAll (ids : List SubscriptionId) : state.Serves [] (state.markAll ids) := by
  induction ids generalizing state with
  | nil => exact .refl state
  | cons id ids ih =>
    have hmark : state.Serves [] (state.markPending id) := serves_mark flagging_pending
    exact hmark.trans ih

/-- However many are marked, the books stay in order. -/
theorem booked_markAll (ids : List SubscriptionId)
    (hbooked : Booked state.registry state.subscriptions) :
    Booked (state.markAll ids).registry (state.markAll ids).subscriptions := by
  induction ids generalizing state with
  | nil => exact hbooked
  | cons id ids ih =>
    have hmark : Booked (state.markPending id).registry (state.markPending id).subscriptions :=
      hbooked.modify flagging_pending
    exact ih hmark

/-- Those who are marked are about to be removed, and nobody else changes. -/
theorem get?_subscriptions_markAll (ids : List SubscriptionId) :
    (state.markAll ids).subscriptions.get? other =
      (state.subscriptions.get? other).map fun subscription =>
        { subscription with pending := subscription.pending || decide (other ∈ ids) } := by
  induction ids generalizing state with
  | nil => cases hget : state.subscriptions.get? other <;> simp [markAll, hget]
  | cons id ids ih =>
    have hstep : state.markAll (id :: ids) = (state.markPending id).markAll ids := rfl
    have hmark : (state.markPending id).subscriptions.get? other =
        if id = other then (state.subscriptions.get? other).map fun subscription =>
          { subscription with pending := true }
        else state.subscriptions.get? other := Subscriptions.get?_modify
    rw [hstep, ih, hmark]
    by_cases heq : id = other
    · cases state.subscriptions.get? other <;> simp [heq]
    · have hne : ¬other = id := fun h => heq h.symm
      simp [heq, hne]

/-! ## The parts of an application -/

section Parts

variable (state : State) (plan : Plan) (values : List (Option Value)) (now : Nat)

/-- The state after the values of a plan were recorded. -/
def recorded : State := (recordAll now state (plan.jobs.zip values)).1

/-- The state after the targets of a plan were served, and what was pushed. -/
def served : State × List Push :=
  serveAll (results plan.jobs values (recordAll now state (plan.jobs.zip values)).2) plan.targets
    (state.recorded plan values now)

/-- The state after the orphans of a plan were marked. -/
def marked : State := (state.served plan values now).1.markAll plan.orphans

/-- The state after everything that is about to be removed was removed. -/
def retired : State :=
  (state.marked plan values now).unsubscribeAll
    (state.marked plan values now).subscriptions.leaving

/-- The state after the retirement, as the loop that counts gives it. -/
theorem retired_eq : state.retired plan values now =
    ((state.marked plan values now).subscriptions.leaving.foldl retireOne
      (state.marked plan values now, 0)).1 := by
  rw [foldl_retireOne_fst]
  rfl

/-- What an application leaves is what a sweep leaves after the retirement. -/
theorem state_apply : (state.apply plan values now).state =
    (state.retired plan values now).unloadIdle.1 := by
  rw [retired_eq]
  rfl

/-- The report of an application counts the values, the pushes, those who were retired and the
modules that were swept. -/
theorem report_apply : (state.apply plan values now).report =
    { evaluated := (plan.jobs.zip values).countP fun entry => entry.2.isSome
      pushed := (state.served plan values now).2.length
      removed := ((state.marked plan values now).subscriptions.leaving.foldl retireOne
        (state.marked plan values now, 0)).2
      unloaded := (state.retired plan values now).unloadIdle.2 } := by
  rw [retired_eq]
  rfl

/-- The pushes of an application are those of its services. -/
theorem pushes_apply :
    (state.apply plan values now).pushes = (state.served plan values now).2 := rfl

end Parts

variable {plan : Plan} {values : List (Option Value)} {now : Nat}

/-- The results are the values of the jobs, each with its type and whether it is noticed. -/
theorem results_map (jobs : List Job) (values : List (Option Value))
    (changed : Job × Option Value → Bool) :
    results jobs values ((jobs.zip values).map changed) = (jobs.zip values).map fun entry =>
      entry.2.map fun value => ⟨entry.1.type, value, changed entry⟩ := by
  induction jobs generalizing values with
  | nil => rfl
  | cons job jobs ih =>
    cases values with
    | nil => rfl
    | cons value values =>
      have hrest := ih values
      simp only [results] at hrest
      simp [results, hrest]

/-- The result at the place of a job. -/
theorem result_of_slot {slot : Nat} {job : Job} (hdistinct : (plan.jobs.map Job.key).Nodup)
    (hjob : plan.jobs[slot]? = some job) :
    ((results plan.jobs values (recordAll now state (plan.jobs.zip values)).2)[slot]?).join =
      (Valued.valueOf (plan.jobs.zip values) job.key).map fun value =>
        ⟨job.type, value, state.notices job (some value)⟩ := by
  rw [recordAll_snd (Valued.distinct_zip values hdistinct), results_map,
    Valued.valueOf_zip values hdistinct hjob, List.getElem?_map]
  cases hvalue : values[slot]? with
  | none =>
    have hzip : (plan.jobs.zip values)[slot]? = none := by
      rw [List.getElem?_eq_none_iff] at hvalue ⊢
      rw [List.length_zip]
      omega
    rw [hzip]
    rfl
  | some value =>
    have hzip : (plan.jobs.zip values)[slot]? = some (job, value) :=
      List.getElem?_zip_eq_some.mpr ⟨hjob, hvalue⟩
    rw [hzip]
    cases value <;> rfl

/-- Recording values keeps the books in order. -/
theorem booked_recorded (hbooked : Booked state.registry state.subscriptions) :
    Booked (state.recorded plan values now).registry
      (state.recorded plan values now).subscriptions :=
  booked_recordAll _ hbooked

/-- Recording values changes the directory only. -/
theorem recorded_eq (state : State) (plan : Plan) (values : List (Option Value)) (now : Nat) :
    ∃ directory, state.recorded plan values now = state.withDirectory directory :=
  recordAll_fst state now _

/-- Recording values leaves the subscriptions as they are. -/
theorem subscriptions_recorded :
    (state.recorded plan values now).subscriptions = state.subscriptions := by
  obtain ⟨directory, h⟩ := state.recorded_eq plan values now
  rw [h]
  rfl

/-- Recording values leaves the connections as they are. -/
theorem connections_recorded :
    (state.recorded plan values now).connections = state.connections := by
  obtain ⟨directory, h⟩ := state.recorded_eq plan values now
  rw [h]
  rfl

/-- Recording values leaves the queues as they are. -/
theorem outboxes_recorded : (state.recorded plan values now).outboxes = state.outboxes := by
  obtain ⟨directory, h⟩ := state.recorded_eq plan values now
  rw [h]
  rfl

/-- Recording values leaves the modules as they are. -/
theorem get?_registry_recorded {module_ : ModuleId} :
    (state.recorded plan values now).registry.get? module_ = state.registry.get? module_ := by
  obtain ⟨directory, h⟩ := state.recorded_eq plan values now
  rw [h]
  rfl

/-- Serving the targets of a plan changes flags and appends the lines of the pushes to the
queues. -/
theorem serves_served (plan : Plan) (values : List (Option Value)) (now : Nat)
    (hbooked : Booked state.registry state.subscriptions) :
    (state.recorded plan values now).Serves (state.served plan values now).2
      (state.served plan values now).1 :=
  serves_serveAll (booked_recorded hbooked)

/-- Serving and marking together. -/
theorem serves_marked (hbooked : Booked state.registry state.subscriptions) :
    (state.recorded plan values now).Serves (state.served plan values now).2
      (state.marked plan values now) := by
  have hboth := (serves_served plan values now hbooked).trans
    (serves_markAll plan.orphans)
  rwa [List.append_nil] at hboth

/-- The books are in order when the subscriptions are served and marked. -/
theorem booked_marked (hbooked : Booked state.registry state.subscriptions) :
    Booked (state.marked plan values now).registry (state.marked plan values now).subscriptions :=
  booked_markAll _ (booked_serveAll (booked_recorded hbooked))

/-- The books are in order when the marked subscriptions are retired. -/
theorem booked_retired (hbooked : Booked state.registry state.subscriptions) :
    Booked (state.retired plan values now).registry
      (state.retired plan values now).subscriptions :=
  booked_unsubscribeAll _ (booked_marked hbooked)

/-- An application keeps the books in order. -/
theorem booked_apply (hbooked : Booked state.registry state.subscriptions) :
    Booked (state.apply plan values now).state.registry
      (state.apply plan values now).state.subscriptions := by
  rw [state_apply]
  exact (booked_retired hbooked).unloadAll _

/-- A subscription is left after an application exactly if serving left it and it was not to be
removed. -/
theorem get?_subscriptions_apply_iff (hbooked : Booked state.registry state.subscriptions) :
    (state.apply plan values now).state.subscriptions.get? id = some subscription ↔
      (state.served plan values now).1.subscriptions.get? id = some subscription ∧
        subscription.pending = false ∧ id ∉ plan.orphans := by
  have hmarked : (state.marked plan values now).subscriptions.get? id =
      ((state.served plan values now).1.subscriptions.get? id).map fun subscription =>
        { subscription with pending := subscription.pending || decide (id ∈ plan.orphans) } :=
    get?_subscriptions_markAll _
  have htable : (state.marked plan values now).subscriptions.Sound := (booked_marked hbooked).table
  have hfinal : (state.apply plan values now).state.subscriptions =
      (state.retired plan values now).subscriptions := by
    rw [state_apply]
    rfl
  rw [hfinal, retired, get?_subscriptions_retire_iff htable, hmarked, Option.map_eq_some_iff]
  constructor
  · rintro ⟨⟨found, hfound, rfl⟩, hpending⟩
    obtain ⟨hflag, horphan⟩ := Bool.or_eq_false_iff.mp hpending
    have hsame : { found with pending := found.pending || decide (id ∈ plan.orphans) } = found := by
      rw [horphan, Bool.or_false]
    rw [hsame]
    exact ⟨hfound, hflag, of_decide_eq_false horphan⟩
  · rintro ⟨hfound, hpending, horphan⟩
    refine ⟨⟨subscription, hfound, ?_⟩, hpending⟩
    rw [decide_eq_false horphan, Bool.or_false]

/-- Nothing new is subscribed to by an application. -/
theorem get?_of_apply (hbooked : Booked state.registry state.subscriptions)
    (hget : (state.apply plan values now).state.subscriptions.get? id = some subscription) :
    ∃ before, state.subscriptions.get? id = some before ∧
      before.interest = subscription.interest := by
  obtain ⟨hserved, _⟩ := (get?_subscriptions_apply_iff hbooked).mp hget
  obtain ⟨before, hbefore, hinterest⟩ :=
    (serves_served plan values now hbooked).alike.symm.get?_after hserved
  rw [subscriptions_recorded] at hbefore
  exact ⟨before, hbefore, hinterest⟩

/-- The variables after an application are the recorded ones of the modules that stay. -/
theorem get?_directory_of_apply {variableId : VariableId} {variable_ : Variable}
    (hbooked : Booked state.registry state.subscriptions)
    (hget : (state.apply plan values now).state.directory.get? variableId = some variable_) :
    (state.recorded plan values now).directory.get? variableId = some variable_ := by
  have hretired : Booked (state.retired plan values now).registry
      (state.retired plan values now).subscriptions := booked_retired hbooked
  have hdirectory : (state.retired plan values now).directory =
      (state.recorded plan values now).directory := by
    have hleaves : (state.marked plan values now).Leaves (state.retired plan values now) :=
      leaves_unsubscribeAll _
    have hserves : (state.recorded plan values now).Serves _ (state.marked plan values now) :=
      serves_marked hbooked
    rw [hleaves.directory, State.directory, hserves.registry]
    rfl
  rw [state_apply] at hget
  rw [← hdirectory]
  exact (hretired.modules.get?_directory_unloadAll_iff.mp hget).1

/-- An application gives out no number of a variable. -/
theorem lastId_directory_apply (hbooked : Booked state.registry state.subscriptions) :
    (state.apply plan values now).state.directory.lastId = state.directory.lastId := by
  have hleaves : (state.marked plan values now).Leaves (state.retired plan values now) :=
    leaves_unsubscribeAll _
  have hserves : (state.recorded plan values now).Serves _ (state.marked plan values now) :=
    serves_marked hbooked
  have hswept : (state.apply plan values now).state.directory.lastId =
      (state.retired plan values now).directory.lastId := by
    rw [state_apply]
    exact Registry.lastId_directory_unloadAll
  rw [hswept, hleaves.directory, State.directory, hserves.registry]
  exact lastId_directory_recordAll

/-- An application gives out no number of a subscription. -/
theorem lastId_subscriptions_apply (hbooked : Booked state.registry state.subscriptions) :
    (state.apply plan values now).state.subscriptions.lastId = state.subscriptions.lastId := by
  have hleaves : (state.marked plan values now).Leaves (state.retired plan values now) :=
    leaves_unsubscribeAll _
  have hserves : (state.recorded plan values now).Serves _ (state.marked plan values now) :=
    serves_marked hbooked
  have hswept : (state.apply plan values now).state.subscriptions.lastId =
      (state.retired plan values now).subscriptions.lastId := by
    rw [state_apply]
    rfl
  rw [hswept, hleaves.last, hserves.last, subscriptions_recorded]

/-- Retiring and sweeping leave the queues alone. -/
theorem routes_apply :
    (state.served plan values now).1.Routes (state.apply plan values now).state := by
  have hmark : (state.served plan values now).1.Routes (state.marked plan values now) := by
    have hframe (ids : List SubscriptionId) (start : State) :
        start.Routes (start.markAll ids) := by
      induction ids generalizing start with
      | nil => exact .refl start
      | cons id ids ih =>
        have hfirst : start.Routes (start.markPending id) := ⟨rfl, fun _ => rfl⟩
        exact hfirst.trans (ih _)
    exact hframe _ _
  have hretire : (state.marked plan values now).Routes (state.retired plan values now) :=
    routes_unsubscribeAll _
  rw [state_apply]
  have hsweep : (state.retired plan values now).Routes
      (state.retired plan values now).unloadIdle.1 := ⟨rfl, fun _ => rfl⟩
  exact (hmark.trans hretire).trans hsweep

/-- Applying keeps everything in order, whatever is applied. -/
theorem Sound.apply (hsound : state.Sound forced) :
    (state.apply plan values now).state.Sound forced where
  booked := booked_apply hsound.booked
  listed := by
    have hserves : (state.recorded plan values now).Serves _ (state.marked plan values now) :=
      serves_marked hsound.booked
    have hmarked : Listed (state.marked plan values now).connections
        (state.marked plan values now).subscriptions := by
      rw [hserves.connections, connections_recorded]
      refine hsound.listed.of_alike ?_
      rw [← subscriptions_recorded]
      exact hserves.alike
    rw [state_apply]
    exact listed_unsubscribeAll _ hmarked
  held := by
    intro hforced
    have hleaves : (state.marked plan values now).Leaves (state.retired plan values now) :=
      leaves_unsubscribeAll _
    have hserves : (state.recorded plan values now).Serves _ (state.marked plan values now) :=
      serves_marked hsound.booked
    have hretired : Held (state.retired plan values now).registry
        (state.retired plan values now).subscriptions := by
      intro id subscription hget
      obtain ⟨before, hbefore, hinterest⟩ :=
        hserves.alike.symm.get?_after (hleaves.subscriptions hget)
      rw [subscriptions_recorded] at hbefore
      rw [hleaves.modules, hserves.registry, get?_registry_recorded, ← hinterest]
      exact hsound.held hforced hbefore
    rw [state_apply]
    exact hretired.unloadIdle (booked_retired hsound.booked)
  settled := by
    intro id subscription hget
    exact ((get?_subscriptions_apply_iff hsound.booked).mp hget).2.1

end State

end MetricsDaemon
