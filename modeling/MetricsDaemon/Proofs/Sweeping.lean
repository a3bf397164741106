import MetricsDaemon.Proofs.Exactness
import MetricsDaemon.Proofs.Whole

/-!
# Idle modules leave with the tick

Subscriptions end before a tick is applied and while it is, for several reasons. The
sweep comes last, so it does not matter why: afterwards the resident modules are those
that are pinned and those that somebody is still subscribed to. Between two applications
nobody is about to be removed, so neither a plan nor a push is ever made for that.
-/

namespace MetricsDaemon

/-- The module with so many clients left, unless none are. -/
def Module.keep? (module_ : Module) (clients : Nat) : Option Module :=
  if clients = 0 then none else some { module_ with clients := clients }

namespace State

variable {state : State} {plan : Plan} {values : List (Option Value)} {now count : Nat}
  {forced : Bool} {moduleId : ModuleId} {variableId : VariableId} {variable_ : Variable}

/-! ## Modules and variables after an application -/

/-- Retiring is followed by the sweep alone. -/
theorem registry_apply : (state.apply plan values now).state.registry =
    (state.retired plan values now).registry.unloadAll
      (state.retired plan values now).registry.idleModules := by
  rw [state_apply]
  rfl

/-- Before the sweep every module is still there, with the clients that are left. -/
theorem get?_registry_retired (hbooked : Booked state.registry state.subscriptions) :
    (state.retired plan values now).registry.get? moduleId =
      (state.registry.get? moduleId).map fun module_ => { module_ with
        clients := module_.pinned.toNat +
          (state.retired plan values now).subscriptions.countOn moduleId } := by
  have hleaves : (state.marked plan values now).Leaves (state.retired plan values now) :=
    leaves_unsubscribeAll _
  have hserves : (state.recorded plan values now).Serves _ (state.marked plan values now) :=
    serves_marked hbooked
  have hresident : ((state.retired plan values now).registry.get? moduleId).isSome =
      (state.registry.get? moduleId).isSome := by
    rw [hleaves.modules, hserves.registry, get?_registry_recorded]
  cases hget : (state.retired plan values now).registry.get? moduleId with
  | none =>
    rw [hget, Option.isSome_none, eq_comm, Option.isSome_eq_false_iff,
      Option.isNone_iff_eq_none] at hresident
    rw [hresident, Option.map_none]
  | some found =>
    obtain ⟨module_, hmodule, hsame⟩ :=
      (acted_retired plan values now hbooked).registry.resident hget
    have hclients : found.clients = module_.pinned.toNat +
        (state.retired plan values now).subscriptions.countOn moduleId := by
      have hpinned : found.pinned = module_.pinned := by rw [hsame]
      rw [← hpinned]
      exact (booked_retired hbooked).clients hget
    rw [hmodule, Option.map_some, ← hclients]
    exact congrArg some hsame

/-- After an application the modules are those that have clients left. -/
theorem get?_registry_apply (hbooked : Booked state.registry state.subscriptions) :
    (state.apply plan values now).state.registry.get? moduleId =
      (state.registry.get? moduleId).bind fun module_ => module_.keep? (module_.pinned.toNat +
        (state.apply plan values now).state.subscriptions.countOn moduleId) := by
  have hsubscriptions : (state.apply plan values now).state.subscriptions =
      (state.retired plan values now).subscriptions := by
    rw [state_apply]
    rfl
  have hretired : Booked (state.retired plan values now).registry
      (state.retired plan values now).subscriptions := booked_retired hbooked
  have hget : (state.retired plan values now).registry.get? moduleId = _ :=
    get?_registry_retired hbooked
  rw [hsubscriptions, registry_apply, Registry.get?_unloadAll]
  cases hmodule : state.registry.get? moduleId with
  | none =>
    rw [hmodule, Option.map_none] at hget
    rw [hget, ite_self, Option.bind_none]
  | some module_ =>
    rw [hmodule, Option.map_some] at hget
    simp only [hretired.modules.mem_idleModules_iff, hget, Option.some.injEq, exists_eq_left',
      Option.bind_some, Module.keep?]

/-- An application takes a client from a module for every subscription that ends on it, and for
nothing else. -/
theorem released_apply (hbooked : Booked state.registry state.subscriptions) {module_ : Module}
    (hget : state.registry.get? moduleId = some module_) : ∃ left,
      module_.clients = left + state.subscriptions.endedOn
        (state.apply plan values now).state.subscriptions moduleId ∧
      (state.apply plan values now).state.registry.get? moduleId = module_.keep? left := by
  have hafter : Booked (state.apply plan values now).state.registry
      (state.apply plan values now).state.subscriptions := booked_apply hbooked
  have hcount : state.subscriptions.countOn moduleId = _ :=
    hbooked.table.countOn_eq_add_endedOn hafter.table fun _ _ hfound => get?_of_apply hbooked hfound
  refine ⟨module_.pinned.toNat +
    (state.apply plan values now).state.subscriptions.countOn moduleId, ?_, ?_⟩
  · rw [hbooked.clients hget, hcount, Nat.add_assoc]
  · rw [get?_registry_apply hbooked, hget]
    rfl

/-- Retiring subscriptions leaves the variables alone. -/
theorem directory_retired (hbooked : Booked state.registry state.subscriptions) :
    (state.retired plan values now).directory = (state.recorded plan values now).directory := by
  have hleaves : (state.marked plan values now).Leaves (state.retired plan values now) :=
    leaves_unsubscribeAll _
  have hserves : (state.recorded plan values now).Serves _ (state.marked plan values now) :=
    serves_marked hbooked
  rw [hleaves.directory, State.directory, hserves.registry]
  rfl

/-- After an application the variables are those of the modules that stay. -/
theorem get?_directory_apply (hbooked : Booked state.registry state.subscriptions) :
    (state.apply plan values now).state.directory.get? variableId =
      ((state.recorded plan values now).directory.get? variableId).filter fun variable_ =>
        ((state.apply plan values now).state.registry.get? variable_.module_).isSome := by
  have hretired : Booked (state.retired plan values now).registry
      (state.retired plan values now).subscriptions := booked_retired hbooked
  rw [← directory_retired hbooked]
  ext found
  rw [State.directory, registry_apply, hretired.modules.get?_directory_unloadAll_iff,
    Option.filter_eq_some_iff, Registry.get?_unloadAll]
  refine and_congr_right fun hget => ?_
  obtain ⟨module_, hmodule, _⟩ := hretired.modules.owner hget
  rw [hmodule]
  split <;> simp_all

/-- What an application does to the modules and to their variables. -/
structure Tidies (state : State) (plan : Plan) (values : List (Option Value)) (now : Nat) :
    Prop where
  /-- Modules that are not pinned leave with their last subscription, whenever that ended. -/
  modules : ∀ id, (state.apply plan values now).state.registry.get? id =
    (state.registry.get? id).bind fun module_ => module_.keep? (module_.pinned.toNat +
      (state.apply plan values now).state.subscriptions.countOn id)
  occupied : ∀ id module_, (state.apply plan values now).state.registry.get? id = some module_ →
    0 < module_.clients
  /-- A module that has a client when the sweep comes to it is left alone. -/
  spared : ∀ id module_, (state.retired plan values now).registry.get? id = some module_ →
    0 < module_.clients → (state.apply plan values now).state.registry.get? id = some module_
  /-- The variables of the modules that leave go with them, and no others. -/
  directory : ∀ id, ((state.apply plan values now).state.directory.get? id).map Variable.profile =
    ((state.directory.get? id).filter fun variable_ =>
      ((state.apply plan values now).state.registry.get? variable_.module_).isSome).map
        Variable.profile

/-- Every module that is left after an application has a client. -/
theorem occupied_apply (hbooked : Booked state.registry state.subscriptions) {module_ : Module}
    (hget : (state.apply plan values now).state.registry.get? moduleId = some module_) :
    0 < module_.clients := by
  rw [get?_registry_apply hbooked, Option.bind_eq_some_iff] at hget
  obtain ⟨earlier, _, hkeep⟩ := hget
  rw [Module.keep?] at hkeep
  split at hkeep
  · cases hkeep
  · next hclients =>
    cases hkeep
    exact Nat.pos_of_ne_zero hclients

/-- A module that has a client once the subscriptions were retired is not unloaded. -/
theorem spared_apply (hbooked : Booked state.registry state.subscriptions) {module_ : Module}
    (hget : (state.retired plan values now).registry.get? moduleId = some module_)
    (hclients : 0 < module_.clients) :
    (state.apply plan values now).state.registry.get? moduleId = some module_ := by
  have hretired : Booked (state.retired plan values now).registry
      (state.retired plan values now).subscriptions := booked_retired hbooked
  have hstays : moduleId ∉ (state.retired plan values now).registry.idleModules := by
    intro hidle
    obtain ⟨idle, hidle, hzero⟩ := hretired.modules.mem_idleModules_iff.mp hidle
    obtain rfl : idle = module_ := Option.some.inj (hidle.symm.trans hget)
    omega
  rw [registry_apply, Registry.get?_unloadAll, if_neg hstays, hget]

/-- Exactly the variables whose module is left are left by an application, and as they were
described. -/
theorem profile_apply (hbooked : Booked state.registry state.subscriptions) :
    ((state.apply plan values now).state.directory.get? variableId).map Variable.profile =
      ((state.directory.get? variableId).filter fun variable_ =>
        ((state.apply plan values now).state.registry.get? variable_.module_).isSome).map
          Variable.profile := by
  have halike : state.directory.Alike (state.recorded plan values now).directory :=
    alike_recordAll now _
  rw [get?_directory_apply hbooked]
  cases hget : state.directory.get? variableId with
  | none =>
    have hnone := halike variableId
    rw [hget, Option.map_none, Option.map_eq_none_iff] at hnone
    rw [hnone]
  | some variable_ =>
    obtain ⟨found, hfound, hprofile⟩ := halike.get?_after hget
    rw [hfound, Option.filter_some, Option.filter_some,
      Variable.module_eq_of_profile_eq hprofile]
    split
    · rw [Option.map_some, Option.map_some, hprofile]
    · rfl

/-- An application tidies up among the modules and their variables. -/
theorem tidies_apply (hbooked : Booked state.registry state.subscriptions) (plan : Plan)
    (values : List (Option Value)) (now : Nat) : state.Tidies plan values now where
  modules _ := get?_registry_apply hbooked
  occupied _ _ hget := occupied_apply hbooked hget
  spared _ _ hget hclients := spared_apply hbooked hget hclients
  directory _ := profile_apply hbooked

/-! ## Flags that decide nothing -/

/-- The state after the first few targets of a plan were served. -/
def servedUpTo (state : State) (plan : Plan) (values : List (Option Value)) (now count : Nat) :
    State :=
  (serveAll (results plan.jobs values (recordAll now state (plan.jobs.zip values)).2)
    (plan.targets.take count) (state.recorded plan values now)).1

/-- Serving all targets is serving as many as there are. -/
theorem served_eq_servedUpTo : (state.served plan values now).1 =
    state.servedUpTo plan values now plan.targets.length := by
  rw [servedUpTo, List.take_length]
  rfl

/-- A target whose turn has not come yet is not about to be removed. -/
theorem Sound.pending_servedUpTo {target : SubscriptionId × Nat} {subscription : Subscription}
    (hsound : state.Sound forced) (hnodup : (plan.targets.map Prod.fst).Nodup)
    (htarget : plan.targets[count]? = some target)
    (hget : (state.servedUpTo plan values now count).subscriptions.get? target.1 =
      some subscription) : subscription.pending = false := by
  have hlater : target.1 ∉ (plan.targets.take count).map Prod.fst := by
    obtain ⟨hlt, rfl⟩ := List.getElem?_eq_some_iff.mp htarget
    have hdrop : plan.targets[count] ∈ plan.targets.drop count := by
      rw [List.drop_eq_getElem_cons hlt]
      exact List.mem_cons_self
    have hdisjoint := List.disjoint_take_drop hnodup (Nat.le_refl count)
    rw [← List.map_take, ← List.map_drop] at hdisjoint
    exact fun hmem => hdisjoint hmem (List.mem_map_of_mem hdrop)
  rw [servedUpTo, (serveAll_of_not_mem _ (booked_recorded hsound.booked) hlater).1,
    subscriptions_recorded] at hget
  exact hsound.settled hget

end State

namespace Run

variable {forced : Bool} {run : Run}

/-- Wherever a run can come, whatever plan is applied there leaves no idle module and takes no other
one away. Nobody is about to be removed then. So a plan never counts anybody as wanting a value for
that reason, and when the turn of a subscription comes it is not pushed to for that reason. -/
theorem Reachable.apply_leaves_no_idle_module (hreach : Reachable forced run) :
    (∀ plan values now, run.world.state.Tidies plan values now) ∧
    (∀ id subscription, run.world.state.subscriptions.get? id = some subscription →
      subscription.pending = false) ∧
    (∀ now, ∀ subscription ∈ run.world.state.cronJobs.1.subscriptions.toList,
      run.world.state.cronJobs.1.isWanting now subscription =
        run.world.state.cronJobs.1.isAsking now subscription) ∧
    ∀ flight, run.flight = some flight → ∀ values now count target subscription,
      flight.plan.targets[count]? = some target →
      (run.world.state.servedUpTo flight.plan values now count).subscriptions.get? target.1 =
        some subscription →
      ∀ changed, needsPush changed subscription.first subscription.pending =
        (changed || subscription.first) := by
  have hsound := hreach.sound.state
  refine ⟨?_, fun _ _ hget => hsound.settled hget, ?_, ?_⟩
  · exact fun plan values now => State.tidies_apply hsound.booked plan values now
  · intro now subscription hmem
    have hcron := (State.collects_cronJobs hsound.booked.modules.directory).binds
    rw [hcron.subscriptions] at hmem
    exact State.isWanting_eq_isAsking
      (hsound.settled (hsound.booked.table.mem_toList_iff.mp hmem))
  · intro flight hflight values now count target subscription htarget hget changed
    have hbefore := (hreach.sound.flight hflight).before
    have hnodup : (flight.plan.targets.map Prod.fst).Nodup :=
      State.nodup_targets hbefore.booked.table
    rw [hsound.pending_servedUpTo hnodup htarget hget, needsPush, Bool.or_false]

end Run

/-- A subscriber leaves while the first tick is in flight. The tick is applied all the same, and the
module that nobody holds any more leaves with its variable. -/
theorem apply_leaves_no_idle_module_deserted :
    Sample.deserted.run.world.state.registry.idleModules = [⟨1⟩] ∧
    Sample.deserted.run.world.state.Tidies Sample.start.plan [some (.text "open")] 0 ∧
    Sample.landed.world.state.registry.get? ⟨1⟩ = none ∧
    Sample.landed.world.state.directory.get? ⟨1⟩ = none :=
  ⟨by with_unfolding_all rfl,
    (Run.Reachable.apply_leaves_no_idle_module Sample.reachable_deserted.toRun).1 _ _ _,
    by with_unfolding_all rfl, by with_unfolding_all rfl⟩

end MetricsDaemon
