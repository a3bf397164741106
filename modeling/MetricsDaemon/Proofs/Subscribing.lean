import MetricsDaemon.Proofs.Accounts

/-!
# Subscribing and leaving

What the operations on subscriptions and connections do to the shared state, and that
they keep its accounts. Subscribing binds the method of the variable first, whatever
comes of it; leaving releases the module and leaves the directory alone.
-/

namespace MetricsDaemon

/-- Only a method that is bound can be called. -/
theorem Directory.callableOf_eq_some_iff {binding : Binding} {callable : Callable} :
    Directory.callableOf binding = some callable ↔ binding = .ready callable := by
  cases binding <;> simp [Directory.callableOf]

/-- What a request asks for once its variable was found. -/
def Request.interest (request : Request) (variable_ : Variable) : Interest :=
  { clientId := request.clientId
    connection := request.connection
    variable_ := variable_.id
    module_ := variable_.module_
    arg := request.arg
    once := request.once }

namespace State

variable {state : State} {unit : ProviderUnit} {variableId : VariableId} {request : Request}
  {variable_ : Variable} {callable : Callable} {name : String} {id : SubscriptionId}
  {connection : ConnectionId}

/-! ## Binding a method -/

/-- Binding a method changes the directory and the journal only. -/
theorem bindMethod_fst (state : State) (unit : ProviderUnit) (variableId : VariableId) :
    ∃ journal, (state.bindMethod unit variableId).1 = { state with
      registry := { state.registry with
        directory := (state.directory.resolve variableId unit.resolve).1
        journal := journal } } := by
  unfold bindMethod noteAsked
  dsimp only
  split
  · exact ⟨_, rfl⟩
  · exact ⟨_, rfl⟩

/-- Binding a method changes the directory as a resolution does. -/
@[simp] theorem directory_bindMethod : (state.bindMethod unit variableId).1.directory =
    (state.directory.resolve variableId unit.resolve).1 := by
  obtain ⟨journal, h⟩ := bindMethod_fst state unit variableId
  rw [h]
  rfl

/-- Binding a method leaves the subscriptions as they are. -/
@[simp] theorem subscriptions_bindMethod :
    (state.bindMethod unit variableId).1.subscriptions = state.subscriptions := by
  obtain ⟨journal, h⟩ := bindMethod_fst state unit variableId
  rw [h]

/-- Binding a method leaves the connections as they are. -/
@[simp] theorem connections_bindMethod :
    (state.bindMethod unit variableId).1.connections = state.connections := by
  obtain ⟨journal, h⟩ := bindMethod_fst state unit variableId
  rw [h]

/-- Binding a method leaves the modules as they are. -/
@[simp] theorem get?_registry_bindMethod {module_ : ModuleId} :
    (state.bindMethod unit variableId).1.registry.get? module_ = state.registry.get? module_ := by
  obtain ⟨journal, h⟩ := bindMethod_fst state unit variableId
  rw [h]
  rfl

/-- The callable that binding leads to is the one that the variable is bound to afterwards. -/
theorem bindMethod_snd_eq_some_iff : (state.bindMethod unit variableId).2 = some callable ↔
    ∃ variable_, state.directory.get? variableId = some variable_ ∧
      (variable_.bindWith unit.resolve).binding = .ready callable := by
  have hcallable : (state.bindMethod unit variableId).2 =
      (state.directory.resolve variableId unit.resolve).2.callable := rfl
  rw [hcallable, Directory.callable_resolve, Option.bind_eq_some_iff]
  simp only [Directory.callableOf_eq_some_iff]

/-! ## Subscribing -/

/-- A name has a target if it is registered for a resident module, whose unit is then asked. -/
theorem target?_eq_some_iff : state.target? name = some (variable_, unit) ↔
    ∃ variableId module_, state.directory.idOf? name = some variableId ∧
      state.directory.get? variableId = some variable_ ∧
      state.registry.get? variable_.module_ = some module_ ∧ module_.unit = unit := by
  simp only [target?, Option.pure_def, Option.bind_eq_bind, Option.bind_eq_some_iff,
    Option.some.injEq, Prod.mk.injEq]
  constructor
  · rintro ⟨variableId, hname, found, hvariable, module_, hmodule, rfl, rfl⟩
    exact ⟨variableId, module_, hname, hvariable, hmodule, rfl⟩
  · rintro ⟨variableId, module_, hname, hvariable, hmodule, rfl⟩
    exact ⟨variableId, hname, variable_, hvariable, module_, hmodule, rfl, rfl⟩

/-- Nobody can subscribe on a connection that is not tracked. -/
theorem subscribe_of_untracked (h : state.connections.contains request.connection = false) :
    state.subscribe request = (state, .error .unknownConnection) := by
  simp [subscribe, h]

/-- Nobody can subscribe to a name without a target. -/
theorem subscribe_of_unknown (h : state.connections.contains request.connection = true)
    (htarget : state.target? request.name = none) :
    state.subscribe request = (state, .error (.unknownVariable request.name)) := by
  simp [subscribe, h, htarget]

/-- Nobody can subscribe to a variable whose method cannot be bound, but then the method was asked
for. -/
theorem subscribe_of_unbound (h : state.connections.contains request.connection = true)
    (htarget : state.target? request.name = some (variable_, unit))
    (hbind : (state.bindMethod unit variable_.id).2 = none) :
    state.subscribe request =
      ((state.bindMethod unit variable_.id).1, .error (.unresolvable request.name)) := by
  simp only [subscribe, h, htarget, Bool.not_true, Bool.false_eq_true, if_false]
  split
  · next heq => rw [heq]
  · next heq =>
    rw [heq] at hbind
    cases hbind

/-- A subscription is made under the next number once the method is bound. -/
theorem subscribe_of_bound (h : state.connections.contains request.connection = true)
    (htarget : state.target? request.name = some (variable_, unit))
    (hbind : (state.bindMethod unit variable_.id).2 = some callable) :
    state.subscribe request =
      (((state.bindMethod unit variable_.id).1.addSubscription request variable_).1,
        .ok state.subscriptions.nextId) := by
  simp only [subscribe, h, htarget, Bool.not_true, Bool.false_eq_true, if_false]
  split
  · next heq =>
    rw [heq] at hbind
    cases hbind
  · next heq =>
    rw [heq]
    have hnext : (state.bindMethod unit variable_.id).1.subscriptions.nextId =
        state.subscriptions.nextId := by rw [subscriptions_bindMethod]
    rw [heq] at hnext
    rw [← hnext]
    rfl

/-- Subscribing ends in one of three ways: nothing happened, the method was asked for in vain, or
there is one subscription more. -/
theorem subscribe_cases (state : State) (request : Request) :
    (state.subscribe request).1 = state ∨
    (∃ variable_ unit, state.target? request.name = some (variable_, unit) ∧
      (state.subscribe request).1 = (state.bindMethod unit variable_.id).1) ∨
    (∃ entry variable_ unit callable,
      state.connections.get? request.connection = some entry ∧
      state.target? request.name = some (variable_, unit) ∧
      (state.bindMethod unit variable_.id).2 = some callable ∧
      (state.subscribe request).1 =
        ((state.bindMethod unit variable_.id).1.addSubscription request variable_).1) := by
  cases hcontains : state.connections.contains request.connection with
  | false =>
    left
    rw [subscribe_of_untracked hcontains]
  | true =>
    cases htarget : state.target? request.name with
    | none =>
      left
      rw [subscribe_of_unknown hcontains htarget]
    | some target =>
      obtain ⟨variable_, unit⟩ := target
      right
      cases hbind : (state.bindMethod unit variable_.id).2 with
      | none =>
        left
        rw [subscribe_of_unbound hcontains htarget hbind]
        exact ⟨variable_, unit, rfl, rfl⟩
      | some callable =>
        right
        obtain ⟨entry, hentry⟩ := Table.contains_iff.mp hcontains
        rw [subscribe_of_bound hcontains htarget hbind]
        exact ⟨entry, variable_, unit, callable, hentry, rfl, hbind, rfl⟩

/-- A request that is granted found its variable. -/
theorem subscribe_ok (hok : (state.subscribe request).2 = .ok id) :
    ∃ variable_ unit, state.target? request.name = some (variable_, unit) ∧
      id = state.subscriptions.nextId ∧ (state.subscribe request).1 =
        ((state.bindMethod unit variable_.id).1.addSubscription request variable_).1 := by
  cases htracked : state.connections.contains request.connection with
  | false =>
    rw [subscribe_of_untracked htracked] at hok
    cases hok
  | true =>
    cases htarget : state.target? request.name with
    | none =>
      rw [subscribe_of_unknown htracked htarget] at hok
      cases hok
    | some target =>
      obtain ⟨variable_, unit⟩ := target
      cases hbind : (state.bindMethod unit variable_.id).2 with
      | none =>
        rw [subscribe_of_unbound htracked htarget hbind] at hok
        cases hok
      | some callable =>
        rw [subscribe_of_bound htracked htarget hbind] at hok ⊢
        cases hok
        exact ⟨variable_, unit, rfl, rfl, rfl⟩

/-- With a subscription the clients of its module are one more, and its connection lists it. -/
theorem addSubscription_fst : (state.addSubscription request variable_).1 =
    { state with
      registry := state.registry.recount variable_.module_ (· + 1)
      subscriptions := (state.subscriptions.insert (request.interest variable_)).1
      connections := state.connections.modify request.connection fun entry =>
        { entry with
          subscriptions := entry.subscriptions ++
            [(state.subscriptions.insert (request.interest variable_)).2] } } := by
  rw [← Registry.acquire_fst]
  rfl

/-- A subscription to a bound variable of a resident module keeps the books in order. -/
theorem booked_addSubscription {module_ : Module}
    (hbooked : Booked state.registry state.subscriptions)
    (hmodule : state.registry.get? variable_.module_ = some module_)
    (hvariable : state.directory.get? variable_.id = some variable_)
    (hbinding : variable_.binding = .ready callable) :
    Booked (state.addSubscription request variable_).1.registry
      (state.addSubscription request variable_).1.subscriptions := by
  rw [addSubscription_fst]
  have hinsert : Booked
      (state.registry.recount (request.interest variable_).module_ (· + 1))
      (state.subscriptions.insert (request.interest variable_)).1 :=
    hbooked.insert hmodule hvariable rfl hbinding
  exact hinsert

/-- A subscription on a tracked connection keeps the lists in order. -/
theorem listed_addSubscription {entry : Connection}
    (hlisted : Listed state.connections state.subscriptions) (htable : state.subscriptions.Sound)
    (hentry : state.connections.get? request.connection = some entry) :
    Listed (state.addSubscription request variable_).1.connections
      (state.addSubscription request variable_).1.subscriptions := by
  rw [addSubscription_fst]
  have hinsert : Listed
      (state.connections.modify (request.interest variable_).connection fun entry =>
        { entry with
          subscriptions := entry.subscriptions ++
            [(state.subscriptions.insert (request.interest variable_)).2] })
      (state.subscriptions.insert (request.interest variable_)).1 :=
    hlisted.insert htable hentry
  exact hinsert

/-! ## Leaving -/

/-- Remove a subscription without looking at the lists of the connections. -/
def discharge (state : State) (id : SubscriptionId) : State := (dropOne (state, 0) id).1

/-- To drop one subscription is to discharge it. -/
theorem dropOne_fst (progress : State × Nat) :
    (dropOne progress id).1 = progress.1.discharge id := by
  unfold discharge dropOne
  split <;> rename_i h <;> simp [h]

/-- To discharge nobody changes nothing. -/
theorem discharge_of_get?_eq_none (hget : state.subscriptions.get? id = none) :
    state.discharge id = state := by
  simp [discharge, dropOne, hget]

/-- Whoever is discharged leaves the table and the count of its module. -/
theorem discharge_of_get?_eq_some {subscription : Subscription}
    (hget : state.subscriptions.get? id = some subscription) :
    state.discharge id =
      { state with
        registry := state.registry.recount subscription.interest.module_ (· - 1)
        subscriptions := state.subscriptions.erase id } := by
  rw [← Registry.release_fst]
  simp [discharge, dropOne, hget, releaseModule]

/-- To unsubscribe nobody changes nothing. -/
theorem unsubscribe_of_get?_eq_none (hget : state.subscriptions.get? id = none) :
    state.unsubscribe id = (state, false) := by
  simp [unsubscribe, hget]

/-- Whoever unsubscribes is discharged and taken off the list of its connection. -/
theorem unsubscribe_of_get?_eq_some {subscription : Subscription}
    (hget : state.subscriptions.get? id = some subscription) :
    state.unsubscribe id =
      ((state.discharge id).detach subscription.interest.connection id, true) := by
  rw [discharge_of_get?_eq_some hget, ← Registry.release_fst]
  simp [unsubscribe, hget, releaseModule, detach]

/-- Removing a subscription leaves everything alone but its entry, the number of clients of its
module, and the connections' lists. -/
structure Leaves (before after : State) : Prop where
  directory : after.directory = before.directory
  last : after.subscriptions.lastId = before.subscriptions.lastId
  subscriptions : ∀ {id subscription}, after.subscriptions.get? id = some subscription →
    before.subscriptions.get? id = some subscription
  modules : ∀ id, (after.registry.get? id).isSome = (before.registry.get? id).isSome

/-- Where nobody leaves everything stays. -/
theorem Leaves.refl (state : State) : state.Leaves state := ⟨rfl, rfl, fun h => h, fun _ => rfl⟩

/-- Those who leave one after the other leave. -/
theorem Leaves.trans {before middle after : State} (hfirst : before.Leaves middle)
    (hlast : middle.Leaves after) : before.Leaves after where
  directory := hlast.directory.trans hfirst.directory
  last := hlast.last.trans hfirst.last
  subscriptions hget := hfirst.subscriptions (hlast.subscriptions hget)
  modules id := (hlast.modules id).trans (hfirst.modules id)

/-- To discharge a subscription is to let it leave. -/
theorem leaves_discharge : state.Leaves (state.discharge id) := by
  cases hget : state.subscriptions.get? id with
  | none =>
    rw [discharge_of_get?_eq_none hget]
    exact .refl state
  | some subscription =>
    rw [discharge_of_get?_eq_some hget]
    refine ⟨rfl, rfl, fun h => (Subscriptions.get?_of_erase h).2, ?_⟩
    intro module_
    rw [Registry.get?_recount]
    split <;> simp

/-- A discharge leaves the connections as they are. -/
@[simp] theorem connections_discharge : (state.discharge id).connections = state.connections := by
  cases hget : state.subscriptions.get? id with
  | none => rw [discharge_of_get?_eq_none hget]
  | some subscription => rw [discharge_of_get?_eq_some hget]

/-- A discharge leaves the queues as they are. -/
theorem outboxes_discharge : (state.discharge id).outboxes = state.outboxes := by
  cases hget : state.subscriptions.get? id with
  | none => rw [discharge_of_get?_eq_none hget]
  | some subscription => rw [discharge_of_get?_eq_some hget]

/-- Only the discharged subscription is gone. -/
theorem get?_subscriptions_discharge {other : SubscriptionId} :
    (state.discharge id).subscriptions.get? other =
      if id = other then none else state.subscriptions.get? other := by
  cases hget : state.subscriptions.get? id with
  | none =>
    rw [discharge_of_get?_eq_none hget]
    split
    · next heq => rw [← heq, hget]
    · rfl
  | some subscription =>
    rw [discharge_of_get?_eq_some hget]
    exact Subscriptions.get?_erase

/-- A discharge keeps the books in order. -/
theorem booked_discharge (hbooked : Booked state.registry state.subscriptions) :
    Booked (state.discharge id).registry (state.discharge id).subscriptions := by
  cases hget : state.subscriptions.get? id with
  | none =>
    rw [discharge_of_get?_eq_none hget]
    exact hbooked
  | some subscription =>
    rw [discharge_of_get?_eq_some hget]
    exact hbooked.erase hget

/-- To unsubscribe is to leave. -/
theorem leaves_unsubscribe : state.Leaves (state.unsubscribe id).1 := by
  cases hget : state.subscriptions.get? id with
  | none =>
    rw [unsubscribe_of_get?_eq_none hget]
    exact .refl state
  | some subscription =>
    rw [unsubscribe_of_get?_eq_some hget]
    have hdischarge : state.Leaves (state.discharge id) := leaves_discharge
    exact ⟨hdischarge.directory, hdischarge.last, hdischarge.subscriptions, hdischarge.modules⟩

/-- Only the subscription that is removed is gone. -/
theorem get?_subscriptions_unsubscribe {other : SubscriptionId} :
    (state.unsubscribe id).1.subscriptions.get? other =
      if id = other then none else state.subscriptions.get? other := by
  rw [← get?_subscriptions_discharge]
  cases hget : state.subscriptions.get? id with
  | none => rw [unsubscribe_of_get?_eq_none hget, discharge_of_get?_eq_none hget]
  | some subscription =>
    rw [unsubscribe_of_get?_eq_some hget]
    rfl

/-- Removing a subscription keeps the books in order. -/
theorem booked_unsubscribe (hbooked : Booked state.registry state.subscriptions) :
    Booked (state.unsubscribe id).1.registry (state.unsubscribe id).1.subscriptions := by
  cases hget : state.subscriptions.get? id with
  | none =>
    rw [unsubscribe_of_get?_eq_none hget]
    exact hbooked
  | some subscription =>
    rw [unsubscribe_of_get?_eq_some hget]
    exact booked_discharge hbooked

/-- Removing a subscription keeps the lists in order. -/
theorem listed_unsubscribe (hlisted : Listed state.connections state.subscriptions) :
    Listed (state.unsubscribe id).1.connections (state.unsubscribe id).1.subscriptions := by
  cases hget : state.subscriptions.get? id with
  | none =>
    rw [unsubscribe_of_get?_eq_none hget]
    exact hlisted
  | some subscription =>
    rw [unsubscribe_of_get?_eq_some hget, discharge_of_get?_eq_some hget]
    exact hlisted.erase hget

/-! ## Forgetting a connection -/

/-- Remove subscriptions one after the other. -/
def dischargeAll (state : State) (ids : List SubscriptionId) : State := ids.foldl discharge state

/-- To drop subscriptions one by one is to discharge them all. -/
theorem foldl_dropOne_fst (ids : List SubscriptionId) (progress : State × Nat) :
    (ids.foldl dropOne progress).1 = progress.1.dischargeAll ids := by
  induction ids generalizing progress with
  | nil => rfl
  | cons id ids ih =>
    rw [List.foldl_cons, ih, dropOne_fst]
    rfl

/-- To discharge any number of subscriptions is to let them leave. -/
theorem leaves_dischargeAll (ids : List SubscriptionId) :
    state.Leaves (state.dischargeAll ids) := by
  induction ids generalizing state with
  | nil => exact .refl state
  | cons id ids ih => exact leaves_discharge.trans ih

/-- However many are discharged, the books stay in order. -/
theorem booked_dischargeAll (ids : List SubscriptionId)
    (hbooked : Booked state.registry state.subscriptions) :
    Booked (state.dischargeAll ids).registry (state.dischargeAll ids).subscriptions := by
  induction ids generalizing state with
  | nil => exact hbooked
  | cons id ids ih => exact ih (booked_discharge hbooked)

/-- However many are discharged, the connections stay as they are. -/
@[simp] theorem connections_dischargeAll (ids : List SubscriptionId) :
    (state.dischargeAll ids).connections = state.connections := by
  induction ids generalizing state with
  | nil => rfl
  | cons id ids ih =>
    have hrest : ((state.discharge id).dischargeAll ids).connections =
        (state.discharge id).connections := ih
    exact hrest.trans connections_discharge

/-- However many are discharged, the queues stay as they are. -/
theorem outboxes_dischargeAll (ids : List SubscriptionId) :
    (state.dischargeAll ids).outboxes = state.outboxes := by
  induction ids generalizing state with
  | nil => rfl
  | cons id ids ih =>
    have hrest : ((state.discharge id).dischargeAll ids).outboxes =
        (state.discharge id).outboxes := ih
    exact hrest.trans outboxes_discharge

/-- Only the discharged subscriptions are gone. -/
theorem get?_subscriptions_dischargeAll (ids : List SubscriptionId) {other : SubscriptionId} :
    (state.dischargeAll ids).subscriptions.get? other =
      if other ∈ ids then none else state.subscriptions.get? other := by
  induction ids generalizing state with
  | nil => simp [dischargeAll]
  | cons id ids ih =>
    have hstep : state.dischargeAll (id :: ids) = (state.discharge id).dischargeAll ids := rfl
    rw [hstep, ih, get?_subscriptions_discharge]
    by_cases heq : id = other
    · simp [heq]
    · have hne : ¬other = id := fun h => heq h.symm
      simp [heq, hne]

/-- To forget a connection that is not tracked changes nothing. -/
theorem forgetConnection_of_get?_eq_none (hget : state.connections.get? connection = none) :
    state.forgetConnection connection = (state, 0) := by
  simp [forgetConnection, hget]

/-- A connection that is forgotten is erased, and the subscriptions that it lists are discharged. -/
theorem forgetConnection_of_get?_eq_some {entry : Connection}
    (hget : state.connections.get? connection = some entry) :
    (state.forgetConnection connection).1 =
      { state with connections := state.connections.erase connection }.dischargeAll
        entry.subscriptions := by
  simp [forgetConnection, hget, foldl_dropOne_fst]

/-- Whoever is on a forgotten connection leaves, and nobody else. -/
theorem leaves_forgetConnection : state.Leaves (state.forgetConnection connection).1 := by
  cases hget : state.connections.get? connection with
  | none =>
    rw [forgetConnection_of_get?_eq_none hget]
    exact .refl state
  | some entry =>
    rw [forgetConnection_of_get?_eq_some hget]
    have hrest : { state with connections := state.connections.erase connection }.Leaves
        ({ state with connections := state.connections.erase connection }.dischargeAll
          entry.subscriptions) := leaves_dischargeAll _
    exact ⟨hrest.directory, hrest.last, hrest.subscriptions, hrest.modules⟩

/-- Forgetting a connection keeps the books in order. -/
theorem booked_forgetConnection (hbooked : Booked state.registry state.subscriptions) :
    Booked (state.forgetConnection connection).1.registry
      (state.forgetConnection connection).1.subscriptions := by
  cases hget : state.connections.get? connection with
  | none =>
    rw [forgetConnection_of_get?_eq_none hget]
    exact hbooked
  | some entry =>
    rw [forgetConnection_of_get?_eq_some hget]
    exact booked_dischargeAll _ hbooked

/-- Forgetting a connection keeps the lists in order. -/
theorem listed_forgetConnection (hlisted : Listed state.connections state.subscriptions) :
    Listed (state.forgetConnection connection).1.connections
      (state.forgetConnection connection).1.subscriptions := by
  cases hget : state.connections.get? connection with
  | none =>
    rw [forgetConnection_of_get?_eq_none hget]
    exact hlisted
  | some entry =>
    rw [forgetConnection_of_get?_eq_some hget, connections_dischargeAll]
    exact hlisted.forget hget fun id => get?_subscriptions_dischargeAll _

/-- The queue of a connection that is forgotten stays where it is. -/
theorem outboxes_forgetConnection :
    (state.forgetConnection connection).1.outboxes = state.outboxes := by
  cases hget : state.connections.get? connection with
  | none => rw [forgetConnection_of_get?_eq_none hget]
  | some entry =>
    rw [forgetConnection_of_get?_eq_some hget]
    exact outboxes_dischargeAll _

/-- Only the forgotten connection is gone. -/
theorem get?_connections_forgetConnection {other : ConnectionId} :
    (state.forgetConnection connection).1.connections.get? other =
      if connection = other then none else state.connections.get? other := by
  cases hget : state.connections.get? connection with
  | none =>
    rw [forgetConnection_of_get?_eq_none hget]
    split
    · next heq => rw [← heq, hget]
    · rfl
  | some entry =>
    rw [forgetConnection_of_get?_eq_some hget, connections_dischargeAll]
    exact Table.get?_erase ..

end State

end MetricsDaemon
