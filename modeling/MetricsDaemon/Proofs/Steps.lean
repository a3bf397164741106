import Mathlib.Logic.Relation
import MetricsDaemon.Proofs.Applying

/-!
# Steps of the shared state

Everything that is done to the shared state outside of an application, one critical
section at a time. Each step keeps everything in order, and leaves what is there alone
but for what it takes away: variables and subscriptions that stay keep what they have,
and new ones come with new numbers.
-/

namespace MetricsDaemon.State

/-- One step of anybody who holds the shared state. Without `forced` nobody unloads a module that
some subscription holds. -/
inductive Step (forced : Bool) : State → State → Prop where
  | noted {state : State} (event : Event) :
      Step forced state { state with registry := state.registry.note event }
  | provided {state : State} (name : String) (provider : Provider) :
      Step forced state { state with registry := state.registry.registerBuiltin name provider }
  | gated {state : State} (loading : Bool) : Step forced state { state with loading := loading }
  /-- Clients take lines out of their queues, open new ones and close old ones. -/
  | relayed {state : State} (outboxes : Table OutboxId Outbox) (lastOutbox : Nat) :
      Step forced state { state with outboxes := outboxes, lastOutbox := lastOutbox }
  | connected {state : State} (id : ConnectionId) (last capacity : Nat)
      (hfresh : state.connections.get? id = none) :
      Step forced state ({ state with lastConnection := last }.reconnect id capacity).1
  | installed {state : State} (prepared : Prepared) :
      Step forced state { state with registry := (state.registry.install prepared).1 }
  | subscribed {state : State} (request : Request) : Step forced state (state.subscribe request).1
  | unsubscribed {state : State} (id : SubscriptionId) :
      Step forced state (state.unsubscribe id).1
  | forgotten {state : State} (id : ConnectionId) :
      Step forced state (state.forgetConnection id).1
  | swept {state : State} : Step forced state state.unloadIdle.1
  | stopped {state : State} : Step forced state state.shutdown
  | unloaded {state : State} (id : ModuleId)
      (hfree : forced = true ∨ state.subscriptions.countOn id = 0) :
      Step forced state { state with registry := state.registry.unload id }
  | planned {state : State} (now : Nat) : Step forced state (state.plan now).1

/-- Any number of steps. -/
def Steps (forced : Bool) : State → State → Prop := Relation.ReflTransGen (Step forced)

/-- What stays of the variables and the subscriptions while nothing is applied. A subscription that
stays has the queue that it had. -/
structure Keeps (before after : State) : Prop where
  directory : before.directory.Keeps after.directory
  subscriptions : before.subscriptions.Keeps after.subscriptions
  outboxes : ∀ {id subscription}, after.subscriptions.get? id = some subscription →
    id.number ≤ before.subscriptions.lastId →
    (after.connections.get? subscription.interest.connection).map Connection.outbox =
      (before.connections.get? subscription.interest.connection).map Connection.outbox

variable {forced : Bool} {state before middle after : State} {id : SubscriptionId}
  {subscription : Subscription} {connection : ConnectionId}

/-- What is kept twice in a row is kept. -/
theorem Keeps.trans (hfirst : before.Keeps middle) (hlast : middle.Keeps after) :
    before.Keeps after where
  directory := hfirst.directory.trans hlast.directory
  subscriptions := hfirst.subscriptions.trans hlast.subscriptions
  outboxes := by
    intro id subscription hget hle
    have hlater : id.number ≤ middle.subscriptions.lastId :=
      Nat.le_trans hle hfirst.subscriptions.last
    have hmiddle := hlast.subscriptions.kept hget hlater
    exact (hlast.outboxes hget hlater).trans (hfirst.outboxes hmiddle hle)

/-- A new state is in order. -/
theorem Sound.new (layout : Layout) (settings : Settings) :
    (new (.new layout settings)).Sound forced where
  booked := .empty (.new layout settings) fun _ => rfl
  listed := .empty
  held := fun _ _ _ hget => by cases hget
  settled := fun _ _ hget => by cases hget

/-! ## Steps that leave the subscriptions alone -/

/-- A step that changes neither the registry's tables nor the subscriptions keeps everything. -/
theorem Sound.of_tables_eq (hsound : state.Sound forced)
    (hmodules : after.registry.modules = state.registry.modules)
    (hbyName : after.registry.byName = state.registry.byName)
    (hlast : after.registry.lastId = state.registry.lastId)
    (hdirectory : after.registry.directory = state.registry.directory)
    (hsubscriptions : after.subscriptions = state.subscriptions)
    (hconnections : after.connections = state.connections) : after.Sound forced where
  booked := by
    rw [hsubscriptions]
    exact hsound.booked.of_tables_eq hmodules hbyName hlast hdirectory
  listed := by
    rw [hsubscriptions, hconnections]
    exact hsound.listed
  held := by
    intro hforced id subscription hget
    rw [hsubscriptions] at hget
    rw [Registry.get?, hmodules]
    exact hsound.held hforced hget
  settled := by
    rw [hsubscriptions]
    exact hsound.settled

/-- Whatever leaves the three tables as they are keeps what is there. -/
theorem Keeps.of_tables_eq (hsound : state.Sound forced)
    (hdirectory : after.registry.directory = state.registry.directory)
    (hsubscriptions : after.subscriptions = state.subscriptions)
    (hconnections : after.connections = state.connections) : state.Keeps after where
  directory := by
    rw [State.directory, State.directory, hdirectory]
    exact .refl hsound.booked.modules.directory
  subscriptions := by
    rw [hsubscriptions]
    exact hsound.booked.table.keeps_refl
  outboxes _ _ := by rw [hconnections]

/-- A state keeps what it has. -/
theorem Sound.keeps_refl (hsound : state.Sound forced) : state.Keeps state :=
  .of_tables_eq hsound rfl rfl rfl

/-- A new connection keeps the state in order. -/
theorem Sound.connect {capacity last : Nat} (hsound : state.Sound forced)
    (hfresh : state.connections.get? connection = none) :
    ({ state with lastConnection := last }.reconnect connection capacity).1.Sound forced where
  booked := hsound.booked
  listed := hsound.listed.connect hfresh
  held := hsound.held
  settled := hsound.settled

/-- A connection that was not tracked had no subscriptions. -/
theorem Sound.keeps_connect {capacity last : Nat} (hsound : state.Sound forced)
    (hfresh : state.connections.get? connection = none) :
    state.Keeps ({ state with lastConnection := last }.reconnect connection capacity).1 where
  directory := .refl hsound.booked.modules.directory
  subscriptions := hsound.booked.table.keeps_refl
  outboxes := by
    intro id subscription hget _
    obtain ⟨entry, hentry, _⟩ := hsound.listed.listed hget
    have hput : ({ state with lastConnection := last }.reconnect connection
        capacity).1.connections.get? subscription.interest.connection =
          if connection = subscription.interest.connection then some ⟨⟨state.lastOutbox + 1⟩, []⟩
          else state.connections.get? subscription.interest.connection := Table.get?_put ..
    rw [hput, if_neg]
    rintro rfl
    rw [hfresh] at hentry
    cases hentry

/-- An installation keeps the state in order, whether the module is taken in or turned down. -/
theorem Sound.install (hsound : state.Sound forced) (prepared : Prepared) :
    { state with registry := (state.registry.install prepared).1 : State }.Sound forced where
  booked := hsound.booked.install prepared
  listed := hsound.listed
  held := by
    intro hforced id subscription hget
    obtain ⟨module_, hmodule⟩ := Option.isSome_iff_exists.mp (hsound.held hforced hget)
    have hstays : (state.registry.install prepared).1.get? subscription.interest.module_ =
        some module_ := hsound.booked.modules.get?_install_of_get? hmodule
    exact Option.isSome_iff_exists.mpr ⟨module_, hstays⟩
  settled := hsound.settled

/-- Binding methods keeps the state in order. -/
theorem Sound.binds (hsound : state.Sound forced) (hbinds : state.Binds after) :
    after.Sound forced where
  booked := hbinds.booked hsound.booked
  listed := by
    rw [hbinds.connections, hbinds.subscriptions]
    exact hsound.listed
  held := by
    intro hforced id subscription hget
    rw [hbinds.subscriptions] at hget
    rw [hbinds.get?_registry]
    exact hsound.held hforced hget
  settled := by
    rw [hbinds.subscriptions]
    exact hsound.settled

/-- Binding methods keeps what is there. -/
theorem Sound.keeps_binds (hsound : state.Sound forced) (hbinds : state.Binds after) :
    state.Keeps after where
  directory := hbinds.keeps
  subscriptions := by
    rw [hbinds.subscriptions]
    exact hsound.booked.table.keeps_refl
  outboxes _ _ := by rw [hbinds.connections]

/-! ## Unloading -/

/-- Unloading keeps the state in order, if only modules without subscribers are unloaded or any may
be. -/
theorem Sound.unloadAll {ids : List ModuleId} (hsound : state.Sound forced)
    (hfree : forced = false → ∀ id ∈ ids, state.subscriptions.countOn id = 0) :
    { state with registry := state.registry.unloadAll ids : State }.Sound forced where
  booked := hsound.booked.unloadAll ids
  listed := hsound.listed
  held := by
    intro hforced id subscription hget
    rw [Registry.get?_unloadAll, if_neg]
    · exact hsound.held hforced hget
    · intro hmem
      have hcount := hfree hforced _ hmem
      exact hsound.booked.table.countOn_eq_zero_iff.mp hcount hget rfl
  settled := hsound.settled

/-- Unloading keeps what is there, but for the modules and their variables. -/
theorem Sound.keeps_unloadAll {ids : List ModuleId} (hsound : state.Sound forced) :
    state.Keeps { state with registry := state.registry.unloadAll ids } where
  directory := by
    refine .of_subset (Nat.le_of_eq Registry.lastId_directory_unloadAll.symm)
      hsound.booked.modules.directory ?_
    intro variableId variable_ hget
    exact (hsound.booked.modules.get?_directory_unloadAll_iff.mp hget).1
  subscriptions := hsound.booked.table.keeps_refl
  outboxes _ _ := rfl

/-- A sweep keeps the state in order. -/
theorem Sound.unloadIdle (hsound : state.Sound forced) : state.unloadIdle.1.Sound forced := by
  refine hsound.unloadAll ?_
  intro _ id hmem
  obtain ⟨module_, hget, hclients⟩ := hsound.booked.modules.mem_idleModules_iff.mp hmem
  exact hsound.booked.countOn_of_clients_eq_zero hget hclients

/-! ## Subscribing -/

/-- A subscription on a variable that is bound, on a module that is resident, keeps everything in
order. -/
theorem Sound.addSubscription {request : Request} {variable_ : Variable} {module_ : Module}
    {callable : Callable} {entry : Connection} (hsound : state.Sound forced)
    (hresident : state.registry.get? variable_.module_ = some module_)
    (hvariable : state.directory.get? variable_.id = some variable_)
    (hbinding : variable_.binding = .ready callable)
    (htracked : state.connections.get? request.connection = some entry) :
    (state.addSubscription request variable_).1.Sound forced where
  booked := booked_addSubscription hsound.booked hresident hvariable hbinding
  listed := listed_addSubscription hsound.listed hsound.booked.table htracked
  held := by
    intro hforced id subscription hget
    rw [addSubscription_fst] at hget ⊢
    have hfound : (state.registry.get? subscription.interest.module_).isSome := by
      rw [Subscriptions.get?_insert] at hget
      split at hget
      · cases hget
        exact Option.isSome_iff_exists.mpr ⟨module_, hresident⟩
      · exact hsound.held hforced hget
    rw [Registry.get?_recount]
    split
    · simpa using hfound
    · exact hfound
  settled := by
    intro id subscription hget
    rw [addSubscription_fst, Subscriptions.get?_insert] at hget
    split at hget
    · cases hget
      rfl
    · exact hsound.settled hget

/-- A request keeps the state in order, granted or not. Its variable is read before the method is
bound, but binding keeps what the request reads. -/
theorem Sound.subscribe (hsound : state.Sound forced) (request : Request) :
    (state.subscribe request).1.Sound forced := by
  have hdirectory := hsound.booked.modules.directory
  rcases state.subscribe_cases request with h | ⟨_, unit, _, h⟩ |
    ⟨entry, variable_, unit, callable, hentry, htarget, hcallable, h⟩
  · rw [h]
    exact hsound
  · rw [h]
    exact hsound.binds (binds_bindMethod hdirectory)
  · rw [h]
    have hbound : (state.bindMethod unit variable_.id).1.Sound forced :=
      hsound.binds (binds_bindMethod hdirectory)
    obtain ⟨variableId, module_, _, hvariable, hmodule, _⟩ := target?_eq_some_iff.mp htarget
    have hid : variable_.id = variableId := hdirectory.numbered hvariable
    subst hid
    obtain ⟨found, hfound, hbinding⟩ := bindMethod_snd_eq_some_iff.mp hcallable
    rw [hvariable] at hfound
    cases hfound
    have hsame : ((state.bindMethod unit variable_.id).1.addSubscription request variable_) =
        ((state.bindMethod unit variable_.id).1.addSubscription request
          (variable_.bindWith unit.resolve)) := by
      simp only [State.addSubscription, Variable.id_bindWith, Variable.module_bindWith]
    have hresident : (state.bindMethod unit variable_.id).1.registry.get?
        (variable_.bindWith unit.resolve).module_ = some module_ := by
      rw [get?_registry_bindMethod, Variable.module_bindWith, hmodule]
    have hafter : (state.bindMethod unit variable_.id).1.directory.get?
        (variable_.bindWith unit.resolve).id = some (variable_.bindWith unit.resolve) := by
      rw [directory_bindMethod, Directory.get?_resolve, Variable.id_bindWith, if_pos rfl, hvariable]
      rfl
    have htracked : (state.bindMethod unit variable_.id).1.connections.get? request.connection =
        some entry := by rw [connections_bindMethod, hentry]
    rw [hsame]
    exact hbound.addSubscription hresident hafter hbinding htracked

/-- A request keeps what is there, granted or not. -/
theorem Sound.keeps_subscribe (hsound : state.Sound forced) (request : Request) :
    state.Keeps (state.subscribe request).1 := by
  have hdirectory := hsound.booked.modules.directory
  rcases state.subscribe_cases request with h | ⟨_, unit, _, h⟩ |
    ⟨entry, variable_, unit, callable, _, _, _, h⟩
  · rw [h]
    exact hsound.keeps_refl
  · rw [h]
    exact hsound.keeps_binds (binds_bindMethod hdirectory)
  · rw [h]
    have hbinds : state.Binds (state.bindMethod unit variable_.id).1 := binds_bindMethod hdirectory
    rw [addSubscription_fst]
    refine ⟨hbinds.keeps, ?_, ?_⟩
    · rw [hbinds.subscriptions]
      exact hsound.booked.table.keeps_insert
    · intro id subscription _ _
      rw [hbinds.connections, Table.get?_modify]
      split
      · cases state.connections.get? subscription.interest.connection <;> rfl
      · rfl

/-! ## Leaving -/

/-- Whoever stays when others leave is still on a resident module. -/
theorem Leaves.held (hleaves : before.Leaves after)
    (hheld : Held before.registry before.subscriptions) :
    Held after.registry after.subscriptions := by
  intro id subscription hget
  rw [hleaves.modules]
  exact hheld (hleaves.subscriptions hget)

/-- Nobody is about to be removed just because others leave. -/
theorem Leaves.settled (hleaves : before.Leaves after) (hsettled : Settled before.subscriptions) :
    Settled after.subscriptions :=
  fun _ _ hget => hsettled (hleaves.subscriptions hget)

/-- Those who leave take nothing else away, if the queues of the others stay. -/
theorem Leaves.keeps (hleaves : before.Leaves after) (hsound : before.Sound forced)
    (houtboxes : ∀ {id subscription}, after.subscriptions.get? id = some subscription →
      (after.connections.get? subscription.interest.connection).map Connection.outbox =
        (before.connections.get? subscription.interest.connection).map Connection.outbox) :
    before.Keeps after where
  directory := by
    rw [hleaves.directory]
    exact .refl hsound.booked.modules.directory
  subscriptions := by
    refine ⟨Nat.le_of_eq hleaves.last.symm, fun hget _ => hleaves.subscriptions hget, ?_⟩
    intro id subscription hget hlt
    have hle := hsound.booked.table.le_lastId (hleaves.subscriptions hget)
    omega
  outboxes hget _ := houtboxes hget

/-- Removing a subscription keeps the state in order. -/
theorem Sound.unsubscribe (hsound : state.Sound forced) (id : SubscriptionId) :
    (state.unsubscribe id).1.Sound forced where
  booked := booked_unsubscribe hsound.booked
  listed := listed_unsubscribe hsound.listed
  held hforced := leaves_unsubscribe.held (hsound.held hforced)
  settled := leaves_unsubscribe.settled hsound.settled

/-- Forgetting a connection keeps the state in order. -/
theorem Sound.forgetConnection (hsound : state.Sound forced) (id : ConnectionId) :
    (state.forgetConnection id).1.Sound forced where
  booked := booked_forgetConnection hsound.booked
  listed := listed_forgetConnection hsound.listed
  held hforced := leaves_forgetConnection.held (hsound.held hforced)
  settled := leaves_forgetConnection.settled hsound.settled

/-- Removing a subscription keeps everything else. -/
theorem Sound.keeps_unsubscribe (hsound : state.Sound forced) :
    state.Keeps (state.unsubscribe id).1 := by
  have hroutes : state.Routes (state.unsubscribe id).1 := routes_unsubscribe
  exact leaves_unsubscribe.keeps hsound fun _ => hroutes.connections _

/-- The subscriptions of a connection go with it, so those that stay are on other connections. -/
theorem Sound.keeps_forgetConnection (hsound : state.Sound forced) :
    state.Keeps (state.forgetConnection connection).1 := by
  refine leaves_forgetConnection.keeps hsound ?_
  intro id subscription hget
  have hlisted : Listed (state.forgetConnection connection).1.connections
      (state.forgetConnection connection).1.subscriptions :=
    listed_forgetConnection hsound.listed
  obtain ⟨entry, hentry, _⟩ := hlisted.listed hget
  rw [get?_connections_forgetConnection] at hentry ⊢
  split at hentry
  · cases hentry
  · next hne => rw [if_neg hne]

/-! ## Shutting down -/

/-- Forget connections one after the other. -/
def forgetAll (state : State) (ids : List ConnectionId) : State :=
  ids.foldl (fun state id => (state.forgetConnection id).1) state

/-- However many connections are forgotten, the state stays in order. -/
theorem Sound.forgetAll (hsound : state.Sound forced) (ids : List ConnectionId) :
    (state.forgetAll ids).Sound forced := by
  induction ids generalizing state with
  | nil => exact hsound
  | cons id ids ih => exact ih (hsound.forgetConnection id)

/-- Whoever is on a forgotten connection leaves, and nobody else. -/
theorem leaves_forgetAll (ids : List ConnectionId) : state.Leaves (state.forgetAll ids) := by
  induction ids generalizing state with
  | nil => exact .refl state
  | cons id ids ih => exact leaves_forgetConnection.trans ih

/-- Only the forgotten connections are gone. -/
theorem get?_connections_forgetAll (ids : List ConnectionId) :
    (state.forgetAll ids).connections.get? connection =
      if connection ∈ ids then none else state.connections.get? connection := by
  induction ids generalizing state with
  | nil => simp [forgetAll]
  | cons id ids ih =>
    have hstep : state.forgetAll (id :: ids) = (state.forgetConnection id).1.forgetAll ids := rfl
    rw [hstep, ih, get?_connections_forgetConnection]
    by_cases heq : id = connection
    · simp [heq]
    · have hne : ¬connection = id := fun h => heq h.symm
      simp [heq, hne]

/-- When all connections are forgotten none is left. -/
theorem get?_connections_forgetEvery :
    (state.forgetAll state.connections.keys).connections.get? connection = none := by
  rw [get?_connections_forgetAll]
  split
  · rfl
  · next hnot => exact Table.get?_eq_none_iff.mpr hnot

/-- The state before the modules are unloaded for good. -/
def emptied (state : State) : State :=
  (state.forgetAll state.connections.keys).unsubscribeAll
    (state.forgetAll state.connections.keys).subscriptions.entries.keys

/-- A shutdown forgets all connections and then unloads all modules. -/
theorem shutdown_eq (state : State) : state.shutdown =
    { state.emptied with registry := state.emptied.registry.unloadEvery } := rfl

/-- Everybody leaves when all connections are forgotten. -/
theorem leaves_emptied : state.Leaves state.emptied :=
  (leaves_forgetAll _).trans (leaves_unsubscribeAll _)

/-- No connection is tracked once every connection is forgotten. -/
theorem get?_connections_emptied : state.emptied.connections.get? connection = none := by
  have hroute : (state.emptied.connections.get? connection).map Connection.outbox = none := by
    have hroutes : (state.forgetAll state.connections.keys).Routes state.emptied :=
      routes_unsubscribeAll _
    rw [hroutes.connections, get?_connections_forgetEvery]
    rfl
  exact Option.map_eq_none_iff.mp hroute

/-- Nobody is subscribed once every connection is forgotten. -/
theorem Sound.get?_subscriptions_emptied (hsound : state.Sound forced) :
    state.emptied.subscriptions.get? id = none := by
  have hforgotten : (state.forgetAll state.connections.keys).Sound forced := hsound.forgetAll _
  cases hget : state.emptied.subscriptions.get? id with
  | none => rfl
  | some subscription =>
    have hbefore := (leaves_unsubscribeAll _).subscriptions hget
    rw [hforgotten.listed.get?_eq_none fun _ => get?_connections_forgetEvery] at hbefore
    cases hbefore

/-- A shutdown keeps the state in order. -/
theorem Sound.shutdown (hsound : state.Sound forced) : state.shutdown.Sound forced := by
  have hforgotten : (state.forgetAll state.connections.keys).Sound forced := hsound.forgetAll _
  have hnone (id : SubscriptionId) : state.emptied.subscriptions.get? id = none :=
    hsound.get?_subscriptions_emptied
  have hbooked : Booked state.emptied.registry state.emptied.subscriptions :=
    booked_unsubscribeAll _ hforgotten.booked
  rw [shutdown_eq]
  refine ⟨hbooked.unloadAll _, listed_unsubscribeAll _ hforgotten.listed, ?_, ?_⟩
  · intro _ id subscription hget
    rw [hnone] at hget
    cases hget
  · intro id subscription hget
    rw [hnone] at hget
    cases hget

/-- A shutdown brings nothing new under a number that was in use. -/
theorem Sound.keeps_shutdown (hsound : state.Sound forced) : state.Keeps state.shutdown := by
  have hnone (id : SubscriptionId) : state.emptied.subscriptions.get? id = none :=
    hsound.get?_subscriptions_emptied
  have hbooked : Booked state.emptied.registry state.emptied.subscriptions :=
    booked_unsubscribeAll _ (hsound.forgetAll state.connections.keys).booked
  have hemptied : state.Keeps state.emptied := by
    refine leaves_emptied.keeps hsound ?_
    intro id subscription hget
    rw [hnone] at hget
    cases hget
  refine hemptied.trans ⟨?_, hbooked.table.keeps_refl, fun _ _ => rfl⟩
  refine .of_subset (Nat.le_of_eq Registry.lastId_directory_unloadAll.symm)
    hbooked.modules.directory ?_
  intro variableId variable_ hget
  exact (hbooked.modules.get?_directory_unloadAll_iff.mp hget).1

/-! ## Every step -/

/-- Every step keeps the state in order. -/
theorem Sound.step (hsound : state.Sound forced) (hstep : Step forced state after) :
    after.Sound forced := by
  cases hstep with
  | noted event => exact hsound.of_tables_eq rfl rfl rfl rfl rfl rfl
  | provided name provider => exact hsound.of_tables_eq rfl rfl rfl rfl rfl rfl
  | gated loading => exact hsound.of_tables_eq rfl rfl rfl rfl rfl rfl
  | relayed outboxes lastOutbox => exact hsound.of_tables_eq rfl rfl rfl rfl rfl rfl
  | connected id last capacity hfresh => exact hsound.connect hfresh
  | installed prepared => exact hsound.install prepared
  | subscribed request => exact hsound.subscribe request
  | unsubscribed id => exact hsound.unsubscribe id
  | forgotten id => exact hsound.forgetConnection id
  | swept => exact hsound.unloadIdle
  | stopped => exact hsound.shutdown
  | unloaded id hfree =>
    have hone : (state.registry.unloadAll [id]) = state.registry.unload id := rfl
    rw [← hone]
    refine hsound.unloadAll ?_
    intro hforced other hmem
    rw [List.mem_singleton.mp hmem]
    rcases hfree with hfree | hfree
    · rw [hforced] at hfree
      cases hfree
    · exact hfree
  | planned now => exact hsound.binds (binds_plan hsound.booked.modules.directory)

/-- Every step keeps what is there. -/
theorem Sound.keeps_step (hsound : state.Sound forced) (hstep : Step forced state after) :
    state.Keeps after := by
  cases hstep with
  | noted event => exact .of_tables_eq hsound rfl rfl rfl
  | provided name provider => exact .of_tables_eq hsound rfl rfl rfl
  | gated loading => exact .of_tables_eq hsound rfl rfl rfl
  | relayed outboxes lastOutbox => exact .of_tables_eq hsound rfl rfl rfl
  | connected id last capacity hfresh => exact hsound.keeps_connect hfresh
  | installed prepared =>
    exact ⟨hsound.booked.modules.keeps_install, hsound.booked.table.keeps_refl, fun _ _ => rfl⟩
  | subscribed request => exact hsound.keeps_subscribe request
  | unsubscribed id => exact hsound.keeps_unsubscribe
  | forgotten id => exact hsound.keeps_forgetConnection
  | swept => exact hsound.keeps_unloadAll
  | stopped => exact hsound.keeps_shutdown
  | unloaded id hfree =>
    have hone : (state.registry.unloadAll [id]) = state.registry.unload id := rfl
    rw [← hone]
    exact hsound.keeps_unloadAll
  | planned now => exact hsound.keeps_binds (binds_plan hsound.booked.modules.directory)

/-- However many steps there are, the state stays in order. -/
theorem Sound.steps (hsound : state.Sound forced) (hsteps : Steps forced state after) :
    after.Sound forced := by
  induction hsteps with
  | refl => exact hsound
  | tail _ hstep ih => exact ih.step hstep

/-- However many steps there are, what is there is kept. -/
theorem Sound.keeps_steps (hsound : state.Sound forced) (hsteps : Steps forced state after) :
    state.Keeps after := by
  induction hsteps with
  | refl => exact hsound.keeps_refl
  | tail hsteps hstep ih => exact ih.trans ((hsound.steps hsteps).keeps_step hstep)

end MetricsDaemon.State
