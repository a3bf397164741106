import MetricsDaemon.Proofs.Conduct
import MetricsDaemon.Proofs.Gathering

/-!
# Operations of others

What others do to the shared state can be written down, so that the same can be done to
another state. Two states that differ in what was bound before go on doing so, whatever
is done to both of them.
-/

namespace MetricsDaemon

open Relation (ReflTransGen)

/-- Something that is done to the shared state, other than planning and applying a tick. -/
inductive Operation where
  | note (event : Event)
  | provide (name : String) (provider : Provider)
  | gate (loading : Bool)
  /-- Clients take lines out of their queues, open new ones and close old ones. -/
  | relay (change : Table OutboxId Outbox → Table OutboxId Outbox) (lastOutbox : Nat)
  | connect (id : ConnectionId) (last capacity : Nat)
  | install (prepared : Prepared)
  | subscribe (request : Request)
  | unsubscribe (id : SubscriptionId)
  | forget (id : ConnectionId)
  | sweep
  | stop
  | unload (id : ModuleId)

namespace Operation

/-- What the operation does to a state. -/
def on (state : State) : Operation → State
  | .note event => { state with registry := state.registry.note event }
  | .provide name provider =>
      { state with registry := state.registry.registerBuiltin name provider }
  | .gate loading => { state with loading := loading }
  | .relay change lastOutbox =>
      { state with outboxes := change state.outboxes, lastOutbox := lastOutbox }
  | .connect id last capacity => ({ state with lastConnection := last }.reconnect id capacity).1
  | .install prepared => { state with registry := (state.registry.install prepared).1 }
  | .subscribe request => (state.subscribe request).1
  | .unsubscribe id => (state.unsubscribe id).1
  | .forget id => (state.forgetConnection id).1
  | .sweep => state.unloadIdle.1
  | .stop => state.shutdown
  | .unload id => { state with registry := state.registry.unload id }

/-- Whether provider code does such a thing when it acts. -/
def isAction : Operation → Bool
  | .note _ | .install _ | .subscribe _ | .unsubscribe _ | .forget _ | .unload _ => true
  | _ => false

end Operation

namespace State

variable {plain bound state after : State} {connection : ConnectionId}
  {now : Nat} {request : Request}

/-- The state after some operations. -/
def undergo (state : State) (operations : List Operation) : State :=
  operations.foldl Operation.on state

/-- Two rows of operations are undergone one after the other. -/
theorem undergo_append (state : State) (first second : List Operation) :
    state.undergo (first ++ second) = (state.undergo first).undergo second := List.foldl_append

/-- Whatever provider code does is a list of operations. -/
theorem exists_operations (hreaches : ReflTransGen
      (fun before after => ∃ operation : Operation, operation.isAction = true ∧
        after = operation.on before) state after) :
    ∃ operations : List Operation, (∀ operation ∈ operations, operation.isAction = true) ∧
      state.undergo operations = after := by
  induction hreaches with
  | refl => exact ⟨[], by simp, rfl⟩
  | tail _ hstep ih =>
    obtain ⟨operations, hactions, rfl⟩ := ih
    obtain ⟨operation, haction, rfl⟩ := hstep
    refine ⟨operations ++ [operation], ?_, undergo_append ..⟩
    intro other hmem
    rcases List.mem_append.mp hmem with hmem | hmem
    · exact hactions other hmem
    · rwa [List.mem_singleton.mp hmem]

/-- Whatever provider code does to the shared state is an operation. -/
theorem admits_action : World.Admits true fun before after =>
    ∃ operation : Operation, operation.isAction = true ∧ after = operation.on before where
  noted _ event := ⟨.note event, rfl, rfl⟩
  installed _ prepared := ⟨.install prepared, rfl, rfl⟩
  subscribed _ request := ⟨.subscribe request, rfl, rfl⟩
  unsubscribed _ id := ⟨.unsubscribe id, rfl, rfl⟩
  forgotten _ id := ⟨.forget id, rfl, rfl⟩
  unloaded _ id _ := ⟨.unload id, rfl, rfl⟩

/-! ## Every operation keeps the registry sound -/

/-- Whoever acts keeps the registry in order. -/
theorem Acted.sound {unloads : Bool} (hacted : state.Acted unloads after)
    (hsound : state.registry.Sound) : after.registry.Sound := hsound.acts hacted.registry

/-- An operation keeps the registry in order. -/
theorem sound_on (hsound : state.registry.Sound) (operation : Operation) :
    (operation.on state).registry.Sound := by
  cases operation with
  | note | provide => exact hsound.of_tables_eq rfl rfl rfl rfl
  | gate | relay | connect => exact hsound
  | install prepared => exact hsound.install
  | subscribe request => exact (acted_subscribe hsound.directory request).sound hsound
  | unsubscribe id => exact acted_unsubscribe.sound hsound
  | forget id => exact acted_forgetConnection.sound hsound
  | sweep => exact hsound.unloadAll
  | stop => exact acted_shutdown.sound hsound
  | unload id => exact hsound.unload

/-- However many operations there are, the registry stays in order. -/
theorem sound_undergo (hsound : state.registry.Sound) (operations : List Operation) :
    (state.undergo operations).registry.Sound := by
  induction operations generalizing state with
  | nil => exact hsound
  | cons operation rest ih => exact ih (sound_on hsound operation)

/-- A plan keeps the registry in order. -/
theorem sound_plan (hsound : state.registry.Sound) (now : Nat) :
    (state.plan now).1.registry.Sound := (acted_plan now).sound hsound

/-! ## Leaving -/

/-- States stay prebound when a subscription is discharged in both. -/
theorem Prebinds.discharge (hbound : plain.Prebinds bound) (id : SubscriptionId) :
    (plain.discharge id).Prebinds (bound.discharge id) := by
  cases hget : plain.subscriptions.get? id with
  | none =>
    rw [discharge_of_get?_eq_none hget,
      discharge_of_get?_eq_none (by rw [hbound.subscriptions, hget])]
    exact hbound
  | some subscription =>
    rw [discharge_of_get?_eq_some hget,
      discharge_of_get?_eq_some (by rw [hbound.subscriptions, hget])]
    obtain ⟨registry, rfl, hregistry⟩ := hbound
    have hcounted : (plain.registry.recount subscription.interest.module_ (· - 1)).Prebinds
        (registry.recount subscription.interest.module_ (· - 1)) := hregistry.recount
    exact ⟨_, rfl, hcounted⟩

/-- States stay prebound when the same subscriptions are discharged in both. -/
theorem Prebinds.dischargeAll (hbound : plain.Prebinds bound) (ids : List SubscriptionId) :
    (plain.dischargeAll ids).Prebinds (bound.dischargeAll ids) := by
  induction ids generalizing plain bound with
  | nil => exact hbound
  | cons id ids ih => exact ih (hbound.discharge id)

/-- States stay prebound when a subscription is removed from both, with the same answer. -/
theorem Prebinds.unsubscribe (hbound : plain.Prebinds bound) (id : SubscriptionId) :
    (plain.unsubscribe id).1.Prebinds (bound.unsubscribe id).1 ∧
      (bound.unsubscribe id).2 = (plain.unsubscribe id).2 := by
  cases hget : plain.subscriptions.get? id with
  | none =>
    rw [unsubscribe_of_get?_eq_none hget,
      unsubscribe_of_get?_eq_none (by rw [hbound.subscriptions, hget])]
    exact ⟨hbound, rfl⟩
  | some subscription =>
    rw [unsubscribe_of_get?_eq_some hget,
      unsubscribe_of_get?_eq_some (by rw [hbound.subscriptions, hget])]
    obtain ⟨registry, hsame, hregistry⟩ := hbound.discharge id
    rw [hsame]
    exact ⟨⟨registry, rfl, hregistry⟩, rfl⟩

/-- States stay prebound when the same subscriptions are removed from both. -/
theorem Prebinds.unsubscribeAll (hbound : plain.Prebinds bound) (ids : List SubscriptionId) :
    (plain.unsubscribeAll ids).Prebinds (bound.unsubscribeAll ids) := by
  induction ids generalizing plain bound with
  | nil => exact hbound
  | cons id ids ih => exact ih (hbound.unsubscribe id).1

/-- States stay prebound when a connection is forgotten in both. -/
theorem Prebinds.forgetConnection (hbound : plain.Prebinds bound) :
    (plain.forgetConnection connection).1.Prebinds (bound.forgetConnection connection).1 := by
  cases hget : plain.connections.get? connection with
  | none =>
    rw [forgetConnection_of_get?_eq_none hget,
      forgetConnection_of_get?_eq_none (by rw [hbound.connections, hget])]
    exact hbound
  | some entry =>
    rw [forgetConnection_of_get?_eq_some hget,
      forgetConnection_of_get?_eq_some (by rw [hbound.connections, hget])]
    have herased : { plain with connections := plain.connections.erase connection }.Prebinds
        { bound with connections := bound.connections.erase connection } := by
      obtain ⟨registry, rfl, hregistry⟩ := hbound
      exact ⟨registry, rfl, hregistry⟩
    exact herased.dischargeAll _

/-- States stay prebound when the same connections are forgotten in both. -/
theorem Prebinds.forgetAll (hbound : plain.Prebinds bound) (ids : List ConnectionId) :
    (plain.forgetAll ids).Prebinds (bound.forgetAll ids) := by
  induction ids generalizing plain bound with
  | nil => exact hbound
  | cons id ids ih => exact ih hbound.forgetConnection

/-! ## Unloading -/

/-- States stay prebound when the same modules are unloaded in both. -/
theorem Prebinds.unloadAll (hbound : plain.Prebinds bound) (hsound : plain.registry.Sound)
    (ids : List ModuleId) :
    { plain with registry := plain.registry.unloadAll ids : State }.Prebinds
      { bound with registry := bound.registry.unloadAll ids } := by
  obtain ⟨_, rfl, hregistry⟩ := hbound
  exact ⟨_, rfl, hregistry.unloadAll ids hsound⟩

/-- Nobody holds the same modules. -/
theorem Prebinds.idleModules (hbound : plain.Prebinds bound) :
    bound.registry.idleModules = plain.registry.idleModules := by
  rw [Registry.idleModules, Registry.idleModules, hbound.registry.modules]

/-- States stay prebound when the idle modules are unloaded in both, which are the same. -/
theorem Prebinds.unloadIdle (hbound : plain.Prebinds bound) (hsound : plain.registry.Sound) :
    plain.unloadIdle.1.Prebinds bound.unloadIdle.1 ∧ bound.unloadIdle.2 = plain.unloadIdle.2 := by
  refine ⟨?_, congrArg List.length hbound.idleModules⟩
  have hsame : bound.unloadIdle.1 =
      { bound with registry := bound.registry.unloadAll plain.registry.idleModules } := by
    rw [← hbound.idleModules]
    rfl
  rw [hsame]
  exact hbound.unloadAll hsound _

/-- States stay prebound when both shut down. -/
theorem Prebinds.shutdown (hbound : plain.Prebinds bound) (hsound : plain.registry.Sound) :
    plain.shutdown.Prebinds bound.shutdown := by
  have hemptied : plain.emptied.Prebinds bound.emptied := by
    have hforgotten : (plain.forgetAll plain.connections.keys).Prebinds
        (bound.forgetAll bound.connections.keys) := by
      rw [hbound.connections]
      exact hbound.forgetAll _
    rw [emptied, emptied, hforgotten.subscriptions]
    exact hforgotten.unsubscribeAll _
  have hleft : plain.emptied.registry.Sound := by
    have hacted : plain.Acted false plain.emptied :=
      (acted_forgetAll _).trans (acted_unsubscribeAll _)
    exact hacted.sound hsound
  rw [shutdown_eq, shutdown_eq, Registry.unloadEvery_eq, Registry.unloadEvery_eq,
    hemptied.registry.modules]
  exact hemptied.unloadAll hleft _

/-! ## Subscribing -/

/-- The same variable is found, up to its binding. -/
theorem Prebinds.target? (hbound : plain.Prebinds bound) (name : String) :
    (bound.target? name).map (fun target => (target.1.profile, target.2)) =
      (plain.target? name).map fun target => (target.1.profile, target.2) := by
  rw [State.target?, State.target?, hbound.directory.idOf?]
  cases plain.directory.idOf? name with
  | none => rfl
  | some variableId =>
    cases hvariable : plain.directory.get? variableId with
    | none => simp [hvariable, hbound.directory.get?_eq_none_iff.mpr hvariable]
    | some variable_ =>
      obtain ⟨found, hfound, hahead⟩ := hbound.directory.ahead hvariable
      cases hmodule : plain.registry.get? variable_.module_ <;>
        simp [hvariable, hfound, hbound.registry.get?, hahead.module, hahead.profile, hmodule]

/-- States stay prebound when both get the same request. -/
theorem Prebinds.subscribe (hbound : plain.Prebinds bound) (hsound : plain.directory.Sound) :
    (plain.subscribe request).1.Prebinds (bound.subscribe request).1 := by
  have htargets := hbound.target? request.name
  have hconnections : bound.connections.contains request.connection =
      plain.connections.contains request.connection := by rw [hbound.connections]
  cases hcontains : plain.connections.contains request.connection with
  | false =>
    rw [hcontains] at hconnections
    rw [subscribe_of_untracked hcontains, subscribe_of_untracked hconnections]
    exact hbound
  | true =>
    rw [hcontains] at hconnections
    cases htarget : plain.target? request.name with
    | none =>
      rw [htarget, Option.map_none, Option.map_eq_none_iff] at htargets
      rw [subscribe_of_unknown hcontains htarget, subscribe_of_unknown hconnections htargets]
      exact hbound
    | some target =>
      obtain ⟨variable_, _⟩ := target
      rw [htarget, Option.map_some] at htargets
      obtain ⟨⟨found, unit⟩, hfound, hsame⟩ := Option.map_eq_some_iff.mp htargets
      obtain ⟨hprofile, rfl⟩ := Prod.mk.inj hsame
      have hid : found.id = variable_.id := Variable.id_eq_of_profile_eq hprofile
      have howns : plain.registry.Owns unit variable_.id := by
        obtain ⟨variableId, module_, _, hvariable, hmodule, rfl⟩ := target?_eq_some_iff.mp htarget
        rw [hsound.numbered hvariable]
        exact Registry.owns_of_get? hvariable hmodule
      have hbinds := hbound.bindMethod howns
      have hcallable := hbound.callable_bindMethod howns
      rw [← hid] at hcallable
      cases hbind : (plain.bindMethod unit variable_.id).2 with
      | none =>
        rw [subscribe_of_unbound hcontains htarget hbind,
          subscribe_of_unbound hconnections hfound (by rw [hcallable, hid, hbind]), hid]
        exact hbinds
      | some callable =>
        have hinterest : request.interest found = request.interest variable_ := by
          rw [Request.interest, Request.interest, hid, Variable.module_eq_of_profile_eq hprofile]
        rw [subscribe_of_bound hcontains htarget hbind,
          subscribe_of_bound hconnections hfound (by rw [hcallable, hid, hbind]), hid,
          addSubscription_fst, addSubscription_fst, hinterest,
          Variable.module_eq_of_profile_eq hprofile]
        obtain ⟨registry, hregistry, hahead⟩ := hbinds
        rw [hregistry]
        have hcounted : ((plain.bindMethod unit variable_.id).1.registry.recount
            variable_.module_ (· + 1)).Prebinds (registry.recount variable_.module_ (· + 1)) :=
          hahead.recount
        exact ⟨_, rfl, hcounted⟩

/-! ## Every operation -/

/-- Whatever is done to both states, they differ in what was bound before. -/
theorem Prebinds.on (hbound : plain.Prebinds bound) (hsound : plain.registry.Sound)
    (operation : Operation) : (operation.on plain).Prebinds (operation.on bound) := by
  cases operation with
  | subscribe request => exact hbound.subscribe hsound.directory
  | unsubscribe id => exact (hbound.unsubscribe id).1
  | forget id => exact hbound.forgetConnection
  | sweep => exact (hbound.unloadIdle hsound).1
  | stop => exact hbound.shutdown hsound
  | note event =>
    obtain ⟨_, rfl, hregistry⟩ := hbound
    exact ⟨_, rfl, hregistry.note event⟩
  | provide name provider =>
    obtain ⟨_, rfl, hregistry⟩ := hbound
    exact ⟨_, rfl, hregistry.registerBuiltin name provider⟩
  | gate | relay | connect =>
    obtain ⟨registry, rfl, hregistry⟩ := hbound
    exact ⟨registry, rfl, hregistry⟩
  | install prepared =>
    obtain ⟨_, rfl, hregistry⟩ := hbound
    exact ⟨_, rfl, hregistry.install hsound⟩
  | unload id =>
    obtain ⟨_, rfl, hregistry⟩ := hbound
    exact ⟨_, rfl, hregistry.unload hsound⟩

/-- States stay prebound whatever both undergo. -/
theorem Prebinds.undergo (hbound : plain.Prebinds bound) (hsound : plain.registry.Sound)
    (operations : List Operation) :
    (plain.undergo operations).Prebinds (bound.undergo operations) := by
  induction operations generalizing plain bound with
  | nil => exact hbound
  | cons operation rest ih => exact ih (hbound.on hsound operation) (sound_on hsound operation)

end State

end MetricsDaemon
