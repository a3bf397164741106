import MetricsDaemon.Registry.Install
import MetricsDaemon.Subscription

/-!
# The shared state

What connections and scheduler share: the registry, the subscriptions, the connections
with their lists of subscriptions, and the queues of lines that wait for the clients.
Every operation here is one step that nothing interrupts.
-/

namespace MetricsDaemon

/-- The queue of lines for one client. -/
structure Outbox where
  capacity : Nat
  lines : List String
  /-- Whether the client's end still takes lines out. -/
  receiving : Bool
  deriving DecidableEq, Repr

namespace Outbox

/-- An empty queue. -/
def new (capacity : Nat) : Outbox := ⟨capacity, [], true⟩

/-- Whether one more line can be queued. -/
def accepts (outbox : Outbox) : Bool := outbox.receiving && outbox.lines.length < outbox.capacity

/-- Queue a line. -/
def push (outbox : Outbox) (line : String) : Outbox :=
  { outbox with lines := outbox.lines ++ [line] }

end Outbox

/-- The lines queued for one client before it counts as gone. -/
def Outbox.defaultCapacity : Nat := 256

/-- A registered connection. -/
structure Connection where
  outbox : OutboxId
  subscriptions : List SubscriptionId
  deriving DecidableEq, Repr

/-- Everything that connections and scheduler share. -/
structure State where
  registry : Registry
  subscriptions : Subscriptions
  connections : Table ConnectionId Connection
  outboxes : Table OutboxId Outbox
  /-- Whether an on-demand load is in progress; only one may be. -/
  loading : Bool
  /-- The number of the connection that was made last. -/
  lastConnection : Nat
  /-- The number of the queue that was made last. -/
  lastOutbox : Nat

/-- Why a connection was not subscribed to a variable. -/
inductive SubscriptionError where
  | unknownConnection
  | unknownVariable (name : String)
  | unresolvable (name : String)
  | load (name : String) (source : LoadError)
  | interrupted (name : String)
  deriving DecidableEq, Repr

/-- The text of a subscribe error. -/
def SubscriptionError.message : SubscriptionError → String
  | .unknownConnection => "connection is not registered"
  | .unknownVariable name => "unknown variable: " ++ name
  | .unresolvable name => "variable " ++ name ++ " cannot be evaluated"
  | .load name source => "failed to load module for " ++ name ++ ": " ++ source.message
  | .interrupted name => "loading the module for " ++ name ++ " was interrupted"

/-- A wish for a subscription. -/
structure Request where
  connection : ConnectionId
  clientId : String
  name : String
  arg : Option String
  once : Bool
  deriving DecidableEq, Repr

namespace State

/-- The state without modules and connections. -/
def new (registry : Registry) : State := ⟨registry, .empty, .empty, .empty, false, 0, 0⟩

/-- The variables of all resident modules. -/
def directory (state : State) : Directory := state.registry.directory

/-- Put another directory in the place of the present one. -/
def withDirectory (state : State) (directory : Directory) : State :=
  { state with registry := { state.registry with directory := directory } }

/-- Create the queue of a client. -/
def openOutbox (state : State) (capacity : Nat) : State × OutboxId :=
  let id : OutboxId := ⟨state.lastOutbox + 1⟩
  ({ state with outboxes := state.outboxes.put id (.new capacity), lastOutbox := id.number }, id)

/-- Let only some lines wait in a queue. -/
def keepLines (state : State) (id : OutboxId) (lines : List String) : State :=
  { state with
    outboxes := state.outboxes.modify id fun outbox => { outbox with lines := lines } }

/-- Take every line out of a queue. -/
def drainOutbox (state : State) (id : OutboxId) : State × List String :=
  (state.keepLines id [], ((state.outboxes.get? id).map Outbox.lines).getD [])

/-- The client's end of a queue goes away, and the queued lines with it. -/
def closeOutbox (state : State) (id : OutboxId) : State :=
  { state with
    outboxes := state.outboxes.modify id fun outbox =>
      { outbox with lines := [], receiving := false } }

/-- Start tracking a connection; its pushes go to the given queue. -/
def trackConnection (state : State) (id : ConnectionId) (outbox : OutboxId) : State :=
  { state with connections := state.connections.put id ⟨outbox, []⟩ }

/-- Track a connection with an empty queue. One that was tracked before starts without
subscriptions. -/
def reconnect (state : State) (id : ConnectionId) (capacity : Nat) : State × OutboxId :=
  let opened := state.openOutbox capacity
  (opened.1.trackConnection id opened.2, opened.2)

/-- Make a connection with an empty queue. -/
def connect (state : State) (capacity : Nat) : State × ConnectionId × OutboxId :=
  let id : ConnectionId := ⟨state.lastConnection + 1⟩
  let tracked := { state with lastConnection := id.number }.reconnect id capacity
  (tracked.1, id, tracked.2)

/-- Queue a line for a connection. The answer is false if the peer is gone or its queue is full. -/
def send (state : State) (id : ConnectionId) (line : String) : State × Bool :=
  match state.connections.get? id with
  | none => (state, false)
  | some connection =>
      match state.outboxes.get? connection.outbox with
      | none => (state, false)
      | some outbox =>
          if outbox.accepts then
            ({ state with outboxes := state.outboxes.put connection.outbox (outbox.push line) },
              true)
          else (state, false)

/-- Note that a module was asked for the method of a variable, if it was. -/
def noteAsked (state : State) (unit : ProviderUnit) (id : VariableId)
    (asked : Option (String × TypeTag)) : State :=
  match asked with
  | none => state
  | some (method, _) =>
      { state with registry := state.registry.note (.methodAsked unit.tag id method) }

/-- Bind the method of a variable through the unit of its module. -/
def bindMethod (state : State) (unit : ProviderUnit) (id : VariableId) : State × Option Callable :=
  let bound := state.directory.resolve id unit.resolve
  ((state.withDirectory bound.1).noteAsked unit id bound.2.asked, bound.2.callable)

/-- Add a subscription to its connection's list. -/
def attach (state : State) (connection : ConnectionId) (id : SubscriptionId) : State :=
  { state with
    connections := state.connections.modify connection fun entry =>
      { entry with subscriptions := entry.subscriptions ++ [id] } }

/-- Take a subscription off its connection's list. -/
def detach (state : State) (connection : ConnectionId) (id : SubscriptionId) : State :=
  { state with
    connections := state.connections.modify connection fun entry =>
      { entry with subscriptions := entry.subscriptions.filter fun other => other ≠ id } }

/-- The variable of a name with the unit of its module. -/
def target? (state : State) (name : String) : Option (Variable × ProviderUnit) := do
  let id ← state.directory.idOf? name
  let variable_ ← state.directory.get? id
  let module_ ← state.registry.get? variable_.module_
  return (variable_, module_.unit)

/-- Make a subscription on a variable whose method is bound. -/
def addSubscription (state : State) (request : Request) (variable_ : Variable) :
    State × SubscriptionId :=
  let registry := (state.registry.acquire variable_.module_).1
  let inserted := state.subscriptions.insert
    { clientId := request.clientId
      connection := request.connection
      variable_ := variable_.id
      module_ := variable_.module_
      arg := request.arg
      once := request.once }
  (({ state with registry := registry, subscriptions := inserted.1 }).attach request.connection
    inserted.2, inserted.2)

/-- Subscribe a connection to a registered variable. The method is bound at once, so that a variable
that cannot be evaluated is refused. -/
def subscribe (state : State) (request : Request) :
    State × Except SubscriptionError SubscriptionId :=
  if !state.connections.contains request.connection then (state, .error .unknownConnection)
  else
    match state.target? request.name with
    | none => (state, .error (.unknownVariable request.name))
    | some (variable_, unit) =>
        match state.bindMethod unit variable_.id with
        | (state, none) => (state, .error (.unresolvable request.name))
        | (state, some _) =>
            let added := state.addSubscription request variable_
            (added.1, .ok added.2)

/-- Release the client that a subscription was for its module. -/
def releaseModule (state : State) (id : ModuleId) : State :=
  { state with registry := (state.registry.release id).1 }

/-- Remove a subscription. Its module stays, even if nobody else holds it. -/
def unsubscribe (state : State) (id : SubscriptionId) : State × Bool :=
  match state.subscriptions.get? id with
  | none => (state, false)
  | some subscription =>
      let state := { state with subscriptions := state.subscriptions.erase id }
      ((state.detach subscription.interest.connection id).releaseModule
        subscription.interest.module_, true)

/-- Remove one of the subscriptions of a connection that is already forgotten; count it. -/
def dropOne (progress : State × Nat) (id : SubscriptionId) : State × Nat :=
  match progress.1.subscriptions.get? id with
  | none => progress
  | some subscription =>
      (({ progress.1 with subscriptions := progress.1.subscriptions.erase id }).releaseModule
        subscription.interest.module_, progress.2 + 1)

/-- Forget a connection and everything that it subscribed to. The answer is how many subscriptions
were removed. -/
def forgetConnection (state : State) (id : ConnectionId) : State × Nat :=
  match state.connections.get? id with
  | none => (state, 0)
  | some connection =>
      connection.subscriptions.foldl dropOne
        ({ state with connections := state.connections.erase id }, 0)

/-- Unload every module that nobody holds. The answer is how many left. -/
def unloadIdle (state : State) : State × Nat :=
  let swept := state.registry.unloadIdle
  ({ state with registry := swept.1 }, swept.2)

/-- The subscriptions of a connection. -/
def subscriptionsOf (state : State) (id : ConnectionId) : List SubscriptionId :=
  ((state.connections.get? id).map Connection.subscriptions).getD []

/-- Release every connection, every subscription and every module. -/
def shutdown (state : State) : State :=
  let state := state.connections.keys.foldl (fun state id => (state.forgetConnection id).1) state
  let state := state.subscriptions.entries.keys.foldl
    (fun state id => (state.unsubscribe id).1) state
  { state with registry := state.registry.unloadEvery }

/-- Whether a variable of this name is registered. -/
def isRegistered (state : State) (name : String) : Bool :=
  (state.directory.idOf? name).isSome

/-- Where to load the module of a variable from, if the variable is catalogued but not registered.
-/
def missingOrigin (state : State) (name : String) : Option Origin :=
  if state.isRegistered name then none else state.registry.originOf name

/-- Whether some connection still sends to a queue. -/
def hasSender (state : State) (id : OutboxId) : Bool :=
  state.connections.values.any fun connection => connection.outbox == id

/-- Whether a queue can carry another line some time: both of its ends are there. -/
def isOutboxOpen (state : State) (id : OutboxId) : Bool :=
  (state.outboxes.get? id).any Outbox.receiving && state.hasSender id

end State

end MetricsDaemon
