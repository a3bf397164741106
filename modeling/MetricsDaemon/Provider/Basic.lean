import MetricsDaemon.Argument
import MetricsDaemon.Host
import MetricsDaemon.Text.Quoted
import MetricsDaemon.Value

/-!
# Provider code

Modules are units of provider code. A unit is opened, enrolls its variables while it
initializes, binds method names to callables, and is torn down in the end. Provider
code is described by what it answers and by what it does to the daemon while it runs.
-/

namespace MetricsDaemon

/-- What provider code can do to its surroundings, or what happens to them, while it runs.
Connections go by the names that the provider knows them by. -/
inductive Action where
  /-- Take some milliseconds. -/
  | advance (millis : Nat)
  /-- The machine reports something else from now on. -/
  | observe (readings : Readings)
  /-- Cancel the tick in progress. -/
  | cancel
  /-- Drop a connection. -/
  | drop (peer : String)
  | unsubscribe (id : SubscriptionId)
  | loadBuiltin (name : String)
  | unload (name : String)
  | subscribe (peer id name : String) (arg : Option String) (once : Bool)

/-- How a call ends: the actions it takes first, and its value unless it panics. -/
structure Reaction where
  actions : List Action
  value : Option Value

/-- How an entry point ends. -/
inductive Outcome where
  | ok
  | failed (reason : String)
  | panicked

/-- A variable that a unit offers while it initializes. -/
structure Offer where
  name : String
  method : String
  timeout : Nat
  type : TypeTag

/-- What runs before the variables are offered. -/
structure Hook where
  actions : List Action
  outcome : Outcome

/-- What a unit does when it is initialized: the hook, then the offers (`none` is an offer without a
name or a method), then the status that it reports. -/
structure Enrollment where
  hook : Option Hook
  offers : List (Option Offer)
  status : Outcome

/-- Why a method cannot be bound. -/
inductive BindingError where
  | unknownMethod (module_ method : String)
  | signatureMismatch (method : String)
  | invalidName (method : String)
  deriving DecidableEq, Repr

/-- A method of a unit. -/
structure Method where
  kind : ArgumentKind
  /-- What becomes of an argument on its way into the code. -/
  accept : Argument → Argument
  /-- Whether the code first refreshes the snapshot of the machine. -/
  refreshes : Bool
  /-- The code, given the number of its earlier calls. It sees the host and does not change it. -/
  run : Nat → Argument → Host → Reaction

/-- A method that is handed its argument as it is and leaves the snapshot alone. -/
def Method.direct (kind : ArgumentKind) (run : Nat → Argument → Host → Reaction) : Method :=
  ⟨kind, id, false, run⟩

/-- Where the code of a unit comes from. -/
inductive Provenance where
  /-- Written for the daemon. -/
  | compiled
  /-- Played from a script. -/
  | scripted
  /-- A shared library. -/
  | native
  deriving DecidableEq, Repr

/-- Provider code before it is opened. -/
structure Provider where
  name : String
  provenance : Provenance
  /-- Opening the code panics. -/
  openPanics : Bool
  enrollment : Enrollment
  /-- The method of a name, if it fits the type of a variable. -/
  method : String → TypeTag → Except BindingError Method
  /-- Tearing the unit down panics, after it was reached. -/
  teardownPanics : Bool

/-- What identifies an opened unit. -/
structure UnitTag where
  id : UnitId
  name : String
  provenance : Provenance
  deriving DecidableEq, Repr

/-- An opened unit of provider code. -/
structure ProviderUnit where
  id : UnitId
  provider : Provider

/-- A method of an opened unit, ready to be called. -/
structure Callable where
  owner : UnitTag
  name : String
  method : Method

namespace Callable

/-- The kind of argument that the callable takes. -/
def kind (callable : Callable) : ArgumentKind := callable.method.kind

/-- The argument that the code receives for the text of a subscription. -/
def received (callable : Callable) (raw : Option String) : Argument :=
  callable.method.accept (Argument.coerce callable.kind raw)

/-- The host that the code sees. -/
def prepareHost (callable : Callable) (host : Host) : Host :=
  if callable.method.refreshes then host.refresh else host

/-- Call the code with the text of a subscription. The host counts the call. -/
def invoke (callable : Callable) (raw : Option String) (host : Host) : Host × Reaction :=
  let host := callable.prepareHost host
  let earlier := host.callCount callable.owner.id callable.name
  (host.countCall callable.owner.id callable.name,
    callable.method.run earlier (callable.received raw) host)

/-- A missing argument and an empty one reach the code alike. -/
theorem received_empty (callable : Callable) :
    callable.received (some "") = callable.received none := by
  simp [received, Argument.coerce_empty]

end Callable

namespace ProviderUnit

/-- What identifies the unit. -/
def tag (unit : ProviderUnit) : UnitTag :=
  ⟨unit.id, unit.provider.name, unit.provider.provenance⟩

/-- The name of the module that the unit makes. -/
def name (unit : ProviderUnit) : String := unit.provider.name

/-- Bind a method name for a variable type. -/
def resolve (unit : ProviderUnit) (method : String) (type : TypeTag) :
    Except BindingError Callable :=
  (unit.provider.method method type).map fun code => ⟨unit.tag, method, code⟩

end ProviderUnit

/-- The text of a resolve error. -/
def BindingError.message : BindingError → String
  | .unknownMethod module_ method => "module " ++ module_ ++ " has no method " ++ method
  | .signatureMismatch method => "method " ++ method ++ " does not match the declared signature"
  | .invalidName method => "method name " ++ Text.quoted method ++ " is not a valid symbol"

end MetricsDaemon
