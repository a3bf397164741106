import MetricsDaemon.Handle
import MetricsDaemon.Nanos
import MetricsDaemon.Provider.Basic
import MetricsDaemon.Table

/-!
# The variable directory

Every registered variable with its binding and its samples. Names are unique. A method
is asked for at most once: a binding that failed stays broken. Samples are kept per
argument, and a missing argument is the same as an empty one.
-/

namespace MetricsDaemon

/-- What is known about a variable's method. -/
inductive Binding where
  | unresolved
  | ready (callable : Callable)
  /-- The method could not be bound; the variable stays inert. -/
  | broken

/-- The last evaluation of a variable for one argument. -/
structure Sample where
  checksum : Nat
  evaluatedAt : Nat
  deriving DecidableEq, Repr

/-- A registered variable. -/
structure Variable where
  id : VariableId
  name : String
  method : String
  type : TypeTag
  /-- Seconds between evaluations; zero means every tick. -/
  timeout : Nat
  module_ : ModuleId
  binding : Binding
  samples : Table String Sample

/-- The argument under which samples are kept. -/
def sampleKey (arg : Option String) : String := arg.getD ""

/-- Whether a push is due for a subscription: its value changed, it was never served, or it is
about to be removed. -/
def needsPush (changed first pending : Bool) : Bool := changed || first || pending

namespace Variable

/-- Whether the method could not be bound. -/
def isBroken (variable_ : Variable) : Bool :=
  match variable_.binding with
  | .broken => true
  | _ => false

/-- Whether the variable is evaluated on every tick. -/
def isCron (variable_ : Variable) : Bool := variable_.type.cron

/-- The last sample for an argument. -/
def sampleFor (variable_ : Variable) (arg : Option String) : Option Sample :=
  variable_.samples.get? (sampleKey arg)

/-- The timeout in nanoseconds. -/
def timeoutNanos (variable_ : Variable) : Nat := variable_.timeout * Nanos.perSecond

/-- Whether the timeout for an argument has run out. -/
def isDue (variable_ : Variable) (arg : Option String) (now : Nat) : Bool :=
  if variable_.timeout = 0 then true
  else
    match variable_.sampleFor arg with
    | none => true
    | some sample => variable_.timeoutNanos ≤ now - sample.evaluatedAt

/-- Note an evaluation. -/
def record (variable_ : Variable) (arg : Option String) (now checksum : Nat) : Variable :=
  { variable_ with samples := variable_.samples.put (sampleKey arg) ⟨checksum, now⟩ }

end Variable

/-- All registered variables. -/
structure Directory where
  entries : Table VariableId Variable
  byName : Table String VariableId
  /-- The number of the variable that was registered last. -/
  lastId : Nat

namespace Directory

/-- The directory without variables. -/
def empty : Directory := ⟨.empty, .empty, 0⟩

/-- The variable with a number. -/
def get? (directory : Directory) (id : VariableId) : Option Variable := directory.entries.get? id

/-- The variable of a name. -/
def idOf? (directory : Directory) (name : String) : Option VariableId :=
  directory.byName.get? name

/-- The number of variables. -/
def size (directory : Directory) : Nat := directory.entries.size

/-- A variable that has just been registered. -/
def fresh (id : VariableId) (offer : Offer) (timeout : Nat) (module_ : ModuleId) : Variable :=
  { id := id
    name := offer.name
    method := offer.method
    type := offer.type
    timeout := timeout
    module_ := module_
    binding := .unresolved
    samples := .empty }

/-- Register a variable under the next number, unless its name is taken. -/
def insert (directory : Directory) (offer : Offer) (timeout : Nat) (module_ : ModuleId) :
    Directory × Option VariableId :=
  if directory.byName.contains offer.name then (directory, none)
  else
    let id : VariableId := ⟨directory.lastId + 1⟩
    ({ entries := directory.entries.put id (fresh id offer timeout module_)
       byName := directory.byName.put offer.name id
       lastId := directory.lastId + 1 }, some id)

/-- Forget a variable. -/
def remove (directory : Directory) (id : VariableId) : Directory :=
  match directory.get? id with
  | none => directory
  | some variable_ =>
      { directory with
        entries := directory.entries.erase id
        byName := directory.byName.erase variable_.name }

/-- Forget several variables. -/
def removeAll (directory : Directory) (ids : List VariableId) : Directory :=
  ids.foldl remove directory

/-- What came of binding a variable's method: the callable, and what the module was asked for if
it had to be asked. -/
structure Resolution where
  callable : Option Callable
  asked : Option (String × TypeTag)

/-- The binding that an answer to the question for a method leads to. -/
def bindingOf : Except BindingError Callable → Binding
  | .ok callable => .ready callable
  | .error _ => .broken

/-- The callable of a binding. -/
def callableOf : Binding → Option Callable
  | .ready callable => some callable
  | _ => none

/-- Bind a variable's method; the resolver is asked only the first time. -/
def resolve (directory : Directory) (id : VariableId)
    (resolver : String → TypeTag → Except BindingError Callable) : Directory × Resolution :=
  match directory.get? id with
  | none => (directory, ⟨none, none⟩)
  | some variable_ =>
      match variable_.binding with
      | .ready callable => (directory, ⟨some callable, none⟩)
      | .broken => (directory, ⟨none, none⟩)
      | .unresolved =>
          let binding := bindingOf (resolver variable_.method variable_.type)
          ({ directory with
             entries := directory.entries.put id { variable_ with binding := binding } },
            ⟨callableOf binding, some (variable_.method, variable_.type)⟩)

/-- Whether a checksum differs from that of the last sample. -/
def differs (last : Option Sample) (checksum : Nat) : Bool :=
  last.all fun sample => sample.checksum != checksum

/-- Note an evaluation. The answer is whether the checksum changed; none if the variable is gone. -/
def recordSample (directory : Directory) (id : VariableId) (arg : Option String)
    (now checksum : Nat) : Directory × Option Bool :=
  match directory.get? id with
  | none => (directory, none)
  | some variable_ =>
      ({ directory with entries := directory.entries.put id (variable_.record arg now checksum) },
        some (differs (variable_.sampleFor arg) checksum))

/-- The variables that are evaluated on every tick, by number. -/
def cronIds (directory : Directory) : List VariableId :=
  (directory.entries.values.filter Variable.isCron).map Variable.id

end Directory

end MetricsDaemon
