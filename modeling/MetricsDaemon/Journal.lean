import MetricsDaemon.Handle
import MetricsDaemon.Provider.Basic

/-!
# The journal

What provider code was made to do, newest first. Nothing in the daemon reads it; it is
what the order of calls can be checked against.
-/

namespace MetricsDaemon

/-- A call into provider code, or the answer to a call out of it. -/
inductive Event where
  /-- The code of a unit was opened. -/
  | opened (unit : UnitTag)
  /-- The initialization of a unit was entered; the flag says whether it runs a hook. -/
  | initEntered (unit : UnitTag) (hooked : Bool)
  /-- An offer of a unit was answered. -/
  | offered (unit : UnitTag) (accepted : Bool)
  /-- The initialization of a unit returned, with success or with an error. -/
  | initReturned (unit : UnitTag)
  /-- A unit was asked for the method of a variable. -/
  | methodAsked (unit : UnitTag) (variable_ : VariableId) (method : String)
  /-- A method of a unit was called. -/
  | invoked (unit : UnitTag) (method : String) (argument : Argument)
  | tornDown (unit : UnitTag)
  deriving DecidableEq, Repr

/-- Events, the newest first. -/
abbrev Journal := List Event

end MetricsDaemon
