/-!
# Handles

Numbers that stand for the entries of the daemon's tables. Every table counts its
entries from one and never gives a number out twice.
-/

namespace MetricsDaemon

/-- A resident module. -/
structure ModuleId where
  number : Nat
  deriving DecidableEq, Repr

/-- A registered variable. -/
structure VariableId where
  number : Nat
  deriving DecidableEq, Repr

/-- A live subscription. -/
structure SubscriptionId where
  number : Nat
  deriving DecidableEq, Repr

/-- A client connection. -/
structure ConnectionId where
  number : Nat
  deriving DecidableEq, Repr

/-- The queue of lines waiting for one client. -/
structure OutboxId where
  number : Nat
  deriving DecidableEq, Repr

/-- An opened unit of provider code. -/
structure UnitId where
  number : Nat
  deriving DecidableEq, Repr

end MetricsDaemon
