import MetricsDaemon.Handle
import MetricsDaemon.Machine
import MetricsDaemon.Table

/-!
# The host

The surroundings that provider code sees: two clocks, the readings of the machine, the
snapshot that is shared within the process, and how often each method was called.
-/

namespace MetricsDaemon

/-- The surroundings of provider code. -/
structure Host where
  /-- Nanoseconds on the monotonic clock. -/
  now : Nat
  /-- Wall-clock nanoseconds since 1970. -/
  wall : Int
  readings : Readings
  snapshot : Snapshot
  /-- How often each method of each unit was called. -/
  calls : Table (UnitId × String) Nat

namespace Host

/-- Let time pass on the monotonic clock. -/
def advance (host : Host) (millis : Nat) : Host :=
  { host with now := host.now + millis * Nanos.perMilli }

/-- Let the machine report something else. -/
def observe (host : Host) (readings : Readings) : Host := { host with readings := readings }

/-- Refresh the shared snapshot if it is old enough. -/
def refresh (host : Host) : Host :=
  { host with snapshot := host.snapshot.refresh host.readings host.now }

/-- How often a method of a unit was called. -/
def callCount (host : Host) (unit : UnitId) (method : String) : Nat :=
  (host.calls.get? (unit, method)).getD 0

/-- Count one more call of a method. -/
def countCall (host : Host) (unit : UnitId) (method : String) : Host :=
  { host with calls := host.calls.put (unit, method) (host.callCount unit method + 1) }

end Host

end MetricsDaemon
