/-!
# Nanoseconds

Instants and spans of time are counted in nanoseconds.
-/

namespace MetricsDaemon.Nanos

/-- The nanoseconds in a millisecond. -/
def perMilli : Nat := 1000000

/-- The nanoseconds in a second. -/
def perSecond : Nat := 1000000000

end MetricsDaemon.Nanos
