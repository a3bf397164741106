import MetricsDaemon.Nanos
import MetricsDaemon.Number.Shortest

/-!
# Readings of the machine

What the operating system reports about processors and memory, and a snapshot of it
that many variables share. Usage is a difference of two readings of the processor
counters, so a snapshot is renewed only after a pause.
-/

namespace MetricsDaemon

open Number (Binary)

/-- The time a processor has worked and idled, in ticks since the machine started. -/
structure CpuTimes where
  work : Nat
  idle : Nat
  deriving DecidableEq, Repr

/-- A processor that has not run yet. -/
def CpuTimes.zero : CpuTimes := ⟨0, 0⟩

/-- The whole time of a processor, at most the greatest 64-bit number. -/
def CpuTimes.total (times : CpuTimes) : Nat := min Number.greatestUInt64 (times.work + times.idle)

/-- What the machine reports at the moment. -/
structure Readings where
  /-- All processors taken together, then each of them. -/
  cpus : List CpuTimes
  /-- Installed memory in KiB. -/
  totalMemory : Nat
  /-- Memory that programs can still have, in KiB. -/
  availableMemory : Nat
  /-- The text of the uptime file. -/
  uptime : String
  /-- The text of the load file. -/
  load : String

/-- A machine with a number of processors that has not done anything. -/
def Readings.idle (cores : Nat) : Readings :=
  { cpus := List.replicate (cores + 1) .zero
    totalMemory := 0
    availableMemory := 0
    uptime := "0.00 0.00"
    load := "0.00 0.00 0.00 0/0 0" }

/-- The processors with new times for the first of them; the others report what they did before. -/
def Readings.updateCpus (readings : Readings) (times : List CpuTimes) : List CpuTimes :=
  (times ++ readings.cpus.drop times.length).take readings.cpus.length

/-- The shared figures, and when they were taken. Moments are nanoseconds of the monotonic clock. -/
structure Snapshot where
  counters : List CpuTimes
  countersReadAt : Option Nat
  /-- Usage in percent since the reading before: of all processors, then of each. -/
  usages : List Binary
  /-- Installed memory in bytes. -/
  totalMemory : Nat
  /-- Memory in use in bytes. -/
  usedMemory : Nat
  refreshedAt : Option Nat

namespace Snapshot

/-- The pause between two refreshes in nanoseconds. -/
def pause : Nat := 200 * Nanos.perMilli

/-- The snapshot of an idle machine. -/
def idle (cores : Nat) (takenAt : Option Nat) : Snapshot :=
  { counters := List.replicate (cores + 1) .zero
    countersReadAt := takenAt
    usages := List.replicate (cores + 1) (.zero false)
    totalMemory := 0
    usedMemory := 0
    refreshedAt := takenAt }

/-- The percentage of the time between two readings in which a processor worked, in single
precision. A counter that did not grow counts as no work, or as one tick of time. -/
def usage (before after : CpuTimes) : Binary :=
  let total := after.total - before.total
  let share := Binary.div Number.single (.ofNat Number.single (after.work - before.work))
    (.ofNat Number.single (max 1 total))
  let percent := Binary.mul Number.single share (.ofNat Number.single 100)
  if percent.exceeds 100 then .ofNat Number.single 100 else percent

/-- KiB in bytes, at most the greatest 64-bit number. -/
def kibToBytes (kib : Nat) : Nat := min Number.greatestUInt64 (kib * 1024)

/-- The bytes in use, given the installed and the available ones. The difference is a 64-bit word
and wraps around if more is available than installed. -/
def bytesInUse (total available : Nat) : Nat :=
  (total + (Number.greatestUInt64 + 1) - available) % (Number.greatestUInt64 + 1)

/-- Whether less than the pause has passed since the last refresh. -/
def isRecent (snapshot : Snapshot) (now : Nat) : Bool :=
  snapshot.refreshedAt.any fun then_ => now - then_ < pause

/-- Whether the counters were read so recently that they are not read again. -/
def hasFreshCounters (snapshot : Snapshot) (now : Nat) : Bool :=
  snapshot.countersReadAt.any fun then_ => now - then_ ≤ pause

/-- Read the processor counters and compute the usages since the last reading. -/
def readCounters (snapshot : Snapshot) (readings : Readings) (now : Nat) : Snapshot :=
  if snapshot.hasFreshCounters now then snapshot
  else
    { snapshot with
      counters := readings.cpus
      countersReadAt := some now
      usages := readings.cpus.mapIdx fun index after =>
        usage ((snapshot.counters[index]?).getD .zero) after }

/-- Take all figures anew. -/
def renew (snapshot : Snapshot) (readings : Readings) (now : Nat) : Snapshot :=
  { snapshot.readCounters readings now with
    totalMemory := kibToBytes readings.totalMemory
    usedMemory :=
      bytesInUse (kibToBytes readings.totalMemory) (kibToBytes readings.availableMemory)
    refreshedAt := some now }

/-- Take all figures anew unless that was done recently. -/
def refresh (snapshot : Snapshot) (readings : Readings) (now : Nat) : Snapshot :=
  if snapshot.isRecent now then snapshot else snapshot.renew readings now

/-- The usage of all processors together. -/
def globalUsage (snapshot : Snapshot) : Binary := snapshot.usages.headD (.zero false)

/-- The usage of one processor. -/
def usageOfCore? (snapshot : Snapshot) (index : Nat) : Option Binary := snapshot.usages.tail[index]?

/-- The percentage of the memory that is in use. -/
def memoryShare (snapshot : Snapshot) : Int :=
  if snapshot.totalMemory = 0 then 0
  else
    let scaled := Binary.mul Number.double (.ofNat Number.double snapshot.usedMemory)
      (.ofNat Number.double 100)
    (Binary.div Number.double scaled (.ofNat Number.double snapshot.totalMemory)).roundToInt64

end Snapshot

end MetricsDaemon
