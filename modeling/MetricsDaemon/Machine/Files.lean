import MetricsDaemon.Machine
import MetricsDaemon.Text.Blank

/-!
# Reading the machine's files

The operating system reports processor times and memory in files of lines: a name and
then numbers. Only the lines that the readings are made of are looked at.
-/

namespace MetricsDaemon.Readings

/-- The parts of a line between runs of white space. -/
def fields (line : List Char) : List (List Char) :=
  (Text.splitAtEach ' ' (line.map fun c => if Text.isBlank c then ' ' else c)).filter
    fun part => part ≠ []

/-- The numbers of a line, which stand after its name. -/
def numbers (parts : List (List Char)) : List Nat := parts.tail.filterMap Number.readDigits?

/-- The number at a place of a list; zero past its end. -/
def numberAt (values : List Nat) (index : Nat) : Nat := (values[index]?).getD 0

/-- The times on a processor line: user, nice, system, idle, waiting, and three kinds of
interrupts. -/
def cpuTimes (values : List Nat) : CpuTimes :=
  { work := numberAt values 0 + numberAt values 1 + numberAt values 2 + numberAt values 5 +
      numberAt values 6 + numberAt values 7
    idle := numberAt values 3 + numberAt values 4 }

/-- The processors in a statistics file, in the order of its lines. -/
def cpusOf (statistics : String) : List CpuTimes :=
  (Text.splitAtEach '\n' statistics.toList).filterMap fun line =>
    let parts := fields line
    if ['c', 'p', 'u'].isPrefixOf (parts.headD []) then some (cpuTimes (numbers parts)) else none

/-- The number on the line of a memory file that begins with a name. -/
def memoryOf (name : String) (memory : String) : Nat :=
  ((Text.splitAtEach '\n' memory.toList).findSome? fun line =>
    let parts := fields line
    if parts.head? = some name.toList then (numbers parts).head? else none).getD 0

/-- The readings in the texts of four files. -/
def ofFiles (statistics memory uptime load : String) : Readings :=
  { cpus := cpusOf statistics
    totalMemory := memoryOf "MemTotal:" memory
    availableMemory := memoryOf "MemAvailable:" memory
    uptime := uptime
    load := load }

end MetricsDaemon.Readings
