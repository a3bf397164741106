import MetricsDaemon.Number.Reader
import MetricsDaemon.Provider.Declared

/-!
# The system module

Processor usage, memory, uptime and load. A variable that runs on every tick refreshes
the shared snapshot; the figures of processors and memory are read from it.
-/

namespace MetricsDaemon.Provider

open Number (Binary)

/-- A percentage as a level. -/
def percentLevel (percent : Binary) : Value := .ofInt percent.roundToInt64

/-- The usage of one processor; an index that has none stands for all processors. -/
def coreLevel (snapshot : Snapshot) (index : Int) : Value :=
  let core := if index < 0 then none else snapshot.usageOfCore? index.toNat
  percentLevel (core.getD snapshot.globalUsage)

/-- Bytes in a MiB. -/
def mebibyte : Nat := 1024 * 1024

/-- Bytes in a GiB. -/
def gibibyte : Nat := 1024 * mebibyte

/-- A number of bytes in GiB with one decimal, or below that in whole MiB. -/
def showBytes (bytes : Nat) : String :=
  let value := Binary.ofNat Number.double bytes
  if gibibyte ≤ bytes then
    Number.showFixed 1 (.div Number.double value (.ofNat Number.double gibibyte)) ++ "GiB"
  else Number.showFixed 0 (.div Number.double value (.ofNat Number.double mebibyte)) ++ "MiB"

/-- The whole seconds in the text of the uptime file; zero if it does not start with a number. -/
def uptimeSeconds (text : String) : Nat :=
  (Number.readUInt64? (text.toList.takeWhile fun c => c != '.')).getD 0

/-- A time span in days, hours and minutes. -/
def showUptime (seconds : Nat) : String :=
  let days := seconds / 86400
  let hours := Number.showNat (seconds % 86400 / 3600) ++ "h "
  let minutes := Number.showNat (seconds % 3600 / 60) ++ "m"
  if 0 < days then Number.showNat days ++ "d " ++ hours ++ minutes else hours ++ minutes

/-- The averages over one, five and fifteen minutes in the text of the load file. -/
def loadAverages? (text : String) : Option (Binary × Binary × Binary) := do
  match (Text.splitAtEach ' ' (Text.strip text.toList)).take 3 with
  | [one, five, fifteen] =>
      let one ← Number.readDouble? one
      let five ← Number.readDouble? five
      let fifteen ← Number.readDouble? fifteen
      return (one, five, fifteen)
  | _ => none

/-- One load average with two decimals, or all three when the number names none of them. -/
def showLoad (which : Int) (averages : Binary × Binary × Binary) : String :=
  let one := Number.showFixed 2 averages.1
  let five := Number.showFixed 2 averages.2.1
  let fifteen := Number.showFixed 2 averages.2.2
  if which = 1 then one
  else if which = 2 then five
  else if which = 3 then fifteen
  else one ++ " " ++ five ++ " " ++ fifteen

/-- The integer in an argument; methods of the integer kind always receive one. -/
def integerOf : Argument → Int
  | .integer n => n
  | _ => -1

/-- A method that reads the host. -/
def reading (kind : ArgumentKind) (read : Int → Host → Option Value) : Method :=
  .direct kind fun _ argument host => ⟨[], read (integerOf argument) host⟩

/-- The method that refreshes the snapshot. -/
def refreshing : Method := ⟨.none, id, true, fun _ _ _ => ⟨[], some (.text "")⟩⟩

/-- The declarations of the system module. -/
def sysDeclared : Declared :=
  { name := "sys"
    provenance := .compiled
    offers :=
      [Declared.variableOf "sys_refresh" 0 32, Declared.variableOf "cpu" 1 1,
        Declared.variableOf "cpugraph" 1 16, Declared.variableOf "cpucore" 1 5,
        Declared.variableOf "mem" 2 1, Declared.variableOf "memused" 2 0,
        Declared.variableOf "uptime" 60 0, Declared.variableOf "loadavg" 5 4]
    methods :=
      [("sys_refresh", refreshing),
        ("cpu", reading .none fun _ host => some (percentLevel host.snapshot.globalUsage)),
        ("cpugraph", reading .none fun _ host => some (percentLevel host.snapshot.globalUsage)),
        ("cpucore", reading .integer fun index host => some (coreLevel host.snapshot index)),
        ("mem", reading .none fun _ host => some (.ofInt host.snapshot.memoryShare)),
        ("memused", reading .none fun _ host =>
          some (.text (showBytes host.snapshot.usedMemory))),
        ("uptime", reading .none fun _ host =>
          some (.text (showUptime (uptimeSeconds host.readings.uptime)))),
        ("loadavg", reading .integer fun which host =>
          (loadAverages? host.readings.load).map fun averages =>
            .text (showLoad which averages))]
    hook := none
    openPanics := false
    teardownPanics := false }

/-- The system module. -/
def sys : Provider := sysDeclared.provider

end MetricsDaemon.Provider
