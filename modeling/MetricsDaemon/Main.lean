import MetricsDaemon.CommandLine
import MetricsDaemon.Daemon
import MetricsDaemon.Machine.Files
import MetricsDaemon.Settings.Reader

/-!
# The program

Reads the command line and the settings, sets the daemon up, and serves one client on
standard input and output. A tick runs before each line is taken in.
-/

namespace MetricsDaemon.Program

/-- The text of a file; empty if it cannot be read. -/
def readText (path : String) : IO String := do
  match ← (IO.FS.readFile path).toBaseIO with
  | .ok text => return text
  | .error _ => return ""

/-- The bytes of a file, if it can be read. -/
def readBytes? (path : String) : IO (Option (List UInt8)) := do
  match ← (IO.FS.readBinFile path).toBaseIO with
  | .ok bytes => return some bytes.toList
  | .error _ => return none

/-- What the machine reports at the moment. -/
def currentReadings : IO Readings := do
  return .ofFiles (← readText "/proc/stat") (← readText "/proc/meminfo")
    (← readText "/proc/uptime") (← readText "/proc/loadavg")

/-- The wall clock, which shows in the time stamp of a new file. -/
def currentWall : IO Int :=
  IO.FS.withTempFile fun _ path => do
    let stamp := (← path.metadata).modified
    return stamp.sec * Nanos.perSecond + stamp.nsec.toNat

/-- The host at the moment. -/
def refreshHost (host : Host) : IO Host := do
  return { host with
    now := ← IO.monoNanosNow
    wall := ← currentWall
    readings := ← currentReadings }

/-- The host before anything was looked at. -/
def firstHost : IO Host := do
  let readings ← currentReadings
  refreshHost
    { now := 0
      wall := 0
      readings := readings
      snapshot := .idle (readings.cpus.length - 1) none
      calls := .empty }

/-- The settings that the command line asks for. -/
def loadSettings (options : Options) : IO (Except SettingsError Settings) := do
  match options.config with
  | some path => return (Settings.load path (← readBytes? path)).map options.override
  | none =>
      match Options.configDirectory? (← IO.getEnv "XDG_CONFIG_HOME") (← IO.getEnv "HOME") with
      | none => return .error .noDirectory
      | some directory =>
          let path := Settings.defaultPath directory
          return (Settings.loadDefault path (← readBytes? path)).map options.override

/-- The files that a daemon with these settings reads itself. -/
def layoutDisk (settings : Settings) : IO Disk := do
  match settings.layout with
  | none => return .empty
  | some path =>
      match ← readBytes? path with
      | some bytes => return Disk.empty.put path (.data bytes)
      | none => return .empty

/-- Write every queued push. -/
def relayAll : Nat → World → Service → World × Service
  | 0, world, service => (world, service)
  | count + 1, world, service =>
      let relayed := service.step world .relayed
      relayAll count relayed.1 relayed.2

/-- Print what was written since the last time. -/
def printWritten (output : IO.FS.Stream) (service : Service) : IO Service := do
  for message in service.written.reverse do
    output.putStr message
  output.flush
  return { service with written := [] }

/-- Serve the client until it leaves. -/
partial def serve (input output : IO.FS.Stream) (world : World) (service : Service) : IO Unit := do
  if service.closed then return
  let line ← input.getLine
  let host ← refreshHost world.host
  let exchanged := service.exchange { world with host := host } (Text.utf8 line)
  let ticked := exchanged.1.tick
  let relayed := relayAll Outbox.defaultCapacity ticked.1 exchanged.2
  serve input output relayed.1 (← printWritten output relayed.2)

/-- Complain and give up. -/
def fail (message : String) : IO UInt32 := do
  (← IO.getStderr).putStrLn message
  return 1

/-- Run with the given settings. -/
def run (settings : Settings) : IO UInt32 := do
  match Daemon.setUp (← firstHost) (← layoutDisk settings) settings with
  | .error error => fail (": ".intercalate error.chain)
  | .ok world =>
      let accepted := Service.accept world settings
      serve (← IO.getStdin) (← IO.getStdout) accepted.1 accepted.2
      return 0

end MetricsDaemon.Program

open MetricsDaemon in
/-- The program. -/
def main (arguments : List String) : IO UInt32 := do
  match Options.none.parse arguments with
  | .error error => Program.fail error.message
  | .ok options =>
      match ← Program.loadSettings options with
      | .error error => Program.fail error.message
      | .ok settings => Program.run settings
