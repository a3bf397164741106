import MetricsDaemon.Address
import MetricsDaemon.Provider.Clock
import MetricsDaemon.Provider.Scripted
import MetricsDaemon.Provider.Sys
import MetricsDaemon.Serving

/-!
# The daemon

One run of the daemon from its settings: modules are loaded, then ticks follow each
other until the run is stopped. Reloading throws everything away and begins again with
fresh settings.
-/

namespace MetricsDaemon

namespace Layout

/-- Read the layout at a path; a file that is missing or no text has none. -/
def load? (disk : Disk) (path : String) : Option Layout :=
  ((disk.bytes? path).bind Text.fromUtf8?).map parse

end Layout

/-- Why a daemon could not be set up. -/
inductive SetupError where
  /-- The layout file could not be read. -/
  | layoutUnreadable (path : String)
  /-- A module panicked while it was loaded. -/
  | panicked
  deriving DecidableEq, Repr

/-- The text of a layout that could not be read. -/
def layoutError (path : String) : String := "Failed to read layout: " ++ path

/-- The texts of a setup error, the outermost first. -/
def SetupError.chain : SetupError → List String
  | .layoutUnreadable path => ["Failed to load layout", layoutError path]
  | .panicked => ["Failed to load modules"]

namespace World

/-- A world without modules and connections. -/
def new (host : Host) (disk : Disk) (registry : Registry) : World :=
  { host := host
    state := .new registry
    disk := disk
    peers := .empty
    cancelled := false
    lastUnit := 0 }

/-- Release everything. -/
def shutdown (world : World) : World := world.withState world.state.shutdown

end World

/-- The modules that are built into the daemon. -/
def builtinModules : List (String × Provider) :=
  [("sys", Provider.sys), ("clock", Provider.clock)]

/-- Make the built-in modules available. -/
def Registry.registerBuiltins (registry : Registry) : Registry :=
  builtinModules.foldl (fun registry entry => registry.registerBuiltin entry.1 entry.2) registry

namespace Daemon

/-- The layout that the settings name. -/
def layoutFor (disk : Disk) (settings : Settings) : Except SetupError Layout :=
  match settings.layout with
  | none => .ok .everything
  | some path =>
      match Layout.load? disk path with
      | some layout => .ok layout
      | none => .error (.layoutUnreadable path)

/-- Load the built-in modules and the shared libraries that the settings name. -/
def loadModules (world : World) (settings : Settings) : World × Bool :=
  match world.loadBuiltins with
  | (world, none) => (world, false)
  | (world, some _) =>
      match settings.pluginDir with
      | none => (world, true)
      | some directory =>
          let loaded := world.loadAll directory
          (loaded.1, loaded.2.isSome)

/-- Set up a daemon that does not serve yet. -/
def setUp (host : Host) (disk : Disk) (settings : Settings) : Except SetupError World := do
  let layout ← layoutFor disk settings
  let registry := Registry.new layout settings
  let registry := if settings.builtinModules then registry.registerBuiltins else registry
  let loaded := loadModules (World.new host disk registry) settings
  if loaded.2 then return loaded.1 else throw .panicked

end Daemon

/-- When ticks are due. Moments and spans are in nanoseconds. -/
structure Schedule where
  period : Nat
  nextTick : Nat
  deriving DecidableEq, Repr

namespace Schedule

/-- The schedule whose first tick is due at once. A schedule without a period is none. -/
def begin? (now period : Nat) : Option Schedule :=
  if period = 0 then none else some ⟨period, now⟩

/-- How late a tick may be before the schedule is moved. -/
def tolerance : Nat := 5 * Nanos.perMilli

/-- The longest that a schedule waits for a tick: thirty years of 365 days. -/
def longestWait : Nat := 30 * 365 * 86400 * Nanos.perSecond

/-- The schedule after a tick that ran at a moment. Ticks that are late do not pile up: the next one
comes a whole period later. A tick that would come after the longest wait comes at its end. -/
def afterTick (schedule : Schedule) (now : Nat) : Schedule :=
  let base := if schedule.nextTick + tolerance < now then now else schedule.nextTick
  { schedule with nextTick := min (base + schedule.period) (now + longestWait) }

end Schedule

/-- A daemon that serves clients. -/
structure LiveDaemon where
  world : World
  /-- None if the scheduler has ended. -/
  schedule : Option Schedule

namespace LiveDaemon

/-- Run the ticks that are due, at most a given number of them. -/
def runTicks : Nat → LiveDaemon → LiveDaemon
  | 0, running => running
  | fuel + 1, running =>
      match running.schedule with
      | none => running
      | some schedule =>
          if running.world.host.now < schedule.nextTick then running
          else
            let ticked := running.world.tick
            let next := schedule.afterTick running.world.host.now
            runTicks fuel ⟨ticked.1, ticked.2.map fun _ => next⟩

/-- An upper bound for the number of ticks that are due at one moment. -/
def dueBound (running : LiveDaemon) : Nat :=
  match running.schedule with
  | none => 0
  | some schedule => Schedule.tolerance / schedule.period + 2

/-- Run every tick that is due. -/
def runDue (running : LiveDaemon) : LiveDaemon := runTicks running.dueBound running

/-- Let time pass, then run what is due. -/
def advance (running : LiveDaemon) (millis : Nat) : LiveDaemon :=
  runDue { running with world := running.world.advance millis }

/-- Stop the scheduler and release everything. -/
def stop (running : LiveDaemon) : World := running.world.shutdown

end LiveDaemon

/-- Whether the address can be listened on. -/
def Listen.isListenable (listen : Listen) : Bool :=
  (Address.resolve? listen.host).any Address.isListenable

/-- Why a daemon that is set up does not serve. -/
inductive StartError where
  /-- The address belongs to no host or not to this one. -/
  | addressRefused (address : String)
  /-- The interval is too long to count. -/
  | endlessInterval
  deriving DecidableEq, Repr

/-- The text of an address that cannot be listened on. -/
def addressError (address : String) : String := "Failed to bind " ++ address

namespace Daemon

/-- Start a daemon; its first tick runs at once. -/
def start (world : World) (settings : Settings) : Except StartError LiveDaemon :=
  if settings.listen.isListenable then
    match settings.tickPeriod with
    | none => .error .endlessInterval
    | some period => .ok (LiveDaemon.runDue ⟨world, Schedule.begin? world.host.now period⟩)
  else .error (.addressRefused settings.listen.address)

/-- Try to start a daemon on an address that is refused: everything is released again. -/
def startRefused (world : World) : World := world.shutdown

/-- What a daemon that did not start leaves behind. -/
def afterError (world : World) : StartError → World
  | .addressRefused _ => startRefused world
  | .endlessInterval => world

end Daemon

/-- What a running daemon is told from outside. -/
inductive Signal where
  | reload
  | stop
  deriving DecidableEq, Repr

/-- How the daemon ends. -/
inductive RunEnd where
  | stopped
  | failed (reason : String)
  | panicked
  deriving DecidableEq, Repr

namespace Daemon

/-- One run of the daemon from loaded settings to a signal; `none` if it got that far. -/
def serve? (host : Host) (disk : Disk) (settings : Settings) : Option RunEnd :=
  match setUp host disk settings with
  | .error .panicked => some .panicked
  | .error error => some (.failed (error.chain.headD ""))
  | .ok world =>
      match start world settings with
      | .ok _ => none
      | .error (.addressRefused address) => some (.failed (addressError address))
      | .error .endlessInterval => some .panicked

/-- Serve with one settings after the other until told to stop. The answer is how often settings
were asked for, and how the daemon ended. -/
def run (host : Host) (disk : Disk) (signal : Signal) (exhausted : String) :
    List (Except String Settings) → Nat × RunEnd
  | [] => (1, .failed exhausted)
  | .error reason :: _ => (1, .failed reason)
  | .ok settings :: rest =>
      match serve? host disk settings with
      | some ending => (1, ending)
      | none =>
          match signal with
          | .stop => (1, .stopped)
          | .reload =>
              let done := run host disk signal exhausted rest
              (done.1 + 1, done.2)

end Daemon

end MetricsDaemon
