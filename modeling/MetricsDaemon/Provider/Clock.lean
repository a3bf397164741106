import MetricsDaemon.Calendar.Pattern
import MetricsDaemon.Provider.Declared

/-!
# The clock module

Local and universal time in a pattern that the subscriber chooses, and the date.
-/

namespace MetricsDaemon.Provider

open Calendar

/-- The pattern of the time of day. -/
def timePattern : String := "%H:%M:%S"

/-- The pattern of the date. -/
def datePattern : String := "%Y-%m-%d"

/-- What local time is called in a pattern; local time is universal time. -/
def localZone : String := "+00:00"

/-- What universal time is called in a pattern. -/
def universalZone : String := "UTC"

/-- The last second that dates are counted to. -/
def lastSecond : Int := 8210266876799

/-- Whether the wall clock shows a moment that can be dated: not before 1970. -/
def isDatable (wall : Int) : Bool := 0 ≤ wall && wall / Nanos.perSecond ≤ lastSecond

/-- The wall clock in a pattern; a blank pattern stands for the fallback. A clock that shows no
date makes the call panic. -/
def clockText (zone fallback pattern : String) (host : Host) : Option Value :=
  if isDatable host.wall then
    some (.text (Calendar.format zone fallback pattern (Moment.ofNanos host.wall)))
  else none

/-- A method that formats the wall clock with its argument. -/
def clockMethod (kind : ArgumentKind) (zone fallback : String) : Method :=
  .direct kind fun _ argument host => ⟨[], clockText zone fallback argument.text host⟩

/-- The declarations of the clock module. -/
def clockDeclared : Declared :=
  { name := "clock"
    provenance := .compiled
    offers :=
      [Declared.variableOf "time" 1 2, Declared.variableOf "utime" 1 2,
        Declared.variableOf "date" 60 0]
    methods :=
      [("time", clockMethod .string localZone timePattern),
        ("utime", clockMethod .string universalZone timePattern),
        ("date", clockMethod .none localZone datePattern)]
    hook := none
    openPanics := false
    teardownPanics := false }

/-- The clock module. -/
def clock : Provider := clockDeclared.provider

end MetricsDaemon.Provider
