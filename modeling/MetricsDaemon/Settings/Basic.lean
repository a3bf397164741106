import MetricsDaemon.Json.Basic
import MetricsDaemon.Nanos
import MetricsDaemon.Number.Reader
import MetricsDaemon.Table
import MetricsDaemon.Text.Blank
import MetricsDaemon.Text.Lowercase

/-!
# Settings

What a settings file says, and the typed answers that it gives. Named fields configure
the daemon itself; every other top-level object is a section, whose entries answer
questions of the form section, key, type, default.
-/

namespace MetricsDaemon

open Number (Binary)

/-- The address to listen on. -/
structure Listen where
  host : String
  port : Nat

/-- The port used when none is configured. -/
def defaultPort : Nat := 7000

/-- The address used when none is configured. -/
def Listen.default : Listen := ⟨"0.0.0.0", defaultPort⟩

/-- The address as `host:port`. -/
def Listen.address (listen : Listen) : String := listen.host ++ ":" ++ Number.showNat listen.port

/-- The configuration of one run of the daemon. -/
structure Settings where
  listen : Listen
  password : Option String
  interval : Binary
  pluginDir : Option String
  builtinModules : Bool
  layout : Option String
  sections : Table String Json

namespace Settings

/-- The seconds between ticks when none are configured. -/
def defaultInterval : Binary := .ofNat Number.double 1

/-- The settings of an empty file. -/
def default : Settings :=
  { listen := .default
    password := none
    interval := defaultInterval
    pluginDir := none
    builtinModules := true
    layout := none
    sections := .empty }

instance : Inhabited Settings := ⟨default⟩

/-- The password that clients must send; an empty one counts as none. -/
def requiredPassword (settings : Settings) : Option String :=
  settings.password.filter fun password => password ≠ ""

/-- A number of seconds as the nearest whole number of nanoseconds, a tie to the even one; `none`
if the whole seconds do not fit 64 bits. -/
def secondsToNanos? : Binary → Option Nat
  | .finite false significand exponent =>
      let parts := Binary.quotient significand exponent
      let nanos := Number.roundQuotient .toEven (parts.1 * Nanos.perSecond) parts.2
      if nanos / Nanos.perSecond ≤ Number.greatestUInt64 then some nanos else none
  | _ => none

/-- Whether a number of seconds is usable as an interval: finite and positive. -/
def isUsableInterval (interval : Binary) : Bool :=
  interval.isFinite && !interval.isNegative && !interval.isZero

/-- The nanoseconds between ticks. An interval that is not finite and positive is replaced by the
default one; `none` means that the interval is too long to count. -/
def tickPeriod (settings : Settings) : Option Nat :=
  if isUsableInterval settings.interval then secondsToNanos? settings.interval
  else secondsToNanos? defaultInterval

/-- The entry of a section. Of several sections whose names differ only in the case of ASCII
letters, the first decides. -/
def lookup (settings : Settings) (section_ key : String) : Option Json :=
  match settings.sections.entries.find? fun entry =>
      Text.lowercaseAscii entry.1 == Text.lowercaseAscii section_ with
  | some (_, .object members) => Table.get? ⟨members⟩ key
  | _ => none

/-- The text of a truth value. -/
def showBool (b : Bool) : String := if b then "true" else "false"

/-- An entry as a string; numbers and truth values are written out. -/
def getString (settings : Settings) (section_ key fallback : String) : String :=
  match settings.lookup section_ key with
  | some (.string s) => s
  | some (.number n) => n.text
  | some (.bool b) => showBool b
  | _ => fallback

/-- An entry as a signed 64-bit integer; strings are read, truth values count as one and zero. -/
def getInt (settings : Settings) (section_ key : String) (fallback : Int) : Int :=
  match settings.lookup section_ key with
  | some (.number n) => n.toInt64
  | some (.string s) => (Number.readInt64? (Text.strip s.toList)).getD fallback
  | some (.bool b) => if b then 1 else 0
  | _ => fallback

/-- An entry as a double; strings are read, truth values count as one and zero. -/
def getDouble (settings : Settings) (section_ key : String) (fallback : Binary) : Binary :=
  match settings.lookup section_ key with
  | some (.number n) => n.toDouble
  | some (.string s) => (Number.readDouble? (Text.strip s.toList)).getD fallback
  | some (.bool b) => .ofNat Number.double (if b then 1 else 0)
  | _ => fallback

/-- The words for true and false. -/
def readBool? (word : String) : Option Bool :=
  if word = "1" ∨ word = "true" ∨ word = "yes" ∨ word = "on" then some true
  else if word = "0" ∨ word = "false" ∨ word = "no" ∨ word = "off" then some false
  else none

/-- An entry as a truth value; a number is true unless it is zero, a string must be one of the words
for true and false. -/
def getBool (settings : Settings) (section_ key : String) (fallback : Bool) : Bool :=
  match settings.lookup section_ key with
  | some (.bool b) => b
  | some (.number n) => !n.toDouble.isZero
  | some (.string s) => (readBool? (Text.lowercaseAscii (Text.trim s))).getD fallback
  | _ => fallback

end Settings

end MetricsDaemon
