import MetricsDaemon.Settings.Basic

/-!
# The command line

Options that choose the settings file and override some of its fields.
-/

namespace MetricsDaemon

/-- What the command line asks for. -/
structure Options where
  config : Option String
  port : Option Nat
  pluginDir : Option String
  verbosity : Nat
  deriving DecidableEq, Repr

/-- Why a command line is not understood. -/
inductive UsageError where
  | unknownArgument (argument : String)
  | missingValue (option : String)
  | badNumber (option value : String)
  deriving DecidableEq, Repr

/-- The text of a usage error. -/
def UsageError.message : UsageError → String
  | .unknownArgument argument => "unexpected argument: " ++ argument
  | .missingValue option => "a value is required for " ++ option
  | .badNumber option value => "invalid value for " ++ option ++ ": " ++ value

namespace Options

/-- The options of an empty command line. -/
def none : Options := ⟨Option.none, Option.none, Option.none, 0⟩

/-- A number below a bound. -/
def boundedNumber (bound : Nat) (option value : String) : Except UsageError Nat :=
  match (Number.readNatural? value.toList).filter fun n => n < bound with
  | some n => .ok n
  | Option.none => .error (.badNumber option value)

/-- Take in an option with its value. -/
def take (options : Options) (option value : String) : Except UsageError Options :=
  if option = "-c" ∨ option = "--config" then .ok { options with config := some value }
  else if option = "-p" ∨ option = "--port" then
    (boundedNumber UInt16.size option value).map fun port => { options with port := some port }
  else if option = "--plugin-dir" then .ok { options with pluginDir := some value }
  else if option = "-d" ∨ option = "--debug" then
    (boundedNumber UInt8.size option value).map fun level => { options with verbosity := level }
  else .error (.unknownArgument option)

/-- Read a command line; every option has a value. -/
def parse : Options → List String → Except UsageError Options
  | options, [] => .ok options
  | _, [option] => .error (.missingValue option)
  | options, option :: value :: rest =>
      match options.take option value with
      | .ok options => parse options rest
      | .error error => .error error

/-- The user's configuration directory: the one that is chosen, if it is absolute, else the usual
one below the home directory. -/
def configDirectory? (chosen home : Option String) : Option String :=
  match chosen.filter fun path => path.toList.head? = some '/' with
  | some path => some path
  | Option.none => (home.filter fun path => path ≠ "").map fun path => path ++ "/.config"

/-- Settings with the fields that the command line overrides. -/
def override (options : Options) (settings : Settings) : Settings :=
  { settings with
    listen := { settings.listen with port := options.port.getD settings.listen.port }
    pluginDir := options.pluginDir.or settings.pluginDir }

end Options

end MetricsDaemon
