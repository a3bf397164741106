import MetricsDaemon.Json.Literal
import MetricsDaemon.Settings.Basic
import MetricsDaemon.Text.Utf8

/-!
# Reading settings files

A settings file is one JSON object. A named field must have its type and may stand only
once; of the sections with one name the last counts. What an unknown field of the
listening address holds is never decoded.
-/

namespace MetricsDaemon

open Json (Literal)

/-- Why settings could not be read. -/
inductive SettingsError where
  | unreadable (path : String)
  | malformed (path : String)
  /-- There is no place for a user's settings. -/
  | noDirectory

/-- The text of a settings error. -/
def SettingsError.message : SettingsError → String
  | .unreadable path => "Failed to read settings file: " ++ path
  | .malformed path => "Failed to parse settings file: " ++ path
  | .noDirectory => "Could not determine config directory"

/-- A literal as a string. -/
def stringField? : Literal → Option String
  | .string s => s
  | _ => none

/-- A literal as a string that may be null. -/
def optionalStringField? : Literal → Option (Option String)
  | .null => some none
  | .string (some s) => some (some s)
  | _ => none

/-- A literal as a port number. -/
def portField? : Literal → Option Nat
  | .number (some (.natural n)) => if n < UInt16.size then some n else none
  | _ => none

/-- A literal as a double. -/
def doubleField? : Literal → Option Number.Binary
  | .number (some n) => some n.toDouble
  | _ => none

/-- A literal as a truth value. -/
def boolField? : Literal → Option Bool
  | .bool b => some b
  | _ => none

/-- Fill a field that has no value yet. -/
def fillOnce {α : Type} (field read : Option α) : Option (Option α) :=
  match field, read with
  | none, some value => some (some value)
  | _, _ => none

/-- The fields of a listening address read so far. -/
structure ListenDraft where
  host : Option String
  port : Option Nat

/-- The address with defaults for the missing fields. -/
def ListenDraft.finish (draft : ListenDraft) : Listen :=
  ⟨draft.host.getD Listen.default.host, draft.port.getD Listen.default.port⟩

/-- Take in one member of a listening address. -/
def ListenDraft.take (draft : ListenDraft) (member : Option String × Literal) :
    Option ListenDraft :=
  match member.1 with
  | none => none
  | some key =>
      if key = "host" then
        (fillOnce draft.host (stringField? member.2)).map fun host => ⟨host, draft.port⟩
      else if key = "port" then
        (fillOnce draft.port (portField? member.2)).map fun port => ⟨draft.host, port⟩
      else some draft

/-- A literal as a listening address: an object, or the host and the port in an array. -/
def listenField? : Literal → Option Listen
  | .object members => (members.foldlM ListenDraft.take ⟨none, none⟩).map ListenDraft.finish
  | .array [] => some .default
  | .array [host] => (stringField? host).map fun host => ⟨host, Listen.default.port⟩
  | .array [host, port] => do
      let host ← stringField? host
      let port ← portField? port
      return ⟨host, port⟩
  | _ => none

/-- The fields of a settings file read so far. -/
structure SettingsDraft where
  listen : Option Listen
  password : Option (Option String)
  interval : Option Number.Binary
  pluginDir : Option (Option String)
  builtinModules : Option Bool
  layout : Option (Option String)
  sections : Table String Json

namespace SettingsDraft

/-- Nothing read. -/
def start : SettingsDraft := ⟨none, none, none, none, none, none, .empty⟩

/-- The settings with defaults for the missing fields. -/
def finish (draft : SettingsDraft) : Settings :=
  { listen := draft.listen.getD .default
    password := draft.password.getD none
    interval := draft.interval.getD Settings.defaultInterval
    pluginDir := draft.pluginDir.getD none
    builtinModules := draft.builtinModules.getD true
    layout := draft.layout.getD none
    sections := draft.sections }

/-- Take in a member with a key that is a text. -/
def takeField (draft : SettingsDraft) (key : String) (literal : Literal) : Option SettingsDraft :=
  if key = "listen" then
    (fillOnce draft.listen (listenField? literal)).map fun field => { draft with listen := field }
  else if key = "password" then
    (fillOnce draft.password (optionalStringField? literal)).map fun field =>
      { draft with password := field }
  else if key = "interval" then
    (fillOnce draft.interval (doubleField? literal)).map fun field =>
      { draft with interval := field }
  else if key = "plugin_dir" then
    (fillOnce draft.pluginDir (optionalStringField? literal)).map fun field =>
      { draft with pluginDir := field }
  else if key = "builtin_modules" then
    (fillOnce draft.builtinModules (boolField? literal)).map fun field =>
      { draft with builtinModules := field }
  else if key = "layout" then
    (fillOnce draft.layout (optionalStringField? literal)).map fun field =>
      { draft with layout := field }
  else
    (literal.decode? (Json.nestingLimit - 1)).map fun json =>
      { draft with sections := draft.sections.put key json }

/-- Take in one member. -/
def take (draft : SettingsDraft) (member : Option String × Literal) : Option SettingsDraft :=
  match member.1 with
  | none => none
  | some key => draft.takeField key member.2

end SettingsDraft

namespace Settings

/-- Read the text of a settings file. -/
def parse? (text : String) : Option Settings :=
  match Json.readLiteral? text with
  | some (.object members) =>
      (members.foldlM SettingsDraft.take SettingsDraft.start).map SettingsDraft.finish
  | _ => none

/-- Load settings from the bytes of a file; a missing file has none. -/
def load (path : String) (bytes : Option (List UInt8)) : Except SettingsError Settings :=
  match bytes.bind Text.fromUtf8? with
  | none => .error (.unreadable path)
  | some text =>
      match parse? text with
      | none => .error (.malformed path)
      | some settings => .ok settings

/-- The settings file below a user's configuration directory. -/
def defaultPath (directory : String) : String := directory ++ "/sensd/sensd.json"

/-- Load settings from the default location, where a missing file means default settings. -/
def loadDefault (path : String) (bytes : Option (List UInt8)) : Except SettingsError Settings :=
  match bytes with
  | none => .ok default
  | some bytes => load path (some bytes)

end Settings

end MetricsDaemon
