import MetricsDaemon.Text.Blank

/-!
# Commands

The lines that an authenticated client may send, and what is wrong with the lines that
are none.
-/

namespace MetricsDaemon

/-- The type in which a configuration value is asked for. -/
inductive ConfigType where
  | string
  | int
  | double
  | bool
  deriving DecidableEq, Repr

/-- The digit of a configuration type. -/
def ConfigType.digit : ConfigType → Char
  | .string => '0'
  | .int => '1'
  | .double => '2'
  | .bool => '3'

/-- A command of a client. -/
inductive Command where
  | subscribe (id name : String) (arg : Option String) (once : Bool)
  | bye
  | config (id module_ key : String) (type_ : ConfigType)
  deriving DecidableEq, Repr

/-- Why a line is no command. -/
inductive CommandError where
  | unknownCommand (word : String)
  | missingArguments (word : String)
  | malformed (args : String)
  | badConfigType (type_ : String)
  deriving DecidableEq, Repr

/-- The text of a command error. -/
def CommandError.message : CommandError → String
  | .unknownCommand word => "unknown command: " ++ word
  | .missingArguments word => word ++ " needs arguments"
  | .malformed args => "malformed arguments: " ++ args
  | .badConfigType type_ => "unknown config type: " ++ type_

/-- Read the type of a configuration value. -/
def ConfigType.parse (raw : List Char) : Except CommandError ConfigType :=
  match Text.strip raw with
  | ['0'] => .ok .string
  | ['1'] => .ok .int
  | ['2'] => .ok .double
  | ['3'] => .ok .bool
  | other => .error (.badConfigType (String.ofList other))

namespace Command

/-- The argument after the name of a variable; blanks around it do not count. -/
def parseArg (raw : List Char) : Option String :=
  let arg := Text.strip raw
  if arg = [] then none else some (String.ofList arg)

/-- Read the name of a variable and its argument. -/
def parseTarget (rest : List Char) : List Char × Option String :=
  match Text.cutFirst ' ' rest with
  | some (name, arg) => (name, parseArg arg)
  | none => (Text.dropTrailing rest, none)

/-- Read `<id>:<name>[ <arg>]`. -/
def parseSubscribe (once : Bool) (args : List Char) : Except CommandError Command :=
  match Text.cutFirst ':' (Text.dropLeading args) with
  | none => .error (.malformed (String.ofList args))
  | some (id, rest) =>
      let target := parseTarget rest
      if id = [] ∨ target.1 = [] then .error (.malformed (String.ofList args))
      else .ok (.subscribe (String.ofList id) (String.ofList target.1) target.2 once)

/-- Split `<id>:<module>:<key>:<type>`; the key may contain colons. -/
def splitConfig (args : List Char) : Option (List Char × List Char × List Char × List Char) := do
  let (id, rest) ← Text.cutFirst ':' (Text.strip args)
  let (module_, rest) ← Text.cutFirst ':' rest
  let (key, type_) ← Text.cutLast ':' rest
  if id = [] ∨ module_ = [] ∨ key = [] then none else some (id, module_, key, type_)

/-- Read `<id>:<module>:<key>:<type>`. -/
def parseConfig (args : List Char) : Except CommandError Command :=
  match splitConfig args with
  | none => .error (.malformed (String.ofList args))
  | some (id, module_, key, type_) =>
      (ConfigType.parse type_).map fun type_ =>
        .config (String.ofList id) (String.ofList module_) (String.ofList key) type_

/-- Read a command whose first word is cut off. -/
def parseWords (word : List Char) (args : Option (List Char)) : Except CommandError Command :=
  if word = ['v', 'a', 'r'] ∨ word = ['v', 'a', 'r', 'o', 'n', 'c', 'e'] then
    match args with
    | none => .error (.missingArguments "var")
    | some args => parseSubscribe (decide (word ≠ ['v', 'a', 'r'])) args
  else if word = ['b', 'y', 'e'] then .ok .bye
  else if word = ['c', 'f', 'g'] then
    match args with
    | none => .error (.missingArguments "cfg")
    | some args => parseConfig args
  else .error (.unknownCommand (String.ofList word))

/-- Read a command from a line without its terminator. -/
def parse (line : String) : Except CommandError Command :=
  match Text.cutFirst ' ' line.toList with
  | some (word, args) => parseWords word (some args)
  | none => parseWords line.toList none

/-- The line of a command. -/
def render : Command → String
  | .subscribe id name arg once =>
      (if once then "varonce " else "var ") ++ id ++ ":" ++ name ++
        (match arg with
          | some arg => " " ++ arg
          | none => "")
  | .bye => "bye"
  | .config id module_ key type_ =>
      "cfg " ++ id ++ ":" ++ module_ ++ ":" ++ key ++ ":" ++ String.singleton type_.digit

end Command

end MetricsDaemon
