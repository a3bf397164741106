import MetricsDaemon.Disk

/-!
# Load errors

Why a module could not be brought into the registry.
-/

namespace MetricsDaemon

/-- Where the code of a module comes from, so that it can be loaded again. -/
inductive Origin where
  /-- A built-in module, by the name that the caller used. -/
  | builtin (name : String)
  | file (path : String)
  deriving DecidableEq, Repr

/-- The text of an origin. -/
def Origin.text : Origin → String
  | .builtin name => "builtin:" ++ name
  | .file path => path

/-- Why a file is no module. -/
inductive OpenFailure where
  /-- The file is no shared library. -/
  | notALibrary
  /-- The library has no name. -/
  | nullName
  deriving DecidableEq, Repr

/-- Why a module was not loaded. -/
inductive LoadError where
  | notFound (path : String)
  | openFailed (path : String) (failure : OpenFailure)
  | missingSymbols (path : String) (symbols : List String)
  | alreadyLoaded (name : String)
  | initFailed (name reason : String)
  | unused (name : String)
  | unknownBuiltin (name : String)
  deriving DecidableEq, Repr

/-- Texts with commas between them. -/
def commaSeparated (texts : List String) : String := ", ".intercalate texts

/-- The text of an open failure. -/
def OpenFailure.reason : OpenFailure → String
  | .notALibrary => "not a shared library"
  | .nullName => "module name is null"

/-- The text of a load error. -/
def LoadError.message : LoadError → String
  | .notFound path => "module file not found: " ++ path
  | .openFailed path failure => "failed to open module " ++ path ++ ": " ++ failure.reason
  | .missingSymbols path symbols =>
      "module " ++ path ++ " is missing required symbols: " ++ commaSeparated symbols
  | .alreadyLoaded name => "module " ++ name ++ " is already loaded"
  | .initFailed name reason => "module " ++ name ++ " failed to initialize: " ++ reason
  | .unused name => "module " ++ name ++ " registered no used variables"
  | .unknownBuiltin name => "unknown built-in module: " ++ name

/-- How a load ends without a module: it is refused with an error, or provider code panicked. -/
inductive LoadFault where
  | refused (error : LoadError)
  | panicked
  deriving DecidableEq, Repr

namespace Disk

/-- The provider in the file at a path. -/
def openLibrary (disk : Disk) (path : String) : Except LoadError Provider :=
  match disk.node? path with
  | some (.library image lacking) =>
      if lacking ≠ [] then .error (.missingSymbols path (lacking.map EntryPoint.symbol))
      else
        match image.provider? with
        | none => .error (.openFailed path .nullName)
        | some provider => .ok provider
  | _ => .error (.openFailed path .notALibrary)

/-- The provider in the file at a path that must exist. -/
def findProvider (disk : Disk) (path : String) : Except LoadError Provider :=
  if (disk.node? path).isNone then .error (.notFound path) else disk.openLibrary path

end Disk

end MetricsDaemon
