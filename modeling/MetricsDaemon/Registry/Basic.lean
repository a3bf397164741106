import MetricsDaemon.Directory
import MetricsDaemon.Journal
import MetricsDaemon.Layout
import MetricsDaemon.LoadError
import MetricsDaemon.Settings.Basic
import MetricsDaemon.Text.Lowercase

/-!
# The module registry

Resident modules with the number of clients that hold each of them, the variables that
they own, and the catalogue that says where a variable's module can be loaded from
again. A module with a variable that runs on every tick has one client more, which
never leaves.
-/

namespace MetricsDaemon

/-- A resident module. -/
structure Module where
  id : ModuleId
  name : String
  origin : Origin
  unit : ProviderUnit
  /-- Live subscriptions on the module's variables, and one for the pin. -/
  clients : Nat
  /-- Whether a variable that runs on every tick keeps the module resident. -/
  pinned : Bool
  owned : List VariableId

/-- A module that is opened and initialized but not resident yet. -/
structure Prepared where
  unit : ProviderUnit
  origin : Origin
  offers : List Offer

/-- The resident modules and everything that goes with them. -/
structure Registry where
  /-- Built-in modules by their names in lower case. -/
  builtins : Table String Provider
  modules : Table ModuleId Module
  /-- The numbers of the modules by their names in lower case. -/
  byName : Table String ModuleId
  /-- The origins of variables, which outlast their modules. -/
  catalog : Table String Origin
  layout : Layout
  settings : Settings
  /-- The number that was given out last. -/
  lastId : Nat
  directory : Directory
  journal : Journal

namespace Registry

/-- The registry without modules. -/
def new (layout : Layout) (settings : Settings) : Registry :=
  { builtins := .empty
    modules := .empty
    byName := .empty
    catalog := .empty
    layout := layout
    settings := settings
    lastId := 0
    directory := .empty
    journal := [] }

/-- Make a built-in module available. -/
def registerBuiltin (registry : Registry) (name : String) (provider : Provider) : Registry :=
  { registry with builtins := registry.builtins.put (Text.lowercase name) provider }

/-- The keys of the built-in modules in ascending order. -/
def builtinNames (registry : Registry) : List String := registry.builtins.keys.mergeSort

/-- The built-in module of a name in any case. -/
def builtin? (registry : Registry) (name : String) : Option Provider :=
  registry.builtins.get? (Text.lowercase name)

/-- The module with a number. -/
def get? (registry : Registry) (id : ModuleId) : Option Module := registry.modules.get? id

/-- The module of a name in any case. -/
def idOf? (registry : Registry) (name : String) : Option ModuleId :=
  registry.byName.get? (Text.lowercase name)

/-- Whether a module of this name is resident. -/
def isLoaded (registry : Registry) (name : String) : Bool := (registry.idOf? name).isSome

/-- Where the module of a variable can be loaded from, resident or not. -/
def originOf (registry : Registry) (variable_ : String) : Option Origin :=
  registry.catalog.get? variable_

/-- Note an event. -/
def note (registry : Registry) (event : Event) : Registry :=
  { registry with journal := event :: registry.journal }

/-- Tear a unit down. A unit that panics meanwhile is dropped all the same. -/
def tearDown (registry : Registry) (unit : ProviderUnit) : Registry :=
  registry.note (.tornDown unit.tag)

/-- Count one more client. The answer is whether the module is resident. -/
def acquire (registry : Registry) (id : ModuleId) : Registry × Bool :=
  match registry.get? id with
  | none => (registry, false)
  | some module_ =>
      ({ registry with
         modules := registry.modules.put id { module_ with clients := module_.clients + 1 } }, true)

/-- Count one client less; there are never fewer than none. The answer is how many are left. -/
def release (registry : Registry) (id : ModuleId) : Registry × Nat :=
  match registry.get? id with
  | none => (registry, 0)
  | some module_ =>
      ({ registry with
         modules := registry.modules.put id { module_ with clients := module_.clients - 1 } },
        module_.clients - 1)

/-- Make a module leave: its variables go, then its unit is torn down. -/
def unload (registry : Registry) (id : ModuleId) : Registry :=
  match registry.get? id with
  | none => registry
  | some module_ =>
      let registry := { registry with
        modules := registry.modules.erase id
        byName := registry.byName.erase (Text.lowercase module_.name)
        directory := registry.directory.removeAll module_.owned }
      registry.tearDown module_.unit

/-- The modules that nobody holds. -/
def idleModules (registry : Registry) : List ModuleId :=
  (registry.modules.values.filter fun module_ => module_.clients == 0).map Module.id

/-- Unload every module that nobody holds. The answer is how many left. -/
def unloadIdle (registry : Registry) : Registry × Nat :=
  (registry.idleModules.foldl unload registry, registry.idleModules.length)

/-- Unload every module, whoever holds it. -/
def unloadEvery (registry : Registry) : Registry :=
  (registry.modules.values.map Module.id).foldl unload registry

end Registry

end MetricsDaemon
