import MetricsDaemon.Registry.Basic

/-!
# Installing modules

While a unit initializes, its offers are staged: an offer is accepted if the layout
mentions its name or it runs on every tick, and if the unit has not offered the name
before. Installing registers the staged offers. Names that another module holds are
skipped, and a module that is left with nothing to show is torn down again.
-/

namespace MetricsDaemon

/-- Hand every offer to a registrar with a state. The result is that state and the answers; an offer
without a name or a method is refused unseen. -/
def offerAll {σ : Type} (register : σ → Offer → σ × Bool) : σ → List (Option Offer) → σ × List Bool
  | state, [] => (state, [])
  | state, none :: rest =>
      let done := offerAll register state rest
      (done.1, false :: done.2)
  | state, some offer :: rest =>
      let step := register state offer
      let done := offerAll register step.1 rest
      (done.1, step.2 :: done.2)

/-- The registrar that stages offers for a later installation. -/
def Layout.stage (layout : Layout) (staged : List Offer) (offer : Offer) : List Offer × Bool :=
  if (offer.type.cron || layout.mentions offer.name) &&
      !staged.any (fun other => other.name == offer.name) then
    (staged ++ [offer], true)
  else (staged, false)

/-- The section of the settings that overrides timeouts. -/
def overridesSection : String := "timeouts"

/-- The timeout of an offer in seconds. The settings may override it by a number of 32 bits. -/
def Settings.timeoutFor (settings : Settings) (offer : Offer) : Nat :=
  let override := settings.getInt overridesSection offer.name offer.timeout
  if 0 ≤ override ∧ override < UInt32.size then override.toNat else offer.timeout

/-- A module in the middle of its installation. -/
structure Installation where
  directory : Directory
  layout : Layout
  registered : List VariableId
  /-- How many of the registered variables are shown. -/
  shown : Nat
  pinned : Bool

namespace Installation

/-- Register one offer. -/
def register (settings : Settings) (id : ModuleId) (installation : Installation) (offer : Offer) :
    Installation :=
  match installation.directory.insert offer (settings.timeoutFor offer) id with
  | (_, none) => installation
  | (directory, some variable_) =>
      { directory := directory
        layout := installation.layout.bind offer.name variable_
        registered := installation.registered ++ [variable_]
        shown := if offer.type.cron then installation.shown else installation.shown + 1
        pinned := installation.pinned || offer.type.cron }

end Installation

namespace Registry

/-- The installation of a module under a number, before it is decided whether the module stays. -/
def beginInstall (registry : Registry) (prepared : Prepared) (id : ModuleId) : Installation :=
  prepared.offers.foldl (Installation.register registry.settings id)
    ⟨registry.directory, registry.layout, [], 0, false⟩

/-- Catalogue the shown ones among some variables. -/
def catalogue (directory : Directory) (origin : Origin) (catalog : Table String Origin)
    (ids : List VariableId) : Table String Origin :=
  ids.foldl (fun catalog id =>
    match directory.get? id with
    | some variable_ => if variable_.isCron then catalog else catalog.put variable_.name origin
    | none => catalog) catalog

/-- Make a prepared module resident under the next number. -/
def install (registry : Registry) (prepared : Prepared) : Registry × Except LoadError ModuleId :=
  let name := prepared.unit.name
  if registry.isLoaded name then (registry.tearDown prepared.unit, .error (.alreadyLoaded name))
  else
    let id : ModuleId := ⟨registry.lastId + 1⟩
    let installation := registry.beginInstall prepared id
    if installation.shown = 0 then
      let registry := { registry with
        lastId := id.number
        layout := installation.layout
        directory := installation.directory.removeAll installation.registered }
      (registry.tearDown prepared.unit, .error (.unused name))
    else
      let module_ : Module :=
        { id := id
          name := name
          origin := prepared.origin
          unit := prepared.unit
          clients := installation.pinned.toNat
          pinned := installation.pinned
          owned := installation.registered }
      ({ registry with
         lastId := id.number
         layout := installation.layout
         directory := installation.directory
         catalog := catalogue installation.directory prepared.origin registry.catalog
           installation.registered
         byName := registry.byName.put (Text.lowercase name) id
         modules := registry.modules.put id module_ }, .ok id)

end Registry

end MetricsDaemon
