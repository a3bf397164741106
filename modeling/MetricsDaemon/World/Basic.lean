import MetricsDaemon.State.Tick

/-!
# The world

The shared state together with what surrounds it: the host, the files, and the provider
code that runs in between. Provider code may act on the world while it runs; a load that
happens inside such an action holds the state, so the code that it runs can do nothing
but take time.
-/

namespace MetricsDaemon

/-- The state of the daemon and its surroundings. -/
structure World where
  host : Host
  state : State
  disk : Disk
  /-- The names that provider code has for connections. -/
  peers : Table String ConnectionId
  /-- Whether the tick in progress is cancelled. -/
  cancelled : Bool
  /-- The number of the unit that was opened last. -/
  lastUnit : Nat

/-- The number of no connection. -/
def ConnectionId.unknown : ConnectionId := ⟨0⟩

namespace World

/-- The registry of modules. -/
def registry (world : World) : Registry := world.state.registry

/-- Put another state in the place of the present one. -/
def withState (world : World) (state : State) : World := { world with state := state }

/-- Put another registry in the place of the present one. -/
def withRegistry (world : World) (registry : Registry) : World :=
  { world with state := { world.state with registry := registry } }

/-- Note an event. -/
def note (world : World) (event : Event) : World :=
  world.withRegistry (world.registry.note event)

/-- The connection that a name stands for. -/
def peer (world : World) (name : String) : ConnectionId :=
  (world.peers.get? name).getD .unknown

/-- Let time pass. -/
def advance (world : World) (millis : Nat) : World :=
  { world with host := world.host.advance millis }

/-- Let the machine report something else. -/
def observe (world : World) (readings : Readings) : World :=
  { world with host := world.host.observe readings }

/-- Open provider code under the next unit number. -/
def openUnit (world : World) (provider : Provider) : World × ProviderUnit :=
  let unit : ProviderUnit := ⟨⟨world.lastUnit + 1⟩, provider⟩
  ({ world with lastUnit := world.lastUnit + 1 }.note (.opened unit.tag), unit)

/-- Find and open the code of an origin. -/
def openOrigin (world : World) : Origin → World × Except LoadFault ProviderUnit
  | .builtin name =>
      match world.registry.builtin? name with
      | none => (world, .error (.refused (.unknownBuiltin name)))
      | some provider =>
          let opened := world.openUnit provider
          (opened.1, if provider.openPanics then .error .panicked else .ok opened.2)
  | .file path =>
      match world.disk.findProvider path with
      | .error error => (world, .error (.refused error))
      | .ok provider =>
          let opened := world.openUnit provider
          (opened.1, .ok opened.2)

/-- How provider code acts on the world: the world afterwards, and whether the action came to its
end without a panic. -/
abbrev Performer := World → Action → World × Bool

/-- Take actions until one panics. The answer is whether none did. -/
def performAll (perform : Performer) : World → List Action → World × Bool
  | world, [] => (world, true)
  | world, action :: rest =>
      match perform world action with
      | (world, true) => performAll perform world rest
      | (world, false) => (world, false)

/-- Note the answers to a unit's offers. -/
def noteAnswers (world : World) (unit : UnitTag) (answers : List Bool) : World :=
  answers.foldl (fun world answer => world.note (.offered unit answer)) world

/-- Enter the initialization of a unit. -/
def enterInit (world : World) (unit : ProviderUnit) : World :=
  world.note (.initEntered unit.tag unit.provider.enrollment.hook.isSome)

/-- Run the hook of a unit. -/
def runHook (perform : Performer) (world : World) : Option Hook → World × Outcome
  | none => (world, .ok)
  | some hook =>
      match performAll perform world hook.actions with
      | (world, true) => (world, hook.outcome)
      | (world, false) => (world, .panicked)

/-- Note that an initialization returned, unless it panicked. -/
def noteReturn (world : World) (unit : ProviderUnit) : Outcome → World
  | .panicked => world
  | _ => world.note (.initReturned unit.tag)

/-- Run an initialization that was entered: the hook, then every offer to a registrar with a
state, then the status. -/
def finishInit {σ : Type} (perform : Performer) (register : σ → Offer → σ × Bool) (start : σ)
    (unit : ProviderUnit) (world : World) : World × σ × Outcome :=
  match runHook perform world unit.provider.enrollment.hook with
  | (world, .ok) =>
      let offered := offerAll register start unit.provider.enrollment.offers
      let world := world.noteAnswers unit.tag offered.2
      (world.noteReturn unit unit.provider.enrollment.status, offered.1,
        unit.provider.enrollment.status)
  | (world, outcome) => (world.noteReturn unit outcome, start, outcome)

/-- Run an initialization that was entered, and stage its offers. A unit that fails is torn down;
one that panics is dropped. -/
def stageInit (perform : Performer) (origin : Origin) (unit : ProviderUnit) (world : World) :
    World × Except LoadFault Prepared :=
  match finishInit perform world.registry.layout.stage [] unit world with
  | (world, offers, .ok) => (world, .ok ⟨unit, origin, offers⟩)
  | (world, _, .failed reason) =>
      (world.withRegistry (world.registry.tearDown unit),
        .error (.refused (.initFailed unit.name reason)))
  | (world, _, .panicked) => (world, .error .panicked)

/-- Open and initialize the module of an origin. A module that is resident by its name is refused
before it is initialized, if `checked`. -/
def prepare (perform : Performer) (checked : Bool) (origin : Origin) (world : World) :
    World × Except LoadFault Prepared :=
  match world.openOrigin origin with
  | (world, .error fault) => (world, .error fault)
  | (world, .ok unit) =>
      if checked && world.registry.isLoaded unit.name then
        (world, .error (.refused (.alreadyLoaded unit.name)))
      else stageInit perform origin unit (world.enterInit unit)

/-- Make a prepared module resident. -/
def install (world : World) (prepared : Prepared) : World × Except LoadError ModuleId :=
  let installed := world.registry.install prepared
  (world.withRegistry installed.1, installed.2)

/-- A load error as a fault. -/
def faultOf {α : Type} : Except LoadError α → Except LoadFault α
  | .error error => .error (.refused error)
  | .ok value => .ok value

/-- What provider code can do while the state is held. -/
def performHeld : Performer
  | world, .advance millis => (world.advance millis, true)
  | world, .observe readings => (world.observe readings, true)
  | world, _ => (world, true)

/-- Load the module of an origin while the state is held. -/
def load (world : World) (origin : Origin) : World × Except LoadFault ModuleId :=
  match world.prepare performHeld true origin with
  | (world, .error fault) => (world, .error fault)
  | (world, .ok prepared) =>
      let installed := world.install prepared
      (installed.1, faultOf installed.2)

/-- Load a built-in module while the state is held. -/
def loadBuiltin (world : World) (name : String) : World × Except LoadFault ModuleId :=
  world.load (.builtin name)

/-- Load modules one after the other and count those that stay; a panic ends it. -/
def loadEach : World → List Origin → World × Option Nat
  | world, [] => (world, some 0)
  | world, origin :: rest =>
      match world.load origin with
      | (world, .ok _) =>
          let done := loadEach world rest
          (done.1, done.2.map Nat.succ)
      | (world, .error (.refused _)) => loadEach world rest
      | (world, .error .panicked) => (world, none)

/-- Load every built-in module in the order of their keys. -/
def loadBuiltins (world : World) : World × Option Nat :=
  world.loadEach (world.registry.builtinNames.map .builtin)

/-- Load every shared library in a directory. -/
def loadAll (world : World) (directory : String) : World × Option Nat :=
  world.loadEach ((world.disk.loadableFiles directory).map .file)

/-- Unload the module of a name in any case. -/
def unloadNamed (world : World) (name : String) : World :=
  match world.registry.idOf? name with
  | none => world
  | some id => world.withRegistry (world.registry.unload id)

/-- What provider code can do while nobody holds the state. -/
def perform : Performer
  | world, .advance millis => (world.advance millis, true)
  | world, .observe readings => (world.observe readings, true)
  | world, .cancel => ({ world with cancelled := true }, true)
  | world, .drop name => (world.withState (world.state.forgetConnection (world.peer name)).1, true)
  | world, .unsubscribe id => (world.withState (world.state.unsubscribe id).1, true)
  | world, .loadBuiltin name =>
      match world.loadBuiltin name with
      | (world, .error .panicked) => (world, false)
      | (world, _) => (world, true)
  | world, .unload name => (world.unloadNamed name, true)
  | world, .subscribe name id variable_ arg once =>
      let request : Request := ⟨world.peer name, id, variable_, arg, once⟩
      (world.withState (world.state.subscribe request).1, true)

/-- Call a method with the text of a subscription. The answer is none if the code panics. -/
def call (world : World) (callable : Callable) (arg : Option String) : World × Option Value :=
  let world := world.note (.invoked callable.owner callable.name (callable.received arg))
  let reacted := callable.invoke arg world.host
  match performAll perform { world with host := reacted.1 } reacted.2.actions with
  | (world, true) => (world, reacted.2.value)
  | (world, false) => (world, none)

/-- Evaluate jobs one after the other. -/
def evaluate : World → List Job → World × List (Option Value)
  | world, [] => (world, [])
  | world, job :: rest =>
      let called := world.call job.callable job.arg
      let done := evaluate called.1 rest
      (done.1, called.2 :: done.2)

/-- Run a tick. A tick that is cancelled before it could finish applies nothing and reports
nothing. -/
def tick (world : World) : World × Option Report :=
  if world.cancelled then (world, none)
  else
    let planned := world.state.plan world.host.now
    let evaluated := evaluate (world.withState planned.1) planned.2.jobs
    if evaluated.1.cancelled then (evaluated.1, none)
    else
      let applied := evaluated.1.state.apply planned.2 evaluated.2 evaluated.1.host.now
      (evaluated.1.withState applied.state, some applied.report)

end World

end MetricsDaemon
