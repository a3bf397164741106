import MetricsDaemon.World.Basic

/-!
# Loading on demand

A subscription to a variable whose module was unloaded brings the module back first.
The load runs in phases, and others may change the state between any two of them: the
look into the catalogue, the wait for the gate that lets one load through at a time, the
check whether somebody else was faster, opening and initializing the module, and last
the installation together with the subscription.
-/

namespace MetricsDaemon

/-- How far an on-demand subscription has come. -/
inductive LoadPhase where
  /-- Nothing happened yet. -/
  | asked
  /-- The variable is registered, or nobody knows where to load it from. -/
  | direct
  /-- The module must be loaded; the gate is not passed yet. -/
  | queued (origin : Origin)
  /-- The gate is passed. -/
  | admitted (origin : Origin)
  /-- The variable is still not registered. -/
  | opening (origin : Origin)
  /-- The module is open; it is not known yet whether one of its name is resident. -/
  | opened (origin : Origin) (unit : ProviderUnit)
  /-- The initialization of the module was entered. -/
  | initializing (origin : Origin) (unit : ProviderUnit)
  /-- There is nothing left to load, or a module to be installed. -/
  | joining (prepared : Option Prepared)
  | done (result : Except SubscriptionError SubscriptionId)

namespace LoadPhase

/-- Whether the load is over. -/
def isDone : LoadPhase → Bool
  | .done _ => true
  | _ => false

/-- Whether the next thing to do is to run provider code. -/
def isOpening : LoadPhase → Bool
  | .opening _ => true
  | _ => false

/-- The result of a load that is over. -/
def result? : LoadPhase → Option (Except SubscriptionError SubscriptionId)
  | .done result => some result
  | _ => none

/-- Whether a load in this phase has passed the gate and not left it. -/
def holdsGate : LoadPhase → Bool
  | .admitted _ | .opening _ | .opened _ _ | .initializing _ _ | .joining _ => true
  | _ => false

end LoadPhase

namespace World

/-- Open or close the gate for on-demand loads. -/
def setLoading (world : World) (loading : Bool) : World :=
  { world with state := { world.state with loading := loading } }

/-- The error of a load that a fault ended. -/
def subscribeErrorOf (name : String) : LoadFault → SubscriptionError
  | .refused error => .load name error
  | .panicked => .interrupted name

/-- Leave the gate with a result. -/
def leaveGate (world : World) (result : Except SubscriptionError SubscriptionId) :
    World × LoadPhase :=
  (world.setLoading false, .done result)

/-- Subscribe in one step. -/
def subscribe (world : World) (request : Request) :
    World × Except SubscriptionError SubscriptionId :=
  let subscribed := world.state.subscribe request
  (world.withState subscribed.1, subscribed.2)

/-- Install a module, if there is one. A module of the same name that is resident by now does as
well. -/
def installFor (world : World) (name : String) :
    Option Prepared → World × Except SubscriptionError Unit
  | none => (world, .ok ())
  | some prepared =>
      match world.install prepared with
      | (world, .ok _) => (world, .ok ())
      | (world, .error (.alreadyLoaded _)) => (world, .ok ())
      | (world, .error error) => (world, .error (.load name error))

/-- Take the next step of an on-demand subscription. A load that waits for the gate stays where it
is as long as another one is in progress. -/
def stepLoad (world : World) (request : Request) : LoadPhase → World × LoadPhase
  | .asked =>
      match world.state.missingOrigin request.name with
      | none => (world, .direct)
      | some origin => (world, .queued origin)
  | .direct =>
      let subscribed := world.subscribe request
      (subscribed.1, .done subscribed.2)
  | .queued origin =>
      if world.state.loading then (world, .queued origin)
      else (world.setLoading true, .admitted origin)
  | .admitted origin =>
      if world.state.isRegistered request.name then (world, .joining none)
      else (world, .opening origin)
  | .opening origin =>
      match world.openOrigin origin with
      | (world, .error fault) =>
          world.leaveGate (.error (subscribeErrorOf request.name fault))
      | (world, .ok unit) => (world, .opened origin unit)
  | .opened origin unit =>
      if world.registry.isLoaded unit.name then (world, .joining none)
      else (world.enterInit unit, .initializing origin unit)
  | .initializing origin unit =>
      match stageInit perform origin unit world with
      | (world, .error fault) =>
          world.leaveGate (.error (subscribeErrorOf request.name fault))
      | (world, .ok prepared) => (world, .joining (some prepared))
  | .joining prepared =>
      match world.installFor request.name prepared with
      | (world, .error error) => world.leaveGate (.error error)
      | (world, .ok ()) =>
          let subscribed := world.subscribe request
          subscribed.1.leaveGate subscribed.2
  | .done result => (world, .done result)

/-- Take steps until a phase is reached, at most a given number of them. -/
def stepUntil (request : Request) (stop : LoadPhase → Bool) :
    Nat → World → LoadPhase → World × LoadPhase
  | 0, world, phase => (world, phase)
  | fuel + 1, world, phase =>
      if stop phase then (world, phase)
      else
        let step := world.stepLoad request phase
        stepUntil request stop fuel step.1 step.2

/-- More steps than any load takes that does not wait. -/
def loadSteps : Nat := 10

/-- The result of a load; one that still waits for the gate counts as interrupted. -/
def resultOf (request : Request) (phase : LoadPhase) : Except SubscriptionError SubscriptionId :=
  phase.result?.getD (.error (.interrupted request.name))

/-- Take a load to its end while nobody else does anything. -/
def finishLoad (world : World) (request : Request) (phase : LoadPhase) :
    World × Except SubscriptionError SubscriptionId :=
  let finished := stepUntil request LoadPhase.isDone loadSteps world phase
  (finished.1, resultOf request finished.2)

/-- Subscribe, bringing the variable's module back if it was unloaded. -/
def subscribeLoading (world : World) (request : Request) :
    World × Except SubscriptionError SubscriptionId :=
  world.finishLoad request .asked

/-- Take steps until provider code is about to run. -/
def runToProvider (world : World) (request : Request) : World × LoadPhase :=
  stepUntil request (fun phase => phase.isOpening || phase.isDone) loadSteps world .asked

/-- Two subscriptions at once: the first begins and goes on until it runs provider code, then the
second does the same, then both go to their ends in turn. -/
def subscribeTogether (world : World) (first second : Request) :
    World × Except SubscriptionError SubscriptionId × Except SubscriptionError SubscriptionId :=
  let one := world.runToProvider first
  let two := one.1.runToProvider second
  let doneOne := two.1.finishLoad first one.2
  let doneTwo := doneOne.1.finishLoad second two.2
  (doneTwo.1, doneOne.2, doneTwo.2)

end World

end MetricsDaemon
