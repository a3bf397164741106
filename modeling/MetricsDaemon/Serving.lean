import MetricsDaemon.LineSplitter
import MetricsDaemon.Session

/-!
# Serving a client

One client with its socket. A service that is idle takes in the next bytes, writes the
next queued push, or stops. Bytes are cut into lines, and from then on the service is
busy until every line is answered; only then the replies are written, all together.
Others may change the state between any two steps, also while a line waits for a module
to be loaded. A socket may fail in the middle of a message. Whatever ends the service
also drops the connection.
-/

namespace MetricsDaemon

/-- The service of one client. -/
structure Service where
  session : Session
  splitter : LineSplitter
  outbox : OutboxId
  /-- Whether lines are being answered. -/
  busy : Bool
  /-- The lines that are not answered yet. -/
  inbox : List String
  /-- The subscription that the line in hand waits for. -/
  loading : Option (Request × LoadPhase)
  /-- The replies that are not written yet, the newest first. -/
  replies : List String
  /-- The messages written to the socket as a whole, the newest first. -/
  written : List String
  /-- What was written of the message at which the socket failed. -/
  fragment : List UInt8
  /-- How many more bytes the socket takes before it fails; none if nothing is wrong with it. -/
  room : Option Nat
  closed : Bool

/-- What happens to a service. -/
inductive ServiceEvent where
  /-- Bytes arrive from the client; no bytes mean that it has left. -/
  | received (bytes : List UInt8)
  /-- The lines in hand are worked on. -/
  | proceeded
  /-- The next queued push is written. -/
  | relayed
  /-- The daemon stops. -/
  | cancelled
  /-- The socket takes only so many more bytes. -/
  | failing (bytes : Nat)

namespace Service

/-- Begin to serve a client: its connection is registered with an empty queue. -/
def accept (world : World) (settings : Settings) : World × Service :=
  let made := world.state.connect Outbox.defaultCapacity
  (world.withState made.1,
    { session := .new made.2.1 settings
      splitter := .start
      outbox := made.2.2
      busy := false
      inbox := []
      loading := none
      replies := []
      written := []
      fragment := []
      room := none
      closed := false })

/-- End the service and drop the connection. -/
def close (service : Service) (world : World) : World × Service :=
  (world.withState (world.state.forgetConnection service.session.connection).1,
    { service with closed := true })

/-- Write messages in order. The answer is whether the socket took them all; what comes after the
place at which it fails is lost. -/
def write (service : Service) : List String → Service × Bool
  | [] => (service, true)
  | message :: rest =>
      match service.room with
      | none => write { service with written := message :: service.written } rest
      | some room =>
          let bytes := Text.utf8 message
          if bytes.length ≤ room then
            write { service with
              written := message :: service.written
              room := some (room - bytes.length) } rest
          else ({ service with fragment := bytes.take room }, false)

/-- Write messages in order; a socket that fails ends the service. -/
def deliver (service : Service) (world : World) (messages : List String) : World × Service :=
  match service.write messages with
  | (service, true) => (world, service)
  | (service, false) => service.close world

/-- Write the replies. -/
def writeReplies (service : Service) (world : World) : World × Service :=
  { service with replies := [] }.deliver world service.replies.reverse

/-- Keep a reply until all lines are answered. -/
def keepReply (service : Service) (text : String) : Service :=
  { service with replies := (text ++ lineEnd) :: service.replies }

/-- Give a line its response. A farewell is written at once and ends the service. -/
def respond (service : Service) (world : World) : Response → World × Service
  | .silent => (world, service)
  | .reply text => (world, service.keepReply text)
  | .farewell text =>
      let answered := (service.keepReply text).writeReplies world
      answered.2.close answered.1

/-- Take in bytes from the client. -/
def receive (service : Service) (bytes : List UInt8) : Service :=
  let cut := service.splitter.push bytes
  { service with splitter := cut.1, inbox := cut.2, busy := true }

/-- Answer the next line, or write the replies if there is none. -/
def proceedLine (service : Service) (world : World) : World × Service :=
  match service.inbox with
  | [] => { service with busy := false }.writeReplies world
  | line :: rest =>
      let judged := service.session.judge line
      let service := { service with session := judged.1, inbox := rest }
      match judged.2 with
      | .respond response => service.respond world response
      | .subscribe request => (world, { service with loading := some (request, .asked) })

/-- Take the next step of a subscription; when it is over, its result is the reply. -/
def proceedLoad (service : Service) (world : World) (request : Request) (phase : LoadPhase) :
    World × Service :=
  match world.stepLoad request phase with
  | (world, .done result) =>
      (world, { service with loading := none }.keepReply (Session.subscriptionReply result).text)
  | (world, phase) => (world, { service with loading := some (request, phase) })

/-- Work on the lines in hand. -/
def proceed (service : Service) (world : World) : World × Service :=
  match service.loading with
  | some (request, phase) => service.proceedLoad world request phase
  | none => service.proceedLine world

/-- Write the next queued push. A queue that nobody can send to any more ends the service once it is
empty. -/
def relay (service : Service) (world : World) : World × Service :=
  match (world.state.outboxes.get? service.outbox).map Outbox.lines with
  | some (line :: rest) =>
      service.deliver (world.withState (world.state.keepLines service.outbox rest)) [line]
  | _ => if world.state.hasSender service.outbox then (world, service) else service.close world

/-- Note that the socket takes only so many more bytes. -/
def limitRoom (service : Service) (bytes : Nat) : Service :=
  { service with room := some (min bytes (service.room.getD bytes)) }

/-- What an event does to a service. A closed service stays as it is, and a busy one does nothing
but work on its lines, though its socket may begin to fail. -/
def step (service : Service) (world : World) (event : ServiceEvent) : World × Service :=
  if service.closed then (world, service)
  else if service.busy then
    match event with
    | .proceeded => service.proceed world
    | .failing bytes => (world, service.limitRoom bytes)
    | _ => (world, service)
  else
    match event with
    | .received [] => service.close world
    | .received bytes => (world, service.receive bytes)
    | .proceeded => (world, service)
    | .relayed => service.relay world
    | .cancelled => service.close world
    | .failing bytes => (world, service.limitRoom bytes)

/-- Work on the lines in hand until the service is idle again, at most a given number of steps. -/
def settle : Nat → World → Service → World × Service
  | 0, world, service => (world, service)
  | fuel + 1, world, service =>
      if service.busy && !service.closed then
        let stepped := service.step world .proceeded
        settle fuel stepped.1 stepped.2
      else (world, service)

/-- More steps than the lines in hand take while nobody else does anything. -/
def settleSteps (service : Service) : Nat := (service.inbox.length + 1) * (World.loadSteps + 2)

/-- Take in bytes and answer every line in them while nobody else does anything. -/
def exchange (service : Service) (world : World) (bytes : List UInt8) : World × Service :=
  let received := service.step world (.received bytes)
  settle received.2.settleSteps received.1 received.2

end Service

end MetricsDaemon
