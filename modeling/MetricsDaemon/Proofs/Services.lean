import MetricsDaemon.Proofs.Conduct
import MetricsDaemon.Proofs.Replies

/-!
# What a service does

A step of a service is one of a few things: bytes come in, a line gets its answer, the
replies are written, or the next push is. What it does to the shared state are steps that
anybody may take, and of the queues it touches none but its own.
-/

namespace MetricsDaemon

open Relation (ReflTransGen)
open State (Steps)

/-! ## Who leaves the queues alone -/

namespace State

variable {state : State} {id : SubscriptionId} {connection : ConnectionId} {now : Nat}

/-- A request leaves the queues as they are. -/
theorem outboxes_subscribe (request : Request) :
    (state.subscribe request).1.outboxes = state.outboxes := by
  have hbound (unit : ProviderUnit) (variableId : VariableId) :
      (state.bindMethod unit variableId).1.outboxes = state.outboxes := by
    obtain ⟨journal, h⟩ := bindMethod_fst state unit variableId
    rw [h]
  rcases state.subscribe_cases request with h | ⟨_, _, _, h⟩ | ⟨_, _, _, _, _, _, _, h⟩
  · rw [h]
  · rw [h, hbound]
  · rw [h, addSubscription_fst]
    exact hbound _ _

/-- A plan leaves the queues as they are. -/
theorem outboxes_plan (hsound : state.directory.Sound) :
    (state.plan now).1.outboxes = state.outboxes := by
  obtain ⟨_, _, h⟩ := (binds_plan hsound).same
  rw [h]

/-- Provider code puts nothing into the queues, and takes nothing out. -/
theorem admits_outboxes :
    World.Admits true fun before after => after.outboxes = before.outboxes where
  noted _ _ := rfl
  installed _ _ := rfl
  subscribed _ request := outboxes_subscribe request
  unsubscribed _ _ := routes_unsubscribe.outboxes
  forgotten _ _ := outboxes_forgetConnection
  unloaded _ _ _ := rfl

end State

namespace World

variable {world : World} {request : Request} {phase : LoadPhase} {origin : Origin}
  {callable : Callable} {arg : Option String}

/-- Where unloading may be forced, every load is fine. -/
theorem sparesLoad_of_forced (world : World) (phase : LoadPhase) : world.SparesLoad true phase := by
  cases phase with
  | initializing origin unit => exact fun hook _ => sparesAll_of_forced world hook.actions
  | _ => trivial

/-- Queues that no step changes are the same after any number of steps. -/
theorem outboxes_of_reaches {before after : State}
    (hreaches : ReflTransGen (fun before after : State => after.outboxes = before.outboxes)
      before after) : after.outboxes = before.outboxes := by
  induction hreaches with
  | refl => rfl
  | tail _ hsame ih => exact hsame.trans ih

/-- A load leaves the queues as they are. -/
theorem outboxes_load : (world.load origin).1.state.outboxes = world.state.outboxes :=
  outboxes_of_reaches (reaches_load State.admits_outboxes)

/-- A call leaves the queues as they are. -/
theorem outboxes_call :
    (world.call callable arg).1.state.outboxes = world.state.outboxes :=
  outboxes_of_reaches (reaches_call State.admits_outboxes (sparesAll_of_forced _ _))

/-- Not even the code that runs in a load touches the queues. -/
theorem outboxes_stepLoad :
    (world.stepLoad request phase).1.state.outboxes = world.state.outboxes :=
  outboxes_of_reaches ((world.loadStep_stepLoad request phase).reaches State.admits_outboxes
    (fun _ _ => rfl) (world.sparesLoad_of_forced phase))

end World

/-! ## Answers -/

/-- An answer to a line, with the subscription that it grants. -/
structure Answer where
  response : Response
  granted : Option SubscriptionId

namespace Answer

/-- The answer in which a subscription ends. -/
def ofResult (result : Except SubscriptionError SubscriptionId) : Answer :=
  ⟨.reply (Session.subscriptionReply result).text, result.toOption⟩

/-- The answers that a line may get, whatever others do until then. -/
inductive Meets : Session.Verdict → Answer → Prop where
  | responded (response : Response) : Meets (.respond response) ⟨response, none⟩
  | ended (request : Request) (result : Except SubscriptionError SubscriptionId) :
      Meets (.subscribe request) (.ofResult result)

/-- Only a good answer grants a subscription. -/
theorem Meets.good {verdict : Session.Verdict} {answer : Answer} {id : SubscriptionId}
    (hmeets : Meets verdict answer) (hgranted : answer.granted = some id) :
    answer = ⟨.reply "GOOD", some id⟩ := by
  cases hmeets with
  | responded response => cases hgranted
  | ended request result =>
    cases result with
    | error error => cases hgranted
    | ok number =>
      cases hgranted
      rfl

end Answer

namespace Service

/-! ## Writing -/

/-- What a socket took of the messages that it was handed: all of them, or, where it failed, those
before one of them and a part of that one. -/
inductive Takes (service : Service) (messages : List String) : Prop where
  | whole (hwritten : service.written.reverse = messages) (hfragment : service.fragment = [])
  | cut (message : String) (rest : List String) (hclosed : service.closed = true)
      (hmessages : messages = service.written.reverse ++ message :: rest)
      (hpart : service.fragment <+: Text.utf8 message)
      (hshort : service.fragment.length < (Text.utf8 message).length)

/-- What comes of handing messages to a socket: it takes them all, or the connection is dropped
where it fails. -/
inductive Delivers (service : Service) (world : World) (messages : List String) :
    World → Service → Prop where
  | whole (room : Option Nat) : Delivers service world messages world
      { service with written := messages.reverse ++ service.written, room := room }
  | cut (front : List String) (message : String) (rest : List String) (fragment : List UInt8)
      (room : Option Nat) (hmessages : messages = front ++ message :: rest)
      (hpart : fragment <+: Text.utf8 message)
      (hshort : fragment.length < (Text.utf8 message).length) :
      Delivers service world messages (service.close world).1
        { service with
          written := front.reverse ++ service.written
          fragment := fragment
          room := room
          closed := true }

variable {service after : Service} {world middle : World} {messages : List String}
  {event : ServiceEvent}

/-- A socket takes all messages, or it fails inside one of them. -/
theorem write_cases (service : Service) (messages : List String) :
    (∃ room, service.write messages =
      ({ service with written := messages.reverse ++ service.written, room := room }, true)) ∨
    ∃ front message rest fragment room, messages = front ++ message :: rest ∧
      fragment <+: Text.utf8 message ∧ fragment.length < (Text.utf8 message).length ∧
      service.write messages =
        ({ service with
          written := front.reverse ++ service.written, fragment := fragment, room := room },
          false) := by
  induction messages generalizing service with
  | nil => exact .inl ⟨service.room, rfl⟩
  | cons message rest ih =>
    have htaken (room : Option Nat) : (∃ room', write
          { service with written := message :: service.written, room := room } rest =
          ({ service with
            written := (message :: rest).reverse ++ service.written, room := room' }, true)) ∨
        ∃ front other others fragment room', message :: rest = front ++ other :: others ∧
          fragment <+: Text.utf8 other ∧ fragment.length < (Text.utf8 other).length ∧
          write { service with written := message :: service.written, room := room } rest =
            ({ service with
              written := front.reverse ++ service.written, fragment := fragment, room := room' },
              false) := by
      rcases ih { service with written := message :: service.written, room := room } with
        ⟨room', h⟩ | ⟨front, other, others, fragment, room', hrest, hpart, hshort, h⟩
      · refine .inl ⟨room', ?_⟩
        rw [h, List.reverse_cons, List.append_assoc]
        rfl
      · refine .inr ⟨message :: front, other, others, fragment, room', ?_, hpart, hshort, ?_⟩
        · rw [hrest, List.cons_append]
        · rw [h, List.reverse_cons, List.append_assoc]
          rfl
    unfold write
    split
    · next hroom =>
      have hnone := htaken none
      rw [← hroom] at hnone
      exact hnone
    · next room hroom =>
      dsimp only
      split
      · exact htaken _
      · next hlong =>
        refine .inr ⟨[], message, rest, (Text.utf8 message).take room, service.room, rfl,
          List.take_prefix .., ?_, rfl⟩
        rw [List.length_take]
        omega

/-- What is handed to the socket is delivered, or the connection is dropped where the socket
fails. -/
theorem delivers_deliver (service : Service) (world : World) (messages : List String) :
    service.Delivers world messages (service.deliver world messages).1
      (service.deliver world messages).2 := by
  unfold deliver
  rcases service.write_cases messages with
    ⟨room, h⟩ | ⟨front, message, rest, fragment, room, hmessages, hpart, hshort, h⟩
  · rw [h]
    exact .whole room
  · rw [h]
    exact .cut front message rest fragment room hmessages hpart hshort

/-- What was written is the same, and the service may be closed by now. -/
theorem Takes.of_same (htakes : service.Takes messages) (hwritten : after.written = service.written)
    (hfragment : after.fragment = service.fragment)
    (hclosed : service.closed = true → after.closed = true) : after.Takes messages := by
  cases htakes with
  | whole hwhole hnothing => exact .whole (hwritten ▸ hwhole) (hfragment.trans hnothing)
  | cut message rest hover hmessages hpart hshort =>
    rw [← hwritten] at hmessages
    rw [← hfragment] at hpart hshort
    exact .cut message rest (hclosed hover) hmessages hpart hshort

/-- An open service whose socket took everything so far, and is handed more. -/
theorem Delivers.takes {sent : List String}
    (hdelivers : service.Delivers world messages middle after) (htakes : service.Takes sent)
    (hopen : service.closed = false) :
    after.Takes (sent ++ messages) := by
  cases htakes with
  | cut _ _ hclosed =>
    rw [hopen] at hclosed
    cases hclosed
  | whole hwritten hfragment =>
    cases hdelivers with
    | whole room => exact .whole (by simp [hwritten]) hfragment
    | cut front message rest fragment room hmessages hpart hshort =>
      exact .cut message rest rfl (by simp [hwritten, hmessages]) hpart hshort

/-! ## What a step is about -/

/-- What a step of a service is to its client. -/
inductive Happening where
  | nothing
  | heard (bytes : List UInt8)
  /-- A line got its answer; if that is the last one, the replies are written at once. -/
  | answered (answer : Answer)
  /-- The replies are written. -/
  | flushed
  /-- The next push is written. -/
  | relayed

/-- What working on the lines in hand is to the client. -/
def progress (service : Service) (world : World) : Happening :=
  match service.loading with
  | some (request, phase) =>
      match (world.stepLoad request phase).2 with
      | .done result => .answered (.ofResult result)
      | _ => .nothing
  | none =>
      match service.inbox with
      | [] => .flushed
      | line :: _ =>
          match (service.session.judge line).2 with
          | .respond response => .answered ⟨response, none⟩
          | .subscribe _ => .nothing

/-- What an event is to the client. -/
def happening (service : Service) (world : World) (event : ServiceEvent) : Happening :=
  if service.closed then .nothing
  else if service.busy then
    match event with
    | .proceeded => service.progress world
    | _ => .nothing
  else
    match event with
    | .received (byte :: rest) => .heard (byte :: rest)
    | .relayed =>
        match (world.state.outboxes.get? service.outbox).map Outbox.lines with
        | some (_ :: _) => .relayed
        | _ => .nothing
    | _ => .nothing

/-- What a step makes of an open service and its world, one case for each thing that can happen. -/
inductive Turn (service : Service) (world : World) : Happening → World → Service → Prop where
  | rested (room : Option Nat) : Turn service world .nothing world { service with room := room }
  | ended : Turn service world .nothing (service.close world).1 (service.close world).2
  | heard (bytes : List UInt8) (hidle : service.busy = false) :
      Turn service world (.heard bytes) world (service.receive bytes)
  /-- A line asks for a subscription. -/
  | asked (line : String) (rest : List String) (session : Session) (request : Request)
      (hbusy : service.busy = true) (hnone : service.loading = none)
      (hinbox : service.inbox = line :: rest)
      (hjudge : service.session.judge line = (session, .subscribe request)) :
      Turn service world .nothing world
        { service with
          session := session, inbox := rest, loading := some (request, .asked) }
  | loading (request : Request) (phase reached : LoadPhase) (after : World)
      (hload : service.loading = some (request, phase))
      (hstep : world.stepLoad request phase = (after, reached)) (hgoing : reached.isDone = false) :
      Turn service world .nothing after { service with loading := some (request, reached) }
  | loaded (request : Request) (phase : LoadPhase) (after : World)
      (result : Except SubscriptionError SubscriptionId)
      (hload : service.loading = some (request, phase))
      (hstep : world.stepLoad request phase = (after, .done result)) :
      Turn service world (.answered (.ofResult result)) after
        ({ service with loading := none }.keepReply (Session.subscriptionReply result).text)
  | responded (line : String) (rest : List String) (session : Session) (response : Response)
      (hbusy : service.busy = true) (hnone : service.loading = none)
      (hinbox : service.inbox = line :: rest)
      (hjudge : service.session.judge line = (session, .respond response)) :
      Turn service world (.answered ⟨response, none⟩)
        ({ service with session := session, inbox := rest }.respond world response).1
        ({ service with session := session, inbox := rest }.respond world response).2
  | flushed (hnone : service.loading = none) (hinbox : service.inbox = []) :
      Turn service world .flushed ({ service with busy := false }.writeReplies world).1
        ({ service with busy := false }.writeReplies world).2
  | relayed (line : String) (rest : List String) (hidle : service.busy = false)
      (hqueue : (world.state.outboxes.get? service.outbox).map Outbox.lines =
        some (line :: rest)) :
      Turn service world .relayed
        (service.deliver (world.withState (world.state.keepLines service.outbox rest)) [line]).1
        (service.deliver (world.withState (world.state.keepLines service.outbox rest)) [line]).2

/-- A closed service does nothing any more, whatever happens. -/
theorem step_of_closed (world : World) (event : ServiceEvent) (hclosed : service.closed = true) :
    service.step world event = (world, service) ∧ service.happening world event = .nothing := by
  unfold step happening
  rw [hclosed]
  exact ⟨rfl, rfl⟩

/-- A service whose client waits for a load takes the next step of the load. -/
theorem turn_proceedLoad {request : Request} {phase : LoadPhase}
    (hload : service.loading = some (request, phase)) :
    service.Turn world (service.progress world) (service.proceedLoad world request phase).1
      (service.proceedLoad world request phase).2 := by
  unfold progress proceedLoad
  rw [hload]
  dsimp only
  cases hstep : world.stepLoad request phase with
  | mk after reached =>
    cases reached with
    | done result => exact .loaded request phase after result hload hstep
    | _ => exact .loading request phase _ after hload hstep rfl

/-- A service that is busy without a load takes the next line, or writes the replies if none is
left. -/
theorem turn_proceedLine (hbusy : service.busy = true) (hnone : service.loading = none) :
    service.Turn world (service.progress world) (service.proceedLine world).1
      (service.proceedLine world).2 := by
  obtain ⟨session, splitter, outbox, busy, inbox, loading, replies, written, fragment, room,
    closed⟩ := service
  subst hnone
  cases inbox with
  | nil => exact .flushed rfl rfl
  | cons line rest =>
    unfold progress proceedLine
    dsimp only
    cases hjudge : session.judge line with
    | mk judged verdict =>
      cases verdict with
      | respond response => exact .responded line rest judged response hbusy rfl rfl hjudge
      | subscribe request => exact .asked line rest judged request hbusy rfl rfl hjudge

/-- A service at rest relays the first push of its queue, if there is one. -/
theorem turn_relay (hidle : service.busy = false) :
    service.Turn world
      (match (world.state.outboxes.get? service.outbox).map Outbox.lines with
        | some (_ :: _) => .relayed
        | _ => .nothing)
      (service.relay world).1 (service.relay world).2 := by
  have hempty : service.Turn world .nothing
      (if world.state.hasSender service.outbox then (world, service) else service.close world).1
      (if world.state.hasSender service.outbox then (world, service)
        else service.close world).2 := by
    split
    · exact .rested service.room
    · exact .ended
  unfold relay
  cases hqueue : (world.state.outboxes.get? service.outbox).map Outbox.lines with
  | none => exact hempty
  | some lines =>
    cases lines with
    | nil => exact hempty
    | cons line rest => exact .relayed line rest hidle hqueue

/-- Every step of an open service is one of these. -/
theorem turn_step (service : Service) (world : World) (event : ServiceEvent)
    (hopen : service.closed = false) :
    service.Turn world (service.happening world event) (service.step world event).1
      (service.step world event).2 := by
  have hrested : service.Turn world .nothing world service := .rested service.room
  unfold step happening
  rw [hopen]
  cases hbusy : service.busy with
  | true =>
    cases event with
    | proceeded =>
      rw [if_neg Bool.false_ne_true, if_pos rfl, if_neg Bool.false_ne_true, if_pos rfl]
      cases hload : service.loading with
      | none =>
        have hproceed : service.proceed world = service.proceedLine world := by
          rw [proceed, hload]
        dsimp only
        rw [hproceed]
        exact turn_proceedLine hbusy hload
      | some load =>
        have hproceed : service.proceed world = service.proceedLoad world load.1 load.2 := by
          rw [proceed, hload]
        dsimp only
        rw [hproceed]
        exact turn_proceedLoad hload
    | failing bytes => exact .rested _
    | _ => exact hrested
  | false =>
    cases event with
    | received bytes =>
      cases bytes with
      | nil => exact .ended
      | cons byte rest => exact .heard (byte :: rest) hbusy
    | proceeded => exact hrested
    | relayed => exact turn_relay hbusy
    | cancelled => exact .ended
    | failing bytes => exact .rested _

/-! ## What a step does to the shared state -/

variable {happening : Happening} {id : OutboxId}

/-- To close a connection is a step of the state. -/
theorem steps_close : Steps true world.state (service.close world).1.state := .single (.forgotten _)

/-- To close a connection leaves the queues as they are. -/
theorem outboxes_close : (service.close world).1.state.outboxes = world.state.outboxes :=
  State.outboxes_forgetConnection

/-- What is handed to a socket makes steps of the state at most. -/
theorem Delivers.steps (hdelivers : service.Delivers world messages middle after) :
    Steps true world.state middle.state := by
  cases hdelivers with
  | whole => exact .refl
  | cut => exact steps_close

/-- What is handed to a socket leaves the queues as they are. -/
theorem Delivers.outboxes (hdelivers : service.Delivers world messages middle after) :
    middle.state.outboxes = world.state.outboxes := by
  cases hdelivers with
  | whole => rfl
  | cut => exact outboxes_close

/-- The replies are delivered in their order. -/
theorem delivers_writeReplies (service : Service) (world : World) :
    { service with replies := [] }.Delivers world service.replies.reverse
      (service.writeReplies world).1 (service.writeReplies world).2 := delivers_deliver ..

/-- A response makes steps of the state at most. -/
theorem steps_respond (response : Response) :
    Steps true world.state (service.respond world response).1.state := by
  cases response with
  | silent | reply => exact .refl
  | farewell text =>
    exact ((service.keepReply text).delivers_writeReplies world).steps.trans steps_close

/-- A response leaves the queues as they are. -/
theorem outboxes_respond (response : Response) :
    (service.respond world response).1.state.outboxes = world.state.outboxes := by
  cases response with
  | silent | reply => rfl
  | farewell text =>
    exact outboxes_close.trans ((service.keepReply text).delivers_writeReplies world).outboxes

/-- A turn of a service makes steps of the state. -/
theorem Turn.steps (hturn : service.Turn world happening middle after) :
    Steps true world.state middle.state := by
  have hload (request : Request) (phase : LoadPhase) :
      Steps true world.state (world.stepLoad request phase).1.state :=
    World.steps_stepLoad (world.sparesLoad_of_forced phase)
  cases hturn with
  | rested | heard | asked => exact .refl
  | ended => exact steps_close
  | loading request phase _ _ _ hstep | loaded request phase _ _ _ hstep =>
    have hsteps := hload request phase
    rw [hstep] at hsteps
    exact hsteps
  | responded line rest session response => exact steps_respond response
  | flushed => exact (delivers_writeReplies _ world).steps
  | relayed line rest =>
    have htaken : Steps true world.state
        (world.withState (world.state.keepLines service.outbox rest)).state :=
      .single (.relayed _ _)
    exact htaken.trans (delivers_deliver service _ [line]).steps

/-- A step leaves the queues alone, unless it takes the next push out of the service's own. -/
theorem Turn.outboxes_cases (hturn : service.Turn world happening middle after) :
    middle.state.outboxes = world.state.outboxes ∨ ∃ line rest, happening = .relayed ∧
      (world.state.outboxes.get? service.outbox).map Outbox.lines = some (line :: rest) ∧
      middle.state.outboxes = (world.state.keepLines service.outbox rest).outboxes := by
  cases hturn with
  | rested | heard | asked => exact .inl rfl
  | ended => exact .inl outboxes_close
  | loading request phase _ _ _ hstep | loaded request phase _ _ _ hstep =>
    have hload : (world.stepLoad request phase).1.state.outboxes = world.state.outboxes :=
      World.outboxes_stepLoad
    rw [hstep] at hload
    exact .inl hload
  | responded line rest session response => exact .inl (outboxes_respond response)
  | flushed => exact .inl (delivers_writeReplies _ world).outboxes
  | relayed line rest _ hqueue =>
    exact .inr ⟨line, rest, rfl, hqueue, (delivers_deliver service _ [line]).outboxes⟩

/-- A step touches no queue but the service's own, and that one only to write the next push. -/
theorem Turn.get?_outboxes (hturn : service.Turn world happening middle after)
    (hother : happening = .relayed → service.outbox ≠ id) :
    middle.state.outboxes.get? id = world.state.outboxes.get? id := by
  rcases hturn.outboxes_cases with hsame | ⟨_, rest, hrelayed, _, hkept⟩
  · rw [hsame]
  · rw [hkept, State.keepLines, Table.get?_modify, if_neg (hother hrelayed)]

/-- Whatever is handed to its socket, a service keeps its queue. -/
theorem Delivers.outbox (hdelivers : service.Delivers world messages middle after) :
    after.outbox = service.outbox := by cases hdelivers <;> rfl

/-- A service keeps its queue. -/
theorem Turn.outbox (hturn : service.Turn world happening middle after) :
    after.outbox = service.outbox := by
  cases hturn with
  | rested | ended | heard | asked | loading | loaded => rfl
  | responded line rest session response =>
    cases response with
    | silent | reply => rfl
    | farewell text => exact (delivers_writeReplies _ world).outbox
  | flushed => exact (delivers_writeReplies _ world).outbox
  | relayed line rest => exact (delivers_deliver service _ [line]).outbox

/-- Whatever happens to a service, the state goes on by steps. -/
theorem steps_step (service : Service) (world : World) (event : ServiceEvent) :
    Steps true world.state (service.step world event).1.state := by
  cases hclosed : service.closed with
  | true =>
    rw [(step_of_closed world event hclosed).1]
    exact .refl
  | false => exact (service.turn_step world event hclosed).steps

/-- To anybody else a service is somebody who takes steps and leaves the queue alone. -/
theorem others_step (service : Service) (world : World) (event : ServiceEvent)
    (hother : service.outbox ≠ id) :
    Steps true world.state (service.step world event).1.state ∧
      (service.step world event).1.state.outboxes.get? id = world.state.outboxes.get? id := by
  refine ⟨service.steps_step world event, ?_⟩
  cases hclosed : service.closed with
  | true => rw [(step_of_closed world event hclosed).1]
  | false => exact (service.turn_step world event hclosed).get?_outboxes fun _ => hother

end Service

end MetricsDaemon
