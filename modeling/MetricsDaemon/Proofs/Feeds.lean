import MetricsDaemon.Proofs.Framing
import MetricsDaemon.Proofs.InFlight
import MetricsDaemon.Proofs.Services

/-!
# A client in a run

What one client sends and gets, while ticks, other clients and provider code go on around
it. What is handed to its socket is told apart from what is kept or waits, so that at every
moment the two together are what was to be said. Here it is followed from the bytes that
come in to the answers, and from the answers to the socket.
-/

namespace MetricsDaemon

open Relation (ReflTransGen)
open Service (Happening Turn)

/-! ## What is handed to a socket -/

/-- A message to a client. -/
inductive Message where
  /-- The reply to a line, with the subscription that it grants. -/
  | reply (text : String) (granted : Option SubscriptionId)
  | push (sent : Push)

namespace Message

/-- The letters of a message. -/
def text : Message → String
  | .reply text _ => text ++ lineEnd
  | .push sent => sent.line

/-- Whether a message is a reply. -/
def isReply : Message → Bool
  | .reply _ _ => true
  | .push _ => false

/-- The push that a message is. -/
def push? : Message → Option Push
  | .reply _ _ => none
  | .push sent => some sent

end Message

namespace Answer

/-- What is written for an answer. -/
def message? (answer : Answer) : Option Message :=
  answer.response.text?.map fun text => .reply text answer.granted

/-- Every answer meets a verdict. -/
theorem exists_meets {verdicts : List Session.Verdict} {answers : List Answer} {answer : Answer}
    (hanswers : List.Forall₂ Meets verdicts answers) (hmem : answer ∈ answers) :
    ∃ verdict ∈ verdicts, Meets verdict answer := by
  induction hanswers with
  | nil => cases hmem
  | cons hmeets _ ih =>
    rcases List.mem_cons.mp hmem with rfl | hmem
    · exact ⟨_, List.mem_cons_self, hmeets⟩
    · obtain ⟨verdict, hverdict, hmeets⟩ := ih hmem
      exact ⟨verdict, List.mem_cons_of_mem _ hverdict, hmeets⟩

/-- Whether the answer is the last one. -/
def isFarewell (answer : Answer) : Bool :=
  match answer.response with
  | .farewell _ => true
  | _ => false

end Answer

namespace Session

/-- The session after some lines were judged. -/
def hear (session : Session) (lines : List String) : Session :=
  lines.foldl (fun session line => (session.judge line).1) session

/-- What some lines lead to, one after the other. -/
def verdicts : Session → List String → List Verdict
  | _, [] => []
  | session, line :: rest => (session.judge line).2 :: verdicts (session.judge line).1 rest

variable {session : Session} {first second : List String}

/-- Two rows of lines are heard one after the other. -/
theorem hear_append : session.hear (first ++ second) = (session.hear first).hear second :=
  List.foldl_append

/-- Two rows of lines are judged one after the other. -/
theorem verdicts_append : session.verdicts (first ++ second) =
    session.verdicts first ++ (session.hear first).verdicts second := by
  induction first generalizing session with
  | nil => rfl
  | cons line rest ih =>
    rw [List.cons_append, verdicts, verdicts, List.cons_append, ih]
    rfl

/-- Every verdict is the one on some line. -/
theorem exists_of_mem_verdicts {verdict : Verdict} (hmem : verdict ∈ session.verdicts first) :
    ∃ (earlier : Session) (line : String), verdict = (earlier.judge line).2 := by
  induction first generalizing session with
  | nil => cases hmem
  | cons line rest ih =>
    rcases List.mem_cons.mp hmem with rfl | hmem
    · exact ⟨session, line, rfl⟩
    · exact ih hmem

/-- There is no verdict exactly where there is no line. -/
theorem verdicts_eq_nil_iff : session.verdicts first = [] ↔ first = [] := by
  cases first <;> simp [verdicts]

end Session

/-- The pushes of a tick that go into one queue, in order. -/
def Completion.pushesInto (completion : Completion) (id : OutboxId) : List Push :=
  completion.applied.pushes.filter fun push =>
    (completion.met.connections.get? push.connection).any fun entry => decide (entry.outbox = id)

/-! ## A client and everybody else -/

/-- What a client gets in a run, with the run itself. -/
structure Feed where
  run : Run
  service : Service
  /-- The session with which the client began. -/
  opening : Session
  /-- The chunks in which its bytes came in. -/
  heard : List (List UInt8)
  /-- The answers to its lines, in order, as far as they are there. -/
  answers : List Answer
  /-- The replies that are kept until all lines of the chunk are answered. -/
  pending : List Message
  /-- The pushes that ticks put into its queue, in order. -/
  queued : List Push
  /-- Those of them that are still there. -/
  waiting : List Push
  /-- What was handed to its socket, in order. -/
  handed : List Message

namespace Feed

/-- A feed for a client that was just accepted. -/
def accept (run : Run) (settings : Settings) : Feed :=
  { run := { run with world := (Service.accept run.world settings).1 }
    service := (Service.accept run.world settings).2
    opening := (Service.accept run.world settings).2.session
    heard := []
    answers := []
    pending := []
    queued := []
    waiting := []
    handed := [] }

/-- A line got its answer. -/
def answer (feed : Feed) (answer : Answer) : Feed :=
  { feed with
    answers := feed.answers ++ [answer], pending := feed.pending ++ answer.message?.toList }

/-- The replies were handed over. -/
def flush (feed : Feed) : Feed :=
  { feed with handed := feed.handed ++ feed.pending, pending := [] }

/-- The next push was handed over, if one waits. -/
def relay (feed : Feed) : Feed :=
  { feed with
    handed := feed.handed ++ (feed.waiting.take 1).map .push, waiting := feed.waiting.drop 1 }

/-- What happened is taken down. -/
def record (feed : Feed) : Happening → Feed
  | .nothing => feed
  | .heard bytes => { feed with heard := feed.heard ++ [bytes] }
  | .answered answer =>
      if answer.isFarewell then (feed.answer answer).flush else feed.answer answer
  | .flushed => feed.flush
  | .relayed => feed.relay

/-- Put another run in the place of the present one. -/
def withRun (feed : Feed) (run : Run) : Feed := { feed with run := run }

/-- The service took a step. -/
def serve (feed : Feed) (event : ServiceEvent) : Feed :=
  { feed.record (feed.service.happening feed.run.world event) with
    run := { feed.run with world := (feed.service.step feed.run.world event).1 }
    service := (feed.service.step feed.run.world event).2 }

/-- The service took some steps. -/
def serveAll (feed : Feed) (events : List ServiceEvent) : Feed := events.foldl serve feed

/-- The values of a flight were applied. -/
def land (feed : Feed) (flight : Flight) : Feed :=
  { feed with
    run := feed.run.land flight
    queued := feed.queued ++ (feed.run.completion flight).pushesInto feed.service.outbox
    waiting := feed.waiting ++ (feed.run.completion flight).pushesInto feed.service.outbox }

/-- One step of a feed, and of everything around it. -/
inductive Step : Feed → Feed → Prop where
  /-- Something happens to the service: bytes arrive in a chunk of any size, lines are worked on, a
  push is written, the daemon stops, or the socket begins to fail. -/
  | served {feed : Feed} (event : ServiceEvent) : Step feed (feed.serve event)
  /-- Anybody takes steps on the shared state. Nobody but a tick and the service itself puts lines
  into the client's queue or takes lines out. -/
  | outside {feed : Feed} (world : World)
      (hsteps : State.Steps true feed.run.world.state world.state)
      (hqueue : world.state.outboxes.get? feed.service.outbox =
        feed.run.world.state.outboxes.get? feed.service.outbox) :
      Step feed (feed.withRun { feed.run with world := world })
  | plan {feed : Feed} (hidle : feed.run.flight = none) : Step feed (feed.withRun feed.run.takeOff)
  | call {feed : Feed} {flight : Flight} {job : Job} (hflight : feed.run.flight = some flight)
      (hjob : flight.plan.jobs[flight.calls.length]? = some job) :
      Step feed (feed.withRun
        { feed.run with flight := some (flight.answered feed.run.world job) })
  | apply {feed : Feed} {flight : Flight} (hflight : feed.run.flight = some flight)
      (hdone : flight.calls.length = flight.plan.jobs.length) : Step feed (feed.land flight)
  | abandon {feed : Feed} : Step feed (feed.withRun { feed.run with flight := none })

/-- Any number of steps. -/
abbrev Steps : Feed → Feed → Prop := ReflTransGen Step

/-- Where a feed can come from a client that a daemon accepts at any moment. -/
inductive Reachable : Feed → Prop where
  | accepted (run : Run) (settings : Settings) (hreach : Run.Reachable true run)
      (hfresh : run.world.state.connections.get? ⟨run.world.state.lastConnection + 1⟩ = none) :
      Reachable (accept run settings)
  | step {feed after : Feed} (hreach : Reachable feed) (hstep : Step feed after) :
      Reachable after

variable {feed after : Feed} {happening : Happening} {world : World} {service middle : Service}
  {opening : Session} {heard : List (List UInt8)} {answers : List Answer}
  {pending handed : List Message} {waiting queued : List Push}

/-- The steps of another client are among those of others. -/
theorem step_of_service (other : Service) (event : ServiceEvent)
    (hother : other.outbox ≠ feed.service.outbox) :
    Step feed (feed.withRun
      { feed.run with world := (other.step feed.run.world event).1 }) := by
  obtain ⟨hsteps, hqueue⟩ := other.others_step feed.run.world event hother
  exact .outside _ hsteps hqueue

/-- Whatever events come for the service, the feed goes on. -/
theorem Reachable.serveAll (hreach : Reachable feed) (events : List ServiceEvent) :
    Reachable (feed.serveAll events) := by
  induction events generalizing feed with
  | nil => exact hreach
  | cons event rest ih => exact ih (hreach.step (.served event))

/-! ## From bytes to answers -/

/-- The line in hand is a subscription that is not there yet. -/
def hand (service : Service) : List Session.Verdict :=
  (service.loading.map fun load => Session.Verdict.subscribe load.1).toList

/-- The lines in the bytes that came in are answered, in hand, or ahead, in this order. -/
structure Reads (opening : Session) (heard : List (List UInt8)) (answers : List Answer)
    (service : Service) : Prop where
  splitter : service.splitter = LineSplitter.start.after heard
  lines : ∃ lines current,
    LineSplitter.start.linesOf heard = lines ++ current ++ service.inbox ∧
    service.session = opening.hear (lines ++ current) ∧
    (opening.hear lines).verdicts current = hand service ∧
    List.Forall₂ Answer.Meets (opening.verdicts lines) answers
  going : ∀ request phase, service.loading = some (request, phase) → phase.isDone = false
  idle : service.busy = false → service.inbox = [] ∧ service.loading = none

/-- One chunk more brings the lines that it ends. -/
theorem linesOf_concat (heard : List (List UInt8)) (bytes : List UInt8) :
    LineSplitter.start.linesOf (heard ++ [bytes]) = LineSplitter.start.linesOf heard ++
      ((LineSplitter.start.after heard).push bytes).2 := by
  rw [LineSplitter.linesOf_eq, LineSplitter.linesOf_eq, LineSplitter.after_eq,
    List.flatten_append, List.flatten_singleton, LineSplitter.push_append]

/-- One chunk more is pushed onto what is held. -/
theorem after_concat (heard : List (List UInt8)) (bytes : List UInt8) :
    LineSplitter.start.after (heard ++ [bytes]) =
      ((LineSplitter.start.after heard).push bytes).1 := by
  simp [LineSplitter.after]

/-- Nothing is in hand while no subscription is waited for. -/
theorem Reads.lines_of_none (hreads : Reads opening heard answers service)
    (hnone : service.loading = none) :
    ∃ lines, LineSplitter.start.linesOf heard = lines ++ service.inbox ∧
      service.session = opening.hear lines ∧
      List.Forall₂ Answer.Meets (opening.verdicts lines) answers := by
  obtain ⟨lines, current, hlines, hsession, hcurrent, hanswers⟩ := hreads.lines
  have hnothing : hand service = [] := by simp [hand, hnone]
  rw [hnothing, Session.verdicts_eq_nil_iff] at hcurrent
  subst hcurrent
  rw [List.append_nil] at hlines hsession
  exact ⟨lines, hlines, hsession, hanswers⟩

/-- While a subscription is waited for the service is busy. -/
theorem Reads.busy {load : Request × LoadPhase} (hreads : Reads opening heard answers service)
    (hload : service.loading = some load) : service.busy = true := by
  cases hbusy : service.busy with
  | true => rfl
  | false =>
    rw [(hreads.idle hbusy).2] at hload
    cases hload

/-- What is handed to the socket makes no difference to what was read. -/
theorem Reads.of_delivers {middle : World} {messages : List String} {after : Service}
    (hreads : Reads opening heard answers service)
    (hdelivers : service.Delivers world messages middle after) :
    Reads opening heard answers after := by
  cases hdelivers <;> exact ⟨hreads.splitter, hreads.lines, hreads.going, hreads.idle⟩

/-- A chunk that a service at rest receives is read. -/
theorem Reads.receive (hreads : Reads opening heard answers service) (bytes : List UInt8)
    (hidle : service.busy = false) :
    Reads opening (heard ++ [bytes]) answers (service.receive bytes) := by
  obtain ⟨hinbox, hnone⟩ := hreads.idle hidle
  obtain ⟨lines, hlines, hsession, hanswers⟩ := hreads.lines_of_none hnone
  rw [hinbox, List.append_nil] at hlines
  refine ⟨?_, ⟨lines, [], ?_, ?_, ?_, hanswers⟩, hreads.going, nofun⟩
  · rw [after_concat, ← hreads.splitter]
    rfl
  · rw [linesOf_concat, hlines, ← hreads.splitter, List.append_nil]
    rfl
  · rw [List.append_nil]
    exact hsession
  · have hnothing : hand (service.receive bytes) = hand service := rfl
    rw [hnothing, hand, hnone]
    rfl

/-- A line is judged, and asks for a subscription. -/
theorem Reads.ask {line : String} {rest : List String} {session : Session} {request : Request}
    (hreads : Reads opening heard answers service) (hbusy : service.busy = true)
    (hnone : service.loading = none) (hinbox : service.inbox = line :: rest)
    (hjudge : service.session.judge line = (session, .subscribe request)) :
    Reads opening heard answers
      { service with session := session, inbox := rest, loading := some (request, .asked) } := by
  obtain ⟨lines, hlines, hsession, hanswers⟩ := hreads.lines_of_none hnone
  rw [hinbox] at hlines
  refine ⟨hreads.splitter, ⟨lines, [line], ?_, ?_, ?_, hanswers⟩, ?_, ?_⟩
  · rw [hlines, List.append_assoc]
    rfl
  · rw [Session.hear_append, ← hsession]
    exact (congrArg Prod.fst hjudge).symm
  · rw [← hsession, Session.verdicts, hjudge]
    rfl
  · rintro _ _ ⟨⟩
    rfl
  · exact fun hidle => by cases hbusy.symm.trans hidle

/-- The subscription that is waited for comes one step further. -/
theorem Reads.load {request : Request} {phase reached : LoadPhase}
    (hreads : Reads opening heard answers service)
    (hload : service.loading = some (request, phase)) (hgoing : reached.isDone = false) :
    Reads opening heard answers { service with loading := some (request, reached) } := by
  obtain ⟨lines, current, hlines, hsession, hcurrent, hanswers⟩ := hreads.lines
  refine ⟨hreads.splitter, ⟨lines, current, hlines, hsession, ?_, hanswers⟩, ?_, ?_⟩
  · rw [hcurrent, hand, hload]
    rfl
  · rintro _ _ ⟨⟩
    exact hgoing
  · exact fun hidle => by cases (hreads.busy hload).symm.trans hidle

/-- The subscription that is waited for comes to its end. -/
theorem Reads.finish {request : Request} {phase : LoadPhase}
    (hreads : Reads opening heard answers service)
    (hload : service.loading = some (request, phase))
    (result : Except SubscriptionError SubscriptionId) :
    Reads opening heard (answers ++ [.ofResult result]) { service with loading := none } := by
  obtain ⟨lines, current, hlines, hsession, hcurrent, hanswers⟩ := hreads.lines
  rw [hand, hload] at hcurrent
  refine ⟨hreads.splitter, ⟨lines ++ current, [], ?_, ?_, rfl, ?_⟩, ?_, ?_⟩
  · rw [List.append_nil]
    exact hlines
  · rw [List.append_nil]
    exact hsession
  · rw [Session.verdicts_append, hcurrent]
    exact List.rel_append hanswers (.cons (.ended request result) .nil)
  · intro _ _ hload
    cases hload
  · exact fun hidle => ⟨(hreads.idle hidle).1, rfl⟩

/-- A line is judged, and gets its answer at once. -/
theorem Reads.respond {line : String} {rest : List String} {session : Session}
    {response : Response} (hreads : Reads opening heard answers service)
    (hbusy : service.busy = true) (hnone : service.loading = none)
    (hinbox : service.inbox = line :: rest)
    (hjudge : service.session.judge line = (session, .respond response)) :
    Reads opening heard (answers ++ [⟨response, none⟩])
      { service with session := session, inbox := rest } := by
  obtain ⟨lines, hlines, hsession, hanswers⟩ := hreads.lines_of_none hnone
  rw [hinbox] at hlines
  refine ⟨hreads.splitter, ⟨lines ++ [line], [], ?_, ?_, ?_, ?_⟩, hreads.going, ?_⟩
  · rw [hlines, List.append_nil, List.append_assoc]
    rfl
  · rw [List.append_nil, Session.hear_append, ← hsession]
    exact (congrArg Prod.fst hjudge).symm
  · rw [hand, hnone]
    rfl
  · rw [Session.verdicts_append, ← hsession, Session.verdicts, hjudge]
    exact List.rel_append hanswers (.cons (.responded response) .nil)
  · exact fun hidle => by cases hbusy.symm.trans hidle

/-- Giving a line its response changes nothing about what was read. -/
theorem Reads.of_respond (hreads : Reads opening heard answers service) (response : Response) :
    Reads opening heard answers (service.respond world response).2 := by
  cases response with
  | silent => exact hreads
  | reply text => exact ⟨hreads.splitter, hreads.lines, hreads.going, hreads.idle⟩
  | farewell text =>
    have hkept : Reads opening heard answers { service.keepReply text with replies := [] } :=
      ⟨hreads.splitter, hreads.lines, hreads.going, hreads.idle⟩
    have hwritten := hkept.of_delivers ((service.keepReply text).delivers_writeReplies world)
    exact ⟨hwritten.splitter, hwritten.lines, hwritten.going, hwritten.idle⟩

/-- An answer is recorded, and all that is pending is flushed with a farewell. -/
theorem record_answered (feed : Feed) (answer : Answer) : feed.record (.answered answer) =
    if answer.isFarewell then (feed.answer answer).flush else feed.answer answer := rfl

/-- To record an answer leaves what was read as it is. -/
theorem reads_record_answered {answer : Answer}
    (hreads : Reads feed.opening feed.heard (feed.answers ++ [answer]) service) :
    Reads (feed.record (.answered answer)).opening (feed.record (.answered answer)).heard
      (feed.record (.answered answer)).answers service := by
  rw [record_answered]
  split <;> exact hreads

/-- A step of the service keeps the lines in their order. -/
theorem reads_turn {world after : World}
    (hreads : Reads feed.opening feed.heard feed.answers feed.service)
    (hturn : feed.service.Turn world happening after service) :
    Reads (feed.record happening).opening (feed.record happening).heard
      (feed.record happening).answers service := by
  cases hturn with
  | rested room => exact ⟨hreads.splitter, hreads.lines, hreads.going, hreads.idle⟩
  | ended => exact ⟨hreads.splitter, hreads.lines, hreads.going, hreads.idle⟩
  | heard bytes hidle => exact hreads.receive bytes hidle
  | asked line rest session request hbusy hnone hinbox hjudge =>
    exact hreads.ask hbusy hnone hinbox hjudge
  | loading request phase reached after hload hstep hgoing =>
    exact hreads.load hload hgoing
  | loaded request phase after result hload hstep =>
    have hfinished := hreads.finish hload result
    exact reads_record_answered
      ⟨hfinished.splitter, hfinished.lines, hfinished.going, hfinished.idle⟩
  | responded line rest session response hbusy hnone hinbox hjudge =>
    exact reads_record_answered
      ((hreads.respond hbusy hnone hinbox hjudge).of_respond response)
  | flushed hnone hinbox =>
    have hidle : Reads feed.opening feed.heard feed.answers
        { feed.service with busy := false, replies := [] } :=
      ⟨hreads.splitter, hreads.lines, hreads.going, fun _ => ⟨hinbox, hnone⟩⟩
    exact hidle.of_delivers ({ feed.service with busy := false }.delivers_writeReplies world)
  | relayed line rest hidle hqueue =>
    exact hreads.of_delivers (Service.delivers_deliver ..)

/-! ## From answers to the socket -/

/-- What was handed to the socket and what is kept are the replies to the lines, in their order. -/
structure Writes (answers : List Answer) (pending handed : List Message) (service : Service) :
    Prop where
  kept : service.replies.reverse = pending.map Message.text
  told : handed.filter Message.isReply ++ pending = answers.filterMap Answer.message?
  taken : service.Takes (handed.map Message.text)

/-- The message of an answer is a reply. -/
theorem isReply_of_message? {answer : Answer} {message : Message}
    (hmessage : answer.message? = some message) : message.isReply = true := by
  obtain ⟨text, _, rfl⟩ := Option.map_eq_some_iff.mp hmessage
  rfl

/-- Nothing but replies is kept. -/
theorem Writes.isReply (hwrites : Writes answers pending handed service) :
    ∀ message ∈ pending, message.isReply = true := by
  intro message hmem
  have hanswers : message ∈ answers.filterMap Answer.message? := by
    rw [← hwrites.told]
    exact List.mem_append_right _ hmem
  obtain ⟨answer, _, hmessage⟩ := List.mem_filterMap.mp hanswers
  exact isReply_of_message? hmessage

/-- Nor does a reply that is kept besides change this. -/
theorem Writes.isReply_concat (hwrites : Writes answers pending handed service) (text : String)
    (granted : Option SubscriptionId) :
    ∀ message ∈ pending ++ [.reply text granted], message.isReply = true := by
  intro message hmem
  rcases List.mem_append.mp hmem with hmem | hmem
  · exact hwrites.isReply message hmem
  · rw [List.mem_singleton.mp hmem]
    rfl

/-- What is written depends on the replies, the socket and its failure only. -/
theorem Writes.of_same (hwrites : Writes answers pending handed service)
    (hreplies : middle.replies = service.replies) (hwritten : middle.written = service.written)
    (hfragment : middle.fragment = service.fragment)
    (hclosed : service.closed = true → middle.closed = true) :
    Writes answers pending handed middle where
  kept := by rw [hreplies, hwrites.kept]
  told := hwrites.told
  taken := hwrites.taken.of_same hwritten hfragment hclosed

/-- To close a service leaves what was written as it is. -/
theorem Writes.close (hwrites : Writes answers pending handed service) :
    Writes answers pending handed (service.close world).2 :=
  hwrites.of_same rfl rfl rfl fun _ => rfl

/-- A silent answer. -/
theorem Writes.skip {answer : Answer} (hwrites : Writes answers pending handed service)
    (hsilent : answer.message? = none) : Writes (answers ++ [answer]) pending handed service where
  kept := hwrites.kept
  told := by
    rw [hwrites.told, List.filterMap_append]
    simp [hsilent]
  taken := hwrites.taken

/-- An answer with a reply, which is kept. -/
theorem Writes.keep {answer : Answer} {text : String}
    (hwrites : Writes answers pending handed service)
    (hmessage : answer.message? = some (.reply text answer.granted)) :
    Writes (answers ++ [answer]) (pending ++ [.reply text answer.granted]) handed
      (service.keepReply text) where
  kept := by
    rw [Service.keepReply, List.reverse_cons, hwrites.kept, List.map_append]
    rfl
  told := by
    rw [← List.append_assoc, hwrites.told, List.filterMap_append]
    simp [hmessage]
  taken := hwrites.taken.of_same rfl rfl fun hclosed => hclosed

/-- The replies that were kept are handed over. -/
theorem Writes.flush {after : World} (hwrites : Writes answers pending handed service)
    (hopen : service.closed = false)
    (hdelivers : { service with replies := [] }.Delivers world service.replies.reverse after
      middle) : Writes answers [] (handed ++ pending) middle where
  kept := by cases hdelivers <;> rfl
  told := by
    rw [List.append_nil, List.filter_append, List.filter_eq_self.mpr hwrites.isReply, hwrites.told]
  taken := by
    have htaken : { service with replies := [] }.Takes (handed.map Message.text) :=
      hwrites.taken.of_same rfl rfl fun hclosed => hclosed
    rw [List.map_append, ← hwrites.kept]
    exact hdelivers.takes htaken hopen

/-- A push is handed over. -/
theorem Writes.push {push : Push} {after : World} (hwrites : Writes answers pending handed service)
    (hopen : service.closed = false)
    (hdelivers : service.Delivers world [push.line] after middle) :
    Writes answers pending (handed ++ [.push push]) middle where
  kept := by
    have hreplies : middle.replies = service.replies := by cases hdelivers <;> rfl
    rw [hreplies, hwrites.kept]
  told := by
    rw [← hwrites.told, List.filter_append]
    simp [Message.isReply]
  taken := by
    rw [List.map_append]
    exact hdelivers.takes hwrites.taken hopen

/-- To relay is to hand the first push on that waits. -/
theorem relay_of_cons {push : Push} {rest : List Push} (hwaiting : feed.waiting = push :: rest) :
    feed.relay = { feed with handed := feed.handed ++ [.push push], waiting := rest } := by
  rw [relay, hwaiting]
  rfl

/-- The lines in the queue of a service are those of some pushes. -/
def Holds (state : State) (service : Service) (waiting : List Push) : Prop :=
  (state.outboxes.get? service.outbox).map Outbox.lines = some (waiting.map Push.line)

/-- The next line in the queue is that of the next push. -/
theorem Holds.cons {state : State} {line : String} {rest : List String}
    (hholds : Holds state service waiting)
    (hqueue : (state.outboxes.get? service.outbox).map Outbox.lines = some (line :: rest)) :
    ∃ push more, waiting = push :: more ∧ push.line = line ∧ more.map Push.line = rest := by
  rw [Holds, hqueue, Option.some.injEq] at hholds
  obtain ⟨push, more, hwaiting, hline, hrest⟩ := List.map_eq_cons_iff.mp hholds.symm
  exact ⟨push, more, hwaiting, hline, hrest⟩

/-- A step of the service hands over what was kept, and the next push, in their order. -/
theorem writes_turn {world after : World}
    (hwrites : Writes feed.answers feed.pending feed.handed feed.service)
    (hholds : Holds world.state feed.service feed.waiting) (hopen : feed.service.closed = false)
    (hturn : feed.service.Turn world happening after service) :
    Writes (feed.record happening).answers (feed.record happening).pending
      (feed.record happening).handed service := by
  cases hturn with
  | rested | heard | asked | loading => exact hwrites.of_same rfl rfl rfl fun hclosed => hclosed
  | ended => exact hwrites.close
  | loaded request phase after result hload hstep =>
    have hloaded : Writes feed.answers feed.pending feed.handed
        { feed.service with loading := none } := hwrites.of_same rfl rfl rfl fun hclosed => hclosed
    exact hloaded.keep rfl
  | responded line rest session response hbusy hnone hinbox hjudge =>
    have hjudged : Writes feed.answers feed.pending feed.handed
        { feed.service with session := session, inbox := rest } :=
      hwrites.of_same rfl rfl rfl fun hclosed => hclosed
    cases response with
    | silent =>
      have hskipped : Writes (feed.answers ++ [⟨.silent, none⟩]) (feed.pending ++ [])
          feed.handed { feed.service with session := session, inbox := rest } := by
        rw [List.append_nil]
        exact hjudged.skip rfl
      exact hskipped
    | reply text => exact hjudged.keep rfl
    | farewell text =>
      have hkept : Writes (feed.answers ++ [⟨.farewell text, none⟩])
          (feed.pending ++ [.reply text none]) feed.handed
          ({ feed.service with session := session, inbox := rest }.keepReply text) :=
        hjudged.keep rfl
      exact (hkept.flush hopen (Service.delivers_writeReplies _ world)).close
  | flushed hnone hinbox =>
    have hidle : Writes feed.answers feed.pending feed.handed
        { feed.service with busy := false } := hwrites.of_same rfl rfl rfl fun hclosed => hclosed
    exact hidle.flush hopen (Service.delivers_writeReplies _ world)
  | relayed line rest hidle hqueue =>
    obtain ⟨push, more, hwaiting, rfl, rfl⟩ := hholds.cons hqueue
    rw [record, relay_of_cons hwaiting]
    exact hwrites.push hopen (Service.delivers_deliver ..)

/-- Nothing is kept while the service is idle. -/
theorem quiet_turn {world after : World}
    (hquiet : feed.service.busy = false → feed.pending = [])
    (hreads : Reads feed.opening feed.heard feed.answers feed.service)
    (hturn : feed.service.Turn world happening after service) (hidle : service.busy = false) :
    (feed.record happening).pending = [] := by
  cases hturn with
  | rested | ended => exact hquiet hidle
  | heard => cases hidle
  | asked line rest session request hbusy => cases hbusy.symm.trans hidle
  | loading request phase reached after hload => cases (hreads.busy hload).symm.trans hidle
  | loaded request phase after result hload => cases (hreads.busy hload).symm.trans hidle
  | responded line rest session response hbusy =>
    cases response with
    | silent | reply => cases hbusy.symm.trans hidle
    | farewell text => rfl
  | flushed => rfl
  | relayed line rest hbefore =>
    exact hquiet hbefore

/-- After a farewell there is no other answer, and no message after its reply. -/
def Closes (answers : List Answer) (handed : List Message) (service : Service) : Prop :=
  ∀ answer ∈ answers, answer.isFarewell = true →
    service.closed = true ∧ answers.getLast? = some answer ∧ handed.getLast? = answer.message?

/-- A service that is closed in a turn closes as it should. -/
theorem closes_turn {world after : World}
    (hcloses : Closes feed.answers feed.handed feed.service) (hopen : feed.service.closed = false)
    (hturn : feed.service.Turn world happening after service) :
    Closes (feed.record happening).answers (feed.record happening).handed service := by
  have hbefore {answer : Answer} (hmem : answer ∈ feed.answers) : answer.isFarewell = false := by
    cases hlast : answer.isFarewell with
    | false => rfl
    | true =>
      have hclosed := (hcloses answer hmem hlast).1
      rw [hopen] at hclosed
      cases hclosed
  have hsame {handed : List Message} {service : Service} :
      Closes feed.answers handed service := by
    intro answer hmem hlast
    rw [hbefore hmem] at hlast
    cases hlast
  have hmore {answer : Answer} {handed : List Message} {service : Service}
      (hgoing : answer.isFarewell = false) : Closes (feed.answers ++ [answer]) handed service := by
    intro other hmem hlast
    rcases List.mem_append.mp hmem with hmem | hmem
    · rw [hbefore hmem] at hlast
      cases hlast
    · rw [List.mem_singleton.mp hmem, hgoing] at hlast
      cases hlast
  cases hturn with
  | rested | ended | heard | asked | loading | flushed | relayed => exact hsame
  | loaded => exact hmore rfl
  | responded line rest session response =>
    cases response with
    | silent | reply => exact hmore rfl
    | farewell text =>
      intro answer hmem hlast
      rcases List.mem_append.mp hmem with hmem | hmem
      · rw [hbefore hmem] at hlast
        cases hlast
      · rw [List.mem_singleton.mp hmem]
        refine ⟨rfl, List.getLast?_concat, ?_⟩
        exact (congrArg List.getLast? (List.append_assoc ..).symm).trans List.getLast?_concat

end Feed

end MetricsDaemon
