import MetricsDaemon.Proofs.Feeds
import MetricsDaemon.Proofs.Sharing

/-!
# What a client gets to read

The replies to the lines of a client and the pushes of its subscriptions share one socket.
Ticks queue pushes at any moment, also while a line waits for a module to be loaded, and
replies are kept until all lines of a chunk are answered. All the same the client reads
everything in order: a service writes a push only while it keeps no reply, and what is
subscribed by now has a later number than all that was pushed for before.
-/

namespace MetricsDaemon

open Service (Happening Turn)

namespace Feed

variable {feed after : Feed} {happening : Happening} {service middle : Service}
  {opening : Session} {heard : List (List UInt8)} {answers : List Answer}
  {pending handed : List Message} {waiting queued : List Push}

/-! ## From the queue to the socket -/

/-- What was handed to the socket and what waits are the pushes that were queued, in their order. -/
structure Waits (state : State) (service : Service) (handed : List Message)
    (waiting queued : List Push) : Prop where
  holds : Holds state service waiting
  pushed : handed.filterMap Message.push? ++ waiting = queued

/-- Handing over replies changes nothing about the pushes. -/
theorem Waits.replies {state : State} {more : List Message}
    (hwaits : Waits state service handed waiting queued)
    (hreplies : ∀ message ∈ more, message.isReply = true) :
    Waits state service (handed ++ more) waiting queued where
  holds := hwaits.holds
  pushed := by
    have hnone : more.filterMap Message.push? = [] := by
      rw [List.filterMap_eq_nil_iff]
      intro message hmem
      cases message with
      | reply => rfl
      | push sent => cases hreplies _ hmem
    rw [List.filterMap_append, hnone, List.append_nil, hwaits.pushed]

/-- What waits depends on the client's outbox and its queue only. -/
theorem Waits.of_same {before after : State} (hwaits : Waits before service handed waiting queued)
    (hqueue : after.outboxes.get? service.outbox = before.outboxes.get? service.outbox)
    (houtbox : middle.outbox = service.outbox) : Waits after middle handed waiting queued where
  holds := by
    rw [Holds, houtbox, hqueue]
    exact hwaits.holds
  pushed := hwaits.pushed

/-- A step of the service takes the next push out of the queue, or leaves the queue alone. -/
theorem waits_turn {world after : World}
    (hwaits : Waits world.state feed.service feed.handed feed.waiting feed.queued)
    (hwrites : Writes feed.answers feed.pending feed.handed feed.service)
    (hturn : feed.service.Turn world happening after service) :
    Waits after.state service (feed.record happening).handed (feed.record happening).waiting
      (feed.record happening).queued := by
  have hsame (hquiet : happening ≠ .relayed) :
      Waits after.state service feed.handed feed.waiting feed.queued :=
    hwaits.of_same (hturn.get?_outboxes fun hrelayed => absurd hrelayed hquiet) hturn.outbox
  cases hturn with
  | rested | ended | heard | asked | loading | loaded => exact hsame nofun
  | responded line rest session response =>
    cases response with
    | silent | reply => exact hsame nofun
    | farewell text => exact (hsame nofun).replies (hwrites.isReply_concat text none)
  | flushed => exact (hsame nofun).replies hwrites.isReply
  | relayed line rest hidle hqueue =>
    have hdelivers := feed.service.delivers_deliver
      (world.withState (world.state.keepLines feed.service.outbox rest)) [line]
    obtain ⟨push, more, hwaiting, _, hrest⟩ := hwaits.holds.cons hqueue
    have hpushed := hwaits.pushed
    rw [record, relay_of_cons hwaiting]
    constructor
    · have hkept : (world.state.keepLines feed.service.outbox rest).outboxes.get?
          feed.service.outbox = (world.state.outboxes.get? feed.service.outbox).map fun outbox =>
            { outbox with lines := rest } := by
        rw [State.keepLines, Table.get?_modify, if_pos rfl]
      rw [Holds, hdelivers.outbox, hdelivers.outboxes]
      refine (congrArg (Option.map Outbox.lines) hkept).trans ?_
      rw [hrest]
      cases hget : world.state.outboxes.get? feed.service.outbox with
      | none =>
        rw [hget] at hqueue
        cases hqueue
      | some outbox => rfl
    · rw [← hpushed, hwaiting]
      simp [Message.push?]

/-! ## Good answers and pushes -/

/-- The good answer that grants a subscription comes before every push for it. The answer is there
from the step on in which the subscription is made, and it is handed over first. -/
def Greets (answers : List Answer) (handed : List Message) : Prop :=
  ∀ front push back, handed = front ++ .push push :: back → ∀ answer ∈ answers,
    answer.granted = some push.subscription →
      answer.response = .reply "GOOD" ∧ .reply "GOOD" (some push.subscription) ∈ front

/-- Handing over more replies leaves every good answer before the pushes that it grants. -/
theorem Greets.replies {more : List Message} (hgreets : Greets answers handed)
    (hreplies : ∀ message ∈ more, message.isReply = true) : Greets answers (handed ++ more) := by
  intro front push back hsplit
  have hearlier : ∃ rest, handed = front ++ .push push :: rest := by
    rcases List.append_eq_append_iff.mp hsplit with ⟨middle, _, hmore⟩ | ⟨middle, hhanded, hmiddle⟩
    · have hmem : Message.push push ∈ more := by simp [hmore]
      cases hreplies _ hmem
    · rcases List.cons_eq_append_iff.mp hmiddle with ⟨_, hmore⟩ | ⟨rest, rfl, _⟩
      · have hmem : Message.push push ∈ more := by simp [hmore]
        cases hreplies _ hmem
      · exact ⟨rest, hhanded⟩
  obtain ⟨rest, hhanded⟩ := hearlier
  exact hgreets front push rest hhanded

/-- A push may be handed over once the good answer that granted its subscription was. -/
theorem Greets.push {push : Push} (hgreets : Greets answers handed)
    (htold : ∀ answer ∈ answers, answer.granted = some push.subscription →
      answer.response = .reply "GOOD" ∧ .reply "GOOD" (some push.subscription) ∈ handed) :
    Greets answers (handed ++ [.push push]) := by
  intro front other back hsplit
  rcases List.eq_nil_or_concat' back with rfl | ⟨rest, last, rfl⟩
  · obtain ⟨rfl, hlast⟩ := List.append_inj' hsplit rfl
    cases hlast
    exact htold
  · rw [← List.cons_append, ← List.append_assoc] at hsplit
    obtain ⟨hhanded, _⟩ := List.append_inj' hsplit rfl
    exact hgreets front other rest hhanded

/-- A new answer grants a subscription that nothing was pushed for yet. -/
theorem Greets.answer {answer : Answer} (hgreets : Greets answers handed)
    (hfresh : ∀ push ∈ handed.filterMap Message.push?,
      answer.granted ≠ some push.subscription) : Greets (answers ++ [answer]) handed := by
  intro front push back hsplit other hmem hgranted
  rcases List.mem_append.mp hmem with hmem | hmem
  · exact hgreets front push back hsplit other hmem hgranted
  · rw [List.mem_singleton.mp hmem] at hgranted
    refine absurd hgranted (hfresh push ?_)
    rw [hsplit, List.filterMap_append]
    simp [Message.push?]

/-- An answer that grants a subscription is a good one. -/
theorem Reads.good {answer : Answer} {id : SubscriptionId}
    (hreads : Reads opening heard answers service) (hmem : answer ∈ answers)
    (hgranted : answer.granted = some id) : answer = ⟨.reply "GOOD", some id⟩ := by
  obtain ⟨_, _, _, _, _, hanswers⟩ := hreads.lines
  obtain ⟨verdict, _, hmeets⟩ := Answer.exists_meets hanswers hmem
  exact hmeets.good hgranted

/-- A farewell is the answer to nothing but a goodbye. -/
theorem Reads.peace {answer : Answer} (hreads : Reads opening heard answers service)
    (hmem : answer ∈ answers) (hlast : answer.isFarewell = true) :
    answer = ⟨.farewell "PEACE", none⟩ := by
  obtain ⟨lines, _, _, _, _, hanswers⟩ := hreads.lines
  obtain ⟨verdict, hverdict, hmeets⟩ := Answer.exists_meets hanswers hmem
  obtain ⟨session, line, rfl⟩ := Session.exists_of_mem_verdicts hverdict
  have hjudged := session.judged_judge line
  generalize (session.judge line).2 = verdict at hjudged hmeets
  cases hjudged with
  | left =>
    cases hmeets
    rfl
  | ignored | answered | asked | looked =>
    cases hmeets
    cases hlast

/-- A new subscription has a later number than those that something was pushed for; and a push is
handed over only when nothing is kept, so that its good answer was handed over before. -/
theorem greets_turn {world after : World} (hgreets : Greets feed.answers feed.handed)
    (hreads : Reads feed.opening feed.heard feed.answers feed.service)
    (hwrites : Writes feed.answers feed.pending feed.handed feed.service)
    (hquiet : feed.service.busy = false → feed.pending = [])
    (hwaits : Waits world.state feed.service feed.handed feed.waiting feed.queued)
    (hsound : world.state.Sound true)
    (hnumbered : ∀ push ∈ feed.queued,
      push.subscription.number ≤ world.state.subscriptions.lastId)
    (hturn : feed.service.Turn world happening after service) :
    Greets (feed.record happening).answers (feed.record happening).handed := by
  cases hturn with
  | rested | ended | heard | asked | loading => exact hgreets
  | loaded request phase after result hload hstep =>
    refine hgreets.answer fun push hmem hgranted => ?_
    have hqueued : push ∈ feed.queued := by
      rw [← hwaits.pushed]
      exact List.mem_append_left _ hmem
    cases result with
    | error error => cases hgranted
    | ok id =>
      cases hgranted
      have hloads := world.loadStep_stepLoad request phase
      rw [hstep] at hloads
      have hfresh := (hloads.granted hsound (hreads.going request phase hload) rfl).1
      have hle := hnumbered push hqueued
      omega
  | responded line rest session response =>
    have hanswered : Greets (feed.answers ++ [⟨response, none⟩]) feed.handed :=
      hgreets.answer fun push hmem hgranted => by cases hgranted
    cases response with
    | silent | reply => exact hanswered
    | farewell text => exact hanswered.replies (hwrites.isReply_concat text none)
  | flushed => exact hgreets.replies hwrites.isReply
  | relayed line rest hidle hqueue =>
    obtain ⟨push, more, hwaiting, _, _⟩ := hwaits.holds.cons hqueue
    rw [record, relay_of_cons hwaiting]
    refine hgreets.push fun answer hmem hgranted => ?_
    have hgood := hreads.good hmem hgranted
    subst hgood
    refine ⟨rfl, ?_⟩
    have htold := hwrites.told
    rw [hquiet hidle, List.append_nil] at htold
    have hreply : Message.reply "GOOD" (some push.subscription) ∈
        feed.handed.filter Message.isReply := by
      rw [htold]
      exact List.mem_filterMap.mpr ⟨_, hmem, rfl⟩
    exact List.mem_of_mem_filter hreply

/-! ## Every feed -/

/-- What holds of a feed at every moment. -/
structure Sound (feed : Feed) : Prop where
  run : Run.Reachable true feed.run
  reads : Reads feed.opening feed.heard feed.answers feed.service
  writes : Writes feed.answers feed.pending feed.handed feed.service
  quiet : feed.service.busy = false → feed.pending = []
  closes : Closes feed.answers feed.handed feed.service
  waits : Waits feed.run.world.state feed.service feed.handed feed.waiting feed.queued
  greets : Greets feed.answers feed.handed
  /-- A push is for a subscription of some time, and ends with a line end. -/
  pushes : ∀ push ∈ feed.queued,
    push.subscription.number ≤ feed.run.world.state.subscriptions.lastId ∧
      ∃ body, push.line = body ++ lineEnd

/-- A feed is sound when its client is accepted. -/
theorem sound_accept {run : Run} (hreach : Run.Reachable true run) (settings : Settings)
    (hfresh : run.world.state.connections.get? ⟨run.world.state.lastConnection + 1⟩ = none) :
    (accept run settings).Sound where
  run := hreach.outside (.single (.connected _ _ _ hfresh))
  reads :=
    { splitter := rfl
      lines := ⟨[], [], rfl, rfl, rfl, .nil⟩
      going := fun _ _ hload => by cases hload
      idle := fun _ => ⟨rfl, rfl⟩ }
  writes := ⟨rfl, rfl, .whole rfl rfl⟩
  quiet _ := rfl
  closes := nofun
  waits := by
    refine ⟨?_, rfl⟩
    have hnew : (accept run settings).run.world.state.outboxes.get?
        ⟨run.world.state.lastOutbox + 1⟩ = some (.new Outbox.defaultCapacity) :=
      Table.get?_put_self ..
    exact congrArg (Option.map Outbox.lines) hnew
  greets front push back hsplit := by simp [accept] at hsplit
  pushes := nofun

/-- What others do leaves the feed alone. -/
theorem Sound.withRun {run : Run} (hsound : feed.Sound) (hstep : Run.Step true feed.run run)
    (hqueue : run.world.state.outboxes.get? feed.service.outbox =
      feed.run.world.state.outboxes.get? feed.service.outbox) : (feed.withRun run).Sound where
  run := hsound.run.step hstep
  reads := hsound.reads
  writes := hsound.writes
  quiet := hsound.quiet
  closes := hsound.closes
  waits := hsound.waits.of_same hqueue rfl
  greets := hsound.greets
  pushes push hmem := by
    obtain ⟨hle, hline⟩ := hsound.pushes push hmem
    exact ⟨Nat.le_trans hle (hsound.run.sound.succeeds hstep).last, hline⟩

/-- Recording what happened queues no push. -/
theorem queued_record : (feed.record happening).queued = feed.queued := by
  cases happening with
  | nothing | heard | flushed | relayed => rfl
  | answered answer =>
    rw [record_answered]
    split <;> rfl

/-- A service that is over serves nothing. -/
theorem serve_of_closed (hclosed : feed.service.closed = true) (event : ServiceEvent) :
    feed.serve event = feed := by
  obtain ⟨hstep, hhappening⟩ := Service.step_of_closed feed.run.world event hclosed
  rw [serve, hstep, hhappening]
  rfl

/-- Whatever the service meets, the feed stays sound. -/
theorem Sound.serve (hsound : feed.Sound) (event : ServiceEvent) : (feed.serve event).Sound := by
  cases hopen : feed.service.closed with
  | true =>
    rw [serve_of_closed hopen]
    exact hsound
  | false =>
    have hturn := feed.service.turn_step feed.run.world event hopen
    have hstep : Run.Step true feed.run
        { feed.run with world := (feed.service.step feed.run.world event).1 } :=
      .outside _ hturn.steps
    have hstate := hsound.run.sound.state
    exact
      { run := hsound.run.step hstep
        reads := reads_turn hsound.reads hturn
        writes := writes_turn hsound.writes hsound.waits.holds hopen hturn
        quiet := quiet_turn hsound.quiet hsound.reads hturn
        closes := closes_turn hsound.closes hopen hturn
        waits := waits_turn hsound.waits hsound.writes hturn
        greets := greets_turn hsound.greets hsound.reads hsound.writes hsound.quiet hsound.waits
          hstate (fun push hmem => (hsound.pushes push hmem).1) hturn
        pushes := by
          intro push hmem
          obtain ⟨hle, hline⟩ := hsound.pushes push (queued_record ▸ hmem)
          exact ⟨Nat.le_trans hle (hsound.run.sound.succeeds hstep).last, hline⟩ }

/-- A tick appends its pushes for the client to those that wait. -/
theorem Sound.waits_land {flight : Flight} (hsound : feed.Sound) :
    Waits (feed.run.completion flight).applied.state feed.service feed.handed
      (feed.waiting ++ (feed.run.completion flight).pushesInto feed.service.outbox)
      (feed.queued ++ (feed.run.completion flight).pushesInto feed.service.outbox) where
  holds := by
    have hmet : (feed.run.completion flight).met.Sound true := hsound.run.sound.state
    have hholds : ((feed.run.completion flight).met.outboxes.get? feed.service.outbox).map
        Outbox.lines = some (feed.waiting.map Push.line) := hsound.waits.holds
    rw [Holds, Completion.outboxes_applied hmet, List.map_append]
    cases hget : (feed.run.completion flight).met.outboxes.get? feed.service.outbox with
    | none =>
      rw [hget] at hholds
      cases hholds
    | some outbox =>
      rw [hget, Option.map_some, Option.some.injEq] at hholds
      rw [← hholds]
      rfl
  pushed := by rw [← hsound.waits.pushed, List.append_assoc]

/-- The feed stays sound when a tick is applied. -/
theorem Sound.land {flight : Flight} (hsound : feed.Sound)
    (hflight : feed.run.flight = some flight)
    (hdone : flight.calls.length = flight.plan.jobs.length) : (feed.land flight).Sound where
  run := hsound.run.step (.apply hflight hdone)
  reads := hsound.reads
  writes := hsound.writes
  quiet := hsound.quiet
  closes := hsound.closes
  waits := hsound.waits_land
  greets := hsound.greets
  pushes push hmem := by
    have hlast := (hsound.run.sound.succeeds (.apply hflight hdone)).last
    rcases List.mem_append.mp hmem with hmem | hmem
    · obtain ⟨hle, hline⟩ := hsound.pushes push hmem
      exact ⟨Nat.le_trans hle hlast, hline⟩
    · have hmet : (feed.run.completion flight).met.Sound true := hsound.run.sound.state
      obtain ⟨_, _, _, _, _, hget, _, _, _, _, _, _, _, hline⟩ :=
        Completion.delivers_of_mem hmet (hsound.run.sound.flight hflight)
          (List.mem_of_mem_filter hmem)
      exact ⟨Nat.le_trans (hmet.booked.table.le_lastId hget) hlast, _, hline⟩

/-- Every step keeps a feed sound. -/
theorem Sound.step (hsound : feed.Sound) (hstep : Step feed after) : after.Sound := by
  cases hstep with
  | served event => exact hsound.serve event
  | outside world hsteps hqueue => exact hsound.withRun (.outside world hsteps) hqueue
  | plan hidle =>
    have hdirectory := hsound.run.sound.state.booked.modules.directory
    refine hsound.withRun (.plan hidle) ?_
    exact congrArg (fun outboxes => Table.get? outboxes feed.service.outbox)
      (State.outboxes_plan hdirectory)
  | call hflight hjob => exact hsound.withRun (.call hflight hjob) rfl
  | apply hflight hdone => exact hsound.land hflight hdone
  | abandon => exact hsound.withRun .abandon rfl

/-- Every reachable feed is sound. -/
theorem Reachable.sound (hreach : Reachable feed) : feed.Sound := by
  induction hreach with
  | accepted run settings hreach hfresh => exact sound_accept hreach settings hfresh
  | step _ hstep ih => exact ih.step hstep

/-- What a client gets to read, and in which order. -/
structure Orders (feed : Feed) : Prop where
  /-- The socket took the messages that it was handed, one whole message after the other. Where it
  failed it took a part of one and nothing after it. -/
  taken : feed.service.Takes (feed.handed.map Message.text)
  ends : ∀ message ∈ feed.handed, ∃ body, message.text = body ++ lineEnd
  /-- The lines in the bytes that came in, however these were cut, are answered one after the other;
  an idle service has answered them all. -/
  answers : ∃ lines rest, LineSplitter.cut feed.heard.flatten = lines ++ rest ∧
    List.Forall₂ Answer.Meets (feed.opening.verdicts lines) feed.answers ∧
    (feed.service.busy = false → rest = [])
  /-- The replies to the lines are handed over in their order, and those that are not yet are kept;
  an idle service keeps none. -/
  replies : feed.handed.filter Message.isReply ++ feed.pending =
      feed.answers.filterMap Answer.message? ∧
    (feed.service.busy = false → feed.pending = [])
  /-- The pushes are handed over in the order in which ticks queued them, and those that are not
  yet are in the queue. -/
  pushes : feed.handed.filterMap Message.push? ++ feed.waiting = feed.queued ∧
    Holds feed.run.world.state feed.service feed.waiting
  greets : Greets feed.answers feed.handed
  /-- The farewell is the last answer, its reply the last message, and the service is over. -/
  closes : ∀ answer ∈ feed.answers, answer.isFarewell = true →
    answer = ⟨.farewell "PEACE", none⟩ ∧ feed.service.closed = true ∧
      feed.answers.getLast? = some answer ∧ feed.handed.getLast? = some (.reply "PEACE" none)
  /-- Whatever happens to a service that is over, nothing comes of it. -/
  deaf : feed.service.closed = true → ∀ event, feed.serve event = feed
  /-- Whatever else goes on, nothing more is written. -/
  still : feed.service.closed = true → ∀ after, Steps feed after →
    after.service = feed.service ∧ after.answers = feed.answers ∧ after.handed = feed.handed

/-- No step of a feed whose service is over answers or hands over anything. -/
theorem Step.still (hstep : Step feed after) (hclosed : feed.service.closed = true) :
    after.service = feed.service ∧ after.answers = feed.answers ∧ after.handed = feed.handed := by
  cases hstep with
  | served event =>
    rw [serve_of_closed hclosed]
    exact ⟨rfl, rfl, rfl⟩
  | outside | plan | call | apply | abandon => exact ⟨rfl, rfl, rfl⟩

/-- Nothing is answered or handed over in any number of steps after the service is over. -/
theorem still_of_steps (hsteps : Steps feed after) (hclosed : feed.service.closed = true) :
    after.service = feed.service ∧ after.answers = feed.answers ∧ after.handed = feed.handed := by
  induction hsteps with
  | refl => exact ⟨rfl, rfl, rfl⟩
  | tail _ hstep ih =>
    obtain ⟨hservice, hanswers, hhanded⟩ := ih
    obtain ⟨hservice', hanswers', hhanded'⟩ := hstep.still (hservice ▸ hclosed)
    exact ⟨hservice'.trans hservice, hanswers'.trans hanswers, hhanded'.trans hhanded⟩

/-- Every message that was handed to the socket ends with a line end. -/
theorem Sound.ends (hsound : feed.Sound) :
    ∀ message ∈ feed.handed, ∃ body, message.text = body ++ lineEnd := by
  intro message hmem
  cases message with
  | reply text granted => exact ⟨text, rfl⟩
  | push sent =>
    have hqueued : sent ∈ feed.queued := by
      rw [← hsound.waits.pushed]
      exact List.mem_append_left _ (List.mem_filterMap.mpr ⟨_, hmem, rfl⟩)
    exact (hsound.pushes sent hqueued).2

/-- However the bytes of a client are cut, whatever it asks for, and whatever ticks, other clients
and provider code do between any two steps of its service: the socket carries whole messages, each a
reply or a push. Replies come in the order of the lines and pushes in the order in which they were
queued, none twice and none left out before a later one; the good answer that grants a subscription
comes before every push for it; and after a failed write or the reply to a farewell nothing more is
written, nor anything done. -/
theorem Reachable.messages_in_order (hreach : Reachable feed) : feed.Orders := by
  have hsound := hreach.sound
  obtain ⟨lines, current, hlines, _, hcurrent, hanswers⟩ := hsound.reads.lines
  refine
    { taken := hsound.writes.taken
      ends := hsound.ends
      answers := ⟨lines, current ++ feed.service.inbox, ?_, hanswers, fun hidle => ?_⟩
      replies := ⟨hsound.writes.told, hsound.quiet⟩
      pushes := ⟨hsound.waits.pushed, hsound.waits.holds⟩
      greets := hsound.greets
      closes := fun answer hmem hlast => ?_
      deaf := serve_of_closed
      still := fun hclosed after hsteps => still_of_steps hsteps hclosed }
  · rw [← LineSplitter.linesOf_start, hlines, List.append_assoc]
  · obtain ⟨hinbox, hnone⟩ := hsound.reads.idle hidle
    have hnothing : hand feed.service = [] := by simp [hand, hnone]
    rw [hnothing, Session.verdicts_eq_nil_iff] at hcurrent
    rw [hcurrent, hinbox]
    rfl
  · obtain ⟨hclosed, hlastAnswer, hlastMessage⟩ := hsound.closes answer hmem hlast
    have hpeace := hsound.reads.peace hmem hlast
    rw [hpeace] at hlastMessage
    exact ⟨hpeace, hclosed, hlastAnswer, hlastMessage⟩

end Feed

namespace Sample

/-- A daemon with a module and without connections. -/
def lobby : Run := { empty with world := empty.world.withState furnished }

/-- The first line of a client came in two chunks and is answered, the second one is not yet. -/
def greeted : Feed :=
  (Feed.accept lobby .default).serveAll
    [.received (Text.utf8 "var a:do"), .proceeded,
      .received (Text.utf8 "or\r\ncfg 1:m:k:1\r\n"), .proceeded, .proceeded, .proceeded]

/-- The flight of a tick, after its call. -/
def mail : Flight :=
  (⟨greeted.run.world.state, greeted.run.world.host.now, []⟩ : Flight).answered
    greeted.run.takeOff.world job

/-- The tick was applied. -/
def mailed : Feed := (greeted.withRun { greeted.run.takeOff with flight := some mail }).land mail

/-- The second line was answered, the push was written, and the client took its leave. -/
def parted : Feed :=
  mailed.serveAll
    [.proceeded, .proceeded, .relayed, .received (Text.utf8 "bye\r\nvar b:door\r\n"), .proceeded]

/-- The feed whose client took its leave is reached. -/
theorem reachable_parted : parted.Reachable := by
  have hempty : Run.Reachable true empty := .start _ .everything .default rfl
  have hlobby : Run.Reachable true lobby := hempty.outside (.single (.installed _))
  have hgreeted : greeted.Reachable :=
    (Feed.Reachable.accepted lobby .default hlobby rfl).serveAll _
  have hplanned : (greeted.withRun greeted.run.takeOff).Reachable := hgreeted.step (.plan rfl)
  have hcalled :
      (greeted.withRun { greeted.run.takeOff with flight := some mail }).Reachable :=
    hplanned.step (.call rfl (by with_unfolding_all rfl))
  have hmailed : mailed.Reachable := hcalled.step (.apply rfl (by with_unfolding_all rfl))
  exact hmailed.serveAll _

end Sample

/-- A push that is queued while the second line of a chunk is not answered yet comes after the
replies to both; the line behind the farewell is never judged. -/
theorem messages_in_order_parted :
    Sample.parted.Orders ∧
      Sample.mailed.waiting.map Push.line = ["a:0:open\r\n"] ∧
      Sample.mailed.service.inbox = ["cfg 1:m:k:1"] ∧
      Sample.parted.service.written.reverse =
        ["GOOD\r\n", "cfg:1:0\r\n", "a:0:open\r\n", "PEACE\r\n"] ∧
      Sample.parted.service.inbox = ["var b:door"] ∧ Sample.parted.service.closed = true := by
  refine ⟨Feed.Reachable.messages_in_order Sample.reachable_parted, ?_, ?_, ?_, ?_, ?_⟩ <;>
    with_unfolding_all rfl

end MetricsDaemon
