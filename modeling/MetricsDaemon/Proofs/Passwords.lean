import MetricsDaemon.Proofs.Admission
import MetricsDaemon.Proofs.Buffers
import MetricsDaemon.Proofs.Ordering

/-!
# Which passwords can be given

A password is given in a line of its own, in any number of chunks. What stands in the line is
trimmed before it is compared; what stands in the settings is not. So a password is of use
exactly if there is no white space at either end of it. With any other one the daemon locks
out whoever gives the password just as it stands in the settings.
-/

namespace MetricsDaemon

/-! ## The bytes of a line -/

namespace Text

/-- The bytes of two texts come one after the other. -/
theorem utf8_append (s t : String) : utf8 (s ++ t) = utf8 s ++ utf8 t := by
  rw [utf8, String.toList_append, List.flatMap_append, utf8, utf8]

/-- Trimming leaves a text as it is exactly if there is no white space at either end of it. -/
theorem trim_eq_self_iff (s : String) : trim s = s ↔ StartsBare s.toList ∧ EndsBare s.toList := by
  rw [trim, ← String.toList_inj, String.toList_ofList]
  constructor
  · intro hsame
    rw [← hsame]
    exact ⟨startsBare_strip s.toList, endsBare_strip s.toList⟩
  · rintro ⟨hstart, hend⟩
    exact strip_eq_self hstart hend

end Text

namespace LineSplitter

variable {line : String}

/-- A text of one line has no byte of a line feed. -/
theorem lineFeed_not_mem_utf8 (hline : '\n' ∉ line.toList) : lineFeed ∉ Text.utf8 line := by
  intro hmem
  obtain ⟨c, hc, hbyte⟩ := List.mem_flatMap.mp hmem
  have hnumber : c.toNat = '\n'.toNat := Text.toNat_eq_of_mem_utf8EncodeChar hbyte (by decide)
  rw [Char.toNat_inj.mp hnumber] at hc
  exact hline hc

/-- The bytes of a line with its end: those up to the carriage return, and the line feed. -/
theorem utf8_line (line : String) :
    Text.utf8 (line ++ lineEnd) = Text.utf8 (line ++ "\r") ++ [lineFeed] := by
  rw [Text.utf8_append, Text.utf8_append, List.append_assoc]
  rfl

/-- A line that is sent is cut off as it was, once all of it is there, and nothing before. -/
theorem cut_of_prefix {front : List UInt8} (hline : '\n' ∉ line.toList)
    (hshort : (Text.utf8 (line ++ "\r")).length ≤ longestLine)
    (hfront : front <+: Text.utf8 (line ++ lineEnd)) :
    cut front = if front = Text.utf8 (line ++ lineEnd) then [line] else [] := by
  have hreturn : '\n' ∉ (line ++ "\r").toList := by simpa [String.toList_append] using hline
  have hsegment := lineFeed_not_mem_utf8 hreturn
  rw [utf8_line] at hfront ⊢
  rcases List.prefix_concat_iff.mp hfront with rfl | hfront
  · have hbytes : withoutReturn (Text.utf8 (line ++ "\r")) = Text.utf8 line := by
      have hlast : Text.utf8 (line ++ "\r") = Text.utf8 line ++ [carriageReturn] :=
        Text.utf8_append line "\r"
      rw [hlast, withoutReturn, List.getLast?_concat, if_pos rfl, List.dropLast_concat]
    rw [if_pos rfl, cut_append_cons hsegment, if_pos hshort, hbytes, Text.fromUtf8Lossy_utf8]
    rfl
  · have hopen : lineFeed ∉ front := fun hmem => hsegment (hfront.subset hmem)
    have hother : front ≠ Text.utf8 (line ++ "\r") ++ [lineFeed] := by
      rintro rfl
      exact hopen List.mem_concat_self
    have hwhole := List.splitOn_eq_singleton hopen
    rw [if_neg hother, cut, hwhole]
    rfl

end LineSplitter

namespace Session

/-- A password with no white space at either end. -/
def Givable (password : String) : Prop :=
  Text.StartsBare password.toList ∧ Text.EndsBare password.toList

instance : DecidablePred Givable := fun _ => instDecidableAnd

/-- The line in which a client gives a password. -/
def offer (password : String) : String := "pass: " ++ password

/-- The reply to a client that gives a password just as it stands in the settings. -/
def greeting (password : String) : String :=
  if Givable password then Reply.welcome.text else Reply.refused.text

variable {session : Session} {password : String}

/-- The line with a password gives it exactly if there is no white space at its ends. -/
theorem gives_offer_iff : Gives password (offer password) ↔ Givable password := by
  have hblank : Text.trim (" " ++ password) = Text.trim password := by
    simp [Text.trim, Text.strip, Text.dropLeading, Text.isBlank]
  have hsplit : offer password = "pass:" ++ (" " ++ password) := by
    rw [offer, ← String.append_assoc]
    rfl
  rw [Givable, ← Text.trim_eq_self_iff]
  constructor
  · rintro ⟨rest, hrest, hpassword⟩
    rw [hsplit, String.append_right_inj] at hrest
    rw [← hblank, hrest, hpassword]
  · exact fun hsame => ⟨" " ++ password, hsplit, hblank.trans hsame⟩

/-- A password with white space at an end is in no line whatever. -/
theorem exists_gives_iff : (∃ line, Gives password line) ↔ Givable password := by
  constructor
  · rintro ⟨_, rest, _, rfl⟩
    rw [Givable, Text.trim, String.toList_ofList]
    exact ⟨Text.startsBare_strip rest.toList, Text.endsBare_strip rest.toList⟩
  · exact fun hgivable => ⟨offer password, gives_offer_iff.mpr hgivable⟩

/-- A stranger who offers the password is let in exactly if it can be given. -/
theorem judge_offer (hstranger : session.authenticated = false)
    (hpassword : session.password = some password) :
    session.judge (offer password) =
      ({ session with authenticated := decide (Givable password) },
        .respond (.reply (greeting password))) := by
  have hmark : passwordMark.isPrefixOf (offer password).toList = true := by
    simp [offer, passwordMark, List.isPrefixOf, String.toList_append]
  by_cases hgivable : Givable password
  · rw [judge_of_gives hstranger hpassword (gives_offer_iff.mpr hgivable), greeting,
      if_pos hgivable, decide_eq_true hgivable]
    rfl
  · have hrefused : refusal (offer password) = .reply (greeting password) := by
      rw [refusal, if_pos hmark, greeting, if_neg hgivable]
      rfl
    rw [judge_of_not_gives hstranger hpassword (not_isBlank_of_isPrefixOf hmark)
      (gives_offer_iff.not.mpr hgivable), hrefused, decide_eq_false hgivable, ← hstranger]

end Session

/-! ## Working on the lines in hand -/

namespace Service

variable {service : Service} {world : World} {messages : List String}

/-- Nothing is wrong with the service or its socket. -/
def IsWell (service : Service) : Prop := service.closed = false ∧ service.room = none

/-- A busy service without a load proceeds with its next line. -/
theorem step_proceeded (hopen : service.closed = false) (hbusy : service.busy = true)
    (hnone : service.loading = none) :
    service.step world .proceeded = service.proceedLine world := by
  unfold step
  rw [hopen, hbusy, proceed, hnone]
  rfl

/-- A service at rest has nothing to proceed with. -/
theorem step_proceeded_of_idle (hidle : service.busy = false) :
    service.step world .proceeded = (world, service) := by
  unfold step
  rw [hidle]
  split <;> rfl

/-- Where no line is left the replies are written, and the service rests. -/
theorem proceedLine_of_nil (hinbox : service.inbox = []) :
    service.proceedLine world = { service with busy := false }.writeReplies world := by
  rw [proceedLine]
  split
  · rfl
  · next hcons => cases hinbox.symm.trans hcons

/-- A socket without a limit takes all messages. -/
theorem write_of_room_eq_none (hroom : service.room = none) :
    service.write messages =
      ({ service with written := messages.reverse ++ service.written }, true) := by
  induction messages generalizing service with
  | nil => rfl
  | cons message rest ih =>
    rw [write, hroom]
    refine (ih rfl).trans ?_
    rw [List.reverse_cons, List.append_assoc]
    rfl

/-- Whatever is handed to its socket, a service is as busy as before. -/
theorem Delivers.busy {middle : World} {after : Service}
    (hdelivers : service.Delivers world messages middle after) : after.busy = service.busy := by
  cases hdelivers <;> rfl

/-- A service is still well when it has written its replies. -/
theorem IsWell.writeReplies (hwell : service.IsWell) :
    (service.writeReplies world).2.IsWell := by
  have hwrite : { service with replies := [] }.write service.replies.reverse =
      ({ service with
        replies := [], written := service.replies.reverse.reverse ++ service.written }, true) :=
    write_of_room_eq_none hwell.2
  rw [Service.writeReplies, deliver, hwrite]
  exact hwell

end Service

namespace Feed

open Service (Happening)
open Session (Givable greeting offer)

variable {run : Run} {settings : Settings} {feed after : Feed} {password : String}
  {event : ServiceEvent}

/-- What is recorded leaves the opening as it is. -/
theorem opening_record (feed : Feed) (happening : Happening) :
    (feed.record happening).opening = feed.opening := by
  cases happening with
  | answered answer =>
    rw [record_answered]
    split <;> rfl
  | _ => rfl

/-- Whatever happens, the opening stays as it is. -/
theorem Steps.opening (hsteps : Steps feed after) : after.opening = feed.opening := by
  induction hsteps with
  | refl => rfl
  | tail _ hstep ih =>
    refine Eq.trans ?_ ih
    cases hstep with
    | served event => exact opening_record _ _
    | outside | plan | call | apply | abandon => rfl

/-- Two rows of events are served one after the other. -/
theorem serveAll_append (first second : List ServiceEvent) :
    feed.serveAll (first ++ second) = (feed.serveAll first).serveAll second := List.foldl_append

/-- What the service itself does puts no push into its queue. -/
theorem queued_serveAll (events : List ServiceEvent) :
    (feed.serveAll events).queued = feed.queued := by
  induction events generalizing feed with
  | nil => rfl
  | cons event rest ih =>
    have hrest : ((feed.serve event).serveAll rest).queued = (feed.serve event).queued := ih
    exact hrest.trans queued_record

/-- Working on the lines in hand brings in no bytes. -/
theorem heard_serve_proceeded (feed : Feed) : (feed.serve .proceeded).heard = feed.heard := by
  have hanswered (answer : Answer) : (feed.record (.answered answer)).heard = feed.heard := by
    rw [record_answered]
    split <;> rfl
  show (feed.record (feed.service.happening feed.run.world .proceeded)).heard = feed.heard
  dsimp only [Service.happening, Service.progress]
  repeat' split
  all_goals first | rfl | exact hanswered _

/-- A service at rest stays as it is when it is to proceed. -/
theorem service_serve_of_idle (hidle : feed.service.busy = false) :
    (feed.serve .proceeded).service = feed.service :=
  congrArg Prod.snd (Service.step_proceeded_of_idle hidle)

/-! ## A client that gives the password -/

/-- A client that sends the line with the password in its settings: what came in so far is the
front of that line, or all of it. -/
structure Offers (password : String) (feed : Feed) : Prop where
  sound : feed.Sound
  stranger : feed.opening.authenticated = false
  wanted : feed.opening.password = some password
  line : '\n' ∉ (offer password).toList
  short : (Text.utf8 (offer password ++ "\r")).length ≤ longestLine
  heard : feed.heard.flatten <+: Text.utf8 (offer password ++ lineEnd)

namespace Offers

/-- There is no other line. -/
theorem linesOf (hoffers : feed.Offers password) :
    LineSplitter.start.linesOf feed.heard =
      if feed.heard.flatten = Text.utf8 (offer password ++ lineEnd) then [offer password]
      else [] := by
  rw [LineSplitter.linesOf_start,
    LineSplitter.cut_of_prefix hoffers.line hoffers.short hoffers.heard]

/-- Of the lines that were heard the only one is the offer. -/
theorem eq_offer (hoffers : feed.Offers password) {front back : List String} {line : String}
    (hlines : LineSplitter.start.linesOf feed.heard = front ++ line :: back) :
    front = [] ∧ line = offer password ∧ back = [] := by
  rw [hoffers.linesOf] at hlines
  split at hlines
  · rcases List.append_eq_singleton_iff.mp hlines.symm with ⟨hfront, hrest⟩ | ⟨_, hrest⟩
    · obtain ⟨hline, hback⟩ := List.cons.inj hrest
      exact ⟨hfront, hline, hback⟩
    · cases hrest
  · cases List.append_eq_nil_iff.mp hlines.symm with
    | intro _ hrest => cases hrest

/-- The offer is judged by whether the password can be given. -/
theorem judge (hoffers : feed.Offers password) :
    feed.opening.judge (offer password) =
      ({ feed.opening with authenticated := decide (Givable password) },
        .respond (.reply (greeting password))) :=
  Session.judge_offer hoffers.stranger hoffers.wanted

/-- The line is never one that has to wait. -/
theorem loading (hoffers : feed.Offers password) : feed.service.loading = none := by
  obtain ⟨lines, current, hlines, _, hcurrent, _⟩ := hoffers.sound.reads.lines
  cases hload : feed.service.loading with
  | none => rfl
  | some load =>
    cases current with
    | nil =>
      rw [hand, hload] at hcurrent
      cases hcurrent
    | cons line rest =>
      rw [List.append_assoc, List.cons_append] at hlines
      obtain ⟨rfl, rfl, _⟩ := hoffers.eq_offer hlines
      have hfirst : (feed.opening.judge (offer password)).2 = .subscribe load.1 := by
        rw [hand, hload] at hcurrent
        exact (List.cons.inj hcurrent).1
      rw [hoffers.judge] at hfirst
      cases hfirst

/-- The line was not answered yet, if there is still one to answer. -/
theorem session_of_inbox {line : String} {rest : List String} (hoffers : feed.Offers password)
    (hinbox : feed.service.inbox = line :: rest) :
    feed.service.session = feed.opening ∧ line = offer password ∧ rest = [] := by
  obtain ⟨lines, hlines, hsession, _⟩ := hoffers.sound.reads.lines_of_none hoffers.loading
  rw [hinbox] at hlines
  obtain ⟨rfl, hline, hrest⟩ := hoffers.eq_offer hlines
  exact ⟨hsession, hline, hrest⟩

/-- Working on the line keeps what came in. -/
theorem proceeded (hoffers : feed.Offers password) : (feed.serve .proceeded).Offers password where
  sound := hoffers.sound.serve .proceeded
  stranger := (congrArg Session.authenticated (opening_record _ _)).trans hoffers.stranger
  wanted := (congrArg Session.password (opening_record _ _)).trans hoffers.wanted
  line := hoffers.line
  short := hoffers.short
  heard := by
    have hheard : (feed.serve .proceeded).heard = feed.heard := heard_serve_proceeded feed
    rw [hheard]
    exact hoffers.heard

/-- With no line left the replies are written. -/
theorem service_of_nil (hoffers : feed.Offers password) (hopen : feed.service.closed = false)
    (hbusy : feed.service.busy = true) (hinbox : feed.service.inbox = []) :
    (feed.serve .proceeded).service =
      ({ feed.service with busy := false }.writeReplies feed.run.world).2 := by
  show (feed.service.step feed.run.world .proceeded).2 = _
  rw [Service.step_proceeded hopen hbusy hoffers.loading, Service.proceedLine_of_nil hinbox]

/-- A line that is left is answered. -/
theorem service_of_cons {line : String} {rest : List String} (hoffers : feed.Offers password)
    (hopen : feed.service.closed = false) (hbusy : feed.service.busy = true)
    (hinbox : feed.service.inbox = line :: rest) :
    (feed.serve .proceeded).service =
      { feed.service with
        session := { feed.opening with authenticated := decide (Givable password) }
        inbox := []
        replies := (greeting password ++ lineEnd) :: feed.service.replies } := by
  obtain ⟨hsession, rfl, rfl⟩ := hoffers.session_of_inbox hinbox
  show (feed.service.step feed.run.world .proceeded).2 = _
  rw [Service.step_proceeded hopen hbusy hoffers.loading, Service.proceedLine, hinbox]
  dsimp only
  rw [hsession, hoffers.judge]
  rfl

/-- Without a line the service is idle after one turn. -/
theorem idle_of_nil (hoffers : feed.Offers password) (hopen : feed.service.closed = false)
    (hinbox : feed.service.inbox = []) :
    (feed.serve .proceeded).service.busy = false ∧
      (feed.service.IsWell → (feed.serve .proceeded).service.IsWell) := by
  cases hbusy : feed.service.busy with
  | false =>
    rw [service_serve_of_idle hbusy]
    exact ⟨hbusy, id⟩
  | true =>
    rw [hoffers.service_of_nil hopen hbusy hinbox]
    refine ⟨(Service.delivers_writeReplies _ _).busy, fun hwell => ?_⟩
    have hidle : { feed.service with busy := false }.IsWell := hwell
    exact hidle.writeReplies

/-- After two turns it is idle in any case. -/
theorem idle (hoffers : feed.Offers password) (hopen : feed.service.closed = false) :
    (feed.serveAll [.proceeded, .proceeded]).service.busy = false ∧
      (feed.service.IsWell → (feed.serveAll [.proceeded, .proceeded]).service.IsWell) := by
  have hboth : feed.serveAll [.proceeded, .proceeded] =
      (feed.serve .proceeded).serve .proceeded := rfl
  rw [hboth]
  cases hinbox : feed.service.inbox with
  | nil =>
    have hidle := hoffers.idle_of_nil hopen hinbox
    rwa [service_serve_of_idle hidle.1]
  | cons line rest =>
    have hbusy : feed.service.busy = true := by
      cases hbusy : feed.service.busy with
      | true => rfl
      | false => cases hinbox.symm.trans (hoffers.sound.reads.idle hbusy).1
    have hservice := hoffers.service_of_cons hopen hbusy hinbox
    have hidle := hoffers.proceeded.idle_of_nil (by rw [hservice]; exact hopen) (by rw [hservice])
    refine ⟨hidle.1, fun hwell => hidle.2 ?_⟩
    rw [hservice]
    exact hwell

/-- The line is answered by the time the service is idle. -/
theorem answered (hoffers : feed.Offers password) (hidle : feed.service.busy = false)
    (hwhole : feed.heard.flatten = Text.utf8 (offer password ++ lineEnd)) :
    feed.answers = [⟨.reply (greeting password), none⟩] ∧
      feed.service.session =
        { feed.opening with authenticated := decide (Givable password) } := by
  obtain ⟨lines, hlines, hsession, hanswers⟩ :=
    hoffers.sound.reads.lines_of_none hoffers.loading
  rw [(hoffers.sound.reads.idle hidle).1, List.append_nil, hoffers.linesOf, if_pos hwhole] at hlines
  subst hlines
  rw [Session.verdicts, hoffers.judge] at hanswers
  refine ⟨?_, ?_⟩
  · obtain ⟨answer, rest, hmeets, hrest, hall⟩ := List.forall₂_cons_left_iff.mp hanswers
    cases hmeets
    rw [hall, List.forall₂_nil_left_iff.mp hrest]
  · rw [hsession, Session.hear, List.foldl_cons, hoffers.judge]
    rfl

/-- The reply is the only one that is handed over. -/
theorem replied (hoffers : feed.Offers password) (hidle : feed.service.busy = false)
    (hwhole : feed.heard.flatten = Text.utf8 (offer password ++ lineEnd)) :
    feed.handed.filter Message.isReply = [.reply (greeting password) none] := by
  have htold := hoffers.sound.writes.told
  rw [hoffers.sound.quiet hidle, List.append_nil, (hoffers.answered hidle hwhole).1] at htold
  rw [htold]
  rfl

end Offers

/-! ## A client of a daemon with a password -/

/-- What comes of a line with the password, when all of it is there. -/
structure Knocks (password : String) (feed : Feed) : Prop where
  /-- By the time the service is idle the line has its answer, and no other line has one. -/
  answers : feed.service.busy = false → feed.answers = [⟨.reply (greeting password), none⟩]
  replies : feed.service.busy = false →
    feed.handed.filter Message.isReply = [.reply (greeting password) none]
  admits : feed.service.busy = false →
    (feed.service.session.authenticated = true ↔ Givable password)
  /-- The service is idle after two turns at most, whatever else happens. -/
  soon : feed.service.closed = false →
    (feed.serveAll [.proceeded, .proceeded]).service.busy = false

/-- Chunks arrive one after the other, and the lines in hand are worked on after each. -/
def arrivals (chunks : List (List UInt8)) : List ServiceEvent :=
  chunks.flatMap fun chunk => [.received chunk, .proceeded, .proceeded]

/-- What a client with a good socket has after its chunks. -/
structure Served (password : String) (chunks : List (List UInt8)) (feed : Feed) : Prop where
  heard : feed.heard = chunks
  well : feed.service.IsWell
  idle : feed.service.busy = false
  written : feed.service.written = [greeting password ++ lineEnd]
  admits : feed.service.session.authenticated = true ↔ Givable password

/-- What can be reached can be left by any number of steps. -/
theorem reachable_of_steps (hreach : Reachable feed) (hsteps : Steps feed after) :
    Reachable after := by
  induction hsteps with
  | refl => exact hreach
  | tail _ hstep ih => exact ih.step hstep

/-- Another chunk of the line arrives at an idle service, and is worked on. -/
theorem Offers.arrive {chunk : List UInt8} (hoffers : feed.Offers password)
    (hwell : feed.service.IsWell) (hidle : feed.service.busy = false) (hchunk : chunk ≠ [])
    (hfront : (feed.heard ++ [chunk]).flatten <+: Text.utf8 (offer password ++ lineEnd)) :
    (feed.serveAll (arrivals [chunk])).Offers password ∧
      (feed.serveAll (arrivals [chunk])).service.IsWell ∧
      (feed.serveAll (arrivals [chunk])).service.busy = false ∧
      (feed.serveAll (arrivals [chunk])).heard = feed.heard ++ [chunk] := by
  obtain ⟨byte, rest, rfl⟩ := List.exists_cons_of_ne_nil hchunk
  have hstep : feed.service.step feed.run.world (.received (byte :: rest)) =
      (feed.run.world, feed.service.receive (byte :: rest)) := by
    unfold Service.step
    rw [hwell.1, hidle]
    rfl
  have hhappening : feed.service.happening feed.run.world (.received (byte :: rest)) =
      .heard (byte :: rest) := by
    unfold Service.happening
    rw [hwell.1, hidle]
    rfl
  have hserved : feed.serve (.received (byte :: rest)) =
      { feed with
        heard := feed.heard ++ [byte :: rest]
        service := feed.service.receive (byte :: rest) } := by
    rw [serve, hstep, hhappening]
    rfl
  have hmore : (feed.serve (.received (byte :: rest))).Offers password :=
    { sound := hoffers.sound.serve _
      stranger := by rw [hserved]; exact hoffers.stranger
      wanted := by rw [hserved]; exact hoffers.wanted
      line := hoffers.line
      short := hoffers.short
      heard := by rw [hserved]; exact hfront }
  have hopen : (feed.serve (.received (byte :: rest))).service.IsWell := by
    rw [hserved]
    exact hwell
  have hsettled := hmore.idle hopen.1
  have hheard : (feed.serveAll (arrivals [byte :: rest])).heard = feed.heard ++ [byte :: rest] := by
    show (((feed.serve (.received (byte :: rest))).serve .proceeded).serve .proceeded).heard = _
    rw [heard_serve_proceeded, heard_serve_proceeded, hserved]
  exact ⟨hmore.proceeded.proceeded, hsettled.2 hopen, hsettled.1, hheard⟩

/-- All chunks of the line arrive. -/
theorem Offers.arriveAll {chunks : List (List UInt8)} (hoffers : feed.Offers password)
    (hwell : feed.service.IsWell) (hidle : feed.service.busy = false)
    (hchunks : [] ∉ chunks)
    (hfront : (feed.heard ++ chunks).flatten <+: Text.utf8 (offer password ++ lineEnd)) :
    (feed.serveAll (arrivals chunks)).Offers password ∧
      (feed.serveAll (arrivals chunks)).service.IsWell ∧
      (feed.serveAll (arrivals chunks)).service.busy = false ∧
      (feed.serveAll (arrivals chunks)).heard = feed.heard ++ chunks := by
  induction chunks generalizing feed with
  | nil => exact ⟨hoffers, hwell, hidle, (List.append_nil _).symm⟩
  | cons chunk rest ih =>
    obtain ⟨hchunk, hrest⟩ := not_or.mp (List.mem_cons.not.mp hchunks)
    have hsplit : feed.heard ++ chunk :: rest = (feed.heard ++ [chunk]) ++ rest := by simp
    have hfirst : (feed.heard ++ [chunk]).flatten <+: Text.utf8 (offer password ++ lineEnd) := by
      rw [hsplit, List.flatten_append] at hfront
      exact (List.prefix_append _ _).trans hfront
    obtain ⟨hthen, hwell, hidle, hheard⟩ := hoffers.arrive hwell hidle (Ne.symm hchunk) hfirst
    have hall : feed.serveAll (arrivals (chunk :: rest)) =
        (feed.serveAll (arrivals [chunk])).serveAll (arrivals rest) :=
      serveAll_append (arrivals [chunk]) (arrivals rest)
    rw [hall, hsplit, ← hheard]
    refine ih hthen hwell hidle hrest ?_
    rwa [hheard, ← hsplit]

/-- While a client has sent a part of the offer and nothing else, its feed is on the way to the
offer. -/
theorem offers_of_steps (hreach : Run.Reachable true run)
    (hfresh : run.world.state.connections.get? ⟨run.world.state.lastConnection + 1⟩ = none)
    (hpassword : settings.requiredPassword = some password) (hline : '\n' ∉ password.toList)
    (hshort : (Text.utf8 (offer password ++ "\r")).length ≤ longestLine)
    (hsteps : Steps (accept run settings) feed)
    (hheard : feed.heard.flatten <+: Text.utf8 (offer password ++ lineEnd)) :
    feed.Offers password where
  sound := (reachable_of_steps (.accepted run settings hreach hfresh) hsteps).sound
  stranger := congrArg Session.authenticated hsteps.opening
  wanted := (congrArg Session.password hsteps.opening).trans hpassword
  line := by simpa [offer, String.toList_append] using hline
  short := hshort
  heard := hheard

/-- Once the whole offer was sent, it gets its answer in two turns. -/
theorem Offers.knocks (hoffers : feed.Offers password)
    (hwhole : feed.heard.flatten = Text.utf8 (offer password ++ lineEnd)) :
    feed.Knocks password where
  answers hidle := (hoffers.answered hidle hwhole).1
  replies hidle := hoffers.replied hidle hwhole
  admits hidle := by
    rw [(hoffers.answered hidle hwhole).2]
    exact decide_eq_true_iff
  soon hopen := (hoffers.idle hopen).1

/-- Where nobody pushes anything, the reply is all that is written. -/
theorem Offers.written (hoffers : feed.Offers password) (hwell : feed.service.IsWell)
    (hidle : feed.service.busy = false) (hquiet : feed.queued = [])
    (hwhole : feed.heard.flatten = Text.utf8 (offer password ++ lineEnd)) :
    feed.service.written = [greeting password ++ lineEnd] := by
  have hpushes : feed.handed.filterMap Message.push? = [] := by
    have hpushed := hoffers.sound.waits.pushed
    rw [hquiet] at hpushed
    exact (List.append_eq_nil_iff.mp hpushed).1
  have hhanded : feed.handed.filter Message.isReply = feed.handed := by
    refine List.filter_eq_self.mpr fun message hmem => ?_
    cases message with
    | reply => rfl
    | push sent => cases List.filterMap_eq_nil_iff.mp hpushes _ hmem
  have htaken := hoffers.sound.writes.taken
  rw [← hhanded, hoffers.replied hidle hwhole] at htaken
  cases htaken with
  | whole hwritten => exact List.reverse_eq_iff.mp hwritten
  | cut _ _ hclosed => cases hwell.1.symm.trans hclosed

/-- What becomes of the password that is in the settings. A client of any daemon that gives it in a
line of its own, in any chunks and whatever else goes on, gets its answer in two turns, and one
with a good socket gets nothing else to read. It is welcomed and let in exactly if there is no white
space at either end of the password. Otherwise it is refused like a stranger, and so is every other
line. -/
theorem welcomed_iff_givable (hreach : Run.Reachable true run)
    (hfresh : run.world.state.connections.get? ⟨run.world.state.lastConnection + 1⟩ = none)
    (hpassword : settings.requiredPassword = some password) (hline : '\n' ∉ password.toList)
    (hshort : (Text.utf8 (offer password ++ "\r")).length ≤ longestLine) :
    (∀ feed, Steps (accept run settings) feed →
      feed.heard.flatten = Text.utf8 (offer password ++ lineEnd) → feed.Knocks password) ∧
    (∀ chunks : List (List UInt8), [] ∉ chunks →
      chunks.flatten = Text.utf8 (offer password ++ lineEnd) →
      Served password chunks ((accept run settings).serveAll (arrivals chunks))) ∧
    ((∃ line, Session.Gives password line) ↔ Givable password) := by
  refine ⟨fun feed hsteps hwhole => ?_, fun chunks hchunks hwhole => ?_, Session.exists_gives_iff⟩
  · exact (offers_of_steps hreach hfresh hpassword hline hshort hsteps
      (hwhole ▸ List.prefix_refl _)).knocks hwhole
  · have hoffers : (accept run settings).Offers password :=
      offers_of_steps hreach hfresh hpassword hline hshort .refl (List.nil_prefix)
    have hfront : ((accept run settings).heard ++ chunks).flatten <+:
        Text.utf8 (offer password ++ lineEnd) := hwhole ▸ List.prefix_refl _
    obtain ⟨hall, hwell, hidle, hheard⟩ := hoffers.arriveAll ⟨rfl, rfl⟩ rfl hchunks hfront
    have hflat : ((accept run settings).serveAll (arrivals chunks)).heard.flatten =
        Text.utf8 (offer password ++ lineEnd) := by
      rw [hheard]
      exact hwhole
    exact
      { heard := hheard
        well := hwell
        idle := hidle
        written := hall.written hwell hidle (queued_serveAll _) hflat
        admits := (hall.knocks hflat).admits hidle }

end Feed

namespace Sample

/-- The line with the password in three chunks. -/
def keyholder : List (List UInt8) :=
  [Text.utf8 "pas", Text.utf8 "s: key\r", Text.utf8 "\n"]

/-- A daemon of which the password begins with a blank, and a client that gives it. -/
def padded : Settings := { Settings.default with password := some " key" }

/-- What comes of it. -/
def turnedAway : Feed :=
  (Feed.accept lobby padded).serveAll (Feed.arrivals [Text.utf8 "pass:  key\r\n"])

/-- The daemon can come to where nobody is connected. -/
theorem reachable_lobby : Run.Reachable true lobby :=
  (Run.Reachable.start _ .everything .default rfl : Run.Reachable true empty).outside
    (.single (.installed _))

end Sample

/-- A client that gives the password `key` in several chunks is welcomed. -/
theorem welcomed_iff_givable_keyholder :
    Feed.Served "key" Sample.keyholder
        ((Feed.accept Sample.lobby Sample.locked).serveAll (Feed.arrivals Sample.keyholder)) ∧
      Session.Givable "key" :=
  have hwelcomes :=
    Feed.welcomed_iff_givable Sample.reachable_lobby rfl rfl (by decide) (by decide)
  ⟨hwelcomes.2.1 Sample.keyholder (by decide) (by decide), by decide⟩

/-- A password that is in the settings, stands in one line and is short enough for it is refused
when it is given. -/
theorem refused_though_right :
    Sample.padded.requiredPassword = some " key" ∧ '\n' ∉ " key".toList ∧
      (Text.utf8 (Session.offer " key" ++ "\r")).length ≤ longestLine ∧
      Sample.turnedAway.heard.flatten = Text.utf8 (Session.offer " key" ++ lineEnd) ∧
      Sample.turnedAway.service.written = ["STFU\r\n"] ∧
      Sample.turnedAway.service.session.authenticated = false := by decide

end MetricsDaemon
