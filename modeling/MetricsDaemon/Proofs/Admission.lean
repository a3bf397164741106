import MetricsDaemon.Proofs.Trimming
import MetricsDaemon.Proofs.Run
import MetricsDaemon.Session

/-!
# Who is let in

A conversation is a sequence of lines, between which others may do to the world what they
like. As long as a password is wanted and was not given, every line is judged by itself:
the answer depends on nothing else, and nothing happens. The right password lets the
client in for good, and where no password is wanted the first line that says anything
does.
-/

namespace MetricsDaemon

/-- A line of a client, with what others did to the world since the line before. -/
structure Turn where
  meanwhile : World → World
  line : String

/-- What others alone make of a world in some turns. -/
def Turn.others (world : World) (turns : List Turn) : World :=
  turns.foldl (fun world turn => turn.meanwhile world) world

/-- How a conversation ends: the world, the session, and the responses in order. -/
structure Talk where
  world : World
  session : Session
  responses : List Response

/-- The conversation with some responses before it. -/
def Talk.after (talk : Talk) (responses : List Response) : Talk :=
  { talk with responses := responses ++ talk.responses }

namespace Session

/-- Answer the lines of some turns one after the other. -/
def talk (session : Session) (world : World) : List Turn → Talk
  | [] => ⟨world, session, []⟩
  | turn :: rest =>
      let answered := session.answer (turn.meanwhile world) turn.line
      (talk answered.2.1 answered.1 rest).after [answered.2.2]

/-- The session of the client once it is let in. -/
def letIn (session : Session) : Session := { session with authenticated := true }

/-- A line that says nothing. -/
def IsBlank (line : String) : Prop := Text.trim line = ""

/-- A line that gives a password: the word for it, and then the password, perhaps between blanks. -/
def Gives (password line : String) : Prop :=
  ∃ rest, line = "pass:" ++ rest ∧ Text.trim rest = password

/-- The response to a line that does not give the password: a refusal if it tries to, else none. -/
def refusal (line : String) : Response :=
  if passwordMark.isPrefixOf line.toList then .reply "STFU" else .silent

variable {session : Session} {world : World} {line password : String} {turn : Turn}
  {turns before rest : List Turn}

/-! ## One line -/

/-- A line is read as an offer of a password exactly when it gives that password. -/
theorem offeredPassword?_eq_some_iff :
    offeredPassword? line = some password ↔ Gives password line := by
  unfold offeredPassword?
  constructor
  · intro hoffered
    split at hoffered
    · next hmark =>
      obtain ⟨rest, hrest⟩ := List.isPrefixOf_iff_prefix.mp hmark
      rw [← hrest, List.drop_left] at hoffered
      refine ⟨String.ofList rest, ?_, ?_⟩
      · rw [← String.toList_inj, ← hrest]
        simp [passwordMark]
      · simpa [Text.trim] using hoffered
    · cases hoffered
  · rintro ⟨rest, rfl, rfl⟩
    simp [passwordMark, Text.trim, List.isPrefixOf]

/-- A line is blank exactly when nothing of it is left after stripping. -/
theorem isBlank_iff : IsBlank line ↔ Text.strip line.toList = [] := by
  rw [IsBlank, Text.trim, ← String.toList_inj, String.toList_ofList, String.toList_empty]

/-- A line that begins with the word for a password is not blank. -/
theorem not_isBlank_of_isPrefixOf (hmark : passwordMark.isPrefixOf line.toList = true) :
    ¬IsBlank line := by
  rw [isBlank_iff, Text.strip_eq_nil_iff]
  intro hblank
  obtain ⟨rest, hrest⟩ := List.isPrefixOf_iff_prefix.mp hmark
  have hletter : Text.isBlank 'p' = true := by
    refine hblank 'p' ?_
    rw [← hrest]
    simp [passwordMark]
  exact absurd hletter (by decide)

/-- A line that gives a password begins with the mark of one. -/
theorem isPrefixOf_of_gives (hgives : Gives password line) :
    passwordMark.isPrefixOf line.toList = true := by
  obtain ⟨rest, rfl, _⟩ := hgives
  simp [passwordMark, List.isPrefixOf]

/-- A blank line gets no answer and changes nothing. -/
theorem answer_of_isBlank (session : Session) (world : World) (hblank : IsBlank line) :
    session.answer world line = (world, session, .silent) := by
  have hjudge : session.judge line = (session, .respond .silent) := by
    rw [judge, if_pos (isBlank_iff.mp hblank)]
  rw [answer, hjudge]
  rfl

/-- A stranger's line that does not give the password is refused. -/
theorem judge_of_not_gives (hstranger : session.authenticated = false)
    (hpassword : session.password = some password) (hblank : ¬IsBlank line)
    (hnot : ¬Gives password line) :
    session.judge line = (session, .respond (refusal line)) := by
  have hoffered : offeredPassword? line ≠ some password :=
    fun h => hnot (offeredPassword?_eq_some_iff.mp h)
  rw [isBlank_iff] at hblank
  rw [judge, if_neg hblank, hstranger, judgeStranger, hpassword, refusal]
  cases hmark : passwordMark.isPrefixOf line.toList with
  | false => simp [offeredPassword?, hmark]
  | true =>
    simp only [offeredPassword?, hmark, if_true] at hoffered ⊢
    rw [if_neg fun h => hoffered (congrArg some h)]
    rfl

/-- A stranger who gives the password is let in. -/
theorem judge_of_gives (hstranger : session.authenticated = false)
    (hpassword : session.password = some password) (hgives : Gives password line) :
    session.judge line = (session.letIn, .reply .welcome) := by
  have hblank : ¬Text.strip line.toList = [] :=
    isBlank_iff.not.mp (not_isBlank_of_isPrefixOf (isPrefixOf_of_gives hgives))
  rw [judge, if_neg hblank, hstranger, judgeStranger, hpassword,
    offeredPassword?_eq_some_iff.mpr hgives]
  simp [letIn, hpassword]

/-- A client that is not let in is refused whatever does not give the password. -/
theorem answer_of_not_gives (world : World) (hstranger : session.authenticated = false)
    (hpassword : session.password = some password) (hnot : ¬Gives password line) :
    session.answer world line = (world, session, refusal line) := by
  by_cases hblank : IsBlank line
  · have hmark : passwordMark.isPrefixOf line.toList = false :=
      Bool.eq_false_iff.mpr fun hmark => not_isBlank_of_isPrefixOf hmark hblank
    rw [session.answer_of_isBlank world hblank, refusal, hmark]
    rfl
  · rw [answer, judge_of_not_gives hstranger hpassword hblank hnot]
    rfl

/-- The right password is welcomed, and does nothing but let the client in. -/
theorem answer_of_gives (hstranger : session.authenticated = false)
    (hpassword : session.password = some password) (hgives : Gives password line) :
    session.answer world line = (world, session.letIn, .reply "SUP") := by
  rw [answer, judge_of_gives hstranger hpassword hgives]
  rfl

/-- Where no password is wanted, a line that says something is carried out as a command at once. -/
theorem answer_of_no_password (hstranger : session.authenticated = false)
    (hpassword : session.password = none) (hblank : ¬IsBlank line) :
    session.answer world line =
      ((carryOut world (session.judgeKnown line)).1, session.letIn,
        (carryOut world (session.judgeKnown line)).2) := by
  have hjudge : session.judge line = (session.letIn, session.judgeKnown line) := by
    rw [judge, if_neg (isBlank_iff.not.mp hblank), hstranger, judgeStranger, hpassword]
    simp [letIn, hpassword]
  rw [answer, hjudge]

/-- Once a client is let in, its lines are carried out as commands. -/
theorem answer_of_authenticated (world : World) (hknown : session.authenticated = true)
    (hblank : ¬IsBlank line) :
    session.answer world line =
      ((carryOut world (session.judgeKnown line)).1, session,
        (carryOut world (session.judgeKnown line)).2) := by
  have hjudge : session.judge line = (session, session.judgeKnown line) := by
    rw [judge, if_neg (isBlank_iff.not.mp hblank), if_pos hknown]
  rw [answer, hjudge]

/-- Nothing that a client says changes its session once it is let in. -/
theorem session_answer_of_authenticated (hknown : session.authenticated = true) :
    (session.answer world line).2.1 = session := by
  by_cases hblank : IsBlank line
  · rw [session.answer_of_isBlank world hblank]
  · rw [answer_of_authenticated world hknown hblank]

/-! ## Many lines -/

/-- Whoever is let in stays so, whatever is said. -/
theorem session_talk_of_authenticated (hknown : session.authenticated = true) :
    (session.talk world turns).session = session := by
  induction turns generalizing world with
  | nil => rfl
  | cons turn rest ih =>
    rw [talk, session_answer_of_authenticated hknown]
    exact ih

/-- Turns in which a session stays as it is, does nothing and gives responses that depend on the
line alone may be skipped. -/
theorem talk_append_of_idle (response : String → Response) (world : World) (rest : List Turn)
    (hidle : ∀ turn ∈ before, ∀ world,
      session.answer world turn.line = (world, session, response turn.line)) :
    session.talk world (before ++ rest) =
      (session.talk (Turn.others world before) rest).after
        (before.map fun turn => response turn.line) := by
  induction before generalizing world with
  | nil => rfl
  | cons turn later ih =>
    have hlater := ih (turn.meanwhile world) fun other hmem =>
      hidle other (List.mem_cons_of_mem _ hmem)
    rw [List.cons_append, talk, hidle turn List.mem_cons_self]
    dsimp only
    rw [hlater]
    rfl

/-- A session that wants a password, in some turns. -/
structure Guards (session : Session) (password : String) (world : World) (turns : List Turn) :
    Prop where
  /-- The client is let in exactly if it gave the password. -/
  opens : (session.talk world turns).session.authenticated = true ↔
    ∃ turn ∈ turns, Gives password turn.line
  /-- Until it does, nothing happens but what others do. -/
  refuses : (∀ turn ∈ turns, ¬Gives password turn.line) →
    session.talk world turns =
      ⟨Turn.others world turns, session, turns.map fun turn => refusal turn.line⟩
  /-- The first line that gives it is welcomed, does nothing else, and counts for good. -/
  welcomes : ∀ before turn rest, turns = before ++ turn :: rest →
    (∀ earlier ∈ before, ¬Gives password earlier.line) → Gives password turn.line →
    session.talk world turns =
        (session.letIn.talk (Turn.others world (before ++ [turn])) rest).after
          (before.map (fun earlier => refusal earlier.line) ++ [.reply "SUP"]) ∧
      (session.talk world turns).session = session.letIn
  /-- Until it does, another daemon in another state and with other settings, but with the same
  password, gives the same answers to the same lines. -/
  hides : (∀ turn ∈ turns, ¬Gives password turn.line) →
    ∀ (other : Session) (elsewhere : World) (others : List Turn),
      other.password = some password → other.authenticated = false →
      others.map Turn.line = turns.map Turn.line →
      (other.talk elsewhere others).responses = (session.talk world turns).responses

/-- A session that wants no password, in some turns. -/
structure Trusts (session : Session) (world : World) (turns : List Turn) : Prop where
  /-- Lines that say nothing are ignored. -/
  ignores : (∀ turn ∈ turns, IsBlank turn.line) →
    session.talk world turns =
      ⟨Turn.others world turns, session, turns.map fun _ => .silent⟩
  /-- The first line that says something is a command already, and lets the client in for good. -/
  hears : ∀ before turn rest, turns = before ++ turn :: rest →
    (∀ earlier ∈ before, IsBlank earlier.line) → ¬IsBlank turn.line →
    session.talk world turns =
        (session.letIn.talk (carryOut (Turn.others world (before ++ [turn]))
          (session.judgeKnown turn.line)).1 rest).after
          (before.map (fun _ => .silent) ++
            [(carryOut (Turn.others world (before ++ [turn])) (session.judgeKnown turn.line)).2]) ∧
      (session.talk world turns).session = session.letIn

/-- What others do before a turn's answer is what they did before the turn, and then meanwhile. -/
theorem others_append_singleton : Turn.others world (before ++ [turn]) =
    turn.meanwhile (Turn.others world before) := by
  simp [Turn.others]

/-- While nobody gives the password, every line is refused and the world is what the others make of
it. -/
theorem talk_of_not_gives (hstranger : session.authenticated = false)
    (hpassword : session.password = some password)
    (hnot : ∀ turn ∈ turns, ¬Gives password turn.line) :
    session.talk world turns =
      ⟨Turn.others world turns, session, turns.map fun turn => refusal turn.line⟩ := by
  have hidle := talk_append_of_idle refusal world [] fun turn hmem world =>
    answer_of_not_gives world hstranger hpassword (hnot turn hmem)
  rw [List.append_nil] at hidle
  rw [hidle]
  simp [talk, Talk.after]

/-- The line that gives the password is welcomed, the lines before it are refused, and those after
it are answered as a guest's. -/
theorem talk_of_gives (world : World) (rest : List Turn)
    (hstranger : session.authenticated = false)
    (hpassword : session.password = some password)
    (hnot : ∀ earlier ∈ before, ¬Gives password earlier.line) (hgives : Gives password turn.line) :
    session.talk world (before ++ turn :: rest) =
      (session.letIn.talk (Turn.others world (before ++ [turn])) rest).after
        (before.map (fun earlier => refusal earlier.line) ++ [.reply "SUP"]) := by
  rw [talk_append_of_idle refusal world _ fun turn hmem world =>
    answer_of_not_gives world hstranger hpassword (hnot turn hmem), talk,
    answer_of_gives hstranger hpassword hgives, others_append_singleton]
  simp [Talk.after]

/-- A stranger is let in exactly when one of the lines gives the password. -/
theorem authenticated_talk_iff (hstranger : session.authenticated = false)
    (hpassword : session.password = some password) :
    (session.talk world turns).session.authenticated = true ↔
      ∃ turn ∈ turns, Gives password turn.line := by
  induction turns generalizing world with
  | nil => simp [talk, hstranger]
  | cons turn rest ih =>
    by_cases hgives : Gives password turn.line
    · have hopened : (session.talk world (turn :: rest)).session = session.letIn := by
        rw [talk, answer_of_gives hstranger hpassword hgives]
        exact session_talk_of_authenticated rfl
      rw [hopened]
      exact ⟨fun _ => ⟨turn, List.mem_cons_self, hgives⟩, fun _ => rfl⟩
    · rw [talk, answer_of_not_gives (turn.meanwhile world) hstranger hpassword hgives]
      simpa [hgives, Talk.after] using ih

/-- A password guards a session against a stranger, whatever the lines are. -/
theorem guards_of_password (hstranger : session.authenticated = false)
    (hpassword : session.password = some password) : session.Guards password world turns where
  opens := authenticated_talk_iff hstranger hpassword
  refuses hnot := talk_of_not_gives hstranger hpassword hnot
  welcomes := by
    rintro before turn rest rfl hnot hgives
    have htalk := talk_of_gives world rest hstranger hpassword hnot hgives
    refine ⟨htalk, ?_⟩
    rw [htalk]
    exact session_talk_of_authenticated rfl
  hides := by
    intro hnot other elsewhere others hother hstranger' hlines
    have hnot' : ∀ turn ∈ others, ¬Gives password turn.line := by
      intro turn hmem
      have hline : turn.line ∈ turns.map Turn.line := by
        rw [← hlines]
        exact List.mem_map_of_mem hmem
      obtain ⟨same, hsame, heq⟩ := List.mem_map.mp hline
      rw [← heq]
      exact hnot same hsame
    have hresponses := congrArg (List.map refusal) hlines
    rw [List.map_map, List.map_map] at hresponses
    rw [talk_of_not_gives hstranger' hother hnot', talk_of_not_gives hstranger hpassword hnot]
    exact hresponses

/-- Without a password everybody is trusted. -/
theorem trusts_of_no_password (hstranger : session.authenticated = false)
    (hpassword : session.password = none) : session.Trusts world turns where
  ignores hblank := by
    have hidle := talk_append_of_idle (fun _ => .silent) world [] fun turn hmem world =>
      session.answer_of_isBlank world (hblank turn hmem)
    rw [List.append_nil] at hidle
    rw [hidle]
    simp [talk, Talk.after]
  hears := by
    rintro before turn rest rfl hblank hsays
    have htalk : session.talk world (before ++ turn :: rest) =
        (session.letIn.talk (carryOut (Turn.others world (before ++ [turn]))
          (session.judgeKnown turn.line)).1 rest).after
          (before.map (fun _ => .silent) ++
            [(carryOut (Turn.others world (before ++ [turn]))
              (session.judgeKnown turn.line)).2]) := by
      rw [talk_append_of_idle (fun _ => .silent) world _ fun turn hmem world =>
        session.answer_of_isBlank world (hblank turn hmem), talk,
        answer_of_no_password hstranger hpassword hsays, others_append_singleton]
      simp [Talk.after]
    refine ⟨htalk, ?_⟩
    rw [htalk]
    exact session_talk_of_authenticated rfl

/-- Who is let in, and what is heard before. With a password in the settings a client is let in
exactly if one of its lines gives the password; until then it gets refusals that tell nothing, and
the first line that gives it is welcomed. Without one, or with an empty one, the first line that is
not blank lets the client in and is carried out as a command. Nobody who was let in is ever turned
out again. -/
theorem admitted_iff_gives_password (connection : ConnectionId) (settings : Settings)
    (world : World) (turns : List Turn) :
    (∀ password, settings.password = some password → password ≠ "" →
      (new connection settings).Guards password world turns) ∧
    (settings.password = none ∨ settings.password = some "" →
      (new connection settings).Trusts world turns) := by
  constructor
  · intro password hpassword hne
    refine guards_of_password rfl ?_
    show settings.requiredPassword = some password
    simp [Settings.requiredPassword, hpassword, hne]
  · intro hnone
    refine trusts_of_no_password rfl ?_
    show settings.requiredPassword = none
    rcases hnone with hnone | hempty
    · simp [Settings.requiredPassword, hnone]
    · simp [Settings.requiredPassword, hempty]

end Session

namespace Sample

/-- Settings with a password. -/
def locked : Settings := { Settings.default with password := some "key" }

/-- A command, a wrong password, and the right one between blanks, one after the other. -/
def knocks : List Turn := [⟨id, "bye"⟩, ⟨id, "pass:door"⟩, ⟨id, "pass:\tkey "⟩]

end Sample

/-- The client with the right password is let in, and the two lines before it do not help. -/
theorem admitted_iff_gives_password_knocking :
    (Session.new ⟨1⟩ Sample.locked).Guards "key" Sample.empty.world Sample.knocks ∧
      ((Session.new ⟨1⟩ Sample.locked).talk Sample.empty.world Sample.knocks).responses =
        [.silent, .reply "STFU", .reply "SUP"] :=
  ⟨(Session.admitted_iff_gives_password ⟨1⟩ Sample.locked Sample.empty.world Sample.knocks).1
    "key" rfl (by decide), rfl⟩

end MetricsDaemon
