import MetricsDaemon.Proofs.Admission
import MetricsDaemon.Proofs.Lines
import MetricsDaemon.Serving

/-!
# Replies as lines

A reply is written with a line end after it, and is one line for its reader, whatever the
client asked for. There is one exception: a string of the settings is quoted as it is, with
the line feeds that are in it.
-/

namespace MetricsDaemon

/-! ## Numbers -/

namespace Number

variable {decimal : Decimal}

/-- Digits with zeros before them have no line feed. -/
theorem not_mem_paddedDigits (width n : Nat) : '\n' ∉ paddedDigits '0' width n := by
  simp [paddedDigits, not_mem_natDigits]

/-- A number that is written out has no line feed. -/
theorem not_mem_positional : '\n' ∉ decimal.positional := by
  unfold Decimal.positional
  dsimp only
  split
  · simp [not_mem_natDigits]
  · intro hmem
    rcases List.mem_append.mp hmem with hfront | hback
    · exact not_mem_paddedDigits _ _ (List.mem_of_mem_take hfront)
    · rcases List.mem_cons.mp hback with hpoint | hback
      · cases hpoint
      · exact not_mem_paddedDigits _ _ (List.mem_of_mem_drop hback)

/-- A number with an exponent has no line feed. -/
theorem not_mem_scientific : '\n' ∉ decimal.scientific := by
  have hdigits : '\n' ∉ natDigits decimal.digits := not_mem_natDigits rfl
  have htail : '\n' ∉ (natDigits decimal.digits).tail := fun hmem =>
    hdigits (List.mem_of_mem_tail hmem)
  have hfirst : '\n' ∉ (natDigits decimal.digits).take 1 := fun hmem =>
    hdigits (List.mem_of_mem_take hmem)
  have hexponent (n : Nat) : '\n' ∉ natDigits n := not_mem_natDigits rfl
  unfold Decimal.scientific
  dsimp only
  split <;> split <;> simp_all

/-- The text of an integer has no line feed. -/
theorem not_mem_showInt (n : Int) : '\n' ∉ (showInt n).toList := by
  unfold showInt
  split <;> simp [showNat, not_mem_natDigits]

/-- A sign changes nothing about line feeds. -/
theorem not_mem_signed {negative : Bool} {body : List Char} (hbody : '\n' ∉ body) :
    '\n' ∉ (String.ofList (if negative then '-' :: body else body)).toList := by
  cases negative <;> simpa using hbody

/-- The text of a value has no line feed. -/
theorem not_mem_showDouble (x : Binary) : '\n' ∉ (showDouble x).toList := by
  cases x with
  | finite negative significand exponent =>
    refine not_mem_signed ?_
    split
    · decide
    · exact not_mem_positional
  | infinite negative => cases negative <;> decide
  | nan => decide

/-- The text of a configured number has no line feed. -/
theorem not_mem_showConfigDouble (x : Binary) : '\n' ∉ (showConfigDouble x).toList := by
  cases x with
  | finite negative significand exponent =>
    refine not_mem_signed ?_
    repeat' split
    all_goals simp [not_mem_positional, not_mem_scientific]
  | infinite negative => cases negative <;> decide
  | nan => decide

end Number

/-- The text of a number of the settings has no line feed. -/
theorem JsonNumber.not_mem_text (n : JsonNumber) : '\n' ∉ n.text.toList := by
  cases n with
  | natural n => simp [text, Number.showNat, Number.not_mem_natDigits]
  | negative n => exact Number.not_mem_showInt n
  | real x => exact Number.not_mem_showConfigDouble x

/-! ## Configuration values -/

namespace Settings

variable {settings : Settings} {section_ key s : String} {type_ : ConfigType}

/-- The string that an entry is quoted with. -/
def quotedAs? (settings : Settings) (section_ key : String) : ConfigType → Option String
  | .string =>
      match settings.lookup section_ key with
      | some (.string s) => some s
      | _ => none
  | _ => none

/-- A string of the settings is quoted as it is. -/
theorem configReply_of_quoted (hquoted : settings.quotedAs? section_ key type_ = some s) :
    configReply settings section_ key type_ = "\"" ++ s ++ "\"" := by
  unfold quotedAs? at hquoted
  split at hquoted
  · split at hquoted
    · next hlookup =>
      cases hquoted
      rw [configReply, getString, hlookup]
    · cases hquoted
  · cases hquoted

/-- Where no string is quoted, a configuration reply has no line feed. -/
theorem not_mem_configReply (hquoted : settings.quotedAs? section_ key type_ = none) :
    '\n' ∉ (configReply settings section_ key type_).toList := by
  cases type_ with
  | string =>
    have hstring : '\n' ∉ (settings.getString section_ key "").toList := by
      rw [quotedAs?] at hquoted
      unfold getString
      split
      · next hlookup =>
        rw [hlookup] at hquoted
        cases hquoted
      · next n _ => exact n.not_mem_text
      · next b _ => cases b <;> decide
      · exact List.not_mem_nil
    simp [configReply, hstring]
  | int => exact Number.not_mem_showInt _
  | double => exact Number.not_mem_showDouble _
  | bool =>
    rw [configReply]
    split <;> decide

end Settings

/-! ## Responses -/

/-- What is written for a response. -/
def Response.text? : Response → Option String
  | .silent => none
  | .reply text | .farewell text => some text

/-- Whether an answer is one of the fixed words. -/
def Reply.isWord : Reply → Bool
  | .config _ _ => false
  | _ => true

/-- A reply of one word has no line feed. -/
theorem Reply.not_mem_text {reply : Reply} (hword : reply.isWord = true) :
    '\n' ∉ reply.text.toList := by
  cases reply with
  | config id value => cases hword
  | _ => decide

namespace Session

/-- The reply to a subscription is one word. -/
theorem isWord_subscriptionReply (result : Except SubscriptionError SubscriptionId) :
    (subscriptionReply result).isWord = true := by
  cases result <;> rfl

variable {session : Session} {line text : String} {response : Response}
  {chunks : List (List UInt8)}

/-- The responses that a verdict may lead to, whatever others do until then. -/
inductive Verdict.Leads : Verdict → Response → Prop where
  | responded (response : Response) : Leads (.respond response) response
  | ended (request : Request) (result : Except SubscriptionError SubscriptionId) :
      Leads (.subscribe request) (.reply (subscriptionReply result).text)

/-- The answer to a line is what the judgment of the line leads to. -/
theorem leads_answer (session : Session) (world : World) (line : String) :
    (session.judge line).2.Leads (session.answer world line).2.2 := by
  rw [answer]
  cases (session.judge line).2 with
  | respond response => exact .responded response
  | subscribe request => exact .ended request _

/-- Whether a line of the client is carried out as a command. -/
def hears (session : Session) (line : String) : Bool :=
  decide (Text.strip line.toList ≠ []) && (session.authenticated || session.password.isNone)

/-- The string of the settings that a line asks for. -/
def quoted? (session : Session) (line : String) : Option String :=
  if session.hears line then
    match Command.parse (Text.trimEnd line) with
    | .ok (.config _ module_ key type_) => session.settings.quotedAs? module_ key type_
    | _ => none
  else none

/-- The cases of what a line leads to, and what of them matters for the reply. -/
inductive Judged (session : Session) (line : String) : Verdict → Prop where
  | ignored (hquoted : session.quoted? line = none) : Judged session line (.respond .silent)
  /-- The client is let in, or told that it said nothing that counts. -/
  | answered (word : Reply) (hword : word = .welcome ∨ word = .refused ∨ word = .error)
      (hquoted : session.quoted? line = none) : Judged session line (.reply word)
  | left (hquoted : session.quoted? line = none) :
      Judged session line (.respond (.farewell Reply.bye.text))
  | asked {id name : String} {arg : Option String} {once : Bool}
      (hparse : Command.parse (Text.trimEnd line) = .ok (.subscribe id name arg once))
      (hquoted : session.quoted? line = none) :
      Judged session line (.subscribe ⟨session.connection, id, name, arg, once⟩)
  | looked {id module_ key : String} {type_ : ConfigType}
      (hparse : Command.parse (Text.trimEnd line) = .ok (.config id module_ key type_))
      (hquoted : session.quoted? line = session.settings.quotedAs? module_ key type_) :
      Judged session line (.reply (.config id (configReply session.settings module_ key type_)))

/-- A line that is heard from a known client is judged by its command. -/
theorem judged_judgeKnown (hhears : session.hears line = true) :
    session.Judged line (session.judgeKnown line) := by
  have hquoted : session.quoted? line =
      match Command.parse (Text.trimEnd line) with
      | .ok (.config _ module_ key type_) => session.settings.quotedAs? module_ key type_
      | _ => none := by
    rw [quoted?, if_pos hhears]
  rw [judgeKnown]
  cases hparse : Command.parse (Text.trimEnd line) with
  | error error =>
    rw [hparse] at hquoted
    exact .answered .error (.inr (.inr rfl)) hquoted
  | ok command =>
    rw [hparse] at hquoted
    cases command with
    | subscribe id name arg once => exact .asked hparse hquoted
    | bye => exact .left hquoted
    | config id module_ key type_ => exact .looked hparse hquoted

/-- Every line is judged as its session hears it. -/
theorem judged_judge (session : Session) (line : String) :
    session.Judged line (session.judge line).2 := by
  unfold judge
  split
  · next hblank => exact .ignored (by simp [quoted?, hears, hblank])
  · next hblank =>
    split
    · next hknown =>
      dsimp only
      exact judged_judgeKnown (by simp [hears, hblank, hknown])
    · next hstranger =>
      unfold judgeStranger
      split
      · next hpassword =>
        dsimp only
        exact judged_judgeKnown (by simp [hears, hblank, hpassword])
      · next password hpassword =>
        have hquoted : session.quoted? line = none := by
          simp [quoted?, hears, hstranger, hpassword]
        split
        · exact .ignored hquoted
        · split
          · exact .answered .welcome (.inl rfl) hquoted
          · exact .answered .refused (.inr (.inl rfl)) hquoted

/-! ## One line or not -/

/-- How a reply to a line is written. -/
structure Frames (session : Session) (line text : String) : Prop where
  /-- It is one line, unless a string with a line feed is quoted. -/
  isLine_iff : IsLine (text ++ lineEnd) ↔ ∀ s ∈ session.quoted? line, '\n' ∉ s.toList
  /-- A string is quoted as it is, after what the client called it. -/
  quotes : ∀ s ∈ session.quoted? line, ∃ id : String, '\n' ∉ id.toList ∧
    text = "cfg:" ++ id ++ ":\"" ++ s ++ "\""

/-- A reply without a line feed is one line, where nothing is quoted. -/
theorem frames_of_plain (hquoted : session.quoted? line = none) (htext : '\n' ∉ text.toList) :
    session.Frames line text where
  isLine_iff := by simp [isLine_append_iff, htext, hquoted]
  quotes := by simp [hquoted]

/-- A configuration reply is one line but for the line feeds in what it quotes. -/
theorem frames_config {id module_ key : String} {type_ : ConfigType} (hid : '\n' ∉ id.toList)
    (hquoted : session.quoted? line = session.settings.quotedAs? module_ key type_) :
    session.Frames line
      (Reply.config id (configReply session.settings module_ key type_)).text := by
  cases hquotes : session.settings.quotedAs? module_ key type_ with
  | none =>
    have hvalue := Settings.not_mem_configReply hquotes
    refine frames_of_plain (hquoted.trans hquotes) ?_
    simp [Reply.text, hid, hvalue]
  | some s =>
    rw [hquotes] at hquoted
    rw [Settings.configReply_of_quoted hquotes]
    constructor
    · simp [isLine_append_iff, hquoted, Reply.text, hid]
    · rw [hquoted]
      rintro _ ⟨⟩
      refine ⟨id, hid, ?_⟩
      rw [← String.toList_inj]
      simp [Reply.text]

/-- Whatever a line leads to is one line but for the line feeds in what is quoted. -/
theorem frames_of_leads (session : Session) (hline : line ∈ LineSplitter.start.linesOf chunks)
    (hleads : (session.judge line).2.Leads response) (htext : response.text? = some text) :
    session.Frames line text := by
  have hjudged := session.judged_judge line
  generalize (session.judge line).2 = verdict at hjudged hleads
  cases hjudged with
  | ignored =>
    cases hleads
    cases htext
  | answered word hword hquoted =>
    cases hleads
    cases htext
    rcases hword with rfl | rfl | rfl <;> exact frames_of_plain hquoted (Reply.not_mem_text rfl)
  | left hquoted =>
    cases hleads
    cases htext
    exact frames_of_plain hquoted (Reply.not_mem_text rfl)
  | asked hparse hquoted =>
    cases hleads with
    | ended request result =>
      cases htext
      exact frames_of_plain hquoted (Reply.not_mem_text (isWord_subscriptionReply result))
  | looked hparse hquoted =>
    cases hleads
    cases htext
    exact frames_config (Command.not_mem_of_linesOf hline hparse rfl).2 hquoted

/-! ## Many lines -/

/-- What is written for responses, each with its line end. -/
def written (responses : List Response) : List Char :=
  (responses.filterMap Response.text?).flatMap fun text => (text ++ lineEnd).toList

/-- The strings of the settings that are quoted in a conversation. -/
def quotedIn (session : Session) (world : World) : List Turn → List String
  | [] => []
  | turn :: rest =>
      let answered := session.answer (turn.meanwhile world) turn.line
      (session.quoted? turn.line).toList ++ quotedIn answered.2.1 answered.1 rest

/-- How many line feeds there are in some strings. -/
def breaks (strings : List String) : Nat := (strings.flatMap String.toList).count '\n'

/-- The line feeds of two rows of strings are counted together. -/
theorem breaks_append (first last : List String) :
    breaks (first ++ last) = breaks first + breaks last := by
  simp [breaks]

/-- A reply has one line feed at its end beside those in what it quotes. -/
theorem count_text {session : Session} {line text : String} (hframes : session.Frames line text) :
    (text ++ lineEnd).toList.count '\n' = 1 + breaks (session.quoted? line).toList := by
  have hend : lineEnd.toList.count '\n' = 1 := rfl
  rw [String.toList_append, List.count_append, hend]
  cases hquoted : session.quoted? line with
  | none =>
    have hplain : '\n' ∉ text.toList := by
      rw [← isLine_append_iff, hframes.isLine_iff, hquoted]
      exact nofun
    rw [List.count_eq_zero_of_not_mem hplain]
    rfl
  | some s =>
    obtain ⟨id, hid, rfl⟩ := hframes.quotes s hquoted
    simp [breaks, List.count_eq_zero_of_not_mem hid, Nat.add_comm]

/-- Nothing is quoted where nothing is said. -/
theorem quoted?_of_silent (hleads : (session.judge line).2.Leads response)
    (htext : response.text? = none) : session.quoted? line = none := by
  have hjudged := session.judged_judge line
  generalize (session.judge line).2 = verdict at hjudged hleads
  cases hjudged with
  | ignored hquoted | left hquoted => exact hquoted
  | answered word hword hquoted | asked hparse hquoted => exact hquoted
  | looked hparse hquoted =>
    cases hleads
    cases htext

/-- Where one response is written its reply is one line, and one more for each line feed in what is
quoted. -/
theorem count_written_singleton (session : Session)
    (hline : line ∈ LineSplitter.start.linesOf chunks)
    (hleads : (session.judge line).2.Leads response) :
    (written [response]).count '\n' =
      ([response].filterMap Response.text?).length + breaks (session.quoted? line).toList := by
  cases htext : response.text? with
  | none => simp [written, htext, quoted?_of_silent hleads htext, breaks]
  | some text =>
    have hcount := count_text (session.frames_of_leads hline hleads htext)
    simpa [written, htext] using hcount

/-- Responses are written one after the other. -/
theorem written_append (first last : List Response) :
    written (first ++ last) = written first ++ written last := by
  simp [written]

/-- What is written in a conversation has as many line feeds as there are replies in it, and those
of the strings that are quoted. -/
theorem count_written_talk (session : Session) (world : World) (turns : List Turn)
    (hlines : ∀ turn ∈ turns, ∃ chunks, turn.line ∈ LineSplitter.start.linesOf chunks) :
    (written (session.talk world turns).responses).count '\n' =
      ((session.talk world turns).responses.filterMap Response.text?).length +
        breaks (session.quotedIn world turns) := by
  induction turns generalizing session world with
  | nil => rfl
  | cons turn rest ih =>
    obtain ⟨chunks, hline⟩ := hlines turn List.mem_cons_self
    have hfirst := session.count_written_singleton hline
      (session.leads_answer (turn.meanwhile world) turn.line)
    have hrest := ih (session.answer (turn.meanwhile world) turn.line).2.1
      (session.answer (turn.meanwhile world) turn.line).1 fun other hmem =>
        hlines other (List.mem_cons_of_mem _ hmem)
    rw [talk, Talk.after, quotedIn, written_append, List.count_append, List.filterMap_append,
      List.length_append, breaks_append, hfirst, hrest]
    omega

/-- Whatever a client says, and whatever others do meanwhile: a reply is one line, unless it quotes
a string of the settings with a line feed in it. So who reads what is written in a conversation
finds one line for each reply, and one more for each line feed in what was quoted. -/
theorem reply_one_line_unless_quoted (session : Session) :
    (∀ chunks line response text, line ∈ LineSplitter.start.linesOf chunks →
      (session.judge line).2.Leads response → response.text? = some text →
      session.Frames line text) ∧
    (∀ world turns, (∀ turn ∈ turns, ∃ chunks, turn.line ∈ LineSplitter.start.linesOf chunks) →
      (written (session.talk world turns).responses).count '\n' =
        ((session.talk world turns).responses.filterMap Response.text?).length +
          breaks (session.quotedIn world turns)) :=
  ⟨fun _ _ _ _ hline hleads htext => session.frames_of_leads hline hleads htext,
    session.count_written_talk⟩

end Session

namespace Sample

/-- Settings with a string that reads as an answer of its own. -/
def forged : Settings :=
  { Settings.default with
    sections := ⟨[("m", .object [("k", .string "\nGOOD\n")])]⟩ }

/-- The first client of a daemon with these settings. -/
def client : Session := .new ⟨1⟩ forged

/-- The client asks for the string as a string and then as a number. -/
def asked : List (List UInt8) := [Text.utf8 "cfg 1:m:k", Text.utf8 ":0\r\ncfg 2:m:k:1\r\n"]

/-- The two lines, while nobody else does anything. -/
def questions : List Turn := [⟨id, "cfg 1:m:k:0"⟩, ⟨id, "cfg 2:m:k:1"⟩]

end Sample

/-- The string is quoted with its two line feeds, and as a number it makes a line: four line feeds
in two replies. -/
theorem reply_one_line_unless_quoted_client :
    (Sample.client.quoted? "cfg 1:m:k:0" = some "\nGOOD\n" ∧
      Sample.client.Frames "cfg 1:m:k:0" "cfg:1:\"\nGOOD\n\"") ∧
    (Sample.client.quoted? "cfg 2:m:k:1" = none ∧
      Sample.client.Frames "cfg 2:m:k:1" "cfg:2:0") ∧
    (Session.written (Sample.client.talk Sample.empty.world Sample.questions).responses).count
      '\n' = 2 + 2 := by
  obtain ⟨hframes, hcount⟩ := Session.reply_one_line_unless_quoted Sample.client
  have hlines : LineSplitter.start.linesOf Sample.asked = ["cfg 1:m:k:0", "cfg 2:m:k:1"] := rfl
  have hfirst : "cfg 1:m:k:0" ∈ LineSplitter.start.linesOf Sample.asked := by simp [hlines]
  have hlast : "cfg 2:m:k:1" ∈ LineSplitter.start.linesOf Sample.asked := by simp [hlines]
  have hquotes : (Sample.client.judge "cfg 1:m:k:0").2.Leads
      (.reply "cfg:1:\"\nGOOD\n\"") := Sample.client.leads_answer Sample.empty.world _
  have hcounts : (Sample.client.judge "cfg 2:m:k:1").2.Leads (.reply "cfg:2:0") :=
    Sample.client.leads_answer Sample.empty.world _
  refine ⟨⟨rfl, hframes _ _ _ _ hfirst hquotes rfl⟩, ⟨rfl, hframes _ _ _ _ hlast hcounts rfl⟩,
    hcount Sample.empty.world Sample.questions fun turn hmem => ?_⟩
  rcases List.mem_cons.mp hmem with rfl | hmem
  · exact ⟨_, hfirst⟩
  · rw [List.mem_singleton.mp hmem]
    exact ⟨_, hlast⟩

/-- What a service writes for one line of its client need not be one line: here its reader finds a
good answer in it, although nothing was asked for that could have one. -/
theorem quoted_string_forges_reply :
    ((Service.accept Sample.empty.world Sample.forged).2.exchange
      (Service.accept Sample.empty.world Sample.forged).1
      (Text.utf8 "cfg 1:m:k:0\r\n")).2.written = ["cfg:1:\"\nGOOD\n\"\r\n"] ∧
    ¬IsLine "cfg:1:\"\nGOOD\n\"\r\n" ∧
    (LineSplitter.start.push (Text.utf8 "cfg:1:\"\nGOOD\n\"\r\n")).2 =
      ["cfg:1:\"", "GOOD", "\""] := by
  refine ⟨rfl, ?_, rfl⟩
  have hmessage : "cfg:1:\"\nGOOD\n\"\r\n" = "cfg:1:\"\nGOOD\n\"" ++ lineEnd := rfl
  rw [hmessage, isLine_append_iff]
  decide

end MetricsDaemon
