import MetricsDaemon.LineSplitter
import MetricsDaemon.Proofs.Encoding
import MetricsDaemon.Proofs.Grammar
import MetricsDaemon.State.Tick

/-!
# What a line is made of

Bytes that are no line feeds decode to a text without one, also where they are ill-formed:
an overlong spelling of a short character is never read as that character. So no line
that comes in contains a line feed, and neither does the id that a command takes from its
line, which does not contain a colon either. A message that goes out is one line if it has
no line feed but the one at its end.
-/

namespace MetricsDaemon

namespace Text

variable {state : Partial} {inside : Option Partial} {byte : UInt8} {bytes : List UInt8}

/-! ## Decoding -/

/-- Even with the least byte that may come next, the number read so far is past the first
sixteen. -/
def Partial.Exceeds (state : Partial) : Prop := 16 ≤ state.bits * 64 + (state.low - 0x80)

/-- A byte that neither ends in a line feed nor begins what could become one. -/
def Decoded.Skips : Decoded → Prop
  | .char c => c ≠ '\n'
  | .more state => state.Exceeds
  | .bad => True

/-- Only ten is the number of the line feed; a number that no character has is taken as zero. -/
theorem eq_ten_of_ofNat {n : Nat} (hfeed : Char.ofNat n = '\n') : n = 10 := by
  by_cases hvalid : n.isValidChar
  · rw [Char.ofNat, dif_pos hvalid] at hfeed
    exact congrArg Char.toNat hfeed
  · rw [Char.ofNat, dif_neg hvalid] at hfeed
    cases hfeed

/-- The first byte of a character neither ends in a line feed nor begins one, unless it is the line
feed itself. -/
theorem skips_firstByte (hbyte : byte ≠ 10) : (firstByte byte).Skips := by
  simp only [firstByte]
  split
  · exact fun hfeed => hbyte (UInt8.toNat_inj.mp (eq_ten_of_ofNat hfeed))
  · repeat' split
    all_goals
      first
      | trivial
      | (simp only [Decoded.Skips, Partial.Exceeds]; omega)

/-- What is past the number of the line feed does not come back to it with the next byte. -/
theorem Partial.Exceeds.skips_nextByte (hexceeds : state.Exceeds) (byte : UInt8) :
    (state.nextByte byte).Skips := by
  unfold Partial.Exceeds at hexceeds
  simp only [Partial.nextByte]
  split
  · split
    · intro hfeed
      have hten := eq_ten_of_ofNat hfeed
      omega
    · simp only [Decoded.Skips, Partial.Exceeds]
      omega
  · trivial

/-- Bytes that are no line feeds decode to none. -/
theorem not_mem_lossyFrom (hinside : ∀ state ∈ inside, state.Exceeds) (hbytes : 10 ∉ bytes) :
    '\n' ∉ lossyFrom inside bytes := by
  have hmeets {decoded : Decoded} (hskips : decoded.Skips) :
      decoded.Meets (· ≠ '\n') Partial.Exceeds := by
    cases decoded <;> exact hskips
  have hall : ∀ c ∈ lossyFrom inside bytes, c ≠ '\n' :=
    forall_mem_lossyFrom (by decide)
      (fun byte hmem => hmeets (skips_firstByte fun hbyte => hbytes (hbyte ▸ hmem)))
      (fun state hexceeds byte _ => hmeets (hexceeds.skips_nextByte byte)) hinside
  exact fun hmem => hall _ hmem rfl

end Text

namespace LineSplitter

variable {splitter : LineSplitter} {line : String} {bytes reversed : List UInt8}
  {chunks : List (List UInt8)}

/-! ## Cutting a stream into lines -/

/-- The lines that end in a sequence of chunks. -/
def linesOf : LineSplitter → List (List UInt8) → List String
  | _, [] => []
  | splitter, chunk :: rest => (splitter.push chunk).2 ++ linesOf (splitter.push chunk).1 rest

/-- Pushing two chunks is the same as pushing them as one. -/
theorem push_append (splitter : LineSplitter) (bytes more : List UInt8) :
    splitter.push (bytes ++ more) =
      (((splitter.push bytes).1.push more).1,
        (splitter.push bytes).2 ++ ((splitter.push bytes).1.push more).2) := by
  induction bytes generalizing splitter with
  | nil => rfl
  | cons byte rest ih =>
    simp only [List.cons_append, push]
    split
    · rw [ih start]
      split <;> rfl
    · exact ih (splitter.take byte)

/-- It does not matter in which chunks the bytes arrive. -/
theorem linesOf_eq (splitter : LineSplitter) (chunks : List (List UInt8)) :
    splitter.linesOf chunks = (splitter.push chunks.flatten).2 := by
  induction chunks generalizing splitter with
  | nil => rfl
  | cons chunk rest ih => rw [linesOf, List.flatten_cons, push_append, ih]

/-- The bytes that wait for the end of their line hold no line feed after one more byte that is
none. -/
theorem not_mem_pending_take {byte : UInt8} (hpending : lineFeed ∉ splitter.pending)
    (hbyte : byte ≠ lineFeed) : lineFeed ∉ (splitter.take byte).pending := by
  unfold take
  split
  · exact hpending
  · split
    · exact List.not_mem_nil
    · exact List.not_mem_cons_of_ne_of_not_mem hbyte.symm hpending

/-- The text of a line holds no line feed when its bytes hold none. -/
theorem not_mem_lineText (hbytes : lineFeed ∉ reversed) : '\n' ∉ (lineText reversed).toList := by
  unfold lineText
  split
  · simp
  · rw [Text.fromUtf8Lossy, String.toList_ofList]
    refine Text.not_mem_lossyFrom nofun fun hmem => hbytes ?_
    split at hmem
    · exact List.mem_cons_of_mem _ (List.mem_reverse.mp hmem)
    · exact List.mem_reverse.mp hmem

/-- No line that a chunk completes holds a line feed. -/
theorem not_mem_of_mem_push (hpending : lineFeed ∉ splitter.pending)
    (hline : line ∈ (splitter.push bytes).2) : '\n' ∉ line.toList := by
  induction bytes generalizing splitter with
  | nil => cases hline
  | cons byte rest ih =>
    unfold push at hline
    split at hline
    · dsimp only at hline
      split at hline
      · exact ih List.not_mem_nil hline
      · rcases List.mem_cons.mp hline with rfl | hline
        · exact not_mem_lineText hpending
        · exact ih List.not_mem_nil hline
    · next hbyte => exact ih (not_mem_pending_take hpending hbyte) hline

/-- No line that is cut off a stream contains a line feed. -/
theorem not_mem_of_mem_linesOf (hline : line ∈ start.linesOf chunks) : '\n' ∉ line.toList := by
  rw [linesOf_eq] at hline
  exact not_mem_of_mem_push List.not_mem_nil hline

end LineSplitter

namespace Command

/-! ## What is read from a line -/

variable {command : Command} {id line : String} {once : Bool} {args word : List Char}

/-- The id under which the client wants to be answered. -/
def id? : Command → Option String
  | .subscribe id _ _ _ => some id
  | .bye => none
  | .config id _ _ _ => some id

/-- The id is part of the text, without a colon, and not empty. -/
def TakesId (args : List Char) (id : String) : Prop :=
  id.toList.Sublist args ∧ ':' ∉ id.toList ∧ id ≠ ""

/-- What stands before the first colon is taken as an id. -/
theorem takesId_append {before after : List Char} (hcolon : ':' ∉ before) (hsome : before ≠ []) :
    TakesId (before ++ ':' :: after) (String.ofList before) := by
  refine ⟨?_, ?_, ?_⟩
  · rw [String.toList_ofList]
    exact List.sublist_append_left before (':' :: after)
  · rwa [String.toList_ofList]
  · rwa [Ne, ← String.toList_inj, String.toList_ofList]

/-- An id taken out of a part of the arguments is one taken out of the whole. -/
theorem TakesId.of_sublist {whole : List Char} (hid : TakesId args id)
    (hargs : args.Sublist whole) : TakesId whole id :=
  ⟨hid.1.trans hargs, hid.2⟩

/-- The id of a subscribing command is taken out of its arguments. -/
theorem takesId_parseSubscribe (hparse : parseSubscribe once args = .ok command)
    (hid : command.id? = some id) : TakesId args id := by
  obtain ⟨before, rest, hsplit, hcolon, hsome, -, rfl⟩ := parseSubscribe_eq_ok_iff.mp hparse
  cases hid
  exact (takesId_append hcolon hsome).of_sublist (hsplit ▸ Text.dropLeading_sublist args)

/-- The id of a command that asks for a setting is taken out of its arguments. -/
theorem takesId_parseConfig (hparse : parseConfig args = .ok command)
    (hid : command.id? = some id) : TakesId args id := by
  obtain ⟨before, module_, key, digit, type_, hsplit, hcolon, -, -, hsome, -, -, -, rfl⟩ :=
    parseConfig_eq_ok_iff.mp hparse
  cases hid
  exact (takesId_append hcolon hsome).of_sublist (hsplit ▸ Text.strip_sublist args)

/-- The id of any command with arguments is taken out of them. -/
theorem takesId_parseWords (hparse : parseWords word (some args) = .ok command)
    (hid : command.id? = some id) : TakesId args id := by
  unfold parseWords at hparse
  split at hparse
  · exact takesId_parseSubscribe hparse hid
  · split at hparse
    · cases hparse
      cases hid
    · split at hparse
      · exact takesId_parseConfig hparse hid
      · cases hparse

/-- A command without arguments has no id. -/
theorem id?_of_parseWords_none (hparse : parseWords word none = .ok command) :
    command.id? = none := by
  simp only [parseWords] at hparse
  repeat' split at hparse
  all_goals cases hparse
  rfl

/-- The id of a command is part of its line, contains no colon and is not empty. -/
theorem takesId_of_parse (hparse : parse line = .ok command) (hid : command.id? = some id) :
    TakesId line.toList id := by
  unfold parse at hparse
  split at hparse
  · next word args hcut =>
    obtain ⟨hsplit, _⟩ := Text.cutFirst_eq_some hcut
    refine (takesId_parseWords hparse hid).of_sublist ?_
    rw [hsplit]
    exact (List.sublist_cons_self ' ' args).trans (List.sublist_append_right word _)
  · rw [id?_of_parseWords_none hparse] at hid
    cases hid

/-- The id of a command that was cut off a stream contains neither a colon nor a line feed. -/
theorem not_mem_of_linesOf {chunks : List (List UInt8)}
    (hline : line ∈ LineSplitter.start.linesOf chunks)
    (hparse : parse (Text.trimEnd line) = .ok command) (hid : command.id? = some id) :
    ':' ∉ id.toList ∧ '\n' ∉ id.toList := by
  obtain ⟨hpart, hcolon, _⟩ := takesId_of_parse hparse hid
  rw [Text.trimEnd, String.toList_ofList] at hpart
  exact ⟨hcolon, fun hmem => LineSplitter.not_mem_of_mem_linesOf hline
    ((Text.dropTrailing_sublist line.toList).subset (hpart.subset hmem))⟩

end Command

/-! ## What is written to a line -/

namespace Number

/-- Every character of a spelled number is a digit. -/
theorem isDigit_of_mem_natDigits {c : Char} {n : Nat} (hmem : c ∈ natDigits n) :
    c.isDigit = true :=
  Nat.isDigit_of_mem_toDigits (by decide) (by decide) hmem

/-- A character that is no digit does not occur in a spelled number. -/
theorem not_mem_natDigits {c : Char} {n : Nat} (hc : c.isDigit = false) : c ∉ natDigits n := by
  intro hmem
  rw [isDigit_of_mem_natDigits hmem] at hc
  cases hc

end Number

/-- A message that is exactly one line for whoever reads it. -/
def IsLine (message : String) : Prop :=
  ∃ body : String, '\n' ∉ body.toList ∧ message = body ++ lineEnd

/-- A text with a line end behind it is one line exactly when it holds no line feed. -/
theorem isLine_append_iff {text : String} : IsLine (text ++ lineEnd) ↔ '\n' ∉ text.toList := by
  constructor
  · rintro ⟨body, hbody, heq⟩
    rw [← String.toList_inj, String.toList_append, String.toList_append,
      List.append_left_inj] at heq
    rwa [heq]
  · exact fun htext => ⟨text, htext, rfl⟩

end MetricsDaemon
