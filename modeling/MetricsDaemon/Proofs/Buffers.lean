import Mathlib.Data.List.TakeWhile
import MetricsDaemon.Proofs.Encoding
import MetricsDaemon.Provider.Native

/-!
# Texts in a buffer

A text that a library writes into the buffer is cut in bytes on one side and read in
characters on the other. It arrives whole up to its first NUL if it fits. If it does not, what
fits arrives, and one replacement for the character that the end of the buffer breaks.
Whatever else a library leaves in the buffer, and whatever length it claims, no more
characters arrive than the buffer has bytes, and none of them is a NUL.
-/

namespace MetricsDaemon

namespace Text

/-- A place between two characters of a text, or at one of its ends, told in bytes. -/
def IsBoundary (text : String) (place : Nat) : Prop :=
  ∃ front : String, front.toList <+: text.toList ∧ (utf8 front).length = place

/-- The longest front of a text that has no more than some number of bytes. -/
structure IsLongestFront (room : Nat) (text front : String) : Prop where
  isPrefix : front.toList <+: text.toList
  fits : (utf8 front).length ≤ room
  longest : ∀ other : String, other.toList <+: text.toList → (utf8 other).length ≤ room →
    other.toList <+: front.toList

variable {room : Nat} {text front : String}

/-- More of a text has more bytes. -/
theorem length_utf8_le {other : String} (hfront : front.toList <+: other.toList) :
    (utf8 front).length ≤ (utf8 other).length := by
  obtain ⟨more, hmore⟩ := hfront
  rw [utf8, utf8, ← hmore, List.flatMap_append, List.length_append]
  exact Nat.le_add_right _ _

/-- The room ends between two characters exactly when the longest front fills it. -/
theorem IsLongestFront.isBoundary_iff (hfront : IsLongestFront room text front) :
    IsBoundary text room ↔ (utf8 front).length = room := by
  constructor
  · rintro ⟨other, hother, rfl⟩
    exact Nat.le_antisymm hfront.fits
      (length_utf8_le (hfront.longest other hother (Nat.le_refl _)))
  · exact fun hwhole => ⟨front, hfront.isPrefix, hwhole⟩

/-- There is only one such front. -/
theorem IsLongestFront.unique {other : String} (hfront : IsLongestFront room text front)
    (hother : IsLongestFront room text other) : front = other := by
  have hle := hother.longest front hfront.isPrefix hfront.fits
  have hge := hfront.longest other hother.isPrefix hother.fits
  exact String.toList_inj.mp (hle.eq_of_length_le hge.length_le)

/-- A front is the longest that fits if the next character does not fit any more. -/
theorem isLongestFront_of_push {c : Char} (hnext : (front.push c).toList <+: text.toList)
    (hfits : (utf8 front).length ≤ room) (hover : room < (utf8 (front.push c)).length) :
    IsLongestFront room text front where
  isPrefix := by
    rw [String.toList_push] at hnext
    exact (List.prefix_append _ _).trans hnext
  fits := hfits
  longest := by
    intro other hother hroom
    rcases List.prefix_or_prefix_of_prefix hother hnext with hshort | hlong
    · rw [String.toList_push] at hshort
      refine (List.prefix_concat_iff.mp hshort).resolve_left fun hall => ?_
      rw [← String.toList_push, String.toList_inj] at hall
      rw [hall] at hroom
      exact absurd hroom (Nat.not_le.mpr hover)
    · exact absurd hroom (Nat.not_le.mpr (hover.trans_le (length_utf8_le hlong)))

/-- What fits of a text is its longest front. -/
theorem isLongestFront_fittingFront (room : Nat) (text : String) :
    IsLongestFront room text (String.ofList (fittingFront room text.toList)) where
  isPrefix := by
    rw [String.toList_ofList]
    exact fittingFront_isPrefix room text.toList
  fits := by
    rw [utf8, String.toList_ofList]
    exact length_spelling_fittingFront_le room text.toList
  longest := by
    intro other hother hfits
    rw [String.toList_ofList]
    exact isPrefix_fittingFront hother hfits

/-- A text that was encoded is decoded as it was. -/
theorem fromUtf8Lossy_utf8 (text : String) : fromUtf8Lossy (utf8 text) = text := by
  have hback : lossyFrom none (utf8 text) = text.toList := lossyFrom_spelling text.toList
  rw [fromUtf8Lossy, hback, String.ofList_toList]

/-- What is read of a text that breaks off. -/
theorem fromUtf8Lossy_take (hfront : IsLongestFront room text front)
    (hlong : room < (utf8 text).length) :
    fromUtf8Lossy ((utf8 text).take room) =
      if (utf8 front).length = room then front else front.push replacement := by
  obtain rfl := hfront.unique (isLongestFront_fittingFront room text)
  have hbroken : lossyFrom none ((utf8 text).take room) = fittingFront room text.toList ++
      if (spelling (fittingFront room text.toList)).length = min room (utf8 text).length then []
      else [replacement] := lossyFrom_take_spelling room text.toList
  rw [fromUtf8Lossy, hbroken, Nat.min_eq_left hlong.le, utf8, String.toList_ofList, ← spelling]
  split
  · rw [List.append_nil]
  · rw [← String.toList_inj, String.toList_push, String.toList_ofList, String.toList_ofList]

end Text

namespace Native

open Text (IsBoundary IsLongestFront)

/-- The bytes up to the first zero are those of the text up to its first NUL. -/
theorem untilNul_utf8 (s : String) : untilNul (Text.utf8 s) = Text.utf8 (cutAtNul s) := by
  rw [cutAtNul, Text.utf8, Text.utf8, String.toList_ofList]
  exact Text.takeWhile_spelling s.toList

/-- What is written and read back are the bytes before the first NUL of the text, as far as the
buffer goes. -/
theorem readBuffer_fillBuffer (buffer : List UInt8) (s : String) :
    readBuffer (fillBuffer buffer (Text.utf8 s)).2 (fillBuffer buffer (Text.utf8 s)).1 =
      Text.fromUtf8Lossy ((Text.utf8 (cutAtNul s)).take buffer.length) := by
  have hfilled : (Text.utf8 s).take (min (Text.utf8 s).length buffer.length) =
      (Text.utf8 s).take buffer.length := by
    rcases Nat.le_total (Text.utf8 s).length buffer.length with hfits | hlong
    · rw [Nat.min_eq_left hfits, List.take_length, List.take_of_length_le hfits]
    · rw [Nat.min_eq_right hlong]
  have hlength : ((Text.utf8 s).take buffer.length).length =
      min (Text.utf8 s).length buffer.length := by
    rw [List.length_take, Nat.min_comm]
  rw [readBuffer, fillBuffer, ← untilNul_utf8]
  dsimp only
  rw [hfilled, Nat.min_eq_left (by rw [List.length_append, hlength]; exact Nat.le_add_right _ _),
    ← hlength, List.take_left' rfl, untilNul, untilNul, List.take_takeWhile]

/-- What arrives of a text through the buffer. -/
structure Survives (text received : String) : Prop where
  /-- A text that fits arrives as it is. -/
  whole : (Text.utf8 text).length ≤ bufferSize → received = text
  /-- Of a longer one the longest front arrives that ends between two characters and fits. A
  replacement follows exactly if the buffer ends inside a character. -/
  cut : bufferSize < (Text.utf8 text).length → ∃ front, IsLongestFront bufferSize text front ∧
    (IsBoundary text bufferSize → received = front) ∧
    (¬IsBoundary text bufferSize → received = front.push Text.replacement)

/-- The part of a text before its first NUL survives its way through the buffer as far as it fits,
and whatever is left in the buffer is read as a text without a NUL that is no longer than it. -/
theorem readBuffer_fillBuffer_survives :
    (∀ s : String, Survives (cutAtNul s)
      (readBuffer (fillBuffer freshBuffer (Text.utf8 s)).2
        (fillBuffer freshBuffer (Text.utf8 s)).1)) ∧
    ∀ (buffer : List UInt8) (claimed : Nat), buffer.length = bufferSize →
      '\x00' ∉ (readBuffer buffer claimed).toList ∧
        (readBuffer buffer claimed).length ≤ bufferSize := by
  constructor
  · intro s
    rw [readBuffer_fillBuffer, show freshBuffer.length = bufferSize from List.length_replicate]
    constructor
    · intro hfits
      rw [List.take_of_length_le hfits, Text.fromUtf8Lossy_utf8]
    · intro hlong
      have hfront := Text.isLongestFront_fittingFront bufferSize (cutAtNul s)
      refine ⟨_, hfront, ?_, ?_⟩
      · intro hboundary
        rw [Text.fromUtf8Lossy_take hfront hlong, if_pos (hfront.isBoundary_iff.mp hboundary)]
      · intro hinside
        rw [Text.fromUtf8Lossy_take hfront hlong,
          if_neg fun hwhole => hinside (hfront.isBoundary_iff.mpr hwhole)]
  · intro buffer claimed hsize
    have hread : (readBuffer buffer claimed).toList =
        Text.lossyFrom none (untilNul (buffer.take (min claimed buffer.length))) :=
      String.toList_ofList
    rw [← String.length_toList, hread]
    constructor
    · refine Text.nul_not_mem_lossyFrom fun hzero => ?_
      simpa using List.mem_takeWhile_imp hzero
    · refine (Text.length_lossyFrom_le none _).trans ?_
      rw [Option.isSome_none, Bool.toNat_false, Nat.add_zero, ← hsize]
      exact (List.takeWhile_sublist _).length_le.trans (List.length_take_le' _ _)

end Native

namespace Sample

/-- A text of one byte, and two more for each accent. -/
def accented (accents : Nat) : String := String.ofList ('a' :: List.replicate accents 'é')

/-- The text has one byte, and two for each accent. -/
theorem length_utf8_accented (accents : Nat) :
    (Text.utf8 (accented accents)).length = 1 + accents * 2 := by
  have hone : (String.utf8EncodeChar 'a').length = 1 := rfl
  have htwo : (String.utf8EncodeChar 'é').length = 2 := rfl
  rw [Text.utf8, accented, String.toList_ofList, List.flatMap_cons, List.length_append, hone,
    List.length_flatMap, List.map_replicate, htwo, List.sum_replicate_nat]

/-- The text has no NUL. -/
theorem cutAtNul_accented (accents : Nat) :
    Native.cutAtNul (accented accents) = accented accents := by
  have hnone : ∀ c ∈ 'a' :: List.replicate accents 'é', (c != '\x00') = true := by
    simp [List.mem_replicate]
  simp only [Native.cutAtNul, accented, String.toList_ofList, List.takeWhile_eq_self_iff.mpr hnone]

/-- One accent more makes the next of these texts. -/
theorem push_accented (accents : Nat) : (accented accents).push 'é' = accented (accents + 1) := by
  rw [← String.toList_inj, String.toList_push, accented, accented, String.toList_ofList,
    String.toList_ofList, List.cons_append, List.replicate_succ']

/-- The last accent begins inside the buffer and ends outside. -/
theorem isLongestFront_accented :
    Text.IsLongestFront Native.bufferSize (accented 256) (accented 255) := by
  have hlong : Native.bufferSize < (Text.utf8 (accented 256)).length := by
    rw [length_utf8_accented]
    decide
  have hwhole : (accented 255).push 'é' = accented 256 := push_accented 255
  refine Text.isLongestFront_of_push (c := 'é') ?_ ?_ ?_
  · exact ⟨[], by rw [List.append_nil, hwhole]⟩
  · rw [length_utf8_accented]
    decide
  · rwa [hwhole]

end Sample

open Native in
/-- A text with a NUL, one that is broken inside a character, and bytes that are no text. -/
theorem readBuffer_fillBuffer_survives_accented :
    ((Text.utf8 (cutAtNul "42%\x00junk")).length ≤ bufferSize ∧
      readBuffer (fillBuffer freshBuffer (Text.utf8 "42%\x00junk")).2
        (fillBuffer freshBuffer (Text.utf8 "42%\x00junk")).1 = cutAtNul "42%\x00junk") ∧
    (bufferSize < (Text.utf8 (cutAtNul (Sample.accented 256))).length ∧
      ¬Text.IsBoundary (cutAtNul (Sample.accented 256)) bufferSize ∧
      readBuffer (fillBuffer freshBuffer (Text.utf8 (Sample.accented 256))).2
        (fillBuffer freshBuffer (Text.utf8 (Sample.accented 256))).1 =
          (Sample.accented 255).push Text.replacement) ∧
    ((List.replicate bufferSize (0xFF : UInt8)).length = bufferSize ∧
      (readBuffer (List.replicate bufferSize 0xFF) 10000).length ≤ bufferSize) := by
  have hshort : (Text.utf8 (cutAtNul "42%\x00junk")).length ≤ bufferSize := by decide
  have hlong : bufferSize < (Text.utf8 (cutAtNul (Sample.accented 256))).length := by
    rw [Sample.cutAtNul_accented, Sample.length_utf8_accented]
    decide
  have hinside : ¬Text.IsBoundary (cutAtNul (Sample.accented 256)) bufferSize := by
    rw [Sample.cutAtNul_accented, Sample.isLongestFront_accented.isBoundary_iff,
      Sample.length_utf8_accented]
    decide
  have hsize : (List.replicate bufferSize (0xFF : UInt8)).length = bufferSize :=
    List.length_replicate
  obtain ⟨front, hfront, -, hbroken⟩ :=
    (readBuffer_fillBuffer_survives.1 (Sample.accented 256)).cut hlong
  rw [Sample.cutAtNul_accented] at hfront
  obtain rfl := hfront.unique Sample.isLongestFront_accented
  exact ⟨⟨hshort, (readBuffer_fillBuffer_survives.1 "42%\x00junk").whole hshort⟩,
    ⟨hlong, hinside, hbroken hinside⟩,
    hsize, (readBuffer_fillBuffer_survives.2 _ 10000 hsize).2⟩

end MetricsDaemon
