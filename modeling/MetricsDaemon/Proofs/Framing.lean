import Mathlib.Data.List.Basic
import MetricsDaemon.Proofs.Lines

/-!
# What is cut off a stream

Which lines come out of a stream of bytes is a matter of the stream alone: its parts
between the line feeds, less those that are too long, whatever the chunks are in which the
bytes arrive. What the splitter holds is told by the bytes after the last line feed. It
holds these bytes as long as they may become a line, and none once there are too many.
-/

namespace MetricsDaemon

namespace LineSplitter

variable {segment bytes : List UInt8} {byte : UInt8}

/-! ## The parts of a stream -/

/-- A part of a stream without the carriage return at its end, if there is one. -/
def withoutReturn (segment : List UInt8) : List UInt8 :=
  if segment.getLast? = some carriageReturn then segment.dropLast else segment

/-- The lines of a stream: what stands between its line feeds, the rest after the last one
left out, unless it is too long. -/
def cut (stream : List UInt8) : List String :=
  ((stream.splitOn lineFeed).dropLast.filter fun segment => segment.length ≤ longestLine).map
    fun segment => Text.fromUtf8Lossy (withoutReturn segment)

/-- The bytes after the last line feed of a stream. -/
def unfinished (stream : List UInt8) : List UInt8 :=
  (stream.splitOn lineFeed).getLast (List.splitOn_ne_nil lineFeed stream)

/-- The splitter after these bytes of a line. -/
def standing (segment : List UInt8) : LineSplitter :=
  if segment.length ≤ longestLine then ⟨segment.reverse, segment.length, false⟩ else ⟨[], 0, true⟩

/-- The splitter after a sequence of chunks. -/
def after (splitter : LineSplitter) (chunks : List (List UInt8)) : LineSplitter :=
  chunks.foldl (fun splitter chunk => (splitter.push chunk).1) splitter

/-! ## One byte -/

/-- The text of a part of a stream is read from the bytes without the carriage return. -/
theorem lineText_reverse (segment : List UInt8) :
    lineText segment.reverse = Text.fromUtf8Lossy (withoutReturn segment) := by
  unfold withoutReturn
  rcases List.eq_nil_or_concat' segment with rfl | ⟨front, last, rfl⟩
  · rfl
  · rw [List.reverse_append, List.reverse_singleton, List.singleton_append, lineText,
      List.reverse_cons, List.reverse_reverse, List.getLast?_concat, List.dropLast_concat]
    simp only [Option.some.injEq]

/-- A line that is short enough is kept as it comes. -/
theorem standing_of_le (hshort : segment.length ≤ longestLine) :
    standing segment = ⟨segment.reverse, segment.length, false⟩ := if_pos hshort

/-- A line that is too long is dropped. -/
theorem standing_of_lt (hlong : longestLine < segment.length) :
    standing segment = ⟨[], 0, true⟩ := if_neg (Nat.not_le.mpr hlong)

/-- Taking a byte is standing after one byte more. -/
theorem take_standing (segment : List UInt8) (byte : UInt8) :
    (standing segment).take byte = standing (segment ++ [byte]) := by
  have hlength : (segment ++ [byte]).length = segment.length + 1 := by simp
  rcases Nat.lt_trichotomy segment.length longestLine with hshort | hfull | hlong
  · rw [standing_of_le (Nat.le_of_lt hshort), standing_of_le (hlength ▸ hshort), take,
      List.reverse_append, List.reverse_singleton, List.singleton_append, hlength]
    exact if_neg (Nat.not_lt.mpr hshort)
  · rw [standing_of_le (Nat.le_of_eq hfull), standing_of_lt (by omega), take]
    exact if_pos (show longestLine < segment.length + 1 by omega)
  · rw [standing_of_lt hlong, standing_of_lt (by omega), take]
    exact if_pos rfl

/-- The line that a line feed ends, unless too many bytes stand before it. -/
theorem cut_append_cons (hsegment : lineFeed ∉ segment) (rest : List UInt8) :
    cut (segment ++ lineFeed :: rest) =
      if segment.length ≤ longestLine then
        Text.fromUtf8Lossy (withoutReturn segment) :: cut rest
      else cut rest := by
  have hrest := List.splitOn_ne_nil lineFeed rest
  unfold cut
  rw [List.splitOn_append_cons_self_of_not_mem hsegment, List.dropLast_cons_of_ne_nil hrest,
    List.filter_cons]
  split <;> simp_all

/-- What is unfinished begins after the last line feed. -/
theorem unfinished_append_cons (hsegment : lineFeed ∉ segment) (rest : List UInt8) :
    unfinished (segment ++ lineFeed :: rest) = unfinished rest := by
  unfold unfinished
  simp only [List.splitOn_append_cons_self_of_not_mem hsegment]
  exact List.getLast_cons _

/-! ## A chunk and a stream -/

/-- The bytes of a line so far and a chunk are cut as if they had come in one. -/
theorem push_standing (hsegment : lineFeed ∉ segment) (bytes : List UInt8) :
    (standing segment).push bytes =
      (standing (unfinished (segment ++ bytes)), cut (segment ++ bytes)) := by
  induction bytes generalizing segment with
  | nil =>
    have hwhole := List.splitOn_eq_singleton hsegment
    rw [List.append_nil, push]
    unfold unfinished cut
    simp only [hwhole]
    rfl
  | cons byte rest ih =>
    rw [push]
    split
    · next hfeed =>
      subst hfeed
      rw [unfinished_append_cons hsegment, cut_append_cons hsegment]
      have hrest : start.push rest = (standing (unfinished rest), cut rest) :=
        ih List.not_mem_nil
      rw [hrest]
      by_cases hshort : segment.length ≤ longestLine
      · rw [standing_of_le hshort, if_pos hshort, ← lineText_reverse]
        rfl
      · rw [standing_of_lt (Nat.not_le.mp hshort), if_neg hshort]
        rfl
    · next hbyte =>
      have hmore : lineFeed ∉ segment ++ [byte] := by
        simp [hsegment, Ne.symm hbyte]
      rw [take_standing, ih hmore, List.append_assoc, List.singleton_append]

/-- Pushing a stream gives its lines, and leaves the splitter standing at what is unfinished. -/
theorem push_start (stream : List UInt8) :
    start.push stream = (standing (unfinished stream), cut stream) :=
  push_standing List.not_mem_nil stream

/-- The lines of chunks are those of the stream that they make up. -/
theorem linesOf_start (chunks : List (List UInt8)) :
    start.linesOf chunks = cut chunks.flatten := by
  rw [linesOf_eq, push_start]

/-- The splitter after some chunks is the one after the stream that they make up. -/
theorem after_eq (splitter : LineSplitter) (chunks : List (List UInt8)) :
    splitter.after chunks = (splitter.push chunks.flatten).1 := by
  induction chunks generalizing splitter with
  | nil => rfl
  | cons chunk rest ih =>
    rw [List.flatten_cons, push_append, ← ih]
    rfl

/-- Of any number of bytes, as many are held as a line may have, and they are counted. -/
theorem holds_standing (segment : List UInt8) :
    (standing segment).length = (standing segment).pending.length ∧
      (standing segment).pending.length ≤ longestLine := by
  unfold standing
  split
  · next hshort => exact ⟨List.length_reverse.symm, by rwa [List.length_reverse]⟩
  · exact ⟨rfl, Nat.zero_le _⟩

/-- Whatever the chunks are in which a stream arrives, what comes out is its lines, and after
each chunk there are no more bytes held than the longest line has. -/
theorem linesOf_eq_cut (chunks : List (List UInt8)) :
    start.linesOf chunks = cut chunks.flatten ∧
      (start.after chunks).length = (start.after chunks).pending.length ∧
      (start.after chunks).pending.length ≤ longestLine := by
  rw [linesOf_start, after_eq, push_start]
  exact ⟨rfl, holds_standing (unfinished chunks.flatten)⟩

example :
    start.linesOf [[97, carriageReturn], [], [lineFeed, lineFeed, 98], [lineFeed, 99]] =
      ["a", "", "b"] := by decide

end LineSplitter

end MetricsDaemon
