/-!
# White space and cutting

White space is the Unicode property White_Space. Texts are cut as lists of
characters; the versions on `String` convert at the border.
-/

namespace MetricsDaemon.Text

/-- Whether a character is white space. -/
def isBlank (c : Char) : Bool :=
  let code := c.toNat
  (9 ≤ code && code ≤ 13) || code == 0x20 || code == 0x85 || code == 0xA0 || code == 0x1680 ||
    (0x2000 ≤ code && code ≤ 0x200A) || code == 0x2028 || code == 0x2029 || code == 0x202F ||
    code == 0x205F || code == 0x3000

/-- A text without its leading white space. -/
def dropLeading (s : List Char) : List Char := s.dropWhile isBlank

/-- A text without its trailing white space. -/
def dropTrailing (s : List Char) : List Char := (s.reverse.dropWhile isBlank).reverse

/-- A text without white space at either end. -/
def strip (s : List Char) : List Char := dropTrailing (dropLeading s)

/-- `dropTrailing` on strings. -/
def trimEnd (s : String) : String := String.ofList (dropTrailing s.toList)

/-- `strip` on strings. -/
def trim (s : String) : String := String.ofList (strip s.toList)

/-- Cut a text at the first occurrence of a character, which is dropped. -/
def cutFirst (mark : Char) : List Char → Option (List Char × List Char)
  | [] => none
  | c :: rest =>
      if c = mark then some ([], rest)
      else (cutFirst mark rest).map fun parts => (c :: parts.1, parts.2)

/-- Cut a text at the last occurrence of a character, which is dropped. -/
def cutLast (mark : Char) (s : List Char) : Option (List Char × List Char) :=
  (cutFirst mark s.reverse).map fun parts => (parts.2.reverse, parts.1.reverse)

/-- The parts of a text between the occurrences of a character. -/
def splitAtEach (mark : Char) : List Char → List (List Char)
  | [] => [[]]
  | c :: rest =>
      match splitAtEach mark rest with
      | [] => [[]]
      | part :: parts => if c = mark then [] :: part :: parts else (c :: part) :: parts

/-- The first part of a cut does not contain the mark, and the parts around the mark are the
text. -/
theorem cutFirst_eq_some {mark : Char} {s before after : List Char}
    (hcut : cutFirst mark s = some (before, after)) :
    s = before ++ mark :: after ∧ mark ∉ before := by
  induction s generalizing before with
  | nil => simp [cutFirst] at hcut
  | cons c rest ih =>
      by_cases hc : c = mark
      · simp only [cutFirst, hc, if_true, Option.some.injEq, Prod.mk.injEq] at hcut
        obtain ⟨rfl, rfl⟩ := hcut
        simp [hc]
      · simp only [cutFirst, hc, if_false, Option.map_eq_some_iff, Prod.mk.injEq] at hcut
        obtain ⟨⟨head, tail⟩, hrest, rfl, rfl⟩ := hcut
        obtain ⟨hsplit, hmem⟩ := ih hrest
        refine ⟨by rw [hsplit]; rfl, ?_⟩
        simp only [List.mem_cons, not_or]
        exact ⟨fun h => hc h.symm, hmem⟩

/-- A text is cut exactly at a mark that its first part does not contain. -/
theorem cutFirst_append {mark : Char} {before : List Char} (after : List Char)
    (hmem : mark ∉ before) : cutFirst mark (before ++ mark :: after) = some (before, after) := by
  induction before with
  | nil => simp [cutFirst]
  | cons c rest ih =>
      simp only [List.mem_cons, not_or] at hmem
      have hc : ¬c = mark := fun h => hmem.1 h.symm
      simp [cutFirst, hc, ih hmem.2]

/-- A text cannot be cut exactly when it does not contain the mark. -/
theorem cutFirst_eq_none_iff {mark : Char} {s : List Char} : cutFirst mark s = none ↔ mark ∉ s := by
  induction s with
  | nil => simp [cutFirst]
  | cons c rest ih =>
      by_cases hc : c = mark
      · simp [cutFirst, hc]
      · have hne : ¬mark = c := fun h => hc h.symm
        simp [cutFirst, hc, hne, ih]

end MetricsDaemon.Text
