import Mathlib.Data.List.DropRight
import Mathlib.Data.List.TakeWhile
import MetricsDaemon.Text.Blank

/-!
# Laws of trimming and cutting

Trimming brings no characters in, takes everything away exactly when there is nothing
but white space, and changes nothing exactly when there is none at the end that is trimmed.
-/

namespace MetricsDaemon.Text

variable {s t : List Char}

/-- A text without its leading white space has no other characters. -/
theorem dropLeading_sublist (s : List Char) : (dropLeading s).Sublist s :=
  List.dropWhile_sublist isBlank

/-- What is left after the end of a text is trimmed is the front of the text. -/
theorem dropTrailing_isPrefix (s : List Char) : dropTrailing s <+: s :=
  List.rdropWhile_prefix isBlank s

/-- A text without its trailing white space has no other characters. -/
theorem dropTrailing_sublist (s : List Char) : (dropTrailing s).Sublist s :=
  (dropTrailing_isPrefix s).sublist

/-- A trimmed text has no other characters. -/
theorem strip_sublist (s : List Char) : (strip s).Sublist s :=
  (dropTrailing_sublist (dropLeading s)).trans (dropLeading_sublist s)

/-- Nothing is left of a text exactly if it is all white space. -/
theorem dropLeading_eq_nil_iff : dropLeading s = [] ↔ ∀ c ∈ s, isBlank c = true :=
  List.dropWhile_eq_nil_iff

/-- Nothing is left of a text exactly if it is all white space. -/
theorem dropTrailing_eq_nil_iff : dropTrailing s = [] ↔ ∀ c ∈ s, isBlank c = true := by
  simp [dropTrailing, List.dropWhile_eq_nil_iff]

/-! ## Texts without white space at an end -/

/-- The text does not start with white space. -/
def StartsBare (s : List Char) : Prop := ∀ c ∈ s.head?, isBlank c = false

/-- The text does not end in white space. -/
def EndsBare (s : List Char) : Prop := ∀ c ∈ s.getLast?, isBlank c = false

/-- The instance is named: characters are finitely many, and a search may find that all of them can
be tried instead of the first. -/
instance : DecidablePred StartsBare := fun s => Option.decidableForallMem s.head?

/-- Like the instance for the front, this one looks at one character only. -/
instance : DecidablePred EndsBare := fun s => Option.decidableForallMem s.getLast?

/-- Exactly a text that starts bare has no white space to lose in front. -/
theorem dropLeading_eq_self_iff : dropLeading s = s ↔ StartsBare s := by
  cases s with
  | nil => simp [dropLeading, StartsBare]
  | cons c rest => simp [dropLeading, List.dropWhile_eq_self_iff, StartsBare]

/-- The end of a text is the start of its mirror image. -/
theorem startsBare_reverse : StartsBare s.reverse ↔ EndsBare s := by
  rw [StartsBare, EndsBare, List.head?_reverse]

/-- Exactly a text that ends bare has no white space to lose at its end. -/
theorem dropTrailing_eq_self_iff : dropTrailing s = s ↔ EndsBare s := by
  rw [← startsBare_reverse, ← dropLeading_eq_self_iff, dropTrailing, dropLeading,
    List.reverse_eq_iff]

/-- Without its leading white space a text starts bare. -/
theorem startsBare_dropLeading (s : List Char) : StartsBare (dropLeading s) :=
  dropLeading_eq_self_iff.mp (List.dropWhile_idempotent isBlank s)

/-- Without its trailing white space a text ends bare. -/
theorem endsBare_dropTrailing (s : List Char) : EndsBare (dropTrailing s) :=
  dropTrailing_eq_self_iff.mp (List.rdropWhile_idempotent isBlank s)

/-- Whether a text starts bare depends on its first part. -/
theorem startsBare_append (hsome : s ≠ []) : StartsBare (s ++ t) ↔ StartsBare s := by
  rw [StartsBare, List.head?_append_of_ne_nil s hsome, StartsBare]

/-- Whether a text ends bare depends on its last part. -/
theorem endsBare_append (hsome : t ≠ []) : EndsBare (s ++ t) ↔ EndsBare t := by
  rw [EndsBare, List.getLast?_append_of_ne_nil s hsome, EndsBare]

/-- The front of a text that starts bare starts bare. -/
theorem StartsBare.of_isPrefix (hbare : StartsBare s) (hfront : t <+: s) : StartsBare t := by
  obtain ⟨rest, rfl⟩ := hfront
  by_cases hsome : t = []
  · simp [hsome, StartsBare]
  · exact (startsBare_append hsome).mp hbare

/-- The back of a text that ends bare ends bare. -/
theorem EndsBare.of_isSuffix (hbare : EndsBare s) (hback : t <:+ s) : EndsBare t := by
  obtain ⟨front, rfl⟩ := hback
  by_cases hsome : t = []
  · simp [hsome, EndsBare]
  · exact (endsBare_append hsome).mp hbare

/-- A text that is all white space and does not start with it is empty. -/
theorem StartsBare.eq_nil (hbare : StartsBare s) (hblank : ∀ c ∈ s, isBlank c = true) : s = [] := by
  rw [← dropLeading_eq_self_iff.mpr hbare]
  exact dropLeading_eq_nil_iff.mpr hblank

/-- A text of white space that ends bare is empty. -/
theorem EndsBare.eq_nil (hbare : EndsBare s) (hblank : ∀ c ∈ s, isBlank c = true) : s = [] := by
  rw [← dropTrailing_eq_self_iff.mpr hbare]
  exact dropTrailing_eq_nil_iff.mpr hblank

/-- A trimmed text starts bare. -/
theorem startsBare_strip (s : List Char) : StartsBare (strip s) :=
  (startsBare_dropLeading s).of_isPrefix (dropTrailing_isPrefix (dropLeading s))

/-- A trimmed text ends bare. -/
theorem endsBare_strip (s : List Char) : EndsBare (strip s) :=
  endsBare_dropTrailing (dropLeading s)

/-- There is nothing to trim where a text starts and ends bare. -/
theorem strip_eq_self (hstart : StartsBare s) (hend : EndsBare s) : strip s = s := by
  rw [strip, dropLeading_eq_self_iff.mpr hstart, dropTrailing_eq_self_iff.mpr hend]

/-- Nothing is left of a text exactly if it is white space. -/
theorem strip_eq_nil_iff : strip s = [] ↔ ∀ c ∈ s, isBlank c = true := by
  rw [strip, dropTrailing_eq_nil_iff]
  constructor
  · intro hblank
    exact dropLeading_eq_nil_iff.mp ((startsBare_dropLeading s).eq_nil hblank)
  · intro hblank c hmem
    exact hblank c ((dropLeading_sublist s).subset hmem)

/-! ## Cutting from the end -/

variable {mark : Char} {before after : List Char}

/-- A text is cut at the last mark. -/
theorem cutLast_append (hmem : mark ∉ after) :
    cutLast mark (before ++ mark :: after) = some (before, after) := by
  have hreverse : (before ++ mark :: after).reverse = after.reverse ++ mark :: before.reverse := by
    simp
  rw [cutLast, hreverse, cutFirst_append _ (by simpa using hmem)]
  simp

/-- The last part of a cut does not contain the mark, and the parts around the mark are the
text. -/
theorem cutLast_eq_some (hcut : cutLast mark s = some (before, after)) :
    s = before ++ mark :: after ∧ mark ∉ after := by
  rw [cutLast, Option.map_eq_some_iff] at hcut
  obtain ⟨⟨front, back⟩, hfirst, hparts⟩ := hcut
  cases hparts
  obtain ⟨hsplit, hmem⟩ := cutFirst_eq_some hfirst
  refine ⟨?_, by simpa using hmem⟩
  rw [← List.reverse_inj, hsplit]
  simp

end MetricsDaemon.Text
