import Mathlib.Data.Finset.Card
import MetricsDaemon.Layout
import MetricsDaemon.Proofs.Trimming

/-!
# What a layout refers to

A layout is plain text with dollar signs in it, each of which begins an escape, a reference
with or without a brace, or nothing. However these pieces follow each other, the scanner
finds the names of the references, from left to right, and nothing else: it takes an escape
as a whole, and of a reference it takes the name and goes on right behind it.
-/

namespace MetricsDaemon

namespace Layout

variable {c : Char} {front after name blanks tail : List Char}

/-! ## Pieces -/

/-- A variable name: a letter or an underscore, then letters, underscores and digits. -/
def IsName : List Char → Prop
  | [] => False
  | first :: rest => isNameStart first = true ∧ ∀ c ∈ rest, isNameChar c = true

/-- The text does not go on with a character that can stand inside a name. -/
def EndsName (after : List Char) : Prop := ∀ c ∈ after.head?, isNameChar c = false

/-- A piece of a layout. -/
inductive Piece where
  /-- Text without a dollar sign. -/
  | plain (text : List Char)
  /-- A doubled dollar sign. -/
  | escape
  /-- A name after a dollar sign and an opening brace, with what follows it up to a closing one. -/
  | braced (blanks name tail : List Char)
  /-- A name after a dollar sign. -/
  | bare (name : List Char)
  /-- A dollar sign that means nothing. -/
  | stray

namespace Piece

/-- How the piece is written. -/
def text : Piece → List Char
  | plain text => text
  | escape => ['$', '$']
  | braced blanks name tail => '$' :: '\x7b' :: (blanks ++ (name ++ (tail ++ ['\x7d'])))
  | bare name => '$' :: name
  | stray => ['$']

/-- The name that the piece refers to. -/
def name? : Piece → Option String
  | braced _ name _ => some (String.ofList name)
  | bare name => some (String.ofList name)
  | _ => none

/-- Whether the piece is what it is in front of some text. -/
def Fits (after : List Char) : Piece → Prop
  | plain text => '$' ∉ text
  | escape => True
  | braced blanks name tail =>
      (∀ c ∈ blanks, Text.isBlank c = true) ∧ IsName name ∧ '$' ∉ tail ∧ EndsName tail
  | bare name => IsName name ∧ EndsName after
  | stray => ∀ c ∈ after.head?, c ≠ '$' ∧ c ≠ '\x7b' ∧ isNameStart c = false

end Piece

/-- How a sequence of pieces is written. -/
def textOf (pieces : List Piece) : List Char := pieces.flatMap Piece.text

/-- Every piece of a sequence fits in front of the others. -/
def AllFit : List Piece → Prop
  | [] => True
  | piece :: rest => piece.Fits (textOf rest) ∧ AllFit rest

/-- The characters that are looked at are those of the list: the instance for them is named, since a
search may find that all characters there are can be tried instead. -/
instance : DecidablePred IsName
  | [] => inferInstanceAs (Decidable False)
  | _ :: rest =>
      have := List.decidableBAll (isNameChar · = true) rest
      inferInstanceAs (Decidable (_ ∧ _))

instance : DecidablePred EndsName := fun after => Option.decidableForallMem after.head?

instance (after : List Char) : DecidablePred (Piece.Fits after)
  | .plain _ => inferInstanceAs (Decidable (¬_))
  | .escape => inferInstanceAs (Decidable True)
  | .braced blanks .. =>
      have := List.decidableBAll (Text.isBlank · = true) blanks
      inferInstanceAs (Decidable (_ ∧ _))
  | .bare _ => inferInstanceAs (Decidable (_ ∧ _))
  | .stray => Option.decidableForallMem after.head?

instance : DecidablePred AllFit := fun pieces => go pieces
where
  go : (pieces : List Piece) → Decidable (AllFit pieces)
    | [] => inferInstanceAs (Decidable True)
    | _ :: rest => have := go rest; inferInstanceAs (Decidable (_ ∧ _))

/-- The names that some pieces refer to, from left to right. -/
def namesOf (pieces : List Piece) : List String := pieces.filterMap Piece.name?

/-! ## Names -/

/-- A name begins neither with white space nor with what has a meaning after a dollar sign. -/
theorem not_special_of_isNameStart (hstart : isNameStart c = true) :
    Text.isBlank c = false ∧ c ≠ '$' ∧ c ≠ '\x7b' := by
  delta isNameStart Char.isAlpha Char.isUpper Char.isLower at hstart
  simp only [Bool.or_eq_true, Bool.and_eq_true, decide_eq_true_eq, beq_iff_eq, ge_iff_le,
    UInt32.le_iff_toNat_le] at hstart
  change ((65 ≤ c.toNat ∧ c.toNat ≤ 90) ∨ (97 ≤ c.toNat ∧ c.toNat ≤ 122)) ∨ c = '_' at hstart
  rcases hstart with hletter | rfl
  · refine ⟨?_, ?_, ?_⟩
    · simp only [Text.isBlank, Bool.or_eq_false_iff, Bool.and_eq_false_iff, decide_eq_false_iff_not,
        beq_eq_false_iff_ne]
      omega
    · rintro rfl
      revert hletter
      decide
    · rintro rfl
      revert hletter
      decide
  · decide

/-- A name is not empty. -/
theorem IsName.ne_nil (hname : IsName name) : name ≠ [] := by
  rintro rfl
  exact hname

/-- A name is read as far as it goes. -/
theorem leadingName_append (hname : IsName name) (hends : EndsName after) :
    leadingName (name ++ after) = name := by
  obtain ⟨first, rest, rfl⟩ := List.exists_cons_of_ne_nil hname.ne_nil
  obtain ⟨hfirst, hrest⟩ := hname
  have hstop : after.takeWhile isNameChar = [] := by
    cases after with
    | nil => rfl
    | cons c after => exact List.takeWhile_cons_of_neg (by rw [hends c rfl]; decide)
  rw [List.cons_append, leadingName, if_pos hfirst, List.takeWhile_append_of_pos hrest, hstop,
    List.append_nil]

/-! ## What begins at a dollar sign -/

/-- Behind a dollar sign a bare name refers to itself, up to where it ends. -/
theorem referenceAfterDollar_bare (hname : IsName name) (hends : EndsName after) :
    referenceAfterDollar (name ++ after) = some (name, name.length) := by
  have hread := leadingName_append hname hends
  obtain ⟨first, rest, rfl⟩ := List.exists_cons_of_ne_nil hname.ne_nil
  obtain ⟨-, hdollar, hbrace⟩ := not_special_of_isNameStart hname.1
  rw [List.cons_append] at hread ⊢
  rw [referenceAfterDollar, if_neg hdollar, if_neg hbrace, hread]
  exact if_neg (List.cons_ne_nil first rest)

/-- Behind a dollar sign and a brace a name refers to itself, whatever blanks come before it. -/
theorem referenceAfterDollar_braced (hblanks : ∀ c ∈ blanks, Text.isBlank c = true)
    (hname : IsName name) (hends : EndsName after) :
    referenceAfterDollar ('\x7b' :: (blanks ++ (name ++ after))) =
      some (name, 1 + blanks.length + name.length) := by
  have hread := leadingName_append hname hends
  have hbare : Text.StartsBare (name ++ after) := by
    obtain ⟨first, rest, rfl⟩ := List.exists_cons_of_ne_nil hname.ne_nil
    rintro _ ⟨⟩
    exact (not_special_of_isNameStart hname.1).1
  have hdrop : Text.dropLeading (blanks ++ (name ++ after)) = name ++ after := by
    rw [Text.dropLeading, List.dropWhile_append_of_pos hblanks]
    exact Text.dropLeading_eq_self_iff.mpr hbare
  have htake : (blanks ++ (name ++ after)).takeWhile Text.isBlank = blanks := by
    refine List.append_cancel_right (?_ : _ ++ (name ++ after) = _)
    conv_rhs => rw [← List.takeWhile_append_dropWhile (p := Text.isBlank)
      (l := blanks ++ (name ++ after))]
    rw [← Text.dropLeading, hdrop]
  rw [referenceAfterDollar, if_neg (by decide), if_pos rfl, hdrop, htake, hread]
  exact if_neg hname.ne_nil

/-- Behind a dollar sign nothing refers to anything unless it is a name, a brace or another dollar
sign. -/
theorem referenceAfterDollar_stray
    (hafter : ∀ c ∈ after.head?, c ≠ '$' ∧ c ≠ '\x7b' ∧ isNameStart c = false) :
    referenceAfterDollar after = none := by
  cases after with
  | nil => rfl
  | cons c after =>
    obtain ⟨hdollar, hbrace, hstart⟩ := hafter c rfl
    rw [referenceAfterDollar, if_neg hdollar, if_neg hbrace, leadingName, hstart]
    rfl

/-! ## The scanner -/

/-- A text without dollar signs is passed over. -/
theorem scan_of_not_mem (hfront : '$' ∉ front) (after : List Char) :
    scan 0 (front ++ after) = scan 0 after := by
  induction front with
  | nil => rfl
  | cons c front ih =>
    rw [List.mem_cons, not_or] at hfront
    rw [List.cons_append, scan, if_neg (Ne.symm hfront.1), ih hfront.2]

/-- As many characters are skipped as are told to be. -/
theorem scan_length (front after : List Char) :
    scan front.length (front ++ after) = scan 0 after := by
  induction front with
  | nil => rfl
  | cons c front ih => exact ih

/-- A reference is found and passed. -/
theorem scan_reference (hreference : referenceAfterDollar (front ++ after) =
    some (name, front.length)) (hname : IsName name) :
    scan 0 ('$' :: (front ++ after)) = name :: scan 0 after := by
  rw [scan, if_pos rfl, hreference]
  dsimp only
  rw [scan_length]
  exact if_neg hname.ne_nil

/-- A piece yields its name, if it has one, and the scanner goes on behind the piece. -/
theorem scan_piece {piece : Piece} (hfits : piece.Fits after) :
    (scan 0 (piece.text ++ after)).map String.ofList =
      piece.name?.toList ++ (scan 0 after).map String.ofList := by
  cases piece with
  | plain text => rw [Piece.text, scan_of_not_mem hfits]; rfl
  | escape => rfl
  | braced blanks name tail =>
    obtain ⟨hblanks, hname, htail, hends⟩ := hfits
    have hclose : '$' ∉ tail ++ ['\x7d'] := by
      rw [List.mem_append, not_or]
      exact ⟨htail, by decide⟩
    have hbehind : EndsName (tail ++ ['\x7d'] ++ after) := by
      cases tail with
      | nil => rintro _ ⟨⟩; decide
      | cons c tail => exact hends
    have hfront : ('\x7b' :: (blanks ++ name)).length = 1 + blanks.length + name.length := by
      rw [List.length_cons, List.length_append]
      omega
    have hread := referenceAfterDollar_braced hblanks hname hbehind
    rw [← List.append_assoc, ← List.cons_append, ← hfront] at hread
    have htext : (Piece.braced blanks name tail).text ++ after =
        '$' :: ('\x7b' :: (blanks ++ name) ++ (tail ++ ['\x7d'] ++ after)) := by
      simp [Piece.text]
    rw [htext, scan_reference hread hname, scan_of_not_mem hclose]
    rfl
  | bare name =>
    obtain ⟨hname, hends⟩ := hfits
    rw [Piece.text, List.cons_append,
      scan_reference (referenceAfterDollar_bare hname hends) hname]
    rfl
  | stray =>
    rw [Piece.text, List.singleton_append, scan, if_pos rfl, referenceAfterDollar_stray hfits]
    rfl

/-- The names that are found in fitting pieces are those that the pieces refer to. -/
theorem scan_textOf {pieces : List Piece} (hfit : AllFit pieces) :
    (scan 0 (textOf pieces)).map String.ofList = namesOf pieces := by
  induction pieces with
  | nil => rfl
  | cons piece rest ih =>
    obtain ⟨hpiece, hrest⟩ := hfit
    have htext : textOf (piece :: rest) = piece.text ++ textOf rest := List.flatMap_cons
    rw [htext, scan_piece hpiece, ih hrest, namesOf, namesOf, List.filterMap_cons]
    cases piece.name? <;> rfl

/-- Nothing comes twice once what comes twice was erased. -/
theorem nodup_eraseDups {α : Type} [DecidableEq α] (items : List α) : items.eraseDups.Nodup := by
  induction hlength : items.length using Nat.strong_induction_on generalizing items with
  | _ length ih =>
    cases items with
    | nil => exact List.nodup_nil
    | cons item rest =>
      rw [List.eraseDups_cons, List.nodup_cons]
      constructor
      · simp [List.mem_eraseDups]
      · refine ih _ ?_ _ rfl
        rw [← hlength]
        exact Nat.lt_succ_of_le (List.length_filter_le _ _)

/-- A layout refers to the names of its references, whatever stands between them, and it counts each
name once. -/
theorem mentions_parse_iff (pieces : List Piece) (hfit : AllFit pieces) :
    (∀ name : String, (Layout.parse (String.ofList (textOf pieces))).mentions name = true ↔
      ∃ piece ∈ pieces, piece.name? = some name) ∧
    (Layout.parse (String.ofList (textOf pieces))).mentionCount =
      (namesOf pieces).toFinset.card := by
  have hreferences : references (String.ofList (textOf pieces)) = (namesOf pieces).eraseDups := by
    rw [references, String.toList_ofList, scan_textOf hfit]
  constructor
  · intro name
    rw [Layout.parse, mentions, List.contains_iff_mem, hreferences, List.mem_eraseDups, namesOf,
      List.mem_filterMap]
  · rw [Layout.parse, mentionCount, hreferences, ← List.toFinset_card_of_nodup (nodup_eraseDups _)]
    congr 1
    ext name
    rw [List.mem_toFinset, List.mem_toFinset, List.mem_eraseDups]

end Layout

namespace Sample

/-- The pieces of a layout in which escapes and references touch each other. -/
def tangled : List Layout.Piece :=
  [.plain "CPU ".toList, .braced [' '] "cpucore".toList " 1 ".toList, .escape,
    .plain "name".toList, .escape, .bare "mem".toList, .bare "cpucore".toList, .plain ['-'],
    .stray, .plain ['5'], .stray]

end Sample

open Layout in
/-- An escape in front of a word hides it, and an escape in front of a reference does not. -/
theorem mentions_parse_iff_tangled :
    textOf Sample.tangled = "CPU $\x7b cpucore 1 \x7d$$name$$$mem$cpucore-$5$".toList ∧
    AllFit Sample.tangled ∧
    (Layout.parse (String.ofList (textOf Sample.tangled))).mentions "cpucore" = true ∧
    (Layout.parse (String.ofList (textOf Sample.tangled))).mentions "mem" = true ∧
    ¬(Layout.parse (String.ofList (textOf Sample.tangled))).mentions "name" = true ∧
    (Layout.parse (String.ofList (textOf Sample.tangled))).mentionCount = 2 := by
  have hfit : AllFit Sample.tangled := by decide
  obtain ⟨hnames, hcount⟩ := mentions_parse_iff Sample.tangled hfit
  refine ⟨by decide, hfit, (hnames _).mpr ?_, (hnames _).mpr ?_, fun hname => ?_, hcount⟩
  · exact ⟨_, List.mem_cons_of_mem _ List.mem_cons_self, by decide⟩
  · exact ⟨.bare "mem".toList, by simp [Sample.tangled], by decide⟩
  · obtain ⟨piece, hmem, hpiece⟩ := (hnames _).mp hname
    simp only [Sample.tangled, List.mem_cons, List.not_mem_nil, or_false] at hmem
    rcases hmem with rfl | rfl | rfl | rfl | rfl | rfl | rfl | rfl | rfl | rfl | rfl <;>
      revert hpiece <;> decide

end MetricsDaemon
