import Mathlib.Data.List.Basic
import Mathlib.Tactic.IntervalCases
import MetricsDaemon.Text.Utf8

/-!
# There and back through UTF-8

The byte machine reads every character back from the bytes that spell it. Bytes that break
off inside a character lose that character and nothing else, and one replacement stands in
its place. Whatever the bytes are, the machine never makes a character up: the numbers that a
begun character can still have all belong to characters, and a NUL comes from a NUL alone.
-/

namespace MetricsDaemon.Text

variable {inside : Option Partial} {state next : Partial} {byte : UInt8}
  {bytes front rest : List UInt8} {c : Char} {text : List Char} {room : Nat}

/-! ## The machine -/

/-- What a byte leads to, inside or between characters. -/
def decodeByte (inside : Option Partial) (byte : UInt8) : Decoded :=
  inside.elim (firstByte byte) fun state => state.nextByte byte

/-- A byte that ends a character is read as that character. -/
theorem lossyFrom_of_char (hbyte : decodeByte inside byte = .char c) :
    lossyFrom inside (byte :: rest) = c :: lossyFrom none rest := by
  cases inside with
  | none =>
    have hfirst : firstByte byte = .char c := hbyte
    rw [lossyFrom, hfirst]
  | some state =>
    have hnext : state.nextByte byte = .char c := hbyte
    rw [lossyFrom, hnext]

/-- A byte that goes on with a character is read with the bytes behind it. -/
theorem lossyFrom_of_more (hbyte : decodeByte inside byte = .more next) :
    lossyFrom inside (byte :: rest) = lossyFrom (some next) rest := by
  cases inside with
  | none =>
    have hfirst : firstByte byte = .more next := hbyte
    rw [lossyFrom, hfirst]
  | some state =>
    have hnext : state.nextByte byte = .more next := hbyte
    rw [lossyFrom, hnext]

/-- A byte that does not go on is read again as a first one. -/
theorem lossyFrom_of_bad (hbyte : state.nextByte byte = .bad) :
    lossyFrom (some state) (byte :: rest) = replacement :: lossyFrom none (byte :: rest) := by
  rw [lossyFrom, lossyFrom, hbyte]
  cases firstByte byte <;> rfl

/-- A byte that begins no character is replaced. -/
theorem lossyFrom_of_firstByte_bad (hbyte : firstByte byte = .bad) :
    lossyFrom none (byte :: rest) = replacement :: lossyFrom none rest := by
  rw [lossyFrom, hbyte]

/-! ## What every decoded character has -/

/-- What a byte leads to is fine: a character with a property, or a state with another one. -/
def Decoded.Meets (Good : Char → Prop) (Sound : Partial → Prop) : Decoded → Prop
  | .char c => Good c
  | .more state => Sound state
  | .bad => True

/-- A property of every character that is decoded, from one that the states keep. -/
theorem forall_mem_lossyFrom {Good : Char → Prop} {Sound : Partial → Prop}
    (hreplacement : Good replacement)
    (hfirst : ∀ byte ∈ bytes, (firstByte byte).Meets Good Sound)
    (hnext : ∀ state, Sound state → ∀ byte ∈ bytes, (state.nextByte byte).Meets Good Sound)
    (hinside : ∀ state ∈ inside, Sound state) : ∀ c ∈ lossyFrom inside bytes, Good c := by
  induction bytes generalizing inside with
  | nil =>
    cases inside with
    | none => exact fun c hmem => (List.not_mem_nil hmem).elim
    | some state => exact List.forall_mem_singleton.mpr hreplacement
  | cons byte rest ih =>
    have hrest {inside : Option Partial} (hinside : ∀ state ∈ inside, Sound state) :
        ∀ c ∈ lossyFrom inside rest, Good c :=
      ih (fun other hmem => hfirst other (List.mem_cons_of_mem byte hmem))
        (fun state hstate other hmem => hnext state hstate other (List.mem_cons_of_mem byte hmem))
        hinside
    have hmeets (inside : Option Partial) {decoded : Decoded}
        (hdecoded : decodeByte inside byte = decoded) (hgood : decoded.Meets Good Sound)
        (hbad : decoded ≠ .bad) : ∀ c ∈ lossyFrom inside (byte :: rest), Good c := by
      cases decoded with
      | char c =>
        rw [lossyFrom_of_char hdecoded]
        exact List.forall_mem_cons.mpr ⟨hgood, hrest nofun⟩
      | more next =>
        rw [lossyFrom_of_more hdecoded]
        exact hrest fun state hstate => by cases hstate; exact hgood
      | bad => exact (hbad rfl).elim
    have hstart : ∀ c ∈ lossyFrom none (byte :: rest), Good c := by
      by_cases hbad : firstByte byte = .bad
      · rw [lossyFrom_of_firstByte_bad hbad]
        exact List.forall_mem_cons.mpr ⟨hreplacement, hrest nofun⟩
      · exact hmeets none rfl (hfirst byte List.mem_cons_self) hbad
    cases inside with
    | none => exact hstart
    | some state =>
      by_cases hbad : state.nextByte byte = .bad
      · rw [lossyFrom_of_bad hbad]
        exact List.forall_mem_cons.mpr ⟨hreplacement, hstart⟩
      · exact hmeets (some state) rfl
          (hnext state (hinside state rfl) byte List.mem_cons_self) hbad

/-- There are no more characters than bytes, but for one that was begun before. -/
theorem length_lossyFrom_le (inside : Option Partial) (bytes : List UInt8) :
    (lossyFrom inside bytes).length ≤ bytes.length + inside.isSome.toNat := by
  induction bytes generalizing inside with
  | nil => cases inside <;> simp [lossyFrom]
  | cons byte rest ih =>
    have hnone := ih none
    have hsome (next : Partial) := ih (some next)
    simp only [Option.isSome_none, Option.isSome_some, Bool.toNat_false, Bool.toNat_true]
      at hnone hsome
    have hstart : (lossyFrom none (byte :: rest)).length ≤ rest.length + 1 := by
      cases hdecoded : decodeByte none byte with
      | char c =>
        rw [lossyFrom_of_char hdecoded, List.length_cons]
        omega
      | more next =>
        rw [lossyFrom_of_more hdecoded]
        exact hsome next
      | bad =>
        rw [lossyFrom_of_firstByte_bad hdecoded, List.length_cons]
        omega
    cases inside with
    | none => exact hstart
    | some state =>
      simp only [List.length_cons, Option.isSome_some, Bool.toNat_true]
      cases hdecoded : decodeByte (some state) byte with
      | char c =>
        rw [lossyFrom_of_char hdecoded, List.length_cons]
        omega
      | more next =>
        rw [lossyFrom_of_more hdecoded]
        exact (hsome next).trans (Nat.le_succ _)
      | bad =>
        rw [lossyFrom_of_bad hdecoded, List.length_cons]
        omega

/-! ## NUL -/

/-- Every number that the missing bytes can lead to is that of a character, and not zero. -/
def Partial.IsProper (state : Partial) : Prop :=
  0x80 ≤ state.low ∧ ∃ later, state.missing = later + 1 ∧
    ∀ n, (state.bits * 64 + (state.low - 0x80)) * 64 ^ later ≤ n →
      n < (state.bits * 64 + (state.high - 0x80) + 1) * 64 ^ later → n ≠ 0 ∧ n.isValidChar

/-- Only the number zero is that of the NUL. -/
theorem ofNat_ne_nul {n : Nat} (hzero : n ≠ 0) (hvalid : n.isValidChar) :
    Char.ofNat n ≠ '\x00' := by
  intro hnul
  rw [Char.ofNat, dif_pos hvalid] at hnul
  exact hzero (congrArg Char.toNat hnul)

/-- A byte other than zero does not make a NUL, alone or as the first of several. -/
theorem meets_firstByte (hbyte : byte ≠ 0) :
    (firstByte byte).Meets (· ≠ '\x00') Partial.IsProper := by
  have hzero : byte.toNat ≠ 0 := fun hnumber => hbyte (UInt8.toNat_inj.mp hnumber)
  simp only [firstByte]
  split
  · exact ofNat_ne_nul hzero (Or.inl (by omega))
  · repeat' split
    all_goals
      first
      | trivial
      | (refine ⟨by simp, _, rfl, fun n hlow hhigh => ?_⟩
         simp only [Nat.isValidChar] at hlow hhigh ⊢
         omega)

/-- What goes on properly does not end in a NUL, whatever the next byte. -/
theorem Partial.IsProper.meets_nextByte (hproper : state.IsProper) (byte : UInt8) :
    (state.nextByte byte).Meets (· ≠ '\x00') Partial.IsProper := by
  obtain ⟨hlow, later, hmissing, hnumbers⟩ := hproper
  simp only [Partial.nextByte, hmissing]
  split
  · next hrange =>
    have hleast : state.bits * 64 + (state.low - 0x80) ≤
        state.bits * 64 + (byte.toNat - 0x80) := by omega
    have hgreatest : state.bits * 64 + (byte.toNat - 0x80) + 1 ≤
        state.bits * 64 + (state.high - 0x80) + 1 := by omega
    split
    · next hlast =>
      obtain rfl : later = 0 := by omega
      obtain ⟨hzero, hvalid⟩ := hnumbers (state.bits * 64 + (byte.toNat - 0x80))
        (by simpa using hleast) (by simpa using Nat.lt_of_succ_le hgreatest)
      exact ofNat_ne_nul hzero hvalid
    · next hmore =>
      obtain ⟨later, rfl⟩ : ∃ fewer, later = fewer + 1 := ⟨later - 1, by omega⟩
      refine ⟨Nat.le_refl _, later, rfl, fun n hfrom hto => ?_⟩
      simp only [Nat.reduceSub, Nat.add_zero] at hfrom hto
      refine hnumbers n ?_ ?_
      · calc (state.bits * 64 + (state.low - 0x80)) * 64 ^ (later + 1)
            ≤ (state.bits * 64 + (byte.toNat - 0x80)) * 64 ^ (later + 1) :=
              Nat.mul_le_mul_right _ hleast
          _ = (state.bits * 64 + (byte.toNat - 0x80)) * 64 * 64 ^ later := by
              rw [pow_succ', Nat.mul_assoc]
          _ ≤ n := hfrom
      · calc n
            < ((state.bits * 64 + (byte.toNat - 0x80)) * 64 + 63 + 1) * 64 ^ later := hto
          _ = (state.bits * 64 + (byte.toNat - 0x80) + 1) * 64 ^ (later + 1) := by
              rw [pow_succ', ← Nat.mul_assoc, Nat.add_mul _ 1 64, Nat.add_assoc]
          _ ≤ (state.bits * 64 + (state.high - 0x80) + 1) * 64 ^ (later + 1) :=
              Nat.mul_le_mul_right _ hgreatest
  · trivial

/-- Bytes without a zero decode to a text without a NUL. -/
theorem nul_not_mem_lossyFrom (hbytes : 0 ∉ bytes) : '\x00' ∉ lossyFrom none bytes := by
  have hall : ∀ c ∈ lossyFrom none bytes, c ≠ '\x00' :=
    forall_mem_lossyFrom (by decide)
      (fun byte hmem => meets_firstByte fun hzero => hbytes (hzero ▸ hmem))
      (fun state hproper byte _ => hproper.meets_nextByte byte) nofun
  exact fun hmem => hall _ hmem rfl

/-! ## Reading a character back -/

/-- The bytes make up one character, and no more. -/
inductive Spells : Option Partial → List UInt8 → Char → Prop where
  | last {inside : Option Partial} {byte : UInt8} {c : Char} :
      decodeByte inside byte = .char c → Spells inside [byte] c
  | more {inside : Option Partial} {byte : UInt8} {next : Partial} {rest : List UInt8} {c : Char} :
      decodeByte inside byte = .more next → Spells (some next) rest c →
        Spells inside (byte :: rest) c

/-- Bytes that spell a character are read as it, and the others from there. -/
theorem Spells.lossyFrom_append (hspells : Spells inside bytes c) (rest : List UInt8) :
    lossyFrom inside (bytes ++ rest) = c :: lossyFrom none rest := by
  induction hspells with
  | last hbyte => exact lossyFrom_of_char hbyte
  | more hbyte _ ih => exact (lossyFrom_of_more hbyte).trans ih

/-- Bytes that break off inside a character are replaced together. -/
theorem Spells.lossyFrom_of_prefix (hspells : Spells inside bytes c) (hfront : front <+: bytes)
    (hshort : front.length < bytes.length) (hbegun : inside.isSome ∨ front ≠ []) :
    lossyFrom inside front = [replacement] := by
  induction hspells generalizing front with
  | @last inside byte c hbyte =>
    obtain rfl : front = [] := List.length_eq_zero_iff.mp (by simpa using hshort)
    obtain ⟨state, rfl⟩ := Option.isSome_iff_exists.mp (hbegun.resolve_right fun h => h rfl)
    rfl
  | @more inside byte next rest c hbyte _ ih =>
    cases front with
    | nil =>
      obtain ⟨state, rfl⟩ := Option.isSome_iff_exists.mp (hbegun.resolve_right fun h => h rfl)
      rfl
    | cons head front =>
      obtain ⟨rfl, hrest⟩ := List.cons_prefix_cons.mp hfront
      rw [lossyFrom_of_more hbyte]
      exact ih hrest (by simpa using hshort) (Or.inl rfl)

/-- The first byte of two, by the upper bits of the character. -/
theorem firstByte_two {n : Nat} (hleast : 2 ≤ n) (hgreatest : n < 32) :
    firstByte (UInt8.ofNat (n % 32 + 192)) = .more ⟨n, 1, 0x80, 0xBF⟩ := by
  interval_cases n <;> rfl

/-- The first byte of three, by the upper bits of the character. -/
theorem firstByte_three {n : Nat} (hgreatest : n < 16) :
    firstByte (UInt8.ofNat (n % 16 + 224)) =
      .more ⟨n, 2, if n = 0 then 0xA0 else 0x80, if n = 0xD then 0x9F else 0xBF⟩ := by
  interval_cases n <;> rfl

/-- The first byte of four, by the upper bits of the character. -/
theorem firstByte_four {n : Nat} (hgreatest : n < 5) :
    firstByte (UInt8.ofNat (n % 8 + 240)) =
      .more ⟨n, 3, if n = 0 then 0x90 else 0x80, if n = 4 then 0x8F else 0xBF⟩ := by
  interval_cases n <;> rfl

/-- A later byte carries six bits. -/
theorem nextByte_tail {bits missing low high n : Nat} (hsix : n < 64) (hlow : low ≤ n + 128)
    (hhigh : n + 128 ≤ high) :
    (Partial.mk bits missing low high).nextByte (UInt8.ofNat (n + 128)) =
      if missing ≤ 1 then .char (Char.ofNat (bits * 64 + n))
      else .more ⟨bits * 64 + n, missing - 1, 0x80, 0xBF⟩ := by
  have hnumber : (UInt8.ofNat (n + 128)).toNat = n + 128 :=
    UInt8.toNat_ofNat_of_lt' (by simp only [UInt8.size]; omega)
  simp only [Partial.nextByte, hnumber, Nat.add_sub_cancel, if_pos (And.intro hlow hhigh)]

/-- A character is read back from the bytes that spell it. -/
theorem spells_utf8EncodeChar (c : Char) : Spells none (String.utf8EncodeChar c) c := by
  have hvalid : c.toNat.isValidChar := c.valid
  have hc : Char.ofNat c.toNat = c := Char.ofNat_toNat c
  have hval : c.val.toNat = c.toNat := rfl
  simp only [String.utf8EncodeChar, hval]
  simp only [Nat.isValidChar] at hvalid
  generalize c.toNat = v at hvalid hc
  split
  · next hone =>
    refine .last ?_
    have hnumber : (UInt8.ofNat v).toNat = v :=
      UInt8.toNat_ofNat_of_lt' (by simp only [UInt8.size]; omega)
    simp only [decodeByte, Option.elim_none, firstByte, hnumber]
    rw [if_pos (by omega), hc]
  · split
    · next hone htwo =>
      refine .more (firstByte_two (n := v / 64) (by omega) (by omega)) (.last ?_)
      refine (nextByte_tail (n := v % 64) (by omega) (by omega) (by omega)).trans ?_
      rw [if_pos (by omega), Nat.div_add_mod', hc]
    · split
      · next hone htwo hthree =>
        refine .more (firstByte_three (n := v / 4096) (by omega))
          (.more (?_ : decodeByte _ _ = .more ⟨v / 64, 1, 0x80, 0xBF⟩) (.last ?_))
        · refine (nextByte_tail (n := v / 64 % 64) (by omega) ?_ ?_).trans ?_
          · split <;> omega
          · split <;> omega
          · rw [if_neg (by omega), show v / 4096 * 64 + v / 64 % 64 = v / 64 by omega]
        · refine (nextByte_tail (n := v % 64) (by omega) (by omega) (by omega)).trans ?_
          rw [if_pos (by omega), Nat.div_add_mod', hc]
      · next hone htwo hthree =>
        refine .more (firstByte_four (n := v / 262144) (by omega))
          (.more (?_ : decodeByte _ _ = .more ⟨v / 4096, 2, 0x80, 0xBF⟩)
            (.more (?_ : decodeByte _ _ = .more ⟨v / 64, 1, 0x80, 0xBF⟩) (.last ?_)))
        · refine (nextByte_tail (n := v / 4096 % 64) (by omega) ?_ ?_).trans ?_
          · split <;> omega
          · split <;> omega
          · rw [if_neg (by omega), show v / 262144 * 64 + v / 4096 % 64 = v / 4096 by omega]
        · refine (nextByte_tail (n := v / 64 % 64) (by omega) (by omega) (by omega)).trans ?_
          rw [if_neg (by omega), show v / 4096 * 64 + v / 64 % 64 = v / 64 by omega]
        · refine (nextByte_tail (n := v % 64) (by omega) (by omega) (by omega)).trans ?_
          rw [if_pos (by omega), Nat.div_add_mod', hc]

/-! ## Bytes that break off -/

/-- The bytes that spell some characters. -/
def spelling (text : List Char) : List UInt8 := text.flatMap String.utf8EncodeChar

/-- As many characters from the front of a text as fit a number of bytes. -/
def fittingFront : Nat → List Char → List Char
  | _, [] => []
  | room, c :: rest =>
      if (String.utf8EncodeChar c).length ≤ room then
        c :: fittingFront (room - (String.utf8EncodeChar c).length) rest
      else []

/-- A text is spelled character by character. -/
theorem spelling_cons (c : Char) (text : List Char) :
    spelling (c :: text) = String.utf8EncodeChar c ++ spelling text := rfl

/-- Every character has a byte. -/
theorem length_utf8EncodeChar_pos (c : Char) : 0 < (String.utf8EncodeChar c).length := by
  rw [String.length_utf8EncodeChar]
  exact c.utf8Size_pos

/-- What fits is a front of the text. -/
theorem fittingFront_isPrefix (room : Nat) (text : List Char) :
    fittingFront room text <+: text := by
  induction text generalizing room with
  | nil => exact List.nil_prefix
  | cons c rest ih =>
    rw [fittingFront]
    split
    · exact (List.prefix_cons_inj c).mpr (ih _)
    · exact List.nil_prefix

/-- The front that fits takes no more room than there is. -/
theorem length_spelling_fittingFront_le (room : Nat) (text : List Char) :
    (spelling (fittingFront room text)).length ≤ room := by
  induction text generalizing room with
  | nil => exact Nat.zero_le room
  | cons c rest ih =>
    rw [fittingFront]
    split
    · next hfits =>
      rw [spelling_cons, List.length_append]
      have hrest := ih (room - (String.utf8EncodeChar c).length)
      omega
    · exact Nat.zero_le room

/-- No front of the text that fits has a character more. -/
theorem isPrefix_fittingFront {other : List Char} (hfront : other <+: text)
    (hfits : (spelling other).length ≤ room) : other <+: fittingFront room text := by
  induction text generalizing room other with
  | nil => exact hfront
  | cons c rest ih =>
    cases other with
    | nil => exact List.nil_prefix
    | cons head tail =>
      obtain ⟨rfl, htail⟩ := List.cons_prefix_cons.mp hfront
      rw [spelling_cons, List.length_append] at hfits
      rw [fittingFront, if_pos (by omega)]
      exact (List.prefix_cons_inj head).mpr (ih htail (by omega))

/-- A text that fits is its own front. -/
theorem fittingFront_eq_self (hfits : (spelling text).length ≤ room) :
    fittingFront room text = text :=
  (fittingFront_isPrefix room text).eq_of_length_le
    (isPrefix_fittingFront (List.prefix_refl text) hfits).length_le

/-- Of a text that breaks off after some bytes the characters before that place are read back, and
one replacement for the character that is broken, if there is one. -/
theorem lossyFrom_take_spelling (room : Nat) (text : List Char) :
    lossyFrom none ((spelling text).take room) = fittingFront room text ++
      if (spelling (fittingFront room text)).length = min room (spelling text).length then []
      else [replacement] := by
  induction text generalizing room with
  | nil => simp [spelling, fittingFront, lossyFrom]
  | cons c rest ih =>
    have hspells := spells_utf8EncodeChar c
    have hpositive := length_utf8EncodeChar_pos c
    rw [spelling_cons, fittingFront]
    by_cases hfits : (String.utf8EncodeChar c).length ≤ room
    · rw [if_pos hfits, List.take_append, List.take_of_length_le hfits, hspells.lossyFrom_append,
        ih, spelling_cons, List.length_append, List.length_append, List.cons_append]
      congr 2
      refine if_congr ?_ rfl rfl
      omega
    · rw [if_neg hfits, List.take_append_of_le_length (by omega), List.nil_append,
        List.length_append]
      cases room with
      | zero => simp [spelling, lossyFrom]
      | succ room =>
        have hempty : (spelling []).length = 0 := rfl
        rw [if_neg (by omega)]
        refine hspells.lossyFrom_of_prefix (List.take_prefix _ _) ?_ (Or.inr ?_)
        · rw [List.length_take]
          omega
        · rw [← List.length_pos_iff, List.length_take]
          omega

/-- A text is read back from its bytes. -/
theorem lossyFrom_spelling (text : List Char) : lossyFrom none (spelling text) = text := by
  have htake := lossyFrom_take_spelling (spelling text).length text
  rwa [List.take_length, fittingFront_eq_self (Nat.le_refl _), if_pos (Nat.min_self _).symm,
    List.append_nil] at htake

/-- The bytes of a character that takes more than one are no characters by themselves. -/
theorem le_of_mem_utf8EncodeChar (hlong : 128 ≤ c.toNat) :
    ∀ byte ∈ String.utf8EncodeChar c, 128 ≤ byte.toNat := by
  have hvalue : 128 ≤ c.val.toNat := hlong
  have hbyte {n : Nat} (hlead : 128 ≤ n) (hsmall : n < 256) : 128 ≤ (UInt8.ofNat n).toNat := by
    rwa [UInt8.toNat_ofNat_of_lt' hsmall]
  simp only [String.utf8EncodeChar]
  repeat' split
  · omega
  all_goals
    simp only [List.mem_cons, List.not_mem_nil, or_false, forall_eq_or_imp, forall_eq]
    repeat' apply And.intro
    all_goals exact hbyte (by omega) (by omega)

/-- A character with a number below 128 is one byte, which is its number. -/
theorem utf8EncodeChar_of_lt (hshort : c.toNat < 128) :
    String.utf8EncodeChar c = [UInt8.ofNat c.toNat] := by
  have hvalue : c.val.toNat ≤ 127 := Nat.le_of_lt_succ hshort
  simp only [String.utf8EncodeChar, if_pos hvalue]
  rfl

/-- A small byte is the whole spelling of its character. -/
theorem toNat_eq_of_mem_utf8EncodeChar (hmem : byte ∈ String.utf8EncodeChar c)
    (hsmall : byte.toNat < 128) : c.toNat = byte.toNat := by
  rcases Nat.lt_or_ge c.toNat 128 with hshort | hlong
  · rw [utf8EncodeChar_of_lt hshort, List.mem_singleton] at hmem
    have hfits : c.toNat < 256 := by omega
    rw [hmem, UInt8.toNat_ofNat_of_lt' hfits]
  · exact absurd (le_of_mem_utf8EncodeChar hlong byte hmem) (Nat.not_le.mpr hsmall)

/-- Only the NUL has a byte that is zero. -/
theorem zero_not_mem_utf8EncodeChar (hc : c ≠ '\x00') : 0 ∉ String.utf8EncodeChar c :=
  fun hmem => hc (Char.toNat_inj.mp (toNat_eq_of_mem_utf8EncodeChar hmem (by decide)))

/-- The bytes before the first zero spell the characters before the first NUL. -/
theorem takeWhile_spelling (text : List Char) :
    (spelling text).takeWhile (fun byte => byte != 0) =
      spelling (text.takeWhile fun c => c != '\x00') := by
  induction text with
  | nil => rfl
  | cons c rest ih =>
    rw [spelling_cons]
    by_cases hc : c = '\x00'
    · subst hc
      rfl
    · have hbytes : ∀ byte ∈ String.utf8EncodeChar c, (byte != 0) = true := by
        intro byte hmem
        simpa using fun hzero : byte = 0 => zero_not_mem_utf8EncodeChar hc (hzero ▸ hmem)
      rw [List.takeWhile_append_of_pos hbytes, ih, List.takeWhile_cons_of_pos (by simpa using hc),
        spelling_cons]

end MetricsDaemon.Text
