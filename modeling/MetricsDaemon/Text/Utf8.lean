/-!
# UTF-8

Bytes of a text, and two ways back: strict decoding, which refuses ill-formed bytes,
and lossy decoding, which puts U+FFFD in the place of every maximal ill-formed part.
Both run the same byte machine.
-/

namespace MetricsDaemon.Text

/-- The bytes of a text. -/
def utf8 (s : String) : List UInt8 := s.toList.flatMap String.utf8EncodeChar

/-- The character that stands for ill-formed bytes. -/
def replacement : Char := Char.ofNat 0xFFFD

/-- The inside of a multi-byte character: the bits read so far, the number of bytes still
missing, and the range allowed for the next one. -/
structure Partial where
  bits : Nat
  missing : Nat
  low : Nat
  high : Nat

/-- What one more byte leads to. -/
inductive Decoded where
  | char (c : Char)
  | more (state : Partial)
  | bad

/-- Read the first byte of a character. -/
def firstByte (byte : UInt8) : Decoded :=
  let b := byte.toNat
  if b < 0x80 then .char (Char.ofNat b)
  else if b < 0xC2 then .bad
  else if b < 0xE0 then .more ⟨b - 0xC0, 1, 0x80, 0xBF⟩
  else if b = 0xE0 then .more ⟨0, 2, 0xA0, 0xBF⟩
  else if b = 0xED then .more ⟨0xD, 2, 0x80, 0x9F⟩
  else if b < 0xF0 then .more ⟨b - 0xE0, 2, 0x80, 0xBF⟩
  else if b = 0xF0 then .more ⟨0, 3, 0x90, 0xBF⟩
  else if b < 0xF4 then .more ⟨b - 0xF0, 3, 0x80, 0xBF⟩
  else if b = 0xF4 then .more ⟨4, 3, 0x80, 0x8F⟩
  else .bad

/-- Read a later byte of a character. -/
def Partial.nextByte (state : Partial) (byte : UInt8) : Decoded :=
  let b := byte.toNat
  if state.low ≤ b ∧ b ≤ state.high then
    let bits := state.bits * 64 + (b - 0x80)
    if state.missing ≤ 1 then .char (Char.ofNat bits)
    else .more ⟨bits, state.missing - 1, 0x80, 0xBF⟩
  else .bad

/-- Lossy decoding from inside (`some`) or between (`none`) characters. A byte that cannot
continue a character ends the ill-formed part and is read again as a first byte. -/
def lossyFrom : Option Partial → List UInt8 → List Char
  | none, [] => []
  | some _, [] => [replacement]
  | none, byte :: rest =>
      match firstByte byte with
      | .char c => c :: lossyFrom none rest
      | .more state => lossyFrom (some state) rest
      | .bad => replacement :: lossyFrom none rest
  | some state, byte :: rest =>
      match state.nextByte byte with
      | .char c => c :: lossyFrom none rest
      | .more next => lossyFrom (some next) rest
      | .bad =>
          match firstByte byte with
          | .char c => replacement :: c :: lossyFrom none rest
          | .more next => replacement :: lossyFrom (some next) rest
          | .bad => replacement :: replacement :: lossyFrom none rest

/-- Lossy decoding of a whole byte string. -/
def fromUtf8Lossy (bytes : List UInt8) : String := String.ofList (lossyFrom none bytes)

/-- Strict decoding from inside or between characters. -/
def strictFrom : Option Partial → List UInt8 → Option (List Char)
  | none, [] => some []
  | some _, [] => none
  | state, byte :: rest =>
      match state.elim (firstByte byte) (fun inside => inside.nextByte byte) with
      | .char c => (strictFrom none rest).map fun tail => c :: tail
      | .more next => strictFrom (some next) rest
      | .bad => none

/-- Strict decoding of a whole byte string. -/
def fromUtf8? (bytes : List UInt8) : Option String := (strictFrom none bytes).map String.ofList

end MetricsDaemon.Text
