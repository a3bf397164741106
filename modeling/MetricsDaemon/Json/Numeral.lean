import MetricsDaemon.Json.Basic

/-!
# Reading JSON numbers

A numeral is read into a 64-bit significand and a power of ten, and these two are joined
by one rounded multiplication or division. Digits that no longer fit the significand
only count for its magnitude. The result can differ from the nearest double in its last
place.
-/

namespace MetricsDaemon.Json

open Number

/-- A significand and the power of ten that scales it. -/
structure Scaled where
  significand : Nat
  exponent : Int

/-- Take in the digits before the point. -/
def takeWhole (significand : Nat) : List Char → Scaled
  | [] => ⟨significand, 0⟩
  | c :: rest =>
      let next := 10 * significand + digitValue c
      if greatestUInt64 < next then ⟨significand, (c :: rest).length⟩ else takeWhole next rest

/-- Take in the digits after the point, up to the first that does not fit. -/
def takeFraction (scaled : Scaled) : List Char → Scaled
  | [] => scaled
  | c :: rest =>
      let next := 10 * scaled.significand + digitValue c
      if greatestUInt64 < next then scaled else takeFraction ⟨next, scaled.exponent - 1⟩ rest

/-- The double nearest to a power of ten. -/
def powerOfTen (exponent : Nat) : Binary := .ofDecimal double false 1 exponent

/-- Scale by a power of ten, in steps that doubles can hold; `none` if the result is too large. -/
def scaleBy : Nat → Binary → Int → Option Binary
  | 0, x, _ => some x
  | fuel + 1, x, exponent =>
      if exponent.natAbs ≤ 308 then
        if 0 ≤ exponent then
          let product := x.mul double (powerOfTen exponent.natAbs)
          if product.isFinite then some product else none
        else some (x.div double (powerOfTen exponent.natAbs))
      else if x.isZero then some x
      else if 0 ≤ exponent then none
      else scaleBy fuel (x.div double (powerOfTen 308)) (exponent + 308)

/-- The double that a significand and a power of ten stand for. -/
def Scaled.toDouble? (scaled : Scaled) (negative : Bool) : Option Binary :=
  let steps := scaled.exponent.natAbs / 308 + 1
  (scaleBy steps (.ofNat double scaled.significand) scaled.exponent).map fun x =>
    if negative then x.negate else x

/-- The greatest exponent that is still counted. -/
def greatestExponent : Nat := 0x7fffffff

/-- A numeral in parts. The exponent has a direction and digits. -/
structure Numeral where
  negative : Bool
  whole : List Char
  fraction : Option (List Char)
  exponent : Option (Bool × List Char)

/-- The number that a numeral denotes; `none` if it is too large for a double. -/
def Numeral.value? (numeral : Numeral) : Option JsonNumber :=
  let whole := takeWhole 0 numeral.whole
  match numeral.fraction, numeral.exponent with
  | none, none =>
      if whole.exponent ≠ 0 then (whole.toDouble? numeral.negative).map .real
      else if !numeral.negative then some (.natural whole.significand)
      else if whole.significand = 0 ∨ 0x8000000000000000 < whole.significand then
        some (.real (Binary.ofNat double whole.significand).negate)
      else some (.negative (-whole.significand))
  | fraction, exponent =>
      let scaled := takeFraction whole (fraction.getD [])
      match exponent with
      | none => (scaled.toDouble? numeral.negative).map .real
      | some (downward, digits) =>
          let size := digitsUpTo (greatestExponent + 1) digits
          if size ≤ greatestExponent then
            let shift : Int := if downward then -size else size
            let shifted : Scaled := ⟨scaled.significand, scaled.exponent + shift⟩
            (shifted.toDouble? numeral.negative).map .real
          else if scaled.significand ≠ 0 ∧ !downward then none
          else some (.real (.zero numeral.negative))

/-- Split the digits off the front of a text; at least one is needed. -/
def readSomeDigits? (s : List Char) : Option (List Char × List Char) :=
  let digits := s.takeWhile Char.isDigit
  if digits = [] then none else some (digits, s.dropWhile Char.isDigit)

/-- Read the whole part: a zero alone or digits without a leading zero. -/
def readWhole? (s : List Char) : Option (List Char × List Char) :=
  (readSomeDigits? s).filter fun parts => parts.1.head? ≠ some '0' ∨ parts.1.length = 1

/-- Read a fraction, if the text goes on with a point. -/
def readFraction? : List Char → Option (Option (List Char) × List Char)
  | '.' :: rest => (readSomeDigits? rest).map fun parts => (some parts.1, parts.2)
  | s => some (none, s)

/-- Read the digits of an exponent after its optional sign. -/
def readSignedDigits? : List Char → Option ((Bool × List Char) × List Char)
  | '+' :: rest => (readSomeDigits? rest).map fun parts => ((false, parts.1), parts.2)
  | '-' :: rest => (readSomeDigits? rest).map fun parts => ((true, parts.1), parts.2)
  | s => (readSomeDigits? s).map fun parts => ((false, parts.1), parts.2)

/-- Read an exponent, if the text goes on with one. -/
def readScale? : List Char → Option (Option (Bool × List Char) × List Char)
  | c :: rest =>
      if c = 'e' ∨ c = 'E' then
        (readSignedDigits? rest).map fun parts => (some parts.1, parts.2)
      else some (none, c :: rest)
  | [] => some (none, [])

/-- Read a numeral from the front of a text. -/
def readNumeral? (s : List Char) : Option (Numeral × List Char) := do
  let negative := s.head? = some '-'
  let (whole, rest) ← readWhole? (if negative then s.tail else s)
  let (fraction, rest) ← readFraction? rest
  let (exponent, rest) ← readScale? rest
  return (⟨negative, whole, fraction, exponent⟩, rest)

end MetricsDaemon.Json
