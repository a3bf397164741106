import MetricsDaemon.Number.Integer

/-!
# Binary floating-point numbers

A finite number is kept as what it is, an exact multiple of a power of two. Every
operation computes its exact rational result and rounds once, to the nearest number of
the format; a tie goes to the even significand.
-/

namespace MetricsDaemon.Number

/-- Where a value half-way between two candidates goes. -/
inductive Tie where
  | toEven
  | up
  deriving DecidableEq, Repr

/-- The integer nearest to `num / den`. -/
def roundQuotient (tie : Tie) (num den : Nat) : Nat :=
  let quotient := num / den
  let twice := 2 * (num % den)
  if twice < den then quotient
  else if den < twice then quotient + 1
  else if tie = .toEven ∧ quotient % 2 = 0 then quotient
  else quotient + 1

/-- A binary format: the number of bits of a significand and the range of exponents. -/
structure Format where
  precision : Nat
  leastExponent : Int
  greatestExponent : Int

/-- Double precision. -/
def double : Format := ⟨53, -1074, 971⟩

/-- Single precision. -/
def single : Format := ⟨24, -149, 104⟩

/-- A floating-point number. A finite one is `significand · 2 ^ exponent`, with a sign that zero
has as well. -/
inductive Binary where
  | finite (negative : Bool) (significand : Nat) (exponent : Int)
  | infinite (negative : Bool)
  | nan
  deriving DecidableEq, Repr

namespace Binary

/-- A zero. -/
def zero (negative : Bool) : Binary := .finite negative 0 0

instance : Inhabited Binary := ⟨zero false⟩

/-- `num / den` in units of `2 ^ exponent`, as a numerator and a denominator. -/
def inUnits (exponent : Int) (num den : Nat) : Nat × Nat :=
  if 0 ≤ exponent then (num, den * Nat.pow 2 exponent.toNat)
  else (num * Nat.pow 2 (-exponent).toNat, den)

/-- The least exponent at which the whole part of `num / den` fits the significand. -/
def fittingExponent (format : Format) (num den : Nat) : Int :=
  let guess : Int := (num.log2 : Int) - (den.log2 : Int) - (format.precision : Int)
  let units := inUnits guess num den
  let exact := if Nat.pow 2 format.precision * units.2 ≤ units.1 then guess + 1 else guess
  max format.leastExponent exact

/-- The number of the format nearest to `± num / den`; too large a value becomes infinite. -/
def ofQuotient (format : Format) (negative : Bool) (num den : Nat) : Binary :=
  if num = 0 then zero negative
  else
    let exponent := fittingExponent format num den
    let units := inUnits exponent num den
    let rounded := roundQuotient .toEven units.1 units.2
    let carried := decide (rounded = Nat.pow 2 format.precision)
    let significand := if carried then Nat.pow 2 (format.precision - 1) else rounded
    let exponent := if carried then exponent + 1 else exponent
    if format.greatestExponent < exponent then .infinite negative
    else if significand = 0 then zero negative
    else .finite negative significand exponent

/-- The number of the format nearest to a natural number. -/
def ofNat (format : Format) (n : Nat) : Binary := ofQuotient format false n 1

/-- The number of the format nearest to an integer. -/
def ofInt (format : Format) (n : Int) : Binary :=
  ofQuotient format (decide (n < 0)) n.natAbs 1

/-- The number of the format nearest to `± digits · 10 ^ exponent`. The range of the exponent is
cut first: outside it every double is infinite or zero. -/
def ofDecimal (format : Format) (negative : Bool) (digits : Nat) (exponent : Int) : Binary :=
  if digits = 0 then zero negative
  else
    let magnitude : Int := (natDigits digits).length + exponent
    if 400 < magnitude then .infinite negative
    else if magnitude < -400 then zero negative
    else if 0 ≤ exponent then ofQuotient format negative (digits * Nat.pow 10 exponent.toNat) 1
    else ofQuotient format negative digits (Nat.pow 10 (-exponent).toNat)

/-- The sign; a NaN has none. -/
def isNegative : Binary → Bool
  | .finite negative _ _ => negative
  | .infinite negative => negative
  | .nan => false

/-- Whether the number is finite. -/
def isFinite : Binary → Bool
  | .finite _ _ _ => true
  | _ => false

/-- Whether the number is a zero of either sign. -/
def isZero : Binary → Bool
  | .finite _ significand _ => significand == 0
  | _ => false

/-- The number with the opposite sign. -/
def negate : Binary → Binary
  | .finite negative significand exponent => .finite (!negative) significand exponent
  | .infinite negative => .infinite (!negative)
  | .nan => .nan

/-- The magnitude of a finite number as a numerator and a denominator. -/
def quotient (significand : Nat) (exponent : Int) : Nat × Nat :=
  if 0 ≤ exponent then (significand * Nat.pow 2 exponent.toNat, 1)
  else (significand, Nat.pow 2 (-exponent).toNat)

/-- The rounded product. -/
def mul (format : Format) : Binary → Binary → Binary
  | .finite s m e, .finite s' m' e' =>
      let left := quotient m e
      let right := quotient m' e'
      ofQuotient format (s != s') (left.1 * right.1) (left.2 * right.2)
  | .nan, _ => .nan
  | _, .nan => .nan
  | x, y => if x.isZero || y.isZero then .nan else .infinite (x.isNegative != y.isNegative)

/-- The rounded quotient. -/
def div (format : Format) : Binary → Binary → Binary
  | .finite s m e, .finite s' m' e' =>
      if m' = 0 then (if m = 0 then .nan else .infinite (s != s'))
      else
        let left := quotient m e
        let right := quotient m' e'
        ofQuotient format (s != s') (left.1 * right.2) (left.2 * right.1)
  | .nan, _ => .nan
  | _, .nan => .nan
  | .infinite _, .infinite _ => .nan
  | .infinite s, y => .infinite (s != y.isNegative)
  | x, .infinite s => zero (x.isNegative != s)

/-- Whether a number is greater than a natural number. -/
def exceeds : Binary → Nat → Bool
  | .finite false m e, n => let parts := quotient m e; n * parts.2 < parts.1
  | .finite true _ _, _ => false
  | .infinite negative, _ => !negative
  | .nan, _ => false

/-- The magnitude of a finite number rounded to an integer, ties upward. -/
def roundedMagnitude (significand : Nat) (exponent : Int) : Nat :=
  let parts := quotient significand exponent
  roundQuotient .up parts.1 parts.2

/-- The nearest integer, ties away from zero, in the range of 64 bits; a NaN gives zero. -/
def roundToInt64 : Binary → Int
  | .finite negative m e =>
      let magnitude : Int := roundedMagnitude m e
      clamp leastInt64 greatestInt64 (if negative then -magnitude else magnitude)
  | .infinite negative => if negative then leastInt64 else greatestInt64
  | .nan => 0

/-- The integer toward zero, cut to a range; a NaN gives zero. -/
def truncateTo (least greatest : Int) : Binary → Int
  | .finite negative m e =>
      let parts := quotient m e
      let magnitude : Int := parts.1 / parts.2
      clamp least greatest (if negative then -magnitude else magnitude)
  | .infinite negative => if negative then least else greatest
  | .nan => 0

end Binary

end MetricsDaemon.Number
