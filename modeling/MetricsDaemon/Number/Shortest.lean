import MetricsDaemon.Number.Binary

/-!
# Shortest decimal text

The fewest digits that read back as the same number, and of those the nearest to it.
For each number of digits the two neighbours of the number on that decimal grid are
tried in exact arithmetic; a hit on a coarser grid wins.
-/

namespace MetricsDaemon.Number

/-- A decimal number `digits · 10 ^ exponent`. -/
structure Decimal where
  digits : Nat
  exponent : Int
  deriving DecidableEq, Repr

/-- A positive value and the ends of the interval that rounds to it, over one denominator. The ends
belong to the interval when the significand is even. -/
structure Interval where
  low : Nat
  value : Nat
  high : Nat
  den : Nat
  closed : Bool

/-- The interval of reals that round to `significand · 2 ^ exponent`. Below a power of two the
neighbour is twice as near. -/
def Interval.around (format : Format) (significand : Nat) (exponent : Int) : Interval :=
  let isPower := decide (significand = Nat.pow 2 (format.precision - 1))
  let narrow := isPower && decide (format.leastExponent < exponent)
  let scale := exponent - 2
  let up := if 0 ≤ scale then Nat.pow 2 scale.toNat else 1
  let den := if 0 ≤ scale then 1 else Nat.pow 2 (-scale).toNat
  { low := (4 * significand - (if narrow then 1 else 2)) * up
    value := 4 * significand * up
    high := (4 * significand + 2) * up
    den := den
    closed := significand % 2 == 0 }

/-- Whether `num / (den of the interval · grid)` lies in the interval. -/
def Interval.covers (interval : Interval) (num grid : Nat) : Bool :=
  if interval.closed then interval.low * grid ≤ num && num ≤ interval.high * grid
  else interval.low * grid < num && num < interval.high * grid

/-- The point of the grid `10 ^ exponent` in the interval that is nearest to the value. -/
def Interval.hit? (tie : Tie) (interval : Interval) (exponent : Int) : Option Decimal :=
  let step := if 0 ≤ exponent then interval.den * Nat.pow 10 exponent.toNat else interval.den
  let grid := if 0 ≤ exponent then 1 else Nat.pow 10 (-exponent).toNat
  let below := interval.value * grid / step
  let nearest := roundQuotient tie (interval.value * grid) step
  let other := if nearest = below then below + 1 else below
  if interval.covers (nearest * step) grid then some ⟨nearest, exponent⟩
  else if interval.covers (other * step) grid then some ⟨other, exponent⟩
  else none

/-- The number of digits before the decimal point of `num / den`, negative for zeros after it. -/
def decimalMagnitude (num den : Nat) : Int :=
  let guess : Int := (natDigits num).length - (natDigits den).length
  let reaches :=
    if 0 ≤ guess then den * Nat.pow 10 guess.toNat ≤ num
    else den ≤ num * Nat.pow 10 (-guess).toNat
  if reaches then guess + 1 else guess

/-- Try grids of at most `fuel` digits, from the coarsest on. -/
def Interval.search (tie : Tie) (interval : Interval) (exponent : Int) : Nat → Decimal
  | 0 => ⟨0, 0⟩
  | fuel + 1 =>
      match interval.hit? tie exponent with
      | some decimal => decimal
      | none => interval.search tie (exponent - 1) fuel

/-- Move trailing zeros of the digits into the exponent. -/
def Decimal.trimmed (decimal : Decimal) : Decimal :=
  let zeros := ((natDigits decimal.digits).reverse.takeWhile fun c => c == '0').length
  ⟨decimal.digits / Nat.pow 10 zeros, decimal.exponent + zeros⟩

/-- The shortest decimal number that reads back as a positive double. -/
def shortest (tie : Tie) (significand : Nat) (exponent : Int) : Decimal :=
  let interval := Interval.around double significand exponent
  (interval.search tie (decimalMagnitude interval.value interval.den - 1) 18).trimmed

/-- A decimal number without an exponent. -/
def Decimal.positional (decimal : Decimal) : List Char :=
  let digits := natDigits decimal.digits
  if 0 ≤ decimal.exponent then digits ++ List.replicate decimal.exponent.toNat '0'
  else
    let places := (-decimal.exponent).toNat
    let padded := paddedDigits '0' (places + 1) decimal.digits
    padded.take (padded.length - places) ++ '.' :: padded.drop (padded.length - places)

/-- A decimal number with one digit before the point and an exponent with a sign. -/
def Decimal.scientific (decimal : Decimal) : List Char :=
  let digits := natDigits decimal.digits
  let exponent := decimal.exponent + (digits.length - 1 : Nat)
  let fraction := if digits.tail = [] then [] else '.' :: digits.tail
  let sign := if exponent < 0 then '-' else '+'
  digits.take 1 ++ fraction ++ 'e' :: sign :: natDigits exponent.natAbs

/-- The text of a double as values and replies carry it: never an exponent, no point for whole
numbers, a tie between two shortest texts goes up. -/
def showDouble : Binary → String
  | .finite negative significand exponent =>
      let body :=
        if significand = 0 then ['0'] else (shortest .up significand exponent).positional
      String.ofList (if negative then '-' :: body else body)
  | .infinite negative => if negative then "-inf" else "inf"
  | .nan => "NaN"

/-- The text of a double as configuration strings carry it: at least one decimal, an exponent below
`1e-5` and from `1e16` on, a tie goes to the even digit. -/
def showConfigDouble : Binary → String
  | .finite negative significand exponent =>
      let decimal : Decimal :=
        if significand = 0 then ⟨0, 0⟩ else shortest .toEven significand exponent
      let magnitude : Int := (natDigits decimal.digits).length - 1 + decimal.exponent
      let body :=
        if -5 ≤ magnitude ∧ magnitude < 16 then
          if 0 ≤ decimal.exponent then decimal.positional ++ ['.', '0'] else decimal.positional
        else decimal.scientific
      String.ofList (if negative then '-' :: body else body)
  | .infinite negative => if negative then "-inf" else "inf"
  | .nan => "NaN"

/-- The text of a double with a fixed number of places; a tie goes to the even digit. -/
def showFixed (places : Nat) : Binary → String
  | .finite negative significand exponent =>
      let parts := Binary.quotient significand exponent
      let scaled := roundQuotient .toEven (parts.1 * Nat.pow 10 places) parts.2
      let digits := paddedDigits '0' (places + 1) scaled
      let body :=
        if places = 0 then digits
        else digits.take (digits.length - places) ++ '.' :: digits.drop (digits.length - places)
      String.ofList (if negative then '-' :: body else body)
  | .infinite negative => if negative then "-inf" else "inf"
  | .nan => "NaN"

end MetricsDaemon.Number
