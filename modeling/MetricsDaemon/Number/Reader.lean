import MetricsDaemon.Number.Binary

/-!
# Reading decimal numbers

The grammar of a decimal number with an optional fraction and exponent, read exactly:
the result is the double nearest to the number that is written.
-/

namespace MetricsDaemon.Number

/-- A decimal number in parts: digits before and after the point, and an exponent. -/
structure DecimalParts where
  whole : List Char
  fraction : List Char
  exponent : Int

/-- The number from which on no more digits of an exponent are taken in. -/
def exponentBound : Nat := 65536

/-- The size of an exponent. Digits that follow when the bound is reached do not count. -/
def exponentSize (digits : List Char) : Nat :=
  digits.foldl (fun n c => if n < exponentBound then 10 * n + digitValue c else n) 0

/-- Read the digits of an exponent. -/
def readExponentSize? (s : List Char) : Option Nat :=
  if s ≠ [] ∧ s.all Char.isDigit then some (exponentSize s) else none

/-- Read an exponent: an optional sign and at least one digit. -/
def readExponent? : List Char → Option Int
  | '+' :: rest => (readExponentSize? rest).map fun n => (n : Int)
  | '-' :: rest => (readExponentSize? rest).map fun n => -(n : Int)
  | rest => (readExponentSize? rest).map fun n => (n : Int)

/-- Read what follows the digits and the point: nothing or an exponent. -/
def readScale? : List Char → Option Int
  | [] => some 0
  | c :: rest => if c = 'e' ∨ c = 'E' then readExponent? rest else none

/-- Read an unsigned decimal number. Digits may be missing on one side of the point. -/
def readParts? (s : List Char) : Option DecimalParts :=
  let whole := s.takeWhile Char.isDigit
  let rest := s.dropWhile Char.isDigit
  let fraction := if rest.head? = some '.' then rest.tail.takeWhile Char.isDigit else []
  let scale := if rest.head? = some '.' then rest.tail.dropWhile Char.isDigit else rest
  if whole = [] ∧ fraction = [] then none
  else (readScale? scale).map fun exponent => ⟨whole, fraction, exponent⟩

/-- The number of digits that can decide which double is nearest; halfway points have fewer. -/
def decisiveDigits : Nat := 800

/-- The double nearest to `± digits · 10 ^ exponent`. Of very many digits the decisive ones are
kept, and one more that tells whether anything follows them. -/
def ofDigits (negative : Bool) (digits : List Char) (exponent : Int) : Binary :=
  let significant := digits.dropWhile fun c => c == '0'
  let rest := significant.drop decisiveDigits
  if rest = [] then .ofDecimal double negative (digitsValue significant) exponent
  else
    let last := if rest.all fun c => c == '0' then 0 else 1
    .ofDecimal double negative (10 * digitsValue (significant.take decisiveDigits) + last)
      (exponent + (rest.length - 1 : Nat))

/-- Read a magnitude: a word for infinity or for no number, in any case, or a decimal number. -/
def readMagnitude? (negative : Bool) (s : List Char) : Option Binary :=
  let word := s.map Char.toLower
  if word = ['i', 'n', 'f'] ∨ word = ['i', 'n', 'f', 'i', 'n', 'i', 't', 'y'] then
    some (.infinite negative)
  else if word = ['n', 'a', 'n'] then some .nan
  else (readParts? s).map fun parts =>
    ofDigits negative (parts.whole ++ parts.fraction) (parts.exponent - parts.fraction.length)

/-- Read a double with an optional sign. -/
def readDouble? : List Char → Option Binary
  | '+' :: rest => readMagnitude? false rest
  | '-' :: rest => readMagnitude? true rest
  | s => readMagnitude? false s

end MetricsDaemon.Number
