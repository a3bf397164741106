import MetricsDaemon.Number.Shortest

/-!
# JSON values

The values of a settings file. Whole numbers that fit a 64-bit word stay exact; every
other number is a double.
-/

namespace MetricsDaemon

/-- A number: a natural number, a negative integer, or a double. -/
inductive JsonNumber where
  | natural (n : Nat)
  | negative (n : Int)
  | real (x : Number.Binary)
  deriving DecidableEq, Repr

namespace JsonNumber

/-- The number as a double. -/
def toDouble : JsonNumber → Number.Binary
  | .natural n => .ofNat Number.double n
  | .negative n => .ofInt Number.double n
  | .real x => x

/-- The number as a signed 64-bit integer: exact if it is one, else its double cut toward zero and
to the range. -/
def toInt64 : JsonNumber → Int
  | .natural n =>
      if (n : Int) ≤ Number.greatestInt64 then n
      else (toDouble (.natural n)).truncateTo Number.leastInt64 Number.greatestInt64
  | .negative n => n
  | .real x => x.truncateTo Number.leastInt64 Number.greatestInt64

/-- The text of the number. -/
def text : JsonNumber → String
  | .natural n => Number.showNat n
  | .negative n => Number.showInt n
  | .real x => Number.showConfigDouble x

end JsonNumber

/-- A JSON value; the keys of an object are distinct. -/
inductive Json where
  | null
  | bool (b : Bool)
  | number (n : JsonNumber)
  | string (s : String)
  | array (items : List Json)
  | object (members : List (String × Json))

end MetricsDaemon
