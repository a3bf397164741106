import MetricsDaemon.Number.Integer
import MetricsDaemon.Text.Utf8

/-!
# Values

What a variable evaluates to: a text, or a level that is shown as a percentage.
-/

namespace MetricsDaemon

/-- The value of a variable. -/
inductive Value where
  | text (s : String)
  | level (n : UInt8)
  deriving DecidableEq, Repr

namespace Value

/-- The level nearest to an integer between 0 and 100. -/
def ofInt (n : Int) : Value := .level (UInt8.ofNat (Number.clamp 0 100 n).toNat)

/-- The number by which a change is noticed: the sum of the bytes of a text, or the level itself. -/
def checksum : Value → Nat
  | .text s => (Text.utf8 s).foldr (fun byte sum => byte.toNat + sum) 0
  | .level n => n.toNat

/-- A line break becomes a space. -/
def flattenChar (c : Char) : Char := if c = '\r' ∨ c = '\n' then ' ' else c

/-- The value as a push line carries it: never with a line break. -/
def wire : Value → String
  | .text s => String.ofList (s.toList.map flattenChar)
  | .level n => Number.showNat n.toNat

/-- The value as it reads. -/
def display : Value → String
  | .text s => s
  | .level n => Number.showNat n.toNat

end Value

end MetricsDaemon
