/-!
# Decimal integers

Reading integers written with an optional sign and decimal digits, and the ranges of
64-bit words.
-/

namespace MetricsDaemon.Number

/-- The least signed 64-bit integer. -/
def leastInt64 : Int := -0x8000000000000000

/-- The greatest signed 64-bit integer. -/
def greatestInt64 : Int := 0x7fffffffffffffff

/-- The greatest unsigned 64-bit integer. -/
def greatestUInt64 : Nat := 0xffffffffffffffff

/-- The nearest integer of a closed range. -/
def clamp (least greatest value : Int) : Int := max least (min greatest value)

/-- The value of a decimal digit. -/
def digitValue (c : Char) : Nat := c.toNat - '0'.toNat

/-- The value of a hexadecimal digit. -/
def hexValue? (c : Char) : Option Nat :=
  if c.isDigit then some (digitValue c)
  else if 'a' ≤ c ∧ c ≤ 'f' then some (c.toNat - 'a'.toNat + 10)
  else if 'A' ≤ c ∧ c ≤ 'F' then some (c.toNat - 'A'.toNat + 10)
  else none

/-- The number that a list of digits denotes. -/
def digitsValue (digits : List Char) : Nat := digits.foldl (fun n c => 10 * n + digitValue c) 0

/-- The number that a list of digits denotes, or a limit if that is less. -/
def digitsUpTo (limit : Nat) (digits : List Char) : Nat :=
  digits.foldl (fun n c => min limit (10 * n + digitValue c)) 0

/-- Read a non-empty list of decimal digits. Every number above the 64-bit range reads as the first
of them. -/
def readDigits? (s : List Char) : Option Nat :=
  if s ≠ [] ∧ s.all Char.isDigit then some (digitsUpTo (greatestUInt64 + 1) s) else none

/-- Read decimal digits after an optional plus sign. -/
def readNatural? : List Char → Option Nat
  | '+' :: rest => readDigits? rest
  | s => readDigits? s

/-- Read decimal digits after an optional sign. -/
def readInteger? : List Char → Option Int
  | '-' :: rest => (readDigits? rest).map fun n => -(n : Int)
  | s => (readNatural? s).map fun n => (n : Int)

/-- Read a signed 64-bit integer; a number outside the range does not read. -/
def readInt64? (s : List Char) : Option Int :=
  (readInteger? s).filter fun n => leastInt64 ≤ n ∧ n ≤ greatestInt64

/-- Read an unsigned 64-bit integer; a number outside the range does not read. -/
def readUInt64? (s : List Char) : Option Nat :=
  (readNatural? s).filter fun n => n ≤ greatestUInt64

/-- The decimal digits of a natural number. -/
def natDigits (n : Nat) : List Char := Nat.toDigits 10 n

/-- A natural number in decimal digits. -/
def showNat (n : Nat) : String := String.ofList (natDigits n)

/-- An integer in decimal digits, with a minus sign if it is negative. -/
def showInt (n : Int) : String :=
  if n < 0 then "-" ++ showNat n.natAbs else showNat n.natAbs

/-- The decimal digits of a natural number, filled up on the left. -/
def paddedDigits (fill : Char) (width n : Nat) : List Char :=
  let digits := natDigits n
  List.replicate (width - digits.length) fill ++ digits

end MetricsDaemon.Number
