/-!
# Type tags

The type tag of a variable says how it is shown, what argument its method takes, and
whether it is evaluated on every tick. Its number is a bit set that clients see in push
lines.
-/

namespace MetricsDaemon

/-- How a variable is shown. -/
inductive Appearance where
  | text
  | bar
  | graph
  deriving DecidableEq, Repr

/-- Bars and graphs show a level. -/
def Appearance.showsLevel : Appearance → Bool
  | .text => false
  | .bar | .graph => true

/-- What argument a method takes. -/
inductive ArgumentKind where
  | none
  | string
  | integer
  | double
  deriving DecidableEq, Repr

/-- The type tag of a variable, one flag per bit. -/
structure TypeTag where
  bar : Bool
  argString : Bool
  argInteger : Bool
  argDouble : Bool
  graph : Bool
  cron : Bool
  deriving DecidableEq, Repr

namespace TypeTag

/-- A text without an argument. -/
def plain : TypeTag := ⟨false, false, false, false, false, false⟩

instance : Inhabited TypeTag := ⟨plain⟩

/-- The tag whose flags are the low six bits of a number; the other bits are dropped. -/
def ofBits (bits : Nat) : TypeTag :=
  { bar := bits.testBit 0
    argString := bits.testBit 1
    argInteger := bits.testBit 2
    argDouble := bits.testBit 3
    graph := bits.testBit 4
    cron := bits.testBit 5 }

/-- The number of a tag. -/
def bits (t : TypeTag) : Nat :=
  t.bar.toNat + 2 * t.argString.toNat + 4 * t.argInteger.toNat + 8 * t.argDouble.toNat +
    16 * t.graph.toNat + 32 * t.cron.toNat

/-- The flags of both tags. -/
def union (t other : TypeTag) : TypeTag :=
  { bar := t.bar || other.bar
    argString := t.argString || other.argString
    argInteger := t.argInteger || other.argInteger
    argDouble := t.argDouble || other.argDouble
    graph := t.graph || other.graph
    cron := t.cron || other.cron }

/-- Whether a tag has every flag of another. -/
def includes (t other : TypeTag) : Bool := t.union other == t

/-- How a variable with this tag is shown; the bar goes before the graph. -/
def appearance (t : TypeTag) : Appearance :=
  if t.bar then .bar else if t.graph then .graph else .text

/-- The argument its method takes; of several flags the first of string, integer, double counts. -/
def argumentKind (t : TypeTag) : ArgumentKind :=
  if t.argString then .string
  else if t.argInteger then .integer
  else if t.argDouble then .double
  else .none

/-- Reading the number of a tag gives the tag back. -/
theorem ofBits_bits (t : TypeTag) : ofBits t.bits = t := by
  obtain ⟨a, b, c, d, e, f⟩ := t
  revert a b c d e f
  decide

end TypeTag

end MetricsDaemon
