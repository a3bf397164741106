import MetricsDaemon.Number.Integer
import MetricsDaemon.Text.Blank
import MetricsDaemon.Text.Lowercase

/-!
# Network addresses

The addresses that a machine can listen on, and the notations that they are written in.
No name service is asked: the only name with an address is the one that a machine has
for itself.
-/

namespace MetricsDaemon

/-- An address of 32 bits or of 128 bits. -/
inductive Address where
  | four (number : Nat)
  | six (number : Nat)
  deriving DecidableEq, Repr

namespace Address

/-- Read digits of a base; no number above a limit reads. -/
def readInBase? (base limit : Nat) (s : List Char) : Option Nat :=
  s.foldlM (fun n c => (Number.hexValue? c).bind fun digit =>
    if digit < base ∧ base * n + digit ≤ limit then some (base * n + digit) else none) 0

/-- Read one number of the dotted notation. It is decimal, octal after a zero, or hexadecimal after
`0x`. -/
def readPart? : List Char → Option Nat
  | [] => none
  | ['0', 'x'] | ['0', 'X'] => none
  | '0' :: 'x' :: digits | '0' :: 'X' :: digits => readInBase? 16 0xffffffff digits
  | '0' :: digits => readInBase? 8 0xffffffff digits
  | digits => readInBase? 10 0xffffffff digits

/-- Read the dotted notation: at most four numbers, of which the last fills the bits that the
others, one byte each, leave. -/
def readDotted? (s : List Char) : Option Nat := do
  let parts ← (Text.splitAtEach '.' s).mapM readPart?
  let room := Nat.pow 256 (5 - parts.length)
  let last := parts.getLastD 0
  if parts.length ≤ 4 ∧ (parts.dropLast.all fun part => part < 256) ∧ last < room then
    some (parts.dropLast.foldl (fun n part => 256 * n + part) 0 * room + last)
  else none

/-- Read a byte in decimal digits, without zeros in front. -/
def readByte? : List Char → Option Nat
  | [] => none
  | ['0'] => some 0
  | '0' :: _ => none
  | digits => readInBase? 10 255 digits

/-- Read four bytes with points between them. -/
def readFourBytes? (s : List Char) : Option Nat := do
  let bytes ← (Text.splitAtEach '.' s).mapM readByte?
  if bytes.length = 4 then some (bytes.foldl (fun n byte => 256 * n + byte) 0) else none

/-- Read one to four hexadecimal digits. -/
def readGroup? (s : List Char) : Option Nat :=
  if s = [] ∨ 4 < s.length then none else readInBase? 16 0xffff s

/-- Read groups with colons between them; nothing is no groups. -/
def readGroups? (s : List Char) : Option (List Nat) :=
  if s = [] then some [] else (Text.splitAtEach ':' s).mapM readGroup?

/-- Read groups with colons between them, at the end of an address: four bytes may stand for the
last two groups. -/
def readLastGroups? (s : List Char) : Option (List Nat) :=
  match Text.cutLast ':' s with
  | some (groups, bytes) =>
      if bytes.contains '.' then do
        let number ← readFourBytes? bytes
        let groups ← if groups = [] then none else readGroups? groups
        return groups ++ [number / 0x10000, number % 0x10000]
      else readGroups? s
  | none =>
      if s.contains '.' then
        (readFourBytes? s).map fun number => [number / 0x10000, number % 0x10000]
      else readGroups? s

/-- Cut a text at the first two colons in a row. -/
def cutGap : List Char → Option (List Char × List Char)
  | ':' :: ':' :: rest => some ([], rest)
  | c :: rest => (cutGap rest).map fun parts => (c :: parts.1, parts.2)
  | [] => none

/-- Eight groups as a number. -/
def ofGroups (groups : List Nat) : Nat := groups.foldl (fun n group => 0x10000 * n + group) 0

/-- Read the notation with colons: eight groups, or fewer around a gap that stands for zeros. -/
def readColons? (s : List Char) : Option Nat :=
  match cutGap s with
  | none =>
      (readLastGroups? s).bind fun groups =>
        if groups.length = 8 then some (ofGroups groups) else none
  | some (before, after) => do
      let left ← readGroups? before
      let right ← readLastGroups? after
      let count := left.length + right.length
      if count < 8 then some (ofGroups (left ++ List.replicate (8 - count) 0 ++ right)) else none

/-- The name that every machine has for itself. -/
def ownName : String := "localhost"

/-- The address that a machine has for itself. -/
def loopback : Address := .four 0x7f000001

/-- The address of a host: its own name in any case, a notation, or the notation with colons in
brackets. -/
def resolve? (host : String) : Option Address :=
  match host.toList with
  | '[' :: rest =>
      if rest.getLast? = some ']' then (readColons? rest.dropLast).map .six else none
  | s =>
      if Text.lowercaseAscii host = ownName then some loopback
      else ((readDotted? s).map .four).or ((readColons? s).map .six)

/-- Whether a machine can listen on a 32-bit address: it is unspecified, its own, that of a group,
or everybody's. -/
def isListenableFour (number : Nat) : Bool :=
  number == 0 || number / 0x1000000 == 127 || number / 0x10000000 == 14 || number == 0xffffffff

/-- Whether a machine without a network can listen on an address. A 32-bit address may be written in
128 bits. -/
def isListenable : Address → Bool
  | .four number => isListenableFour number
  | .six number =>
      number == 0 || number == 1 ||
        (number / 0x100000000 == 0xffff && isListenableFour (number % 0x100000000))

end Address

end MetricsDaemon
