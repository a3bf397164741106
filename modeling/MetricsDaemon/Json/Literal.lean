import MetricsDaemon.Json.Numeral
import MetricsDaemon.Table

/-!
# Reading JSON texts

A text is first read into a literal, which records what was written, and a literal is
then decoded into a value. A literal may hold a number too large for a double or a string
whose escapes are no text: these make decoding fail, but a part of a file that nobody
looks at is only read, not decoded.
-/

namespace MetricsDaemon.Json

/-- A JSON text as written. Strings and numbers without a meaning are `none`; an object may repeat a
key. -/
inductive Literal where
  | null
  | bool (b : Bool)
  | number (n : Option JsonNumber)
  | string (s : Option String)
  | array (items : List Literal)
  | object (members : List (Option String × Literal))

/-- A piece of a string: a character as it stands, or a 16-bit unit spelled by an escape. -/
inductive Piece where
  | char (c : Char)
  | unit (code : Nat)

/-- The character after a backslash, apart from `u`. -/
def escaped? (c : Char) : Option Char :=
  if c = '"' ∨ c = '\\' ∨ c = '/' then some c
  else if c = 'b' then some '\x08'
  else if c = 'f' then some '\x0c'
  else if c = 'n' then some '\n'
  else if c = 'r' then some '\r'
  else if c = 't' then some '\t'
  else none

/-- Four hexadecimal digits as a number. -/
def hexUnit? (a b c d : Char) : Option Nat := do
  let a ← Number.hexValue? a
  let b ← Number.hexValue? b
  let c ← Number.hexValue? c
  let d ← Number.hexValue? d
  return ((a * 16 + b) * 16 + c) * 16 + d

/-- Read the pieces of a string up to its closing quote. -/
def readPieces? : List Char → Option (List Piece × List Char)
  | [] => none
  | '"' :: rest => some ([], rest)
  | '\\' :: 'u' :: a :: b :: c :: d :: rest => do
      let code ← hexUnit? a b c d
      let (pieces, rest) ← readPieces? rest
      return (.unit code :: pieces, rest)
  | '\\' :: c :: rest => do
      let c ← escaped? c
      let (pieces, rest) ← readPieces? rest
      return (.char c :: pieces, rest)
  | c :: rest =>
      if c.toNat < 0x20 ∨ c = '\\' then none
      else (readPieces? rest).map fun parts => (.char c :: parts.1, parts.2)

/-- Whether a 16-bit unit is the first half of a pair. -/
def isHighUnit (code : Nat) : Bool := 0xD800 ≤ code && code ≤ 0xDBFF

/-- Whether a 16-bit unit is the second half of a pair. -/
def isLowUnit (code : Nat) : Bool := 0xDC00 ≤ code && code ≤ 0xDFFF

/-- Join the pieces of a string; halves of pairs must meet. -/
def joinPieces? : List Piece → Option (List Char)
  | [] => some []
  | .char c :: rest => (joinPieces? rest).map fun tail => c :: tail
  | .unit high :: .unit low :: rest =>
      if isHighUnit high then
        if isLowUnit low then
          (joinPieces? rest).map fun tail =>
            Char.ofNat (0x10000 + (high - 0xD800) * 0x400 + (low - 0xDC00)) :: tail
        else none
      else if isLowUnit high then none
      else (joinPieces? (.unit low :: rest)).map fun tail => Char.ofNat high :: tail
  | .unit code :: rest =>
      if isHighUnit code || isLowUnit code then none
      else (joinPieces? rest).map fun tail => Char.ofNat code :: tail

/-- Read a string after its opening quote. -/
def readText? (s : List Char) : Option (Option String × List Char) :=
  (readPieces? s).map fun parts => ((joinPieces? parts.1).map String.ofList, parts.2)

/-- A text without the blanks that JSON allows between its tokens. -/
def skipBlanks (s : List Char) : List Char :=
  s.dropWhile fun c => c == ' ' || c == '\t' || c == '\n' || c == '\r'

/-- Read a word whose first letter is already known. -/
def readWord? (word : String) (meaning : Literal) (s : List Char) : Option (Literal × List Char) :=
  if word.toList.isPrefixOf s then some (meaning, s.drop word.toList.length) else none

mutual

/-- Read a value from the front of a text. -/
def readValue? : Nat → List Char → Option (Literal × List Char)
  | 0, _ => none
  | fuel + 1, s =>
      match skipBlanks s with
      | [] => none
      | '"' :: rest => (readText? rest).map fun parts => (.string parts.1, parts.2)
      | '[' :: rest =>
          match skipBlanks rest with
          | ']' :: rest => some (.array [], rest)
          | rest => (readItems? fuel rest).map fun parts => (.array parts.1, parts.2)
      | '\x7b' :: rest =>
          match skipBlanks rest with
          | '"' :: rest => (readMembers? fuel rest).map fun parts => (.object parts.1, parts.2)
          | '\x7d' :: rest => some (.object [], rest)
          | _ => none
      | c :: rest =>
          if c = 'n' then readWord? "null" .null (c :: rest)
          else if c = 't' then readWord? "true" (.bool true) (c :: rest)
          else if c = 'f' then readWord? "false" (.bool false) (c :: rest)
          else (readNumeral? (c :: rest)).map fun parts => (.number parts.1.value?, parts.2)

/-- Read the items of an array from its next value to its end. -/
def readItems? : Nat → List Char → Option (List Literal × List Char)
  | 0, _ => none
  | fuel + 1, s => do
      let (item, rest) ← readValue? fuel s
      match skipBlanks rest with
      | ']' :: rest => some ([item], rest)
      | ',' :: rest => do
          let (items, rest) ← readItems? fuel rest
          return (item :: items, rest)
      | _ => none

/-- Read the members of an object from the text of its next key to its end. -/
def readMembers? : Nat → List Char → Option (List (Option String × Literal) × List Char)
  | 0, _ => none
  | fuel + 1, s => do
      let (key, rest) ← readText? s
      match skipBlanks rest with
      | ':' :: rest => do
          let (value, rest) ← readValue? fuel rest
          match skipBlanks rest with
          | ',' :: rest =>
              match skipBlanks rest with
              | '"' :: rest => do
                  let (members, rest) ← readMembers? fuel rest
                  return ((key, value) :: members, rest)
              | _ => none
          | '\x7d' :: rest => some ([(key, value)], rest)
          | _ => none
      | _ => none

end

/-- Read a whole text: one value between blanks. -/
def readLiteral? (text : String) : Option Literal :=
  let s := text.toList
  match readValue? (2 * s.length + 2) s with
  | some (literal, rest) => if skipBlanks rest = [] then some literal else none
  | none => none

/-- Decode a literal that nests at most `levels` arrays and objects. The last of several members
with one key counts. -/
def Literal.decode? : Nat → Literal → Option Json
  | _, .null => some .null
  | _, .bool b => some (.bool b)
  | _, .number n => n.map .number
  | _, .string s => s.map .string
  | 0, .array _ => none
  | 0, .object _ => none
  | levels + 1, .array items => (items.mapM (Literal.decode? levels)).map .array
  | levels + 1, .object members =>
      (members.mapM fun (member : Option String × Literal) => do
        let key ← member.1
        let value ← Literal.decode? levels member.2
        return (key, value)).map fun pairs => .object (Table.ofList pairs).entries

/-- The number of arrays and objects that may stand inside each other in a file. -/
def nestingLimit : Nat := 127

/-- Read and decode a whole text. -/
def parse? (text : String) : Option Json := do
  let literal ← readLiteral? text
  literal.decode? nestingLimit

/-- A member of an object. -/
def get? (json : Json) (key : String) : Option Json :=
  match json with
  | .object members => Table.get? ⟨members⟩ key
  | _ => none

end MetricsDaemon.Json
