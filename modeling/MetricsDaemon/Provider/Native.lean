import MetricsDaemon.Provider.Basic
import MetricsDaemon.Text.Utf8

/-!
# Native providers

A shared library speaks in C strings and buffers. Texts come back through a buffer of
fixed size, names and texts are decoded lossily, and arguments end at their first NUL.
-/

namespace MetricsDaemon

namespace Native

/-- The size of the buffer that text functions fill. -/
def bufferSize : Nat := 512

/-- Bytes up to the first NUL. -/
def untilNul (bytes : List UInt8) : List UInt8 := bytes.takeWhile fun byte => byte != 0

/-- A text up to its first NUL. -/
def cutAtNul (s : String) : String := String.ofList (s.toList.takeWhile fun c => c != '\x00')

/-- The text of a C string. -/
def decodeName (bytes : List UInt8) : String := Text.fromUtf8Lossy (untilNul bytes)

/-- Copy a text to the front of a buffer. The result is the number of bytes copied and the buffer
afterwards. -/
def fillBuffer (buffer : List UInt8) (text : List UInt8) : Nat × List UInt8 :=
  let written := min text.length buffer.length
  (written, text.take written ++ buffer.drop written)

/-- The text that a function left in the buffer, given the length that it claims: never beyond the
buffer, never beyond a NUL. -/
def readBuffer (buffer : List UInt8) (claimed : Nat) : String :=
  Text.fromUtf8Lossy (untilNul (buffer.take (min claimed buffer.length)))

/-- The buffer before a text function is called. -/
def freshBuffer : List UInt8 := List.replicate bufferSize 0

/-- What a text function writes and claims to have written: fixed bytes or its argument. -/
structure TextBody where
  out : Option (List UInt8)
  claim : Option Nat

/-- What a function of a library does; a level function answers with a fixed level or measures its
argument. -/
inductive Body where
  | text (body : TextBody)
  | level (fixed : Option UInt8)

/-- The value of a text function. -/
def TextBody.value (body : TextBody) (argument : Argument) : Value :=
  let filled := fillBuffer freshBuffer (body.out.getD (Text.utf8 argument.text))
  .text (readBuffer filled.2 (body.claim.getD filled.1))

/-- The level that measures an argument: the length of a string in bytes modulo 256, or a number
cut to 0 to 255. -/
def measure : Argument → Nat
  | .none => 0
  | .string s => (Text.utf8 s).length % 256
  | .integer n => (Number.clamp 0 255 n).toNat
  | .double x => (x.truncateTo 0 255).toNat

/-- The value of a level function. -/
def levelValue (fixed : Option UInt8) (argument : Argument) : Value :=
  .ofInt (fixed.elim (measure argument : Int) fun level => (level.toNat : Int))

/-- An argument on its way into a library. -/
def acceptArgument : Argument → Argument
  | .string s => .string (cutAtNul s)
  | argument => argument

/-- A variable that a library offers: `none` for a null pointer in the place of a name or a
method. -/
structure RawOffer where
  name : Option (List UInt8)
  method : Option (List UInt8)
  timeout : Nat
  bits : Nat
  /-- The registrar is called without its context. -/
  withoutContext : Bool

/-- The offer as the daemon sees it; none if a pointer is missing. -/
def RawOffer.decode (raw : RawOffer) : Option Offer :=
  match raw.withoutContext, raw.name, raw.method with
  | false, some name, some method =>
      some ⟨decodeName name, decodeName method, raw.timeout, .ofBits raw.bits⟩
  | _, _, _ => none

/-- A shared library: its name (`none` is a null pointer), the status of its initialization, its
offers and the functions it exports. -/
structure Library where
  name : Option (List UInt8)
  status : Int
  offers : List RawOffer
  functions : Table String Body

/-- The outcome of an initialization with a status. -/
def statusOutcome (status : Int) : Outcome :=
  if status = 0 then .ok else .failed ("init entry point returned " ++ Number.showInt status)

/-- The value of an exported function. -/
def Body.value (body : Body) (argument : Argument) : Value :=
  match body with
  | .text body => body.value argument
  | .level fixed => levelValue fixed argument

/-- An exported function as a method. The type of the variable decides how it is called. -/
def Body.method (body : Body) (kind : ArgumentKind) : Method :=
  ⟨kind, acceptArgument, false, fun _ argument _ => ⟨[], some (body.value argument)⟩⟩

/-- The exported function of a name. A name with a NUL in it cannot be looked up, and one that
nothing is exported under is unknown. -/
def Library.resolve (library : Library) (moduleName method : String) (type : TypeTag) :
    Except BindingError Method :=
  if method.toList.contains '\x00' then .error (.invalidName method)
  else
    match library.functions.get? method with
    | some body => .ok (body.method type.argumentKind)
    | none => .error (.unknownMethod moduleName method)

/-- The provider that a library makes; a library without a name makes none. -/
def Library.provider? (library : Library) : Option Provider :=
  library.name.map fun bytes =>
    let name := decodeName bytes
    { name := name
      provenance := .native
      openPanics := false
      enrollment := ⟨none, library.offers.map RawOffer.decode, statusOutcome library.status⟩
      method := library.resolve name
      teardownPanics := false }

end Native

end MetricsDaemon
