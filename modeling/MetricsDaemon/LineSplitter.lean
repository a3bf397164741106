import MetricsDaemon.Text.Utf8

/-!
# Line framing

Bytes arrive in chunks of any size and are cut into lines at each line feed. A trailing
carriage return does not belong to the line. A line that grows too long is thrown away
up to its end.
-/

namespace MetricsDaemon

/-- The length of the longest line in bytes, a carriage return included. -/
def longestLine : Nat := 4096

/-- The bytes of the line in progress, the last byte first. -/
structure LineSplitter where
  pending : List UInt8
  /-- The number of pending bytes. -/
  length : Nat
  /-- Whether the line in progress is too long and is being thrown away. -/
  discarding : Bool
  deriving DecidableEq, Repr

namespace LineSplitter

/-- The splitter at the beginning of a line. -/
def start : LineSplitter := ⟨[], 0, false⟩

/-- The line feed. -/
def lineFeed : UInt8 := 10

/-- The carriage return. -/
def carriageReturn : UInt8 := 13

/-- The text of a line whose bytes are given last first. -/
def lineText (reversed : List UInt8) : String :=
  match reversed with
  | [] => ""
  | last :: rest =>
      Text.fromUtf8Lossy (if last = carriageReturn then rest.reverse else (last :: rest).reverse)

/-- Take in one byte of a line. -/
def take (splitter : LineSplitter) (byte : UInt8) : LineSplitter :=
  if splitter.discarding then splitter
  else if longestLine < splitter.length + 1 then ⟨[], 0, true⟩
  else ⟨byte :: splitter.pending, splitter.length + 1, false⟩

/-- Take in a chunk of bytes. The answer is the lines that end in it. -/
def push : LineSplitter → List UInt8 → LineSplitter × List String
  | splitter, [] => (splitter, [])
  | splitter, byte :: rest =>
      if byte = lineFeed then
        let done := push start rest
        (done.1, if splitter.discarding then done.2 else lineText splitter.pending :: done.2)
      else push (splitter.take byte) rest

end LineSplitter

end MetricsDaemon
