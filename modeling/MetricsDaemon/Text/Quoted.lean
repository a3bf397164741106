import MetricsDaemon.Text.CaseData
import MetricsDaemon.Text.ShapelessData

/-!
# Quoted texts

A text between double quotes, in which quotes, backslashes and characters without a
shape of their own are escaped.
-/

namespace MetricsDaemon.Text

/-- The spelling of one character inside a quoted text. -/
def quoteChar (c : Char) : List Char :=
  if c = '\x00' then ['\\', '0']
  else if c = '\t' then ['\\', 't']
  else if c = '\n' then ['\\', 'n']
  else if c = '\r' then ['\\', 'r']
  else if c = '"' then ['\\', '"']
  else if c = '\\' then ['\\', '\\']
  else if inRanges shapelessRanges c.toNat then
    ['\\', 'u', '\x7b'] ++ Nat.toDigits 16 c.toNat ++ ['\x7d']
  else [c]

/-- A text between double quotes. -/
def quoted (s : String) : String := String.ofList ('"' :: s.toList.flatMap quoteChar ++ ['"'])

end MetricsDaemon.Text
