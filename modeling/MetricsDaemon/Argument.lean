import MetricsDaemon.Number.Reader
import MetricsDaemon.Number.Shortest
import MetricsDaemon.Text.Blank
import MetricsDaemon.TypeTag

/-!
# Arguments

A subscription carries its argument as text. Before a method is called the text is
brought to the kind of argument that the method takes; a missing or unreadable number
is passed as minus one.
-/

namespace MetricsDaemon

open Number (Binary)

/-- The argument that a method receives. -/
inductive Argument where
  | none
  | string (s : String)
  | integer (n : Int)
  | double (x : Binary)
  deriving DecidableEq, Repr

namespace Argument

/-- Bring the text of an argument to the kind that a method takes. -/
def coerce (kind : ArgumentKind) (raw : Option String) : Argument :=
  match kind with
  | .none => .none
  | .string => .string (raw.getD "")
  | .integer =>
      .integer ((raw.bind fun s => Number.readInt64? (Text.strip s.toList)).getD (-1))
  | .double =>
      .double ((raw.bind fun s => Number.readDouble? (Text.strip s.toList)).getD
        (.ofInt Number.double (-1)))

/-- The kind of an argument. -/
def kind : Argument → ArgumentKind
  | .none => .none
  | .string _ => .string
  | .integer _ => .integer
  | .double _ => .double

/-- An argument with its kind, as call logs show it. -/
def labelled : Argument → String
  | .none => "-"
  | .string s => "s:" ++ s
  | .integer n => "i:" ++ Number.showInt n
  | .double x => "d:" ++ Number.showDouble x

/-- The text of an argument alone. -/
def text : Argument → String
  | .none => ""
  | .string s => s
  | .integer n => Number.showInt n
  | .double x => Number.showDouble x

/-- A raw argument always becomes one of the kind that was asked for. -/
@[simp] theorem kind_coerce (kind : ArgumentKind) (raw : Option String) :
    (coerce kind raw).kind = kind := by
  cases kind <;> rfl

/-- A missing argument and an empty one reach every method alike. -/
theorem coerce_empty (kind : ArgumentKind) : coerce kind (some "") = coerce kind Option.none := by
  cases kind <;> rfl

end Argument

end MetricsDaemon
