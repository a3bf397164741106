import MetricsDaemon.Handle
import MetricsDaemon.Table
import MetricsDaemon.Text.Blank

/-!
# Display layouts

A layout refers to variables by `$name` or by a name after an opening brace; a doubled
dollar sign is an escape. Only the names that the layout mentions are worth registering.
-/

namespace MetricsDaemon

namespace Layout

/-- Whether a character can begin a variable name. -/
def isNameStart (c : Char) : Bool := c.isAlpha || c == '_'

/-- Whether a character can stand inside a variable name. -/
def isNameChar (c : Char) : Bool := c.isAlphanum || c == '_'

/-- The longest variable name at the front of a text; empty if there is none. -/
def leadingName : List Char → List Char
  | [] => []
  | c :: rest => if isNameStart c then c :: rest.takeWhile isNameChar else []

/-- The reference that begins at a dollar sign, given the text after it: the name, and how many
characters it takes up. -/
def referenceAfterDollar : List Char → Option (List Char × Nat)
  | [] => none
  | c :: rest =>
      if c = '$' then some ([], 1)
      else if c = '\x7b' then
        let name := leadingName (Text.dropLeading rest)
        if name = [] then none
        else some (name, 1 + (rest.takeWhile Text.isBlank).length + name.length)
      else
        let name := leadingName (c :: rest)
        if name = [] then none else some (name, name.length)

/-- The names that a text refers to, from left to right; `skip` characters belong to a reference
that was already found. -/
def scan : Nat → List Char → List (List Char)
  | _, [] => []
  | skip + 1, _ :: rest => scan skip rest
  | 0, c :: rest =>
      if c = '$' then
        match referenceAfterDollar rest with
        | some (name, length) => if name = [] then scan length rest else name :: scan length rest
        | none => scan 0 rest
      else scan 0 rest

/-- The distinct names that a layout text refers to. -/
def references (text : String) : List String := ((scan 0 text.toList).map String.ofList).eraseDups

end Layout

/-- What decides which variables are registered: everything, or the names that a layout mentions. A
layout also remembers the variable that was last registered under each name. -/
inductive Layout where
  | everything
  | template (names : List String) (bound : Table String VariableId)

namespace Layout

/-- The layout with a given text. -/
def parse (text : String) : Layout := .template (references text) .empty

/-- The number of distinct names that the layout mentions. -/
def mentionCount : Layout → Nat
  | .everything => 0
  | .template names _ => names.length

/-- Whether a variable of this name is worth registering. -/
def mentions : Layout → String → Bool
  | .everything, _ => true
  | .template names _, name => names.contains name

/-- Remember the variable that was registered under a name. -/
def bind (layout : Layout) (name : String) (id : VariableId) : Layout :=
  match layout with
  | .everything => .everything
  | .template names bound => .template names (bound.put name id)

/-- The variable that was last registered under a name. -/
def bound? : Layout → String → Option VariableId
  | .everything, _ => none
  | .template _ bound, name => bound.get? name

end Layout

end MetricsDaemon
