import MetricsDaemon.Provider.Basic

/-!
# Declared providers

A provider inside the process is a list of declarations: the variables it offers and
the methods behind them. A method is bound only to a variable whose type asks for the
kind of argument that the method takes.
-/

namespace MetricsDaemon

/-- A provider given by its declarations. -/
structure Declared where
  name : String
  provenance : Provenance
  offers : List Offer
  /-- Methods by name; of several with one name the last counts. -/
  methods : List (String × Method)
  hook : Option Hook
  openPanics : Bool
  teardownPanics : Bool

namespace Declared

/-- A variable whose method has the same name. -/
def variableOf (name : String) (timeout bits : Nat) : Offer :=
  ⟨name, name, timeout, .ofBits bits⟩

/-- The method of a name, if it takes the kind of argument that the type asks for. -/
def resolve (declared : Declared) (method : String) (type : TypeTag) : Except BindingError Method :=
  match (Table.ofList declared.methods).get? method with
  | none => .error (.unknownMethod declared.name method)
  | some code =>
      if code.kind = type.argumentKind then .ok code else .error (.signatureMismatch method)

/-- The provider with these declarations. -/
def provider (declared : Declared) : Provider :=
  { name := declared.name
    provenance := declared.provenance
    openPanics := declared.openPanics
    enrollment := ⟨declared.hook, declared.offers.map some, .ok⟩
    method := declared.resolve
    teardownPanics := declared.teardownPanics }

end Declared

end MetricsDaemon
