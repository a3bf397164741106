import MetricsDaemon.Provider.Declared

/-!
# Scripted providers

A provider whose methods are written down as data: a list of reactions that are played
one after the other, the last of them for ever, or an echo of the argument.
-/

namespace MetricsDaemon

/-- What a scripted method does when it is called. -/
inductive Behaviour where
  /-- Answer with the argument, labelled by its kind. -/
  | echo
  /-- Play a list of reactions; after its end the last one again and again. -/
  | sequence (reactions : List Reaction)

/-- A scripted provider. -/
structure Script where
  name : String
  offers : List Offer
  /-- Methods by name; of several with one name the last counts. -/
  methods : List (String × ArgumentKind × Behaviour)
  hook : Option Hook
  openPanics : Bool
  teardownPanics : Bool

namespace Script

/-- The reaction at a place of a list; past the end it is the last one, and an empty list answers
with the empty text. -/
def reactionAt (reactions : List Reaction) (index : Nat) : Reaction :=
  match reactions[index]? with
  | some reaction => reaction
  | none => reactions.getLastD ⟨[], some (.text "")⟩

/-- A scripted method. -/
def method (kind : ArgumentKind) (behaviour : Behaviour) : Method :=
  .direct kind fun earlier argument _ =>
    match behaviour with
    | .echo => ⟨[], some (.text argument.labelled)⟩
    | .sequence reactions => reactionAt reactions earlier

/-- The declarations of a script. -/
def declared (script : Script) : Declared :=
  { name := script.name
    provenance := .scripted
    offers := script.offers
    methods := script.methods.map fun entry => (entry.1, method entry.2.1 entry.2.2)
    hook := script.hook
    openPanics := script.openPanics
    teardownPanics := script.teardownPanics }

/-- The provider that plays a script. -/
def provider (script : Script) : Provider := script.declared.provider

end Script

end MetricsDaemon
