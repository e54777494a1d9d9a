import HandlerMigration.Handler.Policy
import HandlerMigration.Pattern.Match
import HandlerMigration.Text.Edit

/-!
# Steps of a migration

A step looks at the text of a handler and may answer with a new text. In its notes it accounts for
what it did, for what it left alone, and for what it could not do.
-/

namespace HandlerMigration

/-- The two places of a handler that a user can describe by patterns. -/
structure Anchors where
  /-- The head of the function that handles a request. -/
  entryPoint : Pattern
  /-- The import behind which new imports go. -/
  serverImport : Pattern

/-- What a migration knows about the handler apart from its text. -/
structure Context where
  /-- The name of the function. -/
  name : String
  policy : Policy
  anchors : Anchors

inductive Outcome where
  | applied
  | skipped
  | warning
deriving DecidableEq, Repr

def Outcome.label : Outcome → String
  | applied => "applied"
  | skipped => "skipped"
  | warning => "warning"

/-- The answer of a step. -/
structure Output where
  /-- The new text, if there is one. -/
  text? : Option Text
  notes : List (Outcome × String)
deriving DecidableEq, Repr

namespace Output

/-- Nothing was to be done. -/
def skip (message : String) : Output := ⟨none, [(.skipped, message)]⟩

/-- Nothing could be done. -/
def warn (message : String) : Output := ⟨none, [(.warning, message)]⟩

/-- A new text, with an account of what was done. -/
def change (t : Text) (messages : List String) : Output :=
  ⟨some t, messages.map fun message => (.applied, message)⟩

end Output

/-- An answer that depends on cutting the text at an offset. -/
def Fault.unlessCut {α : Type} : Option α → Except Fault α
  | some a => .ok a
  | none => .error .noSuchOffset

end HandlerMigration
