import HandlerMigration.Pattern.Match

/-!
# Pieces of program text, and recognizers

The small patterns that the shapes of a handler are made of, and cascades of recognizers: the first
one that finds its shape decides.
-/

namespace HandlerMigration

namespace Piece

open Pattern

def blanks : Pattern := manyOf .blank

def someBlanks : Pattern := someOf .blank

/-- Spaces and tabs. -/
def margin : Pattern := manyOf (.chars [' ', '\t'])

def quote : Pattern := one (.chars ['\'', '"'])

def semicolon : Pattern := opt (text ";")

def comma : Pattern := opt (text ",")

def lineBreak : Pattern := opt (text "\r") ++ text "\n"

/-- The end of a line with its line break, or the end of the text. -/
def lineEnd : Pattern := alt lineBreak (look .lineEnd)

/-- The rest of a line behind a statement. -/
def statementEnd : Pattern := margin ++ semicolon ++ margin ++ lineEnd

/-- The start of a line with its margin. -/
def lineStart : Pattern := look .lineStart ++ margin

def wordBoundary : Pattern := look (.word Unicode.isWord)

def identifier : Pattern :=
  one (.union (.range 'A' 'Z') (.union (.range 'a' 'z') (.chars ['_', '$']))) ++
  manyOf (.union .word (.chars ['$']))

/-- A fixed text between quotes of either kind. -/
def quoted (s : String) : Pattern := quote ++ text s ++ quote

end Piece

/-- A way to find one shape in a text. -/
structure Recognizer (α : Type) where
  name : String
  find : Text → Option (Span × α)

/-- What a cascade found: by which recognizer, where, and what the shape holds. -/
structure Hit (α : Type) where
  recognizer : String
  span : Span
  holds : α
deriving DecidableEq, Repr

/-- The answer of the first recognizer that has one. -/
def firstHit {α : Type} (t : Text) (cascade : List (Recognizer α)) : Option (Hit α) :=
  cascade.findSome? fun r => (r.find t).map fun found => ⟨r.name, found.1, found.2⟩

/-- The leftmost place of a pattern, as the answer of a recognizer. -/
def Pattern.place (p : Pattern) (t : Text) : Option (Span × Unit) :=
  (p.find? t).map fun m => (m.span, ())

end HandlerMigration
