import HandlerMigration.Text.Basic

/-!
# Lines

A line ends just behind its newline. Each operation takes a byte offset and has no answer where the
text cannot be cut.
-/

namespace HandlerMigration.Text

/-- A text up to its first newline, with the newline. -/
def firstLine : Text → Text
  | [] => []
  | c :: t => if c = '\n' then [c] else c :: firstLine t

/-- The part of a text behind its last newline. -/
def lastLine (t : Text) : Text := (t.reverse.takeWhile fun c => c != '\n').reverse

def isMargin (c : Char) : Bool := c == ' ' || c == '\t'

/-- The spaces and tabs that a text starts with. -/
def margin (t : Text) : Text := t.takeWhile isMargin

/-- The offset at which the line around `offset` starts. -/
def lineStart (t : Text) (offset : Nat) : Option Nat :=
  (t.cut offset).map fun parts => parts.1.size - (lastLine parts.1).size

/-- The offset just behind the newline that ends the line around `offset`, or the end of the text. -/
def lineEnd (t : Text) (offset : Nat) : Option Nat :=
  (t.cut offset).map fun parts => offset + (firstLine parts.2).size

/-- The spaces and tabs at the start of the line around `offset`. -/
def marginAt (t : Text) (offset : Nat) : Option Text :=
  (t.cut offset).map fun parts => margin (lastLine parts.1 ++ parts.2)

/-- A line without the carriage return that may end it. -/
def dropReturn (line : Text) : Text := if line.getLast? = some '\r' then line.dropLast else line

/-- The lines of a text without their endings. A carriage return counts as part of the ending only
in front of a newline, and the empty rest behind a final newline is no line. -/
def lines (t : Text) : List Text :=
  let pieces := splitOn '\n' t
  let whole := pieces.dropLast.map dropReturn
  match pieces.getLast? with
  | none | some [] => whole
  | some rest => whole ++ [rest]

end HandlerMigration.Text
