import HandlerMigration.Text.Line

/-!
# Edits

An edit replaces a span of a text. A list of edits refers to offsets of one and the same text: it is
checked, sorted by position and applied from the back to the front, so that the offsets of the edits
that remain stay valid.
-/

namespace HandlerMigration

/-- Replace what lies from `start` to `stop`. -/
structure Edit where
  start : Nat
  stop : Nat
  replacement : Text
deriving DecidableEq, Repr

/-- Why a text cannot be edited. -/
inductive Fault where
  /-- An edit ends before it starts or behind the end of the text. -/
  | outOfBounds (start stop size : Nat)
  /-- An end of an edit lies inside a character. -/
  | insideCharacter (start stop : Nat)
  /-- Two edits share a part of the text. -/
  | overlap (first second : Span)
  /-- A text is cut at an offset that does not stand between two characters. -/
  | noSuchOffset
deriving DecidableEq, Repr

def Fault.message : Fault → String
  | .outOfBounds start stop size =>
    s!"Edit {start}..{stop} is outside the source text (length {size})"
  | .insideCharacter start stop => s!"Edit {start}..{stop} does not fall on a character boundary"
  | .overlap a b => s!"Edits ({a.start}, {a.stop}) and ({b.start}, {b.stop}) overlap"
  | .noSuchOffset => "Offset does not fall on a character boundary"

namespace Edit

def insert (offset : Nat) (text : Text) : Edit := ⟨offset, offset, text⟩

def delete (start stop : Nat) : Edit := ⟨start, stop, []⟩

def span (e : Edit) : Span := ⟨e.start, e.stop⟩

/-- Bounds come before character boundaries. -/
def check (t : Text) (e : Edit) : Except Fault Unit :=
  if e.start > e.stop || e.stop > t.size then .error (.outOfBounds e.start e.stop t.size)
  else if !t.isBoundary e.start || !t.isBoundary e.stop then
    .error (.insideCharacter e.start e.stop)
  else .ok ()

/-- The order by position: by start, and by end where two edits start together. -/
def le (a b : Edit) : Bool := a.start < b.start || (a.start == b.start && a.stop ≤ b.stop)

/-- The edits by position; edits of the same span keep their order. -/
def sort (edits : List Edit) : List Edit := edits.mergeSort le

/-- The first two neighbours of which the second starts before the first ends. -/
def firstOverlap : List Edit → Option (Span × Span)
  | a :: b :: rest => if b.start < a.stop then some (a.span, b.span) else firstOverlap (b :: rest)
  | _ => none

/-- The text with one span replaced. -/
def apply (e : Edit) (t : Text) : Except Fault Text :=
  match t.cut e.start, t.cut e.stop with
  | some (before, _), some (_, after) => .ok (before ++ e.replacement ++ after)
  | _, _ => .error .noSuchOffset

/-- The text with all edits made. The first edit at fault in the order given decides the error; a
shared part of the text is looked for only if no single edit is at fault. -/
def applyAll (t : Text) (edits : List Edit) : Except Fault Text := do
  edits.forM (check t)
  let sorted := sort edits
  match firstOverlap sorted with
  | some (a, b) => .error (.overlap a b)
  | none => sorted.foldrM apply t

/-- Whether a deletion behind this text also takes a blank line that follows: at the start of the
text, behind a blank line, and behind an opening brace. -/
def leavesBlank (before : Text) : Bool :=
  before.isEmpty || before.endsWith ['\n', '\n'] || before.endsWith ['\n', '\r', '\n'] ||
  (before.dropEndWhile fun c => c == ' ' || c == '\t' || c == '\r' || c == '\n').endsWith ['\x7b']

/-- The length of the blank line that a text starts with. -/
def blankLine : Text → Nat
  | '\n' :: _ => 1
  | '\r' :: '\n' :: _ => 2
  | _ => 0

/-- The deletion of the whole lines from `start` to `stop`. It takes one blank line that follows if
two blank lines in a row, or one right behind an opening brace, would be left. -/
def deleteLines (t : Text) (start stop : Nat) : Option Edit :=
  match t.cut start, t.cut stop with
  | some (before, _), some (_, after) =>
    some (delete start (stop + if leavesBlank before then blankLine after else 0))
  | _, _ => none

end Edit

end HandlerMigration
