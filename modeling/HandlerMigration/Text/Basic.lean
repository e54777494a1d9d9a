/-!
# Texts and byte offsets

A text is a list of characters. Offsets into a text count the bytes of its UTF-8 form, so an offset
may lie behind the end or inside a character. `Text.cut` answers exactly at the offsets that stand
between two characters or at an end.
-/

namespace HandlerMigration

abbrev Text := List Char

/-- A half-open range of byte offsets. -/
structure Span where
  start : Nat
  stop : Nat
deriving DecidableEq, Repr

namespace Text

/-- The text of a string literal. -/
abbrev ofString (s : String) : Text := s.toList

/-- The number of bytes of a text in UTF-8. -/
def size : Text → Nat
  | [] => 0
  | c :: t => c.utf8Size + size t

/-- The parts of a text before and after a byte offset. There are none if the offset is behind the
end or inside a character. -/
def cut : Text → Nat → Option (Text × Text)
  | t, 0 => some ([], t)
  | [], _ + 1 => none
  | c :: t, n + 1 =>
    if n + 1 < c.utf8Size then none
    else (cut t (n + 1 - c.utf8Size)).map fun parts => (c :: parts.1, parts.2)

/-- Whether an offset stands between two characters or at an end of the text. -/
def isBoundary (t : Text) (offset : Nat) : Bool := (t.cut offset).isSome

/-- The text inside a span, empty if the span does not lie on character boundaries of the text. -/
def slice (t : Text) (s : Span) : Text :=
  match t.cut s.stop with
  | none => []
  | some (upTo, _) =>
    match upTo.cut s.start with
    | none => []
    | some (_, inside) => inside

def startsWith (t part : Text) : Bool := part.isPrefixOf t

def endsWith (t part : Text) : Bool := part.isSuffixOf t

/-- Whether `part` occurs in the text. -/
def contains : (t part : Text) → Bool
  | [], part => part.isEmpty
  | c :: t, part => part.isPrefixOf (c :: t) || contains t part

/-- The pieces of a text between the occurrences of a character. -/
def splitOn (mark : Char) : Text → List Text
  | [] => [[]]
  | c :: t =>
    if c = mark then [] :: splitOn mark t
    else
      match splitOn mark t with
      | [] => [[c]]
      | piece :: pieces => (c :: piece) :: pieces

/-- Drops the longest end of the text whose characters all satisfy `p`. -/
def dropEndWhile (p : Char → Bool) (t : Text) : Text := (t.reverse.dropWhile p).reverse

/-- Counts the occurrences of a part, from left to right and without overlap. `skip` is the number
of characters that still belong to the last occurrence. -/
def countFrom (part : Text) : Nat → Text → Nat
  | _, [] => 0
  | skip + 1, _ :: t => countFrom part skip t
  | 0, c :: t =>
    if part.isPrefixOf (c :: t) then countFrom part (part.length - 1) t + 1
    else countFrom part 0 t

/-- The number of occurrences of a non-empty part, from left to right and without overlap. -/
def count (t part : Text) : Nat := countFrom part 0 t

/-- Removes occurrences of a part; `skip` is as in `countFrom`. -/
def eraseFrom (part : Text) : Nat → Text → Text
  | _, [] => []
  | skip + 1, _ :: t => eraseFrom part skip t
  | 0, c :: t =>
    if part.isPrefixOf (c :: t) then eraseFrom part (part.length - 1) t
    else c :: eraseFrom part 0 t

/-- The text without the occurrences of a non-empty part, found from left to right. -/
def erase (t part : Text) : Text := eraseFrom part 0 t

end Text

end HandlerMigration
