import HandlerMigration.Pattern.CharSet

/-!
# Patterns

A pattern describes pieces of a text. Where it admits more than one piece it prefers some to others:
the first branch of an alternative, and the longest or the shortest repetition.
-/

namespace HandlerMigration

/-- A condition on the characters around a position. -/
inductive Boundary where
  | textStart
  | textEnd
  | lineStart
  /-- In front of a newline or at the end of the text. -/
  | lineEnd
  /-- As `lineStart`, where a carriage return, a newline or both together end a line. -/
  | wideLineStart
  /-- As `lineEnd`, where a carriage return, a newline or both together end a line. -/
  | wideLineEnd
  /-- A word character on exactly one side. -/
  | word (isWord : Char → Bool)
  | notWord (isWord : Char → Bool)
  /-- A word character behind the position and none in front of it. -/
  | wordStart (isWord : Char → Bool)
  | wordEnd (isWord : Char → Bool)
  /-- No word character in front of the position. -/
  | afterNonWord (isWord : Char → Bool)
  | beforeNonWord (isWord : Char → Bool)

namespace Boundary

/-- Whether a boundary lies between the characters `last` and `next`. -/
def holds (b : Boundary) (last next : Option Char) : Bool :=
  match b with
  | textStart => last.isNone
  | textEnd => next.isNone
  | lineStart => last.isNone || last == some '\n'
  | lineEnd => next.isNone || next == some '\n'
  | wideLineStart =>
    last.isNone || last == some '\n' || (last == some '\r' && next != some '\n')
  | wideLineEnd =>
    next.isNone || next == some '\r' || (next == some '\n' && last != some '\r')
  | word w => last.any w != next.any w
  | notWord w => last.any w == next.any w
  | wordStart w => !last.any w && next.any w
  | wordEnd w => last.any w && !next.any w
  | afterNonWord w => !last.any w
  | beforeNonWord w => !next.any w

end Boundary

inductive Pattern where
  | empty
  /-- A fixed text. -/
  | lit (s : Text)
  | one (set : CharSet)
  /-- A run of characters of a set, at least `least` and, if there is a limit, at most `most`. -/
  | many (set : CharSet) (least : Nat) (most : Option Nat) (greedy : Bool)
  | seq (p q : Pattern)
  /-- The first pattern, or else the second. -/
  | alt (p q : Pattern)
  /-- A repetition with the bounds of `many`. -/
  | rep (p : Pattern) (least : Nat) (most : Option Nat) (greedy : Bool)
  | look (b : Boundary)
  /-- A piece whose span is reported under a number. -/
  | group (index : Nat) (p : Pattern)

namespace Pattern

instance : Append Pattern := ⟨seq⟩

/-- A pattern or nothing, and rather the pattern. -/
def opt (p : Pattern) : Pattern := alt p empty

def text (s : String) : Pattern := lit s.toList

/-- A run of characters of a set, as long as possible. -/
def manyOf (set : CharSet) : Pattern := many set 0 none true

/-- A run of at least one character of a set, as long as possible. -/
def someOf (set : CharSet) : Pattern := many set 1 none true

end Pattern

end HandlerMigration
