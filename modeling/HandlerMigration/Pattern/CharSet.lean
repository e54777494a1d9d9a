import HandlerMigration.Unicode.Blank
import HandlerMigration.Unicode.Fold

/-!
# Sets of characters

A set is a description that can be tested for a character.
-/

namespace HandlerMigration

inductive CharSet where
  /-- The listed characters. -/
  | chars (cs : List Char)
  /-- A range, both ends included. -/
  | range (low high : Char)
  | blank
  | word
  | digit
  | table (ranges : Unicode.Table)
  | compl (s : CharSet)
  | union (s t : CharSet)
  | inter (s t : CharSet)
  /-- A set with the characters that differ from its members in case only. -/
  | anyCase (s : CharSet)
deriving Repr

namespace CharSet

def has : CharSet → Char → Bool
  | chars cs, c => cs.contains c
  | range low high, c => low ≤ c && c ≤ high
  | blank, c => isBlank c
  | word, c => Unicode.isWord c
  | digit, c => Unicode.isDigit c
  | table ranges, c => ranges.has c
  | compl s, c => !s.has c
  | union s t, c => s.has c || t.has c
  | inter s t, c => s.has c && t.has c
  | anyCase s, c => s.has c || (Unicode.variants c).any fun d => s.has d

def none : CharSet := chars []

def any : CharSet := compl none

/-- All characters but the listed ones. -/
def except (cs : List Char) : CharSet := compl (chars cs)

end CharSet

end HandlerMigration
