/-!
# Tables of characters

A set of characters as a list of ranges of code points. In a source text such a table is written as
a sequence of numbers: in turn how many code points are left out, and how many more than one are taken.
-/

namespace HandlerMigration.Unicode

/-- Ranges of code points, both ends included. -/
abbrev Table := List (Nat × Nat)

namespace Table

def has (table : Table) (c : Char) : Bool :=
  table.any fun range => range.1 ≤ c.toNat && c.toNat ≤ range.2

/-- The ranges that a list of gaps and lengths describes, from code point `next` on. -/
def ofGaps (next : Nat) : List Nat → Table
  | gap :: more :: rest => (next + gap, next + gap + more) :: ofGaps (next + gap + more + 1) rest
  | _ => []

/-- The decimal numbers of a text; `current` is the number being read. -/
def numbers (current : Option Nat) : List Char → List Nat
  | [] => current.toList
  | c :: cs =>
    if c.isDigit then numbers (some (current.getD 0 * 10 + (c.toNat - '0'.toNat))) cs
    else current.toList ++ numbers none cs

/-- The table that a text of numbers describes. -/
def read (gaps : String) : Table := ofGaps 0 (numbers none gaps.toList)

end Table

end HandlerMigration.Unicode
