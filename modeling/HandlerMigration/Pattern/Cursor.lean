import HandlerMigration.Pattern.Basic

/-!
# Positions

A position in a text, as the matcher sees it.
-/

namespace HandlerMigration

/-- A position in a text, and the groups that were matched on the way to it. -/
structure Cursor where
  offset : Nat
  /-- The character in front of the position. -/
  last : Option Char
  rest : Text
  /-- The groups by number, the latest first. -/
  groups : List (Nat × Span)
deriving DecidableEq, Repr

namespace Cursor

def start (t : Text) : Cursor := ⟨0, none, t, []⟩

/-- The position behind the next character `c`, which `rest` follows. -/
def advance (cur : Cursor) (c : Char) (rest : Text) : Cursor :=
  { cur with offset := cur.offset + c.utf8Size, last := some c, rest := rest }

/-- The position behind a fixed text. -/
def skip? (cur : Cursor) : Text → Option Cursor
  | [] => some cur
  | c :: s =>
    match cur.rest with
    | [] => none
    | d :: rest => if c = d then (cur.advance d rest).skip? s else none

/-- The positions that are reached over characters of a set, at most `limit` of them, the nearest
first. The position itself is the first. -/
def reach (set : CharSet) (offset : Nat) (last : Option Char) (groups : List (Nat × Span)) :
    (limit : Option Nat) → Text → List Cursor
  | _, [] => [⟨offset, last, [], groups⟩]
  | limit, c :: rest =>
    ⟨offset, last, c :: rest, groups⟩ ::
      if limit != some 0 && set.has c then
        reach set (offset + c.utf8Size) (some c) groups (limit.map (· - 1)) rest
      else []

end Cursor

end HandlerMigration
