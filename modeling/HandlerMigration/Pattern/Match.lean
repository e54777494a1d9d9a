import HandlerMigration.Pattern.Flow

/-!
# Matching

`Pattern.run` tries the pieces that a pattern admits at a position, the preferred ones first, and
hands each end to a continuation until that succeeds. A search takes the leftmost position at which
a pattern admits a piece, and there the piece that the pattern prefers.
-/

namespace HandlerMigration

namespace Pattern

variable {α : Type}

/-- A way to go from a position to one behind it that a continuation accepts. -/
abbrev Step (α : Type) := (Cursor → Option α) → Cursor → Option α

/-- `step` taken `n` times. -/
def times (step : Step α) : Nat → Step α
  | 0, k => k
  | n + 1, k => step (times step n k)

/-- `step` taken at most `n` times. -/
def atMost (step : Step α) (greedy : Bool) : Nat → Step α
  | 0, k => k
  | n + 1, k => fun cur =>
    prefer greedy (fun _ => step (atMost step greedy n k) cur) (fun _ => k cur)

/-- The first answer of the continuation `k` on the ends of the pieces that the pattern admits at a
position. `bound` is at least the number of characters that follow. -/
def run (bound : Nat) : Pattern → Step α
  | empty, k => k
  | lit s, k => fun cur => (cur.skip? s).bind k
  | one set, k => fun cur =>
    match cur.rest with
    | [] => none
    | c :: rest => if set.has c then k (cur.advance c rest) else none
  | many set least most greedy, k => fun cur =>
    let ends := (Cursor.reach set cur.offset cur.last cur.groups most cur.rest).drop least
    (if greedy then ends.reverse else ends).findSome? k
  | seq p q, k => run bound p (run bound q k)
  | alt p q, k => fun cur => (run bound p k cur).orElse fun _ => run bound q k cur
  | rep p least none greedy, k => fun cur =>
    ((p.flow.repeated greedy least none).run bound 0 fun walk => k walk.cur) ⟨cur, []⟩
  | rep p least (some m) greedy, k =>
    times (run bound p) least (atMost (run bound p) greedy (m - least) k)
  | look b, k => fun cur => if b.holds cur.last cur.rest.head? then k cur else none
  | group index p, k => fun cur =>
    run bound p (fun next =>
      k { next with groups := (index, ⟨cur.offset, next.offset⟩) :: next.groups }) cur

/-- The end of the preferred piece at a position. -/
def endAt (p : Pattern) (bound : Nat) (cur : Cursor) : Option Cursor := p.run bound some cur

/-- The leftmost match from an offset on: where it starts, and the position at its end. -/
def search (p : Pattern) (bound : Nat) (offset : Nat) (last : Option Char) :
    Text → Option (Nat × Cursor)
  | [] => (p.endAt bound ⟨offset, last, [], []⟩).map fun stop => (offset, stop)
  | c :: rest =>
    match p.endAt bound ⟨offset, last, c :: rest, []⟩ with
    | some stop => some (offset, stop)
    | none => search p bound (offset + c.utf8Size) (some c) rest

end Pattern

/-- A piece of a text that a pattern admits, with the groups by number. -/
structure Match where
  span : Span
  groups : List (Nat × Span)
deriving DecidableEq, Repr

namespace Match

def ofEnds (ends : Nat × Cursor) : Match := ⟨⟨ends.1, ends.2.offset⟩, ends.2.groups⟩

/-- The span of a group. -/
def group? (m : Match) (index : Nat) : Option Span := m.groups.lookup index

end Match

namespace Pattern

/-- The leftmost match. -/
def find? (p : Pattern) (t : Text) : Option Match :=
  (p.search t.length 0 none t).map Match.ofEnds

/-- Whether the pattern admits a piece of the text. -/
def occursIn (p : Pattern) (t : Text) : Bool := (p.find? t).isSome

/-- The next match behind one that ended at `lastEnd`. An empty match does not follow there at once:
the search then goes on behind the next character. -/
def searchNext (p : Pattern) (bound : Nat) (lastEnd : Option Nat) (cur : Cursor) :
    Option (Nat × Cursor) :=
  match p.search bound cur.offset cur.last cur.rest with
  | none => none
  | some (start, stop) =>
    if start = stop.offset ∧ lastEnd = some start then
      match cur.rest with
      | [] => none
      | c :: rest => p.search bound (cur.offset + c.utf8Size) (some c) rest
    else some (start, stop)

/-- The matches from a position on, at most `count` of them. -/
def searchAll (p : Pattern) (bound : Nat) : (count : Nat) → Option Nat → Cursor → List Match
  | 0, _, _ => []
  | n + 1, lastEnd, cur =>
    match p.searchNext bound lastEnd cur with
    | none => []
    | some ends => Match.ofEnds ends :: searchAll p bound n (some ends.2.offset) ends.2

/-- The matches from left to right, without overlap. -/
def findAll (p : Pattern) (t : Text) : List Match :=
  p.searchAll t.length (t.length + 1) none (Cursor.start t)

end Pattern

end HandlerMigration
