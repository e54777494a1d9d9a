import HandlerMigration.Text.Basic

/-!
# Edit scripts

A script turns one sequence of lines into another by keeping, deleting and inserting runs of lines.
`Script.between` finds a shortest one: it looks for a point on the middle of a shortest path through
the grid of both sequences, from both ends at once, and goes on with the two halves.
-/

namespace HandlerMigration.Diff

/-- What happens to a run of lines. -/
inductive Kind where
  | keep
  | delete
  | insert
deriving DecidableEq, Repr

/-- A run of lines, at its place in both sequences. -/
structure Run where
  kind : Kind
  old : Nat
  new : Nat
  length : Nat
deriving DecidableEq, Repr

/-- The number of old lines in a run. -/
def Run.oldLength (r : Run) : Nat := if r.kind = .insert then 0 else r.length

/-- The number of new lines in a run. -/
def Run.newLength (r : Run) : Nat := if r.kind = .delete then 0 else r.length

abbrev Script := List Run

/-- Two sequences of lines. -/
structure Sides where
  old : Array Text
  new : Array Text

/-- A part of the grid of both sequences: some old lines and some new ones. -/
structure Box where
  oldStart : Nat
  oldStop : Nat
  newStart : Nat
  newStop : Nat
deriving DecidableEq, Repr

namespace Box

def oldLength (b : Box) : Nat := b.oldStop - b.oldStart

def newLength (b : Box) : Nat := b.newStop - b.newStart

end Box

namespace Sides

def whole (s : Sides) : Box := ⟨0, s.old.size, 0, s.new.size⟩

def same (s : Sides) (i j : Nat) : Bool := s.old[i]? == s.new[j]?

/-- The number of equal lines, at most `count`, from two places on. -/
def ahead (s : Sides) (i j : Nat) : (count : Nat) → Nat
  | 0 => 0
  | count + 1 => if s.same i j then s.ahead (i + 1) (j + 1) count + 1 else 0

/-- The number of equal lines, at most `count`, before two places. -/
def behind (s : Sides) (i j : Nat) : (count : Nat) → Nat
  | 0 => 0
  | count + 1 =>
    if s.same (i - 1) (j - 1) then s.behind (i - 1) (j - 1) count + 1 else 0

/-- The number of lines with which both sides of a box start. -/
def commonStart (s : Sides) (b : Box) : Nat :=
  s.ahead b.oldStart b.newStart (min b.oldLength b.newLength)

/-- The number of lines with which both sides of a box end. -/
def commonEnd (s : Sides) (b : Box) : Nat :=
  s.behind b.oldStop b.newStop (min b.oldLength b.newLength)

end Sides

/-! ### The middle of a shortest path -/

/-- How far along the old lines each diagonal has been reached, with an offset for negative ones. -/
structure Reach where
  offset : Nat
  values : Array Nat

namespace Reach

def start (offset : Nat) : Reach := ⟨offset, Array.replicate (2 * offset + 2) 0⟩

def get (r : Reach) (k : Int) : Nat := r.values.getD (k + r.offset).toNat 0

def set (r : Reach) (k : Int) (value : Nat) : Reach :=
  { r with values := r.values.setIfInBounds (k + r.offset).toNat value }

/-- How far a path with `d` changes gets on a diagonal before it follows equal lines. -/
def next (r : Reach) (d k : Int) : Nat :=
  if k = -d || (k != d && r.get (k - 1) < r.get (k + 1)) then r.get (k + 1) else r.get (k - 1) + 1

end Reach

/-- The diagonals that paths with `d` changes end on, the last first. -/
def diagonals (d : Nat) : List Int := (List.range (d + 1)).map fun (i : Nat) => (d : Int) - 2 * (i : Int)

/-- Extends the paths from the start of a box to `d` changes, diagonal by diagonal; on the left the
place where a path meets one from the end. -/
def forward (s : Sides) (b : Box) (d : Nat) (back : Reach) : List Int → Reach → (Nat × Nat) ⊕ Reach
  | [], front => .inr front
  | k :: ks, front =>
    let delta : Int := (b.oldLength : Int) - b.newLength
    let x := front.next d k
    let y := ((x : Int) - k).toNat
    let x' := x + s.ahead (b.oldStart + x) (b.newStart + y) (min (b.oldLength - x) (b.newLength - y))
    let front := front.set k x'
    if delta % 2 != 0 && (k - delta).natAbs + 1 ≤ d && x' + back.get (delta - k) ≥ b.oldLength then
      .inl (b.oldStart + x, b.newStart + y)
    else forward s b d back ks front

/-- Extends the paths from the end of a box, as `forward` does from its start. -/
def backward (s : Sides) (b : Box) (d : Nat) (front : Reach) : List Int → Reach → (Nat × Nat) ⊕ Reach
  | [], back => .inr back
  | k :: ks, back =>
    let delta : Int := (b.oldLength : Int) - b.newLength
    let x := back.next d k
    let y := ((x : Int) - k).toNat
    let count := s.behind (b.oldStop - x) (b.newStop - y) (min (b.oldLength - x) (b.newLength - y))
    let back := back.set k (x + count)
    if delta % 2 == 0 && (k - delta).natAbs ≤ d &&
        x + count + front.get (delta - k) ≥ b.oldLength then
      .inl (b.oldStop - (x + count), b.newStop - (y + count))
    else backward s b d front ks back

/-- Looks for the middle of a shortest path with at least `d` changes from each end. -/
def middleFrom (s : Sides) (b : Box) : (count d : Nat) → (front back : Reach) → Option (Nat × Nat)
  | 0, _, _, _ => none
  | count + 1, d, front, back =>
    match forward s b d back (diagonals d) front with
    | .inl place => some place
    | .inr front =>
      match backward s b d front (diagonals d) back with
      | .inl place => some place
      | .inr back => middleFrom s b count (d + 1) front back

/-- A place on the middle of a shortest path through a box whose sides are not empty. -/
def middle (s : Sides) (b : Box) : Option (Nat × Nat) :=
  let most := (b.oldLength + b.newLength + 1) / 2 + 1
  middleFrom s b most 0 (.start most) (.start most)

/-! ### Scripts -/

namespace Script

/-- A run, unless it is empty. -/
def unlessEmpty (r : Run) : Script := if r.length = 0 then [] else [r]

/-- The script of a box. The first argument is at least the number of lines in it. -/
def ofBox (s : Sides) : Nat → Box → Script
  | 0, _ => []
  | n + 1, b =>
    let first := s.commonStart b
    let b' : Box := { b with oldStart := b.oldStart + first, newStart := b.newStart + first }
    let last := s.commonEnd b'
    let rest : Box := { b' with oldStop := b'.oldStop - last, newStop := b'.newStop - last }
    let deletion := unlessEmpty ⟨.delete, rest.oldStart, rest.newStart, rest.oldLength⟩
    let insertion := unlessEmpty ⟨.insert, rest.oldStart, rest.newStart, rest.newLength⟩
    let between :=
      if rest.oldLength = 0 || rest.newLength = 0 then deletion ++ insertion
      else
        match middle s rest with
        | some (x, y) =>
          ofBox s n { rest with oldStop := x, newStop := y } ++
          ofBox s n { rest with oldStart := x, newStart := y }
        | none => deletion ++ insertion
    unlessEmpty ⟨.keep, b.oldStart, b.newStart, first⟩ ++ between ++
      unlessEmpty ⟨.keep, rest.oldStop, rest.newStop, last⟩

/-- A shortest script. -/
def between (s : Sides) : Script := ofBox s (s.old.size + s.new.size + 1) s.whole

end Script

end HandlerMigration.Diff
