import HandlerMigration.Diff.Compact

/-!
# Unified diffs

The changes between two texts, line by line, in groups with three lines around each change.
-/

namespace HandlerMigration.Diff

/-- Lines that both texts have, or a change of some lines for others. -/
structure Block where
  same : Bool
  old : Nat
  oldLength : Nat
  new : Nat
  newLength : Nat
deriving DecidableEq, Repr

namespace Block

def ofRun (r : Run) : Block := ⟨r.kind = .keep, r.old, r.oldLength, r.new, r.newLength⟩

/-- A block and a run of the same sort behind it. Where one of them deletes and the other inserts,
each side's place is that of the run that has lines on it. -/
def join (b : Block) (r : Run) : Block where
  same := b.same
  old := if b.oldLength = 0 && r.oldLength > 0 then r.old else b.old
  oldLength := b.oldLength + r.oldLength
  new := if b.newLength = 0 && r.newLength > 0 then r.new else b.new
  newLength := b.newLength + r.newLength

/-- The blocks of a script: neighbours of the same sort are one block. -/
def ofScriptFrom (b : Block) : Script → List Block
  | [] => [b]
  | r :: rest =>
    if b.same = decide (r.kind = .keep) then ofScriptFrom (b.join r) rest
    else b :: ofScriptFrom (ofRun r) rest

def ofScript : Script → List Block
  | [] => []
  | r :: rest => ofScriptFrom (ofRun r) rest

/-- The first lines of a block of lines that both texts have. -/
def take (b : Block) (count : Nat) : Block :=
  { b with oldLength := min count b.oldLength, newLength := min count b.newLength }

/-- The last lines of a block of lines that both texts have. -/
def takeLast (b : Block) (count : Nat) : Block :=
  let skipped := b.oldLength - count
  ⟨b.same, b.old + skipped, b.oldLength - skipped, b.new + skipped, b.newLength - skipped⟩

end Block

/-! ### Groups -/

/-- The number of lines around a change. -/
def context : Nat := 3

def trimFirst : List Block → List Block
  | b :: rest => if b.same then b.takeLast context :: rest else b :: rest
  | [] => []

def trimLast : List Block → List Block
  | [] => []
  | [b] => [if b.same then b.take context else b]
  | b :: rest => b :: trimLast rest

/-- Splits blocks in the middle of many lines that both texts have. `pending` is the group before
them, the last block first. -/
def groupsFrom (pending : List Block) : List Block → List (List Block)
  | [] =>
    match pending with
    | [] => []
    | [b] => if b.same then [] else [[b]]
    | _ => [pending.reverse]
  | b :: rest =>
    if b.same && b.oldLength > 2 * context then
      (b.take context :: pending).reverse :: groupsFrom [b.takeLast context] rest
    else groupsFrom (b :: pending) rest

def groups (blocks : List Block) : List (List Block) := groupsFrom [] (trimLast (trimFirst blocks))

/-! ### Writing -/

/-- A range of lines, counted from one. A single line has no length, and an empty range stands at the
line before it. -/
def range (start stop : Nat) : String :=
  let count := stop - start
  if count = 1 then s!"{start + 1}"
  else if count = 0 then s!"{start},0"
  else s!"{start + 1},{count}"

/-- The line above a group. -/
def groupHeader (group : List Block) : String :=
  match group.head?, group.getLast? with
  | some first, some last =>
    let old := range first.old (last.old + last.oldLength)
    let new := range first.new (last.new + last.newLength)
    s!"@@ -{old} +{new} @@\n"
  | _, _ => ""

def endsLine (line : Text) : Bool := line.getLast? == some '\n' || line.getLast? == some '\r'

/-- A line behind its mark. -/
def markedLine (mark : Char) (line : Text) : Text :=
  mark :: line ++ if endsLine line then [] else "\n\\ No newline at end of file\n".toList

def markedLines (mark : Char) (lines : Array Text) (start count : Nat) : Text :=
  ((lines.extract start (start + count)).toList.map (markedLine mark)).flatten

def blockLines (s : Sides) (b : Block) : Text :=
  if b.same then markedLines ' ' s.old b.old b.oldLength
  else markedLines '-' s.old b.old b.oldLength ++ markedLines '+' s.new b.new b.newLength

/-- The lines of a text with their ends, which are a line feed, a carriage return, or both. -/
def splitLines : Text → List Text
  | [] => []
  | '\r' :: '\n' :: t => ['\r', '\n'] :: splitLines t
  | c :: t =>
    if c = '\n' || c = '\r' then [c] :: splitLines t
    else
      match splitLines t with
      | [] => [[c]]
      | line :: lines => (c :: line) :: lines

/-- The unified diff of two texts of the file with the given path. -/
def unified (path : String) (old new : Text) : String :=
  let s : Sides := ⟨(splitLines old).toArray, (splitLines new).toArray⟩
  let hunks := groups (Block.ofScript ((Script.between s).compact s))
  if hunks.isEmpty then ""
  else
    let body := hunks.map fun group =>
      groupHeader group ++ String.ofList (group.map (blockLines s)).flatten
    s!"--- old/{path}\n+++ new/{path}\n" ++ String.join body

end HandlerMigration.Diff
