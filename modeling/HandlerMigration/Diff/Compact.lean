import HandlerMigration.Diff.Script

/-!
# Compact scripts

Inserted lines that repeat the kept lines around them can slide over these. Each insertion slides up
and then down as far as it can, and merges with what it meets, so that changes come together.
-/

namespace HandlerMigration.Diff

/-- A script with a run in the middle of attention; `before` has the nearest run first. -/
structure Focus where
  before : List Run
  run : Run
  after : List Run

namespace Run

def isEmpty (r : Run) : Bool := r.length = 0

/-- The number of lines at the end of a kept run that also end a run of new lines. -/
def repeatedEnd (s : Sides) (kept r : Run) : Nat :=
  s.behind (kept.old + kept.oldLength) (r.new + r.newLength) (min kept.oldLength r.newLength)

/-- The number of lines at the start of a kept run that also start a run of new lines. -/
def repeatedStart (s : Sides) (kept r : Run) : Nat :=
  s.ahead kept.old r.new (min kept.oldLength r.newLength)

end Run

namespace Focus

def script (f : Focus) : Script := f.before.reverse ++ f.run :: f.after

/-- Moves `count` lines of the kept run above to below. -/
def slideUp (kept : Run) (before : List Run) (r : Run) (after : List Run) (count : Nat) : Focus :=
  let after := match after with
    | next :: rest =>
      if next.kind = .keep then
        ⟨.keep, next.old - count, next.new - count, next.length + count⟩ :: rest
      else ⟨.keep, kept.old + kept.length - count, r.new + r.newLength - count, count⟩ :: after
    | [] => [⟨.keep, kept.old + kept.length - count, r.new + r.newLength - count, count⟩]
  let kept := { kept with length := kept.length - count }
  ⟨if kept.isEmpty then before else kept :: before,
    { r with old := r.old - count, new := r.new - count }, after⟩

/-- Moves `count` lines of the kept run below to above. -/
def slideDown (before : List Run) (r kept : Run) (after : List Run) (count : Nat) : Focus :=
  let before := match before with
    | last :: rest =>
      if last.kind = .keep then { last with length := last.length + count } :: rest
      else ⟨.keep, kept.old, r.new, count⟩ :: before
    | [] => [⟨.keep, kept.old, r.new, count⟩]
  let kept : Run := ⟨.keep, kept.old + count, kept.new + count, kept.length - count⟩
  ⟨before, { r with old := r.old + count, new := r.new + count },
    if kept.isEmpty then after else kept :: after⟩

/-- Moves the change in focus up as far as it goes. The first argument bounds the number of moves. -/
def up (s : Sides) : Nat → Focus → Focus
  | 0, f => f
  | n + 1, f =>
    match f.before with
    | [] => f
    | last :: before =>
      if last.kind = .keep then
        let count := last.repeatedEnd s f.run
        if count > 0 then up s n (slideUp last before f.run f.after count)
        else if last.isEmpty then up s n { f with before := before }
        else f
      else if last.kind = f.run.kind then
        up s n ⟨before, { last with length := last.length + f.run.length }, f.after⟩
      else up s n ⟨before, f.run, last :: f.after⟩

/-- Moves the change in focus down as far as it goes. -/
def down (s : Sides) : Nat → Focus → Focus
  | 0, f => f
  | n + 1, f =>
    match f.after with
    | [] => f
    | next :: after =>
      if next.kind = .keep then
        let count := next.repeatedStart s f.run
        if count > 0 then down s n (slideDown f.before f.run next after count)
        else if next.isEmpty then down s n { f with after := after }
        else f
      else if next.kind = f.run.kind then
        down s n ⟨f.before, { f.run with length := f.run.length + next.length }, after⟩
      else down s n ⟨next :: f.before, f.run, after⟩

end Focus

namespace Script

/-- Moves the changes of one kind in `rest`, which follows `before`, the nearest run first. `moves`
bounds the moves of one change and the first argument the number of runs that are looked at. -/
def settleFrom (s : Sides) (kind : Kind) (moves : Nat) : Nat → List Run → List Run → Script
  | 0, before, rest => before.reverse ++ rest
  | _, before, [] => before.reverse
  | n + 1, before, r :: rest =>
    if r.kind = kind then
      let f := Focus.down s moves (Focus.up s moves ⟨before, r, rest⟩)
      settleFrom s kind moves n (f.run :: f.before) f.after
    else settleFrom s kind moves n (r :: before) rest

/-- Moves the changes of one kind together. -/
def settle (s : Sides) (kind : Kind) (script : Script) : Script :=
  let lines := s.old.size + s.new.size + script.length + 1
  settleFrom s kind lines (lines * lines) [] script

/-- Moves deletions, then insertions. -/
def compact (s : Sides) (script : Script) : Script := settle s .insert (settle s .delete script)

end Script

end HandlerMigration.Diff
