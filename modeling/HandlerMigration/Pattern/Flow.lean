import HandlerMigration.Pattern.Cursor

/-!
# Loops

In a repetition without a limit a piece may be empty, and then the matcher comes back to where it has
been. A `Flow` is a pattern with its repetitions written out, up to the loops. Where it branches there is
a fork. The matcher keeps the forks that it has passed since the last character: a way that comes to
one of them again is given up, and the next one is tried.
-/

namespace HandlerMigration

/-- The first of two answers, or the second if it is preferred. -/
def Pattern.prefer {α : Type} (greedy : Bool) (more stop : Unit → Option α) : Option α :=
  if greedy then (more ()).orElse stop else (stop ()).orElse more

/-- A pattern with its repetitions written out. -/
inductive Flow where
  | lit (s : Text)
  | one (set : CharSet)
  | look (b : Boundary)
  | seq (f g : Flow)
  | alt (f g : Flow)
  /-- A loop with its fork behind a turn. -/
  | plus (f : Flow) (greedy : Bool)
  /-- A loop with its fork in front of a turn. -/
  | star (f : Flow) (greedy : Bool)
  | group (index : Nat) (f : Flow)

namespace Flow

/-- Whether the flow may take no character. -/
def nullable : Flow → Bool
  | lit s => s.isEmpty
  | one _ => false
  | look _ => true
  | seq f g => f.nullable && g.nullable
  | alt f g => f.nullable || g.nullable
  | plus f _ => f.nullable
  | star _ _ => true
  | group _ f => f.nullable

def optional (greedy : Bool) (f : Flow) : Flow := if greedy then alt f (lit []) else alt (lit []) f

/-- `n` pieces, and then `rest`. -/
def copies (f rest : Flow) : (n : Nat) → Flow
  | 0 => rest
  | n + 1 => seq f (copies f rest n)

def atMost (f : Flow) (greedy : Bool) : (n : Nat) → Flow
  | 0 => lit []
  | n + 1 => optional greedy (seq f (atMost f greedy n))

/-- A repetition. If its turns may be empty, whether to begin it is asked at a fork of its own: an empty
first turn leaves the loop. -/
def repeated (f : Flow) (greedy : Bool) : (least : Nat) → (most : Option Nat) → Flow
  | least, some m => copies f (atMost f greedy (m - least)) least
  | 0, none => if f.nullable then optional greedy (plus f greedy) else star f greedy
  | least + 1, none => copies f (plus f greedy) least

/-- The number of forks. -/
def forks : Flow → Nat
  | lit _ | one _ | look _ => 0
  | seq f g => f.forks + g.forks
  | alt f g => 1 + f.forks + g.forks
  | plus f _ | star f _ => 1 + f.forks
  | group _ f => f.forks

end Flow

/-- The flow of a pattern. -/
def Pattern.flow : Pattern → Flow
  | empty => .lit []
  | lit s => .lit s
  | one set => .one set
  | many set least most greedy =>
    if most.all (least ≤ ·) then (Flow.one set).repeated greedy least most else .one .none
  | seq p q => .seq p.flow q.flow
  | alt p q => .alt p.flow q.flow
  | rep p least most greedy => p.flow.repeated greedy least most
  | look b => .look b
  | group index p => .group index p.flow

/-- A position on the way through a flow. -/
structure Walk where
  cur : Cursor
  /-- The forks that were passed since the last character. -/
  passed : List Nat

namespace Walk

/-- The way goes on at a position. -/
def goTo (w : Walk) (next : Cursor) : Walk := ⟨next, if next.offset = w.cur.offset then w.passed else []⟩

/-- The way comes to a fork, and not again. -/
def pass? (w : Walk) (fork : Nat) : Option Walk :=
  if fork ∈ w.passed then none else some { w with passed := fork :: w.passed }

end Walk

namespace Flow

variable {α : Type}

/-- A way from a position through a flow to one that a continuation accepts. -/
abbrev Step (α : Type) := (Walk → Option α) → Walk → Option α

/-- From the fork of a loop on. The last argument bounds the number of times that the way comes to the fork; a
number above the length of the text is enough. -/
def turns (step : Step α) (fork : Nat) (greedy : Bool) : (limit : Nat) → Step α
  | 0, _ => fun _ => none
  | n + 1, k => fun w =>
    (w.pass? fork).bind fun w =>
      Pattern.prefer greedy (fun _ => step (turns step fork greedy n k) w) (fun _ => k w)

/-- The first answer of the continuation `k` on the ends of a flow. Its forks are numbered from `fork` on, and
`bound` is at least the number of characters that follow. -/
def run (bound : Nat) : Flow → (fork : Nat) → Step α
  | lit s, _, k => fun w => (w.cur.skip? s).bind fun next => k (w.goTo next)
  | one set, _, k => fun w =>
    match w.cur.rest with
    | [] => none
    | c :: rest => if set.has c then k (w.goTo (w.cur.advance c rest)) else none
  | look b, _, k => fun w => if b.holds w.cur.last w.cur.rest.head? then k w else none
  | seq f g, fork, k => run bound f fork (run bound g (fork + f.forks) k)
  | alt f g, fork, k => fun w =>
    (w.pass? fork).bind fun w =>
      (run bound f (fork + 1) k w).orElse fun _ => run bound g (fork + 1 + f.forks) k w
  | plus f greedy, fork, k =>
    run bound f (fork + 1) (turns (run bound f (fork + 1)) fork greedy (bound + 1) k)
  | star f greedy, fork, k => turns (run bound f (fork + 1)) fork greedy (bound + 1) k
  | group index f, fork, k => fun w =>
    run bound f fork (fun next =>
      k { next with cur := { next.cur with
        groups := (index, ⟨w.cur.offset, next.cur.offset⟩) :: next.cur.groups } }) w

end Flow

end HandlerMigration
