import HandlerMigration.Pattern.Written.Atom

/-!
# Patterns as they are written: sets in brackets

Sets may stand inside sets, and be combined by `&&`, `--` and `~~`. These bind less tightly than
writing items side by side, and from the left.
-/

namespace HandlerMigration.Written

/-- A way to combine two sets. -/
inductive SetOp where
  | intersection
  | difference
  | symmetricDifference
deriving DecidableEq, Repr

def SetOp.apply : SetOp → CharSet → CharSet → CharSet
  | intersection, s, t => .inter s t
  | difference, s, t => .inter s (.compl t)
  | symmetricDifference, s, t => .union (.inter s (.compl t)) (.inter t (.compl s))

/-- A set whose closing bracket has not been read yet. -/
structure OpenSet where
  negated : Bool
  /-- The left side of an operator, if there is one. -/
  left : Option (SetOp × CharSet)
  /-- The items so far. -/
  items : CharSet

namespace OpenSet

def add (o : OpenSet) (s : CharSet) : OpenSet := { o with items := .union o.items s }

/-- The set that has been read so far. -/
def value (f : Flags) (o : OpenSet) : CharSet :=
  match o.left with
  | none => o.items
  | some (op, s) => op.apply (f.cased s) (f.cased o.items)

/-- The set behind its closing bracket. Without Unicode, all but a set would not be characters. -/
def close (f : Flags) (o : OpenSet) : Option CharSet :=
  if !o.negated then some (f.cased (o.value f))
  else if f.unicode then some (.compl (f.cased (o.value f)))
  else none

end OpenSet

/-- The hyphens at the start of a set, which stand for themselves. The first argument is at least the
length of the text. -/
def leadingHyphens (f : Flags) : Nat → OpenSet → Text → Option (OpenSet × Text)
  | 0, _, _ => none
  | n + 1, o, t =>
    match t with
    | [] => none
    | '-' :: rest => leadingHyphens f n (o.add (.chars ['-'])) (f.skip rest)
    | t => some (o, t)

/-- A set behind its opening bracket. A closing bracket at the start stands for itself. -/
def openSet (f : Flags) (t : Text) : Option (OpenSet × Text) := do
  let t := f.skip t
  let (negated, t) := match t with
    | '^' :: rest => (true, f.skip rest)
    | t => (false, t)
  let empty : OpenSet := ⟨negated, none, .none⟩
  let (o, rest) ← leadingHyphens f (t.length + 1) empty t
  match t, rest with
  | ']' :: _, ']' :: rest =>
    let rest := f.skip rest
    if rest.isEmpty then none else some (o.add (.chars [']']), rest)
  | _, rest => some (o, rest)

/-- The ASCII classes that have a name. -/
def asciiClass? : String → Option CharSet
  | "alnum" => some (.union asciiLetters asciiDigits)
  | "alpha" => some asciiLetters
  | "ascii" => some ascii
  | "blank" => some (.chars ['\t', ' '])
  | "cntrl" => some (.union (.range '\x00' '\x1f') (.chars ['\x7f']))
  | "digit" => some asciiDigits
  | "graph" => some (.range '!' '~')
  | "lower" => some (.range 'a' 'z')
  | "print" => some (.range ' ' '~')
  | "punct" => some (.inter (.range '!' '~') (.compl (.union asciiLetters asciiDigits)))
  | "space" => some asciiBlanks
  | "upper" => some (.range 'A' 'Z')
  | "word" => some asciiWord
  | "xdigit" => some (.union asciiDigits (.union (.range 'a' 'f') (.range 'A' 'F')))
  | _ => none

/-- The name of an ASCII class behind `[:`, whether all but it is meant, and what follows `:]`. If
there is none, the bracket opens a set. -/
def asciiClassName? (t : Text) : Option (CharSet × Bool × Text) := do
  let (negated, t) := match t with
    | '^' :: rest => (true, rest)
    | t => (false, t)
  let name := t.takeWhile (· != ':')
  match t.drop name.length with
  | ':' :: ']' :: rest => return (← asciiClass? (String.ofList name), negated, rest)
  | _ => none

/-- An item of a set or an end of a range. -/
def setAtom (f : Flags) : Text → Option (Atom × Text)
  | [] => none
  | '\\' :: t => escape f t
  | c :: t => some (.char c false, t)

/-- A character that may stand in a set under the flags. -/
def Flags.admits (f : Flags) (c : Char) : Bool := f.unicode || c.toNat < 128

/-- The set that an item stands for. -/
def itemSet (f : Flags) : Atom → Option CharSet
  | .char c _ => if f.admits c then some (.chars [c]) else none
  | .set s => some s
  | .look _ => none

/-- An item or a range. -/
def setItem (f : Flags) (t : Text) : Option (CharSet × Text) := do
  let (first, t) ← setAtom f t
  match f.skip t with
  | [] => none
  | '-' :: rest =>
    match f.skip rest with
    | ']' :: _ | '-' :: _ => return (← itemSet f first, '-' :: rest)
    | rest => do
      let (second, rest) ← setAtom f rest
      match first, second with
      | .char low _, .char high _ =>
        if low ≤ high && f.admits low && f.admits high then some (.range low high, rest) else none
      | _, _ => none
  | t => return (← itemSet f first, t)

/-- What is left of a set whose brackets are open, the innermost first. The first argument is at
least the length of the text. -/
def restOfSet (f : Flags) : Nat → OpenSet → List OpenSet → Text → Option (CharSet × Text)
  | 0, _, _, _ => none
  | n + 1, o, outer, t =>
    match f.skip t with
    | [] => none
    | '[' :: rest =>
      let named := match rest with
        | ':' :: name => asciiClassName? name
        | _ => none
      match named with
      | some (s, negated, rest) => do
        let s ← OpenSet.close f ⟨negated, none, s⟩
        restOfSet f n (o.add s) outer rest
      | none => do
        let (inner, rest) ← openSet f rest
        restOfSet f n inner (o :: outer) rest
    | ']' :: rest => do
      let s ← o.close f
      match outer with
      | [] => some (s, rest)
      | o :: outer => restOfSet f n (o.add s) outer rest
    | '&' :: '&' :: rest => restOfSet f n ⟨o.negated, some (.intersection, o.value f), .none⟩ outer rest
    | '-' :: '-' :: rest => restOfSet f n ⟨o.negated, some (.difference, o.value f), .none⟩ outer rest
    | '~' :: '~' :: rest =>
      restOfSet f n ⟨o.negated, some (.symmetricDifference, o.value f), .none⟩ outer rest
    | t => do
      let (s, rest) ← setItem f t
      restOfSet f n (o.add s) outer rest

/-- A set behind its opening bracket. -/
def bracketedSet (f : Flags) (t : Text) : Option (CharSet × Text) := do
  let (o, rest) ← openSet f t
  restOfSet f (rest.length + 1) o [] rest

end HandlerMigration.Written
