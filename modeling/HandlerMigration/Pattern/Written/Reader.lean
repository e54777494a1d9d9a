import HandlerMigration.Pattern.Written.Set

/-!
# Reading a written pattern

`Pattern.ofString?` reads the notation of regular expressions without references to groups and
without conditions on the text around. Groups in it only hold parts together. A pattern that nests
too deeply or whose repetitions multiply to too large a size is refused.
-/

namespace HandlerMigration

namespace Written

/-- A repetition. One of a run of characters is a longer run, and an optional pattern is a choice. -/
def repeated (p : Pattern) (least : Nat) (most : Option Nat) (greedy : Bool) : Pattern :=
  match p, least, most, greedy with
  | .one set, least, most, greedy => .many set least most greedy
  | .lit [c], least, most, greedy => .many (.chars [c]) least most greedy
  | .many set 0 none true, _, none, true => .many set 0 none true
  | .many set 1 none true, 0, none, true => .many set 0 none true
  | .many set 1 none true, 1, none, true => .many set 1 none true
  | p, 0, some 1, true => .alt p .empty
  | p, 0, some 1, false => .alt .empty p
  | p, least, most, greedy => .rep p least most greedy

/-- A part of a sequence. -/
inductive Item where
  /-- A pattern and how deeply its parts are nested. -/
  | piece (p : Pattern) (depth : Nat)
  /-- Flags that were set; they match nothing and cannot be repeated. -/
  | flags

def Item.depth : Item → Nat
  | piece _ d => d
  | flags => 0

def Item.pattern : Item → Pattern
  | piece p _ => p
  | flags => .empty

/-- A sequence of items, given last item first. -/
def sequence : List Item → Item
  | [] => .piece .empty 0
  | [item] => .piece item.pattern item.depth
  | last :: items =>
    items.foldl (fun rest item =>
      .piece (match item, rest.pattern with
        | .flags, p => p
        | .piece p _, q => .seq p q) (max (item.depth + 1) rest.depth))
      (.piece last.pattern (last.depth + 1))

/-- Branches of an alternative, given last branch first. -/
def choice : List Item → Item
  | [] => .piece .empty 0
  | [item] => item
  | last :: branches =>
    branches.foldl (fun rest branch =>
      .piece (.alt branch.pattern rest.pattern) (max (branch.depth + 1) rest.depth))
      (.piece last.pattern (last.depth + 1))

/-- What is read of the group that is open: the items of the last branch and the branches before it,
the last first, and the flags of the text around the group. -/
structure OpenGroup where
  items : List Item
  branches : List Item
  flags : Flags

/-- The alternative that has been read of a group. -/
def OpenGroup.value (g : OpenGroup) : Item := choice (sequence g.items :: g.branches)

def OpenGroup.add (g : OpenGroup) (item : Item) : OpenGroup := { g with items := item :: g.items }

/-! ### Flags -/

/-- Sets or clears the flag of a letter. -/
def Flags.set (f : Flags) (value : Bool) : Char → Option Flags
  | 'i' => some { f with ignoreCase := value }
  | 'm' => some { f with multiLine := value }
  | 's' => some { f with dotAll := value }
  | 'U' => some { f with swapGreed := value }
  | 'u' => some { f with unicode := value }
  | 'R' => some { f with wideLines := value }
  | 'x' => some { f with verbose := value }
  | _ => none

/-- Flags up to a colon or a closing parenthesis, which is the first character left. No flag is named
twice, and a hyphen, which clears the flags behind it, stands once and not at the end. -/
def flagList (f : Flags) (seen : List Char) : Text → Option (Flags × List Char × Text)
  | [] => none
  | c :: t =>
    if c = ':' || c = ')' then if seen.head? = some '-' then none else some (f, seen, c :: t)
    else if seen.contains c then none
    else if c = '-' then flagList f (c :: seen) t
    else (f.set (!seen.contains '-') c).bind fun f => flagList f (c :: seen) t

/-! ### Groups -/

/-- The name of a group up to its closing angle bracket. -/
def groupName (isFirst : Bool) : Text → Option (Text × Text)
  | [] => none
  | c :: t =>
    if c = '>' then some ([], t)
    else if c = '_' || Unicode.isLetter c ||
        (!isFirst && (c == '.' || c == '[' || c == ']' || Unicode.isNumber c)) then
      (groupName false t).map fun parts => (c :: parts.1, parts.2)
    else none

/-- What an opening parenthesis starts. -/
inductive Opening where
  /-- A group, with the flags inside it and its name. -/
  | group (inside : Flags) (name : Option Text)
  /-- Flags for the rest of the group around. -/
  | flags (f : Flags)

/-- A group with a name, which stands first. -/
def namedGroup (f : Flags) (t : Text) : Option (Opening × Text) := do
  let (name, rest) ← groupName true t
  if name.isEmpty then none else some (.group f (some name), rest)

/-- What stands between an opening parenthesis and the inside of its group. -/
def opening (f : Flags) (t : Text) : Option (Opening × Text) :=
  match f.skip t with
  | '?' :: 'P' :: '<' :: t => namedGroup f t
  | '?' :: '<' :: t =>
    match t with
    | '=' :: _ | '!' :: _ => none
    | t => namedGroup f t
  | '?' :: t => do
    let (inside, seen, rest) ← flagList f [] t
    match rest with
    | ':' :: rest => some (.group inside none, rest)
    | ')' :: rest => if seen.isEmpty then none else some (.flags inside, rest)
    | _ => none
  | t => some (.group f none, t)

/-! ### Repetitions -/

/-- Decimal digits, with layout between and behind them dropped. The first argument is at least the
length of the text. -/
def digits (f : Flags) : Nat → Text → Text × Text
  | 0, t => ([], t)
  | n + 1, t =>
    match t with
    | [] => ([], [])
    | c :: rest =>
      if Unicode.isAsciiDigit c then
        let (cs, rest) := digits f n (f.skip rest)
        (c :: cs, rest)
      else ([], t)

/-- A number with blanks around it; it is none if there are no digits. -/
def decimal (f : Flags) (t : Text) : Option Nat × Text :=
  let t := t.dropWhile isBlank
  let (cs, rest) := digits f (t.length + 1) t
  let value := cs.foldl (fun n c => n * 10 + (c.toNat - '0'.toNat)) 0
  (if cs.isEmpty then none else some value, rest.dropWhile isBlank)

/-- The largest bound that a repetition may have. -/
def maxCount : Nat := 4294967295

/-- The bounds of a repetition behind its opening brace, and what follows the closing one. -/
def bounds (f : Flags) (t : Text) : Option (Nat × Option Nat × Text) := do
  let (first, t) := decimal f (f.skip t)
  let least ← first
  let (most, t) ←
    match t with
    | ',' :: t =>
      match f.skip t with
      | '}' :: _ => some (none, f.skip t)
      | t =>
        let (second, t) := decimal f t
        second.map fun most => (some most, t)
    | t => some (some least, t)
  match t with
  | '}' :: t =>
    if least ≤ maxCount && (most.getD least) ≤ maxCount && least ≤ most.getD least then
      some (least, most, t)
    else none
  | _ => none

/-- Repeats the last item of a group. -/
def repeatLast (f : Flags) (g : OpenGroup) (least : Nat) (most : Option Nat) (t : Text) :
    Option (OpenGroup × Text) :=
  match g.items with
  | .piece p depth :: items =>
    let (lazily, t) := match t with
      | '?' :: t => (true, t)
      | t => (false, t)
    let item := Item.piece (repeated p least most (lazily == f.swapGreed)) (depth + 1)
    some ({ g with items := item :: items }, t)
  | _ => none

/-! ### The whole -/

/-- A character under the flags. -/
def character (f : Flags) (c : Char) (byte : Bool) : Option Pattern :=
  if !f.unicode && byte && c.toNat ≥ 128 then none
  else if !f.ignoreCase then some (.lit [c])
  else if f.unicode then
    if (Unicode.variants c).isEmpty then some (.lit [c]) else some (.one (.anyCase (.chars [c])))
  else
    match Unicode.asciiVariant? c with
    | some d => some (.one (.chars [c, d]))
    | none => some (.lit [c])

def atomPattern (f : Flags) : Atom → Option Pattern
  | .char c byte => character f c byte
  | .set s => some (.one s)
  | .look b => some (.look b)

/-- What a dot matches. Without Unicode it would not match characters. -/
def dot (f : Flags) : Option Pattern :=
  if !f.unicode then none
  else if f.dotAll then some (.one .any)
  else if f.wideLines then some (.one (.except ['\r', '\n']))
  else some (.one (.except ['\n']))

def caret (f : Flags) : Pattern :=
  .look (if !f.multiLine then .textStart else if f.wideLines then .wideLineStart else .lineStart)

def dollar (f : Flags) : Pattern :=
  .look (if !f.multiLine then .textEnd else if f.wideLines then .wideLineEnd else .lineEnd)

/-- How deeply the parts of a pattern may be nested. -/
def maxDepth : Nat := 250

/-- Reads what is left of a pattern. `g` is the innermost group that is open, `outer` are those
around it, and `names` are the names of groups so far. The first argument is at least the length of
the text. -/
def read : Nat → Flags → OpenGroup → List OpenGroup → (names : List Text) → Text → Option Item
  | 0, _, _, _, _, _ => none
  | n + 1, f, g, outer, names, t =>
    match f.skip t with
    | [] => if outer.isEmpty then some g.value else none
    | '(' :: t => do
      let (opened, t) ← opening f t
      match opened with
      | .flags f' => read n f' (g.add .flags) outer names t
      | .group inside name =>
        let names' := name.toList ++ names
        if names'.eraseDups.length < names'.length then none
        else read n inside ⟨[], [], f⟩ (g :: outer) names' t
    | ')' :: t =>
      match outer with
      | [] => none
      | around :: outer =>
        let inside := g.value
        read n g.flags (around.add (.piece inside.pattern (inside.depth + 1))) outer names t
    | '|' :: t => read n f { g with items := [], branches := sequence g.items :: g.branches } outer names t
    | '[' :: t => do
      let (s, t) ← bracketedSet f t
      read n f (g.add (.piece (.one s) 1)) outer names t
    | '?' :: t => do
      let (g, t) ← repeatLast f g 0 (some 1) t
      read n f g outer names t
    | '*' :: t => do
      let (g, t) ← repeatLast f g 0 none t
      read n f g outer names t
    | '+' :: t => do
      let (g, t) ← repeatLast f g 1 none t
      read n f g outer names t
    | '{' :: t => do
      let (least, most, t) ← bounds f t
      let (g, t) ← repeatLast f g least most (f.skip t)
      read n f g outer names t
    | '\\' :: t => do
      let (a, t) ← escape f t
      read n f (g.add (.piece (← atomPattern f a) 0)) outer names t
    | '.' :: t => do read n f (g.add (.piece (← dot f) 0)) outer names t
    | '^' :: t => read n f (g.add (.piece (caret f) 0)) outer names t
    | '$' :: t => read n f (g.add (.piece (dollar f) 0)) outer names t
    | c :: t => do read n f (g.add (.piece (← character f c false) 0)) outer names t

/-! ### Size -/

/-- About how many bytes a set takes in a compiled pattern: a state and, for a table, its ranges. -/
def setSize : CharSet → Nat
  | .word => 32000
  | .digit => 2900
  | .table ranges => 32 + 40 * ranges.length
  | .blank => 400
  | .compl s => 300 + setSize s
  | .union s t => setSize s + setSize t
  | .inter s t => max (setSize s) (setSize t)
  | .anyCase s => setSize s
  | .chars _ | .range _ _ => 32

/-- About how many bytes a compiled pattern takes, in which repetitions are written out. -/
def size : Pattern → Nat
  | .empty => 32
  | .lit s => 32 * Text.size s
  | .one set => setSize set
  | .many set least most _ => (setSize set + 32) * max 1 (most.getD least)
  | .seq p q => size p + size q
  | .alt p q => 32 + size p + size q
  | .rep p least most _ => (size p + 32) * max 1 (most.getD least)
  | .look _ => 32
  | .group _ p => 64 + size p

/-- The largest size of a pattern that is not refused: ten mebibytes. -/
def maxSize : Nat := 10485760

end Written

/-- The pattern that a string describes. -/
def Pattern.ofString? (s : String) : Option Pattern := do
  let t := s.toList
  let item ← Written.read (t.length + 1) {} ⟨[], [], {}⟩ [] [] t
  if item.depth ≤ Written.maxDepth && Written.size item.pattern ≤ Written.maxSize then
    some item.pattern
  else none

end HandlerMigration
