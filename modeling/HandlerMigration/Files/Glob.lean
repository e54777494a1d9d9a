import HandlerMigration.Pattern.Match

/-!
# Globs

A glob describes paths, byte by byte: `?` and `*` stand for bytes of one name, `**` for any number of
names, brackets for one byte of a set, and braces for a choice.
-/

namespace HandlerMigration

namespace Glob

/-- Why a glob is not well formed. -/
inductive Error where
  /-- A range of characters runs backwards. -/
  | badRange (low high : Char)
  | unopenedChoice
  | unclosedChoice
  | danglingEscape
deriving DecidableEq, Repr

def Error.message : Error → String
  | badRange low high => s!"invalid range; '{low}' > '{high}'"
  | unopenedChoice =>
    "unopened alternate group; missing '\x7b' (maybe escape '\x7d' with '[\x7d]'?)"
  | unclosedChoice =>
    "unclosed alternate group; missing '\x7d' (maybe escape '\x7b' with '[\x7b]'?)"
  | danglingEscape => "dangling '\\'"

/-- A part of a glob. -/
inductive Token where
  | literal (c : Char)
  /-- Two stars and a slash at the start. -/
  | leading
  /-- A slash and two stars at the end. -/
  | trailing
  /-- Two stars between slashes. -/
  | between
  | part (p : Pattern)

/-- The bytes of a text, each as the character of its number. -/
def bytes (t : Text) : Text :=
  (String.ofList t).toUTF8.toList.map fun byte => Char.ofNat byte.toNat

/-- A byte of a name. -/
def nameChar : CharSet := .except ['/']

def Token.pattern : Token → Pattern
  | literal c => .lit [c]
  | leading => .alt (.opt (.lit ['/'])) (Pattern.manyOf .any ++ .lit ['/'])
  | trailing => .lit ['/'] ++ Pattern.manyOf .any
  | between => .alt (.lit ['/']) (.lit ['/'] ++ Pattern.manyOf .any ++ .lit ['/'])
  | part p => p

/-- A sequence of tokens, given last token first. -/
def sequence (tokens : List Token) : Pattern :=
  tokens.foldl (fun rest token => token.pattern ++ rest) .empty

/-- A choice without a branch. -/
def Token.isVoid : Token → Bool
  | part .empty => true
  | _ => false

/-- A choice whose closing brace has not been read: the tokens of the branch being read, last first,
and the branches before it. -/
structure Branches where
  tokens : List Token
  done : List Pattern

/-- The branches that have been read, last first. A branch in which nothing stands is none. -/
def Branches.all (b : Branches) : List Pattern :=
  if b.tokens.all Token.isVoid then b.done else sequence b.tokens :: b.done

def Branches.close (b : Branches) : Pattern :=
  match b.all with
  | [] => .empty
  | last :: before => before.foldl (fun rest p => .alt p rest) last

def Branches.add (b : Branches) (tokens : List Token) : Branches :=
  { b with tokens := tokens ++ b.tokens }

/-- The ranges of a set up to its closing bracket, last first; `none` if it is not closed. `first` is
whether nothing has been read of it, and `inRange` whether a hyphen waits for the end of a range. -/
def setRanges (first inRange : Bool) (ranges : List (Char × Char)) :
    Text → Except Error (Option (List (Char × Char) × Text))
  | [] => .ok none
  | c :: t =>
    if c = ']' && !first then .ok (some (if inRange then ('-', '-') :: ranges else ranges, t))
    else if c = '-' && !first && !inRange then setRanges false true ranges t
    else
      match inRange, ranges with
      | true, (low, _) :: others =>
        if c < low then .error (.badRange low c) else setRanges false false ((low, c) :: others) t
      | _, ranges => setRanges false false ((c, c) :: ranges) t

/-- A set behind its opening bracket. -/
def set? (t : Text) : Except Error (Option (CharSet × Text)) :=
  let (negated, t) := match t with
    | '!' :: t | '^' :: t => (true, t)
    | t => (false, t)
  match setRanges true false [] t with
  | .error e => .error e
  | .ok none => .ok none
  | .ok (some (ranges, rest)) =>
    let s := ranges.foldl (fun s range => CharSet.union (.range range.1 range.2) s) .none
    .ok (some (if negated then .compl s else s, rest))

/-- One star, or two that do not stand for whole names. -/
def oneStar : Token := .part (.manyOf nameChar)

/-- Two stars behind `last`: the tokens with them, and what is left behind a slash that they take. -/
def doubleStar (inChoice : Bool) (last : Option Char) (tokens : List Token) (t : Text) :
    List Token × Text :=
  let plain := (oneStar :: oneStar :: tokens, t)
  if tokens.isEmpty then
    match t with
    | [] => ([.leading], [])
    | '/' :: t => ([.leading], t)
    | _ => plain
  else if last != some '/' && !(inChoice && (last == some ',' || last == some '{')) then plain
  else
    let close (token : Token) (rest : Text) : List Token × Text :=
      match tokens with
      | .leading :: _ | .trailing :: _ => (tokens, rest)
      | _ :: others => (token :: others, rest)
      | [] => ([token], rest)
    match t with
    | [] => close .trailing []
    | '/' :: rest => close .between rest
    | ',' :: _ | '}' :: _ => if inChoice then close .trailing t else plain
    | _ => plain

/-- Reads what is left of a glob; two stars alone stand for every path. `last` is the character read
before, `b` the innermost choice and `outer` those around it; the outermost is the glob itself. The
first argument is at least the length of the text. -/
def read : Nat → (last : Option Char) → Branches → List Branches → Text → Except Error Pattern
  | 0, _, b, _, _ => .ok b.close
  | n + 1, last, b, outer, t =>
    match t with
    | [] =>
      match outer, b.tokens with
      | _ :: _, _ => .error .unclosedChoice
      | [], [.leading] => .ok (.manyOf .any)
      | [], _ => .ok b.close
    | '?' :: t => read n (some '?') (b.add [.part (.one nameChar)]) outer t
    | '*' :: '*' :: t =>
      let (tokens, rest) := doubleStar (!outer.isEmpty) last b.tokens t
      let last := if rest.length < t.length then '/' else '*'
      read n (some last) { b with tokens := tokens } outer rest
    | '*' :: t => read n (some '*') (b.add [oneStar]) outer t
    | '[' :: t =>
      match set? t with
      | .error e => .error e
      | .ok (some (s, rest)) => read n (some ']') (b.add [.part (.one s)]) outer rest
      | .ok none => read n (some '[') (b.add [.literal '[']) outer t
    | '{' :: t => read n (some '{') ⟨[], []⟩ (b :: outer) t
    | '}' :: t =>
      match outer with
      | [] => .error .unopenedChoice
      | around :: outer => read n (some '}') (around.add [.part b.close]) outer t
    | ',' :: t =>
      if outer.isEmpty then read n (some ',') (b.add [.literal ',']) outer t
      else read n (some ',') ⟨[], b.all⟩ outer t
    | '\\' :: t =>
      match t with
      | [] => .error .danglingEscape
      | c :: t => read n (some c) (b.add [.literal c]) outer t
    | c :: t => read n (some c) (b.add [.literal c]) outer t

/-- The pattern of the paths that a glob describes as a whole. -/
def pattern (glob : Text) : Except Error Pattern :=
  match read ((bytes glob).length + 1) none ⟨[], []⟩ [] (bytes glob) with
  | .error e => .error e
  | .ok p => .ok (.look .textStart ++ p ++ .look .textEnd)

/-- Whether a pattern of paths describes a path. -/
def describes (p : Pattern) (path : Text) : Bool := p.occursIn (bytes path)

end Glob

end HandlerMigration
