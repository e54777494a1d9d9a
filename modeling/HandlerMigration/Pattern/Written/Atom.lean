import HandlerMigration.Pattern.Basic
import HandlerMigration.Unicode.Age
import HandlerMigration.Unicode.Category
import HandlerMigration.Unicode.Property
import HandlerMigration.Unicode.Script

/-!
# Patterns as they are written: characters and escapes

The smallest parts of a written pattern, and the flags that decide how they are read. Each reader
takes what is left of the pattern and answers with what is left behind the part; it has no answer if
the part is not well formed.
-/

namespace HandlerMigration.Written

/-- The flags of a pattern, by the letters that set them. -/
structure Flags where
  /-- `i`: letters match in any case. -/
  ignoreCase : Bool := false
  /-- `m`: a caret and a dollar sign stand at the ends of lines. -/
  multiLine : Bool := false
  /-- `s`: a dot matches a newline too. -/
  dotAll : Bool := false
  /-- `U`: repetitions are short unless a question mark follows. -/
  swapGreed : Bool := false
  /-- `u`: classes reach outside ASCII. -/
  unicode : Bool := true
  /-- `R`: carriage returns end lines too. -/
  wideLines : Bool := false
  /-- `x`: blanks and comments have no meaning. -/
  verbose : Bool := false
deriving DecidableEq, Repr

/-- Drops blanks and comments. -/
def dropLayout (inComment : Bool) : Text → Text
  | [] => []
  | c :: t =>
    if inComment then dropLayout (c != '\n') t
    else if isBlank c then dropLayout false t
    else if c = '#' then dropLayout true t
    else c :: t

/-- Drops what has no meaning under the flags. -/
def Flags.skip (f : Flags) (t : Text) : Text := if f.verbose then dropLayout false t else t

/-- A part of a pattern that stands for one character or none. -/
inductive Atom where
  /-- A character; `byte` if it is written by two hexadecimal digits. -/
  | char (c : Char) (byte : Bool)
  | set (s : CharSet)
  | look (b : Boundary)

/-! ### Numbers -/

/-- The number that hexadecimal digits spell. -/
def hexValue (value : Nat) : Text → Option Nat
  | [] => some value
  | c :: cs => (Unicode.hexDigit? c).bind fun d => hexValue (value * 16 + d) cs

/-- The character of a code point. -/
def charOf? (n : Nat) : Option Char := if n.isValidChar then some (Char.ofNat n) else none

/-- A given number of characters, with layout between and behind them dropped. -/
def take (f : Flags) : Nat → Text → Option (Text × Text)
  | 0, t => some ([], t)
  | _ + 1, [] => none
  | n + 1, c :: t => (take f n (f.skip t)).map fun parts => (c :: parts.1, parts.2)

/-- The characters in front of a closing brace, and what follows the brace. The first argument is at
least the length of the text. -/
def upToBrace (f : Flags) : Nat → Text → Option (Text × Text)
  | 0, _ => none
  | n + 1, t =>
    match f.skip t with
    | [] => none
    | '}' :: rest => some ([], rest)
    | c :: rest => (upToBrace f n rest).map fun parts => (c :: parts.1, parts.2)

/-- A character by its code point: so many hexadecimal digits, or any number of them in braces. -/
def codePoint (f : Flags) (digits : Nat) (t : Text) : Option (Atom × Text) :=
  match f.skip t with
  | '{' :: t => do
    let (inside, rest) ← upToBrace f (t.length + 1) t
    if inside.isEmpty then none
    let c ← (hexValue 0 inside).bind charOf?
    return (.char c false, f.skip rest)
  | t => do
    let (inside, rest) ← take f digits t
    let c ← (hexValue 0 inside).bind charOf?
    return (.char c (digits == 2), rest)

/-! ### Classes -/

def asciiDigits : CharSet := .range '0' '9'

def asciiBlanks : CharSet := .chars ['\t', '\n', '\x0b', '\x0c', '\r', ' ']

def asciiLetters : CharSet := .union (.range 'a' 'z') (.range 'A' 'Z')

def asciiWord : CharSet := .union asciiLetters (.union asciiDigits (.chars ['_']))

def ascii : CharSet := .range '\x00' '\x7f'

/-- A class of one letter, or all but it. Without Unicode, all but a class would not be characters. -/
def letterClass (f : Flags) (c : Char) : Option CharSet :=
  if f.unicode then
    match c with
    | 'd' => some .digit
    | 's' => some .blank
    | 'w' => some .word
    | 'D' => some (.compl .digit)
    | 'S' => some (.compl .blank)
    | 'W' => some (.compl .word)
    | _ => none
  else
    match c with
    | 'd' => some asciiDigits
    | 's' => some asciiBlanks
    | 'w' => some asciiWord
    | _ => none

/-- A name without case, separators and a leading `is`. -/
def looseName (name : Text) : String :=
  let isPart := (name.take 2).map Char.toLower == ['i', 's']
  let kept := ((if isPart then name.drop 2 else name).filter fun c =>
    c.toNat < 128 && c != ' ' && c != '_' && c != '-').map Char.toLower
  if isPart && kept == ['c'] then "isc" else String.ofList kept

/-- The characters of a general category. -/
def categorySet? (name : String) : Option CharSet :=
  match name with
  | "any" => some .any
  | "ascii" => some ascii
  | "assigned" => some (.table Unicode.assigned)
  | "cn" | "unassigned" => some (.compl (.table Unicode.assigned))
  | "c" | "other" =>
    let named := ["cc", "cf", "co"].flatMap fun part => (Unicode.smallCategory? part).getD []
    some (.union (.table named) (.compl (.table Unicode.assigned)))
  | name => (Unicode.category? name).map .table

/-- The characters of a property, a category or a script. -/
def namedSet? (name : String) : Option CharSet :=
  ((Unicode.property? name).map CharSet.table) <|> categorySet? name <|>
    ((Unicode.script? name).map CharSet.table)

/-- The characters of a script and those that others share with it. What belongs to no script of its own
is left out if scripts share it. -/
def scriptExtension? (name : String) : Option CharSet :=
  match name with
  | "zyyy" | "common" | "zinh" | "inherited" | "qaai" =>
    (Unicode.script? name).map fun own => .inter (.table own) (.compl (.table Unicode.shared))
  | name => (Unicode.script? name).map fun own => .table (own ++ Unicode.sharedWith name)

/-- The characters for which a property has a value. The properties that tell where words, sentences and
clusters end are not known. -/
def valuedSet? (property value : String) : Option CharSet :=
  match property with
  | "gc" | "generalcategory" => categorySet? value
  | "sc" | "script" => (Unicode.script? value).map .table
  | "scx" | "scriptextensions" => scriptExtension? value
  | "age" => (Unicode.age? value).map .table
  | _ => none

/-- The parts of a text around the first occurrence of a mark. -/
def splitAtFirst (mark : Text) : Text → Option (Text × Text)
  | [] => none
  | c :: t =>
    if mark.isPrefixOf (c :: t) then some ([], (c :: t).drop mark.length)
    else (splitAtFirst mark t).map fun parts => (c :: parts.1, parts.2)

/-- The set that the text in the braces of a class names, and whether all but it is meant. -/
def bracedSet? (name : Text) : Option (CharSet × Bool) :=
  match splitAtFirst ['!', '='] name with
  | some (property, value) =>
    (valuedSet? (looseName property) (looseName value)).map fun s => (s, true)
  | none =>
    match (splitAtFirst [':'] name).orElse fun _ => splitAtFirst ['='] name with
    | some (property, value) =>
      (valuedSet? (looseName property) (looseName value)).map fun s => (s, false)
    | none => (namedSet? (looseName name)).map fun s => (s, false)

/-- A set with the flag for case applied. Without Unicode only ASCII letters have another case. -/
def Flags.cased (f : Flags) (s : CharSet) : CharSet :=
  if !f.ignoreCase then s
  else if f.unicode then .anyCase s
  else .inter ascii (.anyCase s)

/-- The set that a Unicode name stands for, of one letter or in braces, and whether all but it is
meant. -/
def unicodeName (f : Flags) (t : Text) : Option ((CharSet × Bool) × Text) :=
  match f.skip t with
  | [] => none
  | '{' :: t => do
    let (name, rest) ← upToBrace f (t.length + 1) t
    return (← bracedSet? name, rest)
  | c :: t => (namedSet? (looseName [c])).map fun s => ((s, false), f.skip t)

/-- A class by its Unicode name. -/
def namedClass (f : Flags) (negated : Bool) (t : Text) : Option (Atom × Text) := do
  let ((s, allBut), rest) ← unicodeName f t
  if !f.unicode then none
  let s := f.cased s
  return (.set (if negated != allBut then .compl s else s), rest)

/-! ### Escapes -/

/-- What tells a word character from others under the flags. -/
def Flags.isWord (f : Flags) : Char → Bool := if f.unicode then Unicode.isWord else Unicode.isAsciiWord

/-- A boundary by its name in braces. -/
def namedBoundary (isWord : Char → Bool) : String → Option Boundary
  | "start" => some (.wordStart isWord)
  | "end" => some (.wordEnd isWord)
  | "start-half" => some (.afterNonWord isWord)
  | "end-half" => some (.beforeNonWord isWord)
  | _ => none

/-- A word boundary. A name in braces may follow; braces around anything else are a repetition, which
is not part of it. -/
def wordBoundary (f : Flags) (t : Text) : Option (Atom × Text) :=
  match t with
  | '{' :: inner =>
    match f.skip inner with
    | [] => none
    | c :: rest =>
      if Unicode.isAsciiLetter c || c == '-' then do
        let (name, rest) ← upToBrace f (rest.length + 2) (c :: rest)
        let b ← namedBoundary f.isWord (String.ofList name)
        return (.look b, rest)
      else some (.look (.word f.isWord), t)
  | t => some (.look (.word f.isWord), t)

/-- What follows a backslash. -/
def escape (f : Flags) : Text → Option (Atom × Text)
  | [] => none
  | c :: t =>
    match c with
    | 'x' => codePoint f 2 t
    | 'u' => codePoint f 4 t
    | 'U' => codePoint f 8 t
    | 'p' => namedClass f false t
    | 'P' => namedClass f true t
    | 'd' | 's' | 'w' | 'D' | 'S' | 'W' => (letterClass f c).map fun s => (.set s, t)
    | 'a' => some (.char '\x07' false, t)
    | 'f' => some (.char '\x0c' false, t)
    | 't' => some (.char '\t' false, t)
    | 'n' => some (.char '\n' false, t)
    | 'r' => some (.char '\r' false, t)
    | 'v' => some (.char '\x0b' false, t)
    | 'A' => some (.look .textStart, t)
    | 'z' => some (.look .textEnd, t)
    | 'b' => wordBoundary f t
    | 'B' => some (.look (.notWord f.isWord), t)
    | '<' => some (.look (.wordStart f.isWord), t)
    | '>' => some (.look (.wordEnd f.isWord), t)
    | c =>
      if c.toNat < 128 && !Unicode.isAsciiLetter c && !Unicode.isAsciiDigit c then
        some (.char c false, t)
      else none

end HandlerMigration.Written
