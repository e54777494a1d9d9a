import HandlerMigration.Text.Basic
import HandlerMigration.Unicode.Word

/-!
# TOML documents

A document is a list of statements: headers of tables, and assignments of values to keys. A value is a
string, an array or a table between braces. No setting takes a number, a boolean or a date, so a
document that holds one is not read any further. Each reader answers with what is left behind the
part it reads, and has no answer if that part is not well formed.
-/

namespace HandlerMigration.Document

/-- A key with the names that dots separate. -/
abbrev Key := List Text

inductive Value where
  | string (s : Text)
  | array (values : List Value)
  | table (entries : List (Key × Value))

inductive Statement where
  | header (key : Key)
  /-- The header of an element of an array of tables. -/
  | elementHeader (key : Key)
  | assignment (key : Key) (value : Value)

/-! ### Layout -/

def isSpace (c : Char) : Bool := c == ' ' || c == '\t'

/-- The characters of comments. Control characters other than the tab are not among them. -/
def isPlain (c : Char) : Bool := c == '\t' || (' ' ≤ c && c ≤ '~') || 128 ≤ c.toNat

def spaces (t : Text) : Text := t.dropWhile isSpace

/-- A newline, alone or behind a carriage return. -/
def newline? : Text → Option Text
  | '\n' :: t => some t
  | '\r' :: '\n' :: t => some t
  | _ => none

/-- Drops spaces and a comment. -/
def comment (t : Text) : Text :=
  match spaces t with
  | '#' :: t => t.dropWhile isPlain
  | t => t

/-- The end of a line, with spaces and a comment in front of it. -/
def lineEnd? (t : Text) : Option Text :=
  match comment t with
  | [] => some []
  | t => newline? t

/-- Drops spaces, comments and newlines. The first argument is at least the length of the text. -/
def blankLines : Nat → Text → Text
  | 0, t => t
  | n + 1, t =>
    match newline? (comment t) with
    | some t => blankLines n t
    | none => comment t

/-! ### Strings -/

/-- The character of a code point, by so many hexadecimal digits. -/
def codePoint (value : Nat) : Nat → Text → Option (Char × Text)
  | 0, t => if value.isValidChar then some (Char.ofNat value, t) else none
  | _ + 1, [] => none
  | n + 1, c :: t => (Unicode.hexDigit? c).bind fun d => codePoint (value * 16 + d) n t

/-- The character that follows a backslash stands for. -/
def escape : Text → Option (Char × Text)
  | 'b' :: t => some ('\x08', t)
  | 't' :: t => some ('\t', t)
  | 'n' :: t => some ('\n', t)
  | 'f' :: t => some ('\x0c', t)
  | 'r' :: t => some ('\r', t)
  | '"' :: t => some ('"', t)
  | '\\' :: t => some ('\\', t)
  | 'u' :: t => codePoint 0 4 t
  | 'U' :: t => codePoint 0 8 t
  | _ => none

/-- A reader of the rest of a string, given the length of the text at least. -/
abbrev StringReader := Nat → Text → Option (Text × Text)

/-- A string in double quotes behind the first one. -/
def basicString : StringReader
  | 0, _ => none
  | n + 1, t =>
    match t with
    | [] => none
    | '"' :: t => some ([], t)
    | '\\' :: t => do
      let (c, t) ← escape t
      let (s, t) ← basicString n t
      return (c :: s, t)
    | c :: t => if isPlain c then (basicString n t).map fun r => (c :: r.1, r.2) else none

/-- A string in single quotes behind the first one. -/
def literalString : StringReader
  | 0, _ => none
  | n + 1, t =>
    match t with
    | [] => none
    | '\'' :: t => some ([], t)
    | c :: t => if isPlain c then (literalString n t).map fun r => (c :: r.1, r.2) else none

/-- The end of a string in three quotes, which up to two more quotes may precede. -/
def closingQuotes (quote : Char) (t : Text) : Option (Text × Text) :=
  let count := (t.takeWhile (· == quote)).length
  if count < 3 then none
  else some (List.replicate (min count 5 - 3) quote, t.drop (min count 5))

/-- Drops spaces and newlines. The first argument is at least the length of the text. -/
def blanks : Nat → Text → Text
  | 0, t => t
  | n + 1, t =>
    match newline? (spaces t) with
    | some t => blanks n t
    | none => spaces t

/-- Drops the spaces and newlines behind a backslash at the end of a line. -/
def joinLines (t : Text) : Option Text := (newline? (spaces t)).map (blanks t.length)

/-- A string in three double quotes behind the first three. -/
def longBasicString : StringReader
  | 0, _ => none
  | n + 1, t =>
    match closingQuotes '"' t with
    | some r => some r
    | none =>
      match newline? t with
      | some t => (longBasicString n t).map fun r => ('\n' :: r.1, r.2)
      | none =>
        match t with
        | [] => none
        | '\\' :: t =>
          match joinLines t with
          | some t => longBasicString n t
          | none => do
            let (c, t) ← escape t
            let (s, t) ← longBasicString n t
            return (c :: s, t)
        | c :: t => if isPlain c then (longBasicString n t).map fun r => (c :: r.1, r.2) else none

/-- A string in three single quotes behind the first three. -/
def longLiteralString : StringReader
  | 0, _ => none
  | n + 1, t =>
    match closingQuotes '\'' t with
    | some r => some r
    | none =>
      match newline? t with
      | some t => (longLiteralString n t).map fun r => ('\n' :: r.1, r.2)
      | none =>
        match t with
        | [] => none
        | c :: t => if isPlain c then (longLiteralString n t).map fun r => (c :: r.1, r.2) else none

/-- A newline right behind three opening quotes is not part of the string. -/
def dropNewline (t : Text) : Text := (newline? t).getD t

/-- A string of any kind. -/
def string? (t : Text) : Option (Text × Text) :=
  match t with
  | '"' :: '"' :: '"' :: t => longBasicString (t.length + 1) (dropNewline t)
  | '\'' :: '\'' :: '\'' :: t => longLiteralString (t.length + 1) (dropNewline t)
  | '"' :: t => basicString (t.length + 1) t
  | '\'' :: t => literalString (t.length + 1) t
  | _ => none

/-! ### Keys -/

def isBare (c : Char) : Bool := c.isAlphanum || c == '_' || c == '-'

/-- One name of a key. -/
def keyName? (t : Text) : Option (Text × Text) :=
  match t with
  | '"' :: t => basicString (t.length + 1) t
  | '\'' :: t => literalString (t.length + 1) t
  | t =>
    let name := t.takeWhile isBare
    if name.isEmpty then none else some (name, t.drop name.length)

/-- A key; spaces around its names are dropped. The first argument is at least the length of the
text. -/
def key? : Nat → Text → Option (Key × Text)
  | 0, _ => none
  | n + 1, t => do
    let (name, t) ← keyName? (spaces t)
    match spaces t with
    | '.' :: t => (key? n t).map fun r => (name :: r.1, r.2)
    | t => return ([name], t)

/-! ### Values -/

mutual

/-- A value. The first argument is at least the length of the text, as in the readers below. -/
def value? : Nat → Text → Option (Value × Text)
  | 0, _ => none
  | n + 1, t =>
    match t with
    | '[' :: t => (elements? n t).map fun r => (.array r.1, r.2)
    | '{' :: t =>
      match spaces t with
      | '}' :: t => some (.table [], t)
      | t => (entries? n t).map fun r => (.table r.1, r.2)
    | t => (string? t).map fun r => (.string r.1, r.2)

/-- The elements of an array up to its closing bracket. A comma may follow the last one. -/
def elements? : Nat → Text → Option (List Value × Text)
  | 0, _ => none
  | n + 1, t =>
    match blankLines (t.length + 1) t with
    | ']' :: t => some ([], t)
    | t => do
      let (v, t) ← value? n t
      match blankLines (t.length + 1) t with
      | ']' :: t => return ([v], t)
      | ',' :: t => (elements? n t).map fun r => (v :: r.1, r.2)
      | _ => none

/-- The entries of a table up to its closing brace. No comma follows the last one. -/
def entries? : Nat → Text → Option (List (Key × Value) × Text)
  | 0, _ => none
  | n + 1, t => do
    let (k, v, t) ← pair? n t
    match spaces t with
    | '}' :: t => return ([(k, v)], t)
    | ',' :: t => (entries? n t).map fun r => ((k, v) :: r.1, r.2)
    | _ => none

/-- A key, an equals sign and a value. -/
def pair? : Nat → Text → Option (Key × Value × Text)
  | 0, _ => none
  | n + 1, t => do
    let (k, t) ← key? (t.length + 1) t
    match t with
    | '=' :: t => (value? n (spaces t)).map fun r => (k, r.1, r.2)
    | _ => none

end

/-! ### Statements -/

/-- A statement, at the start of which no space stands. -/
def statement? (t : Text) : Option (Statement × Text) :=
  match t with
  | '[' :: '[' :: t => do
    let (k, t) ← key? (t.length + 1) t
    match t with
    | ']' :: ']' :: t => return (.elementHeader k, t)
    | _ => none
  | '[' :: t => do
    let (k, t) ← key? (t.length + 1) t
    match t with
    | ']' :: t => return (.header k, t)
    | _ => none
  | t => (pair? (3 * t.length + 3) t).map fun r => (.assignment r.1 r.2.1, r.2.2)

/-- The statements of a document. Each ends its line. The first argument is at least the length of
the text. -/
def statements? : Nat → Text → Option (List Statement)
  | 0, _ => none
  | n + 1, t =>
    match blankLines (t.length + 1) t with
    | [] => some []
    | t => do
      let (s, t) ← statement? t
      let t ← lineEnd? t
      (statements? n t).map fun r => s :: r

/-- The statements of a text, which a byte order mark may precede. -/
def read? (t : Text) : Option (List Statement) :=
  match t with
  | '\ufeff' :: t => statements? (t.length + 1) t
  | t => statements? (t.length + 1) t

end HandlerMigration.Document
