import HandlerMigration.Text.Basic

/-!
# Matching brackets

`closing` finds the bracket that closes another one in program text. It steps over quoted strings,
template literals with the code inside their substitutions, and comments. Regular expression
literals are not told apart from code.

The scan is one pass over the characters. Its stack holds what is open: a bracket that waits for its
closer, or a template literal around a substitution.
-/

namespace HandlerMigration.Bracket

/-- The bracket that closes an opening one. -/
def closer? : Char → Option Char
  | '{' => some '}'
  | '(' => some ')'
  | '[' => some ']'
  | _ => none

def isCloser (c : Char) : Bool := c == '}' || c == ')' || c == ']'

/-- What the next character is part of. -/
inductive Mode where
  | code
  /-- A string that ends with `quote`. -/
  | quoted (quote : Char)
  | template
  | lineComment
  | blockComment
deriving DecidableEq, Repr

/-- What has been opened and waits for its end. -/
inductive Open where
  /-- A bracket, by its closer. -/
  | bracket (closer : Char)
  /-- The substitution of a template literal. -/
  | substitution
deriving DecidableEq, Repr

/-- The offset just behind the character that closes the last of `stack`, if the text at `offset`
goes on in the given mode. A string that is not closed ends with its line; a closer of the wrong
kind and the end of the text leave no answer. -/
def scan : Mode → List Open → (offset : Nat) → Text → Option Nat
  | _, _, _, [] => none
  | .code, stack, n, c :: t =>
    if c == '\'' || c == '"' then scan (.quoted c) stack (n + 1) t
    else if c == '\x60' then scan .template stack (n + 1) t
    else if c == '/' then
      match t with
      | '/' :: t => scan .lineComment stack (n + 2) t
      | '*' :: t => scan .blockComment stack (n + 2) t
      | t => scan .code stack (n + 1) t
    else
      match closer? c with
      | some d => scan .code (.bracket d :: stack) (n + 1) t
      | none =>
        if isCloser c then
          match stack with
          | [] => none
          | .bracket d :: outer =>
            if c != d then none
            else if outer.isEmpty then some (n + 1)
            else scan .code outer (n + 1) t
          | .substitution :: outer =>
            if c == '}' then scan .template outer (n + 1) t else none
        else scan .code stack (n + c.utf8Size) t
  | .quoted q, stack, n, c :: t =>
    if c == '\\' then
      match t with
      | [] => none
      | d :: t => scan (.quoted q) stack (n + 1 + d.utf8Size) t
    else if c == '\n' || c == q then scan .code stack (n + 1) t
    else scan (.quoted q) stack (n + c.utf8Size) t
  | .template, stack, n, c :: t =>
    if c == '\\' then
      match t with
      | [] => none
      | d :: t => scan .template stack (n + 1 + d.utf8Size) t
    else if c == '\x60' then scan .code stack (n + 1) t
    else if c == '$' then
      match t with
      | '{' :: t => scan .code (.substitution :: stack) (n + 2) t
      | t => scan .template stack (n + 1) t
    else scan .template stack (n + c.utf8Size) t
  | .lineComment, stack, n, c :: t =>
    if c == '\n' then scan .code stack (n + 1) t
    else scan .lineComment stack (n + c.utf8Size) t
  | .blockComment, stack, n, c :: t =>
    if c == '*' then
      match t with
      | '/' :: t => scan .code stack (n + 2) t
      | t => scan .blockComment stack (n + 1) t
    else scan .blockComment stack (n + c.utf8Size) t

/-- The offset just behind the bracket that closes the opening bracket at `offset`. There is none if
no opening bracket stands there or it is not closed. -/
def closing (t : Text) (offset : Nat) : Option Nat :=
  match t.cut offset with
  | some (_, c :: rest) => (closer? c).bind fun d => scan .code [.bracket d] (offset + 1) rest
  | _ => none

/-- The offsets of all opening brackets, in order. -/
def openings (offset : Nat) : Text → List Nat
  | [] => []
  | c :: t =>
    let later := openings (offset + c.utf8Size) t
    if (closer? c).isSome then offset :: later else later

end HandlerMigration.Bracket
