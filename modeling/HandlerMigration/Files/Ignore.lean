import HandlerMigration.Files.Glob
import HandlerMigration.Files.Path
import HandlerMigration.Files.Tree
import HandlerMigration.Text.Line

/-!
# Ignored files

A file of rules lists globs for the paths below its directory. The last rule that matches a path
decides; a rule with an exclamation mark takes a path back in. Rules of three kinds of files apply:
those named `.ignore`, and inside a git repository those named `.gitignore` and the repository's own
list of exclusions. For each kind the nearest directory with a matching rule decides, and the kinds
go before each other in this order. Rules that a user keeps for all repositories lie outside of the
tree and are not looked at.
-/

namespace HandlerMigration.Ignore

structure Rule where
  pattern : Pattern
  /-- Whether the rule takes paths back in. -/
  keeps : Bool
  onlyDirectories : Bool

/-- What rules say about a path. -/
inductive Verdict where
  | ignored
  | kept
deriving DecidableEq, Repr

/-- The glob of a line, which matches at any depth unless the line holds a slash. -/
def globOf (anchored : Bool) (line : Text) : Text :=
  let glob :=
    if anchored || line.contains ['/'] || line == ['*', '*'] then line
    else ['*', '*', '/'] ++ line
  if glob.endsWith ['/', '*', '*'] then glob ++ ['/', '*'] else glob

/-- The rule of a line; comments and blank lines have none. -/
def rule? (line : Text) : Except Glob.Error (Option Rule) :=
  if line.startsWith ['#'] then .ok none
  else
    let line := if line.endsWith ['\\', ' '] then line else line.trimEnd
    if line.isEmpty then .ok none
    else
      let (keeps, line, anchored) : Bool × Text × Bool :=
        match line with
        | '\\' :: '!' :: _ | '\\' :: '#' :: _ => (false, line.drop 1, false)
        | '!' :: '/' :: rest => (true, rest, true)
        | '!' :: rest => (true, rest, false)
        | '/' :: rest => (false, rest, true)
        | line => (false, line, false)
      let (onlyDirectories, line) : Bool × Text :=
        if line.endsWith ['\\', '/'] then (true, line.dropLast.dropLast)
        else if line.endsWith ['/'] then (true, line.dropLast)
        else (false, line)
      match Glob.pattern (globOf anchored line) with
      | .error e => .error e
      | .ok p => .ok (some ⟨p, keeps, onlyDirectories⟩)

/-- The lines of a file up to the first that is not text. -/
def textLines (bytes : ByteArray) : List Text :=
  match String.fromUTF8? bytes with
  | some s => Text.lines s.toList
  | none =>
    let pieces := (bytes.toList.splitOn 10).map fun piece => String.fromUTF8? ⟨piece.toArray⟩
    (pieces.takeWhile Option.isSome).map fun s => Text.dropReturn (s.getD "").toList

/-- The rules of a file, and the lines that are no rules, by number. A byte order mark is dropped. -/
def rulesOf (bytes : ByteArray) : List Rule × List (Nat × Text × Glob.Error) :=
  let lines := match textLines bytes with
    | ('\ufeff' :: first) :: rest => first :: rest
    | lines => lines
  (lines.filterMap fun line => (rule? line).toOption.join,
    (lines.zipIdx 1).filterMap fun (line, number) =>
      match rule? line with
      | .error e => some (number, line.trimEnd, e)
      | .ok _ => none)

/-- What the rules of a file say about a path below its directory. -/
def verdict? (rules : List Rule) (path : Text) (isDirectory : Bool) : Option Verdict :=
  (rules.reverse.find? fun rule =>
      (!rule.onlyDirectories || isDirectory) && Glob.describes rule.pattern path).map fun rule =>
    if rule.keeps then .kept else .ignored

/-- The files that can hold rules in a directory. -/
inductive Source where
  | plain
  | git
  | exclude
deriving DecidableEq, Repr

/-- The first line of a file. -/
def firstLine? (d : Disk) (path : String) : Option String :=
  match d.route path with
  | .ok route => ((d.tree.bytes? route).bind fun bytes => (textLines bytes).head?).map String.ofList
  | .error _ => none

/-- The directory that a file `.git` names, as one does in a linked working tree. -/
def linked? (bytes : ByteArray) : Option String :=
  ((textLines bytes).head?.bind fun line => "gitdir: ".toList.isPrefixOf? line).map String.ofList

/-- The directory of the repository that a linked working tree belongs to. -/
def shared? (d : Disk) (linked : String) : Option String :=
  (firstLine? d (Path.join linked "commondir")).map fun line =>
    if line.startsWith "." then Path.join linked line else line

/-- The route and the path of the file that can hold rules of a kind for a directory. -/
def Source.file? (d : Disk) (directory : Route) (source : Source) : Option (Route × String) :=
  let within (names : List String) := some (directory ++ names, d.absolute (directory ++ names))
  match source with
  | plain => within [".ignore"]
  | git => within [".gitignore"]
  | exclude =>
    match d.tree.bytes? (directory ++ [".git"]) with
    | none => within [".git", "info", "exclude"]
    | some bytes => do
      let path := Path.join (← shared? d (← linked? bytes)) "info/exclude"
      let route ← (d.route path).toOption
      some (route, path)

def Source.bytes? (d : Disk) (directory : Route) (source : Source) : Option ByteArray :=
  (source.file? d directory).bind fun file => d.tree.bytes? file.1

/-- The directories that lead to a route, the nearest first. -/
def above (route : Route) : List Route :=
  (List.range route.length).reverse.map fun n => route.take n

def isRepository (t : Tree) (directory : Route) : Bool := t.contains (directory ++ [".git"])

/-- The directories above a route whose git rules apply to it: up to the nearest repository, and none
outside a repository. -/
def gitDirectories (t : Tree) (route : Route) : List Route :=
  let directories := above route
  let (inside, rest) := directories.span fun d => !isRepository t d
  match rest with
  | [] => []
  | repository :: _ => inside ++ [repository]

/-- What the rules of one kind say about a route: the nearest directory decides. -/
def verdictOf (d : Disk) (source : Source) (directories : List Route) (route : Route) :
    Option Verdict :=
  directories.findSome? fun directory =>
    (source.bytes? d directory).bind fun bytes =>
      verdict? (rulesOf bytes).1 ("/".intercalate (route.drop directory.length)).toList
        (d.tree.isDirectory route)

/-- Whether a route is left out. Hidden names are, unless a rule keeps them. -/
def isIgnored (d : Disk) (route : Route) : Bool :=
  let git := gitDirectories d.tree route
  let verdict := verdictOf d .plain (above route) route <|> verdictOf d .git git route <|>
    verdictOf d .exclude git route
  match verdict with
  | some .ignored => true
  | some .kept => false
  | none => (route.getLastD "").startsWith "."

/-- The faulty lines in files of rules above a directory, the outermost first. -/
def faults (d : Disk) (directory : Route) : List String :=
  (above directory).reverse.flatMap fun parent =>
    ([Source.plain, .git, .exclude].filterMap fun source => source.file? d parent).flatMap fun (route, path) =>
      match d.tree.bytes? route with
      | none => []
      | some bytes => (rulesOf bytes).2.map fun (number, line, e) =>
        let glob := String.ofList line
        let reason := e.message
        s!"{path}: line {number}: error parsing glob '{glob}': {reason}"

end HandlerMigration.Ignore
