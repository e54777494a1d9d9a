import HandlerMigration.Command.Arguments
import HandlerMigration.Migration.Run

/-!
# Reports

What is printed about each handler, and the summary of all of them.
-/

namespace HandlerMigration.Command

/-- What came of a handler. -/
inductive Status where
  | modified
  | compliant
  /-- It is unchanged because a step did not find its place. -/
  | unmatched
deriving DecidableEq, Repr

def Status.of (r : Migration.Result) : Status :=
  if r.changed then .modified else if r.hasWarnings then .unmatched else .compliant

/-- The word for handlers that change. -/
def Mode.modifiedLabel : Mode → String
  | write => "modified"
  | check | diff => "would modify"

def Status.label (mode : Mode) : Status → String
  | modified => mode.modifiedLabel
  | compliant => "already compliant"
  | unmatched => "unchanged"

def Status.mark : Status → String
  | modified => "✓"
  | compliant => "·"
  | unmatched => "!"

/-- The line of a note. -/
def noteLine (note : Migration.Note) : String :=
  s!"    [{note.number} {note.step.name}] {note.outcome.label}: {note.message}\n"

/-- The notes that are shown: on a compliant handler, not what has been skipped. -/
def shownNotes (status : Status) (notes : List Migration.Note) : List Migration.Note :=
  notes.filter fun note => !(note.outcome == .skipped && status == .compliant)

/-- The report on a handler. -/
def handlerReport (name : String) (policy : Policy) (mode : Mode) (r : Migration.Result) : String :=
  let status := Status.of r
  let mark := status.mark
  let kind := policy.label
  let label := status.label mode
  s!"{mark} {name} ({kind}): {label}\n" ++ String.join ((shownNotes status r.notes).map noteLine)

def failureReport (name message : String) : String := s!"✗ {name}: {message}\n"

structure Summary where
  modified : Nat
  compliant : Nat
  unmatched : Nat
  errored : Nat
  excluded : Nat
deriving DecidableEq, Repr

namespace Summary

/-- The summary before any handler. -/
def start (excluded : Nat) : Summary := ⟨0, 0, 0, 0, excluded⟩

def add (s : Summary) : Status → Summary
  | .modified => { s with modified := s.modified + 1 }
  | .compliant => { s with compliant := s.compliant + 1 }
  | .unmatched => { s with unmatched := s.unmatched + 1 }

def addError (s : Summary) : Summary := { s with errored := s.errored + 1 }

def report (s : Summary) (mode : Mode) : String :=
  let label := mode.modifiedLabel
  s!"\n{s.modified} {label}, {s.compliant} already compliant, {s.unmatched} unmatched, " ++
  s!"{s.errored} errored, {s.excluded} excluded\n"

/-- Why the whole run fails, if it does. -/
def failure? (s : Summary) (mode : Mode) : Option String :=
  if s.errored > 0 then some s!"{s.errored} file(s) failed to migrate"
  else if mode = .check && s.modified > 0 then some s!"{s.modified} file(s) need migration"
  else none

end Summary

/-- The line of an error that ends the program, and of what lies behind it. -/
def errorReport (message : String) (causes : List String) : String :=
  s!"Error: {message}\n" ++ String.join (causes.map fun cause => s!"  {cause}\n")

/-! ### Lists -/

/-- A name filled up with blanks. -/
def padded (width : Nat) (name : String) : String :=
  name ++ String.ofList (List.replicate (width - name.length) ' ')

/-- Two columns; the first is as wide as the longest name has bytes. -/
def table (rows : List (String × String)) : String :=
  let width := (rows.map fun row => row.1.utf8ByteSize).foldl max 0
  String.join (rows.map fun row => padded width row.1 ++ "  " ++ row.2 ++ "\n")

end HandlerMigration.Command
