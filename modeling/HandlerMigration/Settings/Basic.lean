import HandlerMigration.Files.Tree
import HandlerMigration.Handler.Policy
import HandlerMigration.Migration.Basic
import HandlerMigration.Pattern.Written.Reader
import HandlerMigration.Settings.Document

/-!
# Settings

What a user can choose: the name of handler files, the three sets of functions, and the two patterns
that anchor new lines. A setting that a document does not make keeps its built-in value; a setting
made twice and one that does not exist are refused.
-/

namespace HandlerMigration

structure Settings where
  /-- The name of the handler in the directory of each function. -/
  handlerFile : String
  roster : Roster
  /-- The pattern of the head of the function that handles a request. -/
  entryPoint : String
  /-- The pattern of the import behind which new imports go. -/
  serverImport : String
deriving DecidableEq, Repr

/-- Why there are no settings to work with. -/
inductive SettingsError where
  | unreadable (path : String) (cause : ReadError)
  /-- The file is no document of settings. -/
  | malformed (path : String)
  | overlap (o : Overlap)
  /-- A pattern is not well formed. -/
  | badPattern (anchor : String)
deriving DecidableEq, Repr

namespace SettingsError

/-- What lies behind an error, as a sentence of its own. -/
def cause? : SettingsError → Option String
  | unreadable _ cause => some cause.message
  | malformed _ => some "not a document of settings"
  | overlap _ => none
  | badPattern _ => some "not a well-formed pattern"

def message : SettingsError → String
  | unreadable path cause => s!"Failed to read config {path}: {cause.message}"
  | malformed path => s!"Failed to parse config {path}: not a document of settings"
  | overlap o => o.message
  | badPattern anchor => s!"Invalid `{anchor}` anchor pattern: not a well-formed pattern"

end SettingsError

namespace Settings

/-- The built-in settings. -/
def standard : Settings where
  handlerFile := "index.ts"
  roster := .standard
  entryPoint := "(?:Deno\\.)?serve\\(\\s*async\\s*\\(\\s*req\\b[^)]*\\)\\s*=>\\s*\\\x7b"
  serverImport := "import\\s*\\\x7b\\s*serve\\s*\\\x7d\\s*from\\s*['\"]https://deno\\.land/std@[^'\"]+" ++
    "/http/server\\.ts['\"]\\s*;?"

/-- The patterns of the settings. The entry point is looked at first. -/
def anchors (s : Settings) : Except SettingsError Anchors :=
  match Pattern.ofString? s.entryPoint with
  | none => .error (.badPattern "entry_point")
  | some entryPoint =>
    match Pattern.ofString? s.serverImport with
    | none => .error (.badPattern "import")
    | some serverImport => .ok ⟨entryPoint, serverImport⟩

/-! ### Reading -/

/-- The settings that have been made. -/
structure Draft where
  handlerFile : Option String := none
  excluded : Option (List String) := none
  userScoped : Option (List String) := none
  corsOnly : Option (List String) := none
  /-- The two patterns. -/
  entryPoint : Option String := none
  serverImport : Option String := none
  /-- Whether the table of patterns is complete and cannot be added to. -/
  closed : Bool := false
deriving DecidableEq, Repr

namespace Draft

/-- The settings of a draft, with the built-in ones where it has none. -/
def settings (d : Draft) : Settings where
  handlerFile := d.handlerFile.getD standard.handlerFile
  roster := {
    excluded := d.excluded.getD standard.roster.excluded
    userScoped := d.userScoped.getD standard.roster.userScoped
    corsOnly := d.corsOnly.getD standard.roster.corsOnly }
  entryPoint := d.entryPoint.getD standard.entryPoint
  serverImport := d.serverImport.getD standard.serverImport

def string? : Document.Value → Option String
  | .string s => some (String.ofList s)
  | _ => none

def strings? : Document.Value → Option (List String)
  | .array values => values.mapM string?
  | _ => none

/-- Makes one setting, once. -/
def once {α : Type} (old new : Option α) : Option (Option α) :=
  match old, new with
  | none, some a => some (some a)
  | _, _ => none

/-- Sets one of the two patterns. -/
def setPattern (d : Draft) (key : Document.Key) (value : Document.Value) : Option Draft :=
  match key.map String.ofList with
  | ["entry_point"] => (once d.entryPoint (string? value)).map fun p => { d with entryPoint := p }
  | ["import"] => (once d.serverImport (string? value)).map fun p => { d with serverImport := p }
  | _ => none

/-- Sets the patterns by a table between braces, or by an array that lists them in order. -/
def setPatterns (d : Draft) (value : Document.Value) : Option Draft :=
  if d.closed || d.entryPoint.isSome || d.serverImport.isSome then none
  else
    match value with
    | .table entries =>
      (entries.foldlM (fun d entry => setPattern d entry.1 entry.2) d).map
        fun d => { d with closed := true }
    | .array [] => some { d with closed := true }
    | .array [p] => (string? p).map fun p => { d with entryPoint := some p, closed := true }
    | .array (p :: q :: _) => do
      return { d with entryPoint := some (← string? p), serverImport := some (← string? q),
                      closed := true }
    | .string _ => none

/-- Makes a setting outside the table of patterns. -/
def set (d : Draft) (key : Document.Key) (value : Document.Value) : Option Draft :=
  match key.map String.ofList with
  | ["handler_file"] => (once d.handlerFile (string? value)).map fun s => { d with handlerFile := s }
  | ["excluded"] => (once d.excluded (strings? value)).map fun s => { d with excluded := s }
  | ["user_scoped"] => (once d.userScoped (strings? value)).map fun s => { d with userScoped := s }
  | ["cors_only"] => (once d.corsOnly (strings? value)).map fun s => { d with corsOnly := s }
  | ["anchors"] => d.setPatterns value
  | ["anchors", _] => if d.closed then none else d.setPattern (key.drop 1) value
  | _ => none

/-- The assignments of the table of patterns. -/
def setTable (d : Draft) : List Document.Statement → Option Draft
  | [] => some d
  | .assignment key value :: rest => (d.setPattern key value).bind fun d => d.setTable rest
  | _ => none

/-- The settings that statements make. The table of patterns comes last. -/
def ofStatements (d : Draft) : List Document.Statement → Option Draft
  | [] => some d
  | .assignment key value :: rest => (d.set key value).bind fun d => d.ofStatements rest
  | .header key :: rest =>
    if key.map String.ofList == ["anchors"] && !d.closed && d.entryPoint.isNone &&
        d.serverImport.isNone then d.setTable rest
    else none
  | .elementHeader _ :: _ => none

end Draft

/-- The settings that a text makes. -/
def ofText? (t : Text) : Option Settings := do
  let statements ← Document.read? t
  let draft ← Draft.ofStatements {} statements
  return draft.settings

/-- The settings of a file with the given path and text. -/
def parse (path text : String) : Except SettingsError Settings :=
  match ofText? text.toList with
  | none => .error (.malformed path)
  | some s =>
    match s.roster.overlap? with
    | some o => .error (.overlap o)
    | none => .ok s

end Settings

end HandlerMigration
