import HandlerMigration.Files.Ignore
import HandlerMigration.Files.Path
import HandlerMigration.Handler.Policy

/-!
# The handlers in a directory of functions

Each directory in a directory of functions is a function, and its handler is the file of a given name
in it. Ignored directories and files are left out, and excluded functions are only counted.
-/

namespace HandlerMigration

/-- A handler to work on. -/
structure Target where
  /-- The function that owns the handler. -/
  name : String
  /-- The handler's path, as the directory of functions was given. -/
  path : String
  route : Route
deriving DecidableEq, Repr

structure Survey where
  /-- By name. -/
  targets : List Target
  /-- The excluded functions that have a handler, by name. -/
  excluded : List String
deriving DecidableEq, Repr

inductive SurveyError where
  | notDirectory (path : String)
  /-- Files of ignore rules above the directory have lines that are no rules. -/
  | badRules (path : String) (faults : List String)
deriving DecidableEq, Repr

namespace SurveyError

def message : SurveyError → String
  | notDirectory path => s!"{path} is not a directory"
  | badRules path _ => s!"Failed to walk {path}"

def cause? : SurveyError → Option String
  | notDirectory _ => none
  | badRules _ faults => some ("\n".intercalate faults)

end SurveyError

namespace Survey

/-- The functions in a directory, by name. -/
def functions (d : Disk) (directory : Route) (handlerFile : String) : List String :=
  let hasHandler (name : String) : Bool :=
    d.tree.isDirectory (directory ++ [name]) && !Ignore.isIgnored d (directory ++ [name]) &&
    d.tree.isFile (directory ++ [name, handlerFile]) &&
    !Ignore.isIgnored d (directory ++ [name, handlerFile])
  ((d.tree.entries directory).filter hasHandler).mergeSort fun a b => decide (a ≤ b)

/-- The handlers in a directory that is given by its path. -/
def ofDirectory (d : Disk) (path : String) (handlerFile : String) (roster : Roster) :
    Except SurveyError Survey :=
  match d.route path with
  | .error _ => .error (.notDirectory path)
  | .ok route =>
    if !d.tree.isDirectory route then .error (.notDirectory path)
    else
      match Ignore.faults d route with
      | fault :: faults => .error (.badRules path (fault :: faults))
      | [] =>
        let names := functions d route handlerFile
        .ok {
          targets := (names.filter fun name => !roster.isExcluded name).map fun name =>
            ⟨name, Path.join (Path.join path name) handlerFile, route ++ [name, handlerFile]⟩
          excluded := names.filter roster.isExcluded }

end Survey

end HandlerMigration
