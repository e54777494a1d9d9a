import HandlerMigration.Command.Batch
import HandlerMigration.Settings.Discover

/-!
# The program

A line of arguments on a disk leads to an exit code, to what is printed, and to the disk behind it.
-/

namespace HandlerMigration.Command

/-- How the program ends. -/
inductive Ending where
  | exit (code : Nat)
  /-- It gives up inside a handler. -/
  | abort
deriving DecidableEq, Repr

structure Execution where
  ending : Ending
  out : String
  err : String
  disk : Disk

namespace Execution

/-- The end of a program that says no more than `out`. -/
def success (d : Disk) (out : String) : Execution := ⟨.exit 0, out, "", d⟩

/-- The end of a program that fails before it does anything. -/
def failure (d : Disk) (message : String) (causes : List String) : Execution :=
  ⟨.exit 1, "", errorReport message causes, d⟩

end Execution

/-- The settings for a directory, or the end of the program if there are none. -/
def withSettings (d : Disk) (directory : String) (config : Option String)
    (k : Settings → Execution) : Execution :=
  match Settings.discover d config directory with
  | .error e => .failure d "Failed to load configuration" (e.message :: e.cause?.toList)
  | .ok s => k s

/-- The handlers in a directory, or the end of the program if it cannot be searched. -/
def withSurvey (d : Disk) (directory : String) (s : Settings) (k : Survey → Execution) :
    Execution :=
  match Survey.ofDirectory d directory s.handlerFile s.roster with
  | .error e => .failure d e.message e.cause?.toList
  | .ok survey => k survey

/-- Migrates the handlers of a directory. -/
def executeRun (d : Disk) (directory : String) (config : Option String) (mode : Mode) : Execution :=
  withSettings d directory config fun s =>
    match s.anchors with
    | .error e => .failure d e.message e.cause?.toList
    | .ok anchors =>
      withSurvey d directory s fun survey =>
        let batch := Batch.run mode anchors s.roster d survey
        let notice :=
          if survey.targets.isEmpty then s!"No {s.handlerFile} files found under {directory}\n"
          else ""
        if batch.aborted then ⟨.abort, batch.out, notice ++ batch.err, batch.disk⟩
        else
          let out := batch.out ++ batch.summary.report mode
          match batch.summary.failure? mode with
          | none => ⟨.exit 0, out, notice ++ batch.err, batch.disk⟩
          | some message => ⟨.exit 1, out, notice ++ batch.err ++ errorReport message [], batch.disk⟩

/-- Lists the handlers of a directory and their policies. -/
def executeList (d : Disk) (directory : String) (config : Option String) : Execution :=
  withSettings d directory config fun s =>
    withSurvey d directory s fun survey =>
      let targets := survey.targets.map fun target =>
        (target.name, (s.roster.resolve target.name).label)
      let excluded := survey.excluded.map fun name => (name, "excluded")
      .success d (table (targets ++ excluded))

/-- Runs the program. -/
def execute (d : Disk) (arguments : List String) : Execution :=
  match Request.ofArguments arguments with
  | .error e => ⟨.exit 2, "", e.message, d⟩
  | .ok (.run directory config mode) => executeRun d directory config mode
  | .ok (.list directory config) => executeList d directory config
  | .ok .version => .success d versionText
  | .ok .help => .success d helpText

end HandlerMigration.Command
