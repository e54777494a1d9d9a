import HandlerMigration.Command.Report
import HandlerMigration.Diff.Unified
import HandlerMigration.Handler.Survey

/-!
# Batches

The migration of all handlers of a directory, one after the other. A handler that cannot be read or
migrated is reported and the others go on; a cut at an offset that does not exist ends the batch.
-/

namespace HandlerMigration.Command

/-- What came of one handler. -/
inductive Attempt where
  | migrated (old : Text) (result : Migration.Result)
  | failed (message : String)
  | aborted

/-- Reads and migrates one handler. -/
def attempt (d : Disk) (ctx : Context) (target : Target) : Attempt :=
  match d.readRoute target.route with
  | .error cause => .failed s!"Failed to read {target.path}: {cause.message}"
  | .ok text =>
    match Migration.run Migration.Step.standard ctx text.toList with
    | .ok result => .migrated text.toList result
    | .error failure =>
      if failure.fault = .noSuchOffset then .aborted
      else
        .failed s!"Failed to migrate {target.path}: {failure.message}: {failure.fault.message}"

/-- How far a batch is. -/
structure Batch where
  disk : Disk
  out : String
  err : String
  summary : Summary
  /-- Whether the batch has ended before its time. -/
  aborted : Bool

namespace Batch

/-- What a changed handler leads to: its file is written, or the change is shown. -/
def applyChange (b : Batch) (mode : Mode) (target : Target) (old new : Text) : Batch :=
  match mode with
  | .write =>
    { b with disk :=
      { b.disk with tree := b.disk.tree.write target.route (String.ofList new).toUTF8 } }
  | .diff => { b with out := b.out ++ Diff.unified target.path old new }
  | .check => b

/-- The batch after one more handler. -/
def step (mode : Mode) (anchors : Anchors) (roster : Roster) (b : Batch) (target : Target) : Batch :=
  if b.aborted then b
  else
    let policy := roster.resolve target.name
    match attempt b.disk ⟨target.name, policy, anchors⟩ target with
    | .aborted => { b with aborted := true }
    | .failed message =>
      { b with
        err := b.err ++ failureReport target.name message
        summary := b.summary.addError }
    | .migrated old result =>
      let b := if result.changed then b.applyChange mode target old result.text else b
      { b with
        out := b.out ++ handlerReport target.name policy mode result
        summary := b.summary.add (Status.of result) }

/-- Migrates all handlers of a survey. -/
def run (mode : Mode) (anchors : Anchors) (roster : Roster) (d : Disk) (survey : Survey) : Batch :=
  survey.targets.foldl (step mode anchors roster) ⟨d, "", "", .start survey.excluded.length, false⟩

end Batch

end HandlerMigration.Command
