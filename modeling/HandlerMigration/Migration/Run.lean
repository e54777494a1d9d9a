import HandlerMigration.Migration.Declarations
import HandlerMigration.Migration.Requests
import HandlerMigration.Migration.Responses

/-!
# A migration

The seven steps in their order, and a run of steps over a handler. Each step works on the text that
the one before it left; a step at fault ends the run.
-/

namespace HandlerMigration.Migration

inductive Step where
  | imports
  | headerTable
  | origin
  | preflight
  | auth
  | responseHeaders
  | errorBoundary
deriving DecidableEq, Repr

namespace Step

/-- All steps in their order. Later steps rely on earlier ones: authentication follows the shared
preflight block, and the headers of a response need the origin. -/
def standard : List Step :=
  [imports, headerTable, origin, preflight, auth, responseHeaders, errorBoundary]

def name : Step → String
  | imports => "imports"
  | headerTable => "headers_const"
  | origin => "origin"
  | preflight => "preflight"
  | auth => "auth"
  | responseHeaders => "response_headers"
  | errorBoundary => "error_boundary"

/-- The step of a name. -/
def ofName? (name : String) : Option Step := standard.find? fun step => step.name == name

def apply : Step → Context → Text → Except Fault Output
  | imports, ctx, t => normalizeImports ctx t
  | headerTable, _, t => removeHeaderTable t
  | origin, ctx, t => normalizeOrigin ctx t
  | preflight, _, t => delegatePreflight t
  | auth, ctx, t => injectAuth ctx t
  | responseHeaders, _, t => shareHeaders t
  | errorBoundary, ctx, t => guardCatches ctx t

/-- What a step reports while it works. -/
def log : Step → Context → Text → List String
  | imports, ctx, t => normalizeImportsLog ctx t
  | preflight, _, t => delegatePreflightLog t
  | auth, ctx, t => injectAuthLog ctx t
  | _, _, _ => []

end Step

/-- A line of the record of a run. -/
structure Note where
  /-- The place of the step in the run, from one on. -/
  number : Nat
  step : Step
  outcome : Outcome
  message : String
deriving DecidableEq, Repr

/-- A step that was at fault. -/
structure Failure where
  step : Step
  fault : Fault
deriving DecidableEq, Repr

def Failure.message (f : Failure) : String :=
  let step := f.step.name
  s!"Step `{step}` failed"

/-- The result of a run. -/
structure Result where
  text : Text
  changed : Bool
  notes : List Note
deriving DecidableEq, Repr

namespace Result

def count (r : Result) (outcome : Outcome) : Nat :=
  (r.notes.filter fun note => note.outcome == outcome).length

def warnings (r : Result) : List Note := r.notes.filter fun note => note.outcome == .warning

def hasWarnings (r : Result) : Bool := r.count .warning > 0

end Result

/-- The notes of a step. -/
def notesOf (number : Nat) (step : Step) (output : Output) : List Note :=
  output.notes.map fun note => ⟨number, step, note.1, note.2⟩

/-- The text and the notes that steps leave, the first of them being the `number`-th of its run. -/
def runFrom (ctx : Context) : (number : Nat) → List Step → Text → Except Failure (Text × List Note)
  | _, [], t => .ok (t, [])
  | number, step :: steps, t =>
    match step.apply ctx t with
    | .error fault => .error ⟨step, fault⟩
    | .ok output =>
      match runFrom ctx (number + 1) steps (output.text?.getD t) with
      | .error failure => .error failure
      | .ok (text, notes) => .ok (text, notesOf number step output ++ notes)

/-- A run of steps over the text of a handler. -/
def run (steps : List Step) (ctx : Context) (t : Text) : Except Failure Result :=
  match runFrom ctx 1 steps t with
  | .error failure => .error failure
  | .ok (text, notes) => .ok ⟨text, text != t, notes⟩

/-- What a run reports while it works. -/
def logFrom (ctx : Context) : (number : Nat) → List Step → Text → List String
  | _, [], _ => []
  | number, step :: steps, t =>
    step.log ctx t ++
    match step.apply ctx t with
    | .error _ => []
    | .ok output =>
      let change := if output.text?.isSome then "changed" else "no change"
      let name := step.name
      s!"{ctx.name}: step {number} ({name}) {change}" ::
        logFrom ctx (number + 1) steps (output.text?.getD t)

def log (steps : List Step) (ctx : Context) (t : Text) : List String := logFrom ctx 1 steps t

end HandlerMigration.Migration
