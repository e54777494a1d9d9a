import HandlerMigration.Migration.Basic
import HandlerMigration.Shape.Client
import HandlerMigration.Shape.Request

/-!
# Migrating the work on a request

The origin is read once, preflight requests go to the shared helper, and the caller is
authenticated.
-/

namespace HandlerMigration.Migration

open Shape

/-! ### The origin -/

/-- Adds the line that reads the origin at the head of the handler. -/
def insertOrigin (ctx : Context) (t : Text) : Except Fault Output :=
  match ctx.anchors.entryPoint.find? t with
  | none => return .warn "handler entry point not found; origin line not inserted"
  | some entry => do
    let margin ← Fault.unlessCut (t.marginAt entry.span.start)
    let line := '\n' :: margin ++ [' ', ' '] ++ Canonical.originStatement.toList
    return .change (← Edit.applyAll t [.insert entry.span.stop line]) ["inserted origin extraction"]

/-- Leaves one line that reads the origin, in its canonical form. -/
def normalizeOrigin (ctx : Context) (t : Text) : Except Fault Output :=
  match originLines t with
  | [] => insertOrigin ctx t
  | first :: others => do
    let deletions := others.map fun o => Edit.delete o.line.start o.line.stop
    let canonical := first.isCanonical t
    let replacement :=
      Edit.mk first.statement.start first.statement.stop Canonical.originStatement.toList
    let edits := deletions ++ if canonical then [] else [replacement]
    if edits.isEmpty then return .skip "origin extraction already canonical"
    let text ← Edit.applyAll t edits
    let count := others.length
    return .change text
      ((if canonical then [] else ["normalized origin extraction"]) ++
        if count = 0 then [] else [s!"removed {count} duplicate origin line(s)"])

/-! ### Preflight requests -/

/-- Why no preflight block was replaced. -/
def preflightWarning (guards : List OptionsGuard) : String :=
  if guards.any fun g => g.stop.isNone then "OPTIONS block has unbalanced braces; left unchanged"
  else if guards.isEmpty then "no OPTIONS preflight block found"
  else "OPTIONS block does not return a response; left unchanged"

/-- Hands preflight requests to the shared helper. -/
def delegatePreflight (t : Text) : Except Fault Output :=
  if t.contains Canonical.preflightCall.toList then return .skip "preflight already delegates"
  else
    match firstHit t inlineHandlers with
    | none => return .warn (preflightWarning (optionsGuards t))
    | some hit => do
      let margin ← Fault.unlessCut (t.marginAt hit.span.start)
      let edit := Edit.mk hit.span.start hit.span.stop (Canonical.preflightBlock margin)
      let text ← Edit.applyAll t [edit]
      return .change text [s!"replaced inline preflight handler ({hit.recognizer})"]

/-- What `delegatePreflight` reports while it works. -/
def delegatePreflightLog (t : Text) : List String :=
  if t.contains Canonical.preflightCall.toList then []
  else
    match firstHit t inlineHandlers with
    | none => []
    | some hit => [s!"Preflight matched by '{hit.recognizer}' recognizer"]

/-! ### Authentication -/

/-- What happens to the client that a handler makes for itself. -/
inductive ClientPlan where
  /-- It is removed, and the client of the helper takes its name. -/
  | replace (hit : Hit Text)
  /-- Clients are left alone, for a reason if there are any. -/
  | keep (warning : Option String)
deriving DecidableEq, Repr

def ClientPlan.of (t : Text) : ClientPlan :=
  let calls := clientCalls t
  if calls = 0 then keep none
  else if calls = 1 then
    match firstHit t clients with
    | some hit => replace hit
    | none => keep (some "createClient call has an unrecognized shape; left in place")
  else keep (some s!"{calls} createClient calls; left in place")

/-- The statement behind which the caller is authenticated. -/
def authAnchor? (policy : Policy) (t : Text) : Option (Hit Unit) :=
  if policy = .userScopedAuth then firstHit t userIdStatements else firstHit t preflightBlocks

def authWarning (policy : Policy) : String :=
  if policy = .userScopedAuth then "no user_id body extraction found; auth not added"
  else "no OPTIONS block found; auth not added"

/-- The statement that authenticates the caller. -/
def authStatement (call : String) : ClientPlan → Text
  | .replace hit =>
    "const \x7b serviceClient: ".toList ++ hit.holds ++ " \x7d = await ".toList ++ call.toList ++ [';']
  | .keep _ => "await ".toList ++ call.toList ++ [';']

/-- The deletion of the client that the helper replaces. -/
def clientDeletion (t : Text) : ClientPlan → Except Fault (List Edit)
  | .replace hit => do
    return [← Fault.unlessCut (Edit.deleteLines t hit.span.start hit.span.stop)]
  | .keep _ => return []

/-- What is to be said about the client. -/
def clientNotes : ClientPlan → List (Outcome × String)
  | .replace hit =>
    let name := String.ofList hit.holds
    [(.applied, s!"removed {hit.recognizer} client construction `{name}`")]
  | .keep (some warning) => [(.warning, warning)]
  | .keep none => []

/-- Authenticates the caller by the shared helper. -/
def injectAuth (ctx : Context) (t : Text) : Except Fault Output :=
  if t.contains Canonical.authMarker.toList then return .skip "auth helper already awaited"
  else
    match ctx.policy.call? with
    | none => return .skip "CORS-only function"
    | some call =>
      match authAnchor? ctx.policy t with
      | none => return .warn (authWarning ctx.policy)
      | some anchor => do
        let plan := ClientPlan.of t
        let statement := authStatement call plan
        let deletions ← clientDeletion t plan
        let margin ← Fault.unlessCut (t.marginAt anchor.span.start)
        let insertion := Edit.insert anchor.span.stop ('\n' :: margin ++ statement)
        let text ← Edit.applyAll t (deletions ++ [insertion])
        let inserted := String.ofList statement
        return ⟨some text, clientNotes plan ++ [(.applied, s!"inserted `{inserted}`")]⟩

/-- What `injectAuth` reports while it works. -/
def injectAuthLog (ctx : Context) (t : Text) : List String :=
  if t.contains Canonical.authMarker.toList || ctx.policy.call?.isNone then []
  else
    match authAnchor? ctx.policy t with
    | none => []
    | some anchor => [s!"Auth anchored after '{anchor.recognizer}'"]

end HandlerMigration.Migration
