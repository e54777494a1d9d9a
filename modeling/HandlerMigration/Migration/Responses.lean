import HandlerMigration.Handler.Canonical
import HandlerMigration.Migration.Basic
import HandlerMigration.Shape.Declaration
import HandlerMigration.Shape.Response

/-!
# Migrating the answers of a handler

Responses get the shared headers, and catch blocks hand a thrown response on to the caller.
-/

namespace HandlerMigration.Migration

open Shape

/-! ### Headers of a response -/

/-- What stands at a site when it is migrated. -/
def sharedHeaders : HeaderShape → String
  | .bare | .jsonOnly => "headers: " ++ Canonical.jsonHeaders
  | .spreadFirst | .spreadLast => Canonical.jsonHeaders
  | .trailingArgument => ", " ++ Canonical.corsHeadersHelper ++ "(origin))"

/-- Gives every response the shared headers. -/
def shareHeaders (t : Text) : Except Fault Output := do
  let sites := headerSites t
  if sites.isEmpty then
    let leftover := headerReferences t
    if leftover = 0 then return .skip "no corsHeaders response sites"
    else return .warn s!"{leftover} corsHeaders reference(s) in unrecognized positions"
  else
    let edits := sites.map fun site =>
      Edit.mk site.span.start site.span.stop (sharedHeaders site.shape).toList
    let text ← Edit.applyAll t edits
    let count := sites.length
    let output := Output.change text [s!"rewrote headers at {count} response site(s)"]
    let leftover := headerReferences text
    if leftover = 0 then return output
    else
      let warning := s!"{leftover} corsHeaders reference(s) remain in unrecognized positions"
      return { output with notes := output.notes ++ [(.warning, warning)] }

/-! ### Catch blocks -/

/-- Two columns more than the line that opens a catch block. -/
def innerMargin (t : Text) (block : CatchBlock) : Except Fault Text := do
  return (← Fault.unlessCut (t.marginAt block.brace)) ++ [' ', ' ']

/-- The margin of the first statement in a catch block: that of the first line that is not blank,
unless that line closes something. -/
def bodyMargin (t : Text) (block : CatchBlock) : Except Fault Text := do
  let (_, body) ← Fault.unlessCut (t.cut block.bodyStart)
  match body.lines.find? fun line => !line.trim.isEmpty with
  | some line => if line.trimStart.startsWith ['}'] then innerMargin t block else return line.margin
  | none => innerMargin t block

/-- The line that guards a catch block. -/
def catchGuard (t : Text) (block : CatchBlock) : Except Fault Edit := do
  let margin ← bodyMargin t block
  return .insert block.bodyStart (margin ++ Canonical.responseGuard block.binding ++ ['\n'])

/-- Hands responses that were thrown on to the caller. -/
def guardCatches (ctx : Context) (t : Text) : Except Fault Output :=
  if !ctx.policy.requiresAuth then return .skip "CORS-only function"
  else if (responseGuard? t).isSome then return .skip "Response guard already present"
  else
    let blocks := catchBlocks t
    if blocks.isEmpty then return .warn "no catch blocks found"
    else do
      let edits ← blocks.mapM (catchGuard t)
      let count := blocks.length
      return .change (← Edit.applyAll t edits) [s!"guarded {count} catch block(s)"]

end HandlerMigration.Migration
