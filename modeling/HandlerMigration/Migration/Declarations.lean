import HandlerMigration.Handler.Canonical
import HandlerMigration.Migration.Basic
import HandlerMigration.Shape.Declaration

/-!
# Migrating the head of a handler

The shared helpers are imported, and the handler's own table of headers goes.
-/

namespace HandlerMigration.Migration

open Shape

/-! ### Imports -/

/-- The modules that a handler imports from, and the names it needs of each. -/
def requiredImports (policy : Policy) : List (String × List String) :=
  (Canonical.corsModule, [Canonical.corsHeadersHelper, Canonical.preflightHelper]) ::
  match policy.helper? with
  | some helper => [(Canonical.authModule, [helper])]
  | none => []

/-- What is left to be done for one required module. -/
inductive ImportNeed where
  | none
  /-- Names are to be added at an offset inside the braces. -/
  | names (offset : Nat) (missing : List String) (module : String)
  /-- The whole line is to be added. -/
  | line (text : String)
deriving DecidableEq, Repr

namespace ImportNeed

def of (t : Text) (required : String × List String) : ImportNeed :=
  match moduleImport? t required.1.toList with
  | some i =>
    let missing := required.2.filter fun name => !i.imports t name.toList
    if missing.isEmpty then none else names (i.appendOffset t) missing required.1
  | Option.none => line (Canonical.importLine required.2 required.1)

/-- The edit that adds names, with its message. -/
def extension? : ImportNeed → Option (Edit × String)
  | names offset missing module =>
    let list := ", ".intercalate missing
    some (.insert offset (", " ++ list).toList, s!"added {list} to the {module} import")
  | _ => Option.none

def line? : ImportNeed → Option String
  | line text => some text
  | _ => Option.none

end ImportNeed

/-- The end of the import behind which new imports go: the one that the user's pattern finds, or else
the last that takes one line. -/
def importAnchor? (ctx : Context) (t : Text) : Option Nat :=
  match ctx.anchors.serverImport.find? t with
  | some m => some m.span.stop
  | none => (lastImportLine? t).map (·.stop)

/-- Adds whole lines behind the line of an offset. -/
def insertLines (t : Text) (anchor : Nat) (lines : List String) : Except Fault Edit := do
  let offset ← Fault.unlessCut (t.lineEnd (anchor - 1))
  let block := ("\n".intercalate lines).toList
  if offset = t.size && !t.endsWith ['\n'] then return .insert offset ('\n' :: block)
  else return .insert offset (block ++ ['\n'])

/-- Imports the shared helpers that the policy needs. -/
def normalizeImports (ctx : Context) (t : Text) : Except Fault Output := do
  let needs := (requiredImports ctx.policy).map (ImportNeed.of t)
  let extensions := needs.filterMap ImportNeed.extension?
  let lines := needs.filterMap ImportNeed.line?
  let edits := extensions.map (·.1)
  let messages := extensions.map (·.2)
  if lines.isEmpty then
    if edits.isEmpty then return .skip "shared helper imports already present"
    else return .change (← Edit.applyAll t edits) messages
  else
    match importAnchor? ctx t with
    | some anchor =>
      let edit ← insertLines t anchor lines
      let text ← Edit.applyAll t (edits ++ [edit])
      return .change text (messages ++ lines.map fun line => s!"inserted `{line}`")
    | none =>
      let list := " and ".intercalate lines
      let warning := Output.warn s!"no import to anchor on; could not add {list}"
      if edits.isEmpty then return warning
      else
        let output := Output.change (← Edit.applyAll t edits) messages
        return { output with notes := warning.notes ++ output.notes }

/-- What `normalizeImports` reports while it works. -/
def normalizeImportsLog (ctx : Context) (t : Text) : List String :=
  let needs := (requiredImports ctx.policy).map (ImportNeed.of t)
  if (needs.filterMap ImportNeed.line?).isEmpty || ctx.anchors.serverImport.occursIn t then []
  else ["No serve import, falling back to the last import line"]

/-! ### The table of headers -/

/-- Removes the handler's own table of headers and the lines that stand in for it. -/
def removeHeaderTable (t : Text) : Except Fault Output := do
  let table := (headerTable? t).toList
  let aliases := headerAliases t
  if table.isEmpty && aliases.isEmpty then return .skip "no local corsHeaders definition"
  let edits ← (table ++ aliases).mapM fun span =>
    Fault.unlessCut (Edit.deleteLines t span.start span.stop)
  let text ← Edit.applyAll t edits
  let removed := if table.isEmpty then [] else ["removed local corsHeaders table"]
  let count := aliases.length
  let unaliased := if count = 0 then [] else [s!"removed {count} corsHeaders alias line(s)"]
  return .change text (removed ++ unaliased)

end HandlerMigration.Migration
