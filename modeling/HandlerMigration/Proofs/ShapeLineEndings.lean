import HandlerMigration.Proofs.GuardedCatches
import HandlerMigration.Proofs.PatternLineEndings
import HandlerMigration.Shape.Request

/-!
# Shapes that end with their line

Header tables, header aliases, origin lines and catch blocks all end where a line does. None of their patterns
starts with a newline or ends inside of a line end, so that what is found in a text is found in `crlf t` too, at
the places that `crlfOffset` gives, and nothing else is (`lineShapes_crlf`).
-/

namespace HandlerMigration

open Text

namespace Shape

variable {t : Text}

def OriginLine.map (f : Nat → Nat) (o : OriginLine) : OriginLine := ⟨o.line.map f, o.statement.map f⟩

def CatchBlock.map (f : Nat → Nat) (block : CatchBlock) : CatchBlock :=
  ⟨f block.bodyStart, f block.brace, block.binding⟩

open Pattern Piece

theorem findAll_of_lineFit {p q : Pattern} (hp : p.lineFit = some .whole) (hq : Agrees t q q)
    (hsolid : (p ++ q).isSolid = true) (hnewline : (p ++ q).atNewline = some .refuses) :
    (p ++ q).findAll (crlf t) = ((p ++ q).findAll t).map (Match.crlf t) :=
  findAll_crlf (solid_of_isSolid hsolid) (solid_of_isSolid hsolid) (.append hp hq) (refuses_of_atNewline hnewline)

theorem newline_not_mem_binding {block : CatchBlock} (h : block ∈ catchBlocks t) : '\n' ∉ block.binding := by
  obtain ⟨_, _, _, _, _, -, -, -, hword, -⟩ := mem_catchBlocks h
  intro hmem
  rcases hword _ hmem with hnewline | hnewline
  · exact absurd hnewline (by decide)
  · exact absurd hnewline (by decide)

theorem catchBlocks_crlf (hr : '\r' ∉ t) :
    catchBlocks (crlf t) = (catchBlocks t).map (CatchBlock.map t.crlfOffset) := by
  have hfound : catchPattern.findAll (crlf t) = (catchPattern.findAll t).map (Match.crlf t) :=
    findAll_of_lineFit (by decide) (agrees_lineBreak hr) (by decide) (by decide)
  have hblock : ∀ m, catchBlock? (crlf t) (m.crlf t) =
      (catchBlock? t m).map fun block => { block.map t.crlfOffset with binding := crlf block.binding } := by
    intro m
    simp only [catchBlock?, Match.group?_crlf]
    cases m.group? 1 with
    | none => rfl
    | some binding =>
      cases m.group? 2 with
      | none => rfl
      | some brace => exact congrArg (fun u => some (CatchBlock.mk _ _ u)) (slice_crlf t binding)
  calc catchBlocks (crlf t)
      = (catchPattern.findAll t).filterMap fun m => catchBlock? (crlf t) (m.crlf t) := by
        rw [catchBlocks_eq, hfound, List.filterMap_map]
        rfl
    _ = (catchBlocks t).map fun block => { block.map t.crlfOffset with binding := crlf block.binding } := by
        rw [catchBlocks_eq, List.map_filterMap]
        exact List.filterMap_congr fun m _ => hblock m
    _ = (catchBlocks t).map (CatchBlock.map t.crlfOffset) := by
        refine List.map_congr_left fun block hmem => ?_
        rw [crlf_eq_self (newline_not_mem_binding hmem)]
        rfl

/-- What is found of each shape is the same with both line ends, at the places where the conversion puts it. -/
theorem lineShapes_crlf (hr : '\r' ∉ t) :
    headerTable? (crlf t) = (headerTable? t).map (Span.map t.crlfOffset) ∧
    headerAliases (crlf t) = (headerAliases t).map (Span.map t.crlfOffset) ∧
    originLines (crlf t) = (originLines t).map (OriginLine.map t.crlfOffset) ∧
    catchBlocks (crlf t) = (catchBlocks t).map (CatchBlock.map t.crlfOffset) := by
  have hend := agrees_lineEnd hr
  refine ⟨?_, ?_, ?_, catchBlocks_crlf hr⟩
  · have hfound : headerTablePattern.findAll (crlf t) = (headerTablePattern.findAll t).map (Match.crlf t) :=
      findAll_of_lineFit (by decide) hend (by decide) (by decide)
    rw [headerTable?, headerTable?, find?_eq_head?, find?_eq_head?, hfound, List.head?_map, Option.map_map,
      Option.map_map]
    rfl
  · have hfound : headerAliasPattern.findAll (crlf t) = (headerAliasPattern.findAll t).map (Match.crlf t) :=
      findAll_of_lineFit (by decide) (.append (by decide) hend) (by decide) (by decide)
    rw [headerAliases, headerAliases, hfound, List.map_map, List.map_map]
    rfl
  · have hfound : originPattern.findAll (crlf t) = (originPattern.findAll t).map (Match.crlf t) :=
      findAll_of_lineFit (by decide) hend (by decide) (by decide)
    rw [originLines, originLines, hfound, List.filterMap_map, List.map_filterMap]
    refine List.filterMap_congr fun m _ => ?_
    rw [Function.comp_apply, Match.group?_crlf, Option.map_map, Option.map_map]
    rfl

/-- A table of headers on two lines. -/
def tableOnTwoLines : Text :=
  ['c', 'o', 'n', 's', 't', ' ', 'c', 'o', 'r', 's', 'H', 'e', 'a', 'd', 'e', 'r', 's', '=', '\n', '{', '}', '\n']

theorem lineShapes_crlf_tableOnTwoLines : '\r' ∉ tableOnTwoLines ∧
    headerTable? tableOnTwoLines = some ⟨0, 22⟩ ∧ headerTable? (crlf tableOnTwoLines) = some ⟨0, 24⟩ ∧
    headerAliases (crlf tableOnTwoLines) = (headerAliases tableOnTwoLines).map (Span.map tableOnTwoLines.crlfOffset) ∧
    originLines (crlf tableOnTwoLines) = (originLines tableOnTwoLines).map (OriginLine.map tableOnTwoLines.crlfOffset) ∧
    catchBlocks (crlf tableOnTwoLines) =
      (catchBlocks tableOnTwoLines).map (CatchBlock.map tableOnTwoLines.crlfOffset) := by
  have hr : '\r' ∉ tableOnTwoLines := by decide
  have hfound : headerTable? tableOnTwoLines = some ⟨0, 22⟩ := by decide
  obtain ⟨htable, haliases, horigin, hcatch⟩ := lineShapes_crlf hr
  rw [hfound] at htable
  exact ⟨hr, hfound, htable, haliases, horigin, hcatch⟩

end Shape

end HandlerMigration
