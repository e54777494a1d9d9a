import HandlerMigration.Proofs.AuthInjection
import HandlerMigration.Proofs.CleanRun
import HandlerMigration.Proofs.OriginLines

/-!
# What the notes of a step say about its text

A step answers with a new text exactly if it notes that something was applied, and without one it makes a
single note. Main statement: the new text then differs from the old one, so that a run without an applied
note changed nothing (`audit_of_steps`).

That it differs has another reason for each step. Imports and guards make the text longer, and removed
lines make it shorter. A replaced origin statement may be as long as the old one (`eq_originStatement`).
For the other steps there is something that the new text has, or has not, and the old one has not, or has.
-/

namespace HandlerMigration

open Text

namespace Edit

/-- The edit puts a text in and takes none out. -/
def Inserts (e : Edit) : Prop := e.stop = e.start ∧ e.replacement ≠ []

/-- The edit takes a text out and puts none in. -/
def Removes (e : Edit) : Prop := e.start < e.stop ∧ e.replacement = []

section Size

variable {t u : Text} {edits : List Edit}

theorem ne_of_inserts (h : applyAll t edits = .ok u) (hne : edits ≠ []) (hedits : ∀ e ∈ edits, e.Inserts) : u ≠ t := by
  have hsize := size_lt_of_grow h hne fun e he => by
    obtain ⟨hspan, hnew⟩ := hedits e he
    have := size_pos hnew
    omega
  rintro rfl
  omega

theorem ne_of_removes (h : applyAll t edits = .ok u) (hne : edits ≠ []) (hedits : ∀ e ∈ edits, e.Removes) : u ≠ t := by
  have hsize := size_lt_of_shrink h hne fun e he => by
    obtain ⟨hspan, hnew⟩ := hedits e he
    rw [hnew, size_nil]
    omega
  rintro rfl
  omega

theorem removes_deleteLines {start stop : Nat} {e : Edit} (h : deleteLines t start stop = some e)
    (hlt : start < stop) : e.Removes := by
  unfold deleteLines at h
  split at h
  · cases h
    exact ⟨Nat.lt_of_lt_of_le hlt (Nat.le_add_right _ _), rfl⟩
  · cases h

end Size

end Edit

namespace Shape

open Pattern

variable {t : Text} {span : Span}

theorem start_lt_stop_of_headerTable? (h : headerTable? t = some span) : span.start < span.stop := by
  obtain ⟨m, hm, rfl⟩ := Option.map_eq_some_iff.1 h
  obtain ⟨a, w, b, stop, hfirst, hspan, -⟩ := find?_eq_some hm
  have hsolid : headerTablePattern.Solid := solid_of_isSolid rfl
  have hpos := size_pos (hsolid _ _ _ hfirst.occurs)
  rw [hspan, size_append]
  exact Nat.lt_add_of_pos_right hpos

theorem start_lt_stop_of_headerAliases (h : span ∈ headerAliases t) : span.start < span.stop := by
  obtain ⟨m, hm, rfl⟩ := List.mem_map.1 h
  have hsolid : headerAliasPattern.Solid := solid_of_isSolid rfl
  exact ((hsolid.lists_findAll t).le_start hsolid hm).2

end Shape

namespace Migration

open Shape

variable {ctx : Context} {t u : Text} {o : Output}

/-! ### New texts are new -/

theorem Step.not_settled {step : Step} (h : step.apply ctx t = .ok o) (hu : o.text? = some u) :
    ¬ step.Settled ctx t := by
  intro hs
  have hidle := ((Step.answers ctx t step).idle_iff h).2 hs
  rw [hidle.1] at hu
  cases hu

theorem inserts_extension {need : ImportNeed} {extension : Edit × String} (h : need.extension? = some extension) :
    extension.1.Inserts := by
  cases need with
  | names offset missing module =>
    cases h
    refine ⟨rfl, ?_⟩
    show (", " ++ ", ".intercalate missing).toList ≠ []
    rw [String.toList_append]
    exact List.append_ne_nil_of_left_ne_nil (by decide) _
  | none => cases h
  | line text => cases h

theorem inserts_insertLines {anchor : Nat} {lines : List String} {e : Edit} (h : insertLines t anchor lines = .ok e) :
    e.Inserts := by
  obtain ⟨offset, -, h⟩ := bind_eq_ok h
  dsimp only at h
  split_ifs at h
  · cases h
    exact ⟨rfl, by simp [Edit.insert]⟩
  · cases h
    exact ⟨rfl, by simp [Edit.insert]⟩

theorem ne_of_normalizeImports (h : normalizeImports ctx t = .ok o) (hu : o.text? = some u) : u ≠ t := by
  have hext : ∀ e ∈ ((requiredImports ctx.policy).map (ImportNeed.of t)).filterMap ImportNeed.extension?,
      e.1.Inserts := by
    intro e he
    obtain ⟨need, -, hneed⟩ := List.mem_filterMap.1 he
    exact inserts_extension hneed
  unfold normalizeImports at h
  simp only at h
  generalize ((requiredImports ctx.policy).map (ImportNeed.of t)).filterMap ImportNeed.extension? = extensions at *
  generalize ((requiredImports ctx.policy).map (ImportNeed.of t)).filterMap ImportNeed.line? = lines at *
  have hedits : ∀ e ∈ extensions.map (·.1), e.Inserts := List.forall_mem_map.2 hext
  by_cases hlines : lines.isEmpty = true
  · rw [if_pos hlines] at h
    split_ifs at h with hnone
    · cases h; cases hu
    · obtain ⟨u', happly, h⟩ := bind_eq_ok h
      cases h; cases hu
      exact Edit.ne_of_inserts happly (mt List.isEmpty_iff.2 hnone) hedits
  · rw [if_neg hlines] at h
    split at h
    · obtain ⟨edit, hedit, h⟩ := bind_eq_ok h
      obtain ⟨u', happly, h⟩ := bind_eq_ok h
      cases h; cases hu
      refine Edit.ne_of_inserts happly (by simp) (List.forall_mem_append.2 ⟨hedits, ?_⟩)
      exact List.forall_mem_singleton.2 (inserts_insertLines hedit)
    · split_ifs at h with hnone
      · cases h; cases hu
      · obtain ⟨u', happly, h⟩ := bind_eq_ok h
        cases h; cases hu
        exact Edit.ne_of_inserts happly (mt List.isEmpty_iff.2 hnone) hedits

theorem ne_of_removeHeaderTable (h : removeHeaderTable t = .ok o) (hu : o.text? = some u) : u ≠ t := by
  unfold removeHeaderTable at h
  by_cases hnone : ((headerTable? t).toList.isEmpty && (headerAliases t).isEmpty) = true
  · simp only [hnone, ↓reduceIte] at h
    cases h; cases hu
  · simp only [hnone, Bool.false_eq_true, ↓reduceIte] at h
    obtain ⟨edits, hedits, h⟩ := bind_eq_ok h
    obtain ⟨u', happly, h⟩ := bind_eq_ok h
    cases h; cases hu
    obtain ⟨hlength, hmem⟩ := mapM_ok hedits
    refine Edit.ne_of_removes happly ?_ fun e he => ?_
    · rintro rfl
      rw [List.length_nil, eq_comm, List.length_eq_zero_iff, List.append_eq_nil_iff] at hlength
      exact hnone (by rw [hlength.1, hlength.2]; rfl)
    · obtain ⟨span, hspan, he⟩ := hmem e he
      refine Edit.removes_deleteLines (unlessCut_eq_ok he) ?_
      rcases List.mem_append.1 hspan with hspan | hspan
      · exact start_lt_stop_of_headerTable? (Option.mem_toList.1 hspan)
      · exact start_lt_stop_of_headerAliases hspan

theorem statement_start_lt {first line : OriginLine} {others : List OriginLine} (h : originLines t = first :: others)
    (hline : line ∈ others) : first.statement.start < line.line.start := by
  have hpairwise := pairwise_originLines t
  rw [h] at hpairwise
  have hle := List.rel_of_pairwise_cons hpairwise hline
  obtain ⟨a, w, b, -, hstatement, -, hstop, hspells, -⟩ := mem_originLines (o := first) (t := t) (by simp [h])
  have hsolid : originStatementPattern.Solid := Pattern.solid_of_isSolid rfl
  have hpos := size_pos (hsolid _ _ _ hspells)
  rw [hstatement]
  rw [size_append] at hstop
  show size a < _
  omega

theorem removes_originLine {line : OriginLine} (h : line ∈ originLines t) :
    (Edit.delete line.line.start line.line.stop).Removes := ⟨start_lt_stop_of_originLine h, rfl⟩

theorem ne_of_insertOrigin (h : insertOrigin ctx t = .ok o) (hu : o.text? = some u) : u ≠ t := by
  unfold insertOrigin at h
  split at h
  · cases h; cases hu
  · obtain ⟨margin, -, h⟩ := bind_eq_ok h
    obtain ⟨u', happly, h⟩ := bind_eq_ok h
    cases h; cases hu
    exact Edit.ne_of_inserts happly (by simp) (List.forall_mem_singleton.2 ⟨rfl, by simp [Edit.insert]⟩)

theorem ne_of_replacement {first : OriginLine} {others : List OriginLine} (hlines : originLines t = first :: others)
    (hcanonical : first.isCanonical t = false)
    (h : Edit.applyAll t (others.map (fun o => Edit.delete o.line.start o.line.stop) ++
      [⟨first.statement.start, first.statement.stop, Canonical.originStatement.toList⟩]) = .ok u) : u ≠ t := by
  obtain ⟨a, w, b, rfl, hstatement, -, -, hspells, hsemicolon⟩ := mem_originLines (o := first) (t := t) (by simp [hlines])
  obtain ⟨pre, old, post, new, ht, hpre, -, rfl⟩ := Edit.exists_first_of_applyAll h
    (List.mem_append_right _ (List.mem_singleton_self _)) fun e he hne => by
      rcases List.mem_append.1 he with he | he
      · obtain ⟨o, ho, rfl⟩ := List.mem_map.1 he
        exact statement_start_lt hlines ho
      · exact absurd (List.mem_singleton.1 he) hne
  intro hsame
  -- all deletions are behind the statement, so the new text is the old one up to it
  rw [hstatement] at hpre
  obtain ⟨rfl, -⟩ := append_inj_of_size ht.symm hpre
  have hread : w ++ b = Canonical.originStatement.toList ++ new := (List.append_cancel_left hsame).symm
  have hw := eq_originStatement hspells hsemicolon hread
  have hslice := slice_append pre w b
  rw [← size_append, ← hstatement, List.append_assoc] at hslice
  rw [OriginLine.isCanonical, hslice, hw, beq_self_eq_true] at hcanonical
  cases hcanonical

theorem ne_of_normalizeOrigin (h : normalizeOrigin ctx t = .ok o) (hu : o.text? = some u) : u ≠ t := by
  unfold normalizeOrigin at h
  split at h
  · exact ne_of_insertOrigin h hu
  · next first others hlines =>
    by_cases hcanonical : first.isCanonical t = true
    · simp only [hcanonical, ↓reduceIte, List.append_nil] at h
      by_cases hnone : (others.map fun o => Edit.delete o.line.start o.line.stop).isEmpty = true
      · rw [if_pos hnone] at h
        cases h; cases hu
      · rw [if_neg hnone] at h
        obtain ⟨u', happly, h⟩ := bind_eq_ok h
        cases h; cases hu
        refine Edit.ne_of_removes happly (mt List.isEmpty_iff.2 hnone) (List.forall_mem_map.2 fun line hline => ?_)
        exact removes_originLine (t := t) (by rw [hlines]; exact List.mem_cons_of_mem _ hline)
    · simp only [hcanonical, Bool.false_eq_true, ↓reduceIte] at h
      rw [if_neg (by simp)] at h
      obtain ⟨u', happly, h⟩ := bind_eq_ok h
      cases h; cases hu
      exact ne_of_replacement hlines (by simpa using hcanonical) happly

theorem preflightCall_infix_block (m : Text) : Canonical.preflightCall.toList <:+: Canonical.preflightBlock m := by
  have hin : ∀ a b c d e : Text, c <:+: a ++ m ++ b ++ c ++ d ++ m ++ e := fun a b c d e =>
    ⟨a ++ m ++ b, d ++ m ++ e, by simp only [List.append_assoc]⟩
  exact hin _ _ _ _ _

theorem ne_of_delegatePreflight (h : delegatePreflight t = .ok o) (hu : o.text? = some u) : u ≠ t := by
  unfold delegatePreflight at h
  split_ifs at h with hcall
  · cases h; cases hu
  · split at h
    · cases h; cases hu
    · obtain ⟨m, -, h⟩ := bind_eq_ok h
      obtain ⟨u', happly, h⟩ := bind_eq_ok h
      cases h; cases hu
      rintro rfl
      have hin := Edit.infix_of_applyAll happly (List.mem_singleton_self _)
      exact hcall (contains_iff.2 ((preflightCall_infix_block m).trans hin))

theorem ne_of_injectAuth (h : injectAuth ctx t = .ok o) (hu : o.text? = some u) : u ≠ t := by
  obtain ⟨text?, notes⟩ := o
  obtain rfl : text? = some u := hu
  obtain ⟨call, anchor, margin, deletions, hmarker, hcall, -, -, -, happly⟩ := injectAuth_eq_some_iff.1 ⟨notes, h⟩
  rintro rfl
  have hin := Edit.infix_of_applyAll happly (List.mem_append_right _ (List.mem_singleton_self _))
  exact hmarker (((marker_infix_statement hcall _).trans (List.suffix_append ('\n' :: margin) _).isInfix).trans hin)

theorem ne_of_shareHeaders (h : shareHeaders t = .ok o) (hu : o.text? = some u) : u ≠ t := by
  rintro rfl
  -- the lengths tell nothing, as a site may grow or shrink; but no site is left
  have hnone := noSite_of_shareHeaders h
  rw [hu, Option.getD_some] at hnone
  rcases (shareHeaders_cases h).2 with ⟨-, htext, -⟩ | ⟨hsites, -⟩
  · rw [hu] at htext; cases htext
  · exact hsites (headerSites_eq_nil_iff.2 hnone)

theorem ne_of_guardCatches (h : guardCatches ctx t = .ok o) (hu : o.text? = some u) : u ≠ t := by
  have hsettled : ¬ Step.errorBoundary.Settled ctx t := Step.not_settled h hu
  rintro rfl
  rcases guardCatches_cases h with ⟨hnone, -⟩ | ⟨-, u', hu', hguard, -⟩
  · rw [hu] at hnone; cases hnone
  · rw [hu] at hu'
    cases hu'
    exact hsettled (.inr (.inl hguard))

theorem Step.ne_of_apply {step : Step} (h : step.apply ctx t = .ok o) (hu : o.text? = some u) : u ≠ t := by
  cases step with
  | imports => exact ne_of_normalizeImports h hu
  | headerTable => exact ne_of_removeHeaderTable h hu
  | origin => exact ne_of_normalizeOrigin h hu
  | preflight => exact ne_of_delegatePreflight h hu
  | auth => exact ne_of_injectAuth h hu
  | responseHeaders => exact ne_of_shareHeaders h hu
  | errorBoundary => exact ne_of_guardCatches h hu

/-! ### Notes -/

/-- Without a new text a step says that nothing was to be done, or that nothing could be. -/
theorem Step.single_note {step : Step} (h : step.apply ctx t = .ok o) (hnone : o.text? = none) :
    ∃ m, o.notes = [(.skipped, m)] ∨ o.notes = [(.warning, m)] := by
  by_cases hsettled : step.Settled ctx t
  · by_cases hclean : step.Clean ctx t
    · obtain ⟨m, hm⟩ := Step.skips_of_clean hclean
      cases hm.symm.trans h
      exact ⟨m, .inl rfl⟩
    · obtain ⟨m, hm⟩ := Step.warns_of_settled hsettled hclean
      cases hm.symm.trans h
      exact ⟨m, .inr rfl⟩
  · obtain ⟨hsome, -⟩ := (Step.answers ctx t step).active hsettled o h
    rw [hnone] at hsome
    cases hsome

theorem Step.isSome_iff_applied {step : Step} (h : step.apply ctx t = .ok o) :
    o.text?.isSome = true ↔ ∃ m, (Outcome.applied, m) ∈ o.notes := by
  by_cases hsettled : step.Settled ctx t
  · obtain ⟨hnone, hnotes⟩ := ((Step.answers ctx t step).idle_iff h).2 hsettled
    rw [hnone]
    exact iff_of_false (by decide) fun ⟨m, hm⟩ => hnotes _ hm rfl
  · obtain ⟨hsome, hm⟩ := (Step.answers ctx t step).active hsettled o h
    exact iff_of_true hsome hm

theorem text_eq_of_runFrom {number : Nat} {steps : List Step} {notes : List Note}
    (h : runFrom ctx number steps t = .ok (u, notes)) (hnotes : ∀ n ∈ notes, n.outcome ≠ .applied) : u = t := by
  induction steps generalizing number t notes with
  | nil => cases h; rfl
  | cons step steps ih =>
    obtain ⟨o, notes', ho, hrest, rfl⟩ := runFrom_cons_eq_ok.1 h
    obtain ⟨hstep, hsteps⟩ := List.forall_mem_append.1 hnotes
    have hnone : o.text? = none := by
      by_contra hsome
      obtain ⟨m, hm⟩ := (Step.isSome_iff_applied ho).1 (Option.isSome_iff_ne_none.2 hsome)
      exact forall_notesOf.1 hstep _ hm rfl
    rw [hnone] at hrest
    exact ih hrest hsteps

/-- The notes of every step account for its text: a new text goes with an applied note and differs from the
old one, and without a new text there is one note. So a run that applied nothing changed nothing. -/
theorem audit_of_steps (ctx : Context) :
    (∀ (step : Step) (t : Text) (o : Output), step.apply ctx t = .ok o →
      (o.text?.isSome = true ↔ ∃ m, (Outcome.applied, m) ∈ o.notes) ∧
      (∀ u, o.text? = some u → u ≠ t) ∧
      (o.text? = none → ∃ m, o.notes = [(.skipped, m)] ∨ o.notes = [(.warning, m)])) ∧
    ∀ (t : Text) (out : Result), run Step.standard ctx t = .ok out →
      (∀ n ∈ out.notes, n.outcome ≠ .applied) → out.text = t ∧ out.changed = false := by
  refine ⟨fun step t o h => ?_, fun t out h hnotes => ?_⟩
  · exact ⟨Step.isSome_iff_applied h, fun u hu => Step.ne_of_apply h hu, Step.single_note h⟩
  · obtain ⟨hrun, hchanged⟩ := run_eq_ok.1 h
    have htext := text_eq_of_runFrom hrun hnotes
    exact ⟨htext, by rw [hchanged, htext, bne_self_eq_false]⟩

/-- The canonical statement but for its quotes. -/
def quotedOrigin : Text := "const origin = req.headers.get(\"Origin\");".toList

set_option maxRecDepth 20000 in
/-- The new text is as long as the old one. In the other text there is nothing to work on. -/
theorem audit_of_steps_quotedOrigin :
    (∃ o u, Step.origin.apply ⟨"f", .corsOnly, ⟨.text "serve(", .text "std/http"⟩⟩ quotedOrigin = .ok o ∧
      o.text? = some u ∧ size u = size quotedOrigin ∧ u ≠ quotedOrigin) ∧
    ∃ out, run Step.standard ⟨"f", .corsOnly, ⟨.text "serve(", .text "std/http"⟩⟩ ['x'] = .ok out ∧
      (∀ n ∈ out.notes, n.outcome ≠ .applied) ∧ out.text = ['x'] ∧ out.changed = false := by
  have hstep : (Step.origin.apply ⟨"f", .corsOnly, ⟨.text "serve(", .text "std/http"⟩⟩ quotedOrigin).toOption =
      some (.change Canonical.originStatement.toList ["normalized origin extraction"]) ∧
      size Canonical.originStatement.toList = size quotedOrigin := by decide +kernel
  have hrun : ∃ out ∈ (run Step.standard ⟨"f", .corsOnly, ⟨.text "serve(", .text "std/http"⟩⟩ ['x']).toOption,
      ∀ n ∈ out.notes, n.outcome ≠ .applied := by decide +kernel
  obtain ⟨hsteps, hruns⟩ := audit_of_steps ⟨"f", .corsOnly, ⟨.text "serve(", .text "std/http"⟩⟩
  have happly := toOption_eq_some hstep.1
  obtain ⟨out, hout, hnotes⟩ := hrun
  have hout := toOption_eq_some hout
  exact ⟨⟨_, _, happly, rfl, hstep.2, (hsteps _ _ _ happly).2.1 _ rfl⟩, out, hout, hnotes, hruns _ _ hout hnotes⟩

end Migration

end HandlerMigration
