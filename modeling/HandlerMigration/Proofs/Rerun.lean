import HandlerMigration.Proofs.Safeguards
import HandlerMigration.Settings.Basic

/-!
# A second run

A second run need not leave alone what a run left: a line that reads the origin is not recognized if
other code follows on the same line, and the second run inserts another one
(`rerun_changes_one_line_handler`). The last two steps are always settled after a run, though, so a second
run does nothing exactly if the first five are (`rerun_idle_iff`).
-/

namespace HandlerMigration.Migration

open Shape

variable {ctx : Context} {t : Text} {out : Result}

theorem responseHeaders_settled (h : run Step.standard ctx t = .ok out) :
    Step.responseHeaders.Settled ctx out.text := by
  obtain ⟨s, o₅, o₆, o₇, -, h₆, h₇, hout, -⟩ := exists_last_steps h
  rw [hout]
  exact headerSites_eq_nil_iff.2 (noSite_of_guardCatches h₇ (noSite_of_shareHeaders h₆))

theorem errorBoundary_settled (h : run Step.standard ctx t = .ok out) :
    Step.errorBoundary.Settled ctx out.text := by
  obtain ⟨s, o₅, o₆, o₇, -, -, h₇, hout, -⟩ := exists_last_steps h
  rw [hout]
  rcases guardCatches_cases h₇ with ⟨hnone, -, hrest⟩ | ⟨-, u, hu, hguard, -⟩
  · rw [hnone]
    exact hrest.imp_right (Or.imp_right And.left)
  · rw [hu]
    exact .inr (.inl hguard)

/-- A second run leaves the text alone and reports nothing applied exactly if the steps in front of the
headers of responses are settled. -/
theorem rerun_idle_iff (h : run Step.standard ctx t = .ok out) :
    (∃ out', run Step.standard ctx out.text = .ok out' ∧ out'.text = out.text ∧ out'.changed = false ∧
      ∀ n ∈ out'.notes, n.outcome ≠ .applied) ↔
    ∀ step ∈ [Step.imports, .headerTable, .origin, .preflight, .auth], step.Settled ctx out.text := by
  rw [run_idle_iff]
  have hstandard : Step.standard =
      [.imports, .headerTable, .origin, .preflight, .auth] ++ [.responseHeaders, .errorBoundary] := rfl
  rw [hstandard, List.forall_mem_append]
  refine and_iff_left ?_
  simp only [List.forall_mem_cons, List.not_mem_nil, false_imp_iff, implies_true, and_true]
  exact ⟨responseHeaders_settled h, errorBoundary_settled h⟩

/-- A context in which the entry point is any arrow in front of a brace. -/
def arrowContext : Context := ⟨"handler", .corsOnly, ⟨.text "=>\x7b", .text "std/http"⟩⟩

set_option maxRecDepth 20000 in
theorem rerun_idle_iff_handler :
    ∃ out, run Step.standard arrowContext "serve(async(req)=>\x7b\n\x7d".toList = .ok out ∧ out.changed = true ∧
      (∃ out', run Step.standard arrowContext out.text = .ok out' ∧ out'.text = out.text ∧ out'.changed = false ∧
        ∀ n ∈ out'.notes, n.outcome ≠ .applied) ∧
      ∀ step ∈ [Step.imports, .headerTable, .origin, .preflight, .auth], step.Settled arrowContext out.text := by
  have hidle : ((run Step.standard arrowContext "serve(async(req)=>\x7b\n\x7d".toList).toOption.any fun out =>
      out.changed && (run Step.standard arrowContext out.text).toOption.any fun out' =>
        out'.text == out.text && !out'.changed && out'.notes.all fun n => n.outcome != .applied) = true := by
    decide +kernel
  obtain ⟨out, hout, hidle⟩ := (Option.any_eq_true _ _).1 hidle
  obtain ⟨hchanged, hidle⟩ := Bool.and_eq_true_iff.1 hidle
  obtain ⟨out', hout', hidle⟩ := (Option.any_eq_true _ _).1 hidle
  simp only [Bool.and_eq_true, beq_iff_eq, Bool.not_eq_true', List.all_eq_true, bne_iff_ne] at hidle
  have hsecond : ∃ out', run Step.standard arrowContext out.text = .ok out' ∧ out'.text = out.text ∧
      out'.changed = false ∧ ∀ n ∈ out'.notes, n.outcome ≠ .applied :=
    ⟨out', toOption_eq_some hout', hidle.1.1, hidle.1.2, hidle.2⟩
  exact ⟨out, toOption_eq_some hout, hchanged, hsecond, (rerun_idle_iff (toOption_eq_some hout)).1 hsecond⟩

/-! ### A second run that changes the text -/

/-- The results of a run with the built-in anchors and of a second run over what it left. -/
def runTwice (policy : Policy) (t : Text) : Option (Result × Result) :=
  Settings.standard.anchors.toOption.bind fun anchors =>
    (run Step.standard ⟨"handler", policy, anchors⟩ t).toOption.bind fun out =>
      (run Step.standard ⟨"handler", policy, anchors⟩ out.text).toOption.map fun out' => (out, out')

theorem runTwice_eq_some {policy : Policy} {t : Text} {out out' : Result} (h : runTwice policy t = some (out, out')) :
    ∃ anchors, Settings.standard.anchors = .ok anchors ∧
      run Step.standard ⟨"handler", policy, anchors⟩ t = .ok out ∧
      run Step.standard ⟨"handler", policy, anchors⟩ out.text = .ok out' := by
  obtain ⟨anchors, hanchors, h⟩ := Option.bind_eq_some_iff.1 h
  obtain ⟨first, hfirst, h⟩ := Option.bind_eq_some_iff.1 h
  obtain ⟨second, hsecond, h⟩ := Option.map_eq_some_iff.1 h
  cases h
  exact ⟨anchors, toOption_eq_some hanchors, toOption_eq_some hfirst, toOption_eq_some hsecond⟩

set_option maxRecDepth 20000 in
/-- The body of the handler stands on the line of its brace, so that the line which a run inserts does not
end in front of it. A second run does not take it for one that reads the origin and inserts another. -/
theorem rerun_changes_one_line_handler :
    ∃ anchors out out', Settings.standard.anchors = .ok anchors ∧
      run Step.standard ⟨"handler", .corsOnly, anchors⟩ "serve(async(req)=>\x7b\x7d".toList = .ok out ∧
      run Step.standard ⟨"handler", .corsOnly, anchors⟩ out.text = .ok out' ∧
      out'.text ≠ out.text ∧ out'.changed = true ∧ ∃ n ∈ out'.notes, n.outcome = .applied := by
  have hchanged : (runTwice .corsOnly "serve(async(req)=>\x7b\x7d".toList).any (fun (out, out') =>
      out'.text != out.text && out'.changed && out'.notes.any fun n => n.outcome == .applied) = true := by
    decide +kernel
  obtain ⟨⟨out, out'⟩, htwice, h⟩ := (Option.any_eq_true _ _).1 hchanged
  obtain ⟨anchors, hanchors, hfirst, hsecond⟩ := runTwice_eq_some htwice
  simp only [Bool.and_eq_true, bne_iff_ne, List.any_eq_true, beq_iff_eq] at h
  exact ⟨anchors, out, out', hanchors, hfirst, hsecond, h.1.1, h.1.2, h.2⟩

end HandlerMigration.Migration
