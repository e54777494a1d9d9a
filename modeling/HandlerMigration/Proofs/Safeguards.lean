import HandlerMigration.Proofs.Rest

/-!
# No silent failure

A run that should authenticate the caller leaves the call of the helper in the text or says that it could
not add it, and so it is with the guard of the catch blocks. It says that the text still names the header
table exactly if it does (`safeguards_of_run`).

The steps that see to this are followed by others. The call stays because no header site holds a part of
it but its last letter, and a replaced site still starts with that letter.
-/

namespace HandlerMigration

theorem Text.contains_iff {t part : Text} : t.contains part = true ↔ part <:+: t := by
  induction t with
  | nil => simp [contains, List.isEmpty_iff]
  | cons c t ih =>
    rw [contains, Bool.or_eq_true, List.isPrefixOf_iff_prefix, ih, List.infix_cons_iff]

namespace Shape

open Text Canonical

/-! ### The call of the helper -/

/-- The start of the call that authenticates the caller. -/
def markerText : Text :=
  ['a', 'w', 'a', 'i', 't', ' ', 'v', 'a', 'l', 'i', 'd', 'a', 't', 'e', 'A', 'u', 't', 'h']

theorem authMarker_toList : authMarker.toList = markerText := by decide

theorem final_not_mem_marker : ∀ shape ∈ HeaderShape.all, shape.final ∉ markerText := by decide

theorem marker_tails : ∀ shape ∈ HeaderShape.all, ∀ s ∈ markerText.tails, s.head? = some shape.first →
    s = [shape.first] := by decide

theorem marker_of_sites {done rest out : Text} (h : Rewrites ReplacesSite NoSiteAt done rest out)
    (hm : markerText <:+: rest) : markerText <:+: out := by
  refine h.infix_out ?_ ?_ ?_ hm
  · rintro pre old post new ⟨shape, ho, -⟩ c hc
    rw [List.getLast?_append, HeaderShape.getLast?_eq ho, Option.some_or] at hc
    cases hc
    exact final_not_mem_marker _ shape.mem_all
  · rintro pre old post new ⟨shape, ho, -⟩ hin
    exact (isSite_of_occurs ho).not_mem.2.2 (hin.subset (by decide))
  · rintro pre old post new ⟨shape, ho, rfl⟩ s hs hsuffix ⟨r, rfl⟩
    have hhead : s.head? = some shape.first := by
      obtain ⟨c, s, rfl⟩ := List.exists_cons_of_ne_nil hs
      have := HeaderShape.head?_eq ho
      simpa using this
    rw [marker_tails _ shape.mem_all s ((List.mem_tails _ _).2 hsuffix) hhead, HeaderShape.sharedHeaders_eq]
    have hfront := shape.head?_front
    obtain ⟨c, front, hc⟩ := List.exists_cons_of_ne_nil (l := shape.front) (by intro h0; simp [h0] at hfront)
    rw [hc] at hfront ⊢
    cases hfront
    exact ⟨_, rfl⟩

end Shape

namespace Migration

open Text Shape

theorem exists_call {policy : Policy} {call : String} (hcall : policy.call? = some call) :
    ∃ r, "await ".toList ++ call.toList = markerText ++ r ∧ 'w' ∉ r := by
  cases policy with
  | plainAuth => cases hcall; exact ⟨"(req)".toList, by decide⟩
  | userScopedAuth => cases hcall; exact ⟨"WithUserId(req, user_id)".toList, by decide⟩
  | corsOnly => cases hcall

theorem marker_infix_statement {policy : Policy} {call : String} (hcall : policy.call? = some call)
    (plan : ClientPlan) : markerText <:+: authStatement call plan := by
  obtain ⟨r, hr, -⟩ := exists_call hcall
  have hin : ∀ {p q a b : Text}, b ++ call.toList = markerText ++ r → q = a ++ b →
      markerText <:+: p ++ q ++ call.toList ++ [';'] := by
    rintro p q a b hb rfl
    refine ⟨p ++ a, r ++ [';'], ?_⟩
    calc p ++ a ++ markerText ++ (r ++ [';']) = p ++ a ++ (markerText ++ r) ++ [';'] := by
          simp only [List.append_assoc]
      _ = p ++ (a ++ b) ++ call.toList ++ [';'] := by rw [← hb]; simp only [List.append_assoc]
  cases plan with
  | keep warning => exact hin (p := []) (a := []) hr rfl
  | replace hit => exact hin (a := " \x7d = ".toList) hr (by decide)

/-- What the step answers where the policy asks for authentication: the call is in the text, or there is
a warning. -/
theorem injectAuth_cases {ctx : Context} {t : Text} {o : Output} (h : injectAuth ctx t = .ok o)
    (hauth : ctx.policy.requiresAuth = true) :
    markerText <:+: o.text?.getD t ∨ ∃ m, (Outcome.warning, m) ∈ o.notes := by
  unfold injectAuth at h
  split_ifs at h with hmarker
  · cases h
    rw [contains_iff, authMarker_toList] at hmarker
    exact .inl hmarker
  · split at h
    · next hcall =>
      cases hp : ctx.policy with
      | corsOnly => rw [hp] at hauth; cases hauth
      | plainAuth => rw [hp] at hcall; cases hcall
      | userScopedAuth => rw [hp] at hcall; cases hcall
    · next call hcall =>
      split at h
      · cases h
        exact .inr ⟨_, List.mem_singleton_self _⟩
      · obtain ⟨deletions, -, h⟩ := bind_eq_ok h
        obtain ⟨margin, -, h⟩ := bind_eq_ok h
        obtain ⟨u, hu, h⟩ := bind_eq_ok h
        cases h
        have hin := Edit.infix_of_applyAll hu (List.mem_append_right _ (List.mem_singleton_self _))
        refine .inl (((marker_infix_statement hcall (ClientPlan.of t)).trans ?_).trans hin)
        exact (List.suffix_append ('\n' :: margin) _).isInfix

theorem marker_of_shareHeaders {t : Text} {o : Output} (h : shareHeaders t = .ok o) (hm : markerText <:+: t) :
    markerText <:+: o.text?.getD t := by
  rcases (shareHeaders_cases h).2 with ⟨-, hnone, -⟩ | ⟨-, -, u, hu, hrewrites⟩
  · rw [hnone]; exact hm
  · rw [hu]; exact marker_of_sites hrewrites hm

/-! ### A whole run -/

/-- The step has a note of the outcome. -/
def Reports (notes : List Note) (step : Step) (outcome : Outcome) : Prop :=
  ∃ n ∈ notes, n.step = step ∧ n.outcome = outcome

section Reports

variable {number : Nat} {step step' : Step} {outcome : Outcome} {o : Output} {notes notes' : List Note}

theorem reports_append :
    Reports (notes ++ notes') step outcome ↔ Reports notes step outcome ∨ Reports notes' step outcome := by
  simp only [Reports, List.mem_append, or_and_right, exists_or]

theorem reports_notesOf :
    Reports (notesOf number step o) step' outcome ↔ step = step' ∧ ∃ m, (outcome, m) ∈ o.notes := by
  simp only [Reports, notesOf, List.mem_map]
  constructor
  · rintro ⟨_, ⟨⟨outcome, m⟩, hm, rfl⟩, rfl, rfl⟩
    exact ⟨rfl, m, hm⟩
  · rintro ⟨rfl, m, hm⟩
    exact ⟨_, ⟨_, hm, rfl⟩, rfl, rfl⟩

end Reports

/-- How a run ends: the last three steps work on what the others left, and the notes of each are those
of its answer. -/
theorem exists_last_steps {ctx : Context} {t : Text} {out : Result} (h : run Step.standard ctx t = .ok out) :
    ∃ s o₅ o₆ o₇, injectAuth ctx s = .ok o₅ ∧ shareHeaders (o₅.text?.getD s) = .ok o₆ ∧
      guardCatches ctx (o₆.text?.getD (o₅.text?.getD s)) = .ok o₇ ∧
      out.text = o₇.text?.getD (o₆.text?.getD (o₅.text?.getD s)) ∧
      (∀ outcome, Reports out.notes .auth outcome ↔ ∃ m, (outcome, m) ∈ o₅.notes) ∧
      (∀ outcome, Reports out.notes .responseHeaders outcome ↔ ∃ m, (outcome, m) ∈ o₆.notes) ∧
      ∀ outcome, Reports out.notes .errorBoundary outcome ↔ ∃ m, (outcome, m) ∈ o₇.notes := by
  obtain ⟨o₁, n₁, -, hrun₁, hnotes⟩ := runFrom_cons_eq_ok.1 (run_eq_ok.1 h).1
  obtain ⟨o₂, n₂, -, hrun₂, rfl⟩ := runFrom_cons_eq_ok.1 hrun₁
  obtain ⟨o₃, n₃, -, hrun₃, rfl⟩ := runFrom_cons_eq_ok.1 hrun₂
  obtain ⟨o₄, n₄, -, hrun₄, rfl⟩ := runFrom_cons_eq_ok.1 hrun₃
  obtain ⟨o₅, n₅, h₅, hrun₅, rfl⟩ := runFrom_cons_eq_ok.1 hrun₄
  obtain ⟨o₆, n₆, h₆, hrun₆, rfl⟩ := runFrom_cons_eq_ok.1 hrun₅
  obtain ⟨o₇, n₇, h₇, hrun₇, rfl⟩ := runFrom_cons_eq_ok.1 hrun₆
  obtain ⟨htext, rfl⟩ := Prod.mk.inj (Except.ok.inj hrun₇)
  refine ⟨_, o₅, o₆, o₇, h₅, h₆, h₇, htext.symm, ?_, ?_, ?_⟩ <;> intro outcome <;>
    simp [hnotes, reports_append, reports_notesOf]

/-- A run fails in no safeguard without saying so. -/
theorem safeguards_of_run {ctx : Context} {t : Text} {out : Result} (h : run Step.standard ctx t = .ok out) :
    (ctx.policy.requiresAuth = true → out.text.contains Canonical.authMarker.toList = true ∨
      ∃ n ∈ out.notes, n.step = .auth ∧ n.outcome = .warning) ∧
    (ctx.policy.requiresAuth = true → (responseGuard? out.text).isSome = true ∨
      ∃ n ∈ out.notes, n.step = .errorBoundary ∧ n.outcome = .warning) ∧
    (0 < headerReferences out.text ↔ ∃ n ∈ out.notes, n.step = .responseHeaders ∧ n.outcome = .warning) := by
  obtain ⟨s, o₅, o₆, o₇, h₅, h₆, h₇, hout, hauth, hheaders, hcatch⟩ := exists_last_steps h
  refine ⟨fun hpolicy => ?_, fun hpolicy => ?_, ?_⟩
  · rw [contains_iff, authMarker_toList, hout]
    rcases injectAuth_cases h₅ hpolicy with hmarker | hwarning
    · have hmarker := marker_of_shareHeaders h₆ hmarker
      exact .inl (infix_of_guardCatches h₇ (by decide) (by decide) hmarker)
    · exact .inr ((hauth _).2 hwarning)
  · rw [hout]
    exact (guard_of_guardCatches h₇ hpolicy).imp_right (hcatch _).2
  · rw [headerReferences_pos_iff, hout, namesTable_of_guardCatches h₇, ← headerReferences_pos_iff,
      ← (shareHeaders_cases h₆).1]
    exact (hheaders _).symm

set_option maxRecDepth 20000 in
/-- The site takes the last letter of the call, which is in the text before the run. -/
theorem safeguards_of_run_shared_letter :
    ∃ out, run Step.standard ⟨"handler", .plainAuth, ⟨.text "serve(", .text "std/http"⟩⟩
        "await validateAutheaders: corsHeaders\n\x7d catch (e) \x7b\n".toList = .ok out ∧
      (out.text.contains Canonical.authMarker.toList = true ∨
        ∃ n ∈ out.notes, n.step = .auth ∧ n.outcome = .warning) ∧
      ((responseGuard? out.text).isSome = true ∨
        ∃ n ∈ out.notes, n.step = .errorBoundary ∧ n.outcome = .warning) ∧
      (0 < headerReferences out.text ↔ ∃ n ∈ out.notes, n.step = .responseHeaders ∧ n.outcome = .warning) := by
  have hok : (run Step.standard ⟨"handler", .plainAuth, ⟨.text "serve(", .text "std/http"⟩⟩
      "await validateAutheaders: corsHeaders\n\x7d catch (e) \x7b\n".toList).isOk = true := by decide +kernel
  obtain ⟨out, hout⟩ := exists_ok hok
  have h := safeguards_of_run hout
  exact ⟨out, hout, h.1 rfl, h.2.1 rfl, h.2.2⟩

end Migration

end HandlerMigration
