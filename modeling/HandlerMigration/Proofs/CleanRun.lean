import HandlerMigration.Proofs.Rest

/-!
# Canonical handlers

`Step.Clean` says, step by step, what a migrated handler looks like. A settled step has nothing to
change; on a clean text it says so by one skip, and on any other by a warning
(`Step.skips_of_clean`, `Step.warns_of_settled`). Main statement: a run of all steps is seven skips
and the old text exactly on a text that is clean for each of them (`run_skips_iff_canonical`).
-/

namespace HandlerMigration.Migration

open Shape

/-- A module is imported with all the given names. -/
def Imported (t : Text) (module : String) (names : List String) : Prop :=
  ∃ i, moduleImport? t module.toList = some i ∧ ∀ name ∈ names, i.imports t name.toList = true

/-- The text is as the step would leave it. -/
def Step.Clean (ctx : Context) (t : Text) : Step → Prop
  | .imports => ∀ required ∈ requiredImports ctx.policy, Imported t required.1 required.2
  | .headerTable => headerTable? t = none ∧ headerAliases t = []
  | .origin => ∃ line, originLines t = [line] ∧ line.isCanonical t = true
  | .preflight => t.contains Canonical.preflightCall.toList = true
  | .auth => t.contains Canonical.authMarker.toList = true ∨ ctx.policy = .corsOnly
  | .responseHeaders => headerSites t = [] ∧ headerReferences t = 0
  | .errorBoundary => (responseGuard? t).isSome = true ∨ ctx.policy = .corsOnly

section Steps

variable {ctx : Context} {t : Text}

theorem call?_eq_none_iff {policy : Policy} : policy.call? = none ↔ policy = .corsOnly := by
  cases policy <;> simp [Policy.call?]

theorem requiresAuth_eq_false_iff {policy : Policy} : policy.requiresAuth = false ↔ policy = .corsOnly := by
  cases policy <;> simp [Policy.requiresAuth]

theorem imports_clean_iff :
    Step.imports.Clean ctx t ↔
      ((requiredImports ctx.policy).map (ImportNeed.of t)).filterMap ImportNeed.extension? = [] ∧
      ((requiredImports ctx.policy).map (ImportNeed.of t)).filterMap ImportNeed.line? = [] := by
  simp only [List.filterMap_eq_nil_iff, List.forall_mem_map, extension?_eq_none_iff, line?_eq_none_iff]
  constructor
  · intro h
    refine ⟨fun required hr i hi => ?_, fun required hr hnone => ?_⟩
    · obtain ⟨i', hi', hall⟩ := h required hr
      cases hi.symm.trans hi'
      exact hall
    · obtain ⟨i, hi, -⟩ := h required hr
      rw [hnone] at hi
      cases hi
  · rintro ⟨hext, hline⟩ required hr
    obtain ⟨i, hi⟩ := Option.ne_none_iff_exists'.1 (hline required hr)
    exact ⟨i, hi, hext required hr i hi⟩

/-- On a clean text a step makes one note, a skip, and no new text. -/
theorem Step.skips_of_clean {step : Step} (h : step.Clean ctx t) :
    ∃ m, step.apply ctx t = .ok (.skip m) := by
  cases step with
  | imports =>
    obtain ⟨hext, hlines⟩ := imports_clean_iff.1 h
    simp only [Step.apply, normalizeImports, hext, hlines, List.isEmpty_nil, List.map_nil, ↓reduceIte]
    exact ⟨_, rfl⟩
  | headerTable =>
    simp only [Step.apply, removeHeaderTable, h.1, h.2, Option.toList_none, List.isEmpty_nil, Bool.and_self, ↓reduceIte]
    exact ⟨_, rfl⟩
  | origin =>
    obtain ⟨line, hlines, hcanonical⟩ := h
    simp only [Step.apply, normalizeOrigin, hlines, hcanonical, List.map_nil, List.append_nil, List.isEmpty_nil,
      ↓reduceIte]
    exact ⟨_, rfl⟩
  | preflight =>
    have hcall : t.contains Canonical.preflightCall.toList = true := h
    simp only [Step.apply, delegatePreflight, hcall, ↓reduceIte]
    exact ⟨_, rfl⟩
  | auth =>
    simp only [Step.apply, injectAuth]
    split_ifs with hmarker
    · exact ⟨_, rfl⟩
    · rw [call?_eq_none_iff.2 (h.resolve_left hmarker)]
      exact ⟨_, rfl⟩
  | responseHeaders =>
    simp only [Step.apply, shareHeaders, h.1, h.2, List.isEmpty_nil, ↓reduceIte]
    exact ⟨_, rfl⟩
  | errorBoundary =>
    simp only [Step.apply, guardCatches]
    rcases h with hguard | hpolicy
    · split_ifs
      · exact ⟨_, rfl⟩
      · exact ⟨_, rfl⟩
    · rw [requiresAuth_eq_false_iff.2 hpolicy]
      exact ⟨_, rfl⟩

/-- A step that is settled in a text that is not clean warns. -/
theorem Step.warns_of_settled {step : Step} (h : step.Settled ctx t) (hclean : ¬ step.Clean ctx t) :
    ∃ m, step.apply ctx t = .ok (.warn m) := by
  cases step with
  | imports =>
    obtain ⟨hext, hlines⟩ := (imports_settled_iff ctx t).1 h
    have hlines' : ¬ _ = [] := fun hnil => hclean (imports_clean_iff.2 ⟨hext, hnil⟩)
    simp only [Step.apply, normalizeImports, hext, List.isEmpty_iff, if_neg hlines', hlines.resolve_left hlines',
      List.map_nil, ↓reduceIte]
    exact ⟨_, rfl⟩
  | headerTable => exact absurd h hclean
  | origin =>
    obtain ⟨hlines, hentry⟩ := h.resolve_left hclean
    simp only [Step.apply, normalizeOrigin, hlines, insertOrigin, hentry]
    exact ⟨_, rfl⟩
  | preflight =>
    have hcall : ¬ t.contains Canonical.preflightCall.toList = true := hclean
    simp only [Step.apply, delegatePreflight, if_neg hcall, h.resolve_left hclean]
    exact ⟨_, rfl⟩
  | auth =>
    obtain ⟨hmarker, hpolicy⟩ := not_or.1 hclean
    have hanchor := (h.resolve_left hmarker).resolve_left (mt call?_eq_none_iff.1 hpolicy)
    obtain ⟨call, hcall⟩ := Option.ne_none_iff_exists'.1 (mt call?_eq_none_iff.1 hpolicy)
    simp only [Step.apply, injectAuth, if_neg hmarker, hcall, hanchor]
    exact ⟨_, rfl⟩
  | responseHeaders =>
    have hsites : headerSites t = [] := h
    have hleft : headerReferences t ≠ 0 := fun h' => hclean ⟨hsites, h'⟩
    simp only [Step.apply, shareHeaders, hsites, hleft, List.isEmpty_nil, ↓reduceIte]
    exact ⟨_, rfl⟩
  | errorBoundary =>
    obtain ⟨hguard, hpolicy⟩ := not_or.1 hclean
    have hauth : ctx.policy.requiresAuth = true := by simpa using mt requiresAuth_eq_false_iff.1 hpolicy
    have hblocks := (h.resolve_left (by simp [hauth])).resolve_left hguard
    simp only [Step.apply, guardCatches, hauth, hguard, hblocks, List.isEmpty_nil, Bool.not_true, Bool.false_eq_true,
      ↓reduceIte]
    exact ⟨_, rfl⟩

theorem Step.clean_of_skips {step : Step} {o : Output} (ho : step.apply ctx t = .ok o)
    (hskips : ∀ n ∈ o.notes, n.1 = .skipped) : step.Clean ctx t := by
  by_contra hclean
  by_cases hsettled : step.Settled ctx t
  · obtain ⟨m, hm⟩ := Step.warns_of_settled hsettled hclean
    cases hm.symm.trans ho
    cases hskips (.warning, m) (List.mem_singleton_self _)
  · obtain ⟨-, m, hm⟩ := (Step.answers ctx t step).active hsettled o ho
    cases hskips _ hm

end Steps

/-! ### Runs -/

section Runs

variable {ctx : Context} {number : Nat} {steps : List Step} {t u : Text} {notes : List Note}

theorem runFrom_of_clean (h : ∀ step ∈ steps, step.Clean ctx t) :
    ∃ notes, runFrom ctx number steps t = .ok (t, notes) ∧ notes.length = steps.length ∧
      ∀ n ∈ notes, n.outcome = .skipped := by
  induction steps generalizing number with
  | nil => exact ⟨[], rfl, rfl, by simp⟩
  | cons step steps ih =>
    obtain ⟨hstep, hsteps⟩ := List.forall_mem_cons.1 h
    obtain ⟨m, hm⟩ := Step.skips_of_clean hstep
    obtain ⟨notes, hrun, hlength, hskips⟩ := @ih (number + 1) hsteps
    refine ⟨⟨number, step, .skipped, m⟩ :: notes, runFrom_cons_eq_ok.2 ⟨_, notes, hm, hrun, rfl⟩, ?_, ?_⟩
    · simp [hlength]
    · exact List.forall_mem_cons.2 ⟨rfl, hskips⟩

/-- Steps that report nothing but skips had a clean text from the start: a step that changes the text
says so, and a later step cannot take its note back. -/
theorem clean_of_runFrom (h : runFrom ctx number steps t = .ok (u, notes))
    (hskips : ∀ n ∈ notes, n.outcome = .skipped) : ∀ step ∈ steps, step.Clean ctx t := by
  induction steps generalizing number notes with
  | nil => simp
  | cons step steps ih =>
    obtain ⟨o, notes', ho, hrest, rfl⟩ := runFrom_cons_eq_ok.1 h
    obtain ⟨hstep, hsteps⟩ := List.forall_mem_append.1 hskips
    have hclean : step.Clean ctx t := Step.clean_of_skips ho (List.forall_mem_map.1 hstep)
    obtain ⟨m, hm⟩ := Step.skips_of_clean hclean
    cases hm.symm.trans ho
    exact List.forall_mem_cons.2 ⟨hclean, ih hrest hsteps⟩

end Runs

theorem forall_requiredImports {policy : Policy} {P : String → List String → Prop} :
    (∀ required ∈ requiredImports policy, P required.1 required.2) ↔
      P Canonical.corsModule [Canonical.corsHeadersHelper, Canonical.preflightHelper] ∧
      ∀ helper, policy.helper? = some helper → P Canonical.authModule [helper] := by
  unfold requiredImports
  cases policy.helper? <;> simp

/-- A run of all steps leaves a text alone with seven notes, all of them skips, exactly if the text is
canonical for each step. -/
theorem run_skips_iff_canonical (ctx : Context) (t : Text) :
    (∃ out, run Step.standard ctx t = .ok out ∧ out.text = t ∧ out.notes.length = 7 ∧
        ∀ n ∈ out.notes, n.outcome = .skipped) ↔
      (Imported t Canonical.corsModule [Canonical.corsHeadersHelper, Canonical.preflightHelper] ∧
        ∀ helper, ctx.policy.helper? = some helper → Imported t Canonical.authModule [helper]) ∧
      (headerTable? t = none ∧ headerAliases t = []) ∧
      (∃ line, originLines t = [line] ∧ line.isCanonical t = true) ∧
      t.contains Canonical.preflightCall.toList = true ∧
      (t.contains Canonical.authMarker.toList = true ∨ ctx.policy = .corsOnly) ∧
      (headerSites t = [] ∧ headerReferences t = 0) ∧
      ((responseGuard? t).isSome = true ∨ ctx.policy = .corsOnly) := by
  constructor
  · rintro ⟨out, hrun, -, -, hskips⟩
    have hclean := clean_of_runFrom (run_eq_ok.1 hrun).1 hskips
    have hof : ∀ step, Step.Clean ctx t step := fun step => hclean step (by cases step <;> decide)
    exact ⟨forall_requiredImports.1 (hof .imports), hof .headerTable, hof .origin, hof .preflight, hof .auth,
      hof .responseHeaders, hof .errorBoundary⟩
  · rintro ⟨himports, htable, horigin, hpreflight, hauth, hsites, hguard⟩
    have hclean : ∀ step ∈ Step.standard, step.Clean ctx t := by
      intro step _
      cases step with
      | imports => exact forall_requiredImports.2 himports
      | headerTable => exact htable
      | origin => exact horigin
      | preflight => exact hpreflight
      | auth => exact hauth
      | responseHeaders => exact hsites
      | errorBoundary => exact hguard
    obtain ⟨notes, hrun, hlength, hskips⟩ := @runFrom_of_clean ctx 1 _ t hclean
    exact ⟨⟨t, false, notes⟩, run_eq_ok.2 ⟨hrun, by simp⟩, rfl, hlength, hskips⟩

end HandlerMigration.Migration
