import HandlerMigration.Migration.Run
import HandlerMigration.Proofs.CatchGuards

/-!
# Steps at rest

`Step.Settled` says, step by step, when a text needs nothing of a step or gives it nothing to work on.
Main statements: a settled step answers without a new text and without an applied note, and any other
answer has both (`Step.answers`). So a run leaves its text alone and reports nothing applied exactly if
every step is settled (`runFrom_idle_iff`).
-/

namespace HandlerMigration

namespace Output

/-- No new text, and nothing applied. -/
def Idle (o : Output) : Prop := o.text? = none ∧ ∀ n ∈ o.notes, n.1 ≠ .applied

/-- A new text, and something applied. -/
def Active (o : Output) : Prop := o.text?.isSome = true ∧ ∃ m, (Outcome.applied, m) ∈ o.notes

theorem idle_skip (m : String) : (skip m).Idle := ⟨rfl, by simp [skip]⟩

theorem idle_warn (m : String) : (warn m).Idle := ⟨rfl, by simp [warn]⟩

theorem active_change {t : Text} {ms : List String} (h : ms ≠ []) : (change t ms).Active := by
  obtain ⟨m, ms, rfl⟩ := List.exists_cons_of_ne_nil h
  exact ⟨rfl, m, by simp [change]⟩

theorem Active.not_idle {o : Output} (h : o.Active) : ¬ o.Idle := by
  obtain ⟨-, m, hm⟩ := h
  exact fun hi => hi.2 _ hm rfl

end Output

namespace Migration

open Shape

/-- There is an answer, and an idle one, if `P` holds, and otherwise every answer is active. -/
structure Answers (P : Prop) (r : Except Fault Output) : Prop where
  idle : P → ∃ o, r = .ok o ∧ o.Idle
  active : ¬ P → ∀ o, r = .ok o → o.Active

namespace Answers

variable {P : Prop} {r : Except Fault Output} {o : Output}

theorem of_idle (hP : P) (ho : o.Idle) : Answers P (.ok o) :=
  ⟨fun _ => ⟨o, rfl, ho⟩, fun h => absurd hP h⟩

theorem of_active (hP : ¬ P) (h : ∀ o, r = .ok o → o.Active) : Answers P r := ⟨fun h' => absurd h' hP, fun _ => h⟩

theorem idle_iff (h : Answers P r) (hr : r = .ok o) : o.Idle ↔ P := by
  refine ⟨fun hi => ?_, fun hP => ?_⟩
  · by_contra hP
    exact (h.active hP o hr).not_idle hi
  · obtain ⟨o', ho', hi⟩ := h.idle hP
    cases ho'.symm.trans hr
    exact hi

end Answers

/-- A module that a handler needs is imported with all names, or nothing can be done about it. -/
def ImportSettled (ctx : Context) (t : Text) (required : String × List String) : Prop :=
  (∃ i, moduleImport? t required.1.toList = some i ∧ ∀ name ∈ required.2, i.imports t name.toList = true) ∨
    moduleImport? t required.1.toList = none ∧ importAnchor? ctx t = none

/-- The step has nothing to do in the text, or nothing to work on. -/
def Step.Settled (ctx : Context) (t : Text) : Step → Prop
  | .imports => ∀ required ∈ requiredImports ctx.policy, ImportSettled ctx t required
  | .headerTable => headerTable? t = none ∧ headerAliases t = []
  | .origin =>
    (∃ line, originLines t = [line] ∧ line.isCanonical t = true) ∨
      originLines t = [] ∧ ctx.anchors.entryPoint.find? t = none
  | .preflight => t.contains Canonical.preflightCall.toList = true ∨ firstHit t inlineHandlers = none
  | .auth =>
    t.contains Canonical.authMarker.toList = true ∨ ctx.policy.call? = none ∨ authAnchor? ctx.policy t = none
  | .responseHeaders => headerSites t = []
  | .errorBoundary =>
    ctx.policy.requiresAuth = false ∨ (responseGuard? t).isSome = true ∨ catchBlocks t = []

section Steps

variable (ctx : Context) (t : Text)

theorem answers_delegatePreflight : Answers (Step.preflight.Settled ctx t) (delegatePreflight t) := by
  unfold delegatePreflight
  split_ifs with hcall
  · exact .of_idle (.inl hcall) (Output.idle_skip _)
  · split
    · next hnone => exact .of_idle (.inr hnone) (Output.idle_warn _)
    · next hit hhit =>
      refine .of_active ?_ fun o ho => ?_
      · rintro (h | h)
        · exact hcall h
        · rw [h] at hhit; cases hhit
      · obtain ⟨margin, -, ho⟩ := bind_eq_ok ho
        obtain ⟨u, -, ho⟩ := bind_eq_ok ho
        cases ho
        exact Output.active_change (by simp)

theorem answers_removeHeaderTable : Answers (Step.headerTable.Settled ctx t) (removeHeaderTable t) := by
  unfold removeHeaderTable
  by_cases hs : Step.headerTable.Settled ctx t
  · simp only [hs.1, hs.2, Option.toList_none, List.isEmpty_nil, Bool.and_self, ↓reduceIte]
    exact .of_idle hs (Output.idle_skip _)
  · have hsome : ((headerTable? t).toList.isEmpty && (headerAliases t).isEmpty) = false := by
      rw [Bool.eq_false_iff, ne_eq, Bool.and_eq_true, List.isEmpty_iff, List.isEmpty_iff, Option.toList_eq_nil_iff]
      exact hs
    simp only [hsome, Bool.false_eq_true, ↓reduceIte]
    refine .of_active hs fun o ho => ?_
    obtain ⟨edits, -, ho⟩ := bind_eq_ok ho
    obtain ⟨u, -, ho⟩ := bind_eq_ok ho
    cases ho
    refine Output.active_change ?_
    rw [Bool.and_eq_false_iff] at hsome
    rcases hsome with h | h
    · simp [h]
    · have : (headerAliases t).length ≠ 0 := by simpa using h
      simp [this]

theorem answers_normalizeOrigin : Answers (Step.origin.Settled ctx t) (normalizeOrigin ctx t) := by
  unfold normalizeOrigin
  cases hlines : originLines t with
  | nil =>
    simp only [insertOrigin]
    cases hentry : ctx.anchors.entryPoint.find? t with
    | none => exact .of_idle (.inr ⟨hlines, hentry⟩) (Output.idle_warn _)
    | some entry =>
      refine .of_active ?_ fun o ho => ?_
      · rintro (⟨line, h, -⟩ | ⟨-, h⟩)
        · rw [hlines] at h; cases h
        · rw [hentry] at h; cases h
      · obtain ⟨margin, -, ho⟩ := bind_eq_ok ho
        obtain ⟨u, -, ho⟩ := bind_eq_ok ho
        cases ho
        exact Output.active_change (by simp)
  | cons first others =>
    have hsettled : Step.origin.Settled ctx t ↔ others = [] ∧ first.isCanonical t = true := by
      constructor
      · rintro (⟨line, h, hc⟩ | ⟨h, -⟩)
        · rw [hlines] at h; cases h; exact ⟨rfl, hc⟩
        · rw [hlines] at h; cases h
      · rintro ⟨rfl, hc⟩
        exact .inl ⟨first, hlines, hc⟩
    by_cases hs : others = [] ∧ first.isCanonical t = true
    · simp only [hs.1, hs.2, List.map_nil, ↓reduceIte, List.append_nil, List.isEmpty_nil]
      exact .of_idle (hsettled.2 hs) (Output.idle_skip _)
    · refine .of_active (mt hsettled.1 hs) fun o ho => ?_
      have hedits : (others.map (fun o => Edit.delete o.line.start o.line.stop) ++
          if first.isCanonical t then [] else
            [Edit.mk first.statement.start first.statement.stop Canonical.originStatement.toList]).isEmpty = false := by
        rw [Bool.eq_false_iff, ne_eq, List.isEmpty_iff, List.append_eq_nil_iff, List.map_eq_nil_iff]
        refine fun h => hs ⟨h.1, ?_⟩
        by_contra hc
        simp [hc] at h
      simp only [hedits, Bool.false_eq_true, ↓reduceIte] at ho
      obtain ⟨u, -, ho⟩ := bind_eq_ok ho
      cases ho
      refine Output.active_change fun h => hs ?_
      rw [List.append_eq_nil_iff] at h
      refine ⟨?_, ?_⟩
      · by_contra hne
        have : others.length ≠ 0 := by simpa using hne
        simp [this] at h
      · by_contra hc
        simp [hc] at h

theorem answers_injectAuth : Answers (Step.auth.Settled ctx t) (injectAuth ctx t) := by
  unfold injectAuth
  split_ifs with hmarker
  · exact .of_idle (.inl hmarker) (Output.idle_skip _)
  · split
    · next hcall => exact .of_idle (.inr (.inl hcall)) (Output.idle_skip _)
    · next call hcall =>
      split
      · next hanchor => exact .of_idle (.inr (.inr hanchor)) (Output.idle_warn _)
      · next anchor hanchor =>
        refine .of_active ?_ fun o ho => ?_
        · rintro (h | h | h)
          · exact hmarker h
          · rw [hcall] at h; cases h
          · rw [hanchor] at h; cases h
        · obtain ⟨deletions, -, ho⟩ := bind_eq_ok ho
          obtain ⟨margin, -, ho⟩ := bind_eq_ok ho
          obtain ⟨u, -, ho⟩ := bind_eq_ok ho
          cases ho
          exact ⟨rfl, _, List.mem_append_right _ (List.mem_singleton_self _)⟩

theorem answers_shareHeaders : Answers (Step.responseHeaders.Settled ctx t) (shareHeaders t) := by
  by_cases hs : Step.responseHeaders.Settled ctx t
  · have h : headerSites t = [] := hs
    unfold shareHeaders
    simp only [h, List.isEmpty_nil, ↓reduceIte]
    split_ifs
    · exact .of_idle hs (Output.idle_skip _)
    · exact .of_idle hs (Output.idle_warn _)
  · refine .of_active hs fun o ho => ?_
    rcases (shareHeaders_cases ho).2 with ⟨h, -⟩ | ⟨-, hm, u, hu, -⟩
    · exact absurd h hs
    · exact ⟨by rw [hu]; rfl, hm⟩

theorem answers_guardCatches : Answers (Step.errorBoundary.Settled ctx t) (guardCatches ctx t) := by
  unfold guardCatches
  by_cases hauth : ctx.policy.requiresAuth = true
  · simp only [hauth, Bool.not_true, Bool.false_eq_true, ↓reduceIte]
    split_ifs with hguard hblocks
    · exact .of_idle (.inr (.inl hguard)) (Output.idle_skip _)
    · exact .of_idle (.inr (.inr (List.isEmpty_iff.1 hblocks))) (Output.idle_warn _)
    · refine .of_active ?_ fun o ho => ?_
      · rintro (h | h | h)
        · rw [hauth] at h; cases h
        · exact hguard h
        · exact hblocks (List.isEmpty_iff.2 h)
      · obtain ⟨edits, -, ho⟩ := bind_eq_ok ho
        obtain ⟨u, -, ho⟩ := bind_eq_ok ho
        cases ho
        exact Output.active_change (by simp)
  · simp only [hauth, Bool.not_false, ↓reduceIte]
    exact .of_idle (.inl (by simpa using hauth)) (Output.idle_skip _)

theorem extension?_eq_none_iff (required : String × List String) :
    (ImportNeed.of t required).extension? = none ↔
      ∀ i, moduleImport? t required.1.toList = some i → ∀ name ∈ required.2, i.imports t name.toList = true := by
  unfold ImportNeed.of
  cases hi : moduleImport? t required.1.toList with
  | none => simp [ImportNeed.extension?]
  | some i =>
    simp only [Option.some.injEq, forall_eq']
    split_ifs with hmissing
    · simpa [ImportNeed.extension?] using hmissing
    · simpa [ImportNeed.extension?] using hmissing

theorem line?_eq_none_iff (required : String × List String) :
    (ImportNeed.of t required).line? = none ↔ moduleImport? t required.1.toList ≠ none := by
  unfold ImportNeed.of
  cases moduleImport? t required.1.toList with
  | none => simp [ImportNeed.line?]
  | some i => simp only; split_ifs <;> simp [ImportNeed.line?]

theorem imports_settled_iff :
    Step.imports.Settled ctx t ↔
      ((requiredImports ctx.policy).map (ImportNeed.of t)).filterMap ImportNeed.extension? = [] ∧
      (((requiredImports ctx.policy).map (ImportNeed.of t)).filterMap ImportNeed.line? = [] ∨
        importAnchor? ctx t = none) := by
  simp only [List.filterMap_eq_nil_iff, List.forall_mem_map, extension?_eq_none_iff, line?_eq_none_iff]
  constructor
  · intro h
    refine ⟨fun required hr i hi => ?_, ?_⟩
    · rcases h required hr with ⟨i', hi', hall⟩ | ⟨hnone, -⟩
      · cases hi.symm.trans hi'; exact hall
      · rw [hi] at hnone; cases hnone
    · by_contra hn
      obtain ⟨hlines, hanchor⟩ := not_or.1 hn
      refine hlines fun required hr hnone => ?_
      rcases h required hr with ⟨i, hi, -⟩ | ⟨-, ha⟩
      · rw [hnone] at hi; cases hi
      · exact hanchor ha
  · rintro ⟨hext, hlines⟩ required hr
    cases hi : moduleImport? t required.1.toList with
    | some i => exact .inl ⟨i, hi, hext required hr i hi⟩
    | none => exact .inr ⟨hi, hlines.resolve_left fun h => h required hr hi⟩

theorem answers_normalizeImports : Answers (Step.imports.Settled ctx t) (normalizeImports ctx t) := by
  have hsettled := imports_settled_iff ctx t
  unfold normalizeImports
  simp only
  generalize ((requiredImports ctx.policy).map (ImportNeed.of t)).filterMap ImportNeed.extension? = extensions at *
  generalize ((requiredImports ctx.policy).map (ImportNeed.of t)).filterMap ImportNeed.line? = lines at *
  have hmessages : extensions ≠ [] → extensions.map (·.2) ≠ [] := by simp
  by_cases hlines : lines = []
  · simp only [hlines, List.isEmpty_nil, ↓reduceIte]
    by_cases hext : extensions = []
    · simp only [hext, List.map_nil, List.isEmpty_nil, ↓reduceIte]
      exact .of_idle (hsettled.2 ⟨hext, .inl hlines⟩) (Output.idle_skip _)
    · refine .of_active (fun h => hext (hsettled.1 h).1) fun o ho => ?_
      simp only [List.isEmpty_iff, List.map_eq_nil_iff, hext, ↓reduceIte] at ho
      obtain ⟨u, -, ho⟩ := bind_eq_ok ho
      cases ho
      exact Output.active_change (hmessages hext)
  · simp only [List.isEmpty_iff, hlines, ↓reduceIte]
    cases hanchor : importAnchor? ctx t with
    | some anchor =>
      refine .of_active (fun h => ?_) fun o ho => ?_
      · rcases (hsettled.1 h).2 with h | h
        · exact hlines h
        · rw [hanchor] at h; cases h
      · obtain ⟨edit, -, ho⟩ := bind_eq_ok ho
        obtain ⟨u, -, ho⟩ := bind_eq_ok ho
        cases ho
        exact Output.active_change (by simp [hlines])
    | none =>
      by_cases hext : extensions = []
      · simp only [hext, List.map_nil, ↓reduceIte]
        exact .of_idle (hsettled.2 ⟨hext, .inr hanchor⟩) (Output.idle_warn _)
      · refine .of_active (fun h => hext (hsettled.1 h).1) fun o ho => ?_
        simp only [List.map_eq_nil_iff, hext, ↓reduceIte] at ho
        obtain ⟨u, -, ho⟩ := bind_eq_ok ho
        cases ho
        obtain ⟨hsome, m, hm⟩ := Output.active_change (t := u) (hmessages hext)
        exact ⟨hsome, m, List.mem_append_right _ hm⟩

/-- A settled step is idle, and every other answer is active. -/
theorem Step.answers (step : Step) : Answers (step.Settled ctx t) (step.apply ctx t) := by
  cases step with
  | imports => exact answers_normalizeImports ctx t
  | headerTable => exact answers_removeHeaderTable ctx t
  | origin => exact answers_normalizeOrigin ctx t
  | preflight => exact answers_delegatePreflight ctx t
  | auth => exact answers_injectAuth ctx t
  | responseHeaders => exact answers_shareHeaders ctx t
  | errorBoundary => exact answers_guardCatches ctx t

end Steps

/-! ### Runs -/

section Runs

variable {ctx : Context} {number : Nat} {step : Step} {steps : List Step} {t u : Text} {notes : List Note}

theorem runFrom_cons_eq_ok :
    runFrom ctx number (step :: steps) t = .ok (u, notes) ↔
      ∃ o notes', step.apply ctx t = .ok o ∧ runFrom ctx (number + 1) steps (o.text?.getD t) = .ok (u, notes') ∧
        notes = notesOf number step o ++ notes' := by
  constructor
  · intro h
    rw [runFrom] at h
    split at h
    · cases h
    · next o ho =>
      split at h
      · cases h
      · next u' notes' hrest =>
        cases h
        exact ⟨o, notes', ho, hrest, rfl⟩
  · rintro ⟨o, notes', ho, hrest, rfl⟩
    simp only [runFrom, ho, hrest]

theorem run_eq_ok {out : Result} : run steps ctx t = .ok out ↔
    runFrom ctx 1 steps t = .ok (out.text, out.notes) ∧ out.changed = (out.text != t) := by
  unfold run
  constructor
  · intro h
    split at h
    · cases h
    · next hrun => cases h; exact ⟨hrun, rfl⟩
  · rintro ⟨hrun, hchanged⟩
    simp only [hrun, ← hchanged]

theorem forall_notesOf {o : Output} : (∀ n ∈ notesOf number step o, n.outcome ≠ .applied) ↔
    ∀ n ∈ o.notes, n.1 ≠ .applied := by
  simp only [notesOf, List.forall_mem_map]

/-- Steps leave a text alone and report nothing applied exactly if all of them are settled. -/
theorem runFrom_idle_iff :
    (∃ notes, runFrom ctx number steps t = .ok (t, notes) ∧ ∀ n ∈ notes, n.outcome ≠ .applied) ↔
      ∀ step ∈ steps, step.Settled ctx t := by
  induction steps generalizing number with
  | nil => simp [runFrom]
  | cons step steps ih =>
    rw [List.forall_mem_cons, ← @ih (number + 1)]
    simp only [runFrom_cons_eq_ok]
    have hanswers := Step.answers ctx t step
    constructor
    · rintro ⟨_, ⟨o, notes', ho, hrest, rfl⟩, hnotes⟩
      obtain ⟨ho', hnotes'⟩ := List.forall_mem_append.1 hnotes
      have hsettled : step.Settled ctx t := by
        by_contra hs
        obtain ⟨-, m, hm⟩ := hanswers.active hs o ho
        exact forall_notesOf.1 ho' _ hm rfl
      have hidle := (hanswers.idle_iff ho).2 hsettled
      rw [hidle.1] at hrest
      exact ⟨hsettled, notes', hrest, hnotes'⟩
    · rintro ⟨hsettled, notes', hrest, hnotes'⟩
      obtain ⟨o, ho, hidle⟩ := hanswers.idle hsettled
      refine ⟨_, ⟨o, notes', ho, ?_, rfl⟩, List.forall_mem_append.2 ⟨forall_notesOf.2 hidle.2, hnotes'⟩⟩
      rw [hidle.1]
      exact hrest

/-- A run leaves a text alone and reports nothing applied exactly if all steps are settled. -/
theorem run_idle_iff :
    (∃ out, run steps ctx t = .ok out ∧ out.text = t ∧ out.changed = false ∧ ∀ n ∈ out.notes, n.outcome ≠ .applied) ↔
      ∀ step ∈ steps, step.Settled ctx t := by
  rw [← @runFrom_idle_iff ctx 1]
  constructor
  · rintro ⟨⟨_, _, notes⟩, hrun, rfl, -, hnotes⟩
    exact ⟨notes, (run_eq_ok.1 hrun).1, hnotes⟩
  · rintro ⟨notes, hrun, hnotes⟩
    exact ⟨⟨t, false, notes⟩, run_eq_ok.2 ⟨hrun, by simp⟩, rfl, rfl, hnotes⟩

end Runs

end Migration

end HandlerMigration
