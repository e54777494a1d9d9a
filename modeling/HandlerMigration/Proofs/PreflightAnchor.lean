import HandlerMigration.Proofs.Audit
import HandlerMigration.Proofs.PreflightBrackets

/-!
# The preflight block as an anchor

The block that the preflight step writes is what authentication looks for first, whatever is around it and
whatever its margin (`delegationPattern_spells`). So plain authentication finds its place in every text that
the preflight step left (`firstHit_of_delegatePreflight`).

Main statement: after a replaced preflight block the step that authenticates the caller does its work, has it
done already or is at fault, but it does not warn that it found no place (`auth_of_applied_preflight`). No
other fault can end such a run, since the two steps that are left have an answer for every text.
-/

namespace HandlerMigration

namespace Shape

open Pattern Piece

variable {m : Text} {last next : Option Char}

theorem blank_of_isMargin (hm : ∀ c ∈ m, Text.isMargin c = true) : ∀ c ∈ m, CharSet.blank.has c = true := by
  intro c hc
  have hc := hm c hc
  simp only [Text.isMargin, Bool.or_eq_true, beq_iff_eq] at hc
  rcases hc with rfl | rfl <;> decide

theorem blanks_spells {w : Text} (hw : ∀ c ∈ w, CharSet.blank.has c = true) : blanks.Spells last w next :=
  ⟨hw, Nat.zero_le _, by simp⟩

theorem text_spells (s : String) : (text s).Spells last s.toList next := rfl

theorem optionsPattern_spells : optionsPattern.Spells last blockLine next := by
  have hblank : ∀ {last next}, blanks.Spells last [' '] next := blanks_spells (List.forall_mem_singleton.2 (by decide))
  have hnone : ∀ {last next}, blanks.Spells last [] next := blanks_spells (List.forall_mem_nil _)
  have hname : ∀ {last next}, identifier.Spells last ['r', 'e', 'q'] next :=
    ⟨['r'], ['e', 'q'], rfl, ⟨'r', rfl, by decide⟩,
      List.forall_mem_cons.2 ⟨by decide, List.forall_mem_singleton.2 (by decide)⟩, Nat.zero_le _, by simp⟩
  have hreq : ∀ {last next}, (opt (identifier ++ text ".")).Spells last "req.".toList next :=
    .inl (hname.append (text_spells "."))
  have hequal : ∀ {last next}, (opt (text "=")).Spells last "=".toList next := .inl rfl
  have hword : ∀ {last next}, (alt (text "'OPTIONS'") (text "\"OPTIONS\"")).Spells last "'OPTIONS'".toList next := .inl rfl
  exact ((((((((((((((text_spells "if").append hblank).append (text_spells "(")).append hnone).append hreq).append
    (text_spells "method")).append hblank).append (text_spells "==")).append hequal).append hblank).append hword).append
    hnone).append (text_spells ")")).append hblank).append (text_spells "\x7b")

theorem blockLine_append (m : Text) :
    blockLine ++ '\n' :: (m ++ [' ', ' ']) ++ "return".toList ++ [' '] ++ "handleCorsPreflightRequest(".toList ++ [] ++
      "origin".toList ++ [] ++ ")".toList ++ [] ++ ";".toList ++ '\n' :: m ++ "\x7d".toList =
      Canonical.preflightBlock m := by
  have hcall : [' ', ' '] ++ ("return".toList ++ ([' '] ++ ("handleCorsPreflightRequest(".toList ++ ("origin".toList ++
      (")".toList ++ ";".toList))))) = callFront ++ '(' :: (callArgument ++ [')', ';']) := by decide
  have hassoc : ∀ a b c d e f : Text, blockLine ++ '\n' :: (m ++ [' ', ' ']) ++ a ++ b ++ c ++ [] ++ d ++ [] ++ e ++
      [] ++ f ++ '\n' :: m ++ "\x7d".toList =
      blockLine ++ '\n' :: (m ++ (([' ', ' '] ++ (a ++ (b ++ (c ++ (d ++ (e ++ f)))))) ++ '\n' :: (m ++ ['}']))) := by
    intro a b c d e f
    simp only [List.append_assoc, List.append_nil, List.cons_append, List.nil_append]
    rfl
  rw [hassoc, hcall, preflightBlock_eq, blockRest]
  simp only [List.append_assoc, List.cons_append, List.nil_append]

/-- The canonical block is a delegation, in every text. -/
theorem delegationPattern_spells (hm : ∀ c ∈ m, Text.isMargin c = true) :
    delegationPattern.Spells last (Canonical.preflightBlock m) next := by
  have hmargin := blank_of_isMargin hm
  have hspaces : ∀ c ∈ [' ', ' '], CharSet.blank.has c = true :=
    List.forall_mem_cons.2 ⟨by decide, List.forall_mem_singleton.2 (by decide)⟩
  have hnone : ∀ {last next}, blanks.Spells last [] next := blanks_spells (List.forall_mem_nil _)
  have hspace : ∀ {last next}, someBlanks.Spells last [' '] next :=
    ⟨List.forall_mem_singleton.2 (by decide), Nat.le_refl 1, by simp⟩
  have hinner : ∀ {last next}, blanks.Spells last ('\n' :: (m ++ [' ', ' '])) next :=
    blanks_spells (List.forall_mem_cons.2 ⟨by decide, List.forall_mem_append.2 ⟨hmargin, hspaces⟩⟩)
  have houter : ∀ {last next}, blanks.Spells last ('\n' :: m) next :=
    blanks_spells (List.forall_mem_cons.2 ⟨by decide, hmargin⟩)
  have hsemicolon : ∀ {last next}, semicolon.Spells last ";".toList next := .inl rfl
  rw [← blockLine_append]
  exact ((((((((((((optionsPattern_spells).append hinner).append (text_spells "return")).append
    hspace).append (text_spells "handleCorsPreflightRequest(")).append hnone).append (text_spells "origin")).append
    hnone).append (text_spells ")")).append hnone).append hsemicolon).append houter).append (text_spells "\x7d")

theorem firstHit_of_block {a b : Text} (hm : ∀ c ∈ m, Text.isMargin c = true) :
    ∃ hit, firstHit (a ++ (Canonical.preflightBlock m ++ b)) preflightBlocks = some hit ∧
      hit.recognizer = "preflight delegation" := by
  have hoccurs : delegationPattern.Occurs a (Canonical.preflightBlock m) b := delegationPattern_spells hm
  have hfind : delegationPattern.find? (a ++ (Canonical.preflightBlock m ++ b)) ≠ none := fun hnone =>
    find?_eq_none_iff.1 hnone a _ b rfl hoccurs
  obtain ⟨found, hfound⟩ := Option.ne_none_iff_exists'.1 hfind
  refine ⟨⟨"preflight delegation", found.span, ()⟩, ?_, rfl⟩
  rw [firstHit, preflightBlocks, List.findSome?_cons]
  simp only [delegation, Pattern.place, hfound, Option.map_some]

end Shape

namespace Migration

open Text Shape

/-! ### The two steps -/

section Steps

variable {ctx : Context} {t u : Text} {o : Output} {notes : List (Outcome × String)}

theorem firstHit_of_delegatePreflight (h : delegatePreflight t = .ok ⟨some u, notes⟩) :
    ∃ hit, firstHit u preflightBlocks = some hit ∧ hit.recognizer = "preflight delegation" := by
  cases hhit : firstHit t inlineHandlers with
  | none =>
    unfold delegatePreflight at h
    rw [hhit] at h
    split_ifs at h
    · cases h
    · cases h
  | some hit =>
    obtain ⟨a, w, b, ht, hspan, -⟩ := exists_guard hhit
    obtain ⟨m, hm, rfl⟩ := delegatePreflight_eq h hhit ht hspan
    exact firstHit_of_block hm

theorem injectAuth_of_anchor {anchor : Hit Unit} (hpolicy : ctx.policy = .plainAuth)
    (hanchor : firstHit t preflightBlocks = some anchor) (h : injectAuth ctx t = .ok o) :
    (∃ m, o.notes = [(.skipped, m)]) ∨ ∃ m, o.notes = clientNotes (.of t) ++ [(.applied, m)] := by
  have hplace : authAnchor? ctx.policy t = some anchor := by rw [hpolicy]; exact hanchor
  have hcall : ctx.policy.call? = some "validateAuth(req)" := by rw [hpolicy]; rfl
  unfold injectAuth at h
  rw [hcall, hplace] at h
  split_ifs at h
  · cases h
    exact .inl ⟨_, rfl⟩
  · obtain ⟨deletions, -, h⟩ := bind_eq_ok h
    obtain ⟨margin, -, h⟩ := bind_eq_ok h
    obtain ⟨u, -, h⟩ := bind_eq_ok h
    cases h
    exact .inr ⟨_, rfl⟩

theorem exists_left_in_place {m : String} (h : (Outcome.warning, m) ∈ clientNotes (.of t)) :
    ∃ s, m = s ++ "left in place" := by
  unfold ClientPlan.of at h
  dsimp only at h
  split_ifs at h
  · cases h
  · split at h
    · cases List.mem_singleton.1 h
    · cases List.mem_singleton.1 h
      exact ⟨"createClient call has an unrecognized shape; ", by decide⟩
  · cases List.mem_singleton.1 h
    have hwords : " createClient calls; left in place" = " createClient calls; " ++ "left in place" := by decide
    exact ⟨toString (clientCalls t) ++ " createClient calls; ",
      (congrArg (toString (clientCalls t) ++ ·) hwords).trans String.append_assoc.symm⟩

theorem clientNote_ne_authWarning {m : String} (h : (Outcome.warning, m) ∈ clientNotes (.of t)) :
    m ≠ authWarning .plainAuth := by
  obtain ⟨s, rfl⟩ := exists_left_in_place h
  intro hm
  -- the number of clients in front is any numeral, so the last letters are compared
  have hwarning : (authWarning .plainAuth).toList.getLast? = some 'd' := by decide
  have hwords : "left in place".toList.getLast? = some 'e' := by decide
  rw [← hm, String.toList_append, List.getLast?_append, hwords] at hwarning
  cases hwarning

end Steps

/-! ### Runs -/

section Runs

variable {ctx : Context} {number : Nat} {steps : List Step} {t u : Text} {notes : List Note} {f : Failure}

theorem runFrom_append (later : List Step) (h : runFrom ctx number steps t = .ok (u, notes)) :
    runFrom ctx number (steps ++ later) t =
      (runFrom ctx (number + steps.length) later u).map fun r => (r.1, notes ++ r.2) := by
  induction steps generalizing number t notes with
  | nil =>
    cases h
    rw [List.nil_append, List.length_nil, Nat.add_zero]
    cases runFrom ctx number later u <;> rfl
  | cons step steps ih =>
    obtain ⟨o, notes', ho, hrest, rfl⟩ := runFrom_cons_eq_ok.1 h
    rw [List.cons_append, runFrom, ho]
    simp only [ih hrest]
    rw [List.length_cons, Nat.add_assoc, Nat.add_comm 1]
    cases runFrom ctx (number + (steps.length + 1)) later u with
    | error f => rfl
    | ok r => simp [Except.map]

/-- Of the last three steps only the first can be at fault. -/
theorem step_of_last_steps (h : runFrom ctx number [.auth, .responseHeaders, .errorBoundary] t = .error f) :
    f.step = .auth := by
  rw [runFrom] at h
  split at h
  · cases h; rfl
  · next o ho =>
    exfalso
    obtain ⟨o₆, h₆⟩ := exists_shareHeaders (o.text?.getD t)
    obtain ⟨o₇, h₇⟩ := exists_guardCatches ctx (o₆.text?.getD (o.text?.getD t))
    have hrest : ∃ r, runFrom ctx (number + 1) [.responseHeaders, .errorBoundary] (o.text?.getD t) = .ok r :=
      ⟨(_, _), runFrom_cons_eq_ok.2 ⟨o₆, _, h₆, runFrom_cons_eq_ok.2 ⟨o₇, _, h₇, rfl, rfl⟩, rfl⟩⟩
    obtain ⟨r, hr⟩ := hrest
    rw [hr] at h
    cases h

theorem exists_preflight_auth {out : Result} (h : run Step.standard ctx t = .ok out) :
    ∃ s o₄ o₅, delegatePreflight s = .ok o₄ ∧ injectAuth ctx (o₄.text?.getD s) = .ok o₅ ∧
      (∀ outcome, Reports out.notes .preflight outcome ↔ ∃ m, (outcome, m) ∈ o₄.notes) ∧
      (∀ outcome, Reports out.notes .auth outcome ↔ ∃ m, (outcome, m) ∈ o₅.notes) ∧
      ∀ n ∈ out.notes, n.step = .auth → (n.outcome, n.message) ∈ o₅.notes := by
  obtain ⟨o₁, n₁, -, hrun₁, hnotes⟩ := runFrom_cons_eq_ok.1 (run_eq_ok.1 h).1
  obtain ⟨o₂, n₂, -, hrun₂, rfl⟩ := runFrom_cons_eq_ok.1 hrun₁
  obtain ⟨o₃, n₃, -, hrun₃, rfl⟩ := runFrom_cons_eq_ok.1 hrun₂
  obtain ⟨o₄, n₄, h₄, hrun₄, rfl⟩ := runFrom_cons_eq_ok.1 hrun₃
  obtain ⟨o₅, n₅, h₅, hrun₅, rfl⟩ := runFrom_cons_eq_ok.1 hrun₄
  obtain ⟨o₆, n₆, -, hrun₆, rfl⟩ := runFrom_cons_eq_ok.1 hrun₅
  obtain ⟨o₇, n₇, -, hrun₇, rfl⟩ := runFrom_cons_eq_ok.1 hrun₆
  obtain ⟨-, rfl⟩ := Prod.mk.inj (Except.ok.inj hrun₇)
  refine ⟨_, o₄, o₅, h₄, h₅, ?_, ?_, ?_⟩
  · intro outcome
    simp [hnotes, reports_append, reports_notesOf]
  · intro outcome
    simp [hnotes, reports_append, reports_notesOf]
  · intro n hn hstep
    have hof : ∀ {number step o}, n ∈ notesOf number step o → step = .auth ∧ (n.outcome, n.message) ∈ o.notes := by
      intro number step o hn
      obtain ⟨note, hnote, rfl⟩ := List.mem_map.1 hn
      exact ⟨hstep, hnote⟩
    rw [hnotes] at hn
    simp only [List.mem_append, List.not_mem_nil, or_false] at hn
    rcases hn with hn | hn | hn | hn | hn | hn | hn
    · cases (hof hn).1
    · cases (hof hn).1
    · cases (hof hn).1
    · cases (hof hn).1
    · exact (hof hn).2
    · cases (hof hn).1
    · cases (hof hn).1

/-- The preflight step leaves a block that authentication takes for its place. -/
theorem auth_of_applied_preflight :
    (∀ (t u : Text) (notes : List (Outcome × String)), delegatePreflight t = .ok ⟨some u, notes⟩ →
      ∃ hit, firstHit u preflightBlocks = some hit ∧ hit.recognizer = "preflight delegation") ∧
    ∀ (ctx : Context) (t : Text), ctx.policy = .plainAuth →
      (∀ out, run Step.standard ctx t = .ok out → Reports out.notes .preflight .applied →
        (Reports out.notes .auth .skipped ∨ Reports out.notes .auth .applied) ∧
        ∀ n ∈ out.notes, n.step = .auth → n.outcome = .warning → n.message ≠ authWarning .plainAuth) ∧
      ∀ u notes f, runFrom ctx 1 (Step.standard.take 4) t = .ok (u, notes) →
        run Step.standard ctx t = .error f → f.step = .auth := by
  refine ⟨fun t u notes h => firstHit_of_delegatePreflight h, fun ctx t hpolicy => ⟨fun out h happlied => ?_, ?_⟩⟩
  · obtain ⟨s, ⟨text?, notes₄⟩, o₅, h₄, h₅, hpreflight, hauth, hmessages⟩ := exists_preflight_auth h
    have h₄' : Step.preflight.apply ctx s = .ok ⟨text?, notes₄⟩ := h₄
    obtain ⟨u, rfl⟩ := Option.isSome_iff_exists.1 ((Step.isSome_iff_applied h₄').2 ((hpreflight _).1 happlied))
    obtain ⟨anchor, hanchor, -⟩ := firstHit_of_delegatePreflight h₄
    rcases injectAuth_of_anchor hpolicy hanchor h₅ with ⟨m, hnotes⟩ | ⟨m, hnotes⟩
    · refine ⟨.inl ((hauth _).2 ⟨m, by simp [hnotes]⟩), fun n hn hstep hwarning => ?_⟩
      have hmem := hmessages n hn hstep
      rw [hnotes, hwarning] at hmem
      cases List.mem_singleton.1 hmem
    · refine ⟨.inr ((hauth _).2 ⟨m, by simp [hnotes]⟩), fun n hn hstep hwarning => ?_⟩
      have hmem := hmessages n hn hstep
      rw [hnotes, hwarning] at hmem
      rcases List.mem_append.1 hmem with hmem | hmem
      · exact clientNote_ne_authWarning hmem
      · cases List.mem_singleton.1 hmem
  · intro u notes f hfour hrun
    have hall : runFrom ctx 1 Step.standard t = .error f := by
      unfold run at hrun
      split at hrun
      · next hall => cases hrun; exact hall
      · cases hrun
    have hsplit := runFrom_append [.auth, .responseHeaders, .errorBoundary] hfour
    have hstandard : Step.standard.take 4 ++ [.auth, .responseHeaders, .errorBoundary] = Step.standard := rfl
    rw [hstandard, hall] at hsplit
    cases hlast : runFrom ctx (1 + (Step.standard.take 4).length) [.auth, .responseHeaders, .errorBoundary] u with
    | ok r => rw [hlast] at hsplit; cases hsplit
    | error f' =>
      rw [hlast] at hsplit
      cases hsplit
      exact step_of_last_steps hlast

end Runs

/-- A guard that answers by itself. -/
def bareGuard : Text := "if(method=='OPTIONS')\x7breturn\x7d".toList

set_option maxRecDepth 20000 in
theorem auth_of_applied_preflight_bareGuard :
    ∃ out, run Step.standard ⟨"f", .plainAuth, ⟨.text "serve(", .text "std/http"⟩⟩ bareGuard = .ok out ∧
      Reports out.notes .preflight .applied ∧
      (Reports out.notes .auth .skipped ∨ Reports out.notes .auth .applied) ∧
      ∀ n ∈ out.notes, n.step = .auth → n.outcome = .warning → n.message ≠ authWarning .plainAuth := by
  have hrun : ∃ out ∈ (run Step.standard ⟨"f", .plainAuth, ⟨.text "serve(", .text "std/http"⟩⟩ bareGuard).toOption,
      ∃ n ∈ out.notes, n.step = .preflight ∧ n.outcome = .applied := by decide +kernel
  obtain ⟨out, hout, happlied⟩ := hrun
  have hout := toOption_eq_some hout
  exact ⟨out, hout, happlied, (auth_of_applied_preflight.2 _ _ rfl).1 out hout happlied⟩

end Migration

end HandlerMigration
