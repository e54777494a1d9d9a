import HandlerMigration.Proofs.Audit
import HandlerMigration.Proofs.HeaderRemoval
import HandlerMigration.Proofs.ImportPlacement
import HandlerMigration.Proofs.PreflightBrackets
import HandlerMigration.Proofs.ReferenceCount
import HandlerMigration.Proofs.Safeguards
import Mathlib.Data.List.Sublists

/-!
# Runs without authentication

Under the policy that leaves authentication alone, two steps do nothing at all. The edits of the others bring
neither of the two words that stand for authentication: what they put in has none, and no part of one that the text
around it could complete (`BringsNone`). So no word comes up, at a seam or elsewhere (`corsOnly_of_run`).
-/

namespace HandlerMigration

open Text

namespace Text

theorem firstLine_cases (t : Text) : firstLine t = t ∨ (firstLine t).getLast? = some '\n' := by
  induction t with
  | nil => exact .inl rfl
  | cons c t ih =>
    rw [firstLine]
    split_ifs with hc
    · exact .inr (by rw [hc]; rfl)
    · refine ih.imp (congrArg (c :: ·)) fun hlast => ?_
      rw [List.getLast?_cons, hlast, Option.getD_some]

theorem getLast?_of_lineEnd {t pre post : Text} {n : Nat} (hend : t.lineEnd n = some (size pre)) (ht : t = pre ++ post)
    (hopen : (decide (size pre = t.size) && !t.endsWith ['\n']) = false) : pre.getLast? = some '\n' := by
  obtain ⟨⟨a, b⟩, hcut, hsize⟩ := Option.map_eq_some_iff.1 hend
  obtain ⟨rfl, rfl⟩ := cut_eq_some_iff.1 hcut
  obtain ⟨r, hr⟩ := firstLine_isPrefix b
  have hparts : (a ++ firstLine b) ++ r = pre ++ post := by rw [List.append_assoc, hr, ht]
  obtain ⟨rfl, -⟩ := append_inj_of_size hparts (by rw [size_append]; exact hsize)
  rcases firstLine_cases b with hall | hlast
  · rw [hall] at hopen ⊢
    rw [decide_eq_true rfl, Bool.true_and, Bool.not_eq_false', endsWith, List.isSuffixOf_iff_suffix] at hopen
    obtain ⟨x, hx⟩ := hopen
    rw [← hx, List.getLast?_concat]
  · rw [List.getLast?_append, hlast, Option.some_or]

end Text

namespace Migration

open Shape

/-- The name of the helper that authenticates, and the word that a guard of a catch block has. -/
def authWords : List Text :=
  [['v', 'a', 'l', 'i', 'd', 'a', 't', 'e', 'A', 'u', 't', 'h'], ['i', 'n', 's', 't', 'a', 'n', 'c', 'e', 'o', 'f']]

/-- What the steps put in, apart from margins. Of what takes the place of a header or a preflight block this is the
part behind the start that both share. -/
def newTexts : List Text :=
  [['\n'], Canonical.originStatement.toList,
    (Canonical.importLine [Canonical.corsHeadersHelper, Canonical.preflightHelper] Canonical.corsModule).toList,
    blockLine.drop 2 ++ ['\n'], callFront ++ '(' :: (callArgument ++ [')', ';', '\n']), ['}']] ++
  ([Canonical.corsHeadersHelper, Canonical.preflightHelper].sublists.map listed ++
    HeaderShape.all.map fun shape => (shape.front ++ '(' :: shape.back).drop shape.pattern.leading.length)

section Words

variable {m t u pre old post : Text} {ctx : Context} {o : Output}

theorem ne_nil_of_authWords (hm : m ∈ authWords) : m ≠ [] := by
  rintro rfl
  revert hm
  decide

theorem lacks_newText (hm : m ∈ authWords) {a : Text} (ha : a ∈ newTexts) : Lacks m a := by
  have hall : authWords.all (fun m => newTexts.all (isFreeOf m)) = true := by decide
  exact lacks_of_isFreeOf (List.all_eq_true.1 (List.all_eq_true.1 hall m hm) a ha)

theorem lacks_newline (hm : m ∈ authWords) : Lacks m ['\n'] := lacks_newText hm (List.mem_append_left _ (.head _))

theorem lacks_originStatement (hm : m ∈ authWords) : Lacks m Canonical.originStatement.toList :=
  lacks_newText hm (List.mem_append_left _ (.tail _ (.head _)))

theorem lacks_importLine (hm : m ∈ authWords) : Lacks m (Canonical.importLine
    [Canonical.corsHeadersHelper, Canonical.preflightHelper] Canonical.corsModule).toList :=
  lacks_newText hm (List.mem_append_left _ (.tail _ (.tail _ (.head _))))

theorem mark_not_mem (hm : m ∈ authWords) {c : Char} (hc : c ∈ [' ', '\t', '\n', ',', ':', '{']) : c ∉ m := by
  have hall : authWords.all (fun m => [' ', '\t', '\n', ',', ':', '{'].all fun c => decide (c ∉ m)) = true := by decide
  exact of_decide_eq_true (List.all_eq_true.1 (List.all_eq_true.1 hall m hm) c hc)

theorem margin_not_mem (hm : m ∈ authWords) {c : Char} (hc : isMargin c = true) : c ∉ m := by
  have hspace : c = ' ' ∨ c = '\t' := by simpa [isMargin] using hc
  refine mark_not_mem hm ?_
  rcases hspace with rfl | rfl <;> simp

theorem lacks_margin (hm : m ∈ authWords) {margin : Text} (h : ∀ c ∈ margin, isMargin c = true) : Lacks m margin :=
  lacks_of_not_mem (ne_nil_of_authWords hm) fun c hc => margin_not_mem hm (h c hc)

theorem seam_of_lineStart (hm : m ∈ authWords) (h : pre = [] ∨ pre.getLast? = some '\n') (z : Text) : Seam m pre z := by
  refine seam_of_last (fun c hc => ?_) z
  rcases h with rfl | h
  · cases hc
  · rw [h] at hc
    cases hc
    exact mark_not_mem hm (by simp)

theorem seam_of_margin (hm : m ∈ authWords) {margin : Text} (hmargin : ∀ c ∈ margin, isMargin c = true)
    (h : pre = [] ∨ pre.getLast? = some '\n') (z : Text) : Seam m (pre ++ margin) z := by
  rcases List.eq_nil_or_concat' margin with rfl | ⟨x, c, rfl⟩
  · rw [List.append_nil]
    exact seam_of_lineStart hm h z
  · refine seam_of_last (fun d hd => ?_) z
    rw [← List.append_assoc, List.getLast?_concat] at hd
    cases hd
    exact margin_not_mem hm (hmargin c (by simp))

/-! ### Imports -/

theorem lacks_imports (hm : m ∈ authWords) {names : List String}
    (hnames : names.Sublist [Canonical.corsHeadersHelper, Canonical.preflightHelper]) : Lacks m (listed names) := by
  refine lacks_newText hm (List.mem_append_right _ (List.mem_append_left _ ?_))
  exact List.mem_map_of_mem (List.mem_sublists.2 hnames)

theorem bringsNone_importEdit (hm : m ∈ authWords) {e : Edit} (he : e ∈ importEdits .corsOnly t) (pre old : Text) :
    BringsNone m pre old e.replacement := by
  rw [importEdits_eq] at he
  obtain ⟨r, hr, he⟩ := List.mem_filterMap.1 he
  obtain ⟨i, -, hne, rfl⟩ := importEdit?_eq_some he
  obtain rfl := List.mem_singleton.1 hr
  have hsub : (lacking t i [Canonical.corsHeadersHelper, Canonical.preflightHelper]).Sublist _ := List.filter_sublist
  obtain ⟨name, names, hnames⟩ := List.exists_cons_of_ne_nil hne
  have hnew := lacks_imports hm hsub
  simp only [hnames] at hnew ⊢
  exact bringsNone_of_lacks hnew (fun z => seam_of_head (mark_not_mem hm (by simp)) _ _) old

theorem importLines_corsOnly (h : importLines .corsOnly t ≠ []) : importLines .corsOnly t =
    [Canonical.importLine [Canonical.corsHeadersHelper, Canonical.preflightHelper] Canonical.corsModule] := by
  have hnone : moduleImport? t Canonical.corsModule.toList = none := by
    by_contra hsome
    refine h (importLines_eq_nil_iff.2 fun r hr => ?_)
    obtain rfl := List.mem_singleton.1 hr
    exact hsome
  simp only [importLines, requiredImports, Policy.helper?, List.map_cons, List.map_nil, ImportNeed.of, hnone,
    List.filterMap_cons, List.filterMap_nil, ImportNeed.line?]

theorem bringsNone_importBlock (hm : m ∈ authWords) {n : Nat} (hend : t.lineEnd n = some (size pre))
    (ht : t = pre ++ post) (hlines : importLines .corsOnly t ≠ []) (old : Text) :
    BringsNone m pre old (importBlock t (size pre) (importLines .corsOnly t)) := by
  have hnewline := lacks_newline hm
  have hline := lacks_importLine hm
  rw [importLines_corsOnly hlines, importBlock]
  generalize Canonical.importLine _ _ = line at hline ⊢
  have hblock : ("\n".intercalate [line]).toList = line.toList := by simp
  rw [hblock]
  split_ifs with hopen
  · exact bringsNone_of_lacks (hnewline.append hline) (fun z => seam_of_head (mark_not_mem hm (by simp)) _ _) old
  · refine bringsNone_of_lacks (hline.append hnewline) (fun z => ?_) old
    exact seam_of_lineStart hm (.inr (getLast?_of_lineEnd hend ht (Bool.eq_false_of_not_eq_true hopen))) _

/-- The step makes no edits but the additions to imports and the block of new lines. -/
theorem exists_edits_of_normalizeImports (h : normalizeImports ctx t = .ok o) (hu : o.text? = some u) :
    ∃ edits, Edit.applyAll t edits = .ok u ∧ ∀ e ∈ edits, e ∈ importEdits ctx.policy t ∨
      importLines ctx.policy t ≠ [] ∧ ∃ n offset, t.lineEnd n = some offset ∧
        e = .insert offset (importBlock t offset (importLines ctx.policy t)) := by
  unfold importEdits importLines
  simp only [normalizeImports, List.isEmpty_iff] at h
  generalize ((requiredImports ctx.policy).map (ImportNeed.of t)).filterMap ImportNeed.extension? = extensions at *
  generalize ((requiredImports ctx.policy).map (ImportNeed.of t)).filterMap ImportNeed.line? = lines at *
  by_cases hlines : lines = []
  · rw [if_pos hlines] at h
    split_ifs at h with hnone
    · cases h
      cases hu
    · obtain ⟨u', happly, h⟩ := bind_eq_ok h
      cases h
      cases hu
      exact ⟨_, happly, fun e he => .inl he⟩
  · rw [if_neg hlines] at h
    split at h
    · obtain ⟨edit, hedit, h⟩ := bind_eq_ok h
      obtain ⟨u', happly, h⟩ := bind_eq_ok h
      cases h
      cases hu
      refine ⟨_, happly, fun e he => ?_⟩
      rcases List.mem_append.1 he with he | he
      · exact .inl he
      · obtain rfl := List.mem_singleton.1 he
        obtain ⟨offset, hoffset, -⟩ := bind_eq_ok hedit
        have hend := unlessCut_eq_ok hoffset
        rw [insertLines_eq_ok hend] at hedit
        exact .inr ⟨hlines, _, offset, hend, (Except.ok.inj hedit).symm⟩
    · split_ifs at h with hnone
      · cases h
        cases hu
      · obtain ⟨u', happly, h⟩ := bind_eq_ok h
        cases h
        cases hu
        exact ⟨_, happly, fun e he => .inl he⟩

theorem occurrences_normalizeImports (hm : m ∈ authWords) (hpolicy : ctx.policy = .corsOnly)
    (h : normalizeImports ctx t = .ok o) (hu : o.text? = some u) : occurrences m u ≤ occurrences m t := by
  obtain ⟨edits, happly, hedits⟩ := exists_edits_of_normalizeImports h hu
  rw [hpolicy] at hedits
  refine Edit.occurrences_le happly fun e he pre old post ht hpre _ => ?_
  rcases hedits e he with he | ⟨hlines, n, offset, hend, rfl⟩
  · exact bringsNone_importEdit hm he pre old
  · obtain rfl : size pre = offset := hpre
    exact bringsNone_importBlock hm hend (ht.trans (List.append_assoc _ _ _)) hlines old

/-! ### Lines that go -/

theorem bringsNone_delete (hm : m ∈ authWords) (h : pre = [] ∨ pre.getLast? = some '\n') (old : Text) :
    BringsNone m pre old [] :=
  bringsNone_of_lacks (lacks_of_not_mem (ne_nil_of_authWords hm) (by simp)) (fun _ => seam_of_lineStart hm h _) old

theorem occurrences_removeHeaderTable (hm : m ∈ authWords) (h : removeHeaderTable t = .ok o) :
    occurrences m (o.text?.getD t) ≤ occurrences m t := by
  refine Edit.occurrences_le (applyAll_headerRemovals h) fun e he pre old post ht hpre _ => ?_
  obtain ⟨a, lines, b, ht', rfl, hlines⟩ := takesLines_of_mem he
  obtain ⟨rfl, -⟩ := append_inj_of_size ((List.append_assoc _ _ _).symm.trans (ht.symm.trans ht')) hpre
  exact bringsNone_delete hm hlines.start old

/-! ### The origin -/

/-- The step makes no edits but these: a new line, the canonical statement, and deletions. -/
theorem exists_edits_of_normalizeOrigin (h : normalizeOrigin ctx t = .ok o) (hu : o.text? = some u) :
    ∃ edits, Edit.applyAll t edits = .ok u ∧ ∀ e ∈ edits,
      (∃ n margin, (∀ c ∈ margin, isMargin c = true) ∧
        e = .insert n ('\n' :: (margin ++ Canonical.originStatement.toList))) ∨
      ∃ line ∈ originLines t, e = .delete line.line.start line.line.stop ∨
        e = ⟨line.statement.start, line.statement.stop, Canonical.originStatement.toList⟩ := by
  unfold normalizeOrigin at h
  split at h
  · unfold insertOrigin at h
    split at h
    · cases h
      cases hu
    · next entry _ =>
      obtain ⟨margin, hmargin, h⟩ := bind_eq_ok h
      obtain ⟨u', happly, h⟩ := bind_eq_ok h
      cases h
      cases hu
      refine ⟨_, happly, List.forall_mem_singleton.2 (.inl ⟨entry.span.stop, margin ++ [' ', ' '], ?_, by simp⟩)⟩
      intro c hc
      rcases List.mem_append.1 hc with hc | hc
      · exact isMargin_of_marginAt hmargin c hc
      · obtain rfl : c = ' ' := by simpa using hc
        decide
  · next first others hlines =>
    have hedits : ∀ e ∈ (others.map fun o => Edit.delete o.line.start o.line.stop) ++
        (if first.isCanonical t = true then []
          else [⟨first.statement.start, first.statement.stop, Canonical.originStatement.toList⟩]),
        ∃ line ∈ originLines t, e = .delete line.line.start line.line.stop ∨
          e = ⟨line.statement.start, line.statement.stop, Canonical.originStatement.toList⟩ := by
      intro e he
      rw [hlines]
      rcases List.mem_append.1 he with he | he
      · obtain ⟨line, hline, rfl⟩ := List.mem_map.1 he
        exact ⟨line, List.mem_cons_of_mem _ hline, .inl rfl⟩
      · split_ifs at he
        · cases he
        · exact ⟨first, List.mem_cons_self, .inr (List.mem_singleton.1 he)⟩
    simp only at h
    generalize (others.map fun o => Edit.delete o.line.start o.line.stop) ++ _ = edits at h hedits
    by_cases hnone : edits.isEmpty = true
    · rw [if_pos hnone] at h
      cases h
      cases hu
    · rw [if_neg hnone] at h
      obtain ⟨u', happly, h⟩ := bind_eq_ok h
      cases h
      cases hu
      exact ⟨_, happly, fun e he => .inr (hedits e he)⟩

theorem occurrences_normalizeOrigin (hm : m ∈ authWords) (h : normalizeOrigin ctx t = .ok o) (hu : o.text? = some u) :
    occurrences m u ≤ occurrences m t := by
  obtain ⟨edits, happly, hedits⟩ := exists_edits_of_normalizeOrigin h hu
  have hstatement := lacks_originStatement hm
  generalize Canonical.originStatement.toList = statement at hedits hstatement
  refine Edit.occurrences_le happly fun e he pre old post ht hpre _ => ?_
  rw [List.append_assoc] at ht
  rcases hedits e he with ⟨n, margin, hmargin, rfl⟩ | ⟨line, hline, rfl | rfl⟩
  · have hnew : Lacks m ('\n' :: (margin ++ statement)) :=
      (lacks_newline hm).append ((lacks_margin hm hmargin).append hstatement)
    exact bringsNone_of_lacks hnew (fun z => seam_of_head (mark_not_mem hm (by simp)) _ _) old
  · obtain ⟨a, margin, w, y, z, b, ht', hreads, hspan, -⟩ := exists_originLine hline
    obtain ⟨rfl, -⟩ := append_inj_of_size (ht.symm.trans ht') (hpre.trans (by rw [hspan]; rfl))
    exact bringsNone_delete hm hreads.start old
  · obtain ⟨a, margin, w, y, z, b, ht', hreads, -, hspan, -⟩ := exists_originLine hline
    rw [← List.append_assoc] at ht'
    obtain ⟨rfl, -⟩ := append_inj_of_size (ht.symm.trans ht') (hpre.trans (by rw [hspan]))
    exact bringsNone_of_lacks hstatement (fun z => seam_of_margin hm hreads.margin hreads.start _) old

/-! ### Preflight requests -/

theorem exists_block_rest (hm : m ∈ authWords) {margin : Text} (hmargin : ∀ c ∈ margin, isMargin c = true) :
    ∃ y, Canonical.preflightBlock margin = ['i', 'f'] ++ y ∧ y.head? = some ' ' ∧ Lacks m y := by
  have hline : Lacks m (blockLine.drop 2 ++ ['\n']) :=
    lacks_newText hm (List.mem_append_left _ (.tail _ (.tail _ (.tail _ (.head _)))))
  have hcall : Lacks m (callFront ++ '(' :: (callArgument ++ [')', ';', '\n'])) :=
    lacks_newText hm (List.mem_append_left _ (.tail _ (.tail _ (.tail _ (.tail _ (.head _))))))
  have hbrace : Lacks m ['}'] := lacks_newText hm (List.mem_append_left _ (List.mem_of_getLast? rfl))
  have hmargin := lacks_margin hm hmargin
  refine ⟨_, ?_, rfl, hline.append (hmargin.append (hcall.append (hmargin.append hbrace)))⟩
  have hword : blockLine = ['i', 'f'] ++ blockLine.drop 2 := rfl
  rw [preflightBlock_eq, blockRest]
  nth_rewrite 1 [hword]
  simp only [List.append_assoc, List.cons_append, List.nil_append]

theorem occurrences_delegatePreflight (hm : m ∈ authWords) (h : Step.preflight.apply ctx t = .ok o)
    (hu : o.text? = some u) : occurrences m u ≤ occurrences m t := by
  have hsettled := Step.not_settled h hu
  obtain ⟨_, notes⟩ := o
  cases hu
  obtain ⟨hit, hhit⟩ := Option.ne_none_iff_exists'.1 fun hnone => hsettled (.inr hnone)
  obtain ⟨a, w, b, ht, hspan, hguard⟩ := exists_guard hhit
  obtain ⟨margin, hmargin, rfl⟩ := delegatePreflight_eq h hhit ht hspan
  obtain ⟨v, rfl⟩ := hguard.leading
  obtain ⟨y, hblock, hhead, hnew⟩ := exists_block_rest hm hmargin
  obtain ⟨y, rfl⟩ := List.head?_eq_some_iff.1 hhead
  have hnone : BringsNone m a (['i', 'f'] ++ (v ++ ['}'])) (Canonical.preflightBlock margin) :=
    ⟨['i', 'f'], v ++ ['}'], ' ' :: y, rfl, hblock, hnew, fun z => seam_of_head (mark_not_mem hm (by simp)) _ _⟩
  have hle := hnone.occurrences_le b
  rw [ht]
  simpa using hle

/-! ### Headers of responses -/

theorem bringsNone_site (hm : m ∈ authWords) {new : Text} (h : ReplacesSite pre old post new) :
    BringsNone m pre old new := by
  have hmarks : authWords.all (fun m => HeaderShape.all.all fun shape =>
      shape.pattern.leading.getLast?.all fun c => decide (c ∉ m)) = true := by decide
  obtain ⟨shape, ho, rfl⟩ := h
  have hmark := List.all_eq_true.1 (List.all_eq_true.1 hmarks m hm) shape shape.mem_all
  have hnew := lacks_newText hm
    (List.mem_append_right _ (List.mem_append_right _ (List.mem_map_of_mem shape.mem_all)))
  obtain ⟨y, rfl⟩ := ho.leading_isPrefix
  obtain ⟨y', hy'⟩ := shape.leading_isPrefix_sharedHeaders
  rw [← HeaderShape.sharedHeaders_eq, ← hy', List.drop_left] at hnew
  refine ⟨_, y, y', rfl, hy'.symm, hnew, fun z => seam_of_last (fun c hc => ?_) _⟩
  rw [List.getLast?_append_of_ne_nil _ shape.leading_ne_nil] at hc
  rw [Option.mem_def.1 hc] at hmark
  exact of_decide_eq_true hmark

theorem occurrences_shareHeaders (hm : m ∈ authWords) (h : shareHeaders t = .ok o) (hu : o.text? = some u) :
    occurrences m u ≤ occurrences m t := by
  rcases (shareHeaders_cases h).2 with ⟨-, hnone, -⟩ | ⟨-, -, v, hv, hrewrites⟩
  · rw [hnone] at hu
    cases hu
  · obtain rfl : u = v := Option.some.inj (hu.symm.trans hv)
    exact hrewrites.occurrences_le fun _ _ _ _ hsite => bringsNone_site hm hsite

/-! ### Steps and runs -/

theorem idle_of_corsOnly (hpolicy : ctx.policy = .corsOnly) {step : Step} (hstep : step = .auth ∨ step = .errorBoundary)
    (h : step.apply ctx t = .ok o) : o.Idle := by
  refine ((Step.answers ctx t step).idle_iff h).2 ?_
  rcases hstep with rfl | rfl
  · exact .inr (.inl (by rw [hpolicy]; rfl))
  · exact .inl (by rw [hpolicy]; rfl)

theorem occurrences_le_of_step (hm : m ∈ authWords) (hpolicy : ctx.policy = .corsOnly) {step : Step}
    (h : step.apply ctx t = .ok o) : occurrences m (o.text?.getD t) ≤ occurrences m t := by
  cases hu : o.text? with
  | none => exact Nat.le_refl _
  | some u =>
    rw [Option.getD_some]
    cases step with
    | imports => exact occurrences_normalizeImports hm hpolicy h hu
    | headerTable =>
      have hle := occurrences_removeHeaderTable hm h
      rwa [hu, Option.getD_some] at hle
    | origin => exact occurrences_normalizeOrigin hm h hu
    | preflight => exact occurrences_delegatePreflight hm h hu
    | auth => exact absurd hu (by rw [(idle_of_corsOnly hpolicy (.inl rfl) h).1]; simp)
    | responseHeaders => exact occurrences_shareHeaders hm h hu
    | errorBoundary => exact absurd hu (by rw [(idle_of_corsOnly hpolicy (.inr rfl) h).1]; simp)

theorem occurrences_le_of_runFrom (hm : m ∈ authWords) (hpolicy : ctx.policy = .corsOnly) {number : Nat}
    {steps : List Step} {notes : List Note} (h : runFrom ctx number steps t = .ok (u, notes)) :
    occurrences m u ≤ occurrences m t := by
  induction steps generalizing number t notes with
  | nil =>
    cases h
    exact Nat.le_refl _
  | cons step steps ih =>
    obtain ⟨o, notes', hstep, hrun, -⟩ := runFrom_cons_eq_ok.1 h
    exact (ih hrun).trans (occurrences_le_of_step hm hpolicy hstep)

theorem not_reports_of_runFrom (hpolicy : ctx.policy = .corsOnly) {number : Nat} {steps : List Step} {notes : List Note}
    (h : runFrom ctx number steps t = .ok (u, notes)) {step : Step} (hstep : step = .auth ∨ step = .errorBoundary) :
    ¬ Reports notes step .applied := by
  induction steps generalizing number t notes with
  | nil =>
    cases h
    simp [Reports]
  | cons first steps ih =>
    obtain ⟨o, notes', hfirst, hrun, rfl⟩ := runFrom_cons_eq_ok.1 h
    rw [reports_append, reports_notesOf]
    rintro (⟨rfl, message, hmessage⟩ | hlater)
    · exact (idle_of_corsOnly hpolicy hstep hfirst).2 _ hmessage rfl
    · exact ih hrun hlater

end Words

/-- A run of steps that leaves authentication alone brings no further occurrence of either word, and neither of the
steps that authenticate reports that it changed something. -/
theorem corsOnly_of_run {steps : List Step} {ctx : Context} {t : Text} {out : Result}
    (hpolicy : ctx.policy = .corsOnly) (h : run steps ctx t = .ok out) :
    out.text.count "validateAuth".toList ≤ t.count "validateAuth".toList ∧
    out.text.count "instanceof".toList ≤ t.count "instanceof".toList ∧
    ¬ Reports out.notes .auth .applied ∧ ¬ Reports out.notes .errorBoundary .applied := by
  have hrun := (run_eq_ok.1 h).1
  have hcount : ∀ c s, c :: s ∈ authWords → c ∉ s → out.text.count (c :: s) ≤ t.count (c :: s) := by
    intro c s hm hc
    rw [count_eq_occurrences hc, count_eq_occurrences hc]
    exact occurrences_le_of_runFrom hm hpolicy hrun
  refine ⟨?_, ?_, not_reports_of_runFrom hpolicy hrun (.inl rfl), not_reports_of_runFrom hpolicy hrun (.inr rfl)⟩
  · exact hcount 'v' _ List.mem_cons_self (by decide)
  · exact hcount 'i' _ (List.mem_cons_of_mem _ List.mem_cons_self) (by decide)

/-- A site that takes the last letter of a word, between the places of new lines. -/
def sharedLetter : Text := "std/http\nserve(e instanceof validateAutheaders: corsHeaders".toList

set_option maxRecDepth 20000 in
theorem corsOnly_of_run_sharedLetter :
    ∃ out, run Step.standard ⟨"f", .corsOnly, ⟨.text "serve(", .text "std/http"⟩⟩ sharedLetter = .ok out ∧
      out.text.count "validateAuth".toList ≤ 1 ∧ out.text.count "instanceof".toList ≤ 1 ∧
      ¬ Reports out.notes .auth .applied ∧ ¬ Reports out.notes .errorBoundary .applied := by
  obtain ⟨hok, hauth, hguard⟩ :
      (run Step.standard ⟨"f", .corsOnly, ⟨.text "serve(", .text "std/http"⟩⟩ sharedLetter).isOk = true ∧
      sharedLetter.count "validateAuth".toList = 1 ∧ sharedLetter.count "instanceof".toList = 1 := by decide +kernel
  obtain ⟨out, hout⟩ := exists_ok hok
  obtain ⟨hle, hle', hnone⟩ := corsOnly_of_run rfl hout
  rw [hauth] at hle
  rw [hguard] at hle'
  exact ⟨out, hout, hle, hle', hnone⟩

end Migration

end HandlerMigration
