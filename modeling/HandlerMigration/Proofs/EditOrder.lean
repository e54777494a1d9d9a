import HandlerMigration.Proofs.Splice

/-!
# The order in which edits are given

Main statement: edits that all fit have the same answer in whatever order they are given, as long as
insertions at one offset keep theirs (`applyAll_perm`).

Sorting leaves two lists of edits with the same spans in the same places, so an overlap is found between the
same spans in both. Where there is none, only insertions can share a span, and the sort keeps their order.
-/

namespace HandlerMigration.Edit

variable {t : Text} {edits edits' es es' : List Edit}

theorem eq_of_spans_eq (hspans : es.map span = es'.map span)
    (hsame : ∀ s : Span, es.filter (fun e => e.span = s) = es'.filter (fun e => e.span = s)) : es = es' := by
  induction es generalizing es' with
  | nil => exact (List.map_eq_nil_iff.1 hspans.symm).symm
  | cons e es ih =>
    obtain ⟨e', es', rfl, hspan, htail⟩ := List.map_eq_cons_iff.1 hspans.symm
    -- the first edits share a span, so each of them is the first of that span
    have hfirst := hsame e.span
    simp only [List.filter_cons, hspan, decide_true, ↓reduceIte, List.cons.injEq] at hfirst
    obtain ⟨rfl, -⟩ := hfirst
    rw [ih htail.symm fun s => ?_]
    have hs := hsame s
    simp only [List.filter_cons] at hs
    split_ifs at hs
    · exact (List.cons.inj hs).2
    · exact hs

theorem map_span_sort_eq (hperm : edits.Perm edits') : (sort edits).map span = (sort edits').map span := by
  have hsorted : ∀ es : List Edit, ((sort es).map span).Pairwise fun a b =>
      a.start < b.start ∨ a.start = b.start ∧ a.stop ≤ b.stop := fun es =>
    List.pairwise_map.2 (stablySorted_sort es).order
  have hspans : ((sort edits).map span).Perm ((sort edits').map span) :=
    ((sort_perm edits).trans (hperm.trans (sort_perm edits').symm)).map span
  refine hspans.eq_of_pairwise ?_ (hsorted edits) (hsorted edits')
  rintro ⟨start, stop⟩ ⟨start', stop'⟩ - - hle hle'
  simp only [Span.mk.injEq] at hle hle' ⊢
  omega

theorem firstOverlap_congr (h : es.map span = es'.map span) : firstOverlap es = firstOverlap es' := by
  fun_induction firstOverlap es generalizing es' with
  | case1 a b rest hab =>
    obtain ⟨a', _, rfl, ha, h⟩ := List.map_eq_cons_iff.1 h.symm
    obtain ⟨b', rest', rfl, hb, -⟩ := List.map_eq_cons_iff.1 h
    have hab' : b'.start < a'.stop := by
      simp only [span, Span.mk.injEq] at ha hb
      omega
    rw [firstOverlap, if_pos hab', ha, hb]
  | case2 a b rest hab ih =>
    obtain ⟨a', _, rfl, ha, h⟩ := List.map_eq_cons_iff.1 h.symm
    obtain ⟨b', rest', rfl, hb, hrest⟩ := List.map_eq_cons_iff.1 h
    have hab' : ¬ b'.start < a'.stop := by
      simp only [span, Span.mk.injEq] at ha hb
      omega
    rw [firstOverlap, if_neg hab']
    exact ih (by rw [List.map_cons, List.map_cons, hb, hrest])
  | case3 es hes =>
    rcases es with _ | ⟨a, _ | ⟨b, rest⟩⟩
    · rw [List.map_eq_nil_iff.1 h.symm]
      rfl
    · obtain ⟨a', _, rfl, -, hnil⟩ := List.map_eq_cons_iff.1 h.symm
      rw [List.map_eq_nil_iff.1 hnil]
      rfl
    · exact absurd rfl (hes a b rest)

/-- Of edits that fit and keep apart, at most one has a given span, unless it is that of an insertion. -/
theorem filter_span_eq (hperm : edits.Perm edits') (hfit : ∀ e ∈ edits, Fits t e) (hapart : (sort edits).Pairwise Apart)
    {s : Span} (hs : s.start ≠ s.stop) :
    edits.filter (fun e => e.span = s) = edits'.filter (fun e => e.span = s) := by
  have hpair : (edits.filter fun e => e.span = s).Pairwise Apart := by
    rw [← (stablySorted_sort edits).stable s]
    exact hapart.filter _
  have hspan : ∀ e ∈ edits.filter fun e => e.span = s, Fits t e ∧ e.span = s := fun e he =>
    ⟨hfit e (List.mem_filter.1 he).1, of_decide_eq_true (List.mem_filter.1 he).2⟩
  have hfilter := hperm.filter fun e => e.span = s
  generalize edits.filter (fun e => e.span = s) = es at hpair hspan hfilter
  match es with
  | [] => exact (List.nil_perm.1 hfilter).symm
  | [e] => exact List.singleton_perm.1 hfilter
  | a :: b :: _ =>
    obtain ⟨hfa, rfl⟩ := hspan a (by simp)
    obtain ⟨-, hb⟩ := hspan b (by simp)
    have hab : a.stop ≤ b.start := List.rel_of_pairwise_cons hpair List.mem_cons_self
    have hle := hfa.le
    simp only [span, Span.mk.injEq, ne_eq] at hb hs
    omega

/-- Where no edit reaches into another one, the order by position is the same for both lists. -/
theorem sort_eq_sort (hperm : edits.Perm edits') (hfit : ∀ e ∈ edits, Fits t e) (hapart : (sort edits).Pairwise Apart)
    (hinsert : ∀ n, edits.filter (fun e => e.span = ⟨n, n⟩) = edits'.filter (fun e => e.span = ⟨n, n⟩)) :
    sort edits = sort edits' := by
  refine eq_of_spans_eq (map_span_sort_eq hperm) fun s => ?_
  rw [(stablySorted_sort edits).stable, (stablySorted_sort edits').stable]
  by_cases hs : s.start = s.stop
  · obtain ⟨start, stop⟩ := s
    obtain rfl : start = stop := hs
    exact hinsert start
  · exact filter_span_eq hperm hfit hapart hs

/-- The order of edits that fit does not matter, but for that of insertions at one offset: either order gives the
same text, or the same two spans as those that overlap. -/
theorem applyAll_perm (hperm : edits.Perm edits') (hfit : ∀ e ∈ edits, Fits t e)
    (hinsert : ∀ n, edits.filter (fun e => e.span = ⟨n, n⟩) = edits'.filter (fun e => e.span = ⟨n, n⟩)) :
    (∃ u, applyAll t edits = .ok u ∧ applyAll t edits' = .ok u) ∨
      ∃ a b, applyAll t edits = .error (.overlap a b) ∧ applyAll t edits' = .error (.overlap a b) := by
  have hfit' : ∀ e ∈ edits', Fits t e := fun e he => hfit e (hperm.mem_iff.2 he)
  have hoverlap : ∀ {es : List Edit} {a b : Span}, (∀ e ∈ es, Fits t e) → firstOverlap (sort es) = some (a, b) →
      applyAll t es = .error (.overlap a b) := by
    intro es a b hes hsome
    rcases forM_check_cases t es with ⟨hok, -⟩ | ⟨f, -, before, e, after, rfl, -, hblame⟩
    · simp only [applyAll_eq, hok, hsome]
    · exact absurd (hes e (by simp)) hblame.not_fits
  rcases firstOverlap_cases (sort edits) with ⟨-, hchain⟩ | ⟨_, a, b, _, -, -, -, hsome⟩
  · obtain ⟨u, hu⟩ := exists_spliced hfit hchain
    refine .inl ⟨u, applyAll_eq_ok_iff.2 hu, applyAll_eq_ok_iff.2 ?_⟩
    rwa [← sort_eq_sort hperm hfit hu.pairwise hinsert]
  · refine .inr ⟨a.span, b.span, hoverlap hfit hsome, hoverlap hfit' ?_⟩
    rwa [← firstOverlap_congr (map_span_sort_eq hperm)]

/-- Two insertions at one offset, in the same order around a deletion behind a character of two bytes. -/
theorem applyAll_perm_twoInsertions :
    (∃ u, applyAll ['é', 'a', 'b'] [insert 2 ['x'], delete 2 3, insert 2 ['y']] = .ok u ∧
      applyAll ['é', 'a', 'b'] [delete 2 3, insert 2 ['x'], insert 2 ['y']] = .ok u) ∨
    ∃ a b, applyAll ['é', 'a', 'b'] [insert 2 ['x'], delete 2 3, insert 2 ['y']] = .error (.overlap a b) ∧
      applyAll ['é', 'a', 'b'] [delete 2 3, insert 2 ['x'], insert 2 ['y']] = .error (.overlap a b) := by
  refine applyAll_perm (by decide) ?_ fun n => ?_
  · simp only [List.forall_mem_cons, List.not_mem_nil, false_implies, implies_true, and_true]
    exact ⟨fits_insert ['é'] ['a', 'b'] _, fits_delete ['é'] ['a'] ['b'], fits_insert ['é'] ['a', 'b'] _⟩
  · have hdelete : ¬ (delete 2 3).span = ⟨n, n⟩ := by
      simp only [span, delete, Span.mk.injEq]
      omega
    simp only [List.filter_cons, hdelete, decide_false, Bool.false_eq_true, ↓reduceIte]

end HandlerMigration.Edit
