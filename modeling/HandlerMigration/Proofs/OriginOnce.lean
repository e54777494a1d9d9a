import HandlerMigration.Proofs.AuthInjection
import HandlerMigration.Proofs.LineSeams
import HandlerMigration.Proofs.OriginLines
import HandlerMigration.Settings.Basic

/-!
# Reading the origin once

The step is to leave one line that reads the origin. It puts in a line behind the entry point, or it gives the
first line the canonical statement and takes out the others. Main statement: what it leaves reads the origin
once exactly if nothing follows the new line on its line, or if no line that was taken out had interrupted
another statement of the kind (`normalizeOrigin_once_iff`). Neither is the case for every text
(`normalizeOrigin_leaves_two`).

In front of the canonical line nothing changes: a line that reads the origin does not go on into another one,
since its only `c` is its first letter (`ReadsOrigin.ends_in_front`). Inside the canonical line no other one
starts, since its only newline is its last character (`ReadsOrigin.size_le`). What is left is behind it
(`readsOriginOnce_iff`).
-/

namespace HandlerMigration

open Text

theorem size_le_of_newline {a line b x r : Text} (hline : '\n' ∉ line.dropLast)
    (h : a ++ (line ++ b) = x ++ r) (hx : x.getLast? = some '\n') (hlt : size a < size x) :
    size (a ++ line) ≤ size x := by
  by_contra hgt
  obtain ⟨k, k', rfl, rfl, -, hne'⟩ := exists_inside h (Nat.le_of_lt hlt) (by omega)
  have hne : k ≠ [] := by
    rintro rfl
    simp at hlt
  rw [List.getLast?_append_of_ne_nil _ hne] at hx
  refine hline ?_
  rw [List.dropLast_append_of_ne_nil hne']
  exact List.mem_append_left _ (List.mem_of_getLast? hx)

namespace Shape

open Pattern Piece

/-! ### The canonical line -/

theorem originStatement_spells (last next : Option Char) :
    originStatementPattern.Spells last Canonical.originStatement.toList next := by
  have hends : ∃ stop ∈ originStatementPattern.ends 64 (.behind [] Canonical.originStatement.toList),
      stop.rest = [] := by decide +kernel
  obtain ⟨stop, hstop, hrest⟩ := hends
  obtain ⟨w, hreach, hw⟩ := mem_ends hstop
  have hall : Canonical.originStatement.toList = w := by
    have hsplit : Canonical.originStatement.toList = w ++ stop.rest := hreach.rest
    rw [hsplit, hrest, List.append_nil]
  rw [hall]
  have hlast : w.getLast? = some ';' := by rw [← hall]; decide
  exact (hw.change_last (by decide) last).change_next (by decide) hlast next

theorem exists_originStatement : ∃ s, Canonical.originStatement.toList = 'c' :: s := ⟨_, rfl⟩

theorem newline_not_mem_originStatement : '\n' ∉ Canonical.originStatement.toList := by decide

/-- The text has one line that reads the origin, and its statement is the canonical one. -/
def ReadsOriginOnce (t : Text) : Prop := ∃ line, originLines t = [line] ∧ line.isCanonical t = true

section Once

variable {a m w y z b a' m' w' y' z' b' r v : Text}

theorem c_not_mem_margin (hm : ∀ c ∈ m, isMargin c = true) : 'c' ∉ m := fun hc => absurd (hm _ hc) (by decide)

theorem newline_not_mem_margin (hm : ∀ c ∈ m, isMargin c = true) : '\n' ∉ m := fun hc => absurd (hm _ hc) (by decide)

theorem ReadsOrigin.eq_canonical (h : ReadsOrigin a m w y z b) (hm' : ∀ c ∈ m', isMargin c = true)
    (hsplit : m ++ (w ++ (y ++ (z ++ b))) = m' ++ (Canonical.originStatement.toList ++ v)) :
    m = m' ∧ w = Canonical.originStatement.toList ∧ y ++ (z ++ b) = v := by
  obtain ⟨s, hs, -⟩ := h.statement.exists_cons (c := 'c') (by decide)
  obtain ⟨s', hs'⟩ := exists_originStatement
  have hmm : m = m' := by
    have hle : m <+: m' := prefix_of_not_mem (c_not_mem_margin h.margin) (by rw [hsplit, hs']; rfl)
    have hge : m' <+: m := prefix_of_not_mem (c_not_mem_margin hm') (by rw [← hsplit, hs]; rfl)
    exact hle.eq_of_length_le hge.length_le
  subst hmm
  have hread := List.append_cancel_left hsplit
  have hw := eq_originStatement h.statement h.head?_ne_semicolon hread
  rw [hw] at hread
  exact ⟨rfl, hw, List.append_cancel_left hread⟩

theorem ReadsOrigin.newline_not_mem (h : ReadsOrigin a m w y z b) (hw : '\n' ∉ w) :
    '\n' ∉ (m ++ (w ++ (y ++ z))).dropLast := by
  have hv : '\n' ∉ m ++ (w ++ y) := by simp [hw, newline_not_mem_margin h.margin, newline_not_mem_margin h.gap]
  have hline := newline_not_mem_dropLast hv h.stop
  rwa [List.append_assoc, List.append_assoc] at hline

/-- No line that reads the origin goes on into another one: only its first letter is a `c`. -/
theorem ReadsOrigin.ends_in_front (h : ReadsOrigin a' m' w' y' z' b') (ha : a = [] ∨ a.getLast? = some '\n')
    (hm : ∀ c ∈ m, isMargin c = true) (hsplit : a' ++ (m' ++ (w' ++ (y' ++ (z' ++ b')))) = a ++ (m ++ 'c' :: r))
    (hlt : size a' < size a) : ∃ s, a = a' ++ ((m' ++ (w' ++ (y' ++ z'))) ++ s) ∧ b' = s ++ (m ++ 'c' :: r) := by
  obtain ⟨s, rfl, hrest⟩ := prefix_of_size_le hsplit (Nat.le_of_lt hlt)
  have hs : s.getLast? = some '\n' := by
    have hne : s ≠ [] := by
      rintro rfl
      simp at hlt
    rcases ha with ha | ha
    · exact absurd (List.append_eq_nil_iff.1 ha).2 hne
    · rwa [List.getLast?_append_of_ne_nil _ hne] at ha
  have hline : (m' ++ (w' ++ (y' ++ z'))) ++ b' = s ++ (m ++ 'c' :: r) := by rw [← hrest]; simp
  rcases List.append_eq_append_iff.1 hline with ⟨k, rfl, hb⟩ | ⟨k, hv, hk⟩
  · exact ⟨k, rfl, hb⟩
  · obtain ⟨w₀, hw', hw₀⟩ := h.statement.exists_cons (c := 'c') (by decide)
    have hz : 'c' ∉ z' := h.stop.not_mem_of_avoids (by decide)
    have hback : 'c' ∉ w₀ ++ (y' ++ z') := by simp [hw₀, hz, c_not_mem_margin h.gap]
    have hmargin : ¬ s <+: m' := fun hin =>
      newline_not_mem_margin h.margin (hin.subset (List.mem_of_getLast? hs))
    by_cases hc : 'c' ∈ k
    · -- the newline would be in the margin in front of the only `c`
      exfalso
      rw [hw'] at hv
      rcases List.append_eq_append_iff.1 hv with ⟨k', hs', hk'⟩ | ⟨k', rfl, -⟩
      · cases k' with
        | nil => exact hmargin ⟨[], by simpa using hs'⟩
        | cons d k' =>
          have hk' : w₀ ++ (y' ++ z') = k' ++ k := (List.cons.inj hk').2
          exact hback (by rw [hk']; exact List.mem_append_right _ hc)
      · exact hmargin (List.prefix_append s k')
    · obtain ⟨k', rfl⟩ : k <+: m := prefix_of_not_mem hc hk.symm
      have hb : b' = k' ++ 'c' :: r := by
        rw [List.append_assoc] at hk
        exact (List.append_cancel_left hk).symm
      rcases eq_or_ne k [] with rfl | hne
      · exact ⟨[], by rw [hv]; simp, hb⟩
      · -- the line would end with spaces, and spaces or a letter would follow
        exfalso
        obtain ⟨d, hd⟩ := Option.ne_none_iff_exists'.1 (mt List.getLast?_eq_none_iff.1 hne)
        have hlast : (m' ++ (w' ++ (y' ++ z'))).getLast? = some d := by
          rw [hv, List.getLast?_append, hd, Option.some_or]
        have hdm : isMargin d = true := hm d (List.mem_append_left _ (List.mem_of_getLast? hd))
        rcases lineEnd_spells_iff.1 h.stop with rfl | rfl | ⟨rfl, hnext⟩
        · obtain rfl : '\n' = d := by simpa using hlast
          cases hdm
        · obtain rfl : '\n' = d := by simpa using hlast
          cases hdm
        · rw [hb] at hnext
          cases k' with
          | nil => simp at hnext
          | cons e k' =>
            obtain rfl : e = '\n' := by simpa using hnext
            exact absurd (hm '\n' (by simp)) (by decide)

theorem exists_canonical (ha : a = [] ∨ a.getLast? = some '\n') (hm : ∀ c ∈ m, isMargin c = true)
    (hv : endsLine (v.dropWhile isMargin) = true) :
    ∃ y z b, v = y ++ (z ++ b) ∧ ReadsOrigin a m Canonical.originStatement.toList y z b := by
  obtain ⟨z, b, hzb, -, hz⟩ := exists_lineEnd hv
  refine ⟨v.takeWhile isMargin, z, b, by rw [← hzb, List.takeWhile_append_dropWhile], ha, hm,
    originStatement_spells _ _, fun c hc => List.mem_takeWhile_imp hc, hz _⟩

theorem isCanonical_of_start {o : OriginLine} {u : Text} (hu : u = a ++ (m ++ (Canonical.originStatement.toList ++ v)))
    (hm : ∀ c ∈ m, isMargin c = true) (ho : o ∈ originLines u) (hstart : o.line.start = size a) :
    o.isCanonical u = true ∧ ∃ y z b, v = y ++ (z ++ b) ∧ ReadsOrigin a m Canonical.originStatement.toList y z b ∧
      o.line.stop = size (a ++ (m ++ (Canonical.originStatement.toList ++ (y ++ z)))) := by
  obtain ⟨a', m', w', y, z, b, hu', hreads, hline, hstatement, -⟩ := exists_originLine ho
  rw [hline] at hstart
  obtain ⟨rfl, hrest⟩ := append_inj_of_size (hu'.symm.trans hu) hstart
  obtain ⟨rfl, rfl, rfl⟩ := hreads.eq_canonical hm hrest
  refine ⟨?_, y, z, b, rfl, hreads, by rw [hline]⟩
  have hslice := slice_append (a' ++ m') Canonical.originStatement.toList (y ++ (z ++ b))
  rw [← size_append, List.append_assoc a' m', ← hstatement] at hslice
  rw [OriginLine.isCanonical, hu', ← List.append_assoc a' m', ← List.append_assoc _ Canonical.originStatement.toList,
    List.append_assoc a' m', hslice, beq_self_eq_true]

/-- A line that reads the origin and starts behind the start of a canonical one starts behind its end. -/
theorem ReadsOrigin.size_le {x : Text} (h : ReadsOrigin a m Canonical.originStatement.toList y z b)
    (hsplit : a ++ (m ++ (Canonical.originStatement.toList ++ (y ++ (z ++ b)))) = x ++ (w ++ r))
    (ho : originPattern.Occurs x w r) (hlt : size a < size x) :
    size (a ++ (m ++ (Canonical.originStatement.toList ++ (y ++ z)))) ≤ size x := by
  have hx : x.getLast? = some '\n' := by
    rcases ho.start_of_opensLine rfl with rfl | hx
    · cases hlt
    · exact hx
  exact size_le_of_newline (h.newline_not_mem newline_not_mem_originStatement) (by simpa using hsplit) hx hlt

/-- Behind a canonical line that is the first to read the origin, no other one may. -/
theorem readsOriginOnce_iff {u : Text} (hu : u = a ++ (m ++ (Canonical.originStatement.toList ++ (y ++ (z ++ b)))))
    (h : ReadsOrigin a m Canonical.originStatement.toList y z b)
    (hfront : ∀ x w r, u = x ++ (w ++ r) → originPattern.Occurs x w r → size a ≤ size x) :
    ReadsOriginOnce u ↔ ∀ x w r, b = x ++ (w ++ r) →
      ¬ originPattern.Occurs (a ++ (m ++ (Canonical.originStatement.toList ++ (y ++ (z ++ x))))) w r := by
  have hoccurs : u = a ++ ((m ++ (Canonical.originStatement.toList ++ (y ++ z))) ++ b) := by rw [hu]; simp
  have hle : ∀ o ∈ originLines u, size a ≤ o.line.start := by
    intro o ho
    obtain ⟨a', m', w', y', z', b', hu', hreads, hline, -⟩ := exists_originLine ho
    rw [hline]
    exact hfront a' (m' ++ (w' ++ (y' ++ z'))) b' (by rw [hu']; simp) hreads.occurs
  constructor
  · rintro ⟨o, hlines, -⟩ x w r rfl ho
    have hother : u = (a ++ (m ++ (Canonical.originStatement.toList ++ (y ++ (z ++ x))))) ++ (w ++ r) := by
      rw [hu]; simp
    obtain ⟨o₁, ho₁, hle₁, -⟩ := exists_mem_originLines hoccurs h.occurs
    obtain ⟨o₂, ho₂, -, hlt₂⟩ := exists_mem_originLines hother ho
    obtain rfl : o₁ = o := by simpa [hlines] using ho₁
    obtain rfl : o₂ = o₁ := by simpa [hlines] using ho₂
    obtain ⟨-, y', z', b', hv, hreads, hstop⟩ :=
      isCanonical_of_start hu h.margin ho₁ (Nat.le_antisymm hle₁ (hle o₂ ho₁))
    have hpos := size_pos (solid_originPattern _ _ _ h.occurs)
    have hsize := hreads.size_le (by rw [← hv, ← hu, hother]) ho (by simp only [size_append] at hpos ⊢; omega)
    omega
  · intro hnone
    have hstart : ∀ o ∈ originLines u, o.line.start = size a := by
      intro o ho
      by_contra hne
      obtain ⟨a', m', w', y', z', b', hu', hreads, hline, -⟩ := exists_originLine ho
      have hlt : size a < size a' := by
        have hle := hle o ho
        rw [hline] at hle hne
        exact Nat.lt_of_le_of_ne hle (Ne.symm hne)
      have hsplit : u = a' ++ ((m' ++ (w' ++ (y' ++ z'))) ++ b') := by rw [hu']; simp
      have hsize := h.size_le (hu.symm.trans hsplit) hreads.occurs hlt
      have hbehind : (a ++ (m ++ (Canonical.originStatement.toList ++ (y ++ z)))) ++ b = a' ++ ((m' ++ (w' ++ (y' ++ z'))) ++ b') := by
        rw [← hsplit, hoccurs, List.append_assoc]
      obtain ⟨x, rfl, hb⟩ := prefix_of_size_le hbehind hsize
      exact hnone x _ b' hb (by simpa using hreads.occurs)
    obtain ⟨o, ho, -⟩ := exists_mem_originLines hoccurs h.occurs
    have honly : originLines u = [o] := by
      have hpairwise := pairwise_originLines u
      cases hlines : originLines u with
      | nil => simp [hlines] at ho
      | cons o₁ others =>
        cases others with
        | nil =>
          rw [hlines] at ho
          rw [List.mem_singleton.1 ho]
        | cons o₂ others =>
          exfalso
          rw [hlines] at hpairwise
          have hle := List.rel_of_pairwise_cons hpairwise (List.mem_cons_self)
          have hlt := start_lt_stop_of_originLine (o := o₁) (t := u) (by simp [hlines])
          have h₁ := hstart o₁ (by simp [hlines])
          have h₂ := hstart o₂ (by simp [hlines])
          omega
    exact ⟨o, honly, (isCanonical_of_start hu h.margin ho (hstart o ho)).1⟩

end Once

/-! ### A line put in -/

section Insert

variable {p q m k w r : Text}

theorem lineWise_originPattern : originPattern.LineWise := ⟨rfl, rfl, rfl, by decide⟩

theorem occurs_of_behind (f p : Text)
    (h : originPattern.Occurs (f ++ (Canonical.originStatement.toList ++ k)) w r) : originPattern.Occurs (p ++ k) w r := by
  have hlast : Canonical.originStatement.toList.getLast? = some ';' := by decide
  rcases eq_or_ne k [] with rfl | hne
  · rcases h.start_of_opensLine rfl with hnil | hnewline
    · exact absurd (List.append_eq_nil_iff.1 (List.append_eq_nil_iff.1 hnil).2).1 (by decide)
    · rw [List.append_nil, List.getLast?_append, hlast] at hnewline
      cases hnewline
  · rw [Occurs, ← List.append_assoc, List.getLast?_append_of_ne_nil _ hne] at h
    rwa [Occurs, List.getLast?_append_of_ne_nil _ hne]

theorem le_of_insert (hp : p.getLast? = some '{') (hm : ∀ c ∈ m, isMargin c = true) (ht : originLines (p ++ q) = []) {x : Text}
    (hsplit : (p ++ ['\n']) ++ (m ++ (Canonical.originStatement.toList ++ q)) = x ++ (w ++ r))
    (ho : originPattern.Occurs x w r) : size (p ++ ['\n']) ≤ size x := by
  by_contra hgt
  obtain ⟨p, rfl⟩ := List.getLast?_eq_some_iff.1 hp
  obtain ⟨s₀, hs₀⟩ := exists_originStatement
  obtain ⟨m', w', y', z', rfl, hreads⟩ := exists_readsOrigin ho
  have ha : p ++ ['{'] ++ ['\n'] = [] ∨ (p ++ ['{'] ++ ['\n']).getLast? = some '\n' := .inr (by simp)
  have hline : x ++ (m' ++ (w' ++ (y' ++ (z' ++ r)))) = (p ++ ['{'] ++ ['\n']) ++ (m ++ 'c' :: (s₀ ++ q)) := by
    rw [← List.cons_append, ← hs₀, hsplit]
    simp
  obtain ⟨s, hs, hr⟩ := hreads.ends_in_front ha hm hline (by omega)
  generalize m' ++ (w' ++ (y' ++ z')) = v at hs ho
  have hv : '{' ∉ v := Spells.not_mem_of_avoids ho (by decide)
  have hfront : x ++ v <+: p ++ '{' :: ['\n'] := ⟨s, by rw [List.append_assoc, ← hs]; simp⟩
  rcases prefix_append_cons hv hfront with ⟨s', rfl⟩ | ⟨x', -, hin⟩
  · -- a line in front of the brace was there before
    have hs' : s = s' ++ ['{', '\n'] := by
      have hcancel : (x ++ v) ++ (s' ++ ['{', '\n']) = (x ++ v) ++ s := by
        rw [List.append_assoc x v s, ← hs]
        simp
      exact (List.append_cancel_left hcancel).symm
    have hhead : (s' ++ '{' :: q).head? = r.head? := by
      rw [hr, hs']
      cases s' <;> rfl
    have ho' : originPattern.Occurs x v (s' ++ '{' :: q) := by
      rw [Occurs, hhead]
      exact ho
    obtain ⟨o, hmem, -⟩ := exists_mem_originLines rfl ho'
    rw [show x ++ (v ++ (s' ++ '{' :: q)) = x ++ v ++ s' ++ ['{'] ++ q by simp, ht] at hmem
    cases hmem
  · have hc : 'c' ∈ v := (ho.infix_of_mem_fixedParts (s := "const".toList) (by decide)).subset (by decide)
    exact absurd (hin.subset (List.mem_append_right _ hc)) (by decide)

/-- The new line is recognized exactly if nothing follows it on its line. -/
theorem readsOriginOnce_insert_iff (hp : p.getLast? = some '{') (hm : ∀ c ∈ m, isMargin c = true)
    (ht : originLines (p ++ q) = []) :
    ReadsOriginOnce ((p ++ ['\n']) ++ (m ++ (Canonical.originStatement.toList ++ q))) ↔
      endsLine (q.dropWhile isMargin) = true := by
  have ha : p ++ ['\n'] = [] ∨ (p ++ ['\n']).getLast? = some '\n' := .inr (by simp)
  have habsent : ∀ k w r, q = k ++ (w ++ r) → ¬ originPattern.Occurs (p ++ k) w r := by
    intro k w r hq ho
    obtain ⟨o, hmem, -⟩ := exists_mem_originLines (t := p ++ q) (by rw [hq]; simp) ho
    rw [ht] at hmem
    cases hmem
  constructor
  · rintro ⟨o, hlines, -⟩
    have ho : o ∈ originLines ((p ++ ['\n']) ++ (m ++ (Canonical.originStatement.toList ++ q))) := by
      rw [hlines]
      exact List.mem_singleton_self o
    obtain ⟨a', m', w', y', z', b', hu', hreads, hline, -⟩ := exists_originLine ho
    have hsplit := hu'.trans (show _ = a' ++ ((m' ++ (w' ++ (y' ++ z'))) ++ b') by simp)
    have hle := le_of_insert hp hm ht hsplit hreads.occurs
    rcases Nat.eq_or_lt_of_le hle with heq | hlt
    · obtain ⟨-, y, z, b, rfl, hreads', -⟩ := isCanonical_of_start rfl hm ho (by rw [hline, heq])
      rw [dropWhile_isMargin hreads'.gap (endsLine_of_lineEnd hreads'.stop)]
      exact endsLine_of_lineEnd hreads'.stop
    · -- a line further down was there before
      exfalso
      have hx : a'.getLast? = some '\n' := by
        rcases hreads.start with rfl | hx
        · cases hlt
        · exact hx
      have hnewline : '\n' ∉ (m ++ Canonical.originStatement.toList).dropLast := fun hmem => by
        rcases List.mem_append.1 (List.mem_of_mem_dropLast hmem) with hmem | hmem
        · exact newline_not_mem_margin hm hmem
        · exact newline_not_mem_originStatement hmem
      have hsize := size_le_of_newline hnewline (by rw [List.append_assoc m]; exact hsplit) hx hlt
      obtain ⟨k, rfl, hk⟩ := prefix_of_size_le (b := q) (by rw [← hsplit]; simp) hsize
      refine habsent k _ b' hk (occurs_of_behind (p ++ ['\n'] ++ m) p ?_)
      simpa using hreads.occurs
  · intro hq
    obtain ⟨y, z, b, rfl, hreads⟩ := exists_canonical ha hm hq
    refine (readsOriginOnce_iff rfl hreads fun x w r hu ho => le_of_insert hp hm ht hu ho).2 ?_
    rintro x w r rfl ho
    refine habsent (y ++ (z ++ x)) w r (by simp) (occurs_of_behind (p ++ ['\n'] ++ m) p ?_)
    simpa using ho

end Insert

/-! ### Lines taken out -/

section Collapse

variable {t a m w y z b kept : Text} {first : OriginLine} {others : List OriginLine}

theorem ReadsOrigin.stop_of_wholeLines (h : ReadsOrigin a m w y z b) (hlines : WholeLines a (m ++ (w ++ (y ++ z))) b) :
    b = [] ∨ z = ['\n'] ∨ z = ['\r', '\n'] := by
  rcases lineEnd_spells_iff.1 h.stop with hz | hz | ⟨rfl, -⟩
  · exact .inr (.inl hz)
  · exact .inr (.inr hz)
  · refine .inl (hlines.stop.resolve_right fun hlast => ?_)
    -- neither the spaces nor the statement end with a newline
    have hstatement : originStatementPattern.Solid := solid_of_isSolid rfl
    rw [List.append_nil, List.getLast?_append_of_ne_nil _ (by simp [hstatement _ _ _ h.statement]),
      List.getLast?_append] at hlast
    cases hy : y.getLast? with
    | none =>
      rw [hy, Option.none_or] at hlast
      exact h.statement.getLast?_ne (by decide) hlast
    | some c =>
      obtain rfl : c = '\n' := by simpa [hy] using hlast
      exact newline_not_mem_margin h.gap (List.mem_of_getLast? hy)

theorem le_of_first (hlines : originLines t = first :: others) (h : ReadsOrigin a m w y z b)
    (ht : t = a ++ (m ++ (w ++ (y ++ (z ++ b))))) (hfirst : first.line.start = size a) {x v r s : Text}
    (hsplit : a ++ (m ++ (Canonical.originStatement.toList ++ s)) = x ++ (v ++ r))
    (ho : originPattern.Occurs x v r) : size a ≤ size x := by
  by_contra hgt
  obtain ⟨s₀, hs₀⟩ := exists_originStatement
  obtain ⟨w₀, rfl, -⟩ := h.statement.exists_cons (c := 'c') (by decide)
  obtain ⟨m', w', y', z', rfl, hreads⟩ := exists_readsOrigin ho
  have hline : x ++ (m' ++ (w' ++ (y' ++ (z' ++ r)))) = a ++ (m ++ 'c' :: (s₀ ++ s)) := by
    rw [← List.cons_append, ← hs₀, hsplit]
    simp
  obtain ⟨k, ha, hr⟩ := hreads.ends_in_front h.start h.margin hline (by omega)
  generalize m' ++ (w' ++ (y' ++ z')) = v at ha ho
  -- so the line was in front of the first one before
  have ho' : originPattern.Occurs x v (k ++ (m ++ 'c' :: (w₀ ++ (y ++ (z ++ b))))) := by
    have hhead : (k ++ (m ++ 'c' :: (w₀ ++ (y ++ (z ++ b))))).head? = r.head? := by
      rw [hr]
      cases k with
      | cons c k => rfl
      | nil => cases m <;> rfl
    rw [Occurs, hhead]
    exact ho
  obtain ⟨o, hmem, hle, -⟩ := exists_mem_originLines (t := t) (by rw [ht, ha]; simp) ho'
  have hpairwise := pairwise_originLines t
  have hlt := start_lt_stop_of_originLine (o := first) (t := t) (by simp [hlines])
  rw [hlines] at hpairwise hmem
  rcases List.mem_cons.1 hmem with rfl | hmem
  · omega
  · have hle' := List.rel_of_pairwise_cons hpairwise hmem
    omega

/-- Behind the first line nothing is left exactly if the others interrupted nothing. -/
theorem readsOriginOnce_collapse_iff (hlines : originLines t = first :: others)
    (h : ReadsOrigin a m w y z b) (ht : t = a ++ (m ++ (w ++ (y ++ (z ++ b)))))
    (hfirst : first.line = ⟨size a, size (a ++ (m ++ (w ++ (y ++ z))))⟩) (hwhole : WholeLines a (m ++ (w ++ (y ++ z))) b)
    (hkept : Edit.Spliced first.line.stop b (others.map fun o => .delete o.line.start o.line.stop) kept) :
    ReadsOriginOnce (a ++ (m ++ (Canonical.originStatement.toList ++ (y ++ (z ++ kept))))) ↔
      ¬ originPattern.Interrupted t first.line.stop (others.map fun o => .delete o.line.start o.line.stop) := by
  have hmem : ∀ o ∈ others, o ∈ originLines t := fun o ho => by rw [hlines]; exact List.mem_cons_of_mem _ ho
  have hbehind : ∀ o ∈ others, first.line.stop ≤ o.line.start := by
    have hpairwise := pairwise_originLines t
    rw [hlines] at hpairwise
    exact fun o ho => List.rel_of_pairwise_cons hpairwise ho
  have hz : kept = [] ∨ z = ['\n'] ∨ z = ['\r', '\n'] := by
    refine (h.stop_of_wholeLines hwhole).imp_left ?_
    rintro rfl
    -- behind the end of the text there are no other lines
    cases others with
    | nil => exact hkept.eq_of_nil
    | cons o others =>
      exfalso
      obtain ⟨a', m', w', y', z', b', ht', -, hline, -⟩ := exists_originLine (hmem o List.mem_cons_self)
      have hle := hbehind o List.mem_cons_self
      have hlt := start_lt_stop_of_originLine (hmem o List.mem_cons_self)
      have hsize := congrArg size (ht.symm.trans ht')
      rw [hfirst] at hle
      rw [hline] at hle hlt
      simp only [size_append, size_nil] at hle hlt hsize
      omega
  have hreads : ReadsOrigin a m Canonical.originStatement.toList y z kept := by
    refine ⟨h.start, h.margin, originStatement_spells _ _, h.gap, lineEnd_spells_iff.2 ?_⟩
    rcases lineEnd_spells_iff.1 h.stop with hz' | hz' | ⟨rfl, -⟩
    · exact .inl hz'
    · exact .inr (.inl hz')
    · rcases hz with rfl | hz | hz
      · exact .inr (.inr ⟨rfl, .inl rfl⟩)
      · cases hz
      · cases hz
  have hlast : ∀ x v r, kept = x ++ (v ++ r) →
      (originPattern.Occurs (a ++ (m ++ (Canonical.originStatement.toList ++ (y ++ (z ++ x))))) v r ↔
        originPattern.Spells (x.getLast?.or (some '\n')) v r.head?) := by
    intro x v r hk
    rcases hz with rfl | hz
    · obtain rfl : v = [] := (List.append_eq_nil_iff.1 (List.append_eq_nil_iff.1 hk.symm).2).1
      exact iff_of_false (fun ho => solid_originPattern _ _ _ ho rfl) fun ho => solid_originPattern _ _ _ ho rfl
    · have hz : z.getLast? = some '\n' := by rcases hz with rfl | rfl <;> rfl
      simp only [Occurs, List.getLast?_append, hz, Option.or_assoc, Option.some_or]
  have ht' : t = (a ++ (m ++ (w ++ (y ++ z)))) ++ b := by rw [ht]; simp
  have hseams := hkept.occurs_iff_interrupted lineWise_originPattern (a ++ (m ++ (w ++ (y ++ z)))) (some '\n')
    (by rw [hfirst]) (hwhole.stop.imp_right fun hnewline => .inr ?_) (.inr rfl) ?_ ?_
  · rw [readsOriginOnce_iff rfl hreads fun x v r hu ho => le_of_first hlines h ht (by rw [hfirst]) hu ho, ht', ← hseams]
    constructor
    · rintro hnone ⟨x, v, r, hk, hv⟩
      exact hnone x v r hk ((hlast x v r hk).2 hv)
    · intro hnone x v r hk ho
      exact hnone ⟨x, v, r, hk, (hlast x v r hk).1 ho⟩
  · rw [List.getLast?_append, hnewline, Option.some_or]
  · refine List.forall_mem_map.2 fun o ho => ?_
    obtain ⟨a', m', w', y', z', b', hparts, -, hline, -, hwhole'⟩ := exists_originLine (hmem o ho)
    exact ⟨a', m' ++ (w' ++ (y' ++ z')), b', by rw [← ht', hparts]; simp, by rw [hline], hwhole'⟩
  · intro x v r hb ho
    obtain ⟨o, hin, hle, hlt⟩ := exists_mem_originLines (t := t) (by rw [ht', hb]; simp) ho
    rw [hlines] at hin
    rcases List.mem_cons.1 hin with rfl | hin
    · rw [hfirst, size_append _ x] at hlt
      simp only at hlt
      omega
    · exact ⟨_, List.mem_map_of_mem hin, hle, hlt⟩

end Collapse

end Shape

namespace Migration

open Shape

section Step

variable {ctx : Context} {t u : Text} {notes : List (Outcome × String)} {first : OriginLine} {others : List OriginLine}

theorem deletions_strict (hlines : originLines t = first :: others) :
    (others.map fun o => Edit.delete o.line.start o.line.stop).Pairwise fun e e' => e.start < e'.start := by
  have hpairwise := pairwise_originLines t
  rw [hlines] at hpairwise
  refine List.pairwise_map.2 ((List.pairwise_cons.1 hpairwise).2.imp_of_mem fun {o o'} ho _ hle => ?_)
  have hlt := start_lt_stop_of_originLine (o := o) (t := t) (by rw [hlines]; exact List.mem_cons_of_mem _ ho)
  exact Nat.lt_of_lt_of_le hlt hle

theorem exists_collapse (hlines : originLines t = first :: others) (h : normalizeOrigin ctx t = .ok ⟨some u, notes⟩) :
    ∃ a m w y z b kept, t = a ++ (m ++ (w ++ (y ++ (z ++ b)))) ∧ ReadsOrigin a m w y z b ∧
      first.line = ⟨size a, size (a ++ (m ++ (w ++ (y ++ z))))⟩ ∧ WholeLines a (m ++ (w ++ (y ++ z))) b ∧
      u = a ++ (m ++ (Canonical.originStatement.toList ++ (y ++ (z ++ kept)))) ∧
      Edit.Spliced first.line.stop b (others.map fun o => .delete o.line.start o.line.stop) kept := by
  have hpairwise := pairwise_originLines t
  rw [hlines] at hpairwise
  have hbehind : ∀ e ∈ others.map fun o => Edit.delete o.line.start o.line.stop, first.line.stop ≤ e.start :=
    List.forall_mem_map.2 fun o ho => List.rel_of_pairwise_cons hpairwise ho
  obtain ⟨a, m, w, y, z, b, ht, hreads, hline, hstatement, hwhole⟩ :=
    exists_originLine (o := first) (t := t) (by simp [hlines])
  have hslice : t.slice first.statement = w := by
    have hslice := slice_append (a ++ m) w (y ++ (z ++ b))
    rwa [← size_append, List.append_assoc a m w, ← hstatement, List.append_assoc, List.append_assoc, ← ht] at hslice
  refine ⟨a, m, w, y, z, b, ?_⟩
  unfold normalizeOrigin at h
  rw [hlines] at h
  by_cases hcanonical : first.isCanonical t = true
  · obtain rfl : w = Canonical.originStatement.toList := by rw [← hslice]; exact beq_iff_eq.1 hcanonical
    simp only [hcanonical, ↓reduceIte, List.append_nil] at h
    by_cases hnone : (others.map fun o => Edit.delete o.line.start o.line.stop).isEmpty = true
    · rw [if_pos hnone] at h
      cases h
    · rw [if_neg hnone] at h
      obtain ⟨u', happly, h⟩ := bind_eq_ok h
      cases h
      have hsplice := Edit.applyAll_eq_ok_iff.1 happly
      have ht' : t = (a ++ (m ++ (Canonical.originStatement.toList ++ (y ++ z)))) ++ b := by rw [ht]; simp
      rw [Edit.sort_eq (List.Perm.refl _) (deletions_strict hlines), ht'] at hsplice
      rw [hline] at hbehind ⊢
      obtain ⟨kept, rfl, hkept⟩ := hsplice.skip (by rwa [Nat.zero_add])
      rw [Nat.zero_add] at hkept
      exact ⟨kept, ht, hreads, rfl, hwhole, by simp, hkept⟩
  · simp only [hcanonical, Bool.false_eq_true, ↓reduceIte] at h
    rw [if_neg (by simp)] at h
    obtain ⟨u', happly, h⟩ := bind_eq_ok h
    cases h
    have hsplice := Edit.applyAll_eq_ok_iff.1 happly
    have hstrict : (⟨first.statement.start, first.statement.stop, Canonical.originStatement.toList⟩ ::
        others.map fun o => Edit.delete o.line.start o.line.stop).Pairwise fun e e' => e.start < e'.start := by
      refine List.pairwise_cons.2 ⟨fun e he => ?_, deletions_strict hlines⟩
      have hle := hbehind e he
      have hstatementPattern : originStatementPattern.Solid := Pattern.solid_of_isSolid rfl
      have hpos := size_pos (hstatementPattern _ _ _ hreads.statement)
      rw [hline] at hle
      rw [hstatement]
      simp only [size_append] at hle hpos ⊢
      omega
    rw [Edit.sort_eq (List.perm_append_singleton _ _).symm hstrict, ht] at hsplice
    obtain ⟨gap, old, rest, out, hsplit, hstart, hstop, rfl, htail⟩ := hsplice.of_cons
    rw [hstatement] at hstart hstop htail
    rw [Nat.zero_add] at hstart hstop
    have hfront : (a ++ m) ++ (w ++ (y ++ (z ++ b))) = gap ++ (old ++ rest) := by rw [← hsplit]; simp
    obtain ⟨rfl, hrest⟩ := append_inj_of_size hfront hstart
    obtain ⟨rfl, rfl⟩ := append_inj_of_size hrest (by simp only [size_append] at hstop; omega)
    rw [hline] at hbehind ⊢
    rw [← List.append_assoc y] at htail
    obtain ⟨kept, rfl, hkept⟩ := htail.skip (by
      intro e he
      have hle := hbehind e he
      simp only [size_append] at hle ⊢
      omega)
    refine ⟨kept, ht, hreads, rfl, hwhole, by simp, ?_⟩
    simpa only [← size_append, List.append_assoc] using hkept

theorem exists_insert (hlines : originLines t = []) (h : normalizeOrigin ctx t = .ok ⟨some u, notes⟩) :
    ∃ entry m p q, ctx.anchors.entryPoint.find? t = some entry ∧ (∀ c ∈ m, isMargin c = true) ∧ t = p ++ q ∧
      size p = entry.span.stop ∧ u = (p ++ ['\n']) ++ (m ++ (Canonical.originStatement.toList ++ q)) := by
  have hinsert : insertOrigin ctx t = .ok ⟨some u, notes⟩ := by
    unfold normalizeOrigin at h
    rw [hlines] at h
    exact h
  unfold insertOrigin at hinsert
  split at hinsert
  · cases hinsert
  · next entry hentry =>
    obtain ⟨margin, hmargin, hinsert⟩ := bind_eq_ok hinsert
    obtain ⟨u', happly, hinsert⟩ := bind_eq_ok hinsert
    cases hinsert
    obtain ⟨p, q, rfl, hp, rfl⟩ := Edit.exists_of_applyAll_insert happly
    refine ⟨entry, margin ++ [' ', ' '], p, q, hentry, ?_, rfl, hp, by simp⟩
    intro c hc
    rcases List.mem_append.1 hc with hc | hc
    · exact isMargin_of_marginAt hmargin c hc
    · obtain rfl : c = ' ' := by simpa using hc
      rfl

set_option maxRecDepth 20000 in
theorem trailing_entryPoint {anchors : Anchors} (h : Settings.standard.anchors = .ok anchors) :
    anchors.entryPoint.trailing = some '{' := by
  have hstandard : Settings.standard.anchors.toOption.map (·.entryPoint.trailing) = some (some '{') := by decide +kernel
  rw [h] at hstandard
  exact Option.some.inj hstandard

/-- What the step leaves reads the origin once, by the canonical statement, exactly if nothing follows a new line
on its line and the lines taken out interrupted no other one. If it does, the step has nothing more to do. -/
theorem normalizeOrigin_once_iff (hanchors : Settings.standard.anchors = .ok ctx.anchors)
    (h : normalizeOrigin ctx t = .ok ⟨some u, notes⟩) :
    (originLines t = [] → ∃ entry p q, ctx.anchors.entryPoint.find? t = some entry ∧ t = p ++ q ∧
      size p = entry.span.stop ∧ (ReadsOriginOnce u ↔ endsLine (q.dropWhile isMargin) = true)) ∧
    (∀ first others, originLines t = first :: others →
      (ReadsOriginOnce u ↔ ¬ originPattern.Interrupted t first.line.stop
        (others.map fun o => .delete o.line.start o.line.stop))) ∧
    (ReadsOriginOnce u → ∃ o, normalizeOrigin ctx u = .ok o ∧ o.text? = none) := by
  refine ⟨fun hlines => ?_, fun first others hlines => ?_, ?_⟩
  · obtain ⟨entry, m, p, q, hentry, hm, rfl, hp, rfl⟩ := exists_insert hlines h
    refine ⟨entry, p, q, hentry, rfl, hp, readsOriginOnce_insert_iff ?_ hm hlines⟩
    obtain ⟨a, w, b, stop, hfirst, hspan, -⟩ := Pattern.find?_eq_some hentry
    have hw : w.getLast? = some '{' := Pattern.Spells.getLast?_eq hfirst.occurs (trailing_entryPoint hanchors)
    have hsplit : p ++ q = (a ++ w) ++ b := by rw [List.append_assoc]; exact hfirst.rest_eq
    obtain ⟨rfl, -⟩ := append_inj_of_size hsplit (by rw [hp, hspan])
    rw [List.getLast?_append, hw, Option.some_or]
  · obtain ⟨a, m, w, y, z, b, kept, ht, hreads, hline, hwhole, rfl, hkept⟩ := exists_collapse hlines h
    exact readsOriginOnce_collapse_iff hlines hreads ht hline hwhole hkept
  · rintro ⟨line, hlines, hcanonical⟩
    refine ⟨.skip "origin extraction already canonical", ?_, rfl⟩
    unfold normalizeOrigin
    rw [hlines]
    simp [hcanonical, pure, Except.pure]

end Step

/-- The new text of the step with the built-in anchors. -/
def originStep (t : Text) : Option Text :=
  Settings.standard.anchors.toOption.bind fun anchors =>
    (normalizeOrigin ⟨"f", .corsOnly, anchors⟩ t).toOption.bind (·.text?)

theorem originStep_eq_some {t u : Text} (h : originStep t = some u) :
    ∃ anchors notes, Settings.standard.anchors = .ok anchors ∧
      normalizeOrigin ⟨"f", .corsOnly, anchors⟩ t = .ok ⟨some u, notes⟩ := by
  obtain ⟨anchors, hanchors, h⟩ := Option.bind_eq_some_iff.1 h
  obtain ⟨⟨text?, notes⟩, hrun, h⟩ := Option.bind_eq_some_iff.1 h
  obtain rfl : text? = some u := h
  exact ⟨anchors, notes, toOption_eq_some hanchors, toOption_eq_some hrun⟩

/-- Two lines that read the origin, and code behind them. -/
def twoLines : Text :=
  "const origin = req.headers.get('Origin');\n\tconst origin=req.headers.get(\"origin\")\r\ngo()".toList

set_option maxRecDepth 20000 in
theorem normalizeOrigin_once_iff_twoLines :
    ∃ anchors u notes, Settings.standard.anchors = .ok anchors ∧
      normalizeOrigin ⟨"f", .corsOnly, anchors⟩ twoLines = .ok ⟨some u, notes⟩ ∧ ReadsOriginOnce u ∧
      ¬ originPattern.Interrupted twoLines 42 [.delete 42 83] ∧
      ∃ o, normalizeOrigin ⟨"f", .corsOnly, anchors⟩ u = .ok o ∧ o.text? = none := by
  obtain ⟨hstep, hlines, hlines', hcanonical⟩ :
      originStep twoLines = some "const origin = req.headers.get('Origin');\ngo()".toList ∧
      originLines twoLines = [⟨⟨0, 42⟩, ⟨0, 41⟩⟩, ⟨⟨42, 83⟩, ⟨43, 81⟩⟩] ∧
      originLines "const origin = req.headers.get('Origin');\ngo()".toList = [⟨⟨0, 42⟩, ⟨0, 41⟩⟩] ∧
      (OriginLine.mk ⟨0, 42⟩ ⟨0, 41⟩).isCanonical "const origin = req.headers.get('Origin');\ngo()".toList = true := by
    decide +kernel
  obtain ⟨anchors, notes, hanchors, hrun⟩ := originStep_eq_some hstep
  have honce : ReadsOriginOnce "const origin = req.headers.get('Origin');\ngo()".toList := ⟨_, hlines', hcanonical⟩
  obtain ⟨-, hcollapse, hsettled⟩ := normalizeOrigin_once_iff hanchors hrun
  exact ⟨anchors, _, notes, hanchors, hrun, honce, (hcollapse _ _ hlines).1 honce, hsettled honce⟩

/-- A statement that a line interrupts, behind one that is canonical. -/
def cutStatement : Text :=
  "const origin = req.headers.get('Origin');\nconst\nconst origin=req.headers.get('origin')\norigin=req.headers.get('origin')".toList

set_option maxRecDepth 20000 in
theorem normalizeOrigin_leaves_two :
    (∃ anchors u v notes notes', Settings.standard.anchors = .ok anchors ∧
      normalizeOrigin ⟨"f", .corsOnly, anchors⟩ "serve(async(req)=>\x7b\x7d".toList = .ok ⟨some u, notes⟩ ∧
      originLines u = [] ∧ normalizeOrigin ⟨"f", .corsOnly, anchors⟩ u = .ok ⟨some v, notes'⟩) ∧
    ∃ anchors u notes, Settings.standard.anchors = .ok anchors ∧
      normalizeOrigin ⟨"f", .corsOnly, anchors⟩ cutStatement = .ok ⟨some u, notes⟩ ∧ (originLines u).length = 2 := by
  obtain ⟨hinsert, hnone, hagain, hcollapse, htwo⟩ :
      originStep "serve(async(req)=>\x7b\x7d".toList =
        some "serve(async(req)=>\x7b\n  const origin = req.headers.get('Origin');\x7d".toList ∧
      originLines "serve(async(req)=>\x7b\n  const origin = req.headers.get('Origin');\x7d".toList = [] ∧
      (originStep "serve(async(req)=>\x7b\n  const origin = req.headers.get('Origin');\x7d".toList).isSome = true ∧
      originStep cutStatement =
        some "const origin = req.headers.get('Origin');\nconst\norigin=req.headers.get('origin')".toList ∧
      (originLines "const origin = req.headers.get('Origin');\nconst\norigin=req.headers.get('origin')".toList).length = 2 := by
    decide +kernel
  obtain ⟨anchors, notes, hanchors, hrun⟩ := originStep_eq_some hinsert
  obtain ⟨v, hv⟩ := Option.isSome_iff_exists.1 hagain
  obtain ⟨anchors', notes', hanchors', hrun'⟩ := originStep_eq_some hv
  obtain ⟨anchors'', notes'', hanchors'', hrun''⟩ := originStep_eq_some hcollapse
  obtain rfl : anchors' = anchors := Except.ok.inj (hanchors'.symm.trans hanchors)
  exact ⟨⟨anchors', _, v, notes, notes', hanchors, hrun, hnone, hrun'⟩, anchors'', _, notes'', hanchors'', hrun'', htwo⟩

end Migration

end HandlerMigration
