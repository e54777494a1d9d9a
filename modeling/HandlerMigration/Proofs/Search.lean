import HandlerMigration.Proofs.Spelling

/-!
# Occurrences of a pattern, and the search for them

A pattern occurs in the text `a ++ w ++ b` as `w` if it spells `w` there. Main statements: a search
fails exactly if the pattern occurs nowhere (`find?_eq_none_iff`, `findAll_eq_nil_iff`), and the matches
of a pattern that spells no empty piece are occurrences one behind the other, each the first behind the
last one (`Solid.lists_findAll`). So every occurrence starts inside a match (`Lists.exists_mem`).
-/

namespace HandlerMigration

open Text

/-- The position behind `done`, where `rest` follows. -/
def Cursor.behind (done rest : Text) : Cursor := ⟨size done, done.getLast?, rest, []⟩

namespace Pattern

variable {p : Pattern} {bound : Nat} {done rest t a w b : Text} {stop : Cursor} {ms : List Match}

/-- The pattern occurs in the text `a ++ w ++ b` as `w`. -/
def Occurs (p : Pattern) (a w b : Text) : Prop := p.Spells a.getLast? w b.head?

/-- The pattern does not occur in `done ++ rest` from behind `done` on. -/
def Absent (p : Pattern) (done rest : Text) : Prop := ∀ a w b, rest = a ++ (w ++ b) → ¬ p.Occurs (done ++ a) w b

theorem ends_eq_nil_iff (hlen : rest.length ≤ bound) :
    p.ends bound (.behind done rest) = [] ↔ ∀ w b, rest = w ++ b → ¬ p.Occurs done w b := by
  constructor
  · intro h w b hr hw
    have hspells : p.Spells (Cursor.behind done rest).last w b.head? := hw
    obtain ⟨next, hnext, -⟩ := hspells.exists_mem_ends hr hlen
    rw [h] at hnext
    cases hnext
  · intro h
    refine List.eq_nil_iff_forall_not_mem.2 fun next hnext => ?_
    obtain ⟨w, hreach, hw⟩ := mem_ends hnext
    exact h w next.rest hreach.rest hw

/-! ### The first occurrence -/

/-- `w` is the first occurrence behind `done`, and the piece that the pattern prefers there. -/
structure First (p : Pattern) (bound : Nat) (done rest a w b : Text) (stop : Cursor) : Prop where
  rest_eq : rest = a ++ (w ++ b)
  reaches : (Cursor.behind (done ++ a) (w ++ b)).Reaches w stop
  preferred : (p.ends bound (.behind (done ++ a) (w ++ b))).head? = some stop
  first : ∀ a' w' b', rest = a' ++ (w' ++ b') → p.Occurs (done ++ a') w' b' → a.length ≤ a'.length

namespace First

theorem mem_ends (h : First p bound done rest a w b stop) :
    stop ∈ p.ends bound (.behind (done ++ a) (w ++ b)) := List.mem_of_head? h.preferred

theorem stop_rest (h : First p bound done rest a w b stop) : stop.rest = b := h.reaches.rest_eq rfl

theorem occurs (h : First p bound done rest a w b stop) : p.Occurs (done ++ a) w b := by
  obtain ⟨w', hreach, hw⟩ := Pattern.mem_ends h.mem_ends
  have hw' : w' ++ stop.rest = w ++ stop.rest := hreach.rest.symm.trans h.reaches.rest
  rw [List.append_cancel_right hw', h.stop_rest] at hw
  exact hw

theorem stop_offset (h : First p bound done rest a w b stop) : stop.offset = size (done ++ a ++ w) := by
  rw [h.reaches.offset, size_append (_ ++ _)]; rfl

theorem stop_last (h : First p bound done rest a w b stop) : stop.last = (done ++ a ++ w).getLast? := by
  rw [h.reaches.last, List.getLast?_append (l := _ ++ _)]; rfl

end First

theorem First.of_head? (h : (p.ends bound (.behind done rest)).head? = some stop) :
    ∃ w b, First p bound done rest [] w b stop := by
  obtain ⟨w, hreach, -⟩ := Pattern.mem_ends (List.mem_of_head? h)
  have hr : rest = w ++ stop.rest := hreach.rest
  refine ⟨w, stop.rest, hr, ?_, ?_, fun _ _ _ _ _ => by simp⟩
  · rwa [List.append_nil, ← hr]
  · rwa [List.append_nil, ← hr]

theorem search_cons {c : Char} : p.search bound (size done) done.getLast? (c :: rest) =
    match p.endAt bound (.behind done (c :: rest)) with
    | some stop => some (size done, stop)
    | none => p.search bound (size (done ++ [c])) (done ++ [c]).getLast? rest := by
  rw [search, List.getLast?_append, size_append]; rfl

theorem search_eq_none_iff (hlen : rest.length ≤ bound) :
    p.search bound (size done) done.getLast? rest = none ↔ p.Absent done rest := by
  induction rest generalizing done with
  | nil =>
    rw [search, Option.map_eq_none_iff, endAt_eq_head?, List.head?_eq_none_iff]
    refine (ends_eq_nil_iff hlen).trans ⟨fun h a w b hr => ?_, fun h w b hr => ?_⟩
    · obtain ⟨rfl, -⟩ := List.append_eq_nil_iff.1 hr.symm
      rw [List.append_nil]
      exact h w b hr
    · simpa using h [] w b hr
  | cons c rest ih =>
    have hlen' : rest.length ≤ bound := by rw [List.length_cons] at hlen; omega
    rw [search_cons, endAt_eq_head?]
    split
    · next stop hstop =>
      obtain ⟨w, b, hfirst⟩ := First.of_head? hstop
      exact iff_of_false (by simp) fun h => h [] w b hfirst.rest_eq hfirst.occurs
    · next hnone =>
      rw [ih hlen']
      constructor
      · intro h a w b hr
        cases a with
        | nil =>
          rw [List.append_nil]
          exact (ends_eq_nil_iff hlen).1 (List.head?_eq_none_iff.1 hnone) w b hr
        | cons d a =>
          obtain ⟨rfl, hr'⟩ := List.cons.inj hr
          simpa using h a w b hr'
      · intro h a w b hr
        simpa using h (c :: a) w b (by rw [hr]; rfl)

theorem search_eq_some {start : Nat} (hlen : rest.length ≤ bound)
    (h : p.search bound (size done) done.getLast? rest = some (start, stop)) :
    ∃ a w b, start = size (done ++ a) ∧ First p bound done rest a w b stop := by
  induction rest generalizing done with
  | nil =>
    rw [search, Option.map_eq_some_iff] at h
    obtain ⟨_, hstop, h⟩ := h
    cases h
    rw [endAt_eq_head?] at hstop
    obtain ⟨w, b, hfirst⟩ := First.of_head? hstop
    exact ⟨[], w, b, by simp, hfirst⟩
  | cons c rest ih =>
    have hlen' : rest.length ≤ bound := by rw [List.length_cons] at hlen; omega
    rw [search_cons, endAt_eq_head?] at h
    split at h
    · next hstop =>
      cases h
      obtain ⟨w, b, hfirst⟩ := First.of_head? hstop
      exact ⟨[], w, b, by simp, hfirst⟩
    · next hnone =>
      obtain ⟨a, w, b, hstart, hfirst⟩ := ih hlen' h
      have hd : done ++ [c] ++ a = done ++ (c :: a) := by simp
      refine ⟨c :: a, w, b, by rw [hstart, hd], by rw [hfirst.rest_eq]; rfl, ?_, ?_, ?_⟩
      · exact hd ▸ hfirst.reaches
      · exact hd ▸ hfirst.preferred
      intro a' w' b' hr hoccurs
      cases a' with
      | nil =>
        rw [List.append_nil] at hoccurs
        exact absurd hoccurs ((ends_eq_nil_iff hlen).1 (List.head?_eq_none_iff.1 hnone) w' b' hr)
      | cons d a' =>
        obtain ⟨rfl, hr'⟩ := List.cons.inj hr
        have := hfirst.first a' w' b' hr' (by simpa using hoccurs)
        simpa using this

theorem find?_eq_none_iff : p.find? t = none ↔ p.Absent [] t := by
  rw [find?, Option.map_eq_none_iff]
  exact @search_eq_none_iff _ _ [] _ (Nat.le_refl _)

/-- A match is the first occurrence, and its groups are those of the preferred piece. -/
theorem find?_eq_some {m : Match} (h : p.find? t = some m) :
    ∃ a w b stop, First p t.length [] t a w b stop ∧ m.span = ⟨size a, size (a ++ w)⟩ ∧ m.groups = stop.groups := by
  obtain ⟨⟨start, stop⟩, hsearch, rfl⟩ := Option.map_eq_some_iff.1 h
  obtain ⟨a, w, b, hstart, hfirst⟩ := @search_eq_some _ _ [] _ _ _ (Nat.le_refl _) hsearch
  refine ⟨a, w, b, stop, hfirst, ?_, rfl⟩
  rw [Match.ofEnds, hfirst.stop_offset, hstart]
  rfl

theorem searchNext_none (cur : Cursor) :
    p.searchNext bound none cur = p.search bound cur.offset cur.last cur.rest := by
  unfold searchNext
  split
  · next h => exact h.symm
  · next h => simp [h]

theorem findAll_eq_nil_iff : p.findAll t = [] ↔ p.Absent [] t := by
  rw [← search_eq_none_iff (Nat.le_refl t.length), findAll, searchAll, searchNext_none]
  show _ ↔ p.search t.length 0 none t = none
  rw [show (Cursor.start t).offset = 0 from rfl, show (Cursor.start t).last = none from rfl,
    show (Cursor.start t).rest = t from rfl]
  cases p.search t.length 0 none t <;> simp

theorem find?_eq_head? (p : Pattern) (t : Text) : p.find? t = (p.findAll t).head? := by
  have hstart : p.searchNext t.length none (.start t) = p.search t.length 0 none t := searchNext_none _
  rw [find?, findAll, searchAll, hstart]
  cases p.search t.length 0 none t <;> rfl

/-! ### All matches -/

/-- The pattern spells no empty piece. -/
def Solid (p : Pattern) : Prop := ∀ last w next, p.Spells last w next → w ≠ []

/-- The matches from behind `done` on: each is the first occurrence behind the one before it. -/
inductive Lists (p : Pattern) (bound : Nat) : (done rest : Text) → List Match → Prop where
  | nil {done rest : Text} (h : p.Absent done rest) : Lists p bound done rest []
  | cons {done rest a w b : Text} {stop : Cursor} {ms : List Match} (h : First p bound done rest a w b stop)
      (htail : Lists p bound (done ++ a ++ w) b ms) :
      Lists p bound done rest (Match.ofEnds (size (done ++ a), stop) :: ms)

namespace Lists

theorem occurs (h : Lists p bound done rest ms) {m : Match} (hm : m ∈ ms) :
    ∃ a w b stop, done ++ rest = a ++ (w ++ b) ∧ m.span = ⟨size a, size (a ++ w)⟩ ∧ p.Occurs a w b ∧
      (p.ends bound (.behind a (w ++ b))).head? = some stop ∧ stop.rest = b ∧ m.groups = stop.groups := by
  induction h with
  | nil => cases hm
  | @cons done rest a w b stop ms h _ ih =>
    have hrest : done ++ rest = done ++ a ++ (w ++ b) := by rw [h.rest_eq, List.append_assoc]
    rcases List.mem_cons.1 hm with rfl | hm
    · refine ⟨done ++ a, w, b, stop, hrest, ?_, h.occurs, h.preferred, h.stop_rest, rfl⟩
      rw [Match.ofEnds, h.stop_offset]
    · rw [hrest, ← List.append_assoc]
      exact ih hm

theorem le_start (hp : p.Solid) (h : Lists p bound done rest ms) {m : Match} (hm : m ∈ ms) :
    size done ≤ m.span.start ∧ m.span.start < m.span.stop := by
  induction h with
  | nil => cases hm
  | @cons done rest a w b stop ms h _ ih =>
    have hpos := size_pos (hp _ _ _ h.occurs)
    rcases List.mem_cons.1 hm with rfl | hm
    · show size done ≤ size (done ++ a) ∧ size (done ++ a) < stop.offset
      rw [h.stop_offset, size_append _ w, size_append]
      omega
    · have := ih hm
      rw [size_append, size_append] at this
      omega

theorem pairwise (hp : p.Solid) (h : Lists p bound done rest ms) :
    ms.Pairwise fun m m' => m.span.stop ≤ m'.span.start := by
  induction h with
  | nil => exact .nil
  | cons h htail ih =>
    refine List.pairwise_cons.2 ⟨fun m hm => ?_, ih⟩
    show Cursor.offset _ ≤ _
    rw [h.stop_offset]
    exact (htail.le_start hp hm).1

/-- Every occurrence starts inside a match. -/
theorem exists_mem (h : Lists p bound done rest ms) (ht : done ++ rest = a ++ (w ++ b))
    (hle : size done ≤ size a) (ho : p.Occurs a w b) :
    ∃ m ∈ ms, m.span.start ≤ size a ∧ size a < m.span.stop := by
  induction h with
  | @nil done rest h =>
    obtain ⟨a', rfl, ha'⟩ := prefix_of_size_le ht hle
    exact absurd ho (h a' w b ha')
  | @cons done rest a₁ w₁ b₁ stop ms h _ ih =>
    obtain ⟨a', rfl, ha'⟩ := prefix_of_size_le ht hle
    have hfirst := h.first a' w b ha' ho
    obtain ⟨a'', rfl⟩ : a₁ <+: a' := by
      have := h.rest_eq
      exact List.prefix_of_prefix_length_le ⟨_, this.symm⟩ ⟨_, ha'.symm⟩ hfirst
    by_cases hin : size (done ++ (a₁ ++ a'')) < size (done ++ a₁ ++ w₁)
    · refine ⟨_, List.mem_cons_self, ?_, ?_⟩
      · show size (done ++ a₁) ≤ _
        simp only [size_append]; omega
      · show _ < stop.offset
        rwa [h.stop_offset]
    · obtain ⟨m, hm, hstart⟩ := ih (by rw [← ht, h.rest_eq]; simp) (by omega)
      exact ⟨m, List.mem_cons_of_mem _ hm, hstart⟩

end Lists

/-- A match that is not empty is never passed over. -/
theorem Solid.searchNext (hp : p.Solid) (lastEnd : Option Nat) (hlen : rest.length ≤ bound)
    {cur : Cursor} (hoff : cur.offset = size done) (hlast : cur.last = done.getLast?) (hrest : cur.rest = rest) :
    p.searchNext bound lastEnd cur = p.search bound (size done) done.getLast? rest := by
  unfold Pattern.searchNext
  rw [hoff, hlast, hrest]
  split
  · next h => exact h.symm
  · next start stop h =>
    obtain ⟨a, w, b, rfl, hfirst⟩ := search_eq_some hlen h
    have hpos := size_pos (hp _ _ _ hfirst.occurs)
    have hne : size (done ++ a) ≠ stop.offset := by
      rw [hfirst.stop_offset, size_append _ w]; omega
    rw [if_neg fun h => hne h.1, h]

theorem Solid.lists_searchAll (hp : p.Solid) (count : Nat) (lastEnd : Option Nat) (hlen : rest.length ≤ bound)
    (hcount : rest.length < count) {cur : Cursor} (hoff : cur.offset = size done)
    (hlast : cur.last = done.getLast?) (hrest : cur.rest = rest) :
    Lists p bound done rest (p.searchAll bound count lastEnd cur) := by
  induction count generalizing done rest lastEnd cur with
  | zero => omega
  | succ n ih =>
    rw [searchAll, hp.searchNext lastEnd hlen hoff hlast hrest]
    split
    · next h => exact .nil ((search_eq_none_iff hlen).1 h)
    · next ends h =>
      obtain ⟨a, w, b, hstart, hfirst⟩ := search_eq_some hlen h
      have hw := List.length_pos_iff.2 (hp _ _ _ hfirst.occurs)
      have hr := congrArg List.length hfirst.rest_eq
      simp only [List.length_append] at hr
      rw [show ends = (size (done ++ a), ends.2) from Prod.ext hstart rfl]
      exact .cons hfirst (ih _ (by omega) (by omega) hfirst.stop_offset hfirst.stop_last hfirst.stop_rest)

theorem Solid.lists_findAll (hp : p.Solid) (t : Text) : Lists p t.length [] t (p.findAll t) :=
  hp.lists_searchAll _ _ (Nat.le_refl _) (Nat.lt_succ_self _) rfl rfl rfl

end Pattern

end HandlerMigration
