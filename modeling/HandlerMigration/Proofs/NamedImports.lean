import HandlerMigration.Proofs.Alignment
import HandlerMigration.Proofs.WholeLines
import HandlerMigration.Shape.Declaration

/-!
# Imports of names as pieces of a text

An import is six texts in a row (`ImportPiece`). The first four and the quote behind the path are fixed by the text
(`ImportPiece.core_unique`), and the last one is as long as it can be (`exists_piece`). So an import is found again when
its names change, if the character behind it stays (`ImportPiece.takes`). A text that becomes an import by a change
further on reaches into another import with its names or its path, and then it was one before (`absorbs_namedImport`).
-/

namespace HandlerMigration.Shape

open Text Pattern Piece

/-! ### Optional ends -/

/-- A run that is as long as possible ends in front of the first other character. -/
theorem head?_ends_manyOf {set : CharSet} {bound : Nat} {cur stop : Cursor}
    (h : ((manyOf set).ends bound cur).head? = some stop) : stop.rest = cur.rest.dropWhile set.has := by
  have hlast : ∀ (offset : Nat) (last : Option Char) (t : Text),
      (Cursor.reach set offset last cur.groups none t).getLast? = some stop → stop.rest = t.dropWhile set.has := by
    intro offset last t ht
    induction t generalizing offset last with
    | nil =>
      cases ht
      rfl
    | cons c t ih =>
      rw [Cursor.reach] at ht
      by_cases hc : set.has c = true
      · rw [List.dropWhile_cons_of_pos hc]
        rw [if_pos (by simp [hc]), List.getLast?_cons] at ht
        refine ih (offset + c.utf8Size) (some c) ?_
        cases hreach : (Cursor.reach set (offset + c.utf8Size) (some c) cur.groups none t).getLast? with
        | none =>
          rw [List.getLast?_eq_none_iff] at hreach
          cases t <;> cases hreach
        | some stop' =>
          rw [Option.map_none, hreach] at ht
          exact ht
      · rw [List.dropWhile_cons_of_neg hc]
        rw [if_neg (by simp [hc])] at ht
        cases ht
        rfl
  refine hlast cur.offset cur.last cur.rest ?_
  rw [← List.head?_reverse]
  exact h

/-- What is left of a text behind spaces, tabs and a semicolon. -/
def afterClosing (r : Text) : Text :=
  match r.dropWhile isMargin with
  | ';' :: r => r
  | r => r

/-- The end of an import behind its path. -/
def importEnd : Pattern := Piece.margin ++ semicolon

theorem afterClosing_margin {m : Text} (hm : ∀ c ∈ m, isMargin c = true) (r : Text) :
    afterClosing (m ++ r) = afterClosing r := by
  rw [afterClosing, afterClosing, List.dropWhile_append_of_pos hm]

theorem importEnd_admits_iff {e : Text} :
    importEnd.Admits e ↔ ∃ m, (∀ c ∈ m, isMargin c = true) ∧ (e = m ∨ e = m ++ [';']) := by
  constructor
  · rintro ⟨m, _, rfl, hm, rfl | rfl⟩
    · exact ⟨m, margin_spells_iff.1 hm, .inr rfl⟩
    · exact ⟨m, margin_spells_iff.1 hm, .inl (List.append_nil m)⟩
  · rintro ⟨m, hm, rfl | rfl⟩
    · exact ⟨e, [], (List.append_nil e).symm, margin_spells_iff.2 hm, .inr rfl⟩
    · exact ⟨m, [';'], rfl, margin_spells_iff.2 hm, .inl rfl⟩

theorem head?_ends_importEnd {bound : Nat} {cur stop : Cursor} (h : (importEnd.ends bound cur).head? = some stop) :
    stop.rest = afterClosing cur.rest := by
  have hset : (CharSet.chars [' ', '\t']).has = isMargin := by
    funext c
    rw [Bool.eq_iff_iff]
    simp [CharSet.has, isMargin]
  -- the longest margin is tried first, and something is found behind it
  have hfirst : ∃ mid, (Piece.margin.ends bound cur).head? = some mid ∧ (semicolon.ends bound mid).head? = some stop := by
    rw [importEnd, ends_append, List.head?_flatMap] at h
    cases hends : Piece.margin.ends bound cur with
    | nil =>
      rw [hends] at h
      cases h
    | cons mid mids =>
      refine ⟨mid, rfl, ?_⟩
      rw [hends, List.findSome?_cons] at h
      cases hmid : (semicolon.ends bound mid).head? with
      | none =>
        rw [List.head?_eq_none_iff] at hmid
        exact absurd hmid (List.append_ne_nil_of_right_ne_nil _ (List.cons_ne_nil mid []))
      | some stop' =>
        rw [hmid] at h
        exact h
  obtain ⟨mid, hmid, hstop⟩ := hfirst
  have hrest : mid.rest = cur.rest.dropWhile isMargin := hset ▸ head?_ends_manyOf hmid
  have hsemi : semicolon.ends bound mid = (mid.skip? [';']).toList ++ [mid] := rfl
  rw [hsemi] at hstop
  rw [afterClosing, ← hrest]
  split
  · next r hr =>
    obtain ⟨next, hnext⟩ := Cursor.exists_skip? (s := [';']) hr
    rw [hnext] at hstop
    obtain rfl : next = stop := Option.some.inj hstop
    exact (Cursor.skip?_eq_some hnext).rest_eq hr
  · next hne =>
    cases hskip : mid.skip? [';'] with
    | none =>
      rw [hskip] at hstop
      obtain rfl : mid = stop := Option.some.inj hstop
      rfl
    | some next => exact absurd (Cursor.skip?_eq_some hskip).rest (hne next.rest)

theorem length_afterClosing_le (r : Text) : (afterClosing r).length ≤ r.length := by
  have hle := (List.dropWhile_suffix isMargin (l := r)).length_le
  rw [afterClosing]
  split
  · next r' hr' =>
    rw [hr', List.length_cons] at hle
    omega
  · exact hle

theorem afterClosing_eq_self_iff {r : Text} :
    afterClosing r = r ↔ ∀ c, r.head? = some c → isMargin c = false ∧ c ≠ ';' := by
  cases r with
  | nil => simp [afterClosing]
  | cons c r =>
    have hshort : ∀ {x : Text}, x.length ≤ r.length → x ≠ c :: r := by
      rintro x hle rfl
      rw [List.length_cons] at hle
      omega
    simp only [List.head?_cons, Option.some.injEq, forall_eq']
    cases hc : isMargin c with
    | true =>
      refine ⟨fun hr => absurd hr (hshort ?_), fun hr => absurd hr.1 (by decide)⟩
      rw [← List.singleton_append, afterClosing_margin (by simpa using hc)]
      exact length_afterClosing_le r
    | false =>
      by_cases hsemi : c = ';'
      · subst hsemi
        exact ⟨fun hr => absurd hr (hshort (Nat.le_refl _)), fun hr => absurd rfl hr.2⟩
      · refine ⟨fun _ => ⟨rfl, hsemi⟩, fun _ => ?_⟩
        rw [afterClosing, List.dropWhile_cons_of_neg (by simp [hc])]
        split
        · next r' hr' => exact absurd (List.cons.inj hr').1 hsemi
        · rfl

theorem afterClosing_congr {e b b' : Text} (he : importEnd.Admits e) (h : afterClosing (e ++ b) = b)
    (hb : b'.head? = b.head?) : afterClosing (e ++ b') = b' := by
  obtain ⟨m, hm, rfl | rfl⟩ := importEnd_admits_iff.1 he
  · rw [afterClosing_margin hm, afterClosing_eq_self_iff] at h ⊢
    intro c hc
    exact h c (hb ▸ hc)
  · rw [List.append_assoc, afterClosing_margin hm]
    rfl

/-! ### The parts of an import -/

def isQuote (c : Char) : Bool := c == '\'' || c == '"'

/-- An import up to its names. -/
def importFront : Pattern := text "import" ++ blanks ++ text "\x7b"

/-- An import between its names and its path. -/
def importMiddle : Pattern := text "\x7d" ++ (blanks ++ (text "from" ++ (blanks ++ quote)))

/-- An import of names. -/
structure ImportPiece where
  front : Text
  names : Text
  middle : Text
  path : Text
  /-- The quote behind the path. -/
  quote : Char
  back : Text
  front_admits : importFront.Admits front
  names_open : '}' ∉ names
  middle_admits : importMiddle.Admits middle
  path_open : ∀ c ∈ path, isQuote c = false
  quote_closes : isQuote quote = true
  back_admits : importEnd.Admits back

theorem has_quote {c : Char} : (CharSet.chars ['\'', '"']).has c = true ↔ isQuote c = true := by
  simp [CharSet.has, isQuote]

theorem has_names_iff {n : Text} : (∀ c ∈ n, (CharSet.except ['}']).has c = true) ↔ '}' ∉ n := by
  simp only [CharSet.has_except, List.mem_singleton]
  exact ⟨fun h hmem => h _ hmem rfl, fun h c hc heq => h (heq ▸ hc)⟩

theorem has_path_iff {p : Text} :
    (∀ c ∈ p, (CharSet.except ['\'', '"']).has c = true) ↔ ∀ c ∈ p, isQuote c = false := by
  refine forall₂_congr fun c _ => ?_
  rw [CharSet.has_except]
  simp [isQuote]

theorem definite_quote : Piece.quote.Definite := by
  rintro _ _ r r' ⟨c, rfl, -⟩ ⟨c', rfl, -⟩ h
  obtain ⟨rfl, rfl⟩ := List.cons.inj h
  exact ⟨rfl, rfl⟩

theorem definite_importFront : importFront.Definite := definite_until_lit rfl (by decide) (c := '{') rfl

theorem definite_importMiddle : importMiddle.Definite := by
  have hquote : (blanks ++ Piece.quote).Definite := by
    refine Definite.until isQuote definite_quote rfl ?_ ?_
    · intro u hu d hd
      have hblank : isBlank d = true := hu.1 d hd
      rw [Bool.eq_false_iff]
      intro hq
      rcases (by simpa [isQuote] using hq : d = '\'' ∨ d = '"') with rfl | rfl <;> exact absurd hblank (by decide)
    · rintro v ⟨c, rfl, hc⟩
      exact ⟨c, [], rfl, has_quote.1 hc⟩
  refine Definite.append (definite_lit ['}']) (Definite.until (· == 'f') ?_ rfl ?_ ?_) rfl
  · exact Definite.append (definite_lit ['f', 'r', 'o', 'm']) hquote rfl
  · intro u hu d hd
    refine beq_false_of_ne ?_
    rintro rfl
    exact absurd (hu.1 _ hd) (by decide)
  · rintro v ⟨_, v', rfl, rfl, -⟩
    exact ⟨'f', _, rfl, rfl⟩

theorem importMiddle_cons {mid : Text} (h : importMiddle.Admits mid) :
    ∃ s q, mid = '}' :: (s ++ [q]) ∧ isQuote q = true := by
  obtain ⟨_, _, rfl, rfl, x, _, rfl, -, _, _, rfl, rfl, y, _, rfl, -, q, rfl, hq⟩ := h
  refine ⟨x ++ ['f', 'r', 'o', 'm'] ++ y, q, ?_, has_quote.1 hq⟩
  show '}' :: (x ++ ('f' :: 'r' :: 'o' :: 'm' :: (y ++ [q]))) = _
  simp

namespace ImportPiece

def text (i : ImportPiece) : Text := i.front ++ (i.names ++ (i.middle ++ (i.path ++ i.quote :: i.back)))

/-- The parts of an import up to its end are fixed by the text that starts with it. -/
theorem core_unique {i j : ImportPiece} {r r' : Text} (h : i.text ++ r = j.text ++ r') :
    i.front = j.front ∧ i.names = j.names ∧ i.middle = j.middle ∧ i.path = j.path ∧ i.quote = j.quote ∧
      i.back ++ r = j.back ++ r' := by
  have hbrace : ∀ k : ImportPiece, ∀ d ∈ k.names, (d == '}') = false := by
    intro k d hd
    refine beq_false_of_ne ?_
    rintro rfl
    exact k.names_open hd
  simp only [text, List.append_assoc, List.cons_append] at h
  obtain ⟨hfront, h⟩ := definite_importFront _ _ _ _ i.front_admits j.front_admits h
  obtain ⟨s, q, hmid, -⟩ := importMiddle_cons i.middle_admits
  obtain ⟨s', q', hmid', -⟩ := importMiddle_cons j.middle_admits
  obtain ⟨hnames, -, -⟩ := append_cons_inj (P := (· == '}')) (hbrace i) (hbrace j) rfl rfl (by
    rw [hmid, hmid'] at h
    exact h)
  rw [hnames] at h
  obtain ⟨hmiddle, h⟩ := definite_importMiddle _ _ _ _ i.middle_admits j.middle_admits (List.append_cancel_left h)
  obtain ⟨hpath, hquote, hback⟩ := append_cons_inj i.path_open j.path_open i.quote_closes j.quote_closes h
  exact ⟨hfront, hnames, hmiddle, hpath, hquote, hback⟩

theorem text_injective : Function.Injective text := by
  intro i j h
  obtain ⟨hfront, hnames, hmiddle, hpath, hquote, hback⟩ := core_unique (congrArg (· ++ []) h)
  rw [List.append_nil, List.append_nil] at hback
  cases i
  cases j
  simp only at hfront hnames hmiddle hpath hquote hback
  subst hfront hnames hmiddle hpath hquote hback
  rfl

end ImportPiece

/-- An import as a pattern of its parts. -/
def importForm : Pattern :=
  importFront ++ (group 1 (manyOf (.except ['}'])) ++ (importMiddle ++
    (group 2 (manyOf (.except ['\'', '"'])) ++ (Piece.quote ++ importEnd))))

theorem ends_namedImport (bound : Nat) (cur : Cursor) :
    namedImportPattern.ends bound cur = importForm.ends bound cur := by
  simp only [namedImportPattern, importForm, importFront, importMiddle, importEnd, ends_append, List.flatMap_assoc]

theorem ImportPiece.admits (i : ImportPiece) : namedImportPattern.Admits i.text := by
  refine (admits_congr ends_namedImport).2 ?_
  refine (admits_append_iff rfl rfl).2 ⟨i.front, _, rfl, i.front_admits, ?_⟩
  refine (admits_append_iff rfl rfl).2 ⟨i.names, _, rfl,
    ⟨has_names_iff.2 i.names_open, Nat.zero_le _, by simp⟩, ?_⟩
  refine (admits_append_iff rfl rfl).2 ⟨i.middle, _, rfl, i.middle_admits, ?_⟩
  refine (admits_append_iff rfl rfl).2 ⟨i.path, _, rfl,
    ⟨has_path_iff.2 i.path_open, Nat.zero_le _, by simp⟩, ?_⟩
  exact (admits_append_iff rfl rfl).2 ⟨[i.quote], i.back, rfl, ⟨_, rfl, has_quote.2 i.quote_closes⟩, i.back_admits⟩

/-- What is taken is an import with an end that is as long as possible, and its groups are its names and its path. -/
theorem exists_piece {bound : Nat} {a r : Text} {stop : Cursor}
    (h : (namedImportPattern.ends bound (.behind a r)).head? = some stop) :
    ∃ i : ImportPiece, r = i.text ++ stop.rest ∧ afterClosing (i.back ++ stop.rest) = stop.rest ∧
      stop.groups.lookup 1 = some ⟨size (a ++ i.front), size (a ++ i.front ++ i.names)⟩ ∧
      stop.groups.lookup 2 = some ⟨size (a ++ i.front ++ i.names ++ i.middle),
        size (a ++ i.front ++ i.names ++ i.middle ++ i.path)⟩ := by
  rw [ends_namedImport] at h
  obtain ⟨c₁, h₁, hstop₁⟩ := head?_ends_append h
  obtain ⟨c₂, h₂, hstop₂⟩ := head?_ends_append hstop₁
  obtain ⟨c₃, h₃, hstop₃⟩ := head?_ends_append hstop₂
  obtain ⟨c₄, h₄, hstop₄⟩ := head?_ends_append hstop₃
  obtain ⟨c₅, h₅, hstop₅⟩ := head?_ends_append hstop₄
  obtain ⟨front, r₁, hfront⟩ := mem_ends h₁
  obtain ⟨inner, h₂, rfl⟩ := List.mem_map.1 h₂
  obtain ⟨names, r₂, hnames⟩ := mem_ends h₂
  obtain ⟨middle, r₃, hmiddle⟩ := mem_ends h₃
  obtain ⟨inner', h₄, rfl⟩ := List.mem_map.1 h₄
  obtain ⟨path, r₄, hpath⟩ := mem_ends h₄
  obtain ⟨_, r₅, quote, rfl, hquote⟩ := mem_ends h₅
  obtain ⟨back, r₆, hback⟩ := mem_ends (List.mem_of_head? hstop₅)
  have hoff₁ : c₁.offset = size (a ++ front) := by rw [r₁.offset, size_append]; rfl
  have hoff₂ : inner.offset = size (a ++ front ++ names) := by rw [r₂.offset, hoff₁, size_append (a ++ front)]
  have hoff₃ : c₃.offset = size (a ++ front ++ names ++ middle) := by
    rw [r₃.offset, size_append _ middle, ← hoff₂]
  refine ⟨⟨front, names, middle, path, quote, back, hfront.move rfl _ _, has_names_iff.1 hnames.1,
    hmiddle.move rfl _ _, has_path_iff.1 hpath.1, has_quote.1 hquote, hback.move rfl _ _⟩, ?_, ?_, ?_, ?_⟩
  · have hr : r = front ++ c₁.rest := r₁.rest
    rw [hr, r₂.rest, show inner.rest = _ from r₃.rest, r₄.rest, show inner'.rest = _ from r₅.rest, r₆.rest]
    simp [ImportPiece.text]
  · rw [← r₆.rest]
    exact (head?_ends_importEnd hstop₅).symm
  · rw [lookup_groups (by decide) (List.mem_of_head? hstop₂), List.lookup_cons_self, hoff₁, hoff₂]
  · rw [lookup_groups (by decide) (List.mem_of_head? hstop₄), List.lookup_cons_self, r₄.offset, hoff₃,
      size_append _ path]

theorem exists_piece_of_admits {w : Text} (h : namedImportPattern.Admits w) : ∃ i : ImportPiece, w = i.text := by
  obtain ⟨front, _, rfl, hfront, names, _, rfl, hnames, middle, _, rfl, hmiddle, path, _, rfl, hpath, _, back, rfl,
    ⟨quote, rfl, hquote⟩, hback⟩ := (admits_congr ends_namedImport).1 h
  exact ⟨⟨front, names, middle, path, quote, back, hfront.move rfl _ _, has_names_iff.1 hnames.1,
    hmiddle.move rfl _ _, has_path_iff.1 hpath.1, has_quote.1 hquote, hback.move rfl _ _⟩, rfl⟩

/-! ### Imports that stay -/

/-- An import whose end is as long as possible is taken. -/
theorem ImportPiece.takes (i : ImportPiece) {a b : Text} {bound : Nat} (hb : afterClosing (i.back ++ b) = b)
    (hlen : (i.text ++ b).length ≤ bound) : namedImportPattern.Takes bound a i.text b := by
  have hspells : namedImportPattern.Spells (Cursor.behind a (i.text ++ b)).last i.text b.head? :=
    (spells_iff_admits rfl).2 i.admits
  obtain ⟨next, hnext, -⟩ := hspells.exists_mem_ends rfl hlen
  obtain ⟨stop, hstop⟩ := Option.isSome_iff_exists.1 (List.isSome_head?.2 (List.ne_nil_of_mem hnext))
  obtain ⟨j, hj, hclose, -⟩ := exists_piece hstop
  refine ⟨stop, hstop, ?_⟩
  rw [← hclose, ← (core_unique hj).2.2.2.2.2, hb]

theorem exists_first_quote {w : Text} {q : Char} (hw : q ∈ w) (hq : isQuote q = true) :
    ∃ u q' v, w = u ++ q' :: v ∧ isQuote q' = true ∧ ∀ c ∈ u, isQuote c = false := by
  induction w with
  | nil => cases hw
  | cons c w ih =>
    cases hc : isQuote c with
    | true => exact ⟨[], c, w, rfl, hc, by simp⟩
    | false =>
      have hne : q ≠ c := by
        rintro rfl
        rw [hq] at hc
        cases hc
      obtain ⟨u, q', v, rfl, hq', hu⟩ := ih (List.mem_of_ne_of_mem hne hw)
      exact ⟨c :: u, q', v, rfl, hq', List.forall_mem_cons.2 ⟨hc, hu⟩⟩

/-- The letter that an import starts with stands further on only in its names or in its path. -/
theorem ImportPiece.cases_of_inner {i : ImportPiece} {x y : Text} (hx : x ≠ []) (h : i.text = x ++ 'i' :: y) :
    (∃ n, x = i.front ++ n ∧ '}' ∉ n) ∨
      ∃ p, x = i.front ++ (i.names ++ (i.middle ++ p)) ∧ ∀ c ∈ p, isQuote c = false := by
  obtain ⟨front, hfront, hnot⟩ := i.front_admits.exists_cons (c := 'i') (by decide)
  have hmiddle : 'i' ∉ i.middle := i.middle_admits.not_mem_of_avoids (by decide)
  have hclose : 'i' ∉ i.quote :: i.back := by
    intro hmem
    rcases List.mem_cons.1 hmem with heq | hmem
    · have := i.quote_closes
      rw [← heq] at this
      cases this
    · exact i.back_admits.not_mem_of_avoids (by decide) hmem
  obtain ⟨d, x, rfl⟩ := List.exists_cons_of_ne_nil hx
  rw [text, hfront, List.cons_append, List.cons_append, List.cons.injEq] at h
  obtain ⟨rfl, h⟩ := h
  obtain ⟨z, rfl, hz⟩ := exists_of_append_eq hnot h
  rw [hfront]
  rcases List.append_eq_append_iff.1 hz with ⟨z', rfl, hz'⟩ | ⟨n, hn, -⟩
  · obtain ⟨z'', rfl, hz''⟩ := exists_of_append_eq hmiddle hz'
    refine .inr ⟨z'', by simp, ?_⟩
    rcases List.append_eq_append_iff.1 hz'' with ⟨r, rfl, hr⟩ | ⟨r, hr, -⟩
    · exact absurd (hr ▸ by simp) hclose
    · intro c hc
      exact i.path_open c (hr ▸ List.mem_append_left _ hc)
  · refine .inl ⟨z, rfl, fun hmem => i.names_open ?_⟩
    rw [hn]
    exact List.mem_append_left _ hmem

theorem absorbs_namedImport : namedImportPattern.Absorbs 'i' where
  plain := rfl
  starts := by decide
  reach := by
    intro x y w hx hxy hw
    obtain ⟨i, hi⟩ := exists_piece_of_admits hxy
    obtain ⟨j, rfl⟩ := exists_piece_of_admits hw
    rcases i.cases_of_inner hx hi.symm with ⟨n, rfl, hn⟩ | ⟨p, rfl, hp⟩
    · -- the names go on to those of the other import
      have hfront : '}' ∉ j.front := j.front_admits.not_mem_of_avoids (by decide)
      have hnames : '}' ∉ n ++ (j.front ++ j.names) :=
        List.not_mem_append hn (List.not_mem_append hfront j.names_open)
      have hjoined := ImportPiece.admits { j with
        front := i.front, front_admits := i.front_admits, names := n ++ (j.front ++ j.names), names_open := hnames }
      refine ⟨j.text, [], by simp, ?_⟩
      simpa [ImportPiece.text] using hjoined
    · -- the path goes on to the first quote of the other import
      obtain ⟨s, q, hmiddle, hq⟩ := importMiddle_cons j.middle_admits
      obtain ⟨u, q', v, hsplit, hq', hu⟩ := exists_first_quote (w := j.text) (q := q) (by
        rw [ImportPiece.text, hmiddle]
        simp) hq
      have hback : importEnd.Admits [] := importEnd_admits_iff.2 ⟨[], by simp, .inl rfl⟩
      have hjoined := ImportPiece.admits { i with
        path := p ++ u, path_open := List.forall_mem_append.2 ⟨hp, hu⟩
        quote := q', quote_closes := hq', back := [], back_admits := hback }
      refine ⟨u ++ [q'], v, by rw [hsplit]; simp, ?_⟩
      simpa [ImportPiece.text] using hjoined

/-! ### Places of imports -/

/-- The import that a match is. -/
def namedImport? (t : Text) (m : Match) : Option NamedImport := do
  let names ← m.group? 1
  let path ← m.group? 2
  return ⟨m.span, names, t.slice path⟩

theorem namedImports_eq (t : Text) : namedImports t = (namedImportPattern.findAll t).filterMap (namedImport? t) := rfl

/-- The import behind a text. -/
def ImportPiece.behind (i : ImportPiece) (a : Text) : NamedImport :=
  ⟨⟨size a, size (a ++ i.text)⟩, ⟨size (a ++ i.front), size (a ++ i.front ++ i.names)⟩, i.path⟩

theorem ImportPiece.slice_names (i : ImportPiece) (a b : Text) :
    (a ++ (i.text ++ b)).slice (i.behind a).names = i.names := by
  have ht : a ++ (i.text ++ b) = a ++ i.front ++ i.names ++ (i.middle ++ (i.path ++ i.quote :: (i.back ++ b))) := by
    simp [text]
  rw [ht, behind, size_append (a ++ i.front)]
  exact slice_append _ _ _

theorem exists_piece_of_sits {t a w b : Text} {m : Match} (h : namedImportPattern.Sits t m a w b) :
    ∃ i : ImportPiece, w = i.text ∧ namedImport? t m = some (i.behind a) ∧ afterClosing (i.back ++ b) = b := by
  obtain ⟨bound, stop, hhead, rfl, hgroups⟩ := h.taken
  obtain ⟨i, hi, hclose, hnames, hpath⟩ := exists_piece hhead
  obtain rfl := List.append_cancel_right hi
  have hslice : t.slice ⟨size (a ++ i.front ++ i.names ++ i.middle),
      size (a ++ i.front ++ i.names ++ i.middle ++ i.path)⟩ = i.path := by
    have ht : t = a ++ i.front ++ i.names ++ i.middle ++ i.path ++ (i.quote :: (i.back ++ stop.rest)) := by
      rw [h.text_eq, ImportPiece.text]
      simp
    rw [ht, size_append _ i.path]
    exact slice_append _ _ _
  refine ⟨i, rfl, ?_, hclose⟩
  rw [namedImport?, Match.group?, Match.group?, hgroups, hnames, hpath, h.span_eq]
  show some (NamedImport.mk _ _ (t.slice _)) = _
  rw [hslice]
  rfl

theorem exists_piece_of_mem {t : Text} {i : NamedImport} (h : i ∈ namedImports t) :
    ∃ m ∈ namedImportPattern.findAll t, ∃ a b, ∃ piece : ImportPiece, namedImportPattern.Sits t m a piece.text b ∧
      i = piece.behind a := by
  obtain ⟨m, hm, hi⟩ := List.mem_filterMap.1 h
  obtain ⟨a, w, b, hsits⟩ := absorbs_namedImport.solid.exists_sits hm
  obtain ⟨piece, rfl, hpiece, -⟩ := exists_piece_of_sits hsits
  exact ⟨m, hm, a, b, piece, hsits, Option.some.inj (hi.symm.trans hpiece)⟩

end HandlerMigration.Shape
