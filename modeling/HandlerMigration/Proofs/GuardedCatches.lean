import HandlerMigration.Proofs.Alignment
import HandlerMigration.Proofs.CatchGuards
import HandlerMigration.Proofs.WholeLines

/-!
# One guard for each catch block

The heads of catch blocks stay side by side when guards are put in behind them: a head that reaches into another
one does so in its type annotation, and then it reached into it before as well (`absorbs_catchPattern`). What holds
of a single head and its guard is carried along the two texts by induction: the binding, the guards that are found
(`exists_guards`), and the deletions that undo the insertions (`spliced_unguard`).
-/

namespace HandlerMigration.Shape

open Text Pattern Piece Migration

/-! ### Heads as pieces -/

/-- The head of a catch block up to its binding. -/
def catchStem : Pattern :=
  text "\x7d" ++ blanks ++ text "catch" ++ blanks ++ text "(" ++ blanks ++ group 1 identifier ++ blanks

def catchType : Pattern := opt (text ":" ++ manyOf (.except [')']))

/-- The head of a catch block from its closing parenthesis on. -/
def catchClose : Pattern := text ")" ++ (blanks ++ (group 2 (text "\x7b") ++ (Piece.margin ++ lineBreak)))

section Head

variable {w s : Text}

theorem admits_catchPattern_iff :
    catchPattern.Admits w ↔ ∃ u v, w = u ++ v ∧ (catchStem ++ catchType).Admits u ∧ catchClose.Admits v := by
  have hends : ∀ bound cur, catchPattern.ends bound cur = (catchStem ++ catchType ++ catchClose).ends bound cur := by
    intro bound cur
    simp only [catchPattern, catchStem, catchType, catchClose, ends_append, List.flatMap_assoc]
  rw [admits_congr hends]
  exact admits_append_iff rfl rfl

theorem catchType_admits_iff : catchType.Admits s ↔ s = [] ∨ ∃ z, s = ':' :: z ∧ ')' ∉ z := by
  constructor
  · rintro (⟨_, z, rfl, rfl, hz, -⟩ | rfl)
    · refine .inr ⟨z, rfl, fun hmem => ?_⟩
      exact CharSet.has_except.1 (hz _ hmem) (by simp)
    · exact .inl rfl
  · rintro (rfl | ⟨z, rfl, hz⟩)
    · exact .inr rfl
    · refine .inl ⟨[':'], z, rfl, rfl, ?_, Nat.zero_le _, by simp⟩
      intro c hc
      refine CharSet.has_except.2 fun hmem => ?_
      obtain rfl := List.mem_singleton.1 hmem
      exact hz hc

theorem definite_catchClose : catchClose.Definite := by
  have hbreak : lineBreak.Definite := definite_until_lit rfl (by decide) rfl
  have hend : (Piece.margin ++ lineBreak).Definite := by
    refine Definite.until (fun c => c == '\r' || c == '\n') hbreak rfl ?_ ?_
    · intro u hu d hd
      rcases (by simpa [CharSet.has] using hu.1 d hd : d = ' ' ∨ d = '\t') with rfl | rfl <;> rfl
    · rintro v ⟨_, _, rfl, rfl | rfl, rfl⟩
      · exact ⟨'\r', _, rfl, rfl⟩
      · exact ⟨'\n', _, rfl, rfl⟩
  have hbrace : (group 2 (text "\x7b") ++ (Piece.margin ++ lineBreak)).Definite :=
    Definite.append (definite_lit ['{']) hend rfl
  refine Definite.append (definite_lit [')']) (Definite.until (· == '{') hbrace rfl ?_ ?_) rfl
  · intro u hu d hd
    refine beq_false_of_ne ?_
    rintro rfl
    exact absurd (hu.1 _ hd) (by decide)
  · rintro v ⟨_, v', rfl, rfl, -⟩
    exact ⟨'{', v', rfl, rfl⟩

theorem definite_catchPattern : catchPattern.Definite := by
  have hsplit : (catchStem ++ catchType ++ catchClose).Definite := by
    refine Definite.until (· == ')') definite_catchClose rfl ?_ ?_
    · intro u hu d hd
      refine beq_false_of_ne ?_
      rintro rfl
      exact hu.not_mem_of_avoids (by decide) hd
    · rintro v ⟨_, v', rfl, rfl, -⟩
      exact ⟨')', v', rfl, rfl⟩
  intro w w' r r' hw hw' h
  exact hsplit w w' r r' ((admits_append_iff rfl rfl).2 (admits_catchPattern_iff.1 hw))
    ((admits_append_iff rfl rfl).2 (admits_catchPattern_iff.1 hw')) h

/-- A head has a closing brace only in front and in its type annotation. -/
theorem exists_of_inner_brace {x y : Text} (hx : x ≠ []) (h : catchPattern.Admits (x ++ '}' :: y)) :
    ∃ s z, x = s ++ ':' :: z ∧ catchStem.Admits s ∧ ')' ∉ z := by
  obtain ⟨_, e, hw, hhead, he⟩ := admits_catchPattern_iff.1 h
  obtain ⟨_, ty, rfl, hs, hty⟩ := (admits_append_iff rfl rfl).1 hhead
  obtain ⟨s, rfl, hnot⟩ := hs.exists_cons (c := '}') (by decide)
  have he' : '}' ∉ e := he.not_mem_of_avoids (by decide)
  obtain ⟨d, x, rfl⟩ := List.exists_cons_of_ne_nil hx
  simp only [List.cons_append, List.append_assoc, List.cons.injEq] at hw
  obtain ⟨rfl, hw⟩ := hw
  obtain ⟨z, rfl, hback⟩ := exists_of_append_eq hnot hw.symm
  rcases catchType_admits_iff.1 hty with rfl | ⟨zz, rfl, hzz⟩
  · exact absurd (by rw [List.nil_append] at hback; rw [hback]; simp) he'
  · cases z with
    | nil => exact absurd (List.cons.inj hback).1 (by decide)
    | cons d z =>
      simp only [List.cons_append, List.cons.injEq] at hback
      obtain ⟨rfl, hback⟩ := hback
      refine ⟨'}' :: s, z, rfl, hs, ?_⟩
      rcases List.append_eq_append_iff.1 hback with ⟨r, rfl, hr⟩ | ⟨r, rfl, -⟩
      · exact absurd (by rw [hr]; simp) he'
      · exact fun hmem => hzz (List.mem_append_left _ hmem)

/-- A head that reaches into another one goes on to the end of that one. -/
theorem absorbs_catchPattern : catchPattern.Absorbs '}' where
  plain := rfl
  starts := by decide
  reach := by
    intro x y w hx hxy hw
    obtain ⟨s, z, rfl, hs, hz⟩ := exists_of_inner_brace hx hxy
    obtain ⟨u, v, rfl, hu, hv⟩ := admits_catchPattern_iff.1 hw
    have hu' : ')' ∉ u := hu.not_mem_of_avoids (by decide)
    refine ⟨u ++ v, [], by simp, admits_catchPattern_iff.2 ⟨s ++ ':' :: (z ++ u), v, by simp, ?_, hv⟩⟩
    refine (admits_append_iff rfl rfl).2 ⟨s, ':' :: (z ++ u), rfl, hs, ?_⟩
    exact catchType_admits_iff.2 (.inr ⟨_, rfl, List.not_mem_append hz hu'⟩)

theorem exists_brace_blanks (h : catchPattern.Admits w) : ∃ x z, w = x ++ '{' :: z ∧ ∀ c ∈ z, isBlank c = true := by
  obtain ⟨u, _, rfl, -, _, _, rfl, rfl, y, _, rfl, -, _, _, rfl, rfl, m, e, rfl, hm, he⟩ := admits_catchPattern_iff.1 h
  refine ⟨u ++ ')' :: y, m ++ e, ?_, ?_⟩
  · show u ++ (')' :: (y ++ '{' :: (m ++ e))) = _
    simp
  · intro c hc
    rcases List.mem_append.1 hc with hc | hc
    · rcases (by simpa [CharSet.has] using hm.1 c hc : c = ' ' ∨ c = '\t') with rfl | rfl <;> decide
    · obtain ⟨_, _, rfl, rfl | rfl, rfl⟩ := he
      · rcases (by simpa using hc : c = '\r' ∨ c = '\n') with rfl | rfl <;> decide
      · obtain rfl : c = '\n' := by simpa using hc
        decide

end Head

/-! ### Blocks -/

/-- The name behind the first parenthesis of a head. -/
def bindingOf (w : Text) : Text :=
  (((w.dropWhile (· != '(')).drop 1).dropWhile isBlank).takeWhile fun c => Unicode.isWord c || c == '$'

theorem bindingOf_append {u v binding y : Text} {d : Char} (hu : '(' ∉ u) (hv : ∀ c ∈ v, isBlank c = true)
    (hword : ∀ c ∈ binding, Unicode.isWord c = true ∨ c = '$') (hne : binding ≠ []) (hd : Unicode.isWord d = false)
    (hd' : d ≠ '$') : bindingOf (u ++ '(' :: (v ++ (binding ++ d :: y))) = binding := by
  have hopen : (u ++ '(' :: (v ++ (binding ++ d :: y))).dropWhile (· != '(') = '(' :: (v ++ (binding ++ d :: y)) := by
    rw [List.dropWhile_append_of_pos, List.dropWhile_cons_of_neg (by decide)]
    intro c hc
    exact bne_iff_ne.2 fun h => hu (h ▸ hc)
  have hblank : (v ++ (binding ++ d :: y)).dropWhile isBlank = binding ++ d :: y := by
    obtain ⟨e, b, rfl⟩ := List.exists_cons_of_ne_nil hne
    rw [List.dropWhile_append_of_pos hv, List.cons_append, List.dropWhile_cons_of_neg]
    intro he
    rcases hword e (by simp) with h | rfl
    · rw [isWord_of_isBlank he] at h
      cases h
    · exact absurd he (by decide)
  rw [bindingOf, hopen, List.drop_one, List.tail_cons, hblank, List.takeWhile_append_of_pos,
    List.takeWhile_cons_of_neg, List.append_nil]
  · simp [hd, hd']
  · intro c hc
    simpa using hword c hc

theorem lookup_binding {a w b : Text} {bound : Nat} {stop : Cursor}
    (h : stop ∈ catchPattern.ends bound (.behind a (w ++ b))) (hstop : stop.rest = b) :
    ∃ x y, w = x ++ (bindingOf w ++ y) ∧ stop.groups.lookup 1 = some ⟨size (a ++ x), size (a ++ x ++ bindingOf w)⟩ ∧
      ∀ c ∈ bindingOf w, Unicode.isWord c = true ∨ c = '$' := by
  rw [ends_catchPattern] at h
  obtain ⟨mid, hmid, h⟩ := mem_ends_append.1 h
  obtain ⟨mid', hmid', h⟩ := mem_ends_append.1 h
  obtain ⟨_, hx, _, v, rfl, ⟨u, _, rfl, hu, rfl⟩, hv, -⟩ := mem_ends hmid
  obtain ⟨inner, hinner, rfl⟩ := List.mem_map.1 hmid'
  obtain ⟨binding, hb, hname⟩ := mem_ends hinner
  obtain ⟨_, hy, hback⟩ := mem_ends h
  obtain ⟨d, y, rfl, hd, hd'⟩ := catchBack_first hback
  have hne : binding ≠ [] := by
    obtain ⟨_, _, rfl, ⟨_, rfl, -⟩, -⟩ := hname
    exact List.cons_ne_nil _ _
  have hw : w = u ++ '(' :: (v ++ (binding ++ d :: y)) := by
    have hrest : w ++ b = u ++ ['('] ++ v ++ mid.rest := hx.rest
    rw [hb.rest, show inner.rest = _ from hy.rest, hstop] at hrest
    exact List.append_cancel_right (hrest.trans (by simp))
  have hbinding : bindingOf w = binding := by
    rw [hw]
    exact bindingOf_append (hu.not_mem_of_avoids (by decide)) hv (identifier_word hname) hne hd hd'
  rw [hbinding]
  refine ⟨u ++ '(' :: v, d :: y, by rw [hw]; simp, ?_, identifier_word hname⟩
  rw [lookup_groups (by decide) h, List.lookup_cons_self]
  have hoff : mid.offset = size (a ++ (u ++ '(' :: v)) := by
    have hoff : mid.offset = size a + size (u ++ ['('] ++ v) := hx.offset
    rw [hoff, ← size_append]
    simp
  rw [hb.offset, hoff, ← size_append]

/-- The block that a match is the head of. -/
def catchBlock? (t : Text) (m : Match) : Option CatchBlock := do
  let binding ← m.group? 1
  let brace ← m.group? 2
  return ⟨m.span.stop, brace.start, t.slice binding⟩

theorem catchBlocks_eq (t : Text) : catchBlocks t = (catchPattern.findAll t).filterMap (catchBlock? t) := rfl

theorem catchBlock_of_sits {t a w b : Text} {m : Match} (h : catchPattern.Sits t m a w b) :
    ∃ brace, catchBlock? t m = some ⟨size (a ++ w), brace, bindingOf w⟩ := by
  obtain ⟨bound, stop, hhead, hstop, hgroups⟩ := h.taken
  have hmem := List.mem_of_head? hhead
  obtain ⟨x, y, hw, hlookup, -⟩ := lookup_binding hmem hstop
  obtain ⟨z, _, _, -, -, hbrace⟩ := exists_part (i := 2) (q := .text "\x7b") rfl hmem
  have ht : t = a ++ x ++ bindingOf w ++ (y ++ b) := by
    rw [h.text_eq]
    conv_lhs => rw [hw]
    simp
  have hslice : t.slice ⟨size (a ++ x), size (a ++ x ++ bindingOf w)⟩ = bindingOf w := by
    conv_lhs => rw [ht, size_append (a ++ x), slice_append]
  refine ⟨size a + size z, ?_⟩
  rw [catchBlock?, Match.group?, Match.group?, hgroups, hlookup, hbrace, h.span_eq]
  show some (CatchBlock.mk _ _ (t.slice _)) = _
  rw [hslice]
  rfl

theorem mem_catchBlocks_of_sits {t a w b : Text} {m : Match} (hm : m ∈ catchPattern.findAll t)
    (h : catchPattern.Sits t m a w b) :
    ∃ block ∈ catchBlocks t, block.bodyStart = size (a ++ w) ∧ block.binding = bindingOf w := by
  obtain ⟨brace, hblock⟩ := catchBlock_of_sits h
  exact ⟨_, List.mem_filterMap.2 ⟨m, hm, hblock⟩, rfl, rfl⟩

theorem exists_sits_of_mem {t : Text} {block : CatchBlock} (h : block ∈ catchBlocks t) :
    ∃ m ∈ catchPattern.findAll t, ∃ a w b, catchPattern.Sits t m a w b ∧ block.bodyStart = m.span.stop ∧
      block.binding = bindingOf w := by
  obtain ⟨m, hm, hblock⟩ := List.mem_filterMap.1 h
  obtain ⟨a, w, b, hsits⟩ := absorbs_catchPattern.solid.exists_sits hm
  obtain ⟨brace, hblock'⟩ := catchBlock_of_sits hsits
  obtain rfl := Option.some.inj (hblock'.symm.trans hblock)
  exact ⟨m, hm, a, w, b, hsits, by rw [hsits.span_eq], rfl⟩

/-! ### Guards behind the heads -/

/-- A head stays, and the guard of its block follows it. -/
def Guarded (_ w new tail : Text) : Prop :=
  new = w ∧ ∃ m, tail = guardLine m (bindingOf w) ∧ (∀ c ∈ m, isMargin c = true) ∧
    ∀ c ∈ bindingOf w, Unicode.isWord c = true ∨ c = '$'

/-- The edits that put the guards in. -/
def guardEdits (margin : CatchBlock → Text) (t : Text) : List Edit :=
  (catchBlocks t).map fun block => .insert block.bodyStart (guardLine (margin block) block.binding)

section Guards

variable {m binding : Text}

theorem not_mem_binding (hword : ∀ c ∈ binding, Unicode.isWord c = true ∨ c = '$') {c : Char}
    (hc : Unicode.isWord c = false) (hc' : c ≠ '$') : c ∉ binding := by
  intro h
  rcases hword c h with h | h
  · rw [hc] at h
    cases h
  · exact hc' h

theorem brace_not_mem_guardLine (hm : ∀ c ∈ m, isMargin c = true)
    (hword : ∀ c ∈ binding, Unicode.isWord c = true ∨ c = '$') : '}' ∉ guardLine m binding := by
  have hm' : '}' ∉ m := fun h => absurd (hm _ h) (by decide)
  have hb : '}' ∉ binding := not_mem_binding hword (by decide) (by decide)
  have hwords : '}' ∉ guardWords := by decide
  rw [guardLine_eq, guardTail]
  simp [hm', hb, hwords]

theorem firstLine_guardLine (hm : ∀ c ∈ m, isMargin c = true)
    (hword : ∀ c ∈ binding, Unicode.isWord c = true ∨ c = '$') (r : Text) :
    firstLine (guardLine m binding ++ r) = guardLine m binding := by
  have hm' : '\n' ∉ m := fun h => absurd (hm _ h) (by decide)
  have hb : '\n' ∉ binding := not_mem_binding hword (by decide) (by decide)
  have hwords : '\n' ∉ guardWords := by decide
  have hline : guardLine m binding ++ r =
      m ++ ['i', 'f', ' ', '('] ++ (binding ++ ' ' :: guardWords ++ ' ' :: binding ++ [';']) ++ '\n' :: r := by
    rw [guardLine_eq, guardTail]
    simp
  rw [hline, firstLine_append, firstLine_newline, guardLine_eq, guardTail]
  · simp
  · simp [hm', hb, hwords]

end Guards

theorem aligned_guards {margin : CatchBlock → Text} {t u : Text}
    (hmargin : ∀ block ∈ catchBlocks t, ∀ c ∈ margin block, isMargin c = true)
    (hu : Edit.applyAll t (guardEdits margin t) = .ok u) :
    Aligned catchPattern '}' t.length u.length Guarded [] t (catchPattern.findAll t) [] u (catchPattern.findAll u) := by
  have hlists := absorbs_catchPattern.solid.lists_findAll t
  refine aligned_findAll absorbs_catchPattern (·.span.stop) ?_ hu ?_ ?_
  · intro m hm pre w post placed hsits hplaced
    obtain ⟨block, hblock, hstart, hbinding⟩ := mem_catchBlocks_of_sits hm hsits
    have hadmits : catchPattern.Admits w := (spells_iff_admits rfl).1 hsits.occurs
    have hword : ∀ c ∈ bindingOf w, Unicode.isWord c = true ∨ c = '$' := by
      obtain ⟨_, _, hhead, hstop, -⟩ := hsits.taken
      obtain ⟨_, _, -, -, hword⟩ := lookup_binding (List.mem_of_head? hhead) hstop
      exact hword
    have hpos : 0 < size w := size_pos (absorbs_catchPattern.solid _ _ _ hadmits)
    cases hplaced with
    | keep hnone =>
      -- the guard of this head cannot be missing
      have := hnone _ (List.mem_map.2 ⟨block, hblock, rfl⟩)
      simp only [Edit.insert, hstart, size_append] at this
      omega
    | insert e he front back hw hfront hat =>
      obtain ⟨block', hblock', rfl⟩ := List.mem_map.1 he
      obtain ⟨m', hm', a', w', b', hsits', hstart', hbinding'⟩ := exists_sits_of_mem hblock'
      have hat : m'.span.stop = size (pre ++ front) := hstart'.symm.trans hat
      obtain rfl : m = m' := by
        have hlt' := (hlists.le_start absorbs_catchPattern.solid hm').2
        have hpos' := size_pos hfront
        refine absorbs_catchPattern.eq_of_mem hm hm' (n := m'.span.stop) ?_ ⟨hlt', Nat.le_refl _⟩
        rw [hat, hsits.span_eq, hw]
        simp only [size_append]
        omega
      obtain ⟨rfl, rfl, rfl⟩ := hsits.unique hsits'
      obtain rfl : back = [] := by
        rw [hsits.span_eq, hw] at hat
        simp only [size_append] at hat
        exact size_eq_zero.1 (by omega)
      rw [List.append_nil] at hw
      subst hw
      refine ⟨w, guardLine (margin block') (bindingOf w), ?_, ?_,
        ⟨rfl, margin block', rfl, hmargin _ hblock', hword⟩, ?_⟩
      · rw [List.append_nil, ← hbinding']
        rfl
      · exact brace_not_mem_guardLine (hmargin _ hblock') hword
      · intro pre' after _ hlen
        exact definite_catchPattern.takes rfl hadmits hlen
  · exact List.pairwise_map.2 ((pairwise_catchBlocks t).imp Nat.ne_of_lt)
  · intro e he
    obtain ⟨block, hblock, rfl⟩ := List.mem_map.1 he
    obtain ⟨m, hm, -, -, -, -, hstart, -⟩ := exists_sits_of_mem hblock
    exact ⟨rfl, m, hm, hstart, (hlists.le_start absorbs_catchPattern.solid hm).2, Nat.le_refl _⟩

/-! ### The guards that are found -/

/-- A guard without blanks, up to its parenthesis. -/
def guardTest : Text := "instanceofResponse".toList

section Found

variable {last next : Option Char} {v r : Text}

theorem condense_guard (h : guardPattern.Spells last v next) : condense v = guardTest ++ ')' :: "return".toList := by
  have hforms : guardPattern.forms? = some [guardTest ++ ')' :: "return".toList] := by decide
  exact List.mem_singleton.1 (h.condense_mem hforms)

theorem head?_guard (h : guardPattern.Spells last v next) : v.head? = some 'i' := by
  obtain ⟨s, rfl⟩ := h.leading_isPrefix
  rfl

theorem paren_mem_guard (h : guardPattern.Spells last v next) : ')' ∈ v := by
  have hin : [')'] <:+: v := h.infix_of_mem_fixedParts (by decide)
  exact hin.subset (by simp)

theorem mem_of_mem_condense {c : Char} {s : Text} (h : c ∈ condense s) (hc : c ≠ '\'') : c ∈ s := by
  obtain ⟨d, hd, rfl⟩ := List.mem_map.1 h
  split_ifs at hc ⊢
  · exact absurd rfl hc
  · exact List.mem_of_mem_filter hd

theorem guard_unique {v' r' : Text} {last' next' : Option Char} (h : guardPattern.Spells last v next)
    (h' : guardPattern.Spells last' v' next') (heq : v ++ r = v' ++ r') : v = v' := by
  -- they are the same without their blanks, and end with a letter
  have hlonger : ∀ {x z : Text} {last last' next next' : Option Char}, guardPattern.Spells last x next →
      guardPattern.Spells last' (x ++ z) next' → z = [] := by
    intro x z last last' next next' hx hxz
    have hz : condense z = [] := by
      have hsame := condense_guard hxz
      rw [condense_append, condense_guard hx] at hsame
      exact List.append_cancel_left (hsame.trans (List.append_nil _).symm)
    rcases List.eq_nil_or_concat' z with rfl | ⟨z, c, rfl⟩
    · rfl
    · have hlast := hxz.getLast?_eq (c := 'n') (by decide)
      rw [← List.append_assoc, List.getLast?_concat] at hlast
      obtain rfl := Option.some.inj hlast
      have hn : 'n' ∈ condense (z ++ ['n']) := mem_condense (by simp) (by decide) (by decide)
      rw [hz] at hn
      cases hn
  rcases List.append_eq_append_iff.1 heq with ⟨z, rfl, -⟩ | ⟨z, rfl, -⟩
  · rw [hlonger h h', List.append_nil]
  · rw [hlonger h' h, List.append_nil]

theorem guard_of_overlap {s R : Text} (h : guardPattern.Spells last v next) (hs : ')' ∉ s)
    (heq : v ++ r = s ++ (guardWords ++ R)) : s = [] := by
  have hwords : condense guardWords = guardTest ++ ')' :: "return".toList := by decide
  have hcond := congrArg condense heq
  simp only [condense_append, condense_guard h, hwords, List.append_assoc, List.cons_append] at hcond
  rw [← List.append_assoc] at hcond
  have hparen : ')' ∉ guardTest := by decide
  have hnot : ∀ d ∈ guardTest, (d == ')') = false := by
    intro d hd
    refine beq_false_of_ne ?_
    rintro rfl
    exact hparen hd
  have hnot' : ∀ d ∈ condense s ++ guardTest, (d == ')') = false := by
    intro d hd
    rcases List.mem_append.1 hd with hd | hd
    · refine beq_false_of_ne ?_
      rintro rfl
      exact hs (mem_of_mem_condense hd (by decide))
    · exact hnot d hd
  obtain ⟨hsame, -, -⟩ := append_cons_inj (P := (· == ')')) hnot hnot' rfl rfl hcond
  have hnil : condense s = [] := by simpa using hsame
  cases s with
  | nil => rfl
  | cons c s =>
    have hhead := congrArg List.head? heq
    rw [List.head?_append, head?_guard h] at hhead
    obtain rfl : c = 'i' := by simpa using hhead.symm
    have hi : 'i' ∈ condense ('i' :: s) := mem_condense (by simp) (by decide) (by decide)
    rw [hnil] at hi
    cases hi

end Found

section Count

variable {done rest done' out : Text} {ms ms' : List Match} {bound bound' : Nat}

theorem absent_guard_move {x : Text} (h : guardPattern.Absent done x) (done' : Text) : guardPattern.Absent done' x := by
  intro a w b hsplit ho
  exact h a w b hsplit (Spells.change_last ho (by decide) _)

/-- The first guard behind the head `x ++ '{' :: z` is the new one. -/
theorem le_length_of_guard {x z b m binding R a v r : Text} (habsent : guardPattern.Absent done (x ++ '{' :: b))
    (hz : ∀ c ∈ z, isBlank c = true) (hm : ∀ c ∈ m, isMargin c = true)
    (hword : ∀ c ∈ binding, Unicode.isWord c = true ∨ c = '$')
    (hout : x ++ '{' :: (z ++ m ++ ['i', 'f', ' '] ++ '(' :: (binding ++ [' '] ++ (guardWords ++ R))) = a ++ (v ++ r))
    (hv : guardPattern.Occurs (done ++ a) v r) :
    (x ++ '{' :: (z ++ m ++ ['i', 'f', ' '] ++ '(' :: (binding ++ [' ']))).length ≤ a.length := by
  have hparen := paren_mem_guard hv
  rcases front_or_behind (hv.not_mem_of_avoids (by decide)) hout with ⟨s, rfl, rfl⟩ | ⟨a₁, rfl, hback⟩
  · -- in front of the brace it was there before
    refine absurd ?_ (habsent a v (s ++ '{' :: b) (by simp))
    show guardPattern.Spells _ v _
    rw [List.head?_append]
    rwa [Occurs, List.head?_append] at hv
  rcases front_or_behind (hv.not_mem_of_avoids (by decide)) hback with ⟨s, hs, -⟩ | ⟨a₂, rfl, hbinding⟩
  · have hmem : ')' ∈ z ++ m ++ ['i', 'f', ' '] := by
      rw [hs]
      simp [hparen]
    simp only [List.mem_append] at hmem
    rcases hmem with (hmem | hmem) | hmem
    · exact absurd (hz _ hmem) (by decide)
    · exact absurd (hm _ hmem) (by decide)
    · exact absurd hmem (by decide)
  rcases List.append_eq_append_iff.1 hbinding with ⟨a₃, rfl, -⟩ | ⟨s, hs, hv'⟩
  · simp only [List.length_append, List.length_cons]
    omega
  · -- inside the binding it would have to be longer than a guard is
    have hnot : ')' ∉ s := by
      intro hmem
      have : ')' ∈ binding ++ [' '] := by rw [hs]; exact List.mem_append_right _ hmem
      rcases List.mem_append.1 this with hmem | hmem
      · exact not_mem_binding hword (by decide) (by decide) hmem
      · exact absurd hmem (by decide)
    obtain rfl := guard_of_overlap hv hnot hv'
    rw [List.append_nil] at hs
    rw [hs]

theorem not_guard_of_guardLine {binding x y z w b rest : Text} {a : Text}
    (hword : ∀ c ∈ binding, Unicode.isWord c = true ∨ c = '$') (hx : x = ' ' :: binding ++ ';' :: ['\n'])
    (hxy : x = y ++ z) (hz : z ≠ []) (hsplit : z ++ rest = w ++ b) : ¬ guardPattern.Occurs a w b := by
  intro hw
  have hall : ' ' :: binding ++ ';' :: ('\n' :: rest) = y ++ (w ++ b) := by
    rw [← hsplit, ← List.append_assoc, ← hxy, hx]
    simp
  rcases front_or_behind (hw.not_mem_of_avoids (by decide)) hall with ⟨s, hs, -⟩ | ⟨y', rfl, hback⟩
  · have hmem : ')' ∈ ' ' :: binding := by
      rw [hs]
      simp [paren_mem_guard hw]
    rcases List.mem_cons.1 hmem with hmem | hmem
    · cases hmem
    · exact not_mem_binding hword (by decide) (by decide) hmem
  · -- only the newline is left, and no guard starts with it
    have hline : y' ++ z = ['\n'] := by
      rw [hx, List.append_assoc] at hxy
      exact (List.cons.inj (List.append_cancel_left hxy)).2.symm
    rcases List.append_eq_singleton_iff.1 hline with ⟨rfl, -⟩ | ⟨-, rfl⟩
    · have hhead := congrArg List.head? hback
      rw [List.nil_append, List.head?_append, head?_guard hw] at hhead
      cases hhead
    · exact hz rfl

/-- The guards that are found are the new ones. -/
theorem exists_guards (h : Aligned catchPattern '}' bound bound' Guarded done rest ms done' out ms')
    (habsent : guardPattern.Absent done rest) (hlen : out.length ≤ bound') :
    ∃ gs, Lists guardPattern bound' done' out gs ∧ gs.length = ms'.length := by
  induction h with
  | nil => exact ⟨[], .nil (absent_guard_move habsent _), rfl⟩
  | @cons done rest done' out a w b new tail stop stop' ms ms' h h' hnew _ _ ih =>
    obtain ⟨rfl, m, rfl, hm, hword⟩ := hnew
    generalize bindingOf new = binding at hword hlen h' ih ⊢
    have hback : guardPattern.Absent (done ++ a ++ new) b := by
      intro a' w' b' hsplit
      have := habsent (a ++ new ++ a') w' b' (by rw [h.rest_eq, hsplit]; simp)
      rwa [← List.append_assoc, ← List.append_assoc] at this
    simp only [List.length_append] at hlen
    obtain ⟨gs, hgs, hcount⟩ := ih hback (by omega)
    obtain ⟨x, z, rfl, hz⟩ := exists_brace_blanks ((spells_iff_admits rfl).1 h.occurs)
    -- the head, the new guard up to its words, and what follows them
    have hout : a ++ (x ++ '{' :: z ++ (guardLine m binding ++ out)) =
        (a ++ x) ++ '{' :: (z ++ m ++ ['i', 'f', ' '] ++ '(' :: (binding ++ [' '])) ++
          (guardWords ++ (' ' :: binding ++ ';' :: ['\n'] ++ out)) := by
      rw [guardLine_eq, guardTail]
      simp
    have hhead : guardPattern.Absent done' (a ++ x ++ '{' :: (z ++ b)) := by
      rw [h.rest_eq] at habsent
      have hold : guardPattern.Absent done (a ++ x ++ '{' :: (z ++ b)) := by simpa using habsent
      exact absent_guard_move hold _
    obtain ⟨stop, hstop, hrest⟩ : guardPattern.Takes bound'
        (done' ++ (a ++ x ++ '{' :: (z ++ m ++ ['i', 'f', ' '] ++ '(' :: (binding ++ [' '])))) guardWords
        (' ' :: binding ++ ';' :: ['\n'] ++ out) := by
      refine takes_of_unique (guardPattern_spells _) ?_ ?_
      · intro w' b' heq hw'
        obtain rfl := guard_unique (guardPattern_spells none) hw' heq
        exact (List.append_cancel_left heq).symm
      · have := congrArg List.length hout
        simp only [List.length_append, List.length_cons] at this hlen ⊢
        omega
    obtain ⟨hreach, -⟩ := reaches_of_mem_ends (List.mem_of_head? hstop) hrest
    rw [hout]
    refine ⟨_ :: gs, .cons ⟨rfl, hreach, hstop, ?_⟩ (Lists.skip ?_ ?_), by simp [hcount]⟩
    · intro a' w' b' hsplit hw'
      refine le_length_of_guard (R := ' ' :: binding ++ ';' :: ['\n'] ++ out) hhead hz hm hword ?_ hw'
      rw [← hsplit]
      simp
    · have hdone : done' ++ a ++ (x ++ '{' :: z) ++ guardLine m binding =
          done' ++ (a ++ x ++ '{' :: (z ++ m ++ ['i', 'f', ' '] ++ '(' :: (binding ++ [' ']))) ++ guardWords ++
            (' ' :: binding ++ ';' :: ['\n']) := by
        rw [guardLine_eq, guardTail]
        simp
      rwa [hdone] at hgs
    · intro y z' hy hz' w' b' hsplit
      exact not_guard_of_guardLine hword rfl hy hz' hsplit

/-- Deleting the line behind each head takes the guards out again. -/
theorem spliced_unguard (h : Aligned catchPattern '}' bound bound' Guarded done rest ms done' out ms') {u : Text}
    (hu : u = done' ++ out) : Edit.Spliced (size done') out
      (ms'.map fun m => .delete m.span.stop ((u.lineEnd m.span.stop).getD m.span.stop)) rest := by
  induction h with
  | nil => exact .nil _ _
  | @cons done rest done' out a w b new tail stop stop' ms ms' h h' hnew _ _ ih =>
    have hspan := h'.sits.span_eq
    obtain ⟨rfl, m, rfl, hm, hword⟩ := hnew
    have hline : u.lineEnd (size (done' ++ a ++ new)) =
        some (size (done' ++ a ++ new ++ guardLine m (bindingOf new))) := by
      have hcut : u = done' ++ a ++ new ++ (guardLine m (bindingOf new) ++ out) := by rw [hu]; simp
      rw [hcut, lineEnd_append, firstLine_guardLine hm hword]
    have ih := ih (by rw [hu]; simp)
    rw [List.map_cons, hspan, hline, h.rest_eq]
    rw [size_append _ (guardLine _ _), List.append_assoc done', size_append done'] at ih ⊢
    have hspliced := Edit.Spliced.cons (a ++ new) (guardLine m (bindingOf new)) [] ih
    simpa [Edit.delete] using hspliced

end Count

theorem map_bodyStart (t : Text) :
    (catchBlocks t).map (·.bodyStart) = (catchPattern.findAll t).map (·.span.stop) := by
  rw [catchBlocks_eq, List.map_filterMap, ← List.filterMap_eq_map]
  refine List.filterMap_congr ?_
  intro m hm
  obtain ⟨a, w, b, hsits⟩ := absorbs_catchPattern.solid.exists_sits hm
  obtain ⟨brace, hblock⟩ := catchBlock_of_sits hsits
  rw [hblock, Option.map_some, Function.comp_apply, hsits.span_eq]

/-- The text at the start of the block is its guard. -/
def HasGuard (t : Text) (block : CatchBlock) : Prop :=
  ∃ pre margin post, t = pre ++ (margin ++ Canonical.responseGuard block.binding ++ '\n' :: post) ∧
    size pre = block.bodyStart ∧ ∀ c ∈ margin, isMargin c = true

/-- The blocks of the new text are those of the old one, each with its guard. -/
theorem forall₂_catchBlocks {t u : Text} {bound bound' : Nat} (h : Aligned catchPattern '}' bound bound' Guarded [] t
    (catchPattern.findAll t) [] u (catchPattern.findAll u)) :
    List.Forall₂ (fun block block' => block'.binding = block.binding ∧ HasGuard u block') (catchBlocks t)
      (catchBlocks u) := by
  have hmatches := h.forall₂
  rw [List.nil_append, List.nil_append] at hmatches
  rw [catchBlocks_eq, catchBlocks_eq]
  refine List.rel_filterMap ?_ hmatches
  rintro m m' ⟨a, w, b, a', _, _, b', hsits, hsits', rfl, margin, rfl, hmargin, -⟩
  obtain ⟨brace, hblock⟩ := catchBlock_of_sits hsits
  obtain ⟨brace', hblock'⟩ := catchBlock_of_sits hsits'
  rw [hblock, hblock']
  refine .some ⟨rfl, _, margin, b', ?_, rfl, hmargin⟩
  rw [hsits'.text_eq, guardLine]
  simp

end HandlerMigration.Shape

namespace HandlerMigration.Migration

open Text Pattern Shape

variable {ctx : Context} {t u : Text} {o : Output}

theorem exists_guardEdits (h : guardCatches ctx t = .ok o) (hu : o.text? = some u) :
    (ctx.policy.requiresAuth = true ∧ responseGuard? t = none ∧ catchBlocks t ≠ []) ∧
      ∃ margin : CatchBlock → Text, (∀ block ∈ catchBlocks t, ∀ c ∈ margin block, isMargin c = true) ∧
        Edit.applyAll t (guardEdits margin t) = .ok u := by
  obtain ⟨margin, hmargin⟩ := exists_margins t
  have hedits : (catchBlocks t).mapM (catchGuard t) = .ok (guardEdits margin t) :=
    mapM_eq_map fun block hblock => (hmargin block hblock).1
  unfold guardCatches at h
  split_ifs at h with hauth hguard
  · cases h
    cases hu
  · cases h
    cases hu
  · dsimp only at h
    split_ifs at h with hblocks
    · cases h
      cases hu
    · obtain ⟨edits, hedits', h⟩ := bind_eq_ok h
      obtain rfl := Except.ok.inj (hedits.symm.trans hedits')
      obtain ⟨u', hu', h⟩ := bind_eq_ok h
      cases h
      cases hu
      refine ⟨⟨by simpa using hauth, by simpa using hguard, by simpa using hblocks⟩, margin, ?_, hu'⟩
      intro block hblock
      exact (hmargin block hblock).2

/-- Where authentication is asked for and no guard is in place, the step guards every catch block once and with the
binding of that block, and does nothing else: taking the line behind each head out gives the old text. -/
theorem guardCatches_guards_each_once (ctx : Context) (t : Text) : ∃ o, guardCatches ctx t = .ok o ∧
    (o.text?.isSome = true ↔ ctx.policy.requiresAuth = true ∧ responseGuard? t = none ∧ catchBlocks t ≠ []) ∧
    ∀ u, o.text? = some u →
      (catchBlocks u).map (·.binding) = (catchBlocks t).map (·.binding) ∧
      (∀ block ∈ catchBlocks u, HasGuard u block) ∧
      (guardPattern.findAll u).length = (catchBlocks u).length ∧
      Edit.applyAll u ((catchBlocks u).map fun block =>
        .delete block.bodyStart ((u.lineEnd block.bodyStart).getD block.bodyStart)) = .ok t := by
  obtain ⟨o, ho⟩ := exists_guardCatches ctx t
  refine ⟨o, ho, ⟨?_, ?_⟩, ?_⟩
  · intro hsome
    obtain ⟨u, hu⟩ := Option.isSome_iff_exists.1 hsome
    exact (exists_guardEdits ho hu).1
  · rintro ⟨hauth, hguard, hblocks⟩
    rcases guardCatches_cases ho with ⟨-, -, hfree | hguard' | ⟨hnil, -⟩⟩ | ⟨-, u, hu, -⟩
    · rw [hauth] at hfree
      cases hfree
    · rw [hguard] at hguard'
      cases hguard'
    · exact absurd hnil hblocks
    · rw [hu]
      rfl
  · intro u hu
    obtain ⟨⟨-, hguard, -⟩, margin, hmargin, hedits⟩ := exists_guardEdits ho hu
    have haligned := aligned_guards hmargin hedits
    have hblocks := forall₂_catchBlocks haligned
    refine ⟨?_, ?_, ?_, ?_⟩
    · refine List.forall₂_eq_eq_eq.le _ _ (List.forall₂_map_left_iff.2 (List.forall₂_map_right_iff.2 ?_))
      exact (hblocks.imp fun _ _ h => h.1).flip
    · have hright := hblocks.flip.imp (fun block' block (h : _ ∧ HasGuard u block') => And.intro h.2 h.1)
      exact ((List.forall₂_and_left _ _).1 hright).1
    · have habsent : guardPattern.Absent [] t := find?_eq_none_iff.1 (Option.map_eq_none_iff.1 hguard)
      obtain ⟨gs, hgs, hcount⟩ := exists_guards haligned habsent (Nat.le_refl _)
      have hsolid : guardPattern.Solid := solid_of_leading (by decide)
      rw [← hgs.unique (hsolid.lists_findAll u), hcount]
      have hlen := congrArg List.length (map_bodyStart u)
      rw [List.length_map, List.length_map] at hlen
      exact hlen.symm
    · refine Edit.applyAll_eq_ok_iff.2 ?_
      rw [Edit.sort_eq (List.Perm.refl _) (List.pairwise_map.2 (pairwise_catchBlocks u))]
      have hmap := congrArg (List.map fun n => Edit.delete n ((u.lineEnd n).getD n)) (map_bodyStart u)
      rw [List.map_map, List.map_map] at hmap
      exact hmap ▸ spliced_unguard haligned rfl

/-- Two heads one behind the other. The type annotation of the second looks like a head itself. -/
def nestedHeads : Text := "\x7d catch (e) \x7b\n\x7d catch (err: A\n\x7d catch (x) \x7b\n\tgo()".toList

set_option maxRecDepth 20000 in
theorem guardCatches_guards_each_once_nestedHeads :
    ∃ o u, guardCatches ⟨"f", .plainAuth, ⟨.empty, .empty⟩⟩ nestedHeads = .ok o ∧ o.text? = some u ∧
      (catchBlocks u).map (·.binding) = [['e'], ['e', 'r', 'r']] ∧ (∀ block ∈ catchBlocks u, HasGuard u block) ∧
      (guardPattern.findAll u).length = 2 := by
  obtain ⟨hguard, hbindings⟩ : responseGuard? nestedHeads = none ∧
      (catchBlocks nestedHeads).map (·.binding) = [['e'], ['e', 'r', 'r']] := by
    decide +kernel
  obtain ⟨o, ho, hnew, hguards⟩ := guardCatches_guards_each_once ⟨"f", .plainAuth, ⟨.empty, .empty⟩⟩ nestedHeads
  have hblocks : catchBlocks nestedHeads ≠ [] := by
    intro hnil
    rw [hnil] at hbindings
    cases hbindings
  obtain ⟨u, hu⟩ := Option.isSome_iff_exists.1 (hnew.2 ⟨rfl, hguard, hblocks⟩)
  obtain ⟨hsame, heach, hcount, -⟩ := hguards u hu
  have hlen := congrArg List.length (hsame.trans hbindings)
  rw [List.length_map] at hlen
  exact ⟨o, u, ho, hu, hsame.trans hbindings, heach, hcount.trans hlen⟩

end HandlerMigration.Migration
