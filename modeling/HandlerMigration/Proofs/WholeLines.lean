import HandlerMigration.Proofs.Outline
import HandlerMigration.Shape.Basic
import HandlerMigration.Text.Edit
import Mathlib.Data.List.TakeWhile

/-!
# Pieces that are whole lines

A pattern that opens a line has its pieces only at the start of one (`Spells.start_of_opensLine`). Its end
is a matter of preference: the end of a line is admitted with its line break and without, and the matcher
tries the line break first (`closesLine_alt`). A match of a pattern with both is whole lines
(`wholeLines_of_head?`), and so is what is deleted with them (`exists_deleteLines`). Whether a line ends can be
seen from the text behind it (`endsLine`).
-/

namespace HandlerMigration

open Text

namespace Text

theorem firstLine_append {x : Text} (hx : '\n' ∉ x) (r : Text) : firstLine (x ++ r) = x ++ firstLine r := by
  induction x with
  | nil => rfl
  | cons c x ih =>
    obtain ⟨hc, hx⟩ := not_or.1 (List.mem_cons.not.1 hx)
    rw [List.cons_append, firstLine, if_neg (Ne.symm hc), ih hx, List.cons_append]

theorem firstLine_newline (r : Text) : firstLine ('\n' :: r) = ['\n'] := rfl

theorem firstLine_isPrefix (t : Text) : firstLine t <+: t := by
  induction t with
  | nil => exact List.nil_prefix
  | cons c t ih =>
    rw [firstLine]
    split_ifs
    · exact ⟨t, rfl⟩
    · exact List.cons_prefix_cons.2 ⟨rfl, ih⟩

theorem exists_dropEndWhile (P : Char → Bool) (t : Text) : ∃ d, t = t.dropEndWhile P ++ d ∧ ∀ c ∈ d, P c = true := by
  refine ⟨(t.reverse.takeWhile P).reverse, ?_, ?_⟩
  · rw [dropEndWhile, ← List.reverse_append, List.takeWhile_append_dropWhile, List.reverse_reverse]
  · intro c hc
    exact List.mem_takeWhile_imp (List.mem_reverse.1 hc)

theorem lineEnd_append (a b : Text) : (a ++ b).lineEnd (size a) = some (size (a ++ firstLine b)) := by
  rw [lineEnd, cut_append, Option.map_some, size_append]

/-- Whether a line ends in front of the text: the text is empty, or it starts with a line break. -/
def endsLine : Text → Bool
  | [] => true
  | '\n' :: _ => true
  | '\r' :: '\n' :: _ => true
  | _ => false

theorem endsLine_append {q : Text} (hq : q.getLast? = some '\n') (r : Text) : endsLine (q ++ r) = endsLine q := by
  match q with
  | [] => cases hq
  | [c] =>
    obtain rfl : c = '\n' := Option.some.inj hq
    rfl
  | c :: d :: q =>
    simp only [List.cons_append]
    unfold endsLine
    split <;> simp_all

theorem dropWhile_isMargin {y v : Text} (hy : ∀ c ∈ y, isMargin c = true) (hv : endsLine v = true) :
    (y ++ v).dropWhile isMargin = v := by
  rw [List.dropWhile_append_of_pos hy]
  unfold endsLine at hv
  split at hv
  · rfl
  · exact List.dropWhile_cons_of_neg (by decide)
  · exact List.dropWhile_cons_of_neg (by decide)
  · cases hv

end Text

/-- `lines` are whole lines between `pre` and `post`. -/
structure WholeLines (pre lines post : Text) : Prop where
  start : pre = [] ∨ pre.getLast? = some '\n'
  stop : post = [] ∨ lines.getLast? = some '\n'

namespace Pattern

open Piece

variable {p q : Pattern} {bound : Nat} {cur stop : Cursor} {a w b : Text}

/-- Whether it can be seen from the pattern that its pieces stand at the start of a line. -/
def opensLine : Pattern → Bool
  | look .lineStart => true
  | seq p _ => p.opensLine
  | group _ p => p.opensLine
  | _ => false

theorem Spells.start_of_opensLine {last next : Option Char} (h : p.Spells last w next) (hp : p.opensLine = true) :
    last = none ∨ last = some '\n' := by
  fun_induction opensLine p generalizing last w next with
  | case1 =>
    obtain ⟨-, hb⟩ := h
    simpa [Boundary.holds] using hb
  | case2 p q ih =>
    obtain ⟨u, v, -, hu, -⟩ := h
    exact ih hu hp
  | case3 i p ih => exact ih h hp
  | case4 => cases hp

/-- The preferred piece ends with a newline or with the text. -/
def ClosesLine (p : Pattern) : Prop :=
  ∀ bound cur stop, (p.ends bound cur).head? = some stop → stop.last = some '\n' ∨ stop.rest = []

/-- The preferred end of two parts is the preferred end of the second one at some end of the first. -/
theorem head?_ends_append (h : ((p ++ q).ends bound cur).head? = some stop) :
    ∃ mid ∈ p.ends bound cur, (q.ends bound mid).head? = some stop := by
  have hends : (p ++ q).ends bound cur = (p.ends bound cur).flatMap (q.ends bound) := rfl
  rw [hends, List.head?_flatMap] at h
  exact List.exists_of_findSome?_eq_some h

theorem ClosesLine.append (h : q.ClosesLine) : (p ++ q).ClosesLine := by
  intro bound cur stop hstop
  obtain ⟨mid, -, hmid⟩ := head?_ends_append hstop
  exact h bound mid stop hmid

/-- A line break that could be taken is taken. -/
theorem closesLine_alt {edge : Boundary}
    (hedge : ∀ last next, edge.holds last next = true → next = none ∨ next = some '\n') :
    (alt lineBreak (look edge)).ClosesLine := by
  intro bound cur stop h
  have hends : (alt lineBreak (look edge)).ends bound cur = lineBreak.ends bound cur ++ (look edge).ends bound cur := rfl
  rw [hends, List.head?_append] at h
  cases hbreak : (lineBreak.ends bound cur).head? with
  | some stop' =>
    rw [hbreak, Option.some_or] at h
    cases h
    obtain ⟨w, hreach, hspells⟩ := mem_ends (List.mem_of_head? hbreak)
    rw [hreach.last, hspells.getLast?_eq rfl]
    exact .inl rfl
  | none =>
    rw [hbreak, Option.none_or] at h
    have hmem := List.mem_of_head? h
    simp only [ends] at hmem
    split_ifs at hmem with hb
    · cases List.mem_singleton.1 hmem
      rcases hedge _ _ hb with hend | hnewline
      · exact .inr (List.head?_eq_none_iff.1 hend)
      · exfalso
        obtain ⟨r, hr⟩ := List.head?_eq_some_iff.1 hnewline
        obtain ⟨next, hnext⟩ := Cursor.exists_skip? (s := "\n".toList) hr
        have hstay : cur ∈ (opt (text "\r")).ends bound cur := List.mem_append_right _ (List.mem_singleton_self _)
        have htaken : next ∈ lineBreak.ends bound cur := mem_ends_append.2 ⟨cur, hstay, Option.mem_toList.2 hnext⟩
        rw [List.head?_eq_none_iff.1 hbreak] at htaken
        cases htaken
    · cases hmem

theorem closesLine_lineEnd : lineEnd.ClosesLine :=
  closesLine_alt fun last next h => by simpa [Boundary.holds] using h

theorem closesLine_statementEnd : statementEnd.ClosesLine := closesLine_lineEnd.append

/-! ### The margin and the end of a line -/

section Parts

variable {last next : Option Char} {m z v : Text}

theorem margin_spells_iff : Piece.margin.Spells last m next ↔ ∀ c ∈ m, isMargin c = true := by
  have hset : ∀ c, CharSet.has (.chars [' ', '\t']) c = isMargin c := fun c => by
    simp [CharSet.has, isMargin, Bool.beq_eq_decide_eq]
  simp only [Piece.margin, manyOf, Spells, hset]
  simp

theorem lineEnd_spells_iff : lineEnd.Spells last z next ↔
    z = ['\n'] ∨ z = ['\r', '\n'] ∨ z = [] ∧ (next = none ∨ next = some '\n') := by
  constructor
  · rintro (⟨_, _, rfl, rfl | rfl, rfl⟩ | ⟨rfl, hend⟩)
    · exact .inr (.inl rfl)
    · exact .inl rfl
    · exact .inr (.inr ⟨rfl, by simpa [Boundary.holds] using hend⟩)
  · rintro (rfl | rfl | ⟨rfl, hend⟩)
    · exact .inl ⟨[], ['\n'], rfl, .inr rfl, rfl⟩
    · exact .inl ⟨['\r'], ['\n'], rfl, .inl rfl, rfl⟩
    · exact .inr ⟨rfl, by simpa [Boundary.holds] using hend⟩

theorem newline_not_mem_dropLast (hv : '\n' ∉ v) (h : lineEnd.Spells last z next) : '\n' ∉ (v ++ z).dropLast := by
  rcases lineEnd_spells_iff.1 h with rfl | rfl | ⟨rfl, -⟩
  · rwa [List.dropLast_concat]
  · rw [List.append_cons, List.dropLast_concat]
    simpa using hv
  · rw [List.append_nil]
    exact fun hmem => hv ((List.dropLast_prefix _).subset hmem)

theorem endsLine_of_lineEnd (h : lineEnd.Spells last z v.head?) : endsLine (z ++ v) = true := by
  rcases lineEnd_spells_iff.1 h with rfl | rfl | ⟨rfl, hv⟩
  · rfl
  · rfl
  · rcases hv with hv | hv
    · rw [List.head?_eq_none_iff.1 hv]
      rfl
    · obtain ⟨r, rfl⟩ := List.head?_eq_some_iff.1 hv
      rfl

theorem exists_lineEnd (h : endsLine v = true) :
    ∃ z b, v = z ++ b ∧ (b = [] ∨ z.getLast? = some '\n') ∧ ∀ last, lineEnd.Spells last z b.head? := by
  unfold endsLine at h
  split at h
  · exact ⟨[], [], rfl, .inl rfl, fun last => lineEnd_spells_iff.2 (.inr (.inr ⟨rfl, .inl rfl⟩))⟩
  · next r => exact ⟨['\n'], r, rfl, .inr rfl, fun last => lineEnd_spells_iff.2 (.inl rfl)⟩
  · next r => exact ⟨['\r', '\n'], r, rfl, .inr rfl, fun last => lineEnd_spells_iff.2 (.inr (.inl rfl))⟩
  · cases h

end Parts

theorem Occurs.start_of_opensLine (ho : p.Occurs a w b) (hopen : p.opensLine = true) :
    a = [] ∨ a.getLast? = some '\n' := by
  rcases Spells.start_of_opensLine ho hopen with hnone | hnewline
  · exact .inl (List.getLast?_eq_none_iff.1 hnone)
  · exact .inr hnewline

/-- A match of a pattern that opens a line and closes one is whole lines. -/
theorem wholeLines_of_head? (hopen : p.opensLine = true) (hclose : p.ClosesLine) (hsolid : p.Solid)
    (ho : p.Occurs a w b) (h : (p.ends bound (.behind a (w ++ b))).head? = some stop) (hrest : stop.rest = b) :
    WholeLines a w b := by
  subst hrest
  refine ⟨Occurs.start_of_opensLine ho hopen, ?_⟩
  obtain ⟨w', hreach, -⟩ := mem_ends (List.mem_of_head? h)
  have hw : w ++ stop.rest = w' ++ stop.rest := hreach.rest
  obtain rfl := List.append_cancel_right hw
  rcases hclose _ _ _ h with hlast | hend
  · have hne := hsolid _ _ _ ho
    rw [hreach.last, List.getLast?_eq_some_getLast hne, Option.some_or] at hlast
    exact .inr (by rw [List.getLast?_eq_some_getLast hne, hlast])
  · exact .inl hend

end Pattern

/-! ### Deleted lines -/

theorem exists_blankLine (t : Text) :
    ∃ blank rest, t = blank ++ rest ∧ size blank = Edit.blankLine t ∧
      (blank = [] ∨ blank = ['\n'] ∨ blank = ['\r', '\n']) := by
  fun_cases Edit.blankLine t with
  | case1 rest => exact ⟨['\n'], rest, rfl, rfl, .inr (.inl rfl)⟩
  | case2 rest => exact ⟨['\r', '\n'], rest, rfl, rfl, .inr (.inr rfl)⟩
  | case3 => exact ⟨[], t, rfl, rfl, .inl rfl⟩

theorem eq_of_mem_blank {blank : Text} (h : blank = [] ∨ blank = ['\n'] ∨ blank = ['\r', '\n']) :
    ∀ c ∈ blank, c = '\n' ∨ c = '\r' := by
  rcases h with rfl | rfl | rfl <;> simp

theorem deleteLines_append (pre lines post : Text) :
    Edit.deleteLines (pre ++ (lines ++ post)) (size pre) (size (pre ++ lines)) =
      some (.delete (size pre) (size (pre ++ lines) + if Edit.leavesBlank pre then Edit.blankLine post else 0)) := by
  have hstart : (pre ++ (lines ++ post)).cut (size pre) = some (pre, lines ++ post) := cut_append _ _
  have hstop : (pre ++ (lines ++ post)).cut (size (pre ++ lines)) = some (pre ++ lines, post) :=
    cut_eq_some_iff.2 ⟨by simp, rfl⟩
  rw [Edit.deleteLines, hstart, hstop]

/-- Whole lines can be deleted, and with the blank line that may go with them they are whole lines. -/
theorem exists_deleteLines {pre lines post : Text} (h : WholeLines pre lines post) :
    ∃ blank rest, post = blank ++ rest ∧ (blank = [] ∨ blank = ['\n'] ∨ blank = ['\r', '\n']) ∧
      WholeLines pre (lines ++ blank) rest ∧
      Edit.deleteLines (pre ++ (lines ++ post)) (size pre) (size (pre ++ lines)) =
        some (.delete (size pre) (size (pre ++ (lines ++ blank)))) := by
  rw [deleteLines_append]
  by_cases hblank : Edit.leavesBlank pre = true
  · obtain ⟨blank, rest, hpost, hsize, hcases⟩ := exists_blankLine post
    refine ⟨blank, rest, hpost, hcases, ⟨h.start, ?_⟩, ?_⟩
    · rcases hcases with rfl | rfl | rfl
      · rw [List.append_nil]
        rw [List.nil_append] at hpost
        exact hpost ▸ h.stop
      · exact .inr (by simp)
      · exact .inr (by simp)
    · simp only [hblank, ↓reduceIte, ← hsize, size_append, Nat.add_assoc]
  · refine ⟨[], post, rfl, .inl rfl, ⟨h.start, by rw [List.append_nil]; exact h.stop⟩, ?_⟩
    simp [hblank]

end HandlerMigration
