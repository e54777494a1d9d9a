import Mathlib.Data.List.Basic
import HandlerMigration.Migration.Requests
import HandlerMigration.Proofs.HeaderSites
import HandlerMigration.Proofs.WholeLines

/-!
# Lines that read the origin

Such a line has a margin, a statement and, behind it, nothing but spaces (`ReadsOrigin`); the statement is a
call and then, maybe, a semicolon. The list of these lines has every one of them, one behind the other
(`exists_mem_originLines`, `pairwise_originLines`). Main statement: where the text reads on as the canonical
statement does, the statement is the canonical one (`eq_originStatement`), so that to replace any other one is
a change.
-/

namespace HandlerMigration.Shape

open Pattern Piece
open Text (size size_append size_pos slice_append)

/-- A statement that reads the origin, up to its closing parenthesis. -/
def originCallPattern : Pattern :=
  text "const" ++ someBlanks ++ text "origin" ++ blanks ++ text "=" ++ blanks ++
  text "req.headers.get(" ++ blanks ++
  alt (text "'" ++ originWord ++ text "'") (text "\"" ++ originWord ++ text "\"") ++ blanks ++ text ")"

def originStatementPattern : Pattern := originCallPattern ++ margin ++ semicolon

theorem originPattern_eq : originPattern = lineStart ++ group 1 originStatementPattern ++ margin ++ lineEnd := rfl

theorem solid_originPattern : originPattern.Solid := solid_of_isSolid rfl

section Line

variable {t w b r : Text} {last next : Option Char} {o : OriginLine}

/-- Between `a` and `b` stands a line that reads the origin: its margin `m`, its statement `w`, the spaces `y`
behind the statement and the line break `z`. -/
structure ReadsOrigin (a m w y z b : Text) : Prop where
  start : a = [] ∨ a.getLast? = some '\n'
  margin : ∀ c ∈ m, Text.isMargin c = true
  statement : originStatementPattern.Spells (a ++ m).getLast? w (y ++ (z ++ b)).head?
  gap : ∀ c ∈ y, Text.isMargin c = true
  stop : lineEnd.Spells (a ++ (m ++ (w ++ y))).getLast? z b.head?

theorem ReadsOrigin.head?_ne_semicolon {a m w y z b : Text} (h : ReadsOrigin a m w y z b) :
    (y ++ (z ++ b)).head? ≠ some ';' := by
  intro hhead
  cases y with
  | cons c y =>
    cases hhead
    exact absurd (h.gap ';' List.mem_cons_self) (by decide)
  | nil =>
    rcases lineEnd_spells_iff.1 h.stop with rfl | rfl | ⟨rfl, hb⟩
    · cases hhead
    · cases hhead
    · rw [List.nil_append, List.nil_append] at hhead
      rw [hhead] at hb
      rcases hb with hb | hb <;> cases hb

theorem readsOrigin_of_mem_ends {a : Text} {bound : Nat} {stop : Cursor}
    (h : stop ∈ originPattern.ends bound (.behind a r)) :
    ∃ m w y z, r = m ++ (w ++ (y ++ (z ++ stop.rest))) ∧ ReadsOrigin a m w y z stop.rest ∧
      stop.groups.lookup 1 = some ⟨size (a ++ m), size (a ++ (m ++ w))⟩ := by
  rw [originPattern_eq] at h
  obtain ⟨cur₃, hcur₃, hend⟩ := mem_ends_append.1 h
  obtain ⟨cur₂, hcur₂, hgap⟩ := mem_ends_append.1 hcur₃
  obtain ⟨cur₁, hcur₁, hstatement⟩ := mem_ends_append.1 hcur₂
  obtain ⟨cur, hcur, rfl⟩ := List.mem_map.1 hstatement
  obtain ⟨_, hm, ⟨_, m, rfl, ⟨rfl, hstart⟩, hmargin⟩⟩ := mem_ends hcur₁
  rw [List.nil_append] at hm
  obtain ⟨w, hw, hspells⟩ := mem_ends hcur
  obtain ⟨y, hy, hgap'⟩ := mem_ends hgap
  obtain ⟨z, hz, hend'⟩ := mem_ends hend
  have hbehind : cur.rest = y ++ (z ++ stop.rest) := by
    have hrest : cur.rest = y ++ cur₃.rest := hy.rest
    rw [hrest, hz.rest]
  have hrest : r = m ++ (w ++ (y ++ (z ++ stop.rest))) := by
    have hr : r = m ++ cur₁.rest := hm.rest
    rw [hr, hw.rest, hbehind]
  have hlast : cur₁.last = (a ++ m).getLast? := by rw [hm.last, List.getLast?_append]; rfl
  have hoffset : cur₁.offset = size (a ++ m) := by rw [hm.offset, size_append]; rfl
  refine ⟨m, w, y, z, hrest, ⟨?_, margin_spells_iff.1 hmargin, ?_, margin_spells_iff.1 hgap', ?_⟩, ?_⟩
  · have hline : (Cursor.behind a r).last = none ∨ (Cursor.behind a r).last = some '\n' := by
      simpa [Boundary.holds] using hstart
    exact hline.imp_left List.getLast?_eq_none_iff.1
  · rwa [← hlast, ← hbehind]
  · exact lineEnd_spells_iff.2 (lineEnd_spells_iff.1 hend')
  · rw [lookup_groups (by decide) hend, lookup_groups (by decide) hgap, List.lookup_cons_self, hw.offset, hoffset,
      ← List.append_assoc, size_append _ w]

theorem ReadsOrigin.occurs {a m w y z b : Text} (h : ReadsOrigin a m w y z b) :
    originPattern.Occurs a (m ++ (w ++ (y ++ z))) b := by
  have hline : a.getLast? = none ∨ a.getLast? = some '\n' := h.start.imp_left List.getLast?_eq_none_iff.2
  have hstart : ∀ next, lineStart.Spells a.getLast? m next := fun next =>
    ⟨[], m, rfl, ⟨rfl, by simpa [Boundary.holds] using hline⟩, margin_spells_iff.2 h.margin⟩
  have hstatement : (group 1 originStatementPattern).Spells (m.getLast?.or a.getLast?) w
      (y.head?.or (z.head?.or b.head?)) := by
    rw [← List.getLast?_append, ← List.head?_append, ← List.head?_append]
    exact h.statement
  have hall := (((hstart _).append hstatement).append (margin_spells_iff.2 h.gap)).append
    (lineEnd_spells_iff.2 (lineEnd_spells_iff.1 h.stop))
  simpa [Occurs, originPattern_eq] using hall

theorem exists_readsOrigin {a v b : Text} (h : originPattern.Occurs a v b) :
    ∃ m w y z, v = m ++ (w ++ (y ++ z)) ∧ ReadsOrigin a m w y z b := by
  have hspells : originPattern.Spells (Cursor.behind a (v ++ b)).last v b.head? := h
  obtain ⟨stop, hstop, hreach⟩ := hspells.exists_mem_ends rfl (Nat.le_refl _)
  obtain ⟨m, w, y, z, hrest, hreads, -⟩ := readsOrigin_of_mem_ends hstop
  have hb : stop.rest = b := hreach.rest_eq rfl
  rw [hb] at hrest hreads
  have hv : v ++ b = (m ++ (w ++ (y ++ z))) ++ b := by rw [hrest]; simp
  exact ⟨m, w, y, z, List.append_cancel_right hv, hreads⟩

/-- A line of the list stands in the text, and its parts are those that are listed. -/
theorem exists_originLine (h : o ∈ originLines t) :
    ∃ a m w y z b, t = a ++ (m ++ (w ++ (y ++ (z ++ b)))) ∧ ReadsOrigin a m w y z b ∧
      o.line = ⟨size a, size (a ++ (m ++ (w ++ (y ++ z))))⟩ ∧
      o.statement = ⟨size (a ++ m), size (a ++ (m ++ w))⟩ ∧ WholeLines a (m ++ (w ++ (y ++ z))) b := by
  obtain ⟨found, hfound, ho⟩ := List.mem_filterMap.1 h
  obtain ⟨statement, hgroup, rfl⟩ := Option.map_eq_some_iff.1 ho
  obtain ⟨a, v, b, stop, ht, hspan, hoccurs, hstop, rfl, hgroups⟩ :=
    (solid_originPattern.lists_findAll t).occurs hfound
  obtain ⟨m, w, y, z, hrest, hreads, hlookup⟩ := readsOrigin_of_mem_ends (List.mem_of_head? hstop)
  have hv : v ++ stop.rest = (m ++ (w ++ (y ++ z))) ++ stop.rest := by rw [hrest]; simp
  obtain rfl := List.append_cancel_right hv
  rw [Match.group?, hgroups, hlookup] at hgroup
  cases hgroup
  have hclose : originPattern.ClosesLine := closesLine_lineEnd.append
  refine ⟨a, m, w, y, z, stop.rest, ?_, hreads, hspan, rfl,
    wholeLines_of_head? rfl hclose solid_originPattern hoccurs hstop rfl⟩
  rw [← hrest]
  exact ht

/-- Every line that reads the origin starts inside one of the list. -/
theorem exists_mem_originLines {a v b : Text} (ht : t = a ++ (v ++ b)) (h : originPattern.Occurs a v b) :
    ∃ o ∈ originLines t, o.line.start ≤ size a ∧ size a < o.line.stop := by
  obtain ⟨found, hfound, hin⟩ := (solid_originPattern.lists_findAll t).exists_mem ht (Nat.zero_le _) h
  obtain ⟨a', v', b', stop, -, -, -, hstop, -, hgroups⟩ := (solid_originPattern.lists_findAll t).occurs hfound
  obtain ⟨m, w, y, z, -, -, hlookup⟩ := readsOrigin_of_mem_ends (List.mem_of_head? hstop)
  have hgroup : found.group? 1 = some ⟨size (a' ++ m), size (a' ++ (m ++ w))⟩ := by
    rw [Match.group?, hgroups, hlookup]
  exact ⟨⟨found.span, _⟩, List.mem_filterMap.2 ⟨found, hfound, by rw [hgroup]; rfl⟩, hin⟩

theorem mem_originLines (h : o ∈ originLines t) :
    ∃ a w b, t = a ++ (w ++ b) ∧ o.statement = ⟨size a, size (a ++ w)⟩ ∧
      o.line.start ≤ size a ∧ size (a ++ w) ≤ o.line.stop ∧
      originStatementPattern.Spells a.getLast? w b.head? ∧ b.head? ≠ some ';' := by
  obtain ⟨a, m, w, y, z, b, rfl, hreads, hline, hstatement, -⟩ := exists_originLine h
  refine ⟨a ++ m, w, y ++ (z ++ b), by simp, by rw [hstatement, List.append_assoc], ?_, ?_, hreads.statement,
    hreads.head?_ne_semicolon⟩
  · rw [hline, size_append a m]
    exact Nat.le_add_right _ _
  · rw [hline]
    simp only [size_append]
    omega

theorem start_lt_stop_of_originLine (h : o ∈ originLines t) : o.line.start < o.line.stop := by
  obtain ⟨a, m, w, y, z, b, -, hreads, hline, -⟩ := exists_originLine h
  have hpos := size_pos (solid_originPattern _ _ _ hreads.occurs)
  rw [hline]
  simp only [size_append] at hpos ⊢
  omega

theorem pairwise_originLines (t : Text) : (originLines t).Pairwise fun o o' => o.line.stop ≤ o'.line.start := by
  refine List.pairwise_filterMap.2 (((solid_originPattern.lists_findAll t).pairwise solid_originPattern).imp ?_)
  intro m m' hle o ho o' ho'
  obtain ⟨s, -, rfl⟩ := Option.map_eq_some_iff.1 ho
  obtain ⟨s', -, rfl⟩ := Option.map_eq_some_iff.1 ho'
  exact hle

/-- What the canonical statement has in front of its parenthesis. -/
def originFront : Text := "const origin = req.headers.get('Origin'".toList

theorem originStatement_toList : Canonical.originStatement.toList = originFront ++ [')', ';'] := by decide

theorem not_mem_originFront : ')' ∉ originFront ∧ ';' ∉ originFront := by decide

/-- A statement that the text could be reading as the canonical one is the canonical one. -/
theorem eq_originStatement (hw : originStatementPattern.Spells last w b.head?) (hb : b.head? ≠ some ';')
    (h : w ++ b = Canonical.originStatement.toList ++ r) : w = Canonical.originStatement.toList := by
  obtain ⟨hparen, hsemicolon⟩ := not_mem_originFront
  have hfront : ';' ∉ originFront ++ [')'] := by simpa using hsemicolon
  rw [originStatement_toList] at h ⊢
  obtain ⟨x, s, rfl, hx, hs⟩ := hw
  have hx' : ';' ∉ x := hx.not_mem_of_avoids (by decide)
  have hclose : ')' ∈ x := (hx.infix_of_mem_fixedParts (s := [')']) (by decide)).subset (by simp)
  have hsplit : x ++ (s ++ b) = (originFront ++ [')']) ++ ';' :: r := by simpa using h
  have hx'' : x <+: originFront ++ [')'] := prefix_of_not_mem hx' hsplit
  rcases hs with rfl | rfl
  · -- both have their only semicolon at the end
    have hback : originFront ++ [')'] <+: x := prefix_of_not_mem hfront hsplit.symm
    rw [hx''.eq_of_length_le hback.length_le]
    simp
  · -- the call ends where the canonical one does, and its semicolon would have to follow
    exfalso
    rcases List.prefix_concat_iff.1 hx'' with rfl | hin
    · have hrest : b = ';' :: r := List.append_cancel_left hsplit
      exact hb (by rw [hrest]; rfl)
    · exact hparen (hin.subset hclose)

end Line

end HandlerMigration.Shape
