import HandlerMigration.Proofs.Rewriting
import HandlerMigration.Proofs.WholeLines

/-!
# Where lines were taken out

A text without some of its lines has a seam where each of them was. A pattern of whole lines (`LineWise`)
has two kinds of pieces in it: those of the source that lie outside the lines taken out, and those that come
about across a seam, because the lines had `Interrupted` them. Main statement: if every piece of the source
starts in a line that goes, then the rest has a piece exactly if one was interrupted
(`Spliced.occurs_iff_interrupted`).

At a seam the characters around a piece change. A piece of whole lines does not mind: it asks of the character
in front only whether a line starts there, and if it ends with its line break it asks nothing of what follows.
-/

namespace HandlerMigration

open Text

namespace Pattern

variable {p : Pattern} {last last' next : Option Char} {w : Text} {c : Char}

/-! ### What a piece asks of the characters around it -/

/-- A line starts behind the character. -/
def AtLine (last : Option Char) : Prop := last = none ∨ last = some '\n'

/-- Whether a pattern looks around itself only for the starts and ends of lines. -/
def looksAtLines : Pattern → Bool
  | look .lineStart => true
  | look .lineEnd => true
  | look _ => false
  | seq p q => p.looksAtLines && q.looksAtLines
  | alt p q => p.looksAtLines && q.looksAtLines
  | rep _ _ _ _ => false
  | group _ p => p.looksAtLines
  | _ => true

theorem Spells.change_line (h : p.Spells last w next) (hp : p.looksAtLines = true) (hline : AtLine last ↔ AtLine last') :
    p.Spells last' w next := by
  induction p generalizing last last' w next with
  | empty => exact h
  | lit s => exact h
  | one set => exact h
  | many set least most greedy => exact h
  | seq p q ihp ihq =>
    obtain ⟨hp, hq⟩ := Bool.and_eq_true_iff.1 hp
    obtain ⟨u, v, rfl, hu, hv⟩ := h
    refine ⟨u, v, rfl, ihp hu hp hline, ihq hv hq ?_⟩
    cases u.getLast? with
    | none => exact hline
    | some d => exact Iff.rfl
  | alt p q ihp ihq =>
    obtain ⟨hp, hq⟩ := Bool.and_eq_true_iff.1 hp
    exact h.imp (ihp · hp hline) (ihq · hq hline)
  | rep p least most greedy => cases hp
  | look b =>
    obtain ⟨rfl, hb⟩ := h
    cases b with
    | lineStart =>
      have hlast : AtLine last := by simpa [Boundary.holds, AtLine] using hb
      have hlast' : last' = none ∨ last' = some '\n' := hline.1 hlast
      exact ⟨rfl, by simpa [Boundary.holds] using hlast'⟩
    | lineEnd => exact ⟨rfl, hb⟩
    | _ => cases hp
  | group i p ih => exact ih h hp hline

/-- Whether it can be seen from the pattern that no piece ends with a character. -/
def neverEnds (c : Char) : Pattern → Bool
  | lit s => s.getLast? != some c
  | one set => !set.has c
  | many set _ _ _ => !set.has c
  | seq p q => q.neverEnds c && (q.isSolid || p.neverEnds c)
  | alt p q => p.neverEnds c && q.neverEnds c
  | rep _ _ _ _ => false
  | group _ p => p.neverEnds c
  | _ => true

theorem Spells.getLast?_ne (h : p.Spells last w next) (hp : p.neverEnds c = true) : w.getLast? ≠ some c := by
  induction p generalizing last w next with
  | empty => obtain rfl : w = [] := h; simp
  | lit s => obtain rfl : w = s := h; exact bne_iff_ne.1 hp
  | one set =>
    obtain ⟨d, rfl, hd⟩ := h
    rintro ⟨⟩
    simp [neverEnds, hd] at hp
  | many set least most greedy =>
    intro hc
    have hset := h.1 c (List.mem_of_getLast? hc)
    simp [neverEnds, hset] at hp
  | seq p q ihp ihq =>
    obtain ⟨u, v, rfl, hu, hv⟩ := h
    obtain ⟨hq, hp⟩ := Bool.and_eq_true_iff.1 hp
    rcases eq_or_ne v [] with rfl | hne
    · rcases Bool.or_eq_true_iff.1 hp with hsolid | hp
      · exact absurd rfl (solid_of_isSolid hsolid _ _ _ hv)
      · rw [List.append_nil]
        exact ihp hu hp
    · rw [List.getLast?_append_of_ne_nil _ hne]
      exact ihq hv hq
  | alt p q ihp ihq =>
    obtain ⟨hp, hq⟩ := Bool.and_eq_true_iff.1 hp
    exact h.elim (ihp · hp) (ihq · hq)
  | rep p least most greedy => cases hp
  | look b => obtain ⟨rfl, -⟩ := h; simp
  | group i p ih => exact ih h hp

/-- Whether it can be seen from the pattern that no piece starts with a character. -/
def neverStarts (c : Char) : Pattern → Bool
  | lit s => s.head? != some c
  | one set => !set.has c
  | many set _ _ _ => !set.has c
  | seq p q => p.neverStarts c && (p.isSolid || q.neverStarts c)
  | alt p q => p.neverStarts c && q.neverStarts c
  | rep _ _ _ _ => false
  | group _ p => p.neverStarts c
  | _ => true

theorem Spells.head?_ne (h : p.Spells last w next) (hp : p.neverStarts c = true) : w.head? ≠ some c := by
  induction p generalizing last w next with
  | empty => obtain rfl : w = [] := h; simp
  | lit s => obtain rfl : w = s := h; exact bne_iff_ne.1 hp
  | one set =>
    obtain ⟨d, rfl, hd⟩ := h
    rintro ⟨⟩
    simp [neverStarts, hd] at hp
  | many set least most greedy =>
    intro hc
    have hset := h.1 c (List.mem_of_head? hc)
    simp [neverStarts, hset] at hp
  | seq p q ihp ihq =>
    obtain ⟨u, v, rfl, hu, hv⟩ := h
    obtain ⟨hp, hq⟩ := Bool.and_eq_true_iff.1 hp
    cases u with
    | cons d u =>
      have hhead := ihp hu hp
      exact hhead
    | nil =>
      rcases Bool.or_eq_true_iff.1 hq with hsolid | hq
      · exact absurd rfl (solid_of_isSolid hsolid _ _ _ hu)
      · exact ihq hv hq
  | alt p q ihp ihq =>
    obtain ⟨hp, hq⟩ := Bool.and_eq_true_iff.1 hp
    exact h.elim (ihp · hp) (ihq · hq)
  | rep p least most greedy => cases hp
  | look b => obtain ⟨rfl, -⟩ := h; simp
  | group i p ih => exact ih h hp

/-- Whether it can be seen from the pattern that a piece which ends with a character asks nothing of what
follows it. -/
def blindAfter (c : Char) : Pattern → Bool
  | seq p q => q.blindAfter c && (q.isSolid || p.neverEnds c)
  | alt p q => p.blindAfter c && q.blindAfter c
  | rep _ _ _ _ => false
  | group _ p => p.blindAfter c
  | _ => true

theorem Spells.change_next (h : p.Spells last w next) (hp : p.blindAfter c = true) (hw : w.getLast? = some c)
    (next' : Option Char) : p.Spells last w next' := by
  induction p generalizing last w next with
  | empty => exact h
  | lit s => exact h
  | one set => exact h
  | many set least most greedy => exact h
  | seq p q ihp ihq =>
    obtain ⟨u, v, rfl, hu, hv⟩ := h
    obtain ⟨hq, hp⟩ := Bool.and_eq_true_iff.1 hp
    cases v with
    | nil =>
      rcases Bool.or_eq_true_iff.1 hp with hsolid | hp
      · exact absurd rfl (solid_of_isSolid hsolid _ _ _ hv)
      · rw [List.append_nil] at hw
        exact absurd hw (hu.getLast?_ne hp)
    | cons d v =>
      rw [List.getLast?_append_of_ne_nil _ (by simp)] at hw
      exact ⟨u, d :: v, rfl, hu, ihq hv hq hw⟩
  | alt p q ihp ihq =>
    obtain ⟨hp, hq⟩ := Bool.and_eq_true_iff.1 hp
    exact h.imp (ihp · hp hw) (ihq · hq hw)
  | rep p least most greedy => cases hp
  | look b => obtain ⟨rfl, -⟩ := h; cases hw
  | group i p ih => exact ih h hp hw

/-- A pattern whose pieces start at the start of a line and of which only the ends of lines matter. -/
structure LineWise (p : Pattern) : Prop where
  solid : p.isSolid = true
  opens : p.opensLine = true
  looks : p.looksAtLines = true
  blind : p.blindAfter '\n' = true

/-! ### Interrupted pieces -/

/-- From the offset `n` on, a piece of the pattern is begun in front of one of the edits and behind those before
it, and it goes on in what the edits leave behind that one. -/
def Interrupted (p : Pattern) (t : Text) (n : Nat) (es : List Edit) : Prop :=
  ∃ before e after x s y r b, es = before ++ e :: after ∧ t = x ++ (s ++ y) ∧ size (x ++ s) = e.start ∧
    n ≤ size x ∧ (∀ e' ∈ before, e'.stop ≤ size x) ∧ Edit.splice t e.stop after = r ++ b ∧
    s ≠ [] ∧ r ≠ [] ∧ p.Spells x.getLast? (s ++ r) b.head?

end Pattern

/-- The edit takes out whole lines of the text. -/
def Edit.TakesLines (t : Text) (e : Edit) : Prop :=
  ∃ pre lines post, t = pre ++ (lines ++ post) ∧ e = .delete (size pre) (size (pre ++ lines)) ∧ WholeLines pre lines post

namespace Edit.Spliced

open Pattern

variable {p : Pattern} {offset : Nat} {rest out : Text} {es : List Edit}

theorem wholeLines_of_takesLines {done gap old rest new : Text}
    (h : TakesLines (done ++ (gap ++ old ++ rest)) ⟨size done + size gap, size done + size gap + size old, new⟩) :
    new = [] ∧ WholeLines (done ++ gap) old rest := by
  obtain ⟨pre, lines, post, ht, he, hlines⟩ := h
  simp only [delete, mk.injEq, size_append] at he
  have hparts : (done ++ gap) ++ (old ++ rest) = pre ++ (lines ++ post) := by rw [← ht]; simp
  obtain ⟨rfl, hback⟩ := append_inj_of_size hparts (by rw [size_append]; omega)
  obtain ⟨rfl, rfl⟩ := append_inj_of_size hback (by simp only [size_append] at he; omega)
  exact ⟨he.2.2, hlines⟩

theorem atLine_append {a : Text} {last last' : Option Char} (hlast : AtLine last) (hlast' : AtLine last') :
    AtLine (a.getLast?.or last) ↔ AtLine (a.getLast?.or last') := by
  cases a.getLast? with
  | none => exact iff_of_true hlast hlast'
  | some c => exact Iff.rfl

/-- A piece comes about at the seam behind `gap`: it is begun in `gap` and goes on in `out`. -/
def Bridged (p : Pattern) (done gap out : Text) : Prop :=
  ∃ a s r b, gap = a ++ s ∧ out = r ++ b ∧ s ≠ [] ∧ r ≠ [] ∧ p.Spells (done ++ a).getLast? (s ++ r) b.head?

/-- A piece of a text without some lines lies behind them or comes about at their seam, if the source has none
in front of them. -/
theorem occurs_append_iff (hp : p.LineWise) {done gap old rest : Text} {last : Option Char}
    (hlines : WholeLines (done ++ gap) old rest) (hdone : gap ++ old ++ rest = [] ∨ AtLine done.getLast?)
    (hlast : AtLine last) (hfree : ∀ a w b, gap = a ++ (w ++ b) → ¬ p.Occurs (done ++ a) w (b ++ (old ++ rest))) :
    (∃ a w b, gap ++ out = a ++ (w ++ b) ∧ p.Spells (a.getLast?.or last) w b.head?) ↔
      Bridged p done gap out ∨ ∃ a w b, out = a ++ (w ++ b) ∧ p.Spells (a.getLast?.or (gap.getLast?.or last)) w b.head? := by
  have hsolid := solid_of_isSolid hp.solid
  -- in front of a piece that starts in the gap, a line starts in the source as in what is left
  have hsource : ∀ {a s w : Text} {next : Option Char}, s ≠ [] → gap = a ++ s →
      (p.Spells (a.getLast?.or last) w next ↔ p.Spells (done ++ a).getLast? w next) := by
    intro a s w next hs hgap
    have hline := atLine_append (a := a) hlast (hdone.resolve_left (by simp [hgap, hs]))
    rw [List.getLast?_append]
    exact ⟨fun h => h.change_line hp.looks hline, fun h => h.change_line hp.looks hline.symm⟩
  constructor
  · rintro ⟨a, w, b, hout, hw⟩
    have hwne := hsolid _ _ _ hw
    have hout' : gap ++ [] ++ out = a ++ (w ++ b) := by rw [List.append_nil]; exact hout
    rcases lands hout' with ⟨z, hgap, hb⟩ | ⟨m, w', hm, hw', rfl, hin⟩ | ⟨a', m, hm, hnew, -⟩ | ⟨a', hbehind⟩
    · exfalso
      have hw := (hsource (s := w ++ z) (by simp [hwne]) hgap).1 hw
      refine hfree a w z hgap ?_
      cases z with
      | cons c z => simpa [hb, Occurs] using hw
      | nil =>
        -- the lines start behind a newline, so the piece ends with it
        refine hw.change_next hp.blind ?_ _
        rcases hlines.start with hnil | hnewline
        · simp [hgap, hwne] at hnil
        · rwa [hgap, List.append_nil, ← List.append_assoc, List.getLast?_append_of_ne_nil _ hwne] at hnewline
    · rw [List.nil_append] at hin
      have hgap : gap = a ++ m := by
        have hfront : gap ++ out = (a ++ m) ++ out := by rw [hout, ← hin]; simp
        exact List.append_cancel_right hfront
      exact .inl ⟨a, m, w', b, hgap, hin.symm, hm, hw', (hsource hm hgap).1 hw⟩
    · simp [hm] at hnew
    · have ha : a = gap ++ a' := by
        have hfront : a ++ (w ++ b) = (gap ++ a') ++ (w ++ b) := by rw [← hout, hbehind]; simp
        exact List.append_cancel_right hfront
      rw [ha, List.getLast?_append, Option.or_assoc] at hw
      exact .inr ⟨a', w, b, hbehind, hw⟩
  · rintro (⟨a, s, r, b, hgap, rfl, hs, hr, hw⟩ | ⟨a, w, b, rfl, hw⟩)
    · exact ⟨a, s ++ r, b, by rw [hgap]; simp, (hsource hs hgap).2 hw⟩
    · refine ⟨gap ++ a, w, b, by simp, ?_⟩
      rwa [List.getLast?_append, Option.or_assoc]

theorem interrupted_cons_iff {done gap old rest : Text}
    (h : Spliced (size done + size gap + size old) rest es out) :
    p.Interrupted (done ++ (gap ++ old ++ rest)) (size done)
        (⟨size done + size gap, size done + size gap + size old, []⟩ :: es) ↔
      Bridged p done gap out ∨ p.Interrupted (done ++ gap ++ old ++ rest) (size done + size gap + size old) es := by
  have hsame : done ++ (gap ++ old ++ rest) = (done ++ gap ++ old) ++ rest := by simp
  have hrest : splice (done ++ (gap ++ old ++ rest)) (size done + size gap + size old) es = out := by
    rw [hsame]
    exact (h.eq_splice _ (by simp only [size_append])).symm
  constructor
  · rintro ⟨before, e, after, x, s, y, r, b, hes, ht, hstart, hle, hbefore, hr, hs, hrne, hspells⟩
    cases before with
    | nil =>
      obtain ⟨rfl, rfl⟩ := List.cons.inj hes
      rw [hrest] at hr
      have hfront : (done ++ gap) ++ (old ++ rest) = (x ++ s) ++ y := by
        rw [List.append_assoc x, ← ht]; simp
      have hx := (append_inj_of_size hfront (by rw [hstart, size_append])).1
      obtain ⟨a, rfl, rfl⟩ := prefix_of_size_le hx hle
      exact .inl ⟨a, s, r, b, rfl, hr, hs, hrne, hspells⟩
    | cons e' before =>
      obtain ⟨rfl, rfl⟩ := List.cons.inj hes
      obtain ⟨hle', hbefore⟩ := List.forall_mem_cons.1 hbefore
      exact .inr ⟨before, e, after, x, s, y, r, b, rfl, hsame ▸ ht, hstart, hle', hbefore, hsame ▸ hr, hs, hrne, hspells⟩
  · rintro (⟨a, s, r, b, rfl, hr, hs, hrne, hspells⟩ | ⟨before, e, after, x, s, y, r, b, rfl, ht, hstart, hle, hbefore, hspells⟩)
    · exact ⟨[], _, es, done ++ a, s, old ++ rest, r, b, rfl, by simp, by simp, by simp, by simp, hrest.trans hr, hs, hrne,
        hspells⟩
    · exact ⟨_ :: before, e, after, x, s, y, r, b, rfl, hsame.trans ht, hstart, by omega,
        List.forall_mem_cons.2 ⟨hle, hbefore⟩, hsame ▸ hspells⟩

/-- If every piece of the source starts in a line that goes, then what is left has a piece exactly if one was
interrupted. -/
theorem occurs_iff_interrupted (hp : p.LineWise) (h : Spliced offset rest es out) (done : Text) (last : Option Char)
    (hd : size done = offset) (hdone : rest = [] ∨ AtLine done.getLast?) (hlast : AtLine last)
    (hes : ∀ e ∈ es, TakesLines (done ++ rest) e)
    (hcover : ∀ a w b, rest = a ++ (w ++ b) → p.Occurs (done ++ a) w b →
      ∃ e ∈ es, e.start ≤ size (done ++ a) ∧ size (done ++ a) < e.stop) :
    (∃ a w b, out = a ++ (w ++ b) ∧ p.Spells (a.getLast?.or last) w b.head?) ↔ p.Interrupted (done ++ rest) offset es := by
  have hsolid := solid_of_isSolid hp.solid
  induction h generalizing done last with
  | nil offset rest =>
    constructor
    · rintro ⟨a, w, b, rfl, hw⟩
      have hne : a ++ (w ++ b) ≠ [] := by simp [hsolid _ _ _ hw]
      have hsource : p.Occurs (done ++ a) w b := by
        have hline := atLine_append (a := a) hlast (hdone.resolve_left hne)
        rw [Occurs, List.getLast?_append]
        exact hw.change_line hp.looks hline
      obtain ⟨e, he, -⟩ := hcover a w b rfl hsource
      cases he
    · rintro ⟨before, e, after, x, s, y, r, b, hnil, -⟩
      simp at hnil
  | @cons offset rest out es gap old new h ih =>
    subst hd
    obtain ⟨hfirst, htail⟩ := List.forall_mem_cons.1 hes
    obtain ⟨rfl, hlines⟩ := wholeLines_of_takesLines hfirst
    have hsame : done ++ (gap ++ old ++ rest) = (done ++ gap ++ old) ++ rest := by simp
    have hsize : size (done ++ gap ++ old) = size done + size gap + size old := by simp only [size_append]
    -- behind the lines a line starts, in the source as in what is left
    have hdone' : rest = [] ∨ AtLine (done ++ gap ++ old).getLast? := by
      refine hlines.stop.imp_right fun hold => .inr ?_
      rw [List.getLast?_append, hold, Option.some_or]
    have hlast' : AtLine (gap.getLast?.or last) := by
      rcases eq_or_ne gap [] with rfl | hne
      · exact hlast
      · rcases hlines.start with hnil | hnewline
        · simp [hne] at hnil
        · rw [List.getLast?_append_of_ne_nil _ hne] at hnewline
          rw [hnewline]
          exact .inr rfl
    have hfree : ∀ a w b, gap = a ++ (w ++ b) → ¬ p.Occurs (done ++ a) w (b ++ (old ++ rest)) := by
      intro a w b hgap hw
      obtain ⟨e, he, hstart, -⟩ := hcover a w _ (by rw [hgap]; simp) hw
      have hpos := size_pos (hsolid _ _ _ hw)
      have hlt : size (done ++ a) < size done + size gap := by
        rw [hgap]; simp only [size_append]; omega
      rcases List.mem_cons.1 he with rfl | he
      · simp only at hstart
        omega
      · have hle := h.le_start e he
        omega
    have hback := ih (done ++ gap ++ old) (gap.getLast?.or last) hsize hdone' hlast' (fun e he => hsame ▸ htail e he)
      fun a w b hr hw => by
        obtain ⟨e, he, hstart, hstop⟩ := hcover (gap ++ old ++ a) w b (by rw [hr]; simp) (by simpa using hw)
        simp only [size_append] at hstart hstop ⊢
        rcases List.mem_cons.1 he with rfl | he
        · simp only at hstop
          omega
        · exact ⟨e, he, by omega, by omega⟩
    rw [List.append_nil, occurs_append_iff hp hlines hdone hlast hfree, interrupted_cons_iff h]
    exact or_congr_right hback

end Edit.Spliced

theorem Edit.absent_iff_not_interrupted {p : Pattern} {t u : Text} {edits : List Edit} (hp : p.LineWise)
    (hu : applyAll t edits = .ok u) (hes : ∀ e ∈ edits, TakesLines t e)
    (hcover : ∀ a w b, t = a ++ (w ++ b) → p.Occurs a w b → ∃ e ∈ edits, e.start ≤ size a ∧ size a < e.stop) :
    p.Absent [] u ↔ ¬ p.Interrupted t 0 (sort edits) := by
  have hiff := (applyAll_eq_ok_iff.1 hu).occurs_iff_interrupted hp [] none rfl (.inr (.inl rfl)) (.inl rfl)
    (fun e he => hes e (mem_sort.1 he)) fun a w b ht ho => by
      obtain ⟨e, he, hin⟩ := hcover a w b ht ho
      exact ⟨e, mem_sort.2 he, hin⟩
  rw [List.nil_append] at hiff
  rw [← hiff]
  simp only [Pattern.Absent, Pattern.Occurs, List.nil_append, Option.or_none]
  exact ⟨fun h ⟨a, w, b, hu, ho⟩ => h a w b hu ho, fun h a w b hu ho => h ⟨a, w, b, hu, ho⟩⟩

end HandlerMigration
