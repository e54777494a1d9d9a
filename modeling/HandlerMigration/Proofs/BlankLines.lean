import HandlerMigration.Proofs.WholeLines

/-!
# Blank lines around deleted lines

Where lines are deleted, the empty line behind them goes too if it would be left at the start of the text, behind
another empty line or behind an opening brace. `Edit.leavesBlank` decides this on the last characters of the text in
front: it looks for two line breaks in a row. Main statement (`Edit.deleteLines_covers_iff`): this agrees with the
lines of the text (`Text.EmptyLine`) except behind an empty line that is the first one, for there is no line break in
front of it.
-/

namespace HandlerMigration

open Text

namespace Text

variable {t a b z : Text} {n m : Nat}

/-! ### Empty lines -/

/-- A newline, alone or behind a carriage return. -/
def IsBreak (z : Text) : Prop := z = ['\n'] ∨ z = ['\r', '\n']

/-- The span is a line of the text and has nothing but its line break. -/
structure EmptyLine (t : Text) (s : Span) : Prop where
  start : t.lineStart s.start = some s.start
  stop : t.lineEnd s.start = some s.stop
  isBreak : IsBreak (t.slice s)

instance (z : Text) : Decidable (IsBreak z) := inferInstanceAs (Decidable (_ ∨ _))

instance (t : Text) (s : Span) : Decidable (t.EmptyLine s) :=
  decidable_of_iff (t.lineStart s.start = some s.start ∧ t.lineEnd s.start = some s.stop ∧ IsBreak (t.slice s))
    ⟨fun ⟨hstart, hstop, hbreak⟩ => ⟨hstart, hstop, hbreak⟩, fun h => ⟨h.start, h.stop, h.isBreak⟩⟩

theorem lastLine_eq_nil_iff : lastLine a = [] ↔ a = [] ∨ a.getLast? = some '\n' := by
  rcases List.eq_nil_or_concat a with rfl | ⟨x, c, rfl⟩
  · simp [lastLine]
  · by_cases hc : c = '\n' <;> simp [lastLine, hc]

theorem lineStart_append_iff :
    (a ++ b).lineStart (size a) = some (size a) ↔ a = [] ∨ a.getLast? = some '\n' := by
  rw [lineStart, cut_append, Option.map_some, Option.some.injEq, ← lastLine_eq_nil_iff]
  show size a - size (lastLine a) = size a ↔ _
  constructor
  · intro h
    rcases Nat.eq_zero_or_pos (size a) with hzero | hpos
    · exact lastLine_eq_nil_iff.2 (.inl (size_eq_zero.1 hzero))
    · exact size_eq_zero.1 (by omega)
  · intro h
    rw [h, size_nil, Nat.sub_zero]

theorem exists_cut_of_lineStart (h : t.lineStart n = some m) : ∃ a b, t = a ++ b ∧ size a = n := by
  obtain ⟨⟨a, b⟩, hcut, -⟩ := Option.map_eq_some_iff.1 h
  exact ⟨a, b, cut_eq_some_iff.1 hcut⟩

theorem exists_lines {start stop : Nat} (hle : start ≤ stop) (hstart : t.lineStart start = some start)
    (hstop : t.lineStart stop = some stop ∨ stop = size t) :
    ∃ pre lines post, t = pre ++ (lines ++ post) ∧ size pre = start ∧ size (pre ++ lines) = stop := by
  obtain ⟨pre, rest, ht, rfl⟩ := exists_cut_of_lineStart hstart
  obtain ⟨upTo, post, ht', rfl⟩ : ∃ upTo post, t = upTo ++ post ∧ size upTo = stop := by
    rcases hstop with hstop | rfl
    · exact exists_cut_of_lineStart hstop
    · exact ⟨t, [], (List.append_nil t).symm, rfl⟩
  obtain ⟨lines, rfl, rfl⟩ := prefix_of_size_le (ht.symm.trans ht') hle
  exact ⟨pre, lines, post, ht, rfl, rfl⟩

theorem IsBreak.ne_nil (hz : IsBreak z) : z ≠ [] := by
  rcases hz with rfl | rfl <;> exact List.cons_ne_nil _ _

theorem firstLine_of_isBreak (hz : IsBreak z) (b : Text) : firstLine (z ++ b) = z := by
  rcases hz with rfl | rfl <;> rfl

theorem emptyLine_iff : t.EmptyLine ⟨n, m⟩ ↔
    ∃ a z b, t = a ++ (z ++ b) ∧ size a = n ∧ size (a ++ z) = m ∧ (a = [] ∨ a.getLast? = some '\n') ∧ IsBreak z := by
  constructor
  · rintro ⟨hstart, hstop, hbreak⟩
    obtain ⟨a, r, rfl, rfl⟩ := exists_cut_of_lineStart hstart
    rw [lineEnd_append] at hstop
    obtain rfl : size (a ++ firstLine r) = m := Option.some.inj hstop
    obtain ⟨b, hb⟩ := firstLine_isPrefix r
    have hslice := slice_append a (firstLine r) b
    rw [List.append_assoc, hb, ← size_append] at hslice
    rw [hslice] at hbreak
    exact ⟨a, firstLine r, b, by rw [hb], rfl, rfl, lineStart_append_iff.1 hstart, hbreak⟩
  · rintro ⟨a, z, b, rfl, rfl, rfl, hline, hz⟩
    refine ⟨lineStart_append_iff.2 hline, ?_, ?_⟩
    · rw [lineEnd_append, firstLine_of_isBreak hz]
    · rw [← List.append_assoc, size_append, slice_append]
      exact hz

theorem emptyLine_front_iff : (a ++ b).EmptyLine ⟨n, size a⟩ ↔
    ∃ x z, a = x ++ z ∧ size x = n ∧ (x = [] ∨ x.getLast? = some '\n') ∧ IsBreak z := by
  rw [emptyLine_iff]
  constructor
  · rintro ⟨x, z, r, ht, hn, hsize, hline, hz⟩
    rw [← List.append_assoc] at ht
    obtain ⟨rfl, -⟩ := append_inj_of_size ht hsize.symm
    exact ⟨x, z, rfl, hn, hline, hz⟩
  · rintro ⟨x, z, rfl, hn, hline, hz⟩
    exact ⟨x, z, b, List.append_assoc .., hn, rfl, hline, hz⟩

theorem emptyLine_zero_iff : (a ++ b).EmptyLine ⟨0, size a⟩ ↔ IsBreak a := by
  rw [emptyLine_front_iff]
  constructor
  · rintro ⟨x, z, rfl, hx, -, hz⟩
    rwa [size_eq_zero.1 hx]
  · exact fun ha => ⟨[], a, rfl, rfl, .inl rfl, ha⟩

theorem blankLine_of_isBreak (hz : IsBreak z) (b : Text) : Edit.blankLine (z ++ b) = size z := by
  rcases hz with rfl | rfl <;> rfl

theorem emptyLine_back_iff (hline : (a ++ b).lineStart (size a) = some (size a) ∨ size a = size (a ++ b)) :
    (a ++ b).EmptyLine ⟨size a, m⟩ ↔ Edit.blankLine b ≠ 0 ∧ m = size a + Edit.blankLine b := by
  rw [emptyLine_iff]
  constructor
  · rintro ⟨x, z, r, ht, hsize, rfl, -, hz⟩
    obtain ⟨rfl, rfl⟩ := append_inj_of_size ht hsize.symm
    rw [blankLine_of_isBreak hz, size_append]
    refine ⟨fun hzero => ?_, rfl⟩
    rcases hz with rfl | rfl <;> cases hzero
  · rintro ⟨hblank, rfl⟩
    obtain ⟨z, r, rfl, hsize, rfl | hz⟩ := exists_blankLine b
    · exact absurd hsize.symm hblank
    · refine ⟨a, z, r, rfl, rfl, by rw [size_append, hsize], ?_, hz⟩
      rcases hline with hline | hend
      · exact lineStart_append_iff.1 hline
      · rw [size_append, size_append] at hend
        omega

/-! ### Where an empty line is superfluous -/

/-- The last character other than a space, a tab, a carriage return and a newline is an opening brace. -/
def EndsInBrace (a : Text) : Prop :=
  ∃ x d, a = x ++ '{' :: d ∧ ∀ c ∈ d, c = ' ' ∨ c = '\t' ∨ c = '\r' ∨ c = '\n'

def FollowsBrace (t : Text) (n : Nat) : Prop := ∃ a b, t = a ++ b ∧ size a = n ∧ EndsInBrace a

/-- An empty line at the offset would be at the start of the text, the second of two or the first one behind an
opening brace. -/
def BlankSuperfluous (t : Text) (n : Nat) : Prop := n = 0 ∨ (∃ m, t.EmptyLine ⟨m, n⟩) ∨ t.FollowsBrace n

theorem followsBrace_append_iff : (a ++ b).FollowsBrace (size a) ↔ EndsInBrace a := by
  constructor
  · rintro ⟨x, r, ht, hsize, hx⟩
    obtain ⟨rfl, -⟩ := append_inj_of_size ht hsize.symm
    exact hx
  · exact fun ha => ⟨a, b, rfl, rfl, ha⟩

theorem endsWith_iff {part : Text} : t.endsWith part = true ↔ ∃ x, t = x ++ part := by
  rw [endsWith, List.isSuffixOf_iff_suffix]
  exact ⟨fun ⟨x, h⟩ => ⟨x, h.symm⟩, fun ⟨x, h⟩ => ⟨x, h.symm⟩⟩

theorem endsWith_cons_iff {c : Char} : t.endsWith (c :: z) = true ↔ ∃ x, t = x ++ z ∧ x.getLast? = some c := by
  rw [endsWith_iff]
  constructor
  · rintro ⟨x, rfl⟩
    exact ⟨x ++ [c], List.append_cons .., by simp⟩
  · rintro ⟨x, rfl, hx⟩
    obtain ⟨y, rfl⟩ := List.getLast?_eq_some_iff.1 hx
    exact ⟨y, (List.append_cons ..).symm⟩

theorem endsWith_dropEndWhile_iff {P : Char → Bool} {c : Char} (hc : P c = false) :
    (t.dropEndWhile P).endsWith [c] = true ↔ ∃ x d, t = x ++ c :: d ∧ ∀ e ∈ d, P e = true := by
  rw [endsWith_iff]
  constructor
  · rintro ⟨x, hx⟩
    obtain ⟨d, ht, hd⟩ := exists_dropEndWhile P t
    rw [hx, ← List.append_cons] at ht
    exact ⟨x, d, ht, hd⟩
  · rintro ⟨x, d, rfl, hd⟩
    refine ⟨x, ?_⟩
    rw [dropEndWhile, List.reverse_append, List.reverse_cons, List.append_assoc,
      List.dropWhile_append_of_pos fun e he => hd e (List.mem_reverse.1 he), List.singleton_append,
      List.dropWhile_cons_of_neg (by rw [hc]; decide), List.reverse_cons, List.reverse_reverse]

end Text

namespace Edit

variable {t a b : Text} {start stop : Nat} {more : Prop}

theorem leavesBlank_iff : leavesBlank a = true ↔
    a = [] ∨ (∃ x z, a = x ++ z ∧ x.getLast? = some '\n' ∧ IsBreak z) ∨ EndsInBrace a := by
  have hbreaks : a.endsWith ['\n', '\n'] = true ∨ a.endsWith ['\n', '\r', '\n'] = true ↔
      ∃ x z, a = x ++ z ∧ x.getLast? = some '\n' ∧ IsBreak z := by
    rw [endsWith_cons_iff, endsWith_cons_iff]
    constructor
    · rintro (⟨x, ha, hx⟩ | ⟨x, ha, hx⟩)
      · exact ⟨x, _, ha, hx, .inl rfl⟩
      · exact ⟨x, _, ha, hx, .inr rfl⟩
    · rintro ⟨x, z, ha, hx, rfl | rfl⟩
      · exact .inl ⟨x, ha, hx⟩
      · exact .inr ⟨x, ha, hx⟩
  rw [leavesBlank, Bool.or_eq_true, Bool.or_eq_true, Bool.or_eq_true, List.isEmpty_iff,
    endsWith_dropEndWhile_iff (by decide), @or_assoc (a = []), hbreaks, or_assoc]
  simp only [EndsInBrace, Bool.or_eq_true, beq_iff_eq, or_assoc]

/-- The end of the text in front decides as its lines do, except behind a first line that is empty. -/
theorem leavesBlank_iff_superfluous (b : Text) : leavesBlank a = true ↔
    (a ++ b).BlankSuperfluous (size a) ∧ ¬ (a ++ b).EmptyLine ⟨0, size a⟩ := by
  rw [leavesBlank_iff, BlankSuperfluous, followsBrace_append_iff, emptyLine_zero_iff, size_eq_zero]
  constructor
  · rintro (rfl | ⟨x, z, rfl, hx, hz⟩ | ⟨x, d, rfl, hd⟩)
    · exact ⟨.inl rfl, by decide⟩
    · refine ⟨.inr (.inl ⟨size x, emptyLine_front_iff.2 ⟨x, z, rfl, rfl, .inr hx, hz⟩⟩), fun hbreak => ?_⟩
      -- a line break has its only newline at its end
      have hmem : '\n' ∈ (x ++ z).dropLast := by
        rw [List.dropLast_append_of_ne_nil hz.ne_nil]
        exact List.mem_append_left _ (List.mem_of_getLast? hx)
      rcases hbreak with heq | heq <;> rw [heq] at hmem <;> exact absurd hmem (by decide)
    · refine ⟨.inr (.inr ⟨x, d, rfl, hd⟩), fun hbreak => ?_⟩
      have hmem : '{' ∈ x ++ '{' :: d := List.mem_append_right _ (List.mem_cons_self ..)
      rcases hbreak with heq | heq <;> rw [heq] at hmem <;> exact absurd hmem (by decide)
  · rintro ⟨rfl | ⟨n, hfront⟩ | hbrace, hfirst⟩
    · exact .inl rfl
    · obtain ⟨x, z, rfl, -, rfl | hx, hz⟩ := emptyLine_front_iff.1 hfront
      · exact absurd hz hfirst
      · exact .inr (.inl ⟨x, z, rfl, hx, hz⟩)
    · exact .inr (.inr hbrace)

/-! ### What a deletion covers -/

/-- The edit takes out what lies from `start` to `stop` and, where `more` holds, the empty line that starts at `stop`,
if there is one. -/
structure CoversLines (more : Prop) (t : Text) (start stop : Nat) (e : Edit) : Prop where
  start : e.start = start
  replacement : e.replacement = []
  emptyLine : ∀ n, more → t.EmptyLine ⟨stop, n⟩ → e.stop = n
  stop : ¬ (more ∧ ∃ n, t.EmptyLine ⟨stop, n⟩) → e.stop = stop

theorem coversLines_delete_iff {width : Nat} {taken : Bool}
    (hline : ∀ n, t.EmptyLine ⟨stop, n⟩ ↔ width ≠ 0 ∧ n = stop + width) :
    (delete start (stop + if taken then width else 0)).CoversLines more t start stop ↔
      ((∃ n, t.EmptyLine ⟨stop, n⟩) → (more ↔ taken = true)) := by
  have hex : (∃ n, t.EmptyLine ⟨stop, n⟩) ↔ width ≠ 0 := by
    simp only [hline, exists_and_left, exists_eq, and_true]
  constructor
  · intro h hblank
    have hwidth := hex.1 hblank
    constructor
    · intro hmore
      have hstop : stop + (if taken then width else 0) = stop + width := h.emptyLine _ hmore ((hline _).2 ⟨hwidth, rfl⟩)
      by_contra htaken
      rw [if_neg htaken] at hstop
      omega
    · intro htaken
      by_contra hmore
      have hstop : stop + (if taken then width else 0) = stop := h.stop fun hboth => hmore hboth.1
      rw [if_pos htaken] at hstop
      omega
  · intro h
    refine ⟨rfl, rfl, fun n hmore hn => ?_, fun hnone => ?_⟩
    · obtain ⟨-, rfl⟩ := (hline n).1 hn
      show stop + (if taken then width else 0) = stop + width
      rw [if_pos ((h ⟨_, hn⟩).1 hmore)]
    · show stop + (if taken then width else 0) = stop
      split_ifs with htaken
      · have hwidth : width = 0 := by
          by_contra hne
          have hblank := hex.2 hne
          exact hnone ⟨(h hblank).2 htaken, hblank⟩
        rw [hwidth, Nat.add_zero]
      · rfl

/-- A deletion of whole lines takes the empty line behind them exactly if it is superfluous there and what stands in
front of them is not just an empty first line. So it covers what it should unless such a line stands in front of them
and an empty line behind. -/
theorem deleteLines_covers_iff (t : Text) (start stop : Nat) (hle : start ≤ stop)
    (hstart : t.lineStart start = some start) (hstop : t.lineStart stop = some stop ∨ stop = size t) :
    ∃ e, deleteLines t start stop = some e ∧
      e.CoversLines (t.BlankSuperfluous start ∧ ¬ t.EmptyLine ⟨0, start⟩) t start stop ∧
      (e.CoversLines (t.BlankSuperfluous start) t start stop ↔
        ¬ (t.EmptyLine ⟨0, start⟩ ∧ ∃ n, t.EmptyLine ⟨stop, n⟩)) := by
  obtain ⟨pre, lines, post, rfl, rfl, rfl⟩ := exists_lines hle hstart hstop
  have hline : ∀ n, (pre ++ (lines ++ post)).EmptyLine ⟨size (pre ++ lines), n⟩ ↔
      blankLine post ≠ 0 ∧ n = size (pre ++ lines) + blankLine post := fun n => by
    rw [← List.append_assoc] at hstop ⊢
    exact emptyLine_back_iff hstop
  refine ⟨_, deleteLines_append pre lines post, ?_, ?_⟩
  · rw [coversLines_delete_iff hline, leavesBlank_iff_superfluous (lines ++ post)]
    exact fun _ => Iff.rfl
  · rw [coversLines_delete_iff hline, leavesBlank_iff_superfluous (lines ++ post), not_and']
    refine forall_congr' fun _ => ⟨fun h hfirst => ?_, fun h => ⟨fun hmore => ⟨hmore, h⟩, And.left⟩⟩
    -- an empty first line, too, makes one behind it superfluous
    exact (h.1 (.inr (.inl ⟨0, hfirst⟩))).2 hfirst

/-- A line behind an opening brace, with an empty line behind it. -/
def bracedLine : Text := ['\n', '{', '\t', '\r', '\n', 'b', '\n', '\r', '\n', 'c']

theorem deleteLines_covers_iff_bracedLine :
    bracedLine.lineStart 5 = some 5 ∧ bracedLine.lineStart 7 = some 7 ∧ bracedLine.EmptyLine ⟨7, 9⟩ ∧
      deleteLines bracedLine 5 7 = some (.delete 5 9) := by
  have hblank : bracedLine.EmptyLine ⟨7, 9⟩ := by decide
  refine ⟨by decide, by decide, hblank, ?_⟩
  obtain ⟨⟨start, stop, replacement⟩, he, -, hiff⟩ :=
    deleteLines_covers_iff bracedLine 5 7 (by decide) (by decide) (.inl (by decide))
  have hbrace : bracedLine.FollowsBrace 5 :=
    ⟨['\n', '{', '\t', '\r', '\n'], ['b', '\n', '\r', '\n', 'c'], rfl, rfl, ['\n'], ['\t', '\r', '\n'], rfl, by simp⟩
  have hcovers := hiff.2 fun h => absurd h.1 (by decide)
  obtain rfl : start = 5 := hcovers.start
  obtain rfl : stop = 9 := hcovers.emptyLine 9 (.inr (.inr hbrace)) hblank
  obtain rfl : replacement = [] := hcovers.replacement
  exact he

/-- A line between two empty ones, of which the first starts the text. -/
def leadingBlank : Text := ['\n', 'b', '\n', '\n', 'c', '\n']

/-- Behind an empty first line the empty line is left, so that there are two in a row. -/
theorem deleteLines_leaves_two_blanks :
    leadingBlank.lineStart 1 = some 1 ∧ leadingBlank.lineStart 3 = some 3 ∧ leadingBlank.EmptyLine ⟨0, 1⟩ ∧
      leadingBlank.EmptyLine ⟨3, 4⟩ ∧ (delete 1 3).apply leadingBlank = .ok ['\n', '\n', 'c', '\n'] ∧
      deleteLines leadingBlank 1 3 = some (.delete 1 3) ∧
      ¬ (delete 1 3).CoversLines (leadingBlank.BlankSuperfluous 1) leadingBlank 1 3 := by
  have hfirst : leadingBlank.EmptyLine ⟨0, 1⟩ := by decide
  have hblank : leadingBlank.EmptyLine ⟨3, 4⟩ := by decide
  refine ⟨by decide, by decide, hfirst, hblank, rfl, by decide, fun hcovers => ?_⟩
  have hstop : 3 = 4 := hcovers.emptyLine 4 (.inr (.inl ⟨0, hfirst⟩)) hblank
  cases hstop

end Edit

end HandlerMigration
