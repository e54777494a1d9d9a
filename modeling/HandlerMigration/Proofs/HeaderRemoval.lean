import HandlerMigration.Migration.Declarations
import HandlerMigration.Proofs.LineSeams
import Mathlib.Data.List.Infix

/-!
# Taking out the handler's own headers

The step takes out the lines of the first table of headers and those of every alias, a line that gives the
shared headers the table's name. Main statement: it fails exactly if an alias starts inside the table, and then
it names the two deletions. Otherwise no alias is left exactly if no lines that went had interrupted one, and
the same holds for tables if the source has at most one (`removeHeaderTable_leaves_none_iff`). Each of the three
things happens (`removeHeaderTable_leaves_headers`).

A table and an alias meet in no other way: both start with the same words, but no line of an alias starts as a
table does (`table_behind_alias`). The blank line that goes with a piece is no part of the next one, which
starts with neither character of a line break (`size_le_of_blank`).
-/

namespace HandlerMigration

open Text

theorem Edit.TakesLines.fits {t : Text} {e : Edit} (h : e.TakesLines t) : e.Fits t := by
  obtain ⟨pre, lines, post, rfl, rfl, -⟩ := h
  exact Edit.fits_delete pre lines post

namespace Shape

open Pattern Piece

section Lines

variable {t a w b a' w' b' : Text} {span table : Span}

theorem lineWise_headerTablePattern : headerTablePattern.LineWise := ⟨rfl, rfl, rfl, by decide⟩

theorem lineWise_headerAliasPattern : headerAliasPattern.LineWise := ⟨rfl, rfl, rfl, by decide⟩

theorem exists_headerTable (h : headerTable? t = some span) :
    ∃ a w b, t = a ++ (w ++ b) ∧ span = ⟨size a, size (a ++ w)⟩ ∧ headerTablePattern.Occurs a w b ∧ WholeLines a w b := by
  obtain ⟨m, hm, rfl⟩ := Option.map_eq_some_iff.1 h
  obtain ⟨a, w, b, stop, hfirst, hspan, -⟩ := find?_eq_some hm
  have hclose : headerTablePattern.ClosesLine := closesLine_lineEnd.append
  exact ⟨a, w, b, hfirst.rest_eq, hspan, hfirst.occurs,
    wholeLines_of_head? rfl hclose (solid_of_isSolid rfl) hfirst.occurs hfirst.preferred hfirst.stop_rest⟩

theorem exists_headerAlias (h : span ∈ headerAliases t) :
    ∃ a w b, t = a ++ (w ++ b) ∧ span = ⟨size a, size (a ++ w)⟩ ∧ headerAliasPattern.Occurs a w b ∧ WholeLines a w b := by
  obtain ⟨m, hm, rfl⟩ := List.mem_map.1 h
  have hsolid : headerAliasPattern.Solid := solid_of_isSolid rfl
  obtain ⟨a, w, b, stop, ht, hspan, ho, hstop, hrest, -⟩ := (hsolid.lists_findAll t).occurs hm
  have hclose : headerAliasPattern.ClosesLine := closesLine_statementEnd.append
  exact ⟨a, w, b, ht, hspan, ho, wholeLines_of_head? rfl hclose hsolid ho hstop hrest⟩

theorem pairwise_headerAliases (t : Text) : (headerAliases t).Pairwise fun s s' => s.stop ≤ s'.start := by
  have hsolid : headerAliasPattern.Solid := solid_of_isSolid rfl
  exact List.pairwise_map.2 ((hsolid.lists_findAll t).pairwise hsolid)

/-! ### A table does not start inside an alias -/

theorem alias_apart_table : ∀ f ∈ headerAliasPattern.forms?.getD [], ∀ s ∈ f.tails, s ≠ [] →
    ∀ o ∈ headerTablePattern.openings [[]], ¬ (s <+: o ∨ o <+: s) := by decide +kernel

theorem newline_not_mem_statementEnd {last next : Option Char} (h : statementEnd.Spells last w next) : '\n' ∉ w.dropLast := by
  obtain ⟨v, z, rfl, hv, hz⟩ := h
  have hv : '\n' ∉ v := hv.not_mem_of_avoids (by decide)
  exact newline_not_mem_dropLast hv hz

/-- What follows a line start inside an alias is not blank: the line that the alias ends on holds its bracket. -/
theorem condense_ne_nil {k k' : Text} (h : headerAliasPattern.Occurs a (k ++ k') b) (hk : k = [] ∨ k.getLast? = some '\n')
    (hk' : k' ≠ []) : condense k' ≠ [] := by
  obtain ⟨s, e, hse, hs, he⟩ := h
  have hlast : s.getLast? = some ')' := hs.getLast?_eq rfl
  have hks : k ≠ s := by
    rintro rfl
    rcases hk with rfl | hk
    · cases hlast
    · rw [hk] at hlast
      cases hlast
  rcases List.append_eq_append_iff.1 hse with ⟨m, rfl, rfl⟩ | ⟨m, rfl, rfl⟩
  · have hm : m ≠ [] := fun hm => hks (by simp [hm])
    rw [List.getLast?_append_of_ne_nil _ hm] at hlast
    have hmem : ')' ∈ condense (m ++ e) :=
      mem_condense (List.mem_append_left _ (List.mem_of_getLast? hlast)) (by decide) (by decide)
    exact List.ne_nil_of_mem hmem
  · have hm : m ≠ [] := fun hm => hks (by simp [hm])
    rcases hk with hnil | hk
    · simp [hm] at hnil
    · rw [List.getLast?_append_of_ne_nil _ hm] at hk
      refine absurd ?_ (newline_not_mem_statementEnd he)
      rw [List.dropLast_append_of_ne_nil hk']
      exact List.mem_append_left _ (List.mem_of_getLast? hk)

/-- A table that starts behind the start of an alias starts behind its end. -/
theorem table_behind_alias (ht : a ++ (w ++ b) = a' ++ (w' ++ b')) (h : headerAliasPattern.Occurs a w b)
    (h' : headerTablePattern.Occurs a' w' b') (hle : size a ≤ size a') : size (a ++ w) ≤ size a' := by
  by_contra hgt
  obtain ⟨k, k', rfl, rfl, hk', hne⟩ := exists_inside ht hle (by omega)
  have hline : k = [] ∨ k.getLast? = some '\n' := by
    rcases eq_or_ne k [] with rfl | hkne
    · exact .inl rfl
    · rcases h'.start_of_opensLine rfl with hnil | hnewline
      · simp [hkne] at hnil
      · rw [List.getLast?_append_of_ne_nil _ hkne] at hnewline
        exact .inr hnewline
  -- behind the line start both go on, the alias to its end and the table past its opening
  have hform : condense (k ++ k') ∈ headerAliasPattern.forms?.getD [] := Spells.condense_mem h rfl
  have htail : condense k' ∈ (condense (k ++ k')).tails := by
    rw [condense_append]
    exact (List.mem_tails _ _).2 (List.suffix_append _ _)
  have hbehind : ∃ k ∈ [([] : Text)], k <+: condense b' := ⟨[], List.mem_singleton_self _, List.nil_prefix⟩
  obtain ⟨o, ho, hopen⟩ := Spells.exists_opening h' hbehind
  have hend : condense k' <+: condense (w' ++ b') := by
    rw [hk', condense_append]
    exact List.prefix_append _ _
  exact alias_apart_table _ hform _ htail (condense_ne_nil h hline hne) o ho
    (List.prefix_or_prefix_of_prefix hend hopen)

/-- An alias ends in front of the table, starts behind it, or starts inside it. -/
theorem alias_cases {name : Span} (htable : headerTable? t = some table) (hname : name ∈ headerAliases t) :
    table.stop ≤ name.start ∨ name.stop ≤ table.start ∨ table.start < name.start ∧ name.start < table.stop := by
  obtain ⟨a', w', b', rfl, rfl, htable, -⟩ := exists_headerTable htable
  obtain ⟨a, w, b, ht, rfl, hname, -⟩ := exists_headerAlias hname
  rcases Nat.lt_or_ge (size a') (size a) with hlt | hle
  · rcases Nat.lt_or_ge (size a) (size (a' ++ w')) with hin | hbehind
    · exact .inr (.inr ⟨hlt, hin⟩)
    · exact .inl hbehind
  · exact .inr (.inl (table_behind_alias ht.symm hname htable hle))

end Lines

/-! ### What the step takes out -/

/-- The first table and all aliases. -/
def headerSpans (t : Text) : List Span := (headerTable? t).toList ++ headerAliases t

/-- The edits that take out the lines of the first table and of all aliases. -/
def headerRemovals (t : Text) : List Edit :=
  (headerSpans t).filterMap fun span => Edit.deleteLines t span.start span.stop

/-- An alias starts inside the first table. -/
def HoldsAlias (t : Text) (table name : Span) : Prop :=
  headerTable? t = some table ∧ name ∈ headerAliases t ∧ table.start < name.start ∧ name.start < table.stop

/-- The edit takes out the lines of the span, and perhaps the blank line behind them. -/
structure Removes (t : Text) (span : Span) (e : Edit) : Prop where
  edit : Edit.deleteLines t span.start span.stop = some e
  takes : e.TakesLines t
  start : e.start = span.start
  nonempty : span.start < span.stop
  stop : span.stop ≤ e.stop
  /-- No other span starts in that blank line. -/
  next : ∀ span' ∈ headerSpans t, span.stop ≤ span'.start → e.stop ≤ span'.start

/-- The first edit takes out the table, the second an alias inside it. -/
def Collide (t : Text) (e e' : Edit) : Prop :=
  ∃ table name, HoldsAlias t table name ∧ Removes t table e ∧ Removes t name e'

section Removals

variable {t : Text} {span span' table name : Span} {e e' : Edit}

theorem mem_headerSpans : span ∈ headerSpans t ↔ headerTable? t = some span ∨ span ∈ headerAliases t := by
  rw [headerSpans, List.mem_append, Option.mem_toList]

theorem exists_of_mem_headerSpans (h : span ∈ headerSpans t) :
    ∃ a w b, t = a ++ (w ++ b) ∧ span = ⟨size a, size (a ++ w)⟩ ∧ WholeLines a w b ∧ w ≠ [] ∧
      w.head? ≠ some '\n' ∧ w.head? ≠ some '\r' := by
  rcases mem_headerSpans.1 h with htable | hname
  · obtain ⟨a, w, b, ht, hspan, ho, hlines⟩ := exists_headerTable htable
    exact ⟨a, w, b, ht, hspan, hlines, solid_of_isSolid lineWise_headerTablePattern.solid _ _ _ ho,
      Spells.head?_ne ho (by decide), Spells.head?_ne ho (by decide)⟩
  · obtain ⟨a, w, b, ht, hspan, ho, hlines⟩ := exists_headerAlias hname
    exact ⟨a, w, b, ht, hspan, hlines, solid_of_isSolid lineWise_headerAliasPattern.solid _ _ _ ho,
      Spells.head?_ne ho (by decide), Spells.head?_ne ho (by decide)⟩

/-- A text that starts with neither character of a line break starts behind a blank line. -/
theorem size_le_of_blank {front blank rest a w b : Text} (hblank : blank = [] ∨ blank = ['\n'] ∨ blank = ['\r', '\n'])
    (h : front ++ (blank ++ rest) = a ++ (w ++ b)) (hw : w ≠ []) (hn : w.head? ≠ some '\n') (hr : w.head? ≠ some '\r')
    (hle : size front ≤ size a) : size (front ++ blank) ≤ size a := by
  by_contra hgt
  obtain ⟨k, k', rfl, rfl, hk', hne⟩ := exists_inside h hle (by omega)
  obtain ⟨c, w, rfl⟩ := List.exists_cons_of_ne_nil hw
  obtain ⟨d, k', rfl⟩ := List.exists_cons_of_ne_nil hne
  obtain ⟨rfl, -⟩ := List.cons.inj hk'
  rcases eq_of_mem_blank hblank c (by simp) with rfl | rfl
  · exact hn rfl
  · exact hr rfl

theorem exists_removes (h : span ∈ headerSpans t) : ∃ e, Removes t span e := by
  obtain ⟨a, w, b, rfl, rfl, hlines, hne, -⟩ := exists_of_mem_headerSpans h
  obtain ⟨blank, rest, rfl, hblank, hlines', hedit⟩ := exists_deleteLines hlines
  have hpos := size_pos hne
  refine ⟨_, hedit, ⟨a, w ++ blank, rest, by simp, rfl, hlines'⟩, rfl, ?_, ?_, ?_⟩
  · simp only [size_append]
    omega
  · simp only [Edit.delete, size_append]
    omega
  · intro span' hspan' hle
    obtain ⟨a', w', b', ht, rfl, -, hne', hn, hr⟩ := exists_of_mem_headerSpans hspan'
    have hsplit : (a ++ w) ++ (blank ++ rest) = a' ++ (w' ++ b') := by rw [← ht]; simp
    have hsize := size_le_of_blank hblank hsplit hne' hn hr hle
    simpa [Edit.delete] using hsize

theorem Removes.apart (h : Removes t span e) (h' : Removes t span' e') (hspan' : span' ∈ headerSpans t)
    (hle : span.stop ≤ span'.start) : Edit.Apart e e' := by
  rw [Edit.Apart, h'.start]
  exact h.next span' hspan' hle

theorem removes_of_edit (h : span ∈ headerSpans t) (he : Edit.deleteLines t span.start span.stop = some e) :
    Removes t span e := by
  obtain ⟨e', he'⟩ := exists_removes h
  obtain rfl : e' = e := Option.some.inj (he'.edit.symm.trans he)
  exact he'

theorem mem_headerRemovals : e ∈ headerRemovals t ↔ ∃ span ∈ headerSpans t, Removes t span e := by
  rw [headerRemovals, List.mem_filterMap]
  exact ⟨fun ⟨span, hspan, he⟩ => ⟨span, hspan, removes_of_edit hspan he⟩, fun ⟨span, hspan, he⟩ => ⟨span, hspan, he.edit⟩⟩

theorem takesLines_of_mem (h : e ∈ headerRemovals t) : e.TakesLines t := by
  obtain ⟨span, -, he⟩ := mem_headerRemovals.1 h
  exact he.takes

theorem pairwise_headerRemovals (t : Text) :
    (headerRemovals t).Pairwise fun e e' => Edit.Clear e e' ∨ Collide t e e' := by
  refine List.pairwise_filterMap.2 (List.pairwise_append.2 ⟨?_, ?_, ?_⟩)
  · cases headerTable? t <;> simp
  · refine (pairwise_headerAliases t).imp_of_mem fun {span span'} hspan hspan' hle e he e' he' => .inl (.inl ?_)
    have hspan := mem_headerSpans.2 (.inr hspan)
    have hspan' := mem_headerSpans.2 (.inr hspan')
    exact (removes_of_edit hspan he).apart (removes_of_edit hspan' he') hspan' hle
  · intro table htable name hname e he e' he'
    have htable : headerTable? t = some table := by simpa using htable
    have hspan := mem_headerSpans.2 (.inl htable)
    have hspan' := mem_headerSpans.2 (.inr hname)
    have he := removes_of_edit hspan he
    have he' := removes_of_edit hspan' he'
    rcases alias_cases htable hname with hle | hle | hin
    · exact .inl (.inl (he.apart he' hspan' hle))
    · exact .inl (.inr (he'.apart he hspan hle))
    · exact .inr ⟨table, name, ⟨htable, hname, hin⟩, he, he'⟩

theorem HoldsAlias.not_clear (h : HoldsAlias t table name) (he : Removes t table e) (he' : Removes t name e') :
    ¬ Edit.Clear e e' := by
  obtain ⟨-, -, hlt, hlt'⟩ := h
  have hstart := he.start
  have hstart' := he'.start
  have hstop := he.stop
  have hstop' := he'.stop
  have hpos := he'.nonempty
  rintro (hle | hle) <;> rw [Edit.Apart] at hle <;> omega

theorem exists_applyAll_headerRemovals_iff :
    (∃ u, Edit.applyAll t (headerRemovals t) = .ok u) ↔ ∀ table name, ¬ HoldsAlias t table name := by
  rw [Edit.exists_applyAll_iff]
  constructor
  · rintro ⟨-, hclear⟩ table name h
    obtain ⟨htable, hname, -⟩ := id h
    obtain ⟨e, he⟩ := exists_removes (mem_headerSpans.2 (.inl htable))
    obtain ⟨e', he'⟩ := exists_removes (mem_headerSpans.2 (.inr hname))
    have hpairwise := (List.pairwise_append.1 (List.pairwise_filterMap.1 hclear)).2.2
    exact h.not_clear he he' (hpairwise table (by simp [htable]) name hname e he.edit e' he'.edit)
  · intro h
    refine ⟨fun e he => (takesLines_of_mem he).fits, (pairwise_headerRemovals t).imp ?_⟩
    rintro e e' (hclear | ⟨table, name, hin, -⟩)
    · exact hclear
    · exact absurd hin (h table name)

theorem exists_collide {f : Fault} (h : Edit.applyAll t (headerRemovals t) = .error f) :
    ∃ e e', Collide t e e' ∧ f = .overlap e.span e'.span := by
  obtain ⟨e, e', rest, hperm, hle, hapart, rfl⟩ := Edit.exists_overlap (fun e he => (takesLines_of_mem he).fits) h
  obtain ⟨span, -, he⟩ := mem_headerRemovals.1 (hperm.subset (List.mem_cons_self))
  obtain ⟨span', -, he'⟩ := mem_headerRemovals.1 (hperm.subset (List.mem_cons_of_mem _ (List.mem_cons_self)))
  have hclear : ¬ Edit.Clear e e' := by
    rintro (hclear | hclear)
    · exact hapart hclear
    · have hstart := he'.start
      have hpos := he'.nonempty
      have hstop := he'.stop
      rw [Edit.Apart] at hclear
      rw [Edit.le_iff] at hle
      omega
  -- the two may stand in either order in the list, but the table starts in front of its alias
  have hall : (headerRemovals t).Pairwise fun e e' => Edit.Clear e e' ∨ Collide t e e' ∨ Collide t e' e :=
    (pairwise_headerRemovals t).imp (Or.imp_right Or.inl)
  have hpair := (hperm.pairwise_iff fun hab => hab.imp Or.symm Or.symm).2 hall
  rcases List.rel_of_pairwise_cons hpair (List.mem_cons_self) with hab | hab | ⟨table, name, ⟨-, -, hlt, -⟩, htable, hname⟩
  · exact absurd hab hclear
  · exact ⟨e, e', hab, rfl⟩
  · have hstart := htable.start
    have hstart' := hname.start
    rw [Edit.le_iff] at hle
    omega

theorem exists_removal_of_span {n : Nat} (h : span ∈ headerSpans t) (hle : span.start ≤ n) (hlt : n < span.stop) :
    ∃ e ∈ headerRemovals t, e.start ≤ n ∧ n < e.stop := by
  obtain ⟨e, he⟩ := exists_removes h
  have hstart := he.start
  have hstop := he.stop
  exact ⟨e, mem_headerRemovals.2 ⟨span, h, he⟩, by omega, by omega⟩

theorem headerAliases_eq_nil_iff {u : Text} (h : Edit.applyAll t (headerRemovals t) = .ok u) :
    headerAliases u = [] ↔ ¬ headerAliasPattern.Interrupted t 0 (Edit.sort (headerRemovals t)) := by
  have hsolid : headerAliasPattern.Solid := solid_of_isSolid rfl
  rw [headerAliases, List.map_eq_nil_iff, findAll_eq_nil_iff]
  refine Edit.absent_iff_not_interrupted lineWise_headerAliasPattern h (fun e => takesLines_of_mem) fun a w b ht ho => ?_
  obtain ⟨m, hm, hle, hlt⟩ := (hsolid.lists_findAll t).exists_mem ht (Nat.zero_le _) ho
  exact exists_removal_of_span (mem_headerSpans.2 (.inr (List.mem_map_of_mem hm))) hle hlt

theorem headerTable?_eq_none_iff {u : Text} (hone : (headerTablePattern.findAll t).length ≤ 1)
    (h : Edit.applyAll t (headerRemovals t) = .ok u) :
    headerTable? u = none ↔ ¬ headerTablePattern.Interrupted t 0 (Edit.sort (headerRemovals t)) := by
  have hsolid : headerTablePattern.Solid := solid_of_isSolid rfl
  rw [headerTable?, Option.map_eq_none_iff, find?_eq_none_iff]
  refine Edit.absent_iff_not_interrupted lineWise_headerTablePattern h (fun e => takesLines_of_mem) fun a w b ht ho => ?_
  obtain ⟨m, hm, hle, hlt⟩ := (hsolid.lists_findAll t).exists_mem ht (Nat.zero_le _) ho
  -- the only table is the first one
  have hfirst : headerTable? t = some m.span := by
    obtain ⟨m', hm'⟩ := List.length_eq_one_iff.1 (Nat.le_antisymm hone (List.length_pos_of_mem hm))
    rw [hm', List.mem_singleton] at hm
    rw [headerTable?, find?_eq_head?, hm', hm]
    rfl
  exact exists_removal_of_span (mem_headerSpans.2 (.inl hfirst)) hle hlt

end Removals

end Shape

namespace Migration

open Shape

/-! ### The step -/

theorem mapM_unlessCut {α β : Type} {f : α → Option β} {xs : List α} (h : ∀ x ∈ xs, ∃ y, f x = some y) :
    xs.mapM (fun x => Fault.unlessCut (f x)) = .ok (xs.filterMap f) := by
  induction xs with
  | nil => rfl
  | cons x xs ih =>
    obtain ⟨⟨y, hy⟩, hxs⟩ := List.forall_mem_cons.1 h
    rw [List.mapM_cons, hy, ih hxs, List.filterMap_cons_some hy]
    rfl

theorem removeHeaderTable_text (t : Text) :
    (removeHeaderTable t).map (fun o => o.text?.getD t) = Edit.applyAll t (headerRemovals t) := by
  have hedits : (headerSpans t).mapM (fun span => Fault.unlessCut (Edit.deleteLines t span.start span.stop)) =
      .ok (headerRemovals t) :=
    mapM_unlessCut fun span hspan => (exists_removes hspan).imp fun e he => he.edit
  unfold removeHeaderTable
  by_cases hnone : ((headerTable? t).toList.isEmpty && (headerAliases t).isEmpty) = true
  · simp only [hnone, ↓reduceIte]
    rw [Bool.and_eq_true, List.isEmpty_iff, List.isEmpty_iff] at hnone
    have hnil : Edit.applyAll t [] = .ok t := by
      rw [Edit.applyAll_eq_ok_iff, Edit.sort, List.mergeSort_nil]
      exact .nil 0 t
    rw [headerRemovals, headerSpans, hnone.1, hnone.2]
    exact hnil.symm
  · simp only [hnone, Bool.false_eq_true, ↓reduceIte]
    rw [← headerSpans, hedits]
    cases h : Edit.applyAll t (headerRemovals t) with
    | error f =>
      simp only [bind, Except.bind, h]
      rfl
    | ok u =>
      simp only [bind, Except.bind, h]
      rfl

theorem applyAll_headerRemovals {t : Text} {o : Output} (h : removeHeaderTable t = .ok o) :
    Edit.applyAll t (headerRemovals t) = .ok (o.text?.getD t) := by
  rw [← removeHeaderTable_text, h]
  rfl

theorem exists_removeHeaderTable_iff {t : Text} :
    (∃ o, removeHeaderTable t = .ok o) ↔ ∀ table name, ¬ HoldsAlias t table name := by
  rw [← exists_applyAll_headerRemovals_iff, ← removeHeaderTable_text]
  cases removeHeaderTable t with
  | error f => simp [Except.map]
  | ok o => simp [Except.map]

/-- The step fails exactly if an alias starts inside the table, and then it names the two deletions. It leaves an
alias exactly if lines that went had interrupted one, and so for a table where there is at most one. -/
theorem removeHeaderTable_leaves_none_iff (t : Text) :
    ((∃ o, removeHeaderTable t = .ok o) ↔ ∀ table name, ¬ HoldsAlias t table name) ∧
    (∀ f, removeHeaderTable t = .error f → ∃ e e', Collide t e e' ∧ f = .overlap e.span e'.span) ∧
    ∀ o, removeHeaderTable t = .ok o →
      (headerAliases (o.text?.getD t) = [] ↔ ¬ headerAliasPattern.Interrupted t 0 (Edit.sort (headerRemovals t))) ∧
      ((headerTablePattern.findAll t).length ≤ 1 →
        (headerTable? (o.text?.getD t) = none ↔
          ¬ headerTablePattern.Interrupted t 0 (Edit.sort (headerRemovals t)))) := by
  refine ⟨exists_removeHeaderTable_iff, fun f hf => ?_, fun o ho => ?_⟩
  · have htext := removeHeaderTable_text t
    rw [hf] at htext
    exact exists_collide htext.symm
  · have htext := applyAll_headerRemovals ho
    exact ⟨headerAliases_eq_nil_iff htext, fun hone => headerTable?_eq_none_iff hone htext⟩

/-- A table and an alias, each on lines of its own. -/
def tableAndAlias : Text :=
  "const corsHeaders=\x7b\x7d\n\nconst corsHeaders=getCorsHeaders(origin)\ngo()".toList

set_option maxRecDepth 20000 in
theorem removeHeaderTable_leaves_none_iff_tableAndAlias :
    ∃ o, removeHeaderTable tableAndAlias = .ok o ∧ o.text?.getD tableAndAlias = "go()".toList ∧
      headerTable? "go()".toList = none ∧ headerAliases "go()".toList = [] ∧
      ¬ headerTablePattern.Interrupted tableAndAlias 0 [.delete 0 22, .delete 22 63] ∧
      ¬ headerAliasPattern.Interrupted tableAndAlias 0 [.delete 0 22, .delete 22 63] := by
  obtain ⟨htable, hnames, hremovals, hone, hleft, htable', hnames'⟩ :
      headerTable? tableAndAlias = some ⟨0, 21⟩ ∧ headerAliases tableAndAlias = [⟨22, 63⟩] ∧
      headerRemovals tableAndAlias = [.delete 0 22, .delete 22 63] ∧
      (headerTablePattern.findAll tableAndAlias).length ≤ 1 ∧
      Edit.splice tableAndAlias 0 [.delete 0 22, .delete 22 63] = "go()".toList ∧
      headerTable? "go()".toList = none ∧ headerAliases "go()".toList = [] := by
    decide +kernel
  have hsort : Edit.sort (headerRemovals tableAndAlias) = [.delete 0 22, .delete 22 63] :=
    Edit.sort_eq (by rw [hremovals]) (by decide)
  obtain ⟨hok, -, hnone⟩ := removeHeaderTable_leaves_none_iff tableAndAlias
  have hfree : ∀ table name, ¬ HoldsAlias tableAndAlias table name := by
    rintro table name ⟨htable', hname, -, hlt⟩
    obtain rfl : table = ⟨0, 21⟩ := Option.some.inj (htable'.symm.trans htable)
    obtain rfl : name = ⟨22, 63⟩ := by simpa [hnames] using hname
    simp at hlt
  obtain ⟨o, ho⟩ := hok.2 hfree
  have hu := (Edit.applyAll_eq_ok_iff.1 (applyAll_headerRemovals ho)).eq_splice [] rfl
  rw [List.nil_append, hsort, hleft] at hu
  obtain ⟨hnames_iff, htable_iff⟩ := hnone o ho
  rw [hu, hsort] at hnames_iff
  rw [hu, hsort] at htable_iff
  exact ⟨o, ho, hu, htable', hnames', (htable_iff hone).1 htable', hnames_iff.1 hnames'⟩

/-- A table with an alias between its braces. -/
def aliasInTable : Text := "const corsHeaders=\x7b\nconst corsHeaders=getCorsHeaders(origin)\n\x7d".toList

def twoTables : Text := "const corsHeaders=\x7b\x7d\nconst corsHeaders=\x7b\x7d".toList

/-- An alias with a table between its words. -/
def cutAlias : Text := "const\nconst corsHeaders=\x7b\x7d\ncorsHeaders=getCorsHeaders(origin)".toList

set_option maxRecDepth 20000 in
theorem removeHeaderTable_leaves_headers :
    (¬ ∃ o, removeHeaderTable aliasInTable = .ok o) ∧
    (∃ o u, removeHeaderTable twoTables = .ok o ∧ o.text? = some u ∧ headerTable? u = some ⟨0, 20⟩) ∧
    ∃ o u, removeHeaderTable cutAlias = .ok o ∧ o.text? = some u ∧ headerAliases u = [⟨0, 40⟩] := by
  obtain ⟨htable, hname, htwo, hleft, hcut, hleft'⟩ :
      headerTable? aliasInTable = some ⟨0, 62⟩ ∧ ⟨20, 61⟩ ∈ headerAliases aliasInTable ∧
      (removeHeaderTable twoTables).toOption =
        some (.change "const corsHeaders=\x7b\x7d".toList ["removed local corsHeaders table"]) ∧
      headerTable? "const corsHeaders=\x7b\x7d".toList = some ⟨0, 20⟩ ∧
      (removeHeaderTable cutAlias).toOption =
        some (.change "const\ncorsHeaders=getCorsHeaders(origin)".toList ["removed local corsHeaders table"]) ∧
      headerAliases "const\ncorsHeaders=getCorsHeaders(origin)".toList = [⟨0, 40⟩] := by
    decide +kernel
  refine ⟨fun hok => ?_, ⟨_, _, toOption_eq_some htwo, rfl, hleft⟩, _, _, toOption_eq_some hcut, rfl, hleft'⟩
  exact exists_removeHeaderTable_iff.1 hok _ _ ⟨htable, hname, by decide, by decide⟩

end Migration

end HandlerMigration
