import HandlerMigration.Proofs.Bytes
import HandlerMigration.Proofs.ImportExtension
import HandlerMigration.Settings.Basic

/-!
# Where new imports go

New imports go behind the line that the anchor ends on, and that line is looked up one byte in front of the end of
the match. Two things follow from it. If the last character of the match has more than one byte, there is no such
place, and that is the only way for the step to fail (`normalizeImports_eq_error_iff`). And if the match runs over a
newline behind the closing quote of the anchor, the line is a later one (`normalizeImports_places`).
-/

namespace HandlerMigration

open Text

namespace Text

/-- One byte in front of the end of a part there is a place to cut, unless its last character is wider. -/
theorem cut_pred_eq_none_iff {x y : Text} :
    (x ++ y).cut (size x - 1) = none ↔ ∃ z c, x = z ++ [c] ∧ 1 < c.utf8Size := by
  rcases List.eq_nil_or_concat' x with rfl | ⟨z, c, rfl⟩
  · simp [cut]
  have hpos := Char.utf8Size_pos c
  rw [size_append, size_cons, size_nil, Nat.add_zero]
  by_cases hc : c.utf8Size = 1
  · have hcut : cut (z ++ [c] ++ y) (size z + c.utf8Size - 1) = some (z, [c] ++ y) := by
      rw [hc, Nat.add_sub_cancel, List.append_assoc]
      exact cut_append z _
    rw [hcut]
    refine ⟨fun h => absurd h (Option.some_ne_none _), ?_⟩
    rintro ⟨z', c', heq, hc'⟩
    obtain rfl : c = c' := by simpa using (List.append_inj' heq rfl).2
    omega
  · refine ⟨fun _ => ⟨z, c, rfl, by omega⟩, fun _ => ?_⟩
    rw [Option.eq_none_iff_forall_ne_some]
    rintro ⟨a, b⟩ hcut
    obtain ⟨heq, hsize⟩ := cut_eq_some_iff.1 hcut
    rw [List.append_assoc] at heq
    obtain ⟨x, y', rfl, hx, -, hne⟩ := exists_inside heq (by omega) (by rw [size_append, size_cons, size_nil]; omega)
    obtain ⟨rfl, -⟩ : x = [] ∧ y' = [c] := by
      rcases List.append_eq_singleton_iff.1 hx.symm with h | ⟨-, h⟩
      · exact h
      · exact absurd h hne
    rw [List.append_nil] at hsize
    omega

theorem lineEnd_eq_iff {x g y : Text} {c : Char} :
    (x ++ (g ++ c :: y)).lineEnd (size x) = (x ++ (g ++ c :: y)).lineEnd (size (x ++ g)) ↔ '\n' ∉ g := by
  have hlater : (x ++ (g ++ c :: y)).lineEnd (size (x ++ g)) = some (size (x ++ g ++ firstLine (c :: y))) := by
    rw [← List.append_assoc]
    exact lineEnd_append _ _
  rw [lineEnd_append, hlater, Option.some.injEq]
  constructor
  · intro heq hmem
    obtain ⟨g₁, g₂, rfl, hg₁⟩ := List.eq_append_cons_of_mem hmem
    have hpos : 0 < size (firstLine (c :: y)) := by
      refine size_pos ?_
      rw [firstLine]
      split_ifs <;> exact List.cons_ne_nil _ _
    rw [List.append_assoc, firstLine_append hg₁, List.cons_append, firstLine_newline] at heq
    simp only [size_append, size_cons, size_nil] at heq
    omega
  · intro hg
    rw [firstLine_append hg, List.append_assoc]

end Text

/-! ### The end of an anchor -/

/-- The members of a set that lists them. -/
def CharSet.members? : CharSet → Option (List Char)
  | chars cs => some cs
  | union s t => s.members?.bind fun cs => t.members?.map (cs ++ ·)
  | _ => .none

theorem CharSet.mem_of_members? {s : CharSet} {cs : List Char} (h : s.members? = some cs) {c : Char}
    (hc : s.has c = true) : c ∈ cs := by
  induction s generalizing cs with
  | chars ds =>
    cases h
    exact List.contains_iff_mem.1 hc
  | union s t ihs iht =>
    obtain ⟨ds, hds, h⟩ := Option.bind_eq_some_iff.1 h
    obtain ⟨es, hes, rfl⟩ := Option.map_eq_some_iff.1 h
    rcases Bool.or_eq_true_iff.1 hc with hc | hc
    · exact List.mem_append_left _ (ihs hds hc)
    · exact List.mem_append_right _ (iht hes hc)
  | _ => cases h

namespace Pattern

variable {p : Pattern} {last next : Option Char} {w : Text}

/-- For a pattern whose pieces end with a quote, blanks and closing characters: the quotes and the closing
characters. -/
def quotedEnd? : Pattern → Option (List Char × List Char)
  | seq (one quotes) (seq (many .blank _ _ _) (many closing _ _ _)) =>
    quotes.members?.bind fun qs => closing.members?.map (qs, ·)
  | seq _ q => q.quotedEnd?
  | _ => none

theorem Spells.exists_quotedEnd {qs cs : List Char} (h : p.Spells last w next) (hp : p.quotedEnd? = some (qs, cs)) :
    ∃ x q g, w = x ++ q :: g ∧ q ∈ qs ∧ ∀ c ∈ g, isBlank c = true ∨ c ∈ cs := by
  fun_induction quotedEnd? p generalizing last w next with
  | case1 quotes _ _ _ closing _ _ _ =>
    obtain ⟨qs', hqs, hp⟩ := Option.bind_eq_some_iff.1 hp
    obtain ⟨cs', hcs, hp⟩ := Option.map_eq_some_iff.1 hp
    cases hp
    obtain ⟨_, _, rfl, ⟨q, rfl, hq⟩, g, e, rfl, hg, he⟩ := h
    refine ⟨[], q, g ++ e, rfl, CharSet.mem_of_members? hqs hq, ?_⟩
    intro c hc
    rcases List.mem_append.1 hc with hc | hc
    · exact .inl (hg.1 c hc)
    · exact .inr (CharSet.mem_of_members? hcs (he.1 c hc))
  | case2 p q _ ih =>
    obtain ⟨u, v, rfl, -, hv⟩ := h
    obtain ⟨x, q, g, rfl, hq, hg⟩ := ih hv hp
    exact ⟨u ++ x, q, g, by simp, hq, hg⟩
  | case3 => cases hp

end Pattern

namespace Migration

open Shape Pattern

variable {ctx : Context} {t u : Text}

set_option maxRecDepth 20000 in
theorem serverImport_standard {anchors : Anchors} (h : Settings.standard.anchors = .ok anchors) :
    anchors.serverImport.quotedEnd? = some (['\'', '"'], [';']) ∧ anchors.serverImport.leading = ['i'] := by
  have hstandard : Settings.standard.anchors.toOption.map
      (fun anchors => (anchors.serverImport.quotedEnd?, anchors.serverImport.leading)) =
        some (some (['\'', '"'], [';']), ['i']) := by
    decide +kernel
  rw [h] at hstandard
  exact Prod.mk.inj (Option.some.inj hstandard)

/-! ### Answers of the step -/

/-- New imports as they are put in at an offset. -/
def importBlock (t : Text) (offset : Nat) (lines : List String) : Text :=
  if offset = t.size && !t.endsWith ['\n'] then '\n' :: ("\n".intercalate lines).toList
  else ("\n".intercalate lines).toList ++ ['\n']

theorem insertLines_eq_ok {anchor offset : Nat} (h : t.lineEnd (anchor - 1) = some offset) (lines : List String) :
    insertLines t anchor lines = .ok (.insert offset (importBlock t offset lines)) := by
  rw [insertLines, h, importBlock]
  show (if (decide (offset = t.size) && !t.endsWith ['\n']) = true then _ else _) = _
  split_ifs <;> rfl

theorem insertLines_eq_error {anchor : Nat} (h : t.lineEnd (anchor - 1) = none) (lines : List String) :
    insertLines t anchor lines = .error .noSuchOffset := by
  rw [insertLines, h]
  rfl

theorem fits_lineEnd {n offset : Nat} (h : t.lineEnd n = some offset) (new : Text) :
    (Edit.insert offset new).Fits t := by
  obtain ⟨⟨a, b⟩, hcut, rfl⟩ := Option.map_eq_some_iff.1 h
  obtain ⟨rfl, rfl⟩ := cut_eq_some_iff.1 hcut
  obtain ⟨r, hr⟩ := firstLine_isPrefix b
  have hfits := Edit.fits_insert (a ++ firstLine b) r new
  rwa [List.append_assoc, hr, size_append] at hfits

section Answers

variable {anchor offset : Nat} (hlines : importLines ctx.policy t ≠ [])

include hlines

theorem exists_placed_lines (hanchor : importAnchor? ctx t = some anchor)
    (hoffset : t.lineEnd (anchor - 1) = some offset) :
    ∃ u notes, Edit.applyAll t (importEdits ctx.policy t ++
      [.insert offset (importBlock t offset (importLines ctx.policy t))]) = .ok u ∧
        normalizeImports ctx t = .ok ⟨some u, notes⟩ := by
  obtain ⟨u, hu⟩ : ∃ u, Edit.applyAll t (importEdits ctx.policy t ++
      [.insert offset (importBlock t offset (importLines ctx.policy t))]) = .ok u := by
    refine Edit.exists_applyAll_iff.2 ⟨List.forall_mem_append.2 ⟨fun e he => fits_importEdits he, ?_⟩,
      Edit.pairwise_clear (List.forall_mem_append.2 ⟨fun e he => stop_of_mem_importEdits he, ?_⟩)⟩
    · exact List.forall_mem_singleton.2 (fits_lineEnd hoffset _)
    · exact List.forall_mem_singleton.2 rfl
  suffices hanswer : ∃ notes, normalizeImports ctx t = .ok ⟨some u, notes⟩ by
    obtain ⟨notes, hnotes⟩ := hanswer
    exact ⟨u, notes, hu, hnotes⟩
  unfold importEdits at hu
  unfold importLines at hlines hu
  unfold normalizeImports
  simp only [List.isEmpty_iff, hlines, ↓reduceIte, hanchor]
  rw [insertLines_eq_ok hoffset]
  exact ⟨_, by simp only [bind, Except.bind, hu]; rfl⟩

theorem normalizeImports_of_no_place (hanchor : importAnchor? ctx t = some anchor)
    (hnone : t.lineEnd (anchor - 1) = none) : normalizeImports ctx t = .error .noSuchOffset := by
  unfold importLines at hlines
  unfold normalizeImports
  simp only [List.isEmpty_iff, hlines, ↓reduceIte, hanchor]
  rw [insertLines_eq_error hnone]
  rfl

theorem exists_unanchored (hanchor : importAnchor? ctx t = none) : ∃ o, normalizeImports ctx t = .ok o := by
  obtain ⟨u, hu⟩ := exists_importEdits ctx.policy t
  unfold importEdits at hu
  unfold importLines at hlines
  unfold normalizeImports
  simp only [List.isEmpty_iff, hlines, ↓reduceIte, hanchor]
  split_ifs
  · exact ⟨_, rfl⟩
  · rw [hu]
    exact ⟨_, rfl⟩

end Answers

/-- The step fails exactly if there is no place one byte in front of the end of the anchor. -/
theorem eq_error_iff_no_place {f : Fault} : normalizeImports ctx t = .error f ↔ f = .noSuchOffset ∧
    importLines ctx.policy t ≠ [] ∧ ∃ anchor, importAnchor? ctx t = some anchor ∧ t.cut (anchor - 1) = none := by
  have hends : ∀ n, t.lineEnd n = none ↔ t.cut n = none := fun n => Option.map_eq_none_iff
  constructor
  · intro h
    by_cases hlines : importLines ctx.policy t = []
    · obtain ⟨u, hu⟩ := exists_importEdits ctx.policy t
      obtain ⟨o, ho, -⟩ := normalizeImports_of_found hlines hu
      cases ho.symm.trans h
    · cases hanchor : importAnchor? ctx t with
      | none =>
        obtain ⟨o, ho⟩ := exists_unanchored hlines hanchor
        cases ho.symm.trans h
      | some anchor =>
        cases hoffset : t.lineEnd (anchor - 1) with
        | some offset =>
          obtain ⟨u, notes, -, ho⟩ := exists_placed_lines hlines hanchor hoffset
          cases ho.symm.trans h
        | none =>
          cases (normalizeImports_of_no_place hlines hanchor hoffset).symm.trans h
          exact ⟨rfl, hlines, anchor, rfl, (hends _).1 hoffset⟩
  · rintro ⟨rfl, hlines, anchor, hanchor, hnone⟩
    exact normalizeImports_of_no_place hlines hanchor ((hends _).2 hnone)

/-! ### The place of an anchor -/

theorem cut_lastImportLine {span : Span} (h : lastImportLine? t = some span) : t.cut (span.stop - 1) ≠ none := by
  obtain ⟨m, hm, rfl⟩ := Option.map_eq_some_iff.1 h
  have hsolid : importLinePattern.Solid := solid_of_isSolid (by decide)
  obtain ⟨a, w, b, hsits⟩ := hsolid.exists_sits (List.mem_of_getLast? hm)
  obtain ⟨_, _, hw, ⟨_, m₂, rfl, ⟨_, e, rfl, ⟨_, m₁, rfl, ⟨x, _, rfl, -, q, rfl, hq⟩, hm₁⟩, he⟩, hm₂⟩, rfl, -⟩ :=
    hsits.occurs
  have hnarrow : ∀ c ∈ [q] ++ m₁ ++ e ++ m₂, c.utf8Size = 1 := by
    have hmargin : ∀ {c : Char}, (CharSet.chars [' ', '\t']).has c = true → c.utf8Size = 1 := by
      intro c hc
      rcases (by simpa [CharSet.has] using hc : c = ' ' ∨ c = '\t') with rfl | rfl <;> rfl
    simp only [List.forall_mem_append, List.forall_mem_singleton]
    refine ⟨⟨⟨?_, fun c hc => hmargin (hm₁.1 c hc)⟩, ?_⟩, fun c hc => hmargin (hm₂.1 c hc)⟩
    · rcases (by simpa [CharSet.has] using hq : q = '\'' ∨ q = '"') with rfl | rfl <;> rfl
    · rcases he with rfl | rfl
      · exact List.forall_mem_singleton.2 rfl
      · exact List.forall_mem_nil _
  rw [hsits.text_eq, hsits.span_eq, ← List.append_assoc, ne_eq, cut_pred_eq_none_iff]
  rintro ⟨z, c, hz, hc⟩
  have hlast : (a ++ w).getLast? = some c := by rw [hz, List.getLast?_concat]
  have hw' : a ++ w = a ++ x ++ ([q] ++ m₁ ++ e ++ m₂) := by rw [hw]; simp
  rw [hw', List.getLast?_append_of_ne_nil _ (by simp)] at hlast
  have := hnarrow c (List.mem_of_getLast? hlast)
  omega

/-- `c` stands in front of the end of the first match. -/
def EndsWith (p : Pattern) (t : Text) (c : Char) : Prop :=
  ∃ m x y, p.find? t = some m ∧ t = x ++ c :: y ∧ size (x ++ [c]) = m.span.stop

theorem cut_anchor_eq_none_iff : (∃ anchor, importAnchor? ctx t = some anchor ∧ t.cut (anchor - 1) = none) ↔
    ∃ c, EndsWith ctx.anchors.serverImport t c ∧ 1 < c.utf8Size := by
  unfold importAnchor? EndsWith
  cases hfind : ctx.anchors.serverImport.find? t with
  | none =>
    constructor
    · rintro ⟨anchor, hanchor, hnone⟩
      obtain ⟨span, hspan, rfl⟩ := Option.map_eq_some_iff.1 hanchor
      exact absurd hnone (cut_lastImportLine hspan)
    · rintro ⟨c, ⟨m, x, y, hm, -⟩, -⟩
      cases hm
  | some m =>
    obtain ⟨a, w, b, stop, hfirst, hspan, -⟩ := find?_eq_some hfind
    have ht : t = (a ++ w) ++ b := by rw [List.append_assoc]; exact hfirst.rest_eq
    have hcut : t.cut (m.span.stop - 1) = none ↔ ∃ z c, a ++ w = z ++ [c] ∧ 1 < c.utf8Size := by
      rw [hspan]
      conv_lhs => rw [ht]
      exact cut_pred_eq_none_iff
    constructor
    · rintro ⟨anchor, hanchor, hnone⟩
      obtain rfl : m.span.stop = anchor := Option.some.inj hanchor
      obtain ⟨z, c, hz, hc⟩ := hcut.1 hnone
      refine ⟨c, ⟨m, z, b, rfl, ?_, ?_⟩, hc⟩
      · rw [ht, hz]
        simp
      · rw [hspan, hz]
    · rintro ⟨c, ⟨m', x, y, hm', hx, hsize⟩, hc⟩
      cases hm'
      refine ⟨_, rfl, hcut.2 ⟨x, c, ?_, hc⟩⟩
      have hx' : (a ++ w) ++ b = (x ++ [c]) ++ y := by rw [← ht, hx]; simp
      rw [hspan] at hsize
      exact (append_inj_of_size hx' hsize.symm).1

theorem exists_closing_quote (hanchors : Settings.standard.anchors = .ok ctx.anchors) {m : Match}
    (hm : ctx.anchors.serverImport.find? t = some m) :
    ∃ x q gap y, t = x ++ q :: (gap ++ y) ∧ m.span.start < size x ∧ size (x ++ q :: gap) = m.span.stop ∧
      isQuote q = true ∧ ∀ c ∈ gap, isBlank c = true ∨ c = ';' := by
  obtain ⟨hend, hlead⟩ := serverImport_standard hanchors
  obtain ⟨a, w, b, stop, hfirst, hspan, -⟩ := find?_eq_some hm
  have hspells : ctx.anchors.serverImport.Spells _ w _ := hfirst.occurs
  obtain ⟨x, q, gap, rfl, hq, hgap⟩ := hspells.exists_quotedEnd hend
  have hquote : q = '\'' ∨ q = '"' := by simpa using hq
  have hx : x ≠ [] := by
    rintro rfl
    obtain ⟨r, hr⟩ := hspells.leading_isPrefix
    rw [hlead] at hr
    obtain ⟨rfl, -⟩ := List.cons.inj hr
    rcases hquote with h | h <;> cases h
  refine ⟨a ++ x, q, gap, b, ?_, ?_, ?_, ?_, ?_⟩
  · rw [hfirst.rest_eq]
    simp
  · have hpos := size_pos hx
    rw [hspan]
    show size a < size (a ++ x)
    rw [size_append]
    omega
  · rw [hspan, List.append_assoc]
  · rcases hquote with rfl | rfl <;> rfl
  · intro c hc
    exact (hgap c hc).imp_right List.mem_singleton.1

/-- The step fails exactly if a line is to be added and the anchor ends with a character of more than one byte. With the
built-in anchors that is a blank one. -/
theorem normalizeImports_eq_error_iff (ctx : Context) (t : Text) (f : Fault) :
    (normalizeImports ctx t = .error f ↔ f = .noSuchOffset ∧
      (∃ r ∈ requiredImports ctx.policy, moduleImport? t r.1.toList = none) ∧
      ∃ c, EndsWith ctx.anchors.serverImport t c ∧ 1 < c.utf8Size) ∧
    (Settings.standard.anchors = .ok ctx.anchors →
      ∀ c, EndsWith ctx.anchors.serverImport t c → 1 < c.utf8Size → isBlank c = true) := by
  constructor
  · rw [eq_error_iff_no_place, cut_anchor_eq_none_iff, ne_eq, importLines_eq_nil_iff]
    simp only [not_forall, ne_eq, not_not, exists_prop]
  · rintro hanchors c ⟨m, x', y', hm, hx', hsize⟩ hwide
    obtain ⟨x, q, gap, y, ht, -, hstop, hq, hgap⟩ := exists_closing_quote hanchors hm
    have hend : x' ++ [c] = x ++ q :: gap := by
      have heq : (x' ++ [c]) ++ y' = (x ++ q :: gap) ++ y := by simp [← hx', ht]
      exact (append_inj_of_size heq (hsize.trans hstop.symm)).1
    have hmem : c ∈ q :: gap := by
      have hlast := congrArg List.getLast? hend
      rw [List.getLast?_concat, List.getLast?_append_of_ne_nil _ (List.cons_ne_nil q gap)] at hlast
      exact List.mem_of_getLast? hlast.symm
    rcases List.mem_cons.1 hmem with rfl | hmem
    · rcases (by simpa [isQuote] using hq : c = '\'' ∨ c = '"') with rfl | rfl <;> exact absurd hwide (by decide)
    · rcases hgap c hmem with hblank | rfl
      · exact hblank
      · exact absurd hwide (by decide)

/-- A fault, or the new text of an answer if there is one. -/
def faultOrText : Except Fault Output → Fault ⊕ Option Text
  | .error f => .inl f
  | .ok o => .inr o.text?

theorem eq_error_of_faultOrText {x : Except Fault Output} {f : Fault} (h : faultOrText x = .inl f) : x = .error f := by
  cases x with
  | error e => rw [Sum.inl.inj h]
  | ok o => cases h

theorem exists_ok_of_faultOrText {x : Except Fault Output} {text? : Option Text} (h : faultOrText x = .inr text?) :
    ∃ notes, x = .ok ⟨text?, notes⟩ := by
  cases x with
  | error e => cases h
  | ok o =>
    obtain rfl : o.text? = text? := Sum.inr.inj h
    exact ⟨o.notes, rfl⟩

/-- What the step makes of a text with the built-in anchors. -/
def importAnswer (t : Text) : Option (Fault ⊕ Option Text) :=
  Settings.standard.anchors.toOption.map fun anchors => faultOrText (normalizeImports ⟨"f", .corsOnly, anchors⟩ t)

theorem importAnswer_eq_some {answer : Fault ⊕ Option Text} (h : importAnswer t = some answer) :
    ∃ anchors, Settings.standard.anchors = .ok anchors ∧
      faultOrText (normalizeImports ⟨"f", .corsOnly, anchors⟩ t) = answer := by
  obtain ⟨anchors, hanchors, h⟩ := Option.map_eq_some_iff.1 h
  exact ⟨anchors, toOption_eq_some hanchors, h⟩

/-- An import of the server. -/
def serveImport : Text := "import\x7bserve\x7dfrom'https://deno.land/std@1/http/server.ts'".toList

set_option maxRecDepth 20000 in
/-- The step fails behind an anchor that ends with an ideographic space, and behind a user's anchor that ends with a
letter of two bytes. -/
theorem normalizeImports_fails :
    (∃ anchors, Settings.standard.anchors = .ok anchors ∧
      normalizeImports ⟨"f", .corsOnly, anchors⟩ (serveImport ++ ['\u3000']) = .error .noSuchOffset) ∧
    ∃ p, Pattern.ofString? "é" = some p ∧
      normalizeImports ⟨"f", .corsOnly, ⟨.empty, p⟩⟩ ['é'] = .error .noSuchOffset := by
  obtain ⟨hanswer, hwritten⟩ : importAnswer (serveImport ++ ['\u3000']) = some (.inl .noSuchOffset) ∧
      ((Pattern.ofString? "é").map fun p => faultOrText (normalizeImports ⟨"f", .corsOnly, ⟨.empty, p⟩⟩ ['é'])) =
        some (.inl .noSuchOffset) := by
    decide +kernel
  refine ⟨?_, ?_⟩
  · obtain ⟨anchors, hanchors, hfault⟩ := importAnswer_eq_some hanswer
    exact ⟨anchors, hanchors, eq_error_of_faultOrText hfault⟩
  · obtain ⟨p, hp, hfault⟩ := Option.map_eq_some_iff.1 hwritten
    exact ⟨p, hp, eq_error_of_faultOrText hfault⟩

theorem exists_last_place {x gap y : Text} {q : Char} (ht : t = x ++ q :: (gap ++ y))
    (hascii : ∀ c ∈ t, c.toNat < 128) :
    ∃ g c, q :: gap = g ++ [c] ∧ t = x ++ (g ++ c :: y) ∧ size (x ++ q :: gap) - 1 = size (x ++ g) := by
  obtain ⟨g, c, hg⟩ := (List.eq_nil_or_concat' (q :: gap)).resolve_left (List.cons_ne_nil q gap)
  have hcut : t = x ++ (g ++ c :: y) := by
    have : t = x ++ ((q :: gap) ++ y) := by rw [ht]; simp
    rw [this, hg]
    simp
  have hone : c.utf8Size = 1 := utf8Size_of_lt (hascii c (by simp [hcut]))
  refine ⟨g, c, hg, hcut, ?_⟩
  rw [hg, ← List.append_assoc, size_append (x ++ g), size_cons, hone]
  rfl

/-- In an ASCII text new imports go behind the line that the match of the built-in anchor ends on. That is the line of
the anchor's closing quote exactly if the match does not run over its newline and on. -/
theorem normalizeImports_places {m : Match} (hanchors : Settings.standard.anchors = .ok ctx.anchors)
    (hascii : ∀ c ∈ t, c.toNat < 128) (hm : ctx.anchors.serverImport.find? t = some m)
    (hmissing : ∃ r ∈ requiredImports ctx.policy, moduleImport? t r.1.toList = none) :
    ∃ x q gap y, t = x ++ q :: (gap ++ y) ∧ m.span.start < size x ∧ size (x ++ q :: gap) = m.span.stop ∧
      isQuote q = true ∧ (∀ c ∈ gap, isBlank c = true ∨ c = ';') ∧
      ∃ offset u notes, t.lineEnd (m.span.stop - 1) = some offset ∧
        normalizeImports ctx t = .ok ⟨some u, notes⟩ ∧
        Edit.applyAll t (importEdits ctx.policy t ++
          [.insert offset (importBlock t offset (importLines ctx.policy t))]) = .ok u ∧
        (t.lineEnd (size x) = some offset ↔ '\n' ∉ gap.dropLast) := by
  obtain ⟨x, q, gap, y, ht, hstart, hstop, hq, hgap⟩ := exists_closing_quote hanchors hm
  have hlines : importLines ctx.policy t ≠ [] := by
    obtain ⟨r, hr, hnone⟩ := hmissing
    exact fun hnil => importLines_eq_nil_iff.1 hnil r hr hnone
  have hanchor : importAnchor? ctx t = some m.span.stop := by rw [importAnchor?, hm]
  obtain ⟨g, c, hg, hcut, hlast⟩ := exists_last_place ht hascii
  have hplace : m.span.stop - 1 = size (x ++ g) := by rw [← hstop, hlast]
  have hoffset : t.lineEnd (m.span.stop - 1) = some (size (x ++ g ++ firstLine (c :: y))) := by
    rw [hplace, hcut, ← List.append_assoc]
    exact lineEnd_append _ _
  obtain ⟨u, notes, hu, hanswer⟩ := exists_placed_lines hlines hanchor hoffset
  refine ⟨x, q, gap, y, ht, hstart, hstop, hq, hgap, _, u, notes, hoffset, hanswer, hu, ?_⟩
  have hsame : t.lineEnd (size x) = some (size (x ++ g ++ firstLine (c :: y))) ↔ '\n' ∉ g := by
    rw [← hoffset, hplace, hcut]
    exact lineEnd_eq_iff
  have hdrop : g = (q :: gap).dropLast := by rw [hg, List.dropLast_concat]
  have hne : '\n' ≠ q := by
    rintro rfl
    cases hq
  rw [hsame, hdrop]
  cases gap with
  | nil => simp
  | cons d gap => rw [List.dropLast_cons_of_ne_nil (List.cons_ne_nil d gap), List.mem_cons, or_iff_right hne]

/-- An anchor with an indented line behind it, which imports one of the modules. -/
def indentedImport : Text := serveImport ++ "\n\timport\x7ba\x7dfrom'x/cors-config.ts'\ngo()".toList

set_option maxRecDepth 20000 in
theorem normalizeImports_places_indentedImport :
    ∃ anchors m, Settings.standard.anchors = .ok anchors ∧ anchors.serverImport.find? indentedImport = some m ∧
      ∃ x q gap y, indentedImport = x ++ q :: (gap ++ y) ∧ m.span.start < size x ∧ size (x ++ q :: gap) = m.span.stop ∧
        isQuote q = true ∧ (∀ c ∈ gap, isBlank c = true ∨ c = ';') ∧
        ∃ offset u notes, indentedImport.lineEnd (m.span.stop - 1) = some offset ∧
          normalizeImports ⟨"f", .plainAuth, anchors⟩ indentedImport = .ok ⟨some u, notes⟩ ∧
          Edit.applyAll indentedImport (importEdits .plainAuth indentedImport ++
            [.insert offset (importBlock indentedImport offset (importLines .plainAuth indentedImport))]) = .ok u ∧
          (indentedImport.lineEnd (size x) = some offset ↔ '\n' ∉ gap.dropLast) := by
  obtain ⟨hfound, hascii, hmissing⟩ :
      (Settings.standard.anchors.toOption.any fun anchors =>
        (anchors.serverImport.find? indentedImport).isSome) = true ∧
      (indentedImport.all fun c => decide (c.toNat < 128)) = true ∧
      ((requiredImports .plainAuth).any fun r => (moduleImport? indentedImport r.1.toList).isNone) = true := by
    decide +kernel
  cases hanchors : Settings.standard.anchors with
  | error e =>
    rw [hanchors] at hfound
    cases hfound
  | ok anchors =>
    rw [hanchors] at hfound
    have hsome : (anchors.serverImport.find? indentedImport).isSome = true := hfound
    obtain ⟨m, hm⟩ := Option.isSome_iff_exists.1 hsome
    obtain ⟨r, hr, hnone⟩ := List.any_eq_true.1 hmissing
    refine ⟨anchors, m, rfl, hm, ?_⟩
    exact @normalizeImports_places ⟨"f", .plainAuth, anchors⟩ indentedImport m hanchors
      (fun c hc => of_decide_eq_true (List.all_eq_true.1 hascii c hc)) hm ⟨r, hr, Option.isNone_iff_eq_none.1 hnone⟩

/-- An anchor with an indented statement behind it. -/
def indentedStatement : Text := serveImport ++ "\n go()\n".toList

set_option maxRecDepth 20000 in
/-- The new import stands behind the statement that follows the anchor, and not behind the anchor's line. -/
theorem normalizeImports_places_too_late :
    ∃ anchors notes, Settings.standard.anchors = .ok anchors ∧
      normalizeImports ⟨"f", .corsOnly, anchors⟩ indentedStatement = .ok ⟨some (indentedStatement ++
        "import \x7b getCorsHeaders, handleCorsPreflightRequest \x7d from '../_shared/cors-config.ts';\n".toList),
        notes⟩ ∧
      indentedStatement.lineEnd (size serveImport - 1) = some (size serveImport + 1) := by
  obtain ⟨hanswer, hline⟩ : importAnswer indentedStatement = some (.inr (some (indentedStatement ++
        "import \x7b getCorsHeaders, handleCorsPreflightRequest \x7d from '../_shared/cors-config.ts';\n".toList))) ∧
      indentedStatement.lineEnd (size serveImport - 1) = some (size serveImport + 1) := by
    decide +kernel
  obtain ⟨anchors, hanchors, hnew⟩ := importAnswer_eq_some hanswer
  obtain ⟨notes, hnotes⟩ := exists_ok_of_faultOrText hnew
  exact ⟨anchors, notes, hanchors, hnotes, hline⟩

end Migration

end HandlerMigration
