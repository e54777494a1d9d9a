import HandlerMigration.Proofs.HeaderSites
import HandlerMigration.Proofs.Places

/-!
# How often a text names the headers

The search for references counts the places at which the name of the table stands as a word
(`headerReferences_eq`), so that the references of two texts add up unless a word crosses the seam between them
(`headerReferences_append`). A site and what replaces it start with the same fixed text, which ends no word, and no
word crosses their ends. Each site that names the table therefore takes one reference with it, and nothing else
changes (`shareHeaders_references`).
-/

namespace HandlerMigration.Shape

open Text Pattern Migration

variable {a b u v x y t : Text}

/-- Whether the name of the table stands as a word in front of a text. -/
def isReference (last : Option Char) (x : Text) : Bool :=
  !last.any Unicode.isWord && tableName.isPrefixOf x && !(x.drop 11).head?.any Unicode.isWord

theorem isReference_iff {last : Option Char} : isReference last x = true ↔
    last.any Unicode.isWord = false ∧ ∃ z, x = tableName ++ z ∧ z.head?.any Unicode.isWord = false := by
  simp only [isReference, Bool.and_eq_true, Bool.not_eq_true', List.isPrefixOf_iff_prefix, and_assoc]
  refine and_congr_right fun _ => ⟨?_, ?_⟩
  · rintro ⟨⟨z, rfl⟩, hz⟩
    exact ⟨z, rfl, hz⟩
  · rintro ⟨z, rfl, hz⟩
    exact ⟨List.prefix_append _ _, hz⟩

theorem occurs_of_isReference (h : isReference a.getLast? x = true) :
    ∃ b, x = tableName ++ b ∧ headerReferencePattern.Occurs a tableName b := by
  obtain ⟨ha, b, rfl, hb⟩ := isReference_iff.1 h
  exact ⟨b, rfl, headerReferencePattern_occurs_iff.2 ⟨rfl, ha, hb⟩⟩

theorem solid_headerReferencePattern : headerReferencePattern.Solid := solid_of_isSolid (by decide)

theorem places_tableName {last : Option Char} (h : isReference last (tableName ++ b) = true) :
    places (fun last x => isReference last (x ++ b)) last tableName = 1 := by
  rw [tableName, places, ← tableName, h, places_eq_zero, Bool.toNat_true]
  intro x c y hs
  refine Bool.eq_false_iff.2 fun hin => ?_
  obtain ⟨-, z, hz, -⟩ := isReference_iff.1 hin
  obtain ⟨rfl, -⟩ := List.cons.inj hz
  have hc : 'c' ∉ tableName.tail := by decide
  exact hc (by rw [show tableName.tail = _ from hs]; simp)

theorem length_of_lists {bound : Nat} {done rest : Text} {ms : List Match}
    (h : Pattern.Lists headerReferencePattern bound done rest ms) :
    ms.length = places isReference done.getLast? rest := by
  induction h with
  | @nil done rest habsent =>
    refine (places_eq_zero fun x c y hrest => Bool.eq_false_iff.2 fun hin => ?_).symm
    rw [← List.getLast?_append] at hin
    obtain ⟨b, hb, ho⟩ := occurs_of_isReference hin
    exact habsent x tableName b (by rw [hrest, hb]) ho
  | @cons done rest a w b stop ms hfirst _ ih =>
    obtain ⟨rfl, ha, hb⟩ := headerReferencePattern_occurs_iff.1 hfirst.occurs
    have hgap : places (fun last x => isReference last (x ++ (tableName ++ b))) done.getLast? a = 0 := by
      refine places_eq_zero fun x c y hsplit => Bool.eq_false_iff.2 fun hin => ?_
      rw [← List.getLast?_append] at hin
      obtain ⟨b', hb', ho⟩ := occurs_of_isReference hin
      have hle := hfirst.first x tableName b' (by rw [hfirst.rest_eq, hsplit, ← hb']; simp) ho
      rw [hsplit, List.length_append, List.length_cons] at hle
      omega
    rw [List.length_cons, ih, hfirst.rest_eq, places_append, hgap, places_append, ← List.getLast?_append,
      places_tableName (isReference_iff.2 ⟨ha, b, rfl, hb⟩), ← List.getLast?_append]
    omega

theorem headerReferences_eq (t : Text) : headerReferences t = places isReference none t :=
  length_of_lists (solid_headerReferencePattern.lists_findAll t)

/-! ### Texts in two parts -/

/-- No word crosses the seam between the two texts. -/
def Breaks (a b : Text) : Prop := a.getLast?.any Unicode.isWord = false ∨ b.head?.any Unicode.isWord = false

theorem isReference_append {last : Option Char} (h : Breaks x b) (hx : x ≠ []) :
    isReference last (x ++ b) = isReference last x := by
  rw [Bool.eq_iff_iff, isReference_iff, isReference_iff]
  refine and_congr_right fun _ => ⟨?_, ?_⟩
  · rintro ⟨z, hz, hword⟩
    rcases List.append_eq_append_iff.1 hz with ⟨s, hs, rfl⟩ | ⟨s, rfl, rfl⟩
    · cases s with
      | nil => exact ⟨[], by rw [hs, List.append_nil, List.append_nil], rfl⟩
      | cons d s =>
        -- The name would cross the seam.
        have hlast : Unicode.isWord (x.getLast hx) = true :=
          isWord_of_mem_tableName (hs ▸ List.mem_append_left _ (List.getLast_mem hx))
        have hnext : Unicode.isWord d = true := isWord_of_mem_tableName (by rw [hs]; simp)
        simp [Breaks, List.getLast?_eq_some_getLast hx, hlast, hnext] at h
    · refine ⟨s, rfl, ?_⟩
      cases s with
      | nil => rfl
      | cons d s => exact hword
  · rintro ⟨z, rfl, hword⟩
    refine ⟨z ++ b, List.append_assoc _ _ _, ?_⟩
    cases z with
    | nil =>
      rcases h with h | h
      · cases h
      · exact h
    | cons d z => exact hword

theorem isReference_change (h : Breaks a b) : isReference a.getLast? b = isReference none b := by
  rw [Bool.eq_iff_iff, isReference_iff, isReference_iff]
  refine and_congr_left fun ⟨z, hz, _⟩ => ?_
  have hword : b.head?.any Unicode.isWord = true := by
    rw [hz]
    show Unicode.isWord 'c' = true
    decide
  rcases h with h | h
  · exact iff_of_true h rfl
  · rw [hword] at h
    cases h

theorem headerReferences_append (h : Breaks a b) :
    headerReferences (a ++ b) = headerReferences a + headerReferences b := by
  rw [headerReferences_eq, headerReferences_eq a, headerReferences_eq b, places_append, Option.or_none]
  congr 1
  · refine places_congr fun x c y ha => isReference_append ?_ (List.cons_ne_nil c y)
    refine h.imp (fun h => ?_) id
    rwa [ha, List.getLast?_append_of_ne_nil x (List.cons_ne_nil c y)] at h
  · exact places_change (isReference_change h)

theorem headerReferences_eq_zero (h : ¬ tableName <:+: t) : headerReferences t = 0 :=
  Nat.eq_zero_of_not_pos fun hpos => h (headerReferences_pos_iff.1 hpos).isInfix

theorem headerReferences_eq_one (hu : Breaks u tableName) (hv : Breaks tableName v) (hu' : 'H' ∉ u) (hv' : 'H' ∉ v) :
    headerReferences (u ++ (tableName ++ v)) = 1 := by
  have hnone : ∀ s : Text, 'H' ∉ s → headerReferences s = 0 := by
    intro s hs
    exact headerReferences_eq_zero fun h => hs (h.subset (by decide))
  have hname : headerReferences tableName = 1 := by
    rw [headerReferences_eq]
    decide
  have hu : Breaks u (tableName ++ v) := hu
  rw [headerReferences_append hu, headerReferences_append hv, hnone u hu', hnone v hv', hname]

/-! ### Sites -/

theorem condense_word {c : Char} (hc : Unicode.isWord c = true) : condense [c] = [c] := by
  refine condense_cons (Bool.eq_false_iff.2 fun hb => ?_) ?_
  · rw [isWord_of_isBlank hb] at hc
    cases hc
  · rintro rfl
    revert hc
    decide

theorem isWord_head?_condense (h : (condense t).head?.any Unicode.isWord = false) :
    t.head?.any Unicode.isWord = false := by
  cases t with
  | nil => rfl
  | cons c t =>
    refine Bool.eq_false_iff.2 fun hc => ?_
    rw [← List.singleton_append, condense_append, condense_word hc] at h
    exact Bool.eq_false_iff.1 h hc

theorem isWord_getLast?_condense (h : (condense t).getLast?.any Unicode.isWord = false) :
    t.getLast?.any Unicode.isWord = false := by
  rcases List.eq_nil_or_concat' t with rfl | ⟨t, c, rfl⟩
  · rfl
  · refine Bool.eq_false_iff.2 fun hc => ?_
    rw [List.getLast?_concat] at hc
    rw [condense_append, condense_word hc, List.getLast?_concat] at h
    exact Bool.eq_false_iff.1 h hc

namespace HeaderShape

theorem leading_isPrefix_sharedHeaders (shape : HeaderShape) :
    shape.pattern.leading <+: (sharedHeaders shape).toList := by
  rw [sharedHeaders_eq]
  cases shape <;> decide

theorem isWord_leading (shape : HeaderShape) : shape.pattern.leading.getLast?.any Unicode.isWord = false := by
  cases shape <;> decide

theorem tableName_not_infix (shape : HeaderShape) : ¬ tableName <:+: (sharedHeaders shape).toList := by
  have hall : ∀ shape ∈ all, ∀ x ∈ (shape.front ++ '(' :: shape.back).tails, ¬ tableName <+: x := by decide
  rw [sharedHeaders_eq, List.infix_iff_prefix_suffix]
  rintro ⟨x, hname, hx⟩
  exact hall _ shape.mem_all x ((List.mem_tails _ _).2 hx) hname

/-- In the condensed pieces the name stands as a word, and there is no other in front of it or behind. -/
theorem forms_named : ∀ shape ∈ all, ∀ f ∈ shape.forms, ∀ n ∈ List.range f.length, tableName <+: f.drop n →
    'H' ∉ f.take n ∧ 'H' ∉ f.drop (n + 11) ∧ (f.take n).getLast?.any Unicode.isWord = false ∧
      (f.drop (n + 11)).head?.any Unicode.isWord = false := by decide

theorem exists_name : ∀ shape ∈ all, shape ≠ .jsonOnly → ∃ s ∈ shape.pattern.fixedParts, tableName <:+: s := by
  decide

section Piece

variable {shape : HeaderShape} {last next : Option Char} {w : Text}

theorem not_mem_jsonOnly (h : jsonOnly.pattern.Spells last w next) : 'H' ∉ w := by
  have hforms : ∀ f ∈ jsonOnly.forms, 'H' ∉ f := by decide
  exact fun hin => hforms _ (condense_mem h) (mem_condense hin (by decide) (by decide))

theorem headerReferences_piece (h : shape.pattern.Spells last w next) :
    headerReferences w = if shape ≠ .jsonOnly then 1 else 0 := by
  split_ifs with hshape
  · obtain ⟨s, hs, hname⟩ := exists_name _ shape.mem_all hshape
    obtain ⟨u, v, rfl⟩ := hname.trans (h.infix_of_mem_fixedParts hs)
    have hform : condense u ++ (tableName ++ condense v) ∈ shape.forms := by
      have := condense_mem h
      rwa [condense_append, condense_append, List.append_assoc] at this
    have hcheck := forms_named _ shape.mem_all _ hform (condense u).length (by simp [tableName])
    rw [List.drop_left, List.take_left, ← List.drop_drop, List.drop_left] at hcheck
    obtain ⟨hu, hv, hlast, hhead⟩ := hcheck (List.prefix_append _ _)
    rw [List.append_assoc]
    exact headerReferences_eq_one (.inl (isWord_getLast?_condense hlast)) (.inr (isWord_head?_condense hhead))
      (fun hin => hu (mem_condense hin (by decide) (by decide)))
      fun hin => hv (mem_condense hin (by decide) (by decide))
  · obtain rfl := not_not.1 hshape
    exact headerReferences_eq_zero fun hin => not_mem_jsonOnly h (hin.subset (by decide))

theorem breaks_piece {a b : Text} (h : shape.pattern.Occurs a w b) : Breaks w b := by
  cases shape with
  | bare =>
    obtain ⟨u, _, rfl, hu, rfl, hb⟩ := h
    have hlast : u.getLast? = some 's' := hu.getLast?_eq rfl
    have hword : Unicode.isWord 's' = true := by decide
    right
    simpa [Boundary.holds, hlast, hword] using hb
  | _ =>
    left
    rw [getLast?_eq h]
    decide

end Piece

end HeaderShape

/-- Two texts that start with the same text and end no word differ in any place as they do alone. -/
theorem headerReferences_between {lead w : Text} (gap rest : Text) (hlead : lead.getLast?.any Unicode.isWord = false)
    (hne : lead ≠ []) (hw : lead <+: w) (hrest : Breaks w rest) :
    headerReferences (gap ++ w ++ rest) + headerReferences lead =
      headerReferences (gap ++ lead) + headerReferences w + headerReferences rest := by
  obtain ⟨y, rfl⟩ := hw
  have hback : Breaks (gap ++ (lead ++ y)) rest := by
    rwa [Breaks, List.getLast?_append_of_ne_nil gap (List.append_ne_nil_of_left_ne_nil hne y)]
  have hfront : Breaks (gap ++ lead) y := .inl (by rwa [List.getLast?_append_of_ne_nil gap hne])
  rw [headerReferences_append hback, headerReferences_append (.inl hlead), ← List.append_assoc,
    headerReferences_append hfront]
  omega

theorem headerReferences_site {shape : HeaderShape} {old rest a : Text} (h : shape.pattern.Occurs a old rest)
    (gap out : Text) :
    headerReferences (gap ++ (sharedHeaders shape).toList ++ out) + (if shape ≠ .jsonOnly then 1 else 0) +
      headerReferences rest = headerReferences (gap ++ old ++ rest) + headerReferences out := by
  have hnew : headerReferences (sharedHeaders shape).toList = 0 := headerReferences_eq_zero shape.tableName_not_infix
  have hout : Breaks (sharedHeaders shape).toList out := by
    left
    rw [HeaderShape.sharedHeaders_eq, List.getLast?_append_cons]
    cases shape <;> decide
  have hsource := headerReferences_between gap rest shape.isWord_leading shape.leading_ne_nil h.leading_isPrefix
    (HeaderShape.breaks_piece h)
  have hresult := headerReferences_between gap out shape.isWord_leading shape.leading_ne_nil
    shape.leading_isPrefix_sharedHeaders hout
  rw [HeaderShape.headerReferences_piece h] at hsource
  rw [hnew] at hresult
  omega

theorem headerReferences_of_spliced {offset : Nat} {rest out : Text} {edits : List Edit}
    (h : Edit.Spliced offset rest edits out) (done : Text) (hd : size done = offset) (sites : List HeaderSite)
    (hedits : edits = sites.map fun site => ⟨site.span.start, site.span.stop, (sharedHeaders site.shape).toList⟩)
    (hsites : ∀ site ∈ sites, site ∈ headerSites (done ++ rest)) :
    headerReferences out + sites.countP (fun site => site.shape ≠ .jsonOnly) = headerReferences rest := by
  induction h generalizing done sites with
  | nil =>
    obtain rfl := List.map_eq_nil_iff.1 hedits.symm
    rfl
  | @cons offset rest out edits gap old new _ ih =>
    subst hd
    obtain ⟨site, sites, rfl, hsite, rfl⟩ := List.map_eq_cons_iff.1 hedits.symm
    obtain ⟨hstart, hstop, rfl⟩ := Edit.mk.inj hsite
    have hsame : done ++ (gap ++ old ++ rest) = done ++ gap ++ old ++ rest := by simp
    rw [hsame] at hsites
    have hocc : site.shape.pattern.Occurs (done ++ gap) old rest := by
      refine occurs_of_mem_headerSites (hsites site List.mem_cons_self) rfl ?_ ?_
      · rw [hstart, size_append]
      · rw [hstop, size_append, size_append]
    have hrest := ih (done ++ gap ++ old) (by simp only [size_append]) sites rfl fun s hs =>
      hsites s (List.mem_cons_of_mem _ hs)
    have hreplaced := headerReferences_site hocc gap out
    simp only [List.countP_cons, decide_eq_true_eq]
    omega

end HandlerMigration.Shape

namespace HandlerMigration.Migration

open Shape Text

/-- The note on a text in which sites are replaced. -/
def replacedNote (sites : Nat) : Outcome × String := (.applied, s!"rewrote headers at {sites} response site(s)")

/-- The note on references that are left. -/
def leftoverNote (references : Nat) : Outcome × String :=
  (.warning, s!"{references} corsHeaders reference(s) remain in unrecognized positions")

theorem shareHeaders_eq_change {t u : Text} {notes : List (Outcome × String)}
    (h : shareHeaders t = .ok ⟨some u, notes⟩) :
    Edit.applyAll t ((headerSites t).map fun site =>
      ⟨site.span.start, site.span.stop, (sharedHeaders site.shape).toList⟩) = .ok u ∧
    notes = replacedNote (headerSites t).length ::
      if headerReferences u = 0 then [] else [leftoverNote (headerReferences u)] := by
  simp only [shareHeaders, pure, Except.pure] at h
  split_ifs at h with hs h0
  · cases h
  · cases h
  · obtain ⟨v, hv, h⟩ := bind_eq_ok h
    split_ifs at h with h0
    · cases h
      exact ⟨hv, by rw [if_pos h0]; rfl⟩
    · cases h
      exact ⟨hv, by rw [if_neg h0]; rfl⟩

theorem headerReferences_of_sites {t u : Text}
    (h : Edit.applyAll t ((headerSites t).map fun site =>
      ⟨site.span.start, site.span.stop, (sharedHeaders site.shape).toList⟩) = .ok u) :
    headerReferences u + (headerSites t).countP (fun site => site.shape ≠ .jsonOnly) = headerReferences t := by
  have hspliced := Edit.applyAll_eq_ok_iff.1 h
  rw [Edit.sort_eq (List.Perm.refl _)] at hspliced
  · exact headerReferences_of_spliced hspliced [] rfl _ rfl fun site hsite => hsite
  · -- The sites stand in their order, one behind the other.
    rw [List.pairwise_map, headerSites_eq]
    refine (pairwise_sortedMatches t).imp_of_mem fun {s s'} hs _ hle => ?_
    have hlt := start_lt_stop ((List.mergeSort_perm _ _).mem_iff.1 hs)
    exact Nat.lt_of_lt_of_le hlt hle

/-- When the step makes a new text, each site that names the table takes its reference away, and no other reference
comes or goes. The step notes the number of all sites, and the number of references that are left if there are any. -/
theorem shareHeaders_references {t u : Text} {notes : List (Outcome × String)}
    (h : shareHeaders t = .ok ⟨some u, notes⟩) :
    headerReferences u + (headerSites t).countP (fun site => site.shape ≠ .jsonOnly) = headerReferences t ∧
    notes = replacedNote (headerSites t).length ::
      if headerReferences u = 0 then [] else [leftoverNote (headerReferences u)] := by
  obtain ⟨hu, hnotes⟩ := shareHeaders_eq_change h
  exact ⟨headerReferences_of_sites hu, hnotes⟩

/-- One of the two sites names the table, and so does the end, which is no site. -/
def looseName : Text :=
  "f(x,corsHeaders);headers:\x7b'Content-Type':'application/json'\x7d;_corsHeaders+corsHeaders".toList

set_option maxRecDepth 20000 in
theorem shareHeaders_references_looseName :
    ∃ u, shareHeaders looseName = .ok ⟨some u, [replacedNote 2, leftoverNote 1]⟩ ∧
      headerReferences looseName = 2 ∧ headerReferences u = 1 := by
  obtain ⟨hbefore, hshapes⟩ : headerReferences looseName = 2 ∧
      (shapeMatches looseName).map (·.shape) = [.jsonOnly, .trailingArgument] := by decide +kernel
  have hperm : (headerSites looseName).Perm (shapeMatches looseName) := by
    rw [headerSites_eq]
    exact List.mergeSort_perm _ _
  obtain ⟨site, site', hsites, hjson, hargument⟩ : ∃ site site', shapeMatches looseName = [site, site'] ∧
      site.shape = .jsonOnly ∧ site'.shape = .trailingArgument := by
    simpa [List.map_eq_cons_iff] using hshapes
  obtain ⟨⟨text?, notes⟩, ho⟩ := exists_shareHeaders looseName
  rcases (shareHeaders_cases ho).2 with ⟨hnil, -⟩ | ⟨-, -, u, rfl, -⟩
  · rw [hnil, hsites] at hperm
    exact absurd hperm.length_eq (by simp)
  · obtain ⟨hcount, rfl⟩ := shareHeaders_references ho
    rw [hperm.countP_eq, hsites, hbefore] at hcount
    have hafter : headerReferences u = 1 := by
      simpa [hjson, hargument] using hcount
    rw [hperm.length_eq, hsites, hafter] at ho
    exact ⟨u, ho, hbefore, hafter⟩

end HandlerMigration.Migration
