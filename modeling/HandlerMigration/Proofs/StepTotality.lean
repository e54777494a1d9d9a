import HandlerMigration.Migration.Run
import HandlerMigration.Proofs.CatchGuards
import HandlerMigration.Proofs.OriginLines
import HandlerMigration.Proofs.PreflightBrackets

/-!
# Steps that never fail

Offsets come from searches, from groups and from the bracket scan. What a search or a group reports lies within the
text and cuts no character (`within_of_find?`, `within_of_findAll`), and the scan ends behind a brace
(`exists_block`). Edits at such offsets fit, and those of one step do not overlap. So four of the steps answer every
text (`answers_of_four_steps`).
-/

namespace HandlerMigration

open Text

/-- The span lies within the text, and it cuts no character. -/
def Span.Within (s : Span) (t : Text) : Prop :=
  s.start ≤ s.stop ∧ s.stop ≤ t.size ∧ t.isBoundary s.start = true ∧ t.isBoundary s.stop = true

theorem Span.within_parts (a w b : Text) : Within ⟨size a, size (a ++ w)⟩ (a ++ (w ++ b)) := by
  refine ⟨?_, ?_, isBoundary_iff.2 ⟨a, w ++ b, rfl, rfl⟩, isBoundary_iff.2 ⟨a ++ w, b, by simp, rfl⟩⟩
  · rw [size_append]
    exact Nat.le_add_right _ _
  · simp only [size_append]
    omega

theorem Span.Within.fits {s : Span} {t : Text} (h : s.Within t) (new : Text) : Edit.Fits t ⟨s.start, s.stop, new⟩ :=
  ⟨h.1, h.2.1, h.2.2.1, h.2.2.2⟩

theorem Span.Within.fits_insert {s : Span} {t : Text} (h : s.Within t) (new : Text) :
    Edit.Fits t (.insert s.stop new) := ⟨Nat.le_refl _, h.2.1, h.2.2.2, h.2.2.2⟩

theorem exists_margin_of_boundary {t : Text} {n : Nat} (h : t.isBoundary n = true) :
    ∃ m, Fault.unlessCut (t.marginAt n) = .ok m := by
  obtain ⟨parts, hparts⟩ := Option.isSome_iff_exists.1 h
  exact ⟨_, by rw [marginAt, hparts]; rfl⟩

/-! ### What a search reports -/

namespace Pattern

variable {p : Pattern} {t : Text} {m : Match}

theorem within_of_find? (h : p.find? t = some m) : m.span.Within t := by
  obtain ⟨a, w, b, stop, hfirst, hspan, -⟩ := find?_eq_some h
  rw [hspan, hfirst.rest_eq]
  exact Span.within_parts a w b

theorem within_of_findAll (hp : p.Solid) (h : m ∈ p.findAll t) :
    m.span.Within t ∧ ∀ i s, m.group? i = some s → s.Within t := by
  obtain ⟨a, w, b, stop, ht, hspan, -, hstop, -, hgroups⟩ := (hp.lists_findAll t).occurs h
  obtain rfl : t = a ++ (w ++ b) := ht
  refine ⟨hspan ▸ Span.within_parts a w b, fun i s hs => ?_⟩
  rw [Match.group?, hgroups] at hs
  obtain ⟨_, hlead, -⟩ := leads_of_mem_ends (List.mem_of_head? hstop)
  rcases hlead.known_or_between hs with hknown | ⟨x, v, y, hrest, rfl⟩
  · cases hknown
  · have hparts : a ++ (w ++ b) = (a ++ x) ++ (v ++ (y ++ stop.rest)) := by
      rw [show w ++ b = _ from hrest]
      simp
    rw [hparts]
    have hwithin := Span.within_parts (a ++ x) v (y ++ stop.rest)
    rwa [List.append_assoc a x v, size_append a x, size_append a (x ++ v)] at hwithin

end Pattern

/-! ### What the steps look for -/

namespace Shape

variable {t : Text}

/-- A closed block ends within the text, behind the brace that closes it, and its body stands between the braces. -/
theorem body_of_closed {g : OptionsGuard} {stop : Nat} (hg : g ∈ optionsGuards t) (hstop : g.stop = some stop) :
    g.brace + 2 ≤ stop ∧ stop ≤ size t ∧ t.isBoundary stop = true ∧ Span.Within ⟨g.brace + 1, stop - 1⟩ t ∧
      ∃ a body b, t = a ++ '{' :: (body ++ '}' :: b) ∧ size a = g.brace ∧ g.body? t = some body := by
  obtain ⟨a, head, body, b, rfl, -, hbrace, rfl, -⟩ := exists_block hg hstop
  have hone : ∀ c, c = '{' ∨ c = '}' → Char.utf8Size c = 1 := by
    rintro c (rfl | rfl) <;> rfl
  have hopen : g.brace + 1 = size (a ++ (head ++ ['{'])) := by
    simp only [hbrace, size_append, size_cons, size_nil, hone '{' (.inl rfl), Nat.add_zero, Nat.add_assoc]
  have hclose : size (a ++ (head ++ '{' :: (body ++ ['}']))) - 1 = size (a ++ (head ++ ['{']) ++ body) := by
    simp only [size_append, size_cons, size_nil, hone '{' (.inl rfl), hone '}' (.inr rfl)]
    omega
  have hparts : a ++ (head ++ '{' :: (body ++ '}' :: b)) = (a ++ (head ++ ['{'])) ++ (body ++ '}' :: b) := by simp
  have hwithin := Span.within_parts (a ++ (head ++ ['{'])) body ('}' :: b)
  refine ⟨?_, ?_, isBoundary_iff.2 ⟨_, b, by simp, rfl⟩, ?_, a ++ head, body, b, by simp, hbrace.symm, ?_⟩
  · simp only [hbrace, size_append, size_cons, size_nil, hone '{' (.inl rfl), hone '}' (.inr rfl)]
    omega
  · simp only [size_append, size_cons, size_nil]
    omega
  · rwa [hopen, hclose, hparts]
  · have hslice := slice_append (a ++ (head ++ ['{'])) body ('}' :: b)
    rw [← size_append, List.append_assoc _ body] at hslice
    rw [OptionsGuard.body?, hstop, Option.map_some, hopen, hclose, hparts, hslice]

theorem within_originLine {o : OriginLine} (h : o ∈ originLines t) : o.line.Within t ∧ o.statement.Within t := by
  obtain ⟨a, m, w, y, z, b, rfl, -, hline, hstatement, -⟩ := exists_originLine h
  have hwhole := Span.within_parts a (m ++ (w ++ (y ++ z))) b
  have hinner := Span.within_parts (a ++ m) w (y ++ (z ++ b))
  simp only [List.append_assoc] at hwhole hinner
  exact ⟨hline ▸ hwhole, hstatement ▸ hinner⟩

theorem within_headerSite {site : HeaderSite} (h : site ∈ headerSites t) : site.span.Within t := by
  obtain ⟨a, w, b, rfl, hspan, -⟩ := occurs_of_mem_shapeMatches (mem_headerSites.1 h)
  rw [hspan]
  exact Span.within_parts a w b

end Shape

/-! ### The steps -/

namespace Migration

open Shape

theorem exists_insertOrigin (ctx : Context) (t : Text) : ∃ o, insertOrigin ctx t = .ok o := by
  unfold insertOrigin
  cases hentry : ctx.anchors.entryPoint.find? t with
  | none => exact ⟨_, rfl⟩
  | some entry =>
    have hwithin := Pattern.within_of_find? hentry
    obtain ⟨m, hm⟩ := exists_margin_of_boundary hwithin.2.2.1
    obtain ⟨u, hu⟩ := Edit.exists_applyAll
      (List.forall_mem_singleton.2 (hwithin.fits_insert ('\n' :: m ++ [' ', ' '] ++ Canonical.originStatement.toList)))
      (List.pairwise_singleton _ _)
    simp only [hm, hu, bind, Except.bind]
    exact ⟨_, rfl⟩

/-- Lines that are taken out and a statement in front of them that is replaced can all be edited at once. -/
theorem exists_collapsed {t : Text} {first : OriginLine} {others : List OriginLine}
    (hlines : originLines t = first :: others) (canonical : Bool) (new : Text) :
    ∃ u, Edit.applyAll t ((others.map fun o => Edit.delete o.line.start o.line.stop) ++
      if canonical then [] else [⟨first.statement.start, first.statement.stop, new⟩]) = .ok u := by
  have hmem : ∀ o ∈ first :: others, o ∈ originLines t := fun o ho => hlines ▸ ho
  have hapart := pairwise_originLines t
  rw [hlines, List.pairwise_cons] at hapart
  obtain ⟨hbehind, hothers⟩ := hapart
  have hdeletions : ∀ e ∈ others.map fun o => Edit.delete o.line.start o.line.stop, Edit.Fits t e := by
    refine List.forall_mem_map.2 fun o ho => ?_
    exact (within_originLine (hmem o (List.mem_cons_of_mem _ ho))).1.fits []
  have hclear : (others.map fun o => Edit.delete o.line.start o.line.stop).Pairwise Edit.Clear :=
    List.pairwise_map.2 (hothers.imp .inl)
  refine Edit.exists_applyAll_iff.2 ?_
  cases canonical with
  | true =>
    rw [if_pos rfl, List.append_nil]
    exact ⟨hdeletions, hclear⟩
  | false =>
    have hfirst := hmem first List.mem_cons_self
    refine ⟨List.forall_mem_append.2 ⟨hdeletions, List.forall_mem_singleton.2 ((within_originLine hfirst).2.fits new)⟩,
      List.pairwise_append.2 ⟨hclear, List.pairwise_singleton _ _, List.forall_mem_map.2 fun o ho e he => ?_⟩⟩
    obtain rfl := List.mem_singleton.1 he
    obtain ⟨a, w, b, -, hstatement, -, hstop, -⟩ := mem_originLines hfirst
    right
    show first.statement.stop ≤ o.line.start
    rw [hstatement]
    exact hstop.trans (hbehind o ho)

theorem exists_normalizeOrigin (ctx : Context) (t : Text) : ∃ o, normalizeOrigin ctx t = .ok o := by
  unfold normalizeOrigin
  split
  · exact exists_insertOrigin ctx t
  · next first others hlines =>
    obtain ⟨u, hu⟩ := exists_collapsed hlines (first.isCanonical t) Canonical.originStatement.toList
    simp only [hu, bind, Except.bind]
    split_ifs <;> exact ⟨_, rfl⟩

theorem within_inlineHandler {t : Text} {hit : Hit Unit} (h : firstHit t inlineHandlers = some hit) :
    hit.span.Within t := by
  obtain ⟨a, w, b, ht, hspan, -⟩ := exists_guard h
  rw [hspan, ht]
  simpa using Span.within_parts a (w ++ ['}']) b

theorem exists_delegatePreflight (t : Text) : ∃ o, delegatePreflight t = .ok o := by
  unfold delegatePreflight
  split_ifs
  · exact ⟨_, rfl⟩
  · cases hhit : firstHit t inlineHandlers with
    | none => exact ⟨_, rfl⟩
    | some hit =>
      have hwithin := within_inlineHandler hhit
      obtain ⟨m, hm⟩ := exists_margin_of_boundary hwithin.2.2.1
      obtain ⟨u, hu⟩ := Edit.exists_applyAll (List.forall_mem_singleton.2 (hwithin.fits (Canonical.preflightBlock m)))
        (List.pairwise_singleton _ _)
      simp only [hm, hu, bind, Except.bind]
      exact ⟨_, rfl⟩

/-- Four of the steps answer every text, under every policy and with any anchors. Whatever they cut out of the text
lies within it and on character boundaries: the body of a closed block, which stands between its two braces, the
block that answers a preflight request, the lines that read the origin, the sites of headers, the parts of the head of
a catch block, and the place of an anchor. -/
theorem answers_of_four_steps (t : Text) :
    (∀ ctx, ∀ step ∈ [Step.origin, .preflight, .responseHeaders, .errorBoundary], ∃ o, step.apply ctx t = .ok o) ∧
    (∀ g ∈ optionsGuards t, ∀ stop, g.stop = some stop →
      g.brace + 2 ≤ stop ∧ stop ≤ size t ∧ t.isBoundary stop = true ∧ Span.Within ⟨g.brace + 1, stop - 1⟩ t ∧
        ∃ a body b, t = a ++ '{' :: (body ++ '}' :: b) ∧ size a = g.brace ∧ g.body? t = some body) ∧
    (∀ hit, firstHit t inlineHandlers = some hit → hit.span.Within t) ∧
    (∀ o ∈ originLines t, o.line.Within t ∧ o.statement.Within t) ∧
    (∀ site ∈ headerSites t, site.span.Within t) ∧
    (∀ m ∈ catchPattern.findAll t, m.span.Within t ∧ ∀ i s, m.group? i = some s → s.Within t) ∧
    ∀ (p : Pattern) (m : Match), p.find? t = some m → m.span.Within t := by
  refine ⟨fun ctx step hstep => ?_, fun g hg stop hstop => body_of_closed hg hstop,
    fun hit hhit => within_inlineHandler hhit, fun o ho => within_originLine ho,
    fun site hsite => within_headerSite hsite, fun m hm => Pattern.within_of_findAll ?_ hm,
    fun p m hm => Pattern.within_of_find? hm⟩
  · simp only [List.mem_cons, List.not_mem_nil, or_false] at hstep
    rcases hstep with rfl | rfl | rfl | rfl
    · exact exists_normalizeOrigin ctx t
    · exact exists_delegatePreflight t
    · exact exists_shareHeaders t
    · exact exists_guardCatches ctx t
  · exact Pattern.solid_of_leading (by decide)

/-- A letter of two bytes stands behind a backslash. -/
def escapedLetter : Text := "if(method=='OPTIONS')\x7b'\\é'\x7d".toList

set_option maxRecDepth 20000 in
theorem answers_of_four_steps_escapedLetter :
    optionsGuards escapedLetter = [⟨0, 21, some 28⟩] ∧ Span.Within ⟨22, 27⟩ escapedLetter ∧
      ∃ o, Step.preflight.apply ⟨"f", .plainAuth, ⟨.empty, .empty⟩⟩ escapedLetter = .ok o := by
  have hfound : optionsGuards escapedLetter = [⟨0, 21, some 28⟩] := by decide +kernel
  obtain ⟨hsteps, hguards, -⟩ := answers_of_four_steps escapedLetter
  obtain ⟨-, -, -, hbody, -⟩ := hguards ⟨0, 21, some 28⟩ (by rw [hfound]; exact List.mem_singleton_self _) 28 rfl
  exact ⟨hfound, hbody, hsteps _ .preflight (by simp)⟩

end Migration

end HandlerMigration
