import HandlerMigration.Proofs.AuthInjection
import HandlerMigration.Proofs.PreflightBrackets

/-!
# Where authentication goes

Authentication makes two edits: it takes out the lines of a client and puts in a statement behind its anchor.
An anchor ends with a brace or a semicolon (`isAnchor_of_authAnchor?`), and a newline is neither, so the blank
line that goes with the client is never in the way. Main statements: the step is at fault exactly if the anchor
ends among the lines of the client (`injectAuth_eq_error_iff`); and the statement is the first on its line, and
the last exactly if the anchor was the last on its own (`injectAuth_line_iff`).
-/

namespace HandlerMigration

namespace Text

theorem lastLine_append {m : Text} (hm : '\n' ∉ m) (a : Text) : lastLine (a ++ '\n' :: m) = m := by
  have hkeep : ∀ c ∈ m.reverse, (c != '\n') = true := fun c hc =>
    bne_iff_ne.2 fun heq => hm (heq ▸ List.mem_reverse.1 hc)
  have hrev : (a ++ '\n' :: m).reverse = m.reverse ++ '\n' :: a.reverse := by simp
  rw [lastLine, hrev, List.takeWhile_append_of_pos hkeep]
  simp

theorem Once.append_inj {m s u a b a' b' : Text} (hu : Once m u) (hm : m <:+: s) (h : u = a ++ (s ++ b))
    (h' : u = a' ++ (s ++ b')) : a = a' ∧ b = b' := by
  obtain ⟨k, r, rfl⟩ := hm
  have ha : (a ++ k) ++ m <+: u := ⟨r ++ b, by rw [h]; simp⟩
  have ha' : (a' ++ k) ++ m <+: u := ⟨r ++ b', by rw [h']; simp⟩
  obtain rfl := List.append_cancel_right (hu.unique ha ha')
  exact ⟨rfl, List.append_cancel_left (List.append_cancel_left (h.symm.trans h'))⟩

end Text

namespace Shape

open Text Pattern

/-- The hit is a piece of the text, with a brace or a semicolon at its end. -/
def IsAnchor (t : Text) (span : Span) : Prop :=
  ∃ x w y, t = x ++ (w ++ y) ∧ span = ⟨size x, size (x ++ w)⟩ ∧ (w.getLast? = some '}' ∨ w.getLast? = some ';')

theorem IsAnchor.getLast?_eq {t p q : Text} {span : Span} (h : IsAnchor t span) (ht : t = p ++ q)
    (hp : size p = span.stop) : p.getLast? = some '}' ∨ p.getLast? = some ';' := by
  obtain ⟨x, w, y, ht', rfl, hlast⟩ := h
  have hsplit : p ++ q = (x ++ w) ++ y := by rw [← ht, ht', List.append_assoc]
  obtain ⟨rfl, -⟩ := append_inj_of_size hsplit hp
  rw [List.getLast?_append]
  exact hlast.imp (fun h => by rw [h, Option.some_or]) (fun h => by rw [h, Option.some_or])

section Anchor

variable {p : Pattern} {t : Text} {found : Span × Unit} {c : Char}

theorem isAnchor_of_place (hp : p.trailing = some c) (hc : c = '}' ∨ c = ';') (h : p.place t = some found) :
    IsAnchor t found.1 := by
  obtain ⟨m, hm, rfl⟩ := Option.map_eq_some_iff.1 h
  obtain ⟨a, w, b, stop, hfirst, hspan, -⟩ := find?_eq_some hm
  refine ⟨a, w, b, hfirst.rest_eq, hspan, ?_⟩
  rw [Spells.getLast?_eq hfirst.occurs hp]
  exact hc.imp (congrArg some) (congrArg some)

theorem isAnchor_of_guardWhere {condition : Text → Bool} (h : guardWhere condition t = some found) :
    IsAnchor t found.1 := by
  obtain ⟨a, w, b, ht, hspan, -⟩ := isGuard_of_guardWhere h
  exact ⟨a, w ++ ['}'], b, by simpa using ht, hspan, .inl (by simp)⟩

theorem isAnchor_of_authAnchor? {policy : Policy} {anchor : Hit Unit}
    (h : Migration.authAnchor? policy t = some anchor) : IsAnchor t anchor.span := by
  unfold Migration.authAnchor? at h
  split_ifs at h
  · obtain ⟨r, hr, hfound⟩ := List.exists_of_findSome?_eq_some h
    obtain ⟨found, hfind, rfl⟩ := Option.map_eq_some_iff.1 hfound
    simp only [userIdStatements, List.mem_cons, List.not_mem_nil, or_false] at hr
    rcases hr with rfl | rfl
    · exact isAnchor_of_place rfl (.inr rfl) hfind
    · exact isAnchor_of_place rfl (.inr rfl) hfind
  · obtain ⟨r, hr, hfound⟩ := List.exists_of_findSome?_eq_some h
    obtain ⟨found, hfind, rfl⟩ := Option.map_eq_some_iff.1 hfound
    simp only [preflightBlocks, List.mem_cons, List.not_mem_nil, or_false] at hr
    rcases hr with rfl | rfl
    · exact isAnchor_of_place rfl (.inl rfl) hfind
    · exact isAnchor_of_guardWhere hfind

end Anchor

end Shape

namespace Migration

open Text Shape

section Faults

variable {ctx : Context} {t u : Text} {f : Fault}

theorem exists_marginAt {span : Span} (h : IsAnchor t span) : ∃ margin, t.marginAt span.start = some margin := by
  obtain ⟨x, w, y, rfl, rfl, -⟩ := h
  exact ⟨_, by rw [marginAt, cut_append]; rfl⟩

theorem exists_deletions (t : Text) : ∃ deletions, clientDeletion t (.of t) = .ok deletions := by
  cases hplan : ClientPlan.of t with
  | keep warning => exact ⟨[], rfl⟩
  | replace hit =>
    obtain ⟨_, _, _, _, -, -, -, -, -, -, hedit⟩ := exists_clientLines (planOf_eq_replace_iff.1 hplan).2
    exact ⟨_, by rw [clientDeletion, hedit]; rfl⟩

theorem injectAuth_error_iff_edits :
    injectAuth ctx t = .error f ↔
      ∃ call anchor margin deletions, ¬ markerText <:+: t ∧ ctx.policy.call? = some call ∧
        authAnchor? ctx.policy t = some anchor ∧ t.marginAt anchor.span.start = some margin ∧
        clientDeletion t (.of t) = .ok deletions ∧
        Edit.applyAll t (deletions ++
          [.insert anchor.span.stop ('\n' :: margin ++ authStatement call (.of t))]) = .error f := by
  have hcontains : t.contains Canonical.authMarker.toList = true ↔ markerText <:+: t := by
    rw [contains_iff, authMarker_toList]
  obtain ⟨deletions, hdeletions⟩ := exists_deletions t
  unfold injectAuth
  constructor
  · intro h
    split_ifs at h with hmarker
    · cases h
    · split at h
      · cases h
      · next call hcall =>
        split at h
        · cases h
        · next anchor hanchor =>
          obtain ⟨margin, hmargin⟩ := exists_marginAt (isAnchor_of_authAnchor? hanchor)
          refine ⟨call, anchor, margin, deletions, mt hcontains.2 hmarker, hcall, hanchor, hmargin, hdeletions, ?_⟩
          simp only [hdeletions, hmargin, Fault.unlessCut, bind, Except.bind] at h
          split at h
          · next f' hedits => cases h; exact hedits
          · cases h
  · rintro ⟨call, anchor, margin, deletions, hmarker, hcall, hanchor, hmargin, hdeletions, hedits⟩
    rw [if_neg (mt hcontains.1 hmarker)]
    simp only [hcall, hanchor, hdeletions, hmargin, Fault.unlessCut, bind, Except.bind, hedits]

/-- An anchor that ends where the lines of a client go ends among those lines, not in the blank line behind. -/
theorem lt_of_isAnchor {pre lines blank post : Text} {span : Span} (ht : t = pre ++ (lines ++ (blank ++ post)))
    (hwhole : WholeLines pre lines (blank ++ post)) (hblank : blank = [] ∨ blank = ['\n'] ∨ blank = ['\r', '\n'])
    (hanchor : IsAnchor t span) (hstop : span.stop < size (pre ++ (lines ++ blank))) :
    span.stop < size (pre ++ lines) := by
  by_contra hge
  obtain ⟨x, w, y, ht', hspan, -⟩ := id hanchor
  have hsplit : (pre ++ lines) ++ (blank ++ post) = (x ++ w) ++ y := by
    rw [List.append_assoc, ← ht, ht', List.append_assoc]
  have hstop' : span.stop = size (x ++ w) := by rw [hspan]
  obtain ⟨z, z', hz, rfl, -, hne⟩ := exists_inside hsplit (by omega) (by rw [List.append_assoc]; omega)
  have hlines : lines.getLast? = some '\n' := hwhole.stop.resolve_left (by simp [hne])
  -- so the anchor would end with a line break
  have hend := hanchor.getLast?_eq (p := x ++ w) (q := y) (by rw [ht', List.append_assoc]) hstop'.symm
  rw [hz, List.getLast?_append, List.getLast?_append, hlines, Option.some_or] at hend
  cases hlast : z.getLast? with
  | none => simp [hlast] at hend
  | some c =>
    rcases eq_of_mem_blank hblank c (List.mem_append_left _ (List.mem_of_getLast? hlast)) with rfl | rfl
    · simp [hlast] at hend
    · simp [hlast] at hend

theorem applyAll_eq_error_iff {hit : Hit Text} {span : Span} {e : Edit} (new : Text)
    (hhit : firstHit t clients = some hit) (hanchor : IsAnchor t span)
    (hdelete : Edit.deleteLines t hit.span.start hit.span.stop = some e) :
    Edit.applyAll t [e, .insert span.stop new] = .error f ↔
      hit.span.start < span.stop ∧ span.stop < hit.span.stop ∧ f = .overlap e.span ⟨span.stop, span.stop⟩ := by
  obtain ⟨pre, lines, blank, post, ht, hspan, hwhole, -, -, hblank, hedit⟩ := exists_clientLines hhit
  cases hedit.symm.trans hdelete
  have hlt := lt_of_isAnchor ht hwhole hblank hanchor
  obtain ⟨x, w, y, ht', rfl, -⟩ := hanchor
  have hclient : t = pre ++ ((lines ++ blank) ++ post) := by rw [ht, List.append_assoc]
  have hbehind : t = (x ++ w) ++ y := by rw [ht', List.append_assoc]
  rw [Edit.applyAll_delete_insert_eq_error_iff hclient hbehind, hspan]
  constructor
  · rintro ⟨hstart, hstop, rfl⟩
    exact ⟨hstart, hlt hstop, rfl⟩
  · rintro ⟨hstart, hstop, rfl⟩
    refine ⟨hstart, ?_, rfl⟩
    simp only [size_append] at hstop ⊢
    omega

/-- Authentication is at fault only for its own two edits, and only if the anchor ends among the lines of the
client that is taken out. -/
theorem injectAuth_eq_error_iff :
    injectAuth ctx t = .error f ↔
      ∃ call anchor hit e, ¬ Canonical.authMarker.toList <:+: t ∧ ctx.policy.call? = some call ∧
        authAnchor? ctx.policy t = some anchor ∧ clientCalls t = 1 ∧ firstHit t clients = some hit ∧
        Edit.deleteLines t hit.span.start hit.span.stop = some e ∧
        hit.span.start < anchor.span.stop ∧ anchor.span.stop < hit.span.stop ∧
        f = .overlap e.span ⟨anchor.span.stop, anchor.span.stop⟩ := by
  rw [injectAuth_error_iff_edits, authMarker_toList]
  constructor
  · rintro ⟨call, anchor, margin, deletions, hmarker, hcall, hanchor, -, hdeletions, hedits⟩
    have hplace := isAnchor_of_authAnchor? hanchor
    cases hplan : ClientPlan.of t with
    | keep warning =>
      rw [hplan] at hdeletions hedits
      cases hdeletions
      obtain ⟨x, w, y, rfl, hspan, -⟩ := hplace
      have hfit := Edit.fits_insert (x ++ w) y ('\n' :: margin ++ authStatement call (.keep warning))
      rw [List.append_assoc] at hfit
      obtain ⟨u, hu⟩ := Edit.exists_applyAll (List.forall_mem_singleton.2 hfit) (List.pairwise_singleton _ _)
      rw [hspan] at hedits
      cases hu.symm.trans hedits
    | replace hit =>
      rw [hplan] at hdeletions hedits
      obtain ⟨hcalls, hhit⟩ := planOf_eq_replace_iff.1 hplan
      obtain ⟨e, hdelete, hdeletions⟩ := bind_eq_ok hdeletions
      cases hdeletions
      have hdelete := unlessCut_eq_ok hdelete
      exact ⟨call, anchor, hit, e, hmarker, hcall, hanchor, hcalls, hhit, hdelete,
        (applyAll_eq_error_iff _ hhit hplace hdelete).1 hedits⟩
  · rintro ⟨call, anchor, hit, e, hmarker, hcall, hanchor, hcalls, hhit, hdelete, hinside⟩
    have hplace := isAnchor_of_authAnchor? hanchor
    obtain ⟨margin, hmargin⟩ := exists_marginAt hplace
    refine ⟨call, anchor, margin, [e], hmarker, hcall, hanchor, hmargin, ?_,
      (applyAll_eq_error_iff _ hhit hplace hdelete).2 hinside⟩
    rw [planOf_eq_replace_iff.2 ⟨hcalls, hhit⟩, clientDeletion, hdelete]
    rfl

end Faults

/-- A user that is taken from the body by a statement without a semicolon, and a client behind it. -/
def openStatement : Text := "const\x7buser_id\x7d=body as X\nconst c=createClient();\n".toList

set_option maxRecDepth 20000 in
theorem injectAuth_openStatement :
    injectAuth ⟨"f", .userScopedAuth, ⟨.empty, .empty⟩⟩ openStatement = .error (.overlap ⟨25, 49⟩ ⟨48, 48⟩) := by
  obtain ⟨hmarker, hanchor, hmargin, hcalls, hhit, hdelete⟩ :
      openStatement.contains markerText = false ∧
      authAnchor? .userScopedAuth openStatement = some ⟨"typed body", ⟨0, 48⟩, ()⟩ ∧
      openStatement.marginAt 0 = some [] ∧
      clientCalls openStatement = 1 ∧ firstHit openStatement clients = some ⟨"generic", ⟨25, 49⟩, ['c']⟩ ∧
      Edit.deleteLines openStatement 25 49 = some (.delete 25 49) := by decide +kernel
  refine injectAuth_error_iff_edits.2 ⟨_, _, [], [.delete 25 49], ?_, rfl, hanchor, hmargin, ?_, ?_⟩
  · rw [← contains_iff, hmarker]
    decide
  · rw [planOf_eq_replace_iff.2 ⟨hcalls, hhit⟩, clientDeletion, hdelete]
    rfl
  · exact (applyAll_eq_error_iff _ hhit (isAnchor_of_authAnchor? hanchor) hdelete).2 ⟨by decide, by decide, rfl⟩

section Line

variable {ctx : Context} {t u : Text} {notes : List (Outcome × String)}

/-- The text behind the statement is that behind the anchor, maybe without lines further down. -/
theorem exists_behind {anchor : Hit Unit} {new : Text} {deletions : List Edit} (hmarker : ¬ markerText <:+: t)
    (hanchor : IsAnchor t anchor.span) (hnew : ∃ s, new = '\n' :: (s ++ [';']) ∧ Once markerText s)
    (hdeletions : clientDeletion t (.of t) = .ok deletions)
    (hu : Edit.applyAll t (deletions ++ [.insert anchor.span.stop new]) = .ok u) :
    Once markerText u ∧ ∃ x y a b, t = x ++ y ∧ size x = anchor.span.stop ∧ u = a ++ (new ++ b) ∧
      endsLine b = endsLine y := by
  cases hplan : ClientPlan.of t with
  | keep warning =>
    rw [hplan] at hdeletions
    cases hdeletions
    obtain ⟨p, q, rfl, hstart, rfl⟩ := Edit.exists_of_applyAll_insert hu
    refine ⟨once_insert hnew ?_ ?_, p, q, p, q, rfl, hstart, rfl, rfl⟩
    · exact fun hin => hmarker (hin.trans (List.prefix_append _ _).isInfix)
    · exact fun hin => hmarker (hin.trans (List.suffix_append _ _).isInfix)
  | replace hit =>
    rw [hplan] at hdeletions
    obtain ⟨-, hhit⟩ := planOf_eq_replace_iff.1 hplan
    obtain ⟨pre, lines, post, rfl, rfl, -, -, hwhole, -⟩ := exists_clientDeletion hhit hdeletions
    have hexchanged := Edit.exchanged_of_applyAll hu
    refine ⟨once_exchanged hwhole hmarker hnew hexchanged, ?_⟩
    rcases hexchanged with ⟨p, q, rfl, hstart, rfl⟩ | ⟨p, q, rfl, hstart, rfl⟩
    · -- the anchor does not end with a newline, so its line goes on up to the lines that go
      have hlast := hanchor.getLast?_eq (List.append_assoc p q _) hstart
      have hq : q.getLast? = some '\n' := by
        rcases line_of_append hwhole.start with rfl | hq
        · rcases hwhole.start with hstart | hstart
          · simp_all
          · simp_all
        · exact hq
      refine ⟨p, q ++ (lines ++ post), p, q ++ post, by simp, hstart, rfl, ?_⟩
      rw [endsLine_append hq, endsLine_append hq]
    · exact ⟨pre ++ (lines ++ p), q, pre ++ p, q, by simp, hstart, by simp, rfl⟩

/-- The statement that authenticates is the first on its line, behind the margin of the anchor. It is the last
on its line exactly if the anchor was. -/
theorem injectAuth_line_iff (h : injectAuth ctx t = .ok ⟨some u, notes⟩) :
    ∃ call anchor x y, ctx.policy.call? = some call ∧ authAnchor? ctx.policy t = some anchor ∧
      t = x ++ y ∧ size x = anchor.span.stop ∧ authStatement call (.of t) <:+: u ∧
      ∀ a b, u = a ++ (authStatement call (.of t) ++ b) →
        t.marginAt anchor.span.start = some (lastLine a) ∧ (∀ c ∈ lastLine a, isMargin c = true) ∧
        (endsLine b = true ↔ endsLine y = true) := by
  obtain ⟨call, anchor, margin, deletions, hmarker, hcall, hanchor, hmargin, hdeletions, hu⟩ :=
    injectAuth_eq_some_iff.1 ⟨notes, h⟩
  have hblank : ∀ c ∈ margin, isMargin c = true := isMargin_of_marginAt (by rw [hmargin]; rfl)
  obtain ⟨honce, x, y, a, b, ht, hx, hu, hends⟩ :=
    exists_behind hmarker (isAnchor_of_authAnchor? hanchor) (once_line t hcall hblank) hdeletions hu
  have hu' : u = (a ++ '\n' :: margin) ++ (authStatement call (.of t) ++ b) := by rw [hu]; simp
  refine ⟨call, anchor, x, y, hcall, hanchor, ht, hx, ⟨_, b, by rw [hu', List.append_assoc]⟩, fun a' b' hu'' => ?_⟩
  obtain ⟨rfl, rfl⟩ := honce.append_inj (marker_infix_statement hcall (.of t)) hu'' hu'
  have hline : lastLine (a ++ '\n' :: margin) = margin :=
    lastLine_append (fun hmem => absurd (hblank _ hmem) (by decide)) a
  rw [hline, hends]
  exact ⟨hmargin, hblank, Iff.rfl⟩

end Line

/-- A guard of preflight requests on a line of its own, and a client in front of it. -/
def guardLast : Text := "const w=createClient()\n".toList ++ ("\tif(method=='OPTIONS')\x7b\x7d".toList ++ ['\r', '\n'])

/-- `guardLast` with the client of the helper. -/
def helperLast : Text :=
  "\tif(method=='OPTIONS')\x7b\x7d\n\tconst \x7b serviceClient: w \x7d = await validateAuth(req);\r\n".toList

set_option maxRecDepth 20000 in
theorem injectAuth_line_iff_guardLast :
    (∃ notes, injectAuth ⟨"f", .plainAuth, ⟨.empty, .empty⟩⟩ guardLast = .ok ⟨some helperLast, notes⟩) ∧
      ∀ a b, helperLast = a ++ (authStatement "validateAuth(req)" (.of guardLast) ++ b) →
        lastLine a = ['\t'] ∧ endsLine b = true := by
  obtain ⟨hmarker, hanchor, hmargin, hcalls, hhit, hdeletions⟩ :
      guardLast.contains markerText = false ∧
      authAnchor? .plainAuth guardLast = some ⟨"OPTIONS guard", ⟨24, 47⟩, ()⟩ ∧
      guardLast.marginAt 24 = some ['\t'] ∧
      clientCalls guardLast = 1 ∧ firstHit guardLast clients = some ⟨"generic", ⟨0, 23⟩, ['w']⟩ ∧
      (clientDeletion guardLast (.of guardLast)).toOption = some [.delete 0 23] := by decide +kernel
  have hplan := planOf_eq_replace_iff.2 ⟨hcalls, hhit⟩
  have hedits : (Edit.applyAll guardLast [.delete 0 23, .insert 47 ('\n' :: ['\t'] ++
      authStatement "validateAuth(req)" (.replace ⟨"generic", ⟨0, 23⟩, ['w']⟩))]).toOption = some helperLast := by
    rw [Edit.applyAll_eq, Edit.sort, List.mergeSort_of_pairwise (by decide)]
    decide +kernel
  have hnew : ∃ notes, injectAuth ⟨"f", .plainAuth, ⟨.empty, .empty⟩⟩ guardLast = .ok ⟨some helperLast, notes⟩ := by
    refine injectAuth_eq_some_iff.2 ⟨"validateAuth(req)", _, ['\t'], _, ?_, rfl, hanchor, hmargin,
      toOption_eq_some hdeletions, ?_⟩
    · rw [← contains_iff, hmarker]
      decide
    · rw [hplan]
      exact toOption_eq_some hedits
  refine ⟨hnew, fun a b hab => ?_⟩
  obtain ⟨notes, hrun⟩ := hnew
  obtain ⟨call, anchor, x, y, hcall, hanchor', ht, hx, -, hline⟩ := injectAuth_line_iff hrun
  cases hcall
  cases hanchor.symm.trans hanchor'
  obtain ⟨hmargin', -, hends⟩ := hline a b hab
  have hsplit : ("const w=createClient()\n".toList ++ "\tif(method=='OPTIONS')\x7b\x7d".toList) ++ ['\r', '\n'] = x ++ y := by
    rw [List.append_assoc]
    exact ht
  obtain ⟨-, rfl⟩ := append_inj_of_size hsplit (by rw [hx]; decide)
  exact ⟨(Option.some.inj (hmargin.symm.trans hmargin')).symm, hends.2 rfl⟩

/-- A guard of preflight requests with an alternative. -/
def guardElse : Text := "if(method=='OPTIONS')\x7b\x7delse\x7b\x7d".toList

/-- `guardElse` with the statement between its two branches. -/
def guardAwait : Text := "if(method=='OPTIONS')\x7b\x7d\nawait validateAuth(req);else\x7b\x7d".toList

set_option maxRecDepth 20000 in
theorem injectAuth_splits_branches :
    ∃ notes a b, injectAuth ⟨"f", .plainAuth, ⟨.empty, .empty⟩⟩ guardElse = .ok ⟨some guardAwait, notes⟩ ∧
      guardAwait = a ++ (authStatement "validateAuth(req)" (.of guardElse) ++ b) ∧ endsLine b = false := by
  refine ⟨[(.applied, "inserted `await validateAuth(req);`")], "if(method=='OPTIONS')\x7b\x7d\n".toList,
    "else\x7b\x7d".toList, toOption_eq_some ?_, ?_⟩
  · decide +kernel
  · decide +kernel

end Migration

end HandlerMigration
