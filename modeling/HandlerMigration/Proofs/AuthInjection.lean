import Mathlib.Data.List.Basic
import HandlerMigration.Proofs.Safeguards
import HandlerMigration.Proofs.ScanWalk
import HandlerMigration.Proofs.WholeLines

/-!
# What authentication changes

A client that a handler makes for itself stands on whole lines (`isClient_of_firstHit`). Main statement:
the step takes out these lines and nothing else, or nothing at all, and puts in one statement behind its
anchor; the new text then awaits the helper at exactly one place (`injectAuth_changes`).

No second place comes about at an edge: lines are taken out behind a newline, the statement is put in
between a newline and a semicolon, and the call has neither. Inside the statement the name of the client is
between spaces, and an identifier has none.
-/

namespace HandlerMigration

namespace Text

/-! ### Parts that stand at one place -/

/-- The part `m` stands at exactly one place of the text. -/
def Once (m t : Text) : Prop := ∃! a, a ++ m <+: t

section Once

variable {m a x y z r : Text} {c : Char}

theorem prefix_append_cons (hc : c ∉ m) (h : a ++ m <+: x ++ c :: y) :
    a ++ m <+: x ∨ ∃ a', a = x ++ c :: a' ∧ a' ++ m <+: y := by
  obtain ⟨r, hr⟩ := h
  rw [List.append_assoc] at hr
  rcases List.append_eq_append_iff.1 hr with ⟨s, rfl, hs⟩ | ⟨s, rfl, hs⟩
  · exact .inl ((List.prefix_append_right_inj a).2 (Shape.prefix_of_not_mem hc hs))
  · cases s with
    | nil =>
      have hm : m <+: [] := Shape.prefix_of_not_mem hc hs.symm
      obtain rfl := List.prefix_nil.1 hm
      exact .inl (by simp)
    | cons d s =>
      obtain rfl := (List.cons.inj hs).1
      have hy : y = s ++ (m ++ r) := (List.cons.inj hs).2
      exact .inr ⟨s, rfl, r, by rw [hy, List.append_assoc]⟩

theorem infix_append_cons (hc : c ∉ m) (h : m <:+: x ++ c :: y) : m <:+: x ∨ m <:+: y := by
  obtain ⟨a, r, hr⟩ := h
  rcases prefix_append_cons hc ⟨r, hr⟩ with hx | ⟨a', -, hy⟩
  · exact .inl ⟨a, hx⟩
  · exact .inr ⟨a', hy⟩

theorem Once.behind (hc : c ∉ m) (hx : ¬ m <:+: x) (h : Once m y) : Once m (x ++ c :: y) := by
  obtain ⟨a, ha, hunique⟩ := h
  refine ⟨x ++ c :: a, ?_, fun a' ha' => ?_⟩
  · obtain ⟨r, hr⟩ := ha
    exact ⟨r, by simp [← hr]⟩
  · rcases prefix_append_cons hc ha' with hin | ⟨a'', rfl, ha''⟩
    · exact absurd ⟨a', hin⟩ hx
    · rw [hunique a'' ha'']

theorem Once.front (hc : c ∉ m) (hy : ¬ m <:+: y) (h : Once m x) : Once m (x ++ c :: y) := by
  obtain ⟨a, ha, hunique⟩ := h
  refine ⟨a, ha.trans (List.prefix_append _ _), fun a' ha' => ?_⟩
  rcases prefix_append_cons hc ha' with hin | ⟨a'', -, ha''⟩
  · exact hunique a' hin
  · exact absurd ⟨a'', ha''⟩ hy

theorem once_of_not_mem (hx : c ∉ x ++ y) (hz : c ∉ z ++ r) : Once (y ++ c :: z) (x ++ ((y ++ c :: z) ++ r)) := by
  refine ⟨x, ⟨r, by simp⟩, fun a ha => ?_⟩
  obtain ⟨r', hr'⟩ := ha
  have hsplit : (x ++ y) ++ c :: (z ++ r) = (a ++ y) ++ c :: (z ++ r') := by simpa using hr'.symm
  have hxy := ((List.append_cons_inj_of_notMem hx hz).1 hsplit).1
  exact (List.append_cancel_right hxy).symm

end Once

end Text

namespace Shape

open Text Pattern Piece

/-! ### Clients -/

/-- The place is whole lines in which a client is made, and the name has no space. -/
def IsClient (t : Text) (span : Span) (name : Text) : Prop :=
  ∃ pre lines post, t = pre ++ (lines ++ post) ∧ span = ⟨size pre, size (pre ++ lines)⟩ ∧
    WholeLines pre lines post ∧ "createClient(".toList <:+: lines ∧ ' ' ∉ name

section Client

variable {p : Pattern} {bound : Nat} {stop : Cursor} {a r t : Text} {name : Span} {found : Span × Text}

theorem space_not_mem_name (hname : p.part? 1 = some identifier) (h : stop ∈ p.ends bound (.behind a r))
    (hgroup : stop.groups.lookup 1 = some name) : ' ' ∉ (a ++ r).slice name := by
  obtain ⟨x, w, y, hrest, hspells, hlookup⟩ := exists_part hname h
  have hrest : r = x ++ (w ++ (y ++ stop.rest)) := hrest
  rw [hgroup] at hlookup
  have hspan : name = ⟨size (a ++ x), size (a ++ x) + size w⟩ := by
    rw [Option.some.inj hlookup]
    simp only [Cursor.behind, size_append, Nat.add_assoc]
  have hslice := slice_append (a ++ x) w (y ++ stop.rest)
  rw [← hspan] at hslice
  rw [hrest, show a ++ (x ++ (w ++ (y ++ stop.rest))) = a ++ x ++ w ++ (y ++ stop.rest) by simp, hslice]
  exact hspells.not_mem_of_avoids (by decide)

theorem isClient_of_boundName (hopen : p.opensLine = true) (hclose : p.ClosesLine) (hsolid : p.isSolid = true)
    (hcall : "createClient(".toList ∈ p.fixedParts) (hname : p.part? 1 = some identifier)
    (h : boundName p t = some found) : IsClient t found.1 found.2 := by
  obtain ⟨m, hm, h⟩ := Option.bind_eq_some_iff.1 h
  obtain ⟨name, hgroup, h⟩ := Option.bind_eq_some_iff.1 h
  cases h
  obtain ⟨a, w, b, stop, hfirst, hspan, hgroups⟩ := find?_eq_some hm
  have hlines := wholeLines_of_head? hopen hclose (solid_of_isSolid hsolid) hfirst.occurs hfirst.preferred hfirst.stop_rest
  refine ⟨a, w, b, hfirst.rest_eq, hspan, hlines, hfirst.occurs.infix_of_mem_fixedParts hcall, ?_⟩
  rw [Match.group?, hgroups] at hgroup
  have hspace := space_not_mem_name hname hfirst.mem_ends hgroup
  rwa [List.nil_append, ← hfirst.rest_eq] at hspace

theorem exists_statementTail {rest : Text} {m : Match} (h : statementTailPattern.find? rest = some m) :
    ∃ w b, rest = w ++ b ∧ m.span.stop = size w ∧ (b = [] ∨ w.getLast? = some '\n') := by
  obtain ⟨a, w, b, stop, hfirst, hspan, -⟩ := find?_eq_some h
  obtain ⟨_, _, -, ⟨_, _, rfl, ⟨_, _, rfl, ⟨_, _, rfl, ⟨rfl, hstart⟩, -⟩, -⟩, -⟩, -⟩ := hfirst.occurs
  have ha : a = [] := by simpa [Boundary.holds] using hstart
  subst ha
  refine ⟨w, b, hfirst.rest_eq, by rw [hspan]; rfl, ?_⟩
  have hclose : statementTailPattern.ClosesLine :=
    (closesLine_alt fun last next h => .inl (by simpa [Boundary.holds] using h)).append
  rcases hclose _ _ _ hfirst.preferred with hlast | hend
  · rw [hfirst.stop_last] at hlast
    exact .inr hlast
  · exact .inl (hfirst.stop_rest ▸ hend)

theorem isClient_of_wholeLineClient (h : wholeLineClient t = some found) : IsClient t found.1 found.2 := by
  obtain ⟨m, hm, h⟩ := List.exists_of_findSome?_eq_some h
  obtain ⟨name, hgroup, h⟩ := Option.bind_eq_some_iff.1 h
  obtain ⟨close, hclose, h⟩ := Option.bind_eq_some_iff.1 h
  obtain ⟨⟨left, rest⟩, hcut, h⟩ := Option.bind_eq_some_iff.1 h
  obtain ⟨tail, htail, h⟩ := Option.bind_eq_some_iff.1 h
  cases h
  have hsolid : clientStartPattern.Solid := solid_of_isSolid rfl
  obtain ⟨a, w, b, stop, ht, hspan, ho, hstop, -, hgroups⟩ := (hsolid.lists_findAll t).occurs hm
  obtain ⟨hleft, hsize⟩ := cut_eq_some_iff.1 hcut
  obtain ⟨w', post, rfl, htailStop, hend⟩ := exists_statementTail htail
  -- the closing bracket is not in front of the opening one, so the call is among the lines
  have hbehind : size (a ++ w) ≤ size left := by
    obtain ⟨a', x, r, d, b', -, -, hopen, hstop', -⟩ := Bracket.exists_code_of_closing hclose
    have hx := Char.utf8Size_pos x
    rw [hspan] at hopen
    simp only [size_append, size_cons] at hopen hstop' ⊢
    omega
  have hat : a ++ w ++ b = left ++ (w' ++ post) := by rw [← hleft, ← ht.trans (List.append_assoc a w b).symm]; rfl
  obtain ⟨mid, rfl, hb⟩ := prefix_of_size_le hat hbehind
  refine ⟨a, w ++ (mid ++ w'), post, ?_, ?_, ⟨Occurs.start_of_opensLine ho rfl, ?_⟩, ?_, ?_⟩
  · rw [hleft]; simp
  · rw [hspan, ← hsize, htailStop]
    simp [Nat.add_assoc]
  · rcases hend with hend | hend
    · exact .inl hend
    · exact .inr (by simp [List.getLast?_append, hend])
  · have hcall : "createClient(".toList <:+: w := ho.infix_of_mem_fixedParts (by decide)
    exact hcall.trans (List.prefix_append _ _).isInfix
  · rw [Match.group?, hgroups] at hgroup
    have hspace := space_not_mem_name rfl (List.mem_of_head? hstop) hgroup
    rwa [← ht] at hspace

/-- Whatever its shape, a client is made on whole lines. -/
theorem isClient_of_firstHit {hit : Hit Text} (h : firstHit t clients = some hit) : IsClient t hit.span hit.holds := by
  obtain ⟨recognizer, hr, hfound⟩ := List.exists_of_findSome?_eq_some h
  obtain ⟨found, hfind, rfl⟩ := Option.map_eq_some_iff.1 hfound
  simp only [clients, List.mem_cons, List.not_mem_nil, or_false] at hr
  rcases hr with rfl | rfl | rfl | rfl | rfl
  · exact isClient_of_boundName rfl closesLine_statementEnd.append rfl (by decide) rfl hfind
  · exact isClient_of_boundName rfl closesLine_statementEnd.append rfl (by decide) rfl hfind
  · exact isClient_of_boundName rfl closesLine_statementEnd.append rfl (by decide) rfl hfind
  · exact isClient_of_boundName rfl closesLine_statementEnd.append rfl (by decide) rfl hfind
  · exact isClient_of_wholeLineClient hfind

end Client

end Shape

namespace Migration

open Text Shape

/-! ### The statement -/

section Statement

variable {policy : Policy} {call : String} {m p q : Text}

theorem once_call {x r : Text} (hx : 'w' ∉ x) (hr : 'w' ∉ r) : Once markerText (x ++ (markerText ++ r)) := by
  have hback : 'w' ∉ markerText.drop 2 := by decide
  refine once_of_not_mem (y := ['a']) (z := markerText.drop 2) ?_ ?_
  · simpa using hx
  · simpa using ⟨hback, hr⟩

theorem not_infix_of_w (h : 'w' ∉ m) : ¬ markerText <:+: m := fun hin => h (hin.subset (by decide))

theorem w_not_mem_margin (hm : ∀ c ∈ m, isMargin c = true) : 'w' ∉ m := fun hw => absurd (hm _ hw) (by decide)

theorem not_infix_name {name : Text} (h : ' ' ∉ name) : ¬ markerText <:+: ' ' :: (name ++ [' ']) := by
  intro hin
  rcases List.infix_cons_iff.1 hin with hfront | hin
  · obtain ⟨r, hr⟩ := hfront
    exact absurd (List.cons.inj hr).1 (by decide)
  · rcases List.infix_concat_iff.1 hin with hback | hin
    · obtain ⟨r, hr⟩ := hback
      have hlast := congrArg List.getLast? hr
      have hend : markerText.getLast? = some 'h' := rfl
      rw [List.getLast?_append, List.getLast?_concat, hend, Option.some_or] at hlast
      exact absurd hlast (by decide)
    · exact h (hin.subset (by decide))

theorem exists_once_statement (plan : ClientPlan) (hcall : policy.call? = some call) (hm : ∀ c ∈ m, isMargin c = true)
    (hname : ∀ hit, plan = .replace hit → ' ' ∉ hit.holds) :
    ∃ s : Text, m ++ authStatement call plan = s ++ [';'] ∧ Once markerText s := by
  obtain ⟨r, hr, hw⟩ := exists_call hcall
  have hmargin := w_not_mem_margin hm
  cases plan with
  | keep warning =>
    refine ⟨m ++ (markerText ++ r), ?_, once_call hmargin hw⟩
    show m ++ ("await ".toList ++ call.toList ++ [';']) = _
    rw [hr, List.append_assoc, List.append_assoc, List.append_assoc]
  | replace hit =>
    have hfront : "const \x7b serviceClient: ".toList = "const \x7b serviceClient".toList ++ [':', ' '] := by decide
    have hback : " \x7d = await ".toList = [' ', '\x7d'] ++ (" = ".toList ++ "await ".toList) := by decide
    refine ⟨m ++ "const \x7b serviceClient".toList ++
      ':' :: (' ' :: (hit.holds ++ [' ']) ++ '\x7d' :: (" = ".toList ++ (markerText ++ r))), ?_, ?_⟩
    · show m ++ ("const \x7b serviceClient: ".toList ++ hit.holds ++ " \x7d = await ".toList ++ call.toList ++ [';']) = _
      rw [hfront, hback, ← hr]
      simp only [List.append_assoc, List.cons_append, List.nil_append]
    · -- the colon and the brace are in no call, and between them is the name with its spaces
      refine .behind (by decide) (not_infix_of_w ?_) (.behind (by decide) (not_infix_name (hname hit rfl)) ?_)
      · rw [List.mem_append, not_or]
        exact ⟨hmargin, by decide⟩
      · exact once_call (by decide) hw

theorem once_insert {new : Text} (hnew : ∃ s, new = '\n' :: (s ++ [';']) ∧ Once markerText s)
    (hp : ¬ markerText <:+: p) (hq : ¬ markerText <:+: q) : Once markerText (p ++ (new ++ q)) := by
  obtain ⟨s, rfl, hs⟩ := hnew
  have hassoc : p ++ ('\n' :: (s ++ [';']) ++ q) = p ++ '\n' :: (s ++ ';' :: q) := by simp
  rw [hassoc]
  exact .behind (by decide) hp (.front (by decide) hq hs)

theorem line_of_append (h : p ++ q = [] ∨ (p ++ q).getLast? = some '\n') : q = [] ∨ q.getLast? = some '\n' := by
  rcases h with h | h
  · exact .inl (List.append_eq_nil_iff.1 h).2
  · by_cases hq : q = []
    · exact .inl hq
    · rw [List.getLast?_append_of_ne_nil _ hq] at h
      exact .inr h

/-- Lines that are taken out leave a newline, or nothing, in front of what follows. -/
theorem not_infix_of_lines (hline : p = [] ∨ p.getLast? = some '\n') (hp : ¬ markerText <:+: p)
    (hq : ¬ markerText <:+: q) : ¬ markerText <:+: p ++ q := by
  rcases hline with rfl | hlast
  · exact hq
  · obtain ⟨p, rfl⟩ := List.getLast?_eq_some_iff.1 hlast
    intro hin
    rw [List.append_assoc] at hin
    rcases infix_append_cons (by decide) hin with hin | hin
    · exact hp (hin.trans (List.prefix_append _ _).isInfix)
    · exact hq hin

/-- The lines may go from either side of what is put in. -/
theorem once_exchanged {pre lines post new u : Text} {n : Nat} (hwhole : WholeLines pre lines post)
    (ht : ¬ markerText <:+: pre ++ (lines ++ post)) (hnew : ∃ s, new = '\n' :: (s ++ [';']) ∧ Once markerText s)
    (h : Edit.Exchanged pre lines post n new u) : Once markerText u := by
  have hpre : ¬ markerText <:+: pre := fun hin => ht (hin.trans (List.prefix_append _ _).isInfix)
  have hpost : ¬ markerText <:+: post := fun hin =>
    ht (hin.trans ((List.suffix_append _ _).trans (List.suffix_append _ _)).isInfix)
  rcases h with ⟨p, q, rfl, -, rfl⟩ | ⟨p, q, rfl, -, rfl⟩
  · refine once_insert hnew (fun hin => hpre (hin.trans (List.prefix_append _ _).isInfix)) ?_
    exact not_infix_of_lines (line_of_append hwhole.start)
      (fun hin => hpre (hin.trans (List.suffix_append _ _).isInfix)) hpost
  · rw [← List.append_assoc]
    refine once_insert hnew ?_ fun hin => hpost (hin.trans (List.suffix_append _ _).isInfix)
    exact not_infix_of_lines hwhole.start hpre fun hin => hpost (hin.trans (List.prefix_append _ _).isInfix)

end Statement

/-! ### The step -/

theorem unlessCut_eq_ok {α : Type} {x : Option α} {a : α} (h : Fault.unlessCut x = .ok a) : x = some a := by
  cases x with
  | none => cases h
  | some a' => cases h; rfl

section Step

variable {ctx : Context} {t u : Text} {notes : List (Outcome × String)}

theorem planOf_eq_replace_iff {hit : Hit Text} :
    ClientPlan.of t = .replace hit ↔ clientCalls t = 1 ∧ firstHit t clients = some hit := by
  unfold ClientPlan.of
  dsimp only
  split_ifs with hnone hone
  · simp [hnone]
  · cases firstHit t clients <;> simp [hone]
  · simp [hone]

/-- When the step answers with a new text, and with which. -/
theorem injectAuth_eq_some_iff :
    (∃ notes, injectAuth ctx t = .ok ⟨some u, notes⟩) ↔
      ∃ call anchor margin deletions, ¬ markerText <:+: t ∧ ctx.policy.call? = some call ∧
        authAnchor? ctx.policy t = some anchor ∧ t.marginAt anchor.span.start = some margin ∧
        clientDeletion t (.of t) = .ok deletions ∧
        Edit.applyAll t (deletions ++
          [.insert anchor.span.stop ('\n' :: margin ++ authStatement call (.of t))]) = .ok u := by
  have hcontains : t.contains Canonical.authMarker.toList = true ↔ markerText <:+: t := by
    rw [contains_iff, authMarker_toList]
  constructor
  · rintro ⟨notes, h⟩
    unfold injectAuth at h
    split_ifs at h with hmarker
    · cases h
    · split at h
      · cases h
      · next call hcall =>
        split at h
        · cases h
        · next anchor hanchor =>
          obtain ⟨deletions, hdeletions, h⟩ := bind_eq_ok h
          obtain ⟨margin, hmargin, h⟩ := bind_eq_ok h
          obtain ⟨u', hu, h⟩ := bind_eq_ok h
          cases h
          exact ⟨call, anchor, margin, deletions, mt hcontains.2 hmarker, hcall, hanchor, unlessCut_eq_ok hmargin,
            hdeletions, hu⟩
  · rintro ⟨call, anchor, margin, deletions, hmarker, hcall, hanchor, hmargin, hdeletions, hu⟩
    unfold injectAuth
    rw [if_neg (mt hcontains.1 hmarker)]
    simp only [hcall, hanchor, hdeletions, hmargin, Fault.unlessCut, bind, Except.bind, hu]
    exact ⟨_, rfl⟩

theorem exists_clientLines {hit : Hit Text} (hhit : firstHit t clients = some hit) :
    ∃ pre lines blank post, t = pre ++ (lines ++ (blank ++ post)) ∧ hit.span = ⟨size pre, size (pre ++ lines)⟩ ∧
      WholeLines pre lines (blank ++ post) ∧ WholeLines pre (lines ++ blank) post ∧
      "createClient(".toList <:+: lines ∧ (blank = [] ∨ blank = ['\n'] ∨ blank = ['\r', '\n']) ∧
      Edit.deleteLines t hit.span.start hit.span.stop =
        some (.delete (size pre) (size (pre ++ (lines ++ blank)))) := by
  obtain ⟨pre, lines, post, rfl, hspan, hwhole, hcall, -⟩ := isClient_of_firstHit hhit
  obtain ⟨blank, rest, rfl, hblank, hwhole', hedit⟩ := exists_deleteLines hwhole
  exact ⟨pre, lines, blank, rest, rfl, hspan, hwhole, hwhole', hcall, hblank, by rw [hspan]; exact hedit⟩

theorem exists_clientDeletion {hit : Hit Text} {deletions : List Edit} (hhit : firstHit t clients = some hit)
    (h : clientDeletion t (.replace hit) = .ok deletions) :
    ∃ pre lines post, t = pre ++ (lines ++ post) ∧ deletions = [.delete (size pre) (size (pre ++ lines))] ∧
      size pre = hit.span.start ∧ (∃ x ≤ 2, size (pre ++ lines) = hit.span.stop + x) ∧
      WholeLines pre lines post ∧ "createClient(".toList <:+: lines := by
  obtain ⟨pre, lines, blank, post, rfl, hspan, -, hwhole, hcall, hblank, hedit⟩ := exists_clientLines hhit
  obtain ⟨edit, hdelete, h⟩ := bind_eq_ok h
  cases h
  rw [hedit] at hdelete
  cases hdelete
  refine ⟨pre, lines ++ blank, post, by simp, rfl, by rw [hspan], ⟨size blank, ?_, ?_⟩, hwhole,
    hcall.trans (List.prefix_append _ _).isInfix⟩
  · rcases hblank with rfl | rfl | rfl <;> decide
  · rw [hspan]
    simp [Nat.add_assoc]

theorem once_line (t : Text) {policy : Policy} {call : String} {margin : Text} (hcall : policy.call? = some call)
    (hmargin : ∀ c ∈ margin, isMargin c = true) :
    ∃ s, '\n' :: margin ++ authStatement call (.of t) = '\n' :: (s ++ [';']) ∧ Once markerText s := by
  have hname : ∀ hit, ClientPlan.of t = .replace hit → ' ' ∉ hit.holds := by
    intro hit hplan
    obtain ⟨-, -, -, -, -, -, -, hname⟩ := isClient_of_firstHit (planOf_eq_replace_iff.1 hplan).2
    exact hname
  obtain ⟨s, hs, honce⟩ := exists_once_statement (.of t) hcall hmargin hname
  exact ⟨s, by rw [List.cons_append, hs], honce⟩

/-- Authentication takes out the lines of the only client, if it knows their shape, and puts in its statement
behind the anchor. Nothing else changes, and the helper is then awaited at exactly one place. -/
theorem injectAuth_changes (h : injectAuth ctx t = .ok ⟨some u, notes⟩) :
    ∃ call anchor margin, ctx.policy.call? = some call ∧ authAnchor? ctx.policy t = some anchor ∧
      t.marginAt anchor.span.start = some margin ∧
      (∀ hit, clientCalls t = 1 → firstHit t clients = some hit →
        ∃ pre lines post, t = pre ++ (lines ++ post) ∧
          size pre = hit.span.start ∧ (∃ x ≤ 2, size (pre ++ lines) = hit.span.stop + x) ∧
          WholeLines pre lines post ∧ "createClient(".toList <:+: lines ∧
          Edit.Exchanged pre lines post anchor.span.stop
            ('\n' :: margin ++ ("const \x7b serviceClient: ".toList ++ hit.holds ++ " \x7d = await ".toList ++
              call.toList ++ [';'])) u) ∧
      (clientCalls t ≠ 1 ∨ firstHit t clients = none →
        ∃ p q, t = p ++ q ∧ size p = anchor.span.stop ∧
          u = p ++ ('\n' :: margin ++ ("await ".toList ++ call.toList ++ [';']) ++ q)) ∧
      Once Canonical.authMarker.toList u := by
  obtain ⟨call, anchor, margin, deletions, hmarker, hcall, hanchor, hmargin, hdeletions, hu⟩ :=
    injectAuth_eq_some_iff.1 ⟨notes, h⟩
  refine ⟨call, anchor, margin, hcall, hanchor, hmargin, ?_⟩
  rw [authMarker_toList]
  have hblank : ∀ c ∈ margin, isMargin c = true := isMargin_of_marginAt (by rw [hmargin]; rfl)
  have hnew := once_line t hcall hblank
  cases hplan : ClientPlan.of t with
  | replace hit =>
    rw [hplan] at hdeletions hu hnew
    obtain ⟨hcalls, hhit⟩ := planOf_eq_replace_iff.1 hplan
    obtain ⟨pre, lines, post, rfl, rfl, hstart, hstop, hwhole, hclient⟩ := exists_clientDeletion hhit hdeletions
    have hexchanged := Edit.exchanged_of_applyAll hu
    refine ⟨fun hit' _ hhit' => ?_, fun hother => ?_, ?_⟩
    · cases hhit.symm.trans hhit'
      exact ⟨pre, lines, post, rfl, hstart, hstop, hwhole, hclient, hexchanged⟩
    · rcases hother with hother | hother
      · exact absurd hcalls hother
      · rw [hhit] at hother; cases hother
    · exact once_exchanged hwhole hmarker hnew hexchanged
  | keep warning =>
    rw [hplan] at hdeletions hu hnew
    cases hdeletions
    obtain ⟨p, q, rfl, hstart, rfl⟩ := Edit.exists_of_applyAll_insert hu
    refine ⟨fun hit hcalls hhit => ?_, fun _ => ⟨p, q, rfl, hstart, rfl⟩, ?_⟩
    · rw [planOf_eq_replace_iff.2 ⟨hcalls, hhit⟩] at hplan
      cases hplan
    · exact once_insert hnew (fun hin => hmarker (hin.trans (List.prefix_append _ _).isInfix))
        fun hin => hmarker (hin.trans (List.suffix_append _ _).isInfix)

end Step

/-- A client whose name is a letter of the call, and a guard of preflight requests. -/
def loneClient : Text := "const w=createClient(b)\n\n\tif(method=='OPTIONS')\x7b\x7d".toList

/-- `loneClient` with the client of the helper. The blank line went with the old one. -/
def helperClient : Text :=
  "\tif(method=='OPTIONS')\x7b\x7d\n\tconst \x7b serviceClient: w \x7d = await validateAuth(req);".toList

set_option maxRecDepth 20000 in
theorem injectAuth_changes_loneClient :
    (∃ notes, injectAuth ⟨"f", .plainAuth, ⟨.empty, .empty⟩⟩ loneClient = .ok ⟨some helperClient, notes⟩) ∧
      (∃ pre lines post, loneClient = pre ++ (lines ++ post) ∧ size pre = 0 ∧
        (∃ x ≤ 2, size (pre ++ lines) = 24 + x) ∧ WholeLines pre lines post) ∧
      Once Canonical.authMarker.toList helperClient := by
  obtain ⟨hmarker, hanchor, hmargin, hcalls, hhit, hdeletions⟩ :
      loneClient.contains markerText = false ∧
      authAnchor? .plainAuth loneClient = some ⟨"OPTIONS guard", ⟨26, 49⟩, ()⟩ ∧
      loneClient.marginAt 26 = some ['\t'] ∧
      clientCalls loneClient = 1 ∧ firstHit loneClient clients = some ⟨"generic", ⟨0, 24⟩, ['w']⟩ ∧
      (clientDeletion loneClient (.of loneClient)).toOption = some [.delete 0 25] := by decide +kernel
  have hplan := planOf_eq_replace_iff.2 ⟨hcalls, hhit⟩
  have hedits : (Edit.applyAll loneClient [.delete 0 25, .insert 49 ('\n' :: ['\t'] ++
      authStatement "validateAuth(req)" (.replace ⟨"generic", ⟨0, 24⟩, ['w']⟩))]).toOption = some helperClient := by
    rw [Edit.applyAll_eq, Edit.sort, List.mergeSort_of_pairwise (by decide)]
    decide +kernel
  have hnew : ∃ notes, injectAuth ⟨"f", .plainAuth, ⟨.empty, .empty⟩⟩ loneClient = .ok ⟨some helperClient, notes⟩ := by
    refine injectAuth_eq_some_iff.2 ⟨"validateAuth(req)", _, ['\t'], _, ?_, rfl, hanchor, hmargin,
      toOption_eq_some hdeletions, ?_⟩
    · rw [← contains_iff, hmarker]
      decide
    · rw [hplan]
      exact toOption_eq_some hedits
  obtain ⟨notes, hrun⟩ := hnew
  obtain ⟨call, anchor, margin, -, -, -, hclient, -, honce⟩ := injectAuth_changes hrun
  obtain ⟨pre, lines, post, ht, hstart, hstop, hwhole, -⟩ := hclient _ hcalls hhit
  exact ⟨⟨notes, hrun⟩, ⟨pre, lines, post, ht, hstart, hstop, hwhole⟩, honce⟩

end Migration

end HandlerMigration
