import HandlerMigration.Proofs.HeaderSites
import Mathlib.Data.List.TakeWhile

/-!
# Guards of catch blocks

A guard is a whole line of its own: it goes in just behind a newline and ends with one. So it takes
nothing apart that has no newline in it, and no header site can reach into it. It names the header table
only if the head of its catch block does. A text that got a guard has one (`isSome_responseGuard?`).
-/

namespace HandlerMigration.Shape

open Text Pattern Piece Migration

/-! ### Heads of catch blocks -/

/-- The head of a catch block in front of its binding. -/
def catchFront : Pattern := text "\x7d" ++ blanks ++ text "catch" ++ blanks ++ text "(" ++ blanks

/-- The head of a catch block behind its binding. -/
def catchBack : Pattern :=
  blanks ++ opt (text ":" ++ manyOf (.except [')'])) ++ text ")" ++ blanks ++ group 2 (text "\x7b") ++
  Piece.margin ++ lineBreak

section Head

variable {bound : Nat} {cur stop : Cursor} {last next : Option Char} {w : Text}

theorem ends_catchPattern :
    catchPattern.ends bound cur = (catchFront ++ (group 1 identifier ++ catchBack)).ends bound cur := by
  have happend : ∀ p q : Pattern, (p ++ q).ends bound = fun cur => (p.ends bound cur).flatMap (q.ends bound) :=
    fun _ _ => rfl
  simp only [catchPattern, catchFront, catchBack, happend, List.flatMap_assoc]

theorem catchFront_last (h : catchFront.Spells last w next) :
    ∃ x c, w = x ++ [c] ∧ Unicode.isWord c = false := by
  obtain ⟨u, v, rfl, ⟨u, _, rfl, -, rfl⟩, hv, -⟩ := h
  rcases List.eq_nil_or_concat' v with rfl | ⟨v, c, rfl⟩
  · exact ⟨u, '(', by simp, by decide⟩
  · exact ⟨u ++ "(".toList ++ v, c, by simp, isWord_of_isBlank (hv c (by simp))⟩

theorem isWord_of_letter {c : Char} (h : ('A' ≤ c ∧ c ≤ 'Z') ∨ ('a' ≤ c ∧ c ≤ 'z')) : Unicode.isWord c = true := by
  have hlt : c.toNat < 128 := by
    rcases h with ⟨-, h⟩ | ⟨-, h⟩
    · have : c.toNat ≤ 90 := h
      omega
    · have : c.toNat ≤ 122 := h
      omega
  simp only [Unicode.isWord, hlt, ↓reduceIte, Unicode.isAsciiWord, Unicode.isAsciiLetter, Bool.or_eq_true,
    Bool.and_eq_true, decide_eq_true_eq]
  exact .inl (.inl h.symm)

theorem identifier_word (h : identifier.Spells last w next) : ∀ c ∈ w, Unicode.isWord c = true ∨ c = '$' := by
  obtain ⟨_, v, rfl, ⟨d, rfl, hd⟩, hv, -⟩ := h
  intro c hc
  rcases List.mem_append.1 hc with hc | hc
  · obtain rfl := List.mem_singleton.1 hc
    simp only [CharSet.has, Bool.or_eq_true, Bool.and_eq_true, decide_eq_true_eq, List.contains_cons,
      List.contains_nil, Bool.or_false, beq_iff_eq] at hd
    rcases hd with h | h | rfl | rfl
    · exact .inl (isWord_of_letter (.inl h))
    · exact .inl (isWord_of_letter (.inr h))
    · exact .inl (by decide)
    · exact .inr rfl
  · simpa [CharSet.has] using hv c hc

theorem catchBack_first (h : catchBack.Spells last w next) :
    ∃ c y, w = c :: y ∧ Unicode.isWord c = false ∧ c ≠ '$' := by
  obtain ⟨_, _, rfl, ⟨_, _, rfl, ⟨_, _, rfl, ⟨_, _, rfl, ⟨_, _, rfl, ⟨u, v, rfl, hu, hv⟩, rfl⟩, -⟩, -⟩, -⟩, -⟩ := h
  cases u with
  | cons c u =>
    have hblank := hu.1 c (by simp)
    refine ⟨c, _, rfl, isWord_of_isBlank hblank, ?_⟩
    rintro rfl
    exact absurd hblank (by decide)
  | nil =>
    rcases hv with ⟨_, _, rfl, rfl, -⟩ | rfl
    · exact ⟨':', _, rfl, by decide, by decide⟩
    · exact ⟨')', _, rfl, by decide, by decide⟩

theorem exists_binding {a r : Text} (h : stop ∈ catchPattern.ends bound (.behind a r)) :
    ∃ x c binding d y, r = x ++ c :: (binding ++ d :: (y ++ stop.rest)) ∧ Unicode.isWord c = false ∧
      Unicode.isWord d = false ∧ (∀ e ∈ binding, Unicode.isWord e = true ∨ e = '$') ∧
      (d :: y).getLast? = some '\n' ∧
      stop.groups.lookup 1 = some ⟨size (a ++ x ++ [c]), size (a ++ x ++ [c] ++ binding)⟩ := by
  rw [ends_catchPattern] at h
  obtain ⟨mid, hmid, h⟩ := mem_ends_append.1 h
  obtain ⟨mid', hmid', h⟩ := mem_ends_append.1 h
  obtain ⟨_, hx, hfront⟩ := mem_ends hmid
  obtain ⟨x, c, rfl, hc⟩ := catchFront_last hfront
  obtain ⟨inner, hinner, rfl⟩ := List.mem_map.1 hmid'
  obtain ⟨binding, hb, hword⟩ := mem_ends hinner
  obtain ⟨_, hy, hback⟩ := mem_ends h
  obtain ⟨d, y, rfl, hd, -⟩ := catchBack_first hback
  refine ⟨x, c, binding, d, y, ?_, hc, hd, identifier_word hword, hback.getLast?_eq rfl, ?_⟩
  · have hr : r = x ++ [c] ++ mid.rest := hx.rest
    rw [hr, hb.rest, show inner.rest = _ from hy.rest]
    simp
  · rw [lookup_groups (by decide) h, List.lookup_cons_self]
    have hoff : mid.offset = size (a ++ x ++ [c]) := by
      rw [hx.offset, List.append_assoc, size_append a]; rfl
    rw [hb.offset, hoff, ← size_append]

end Head

/-- A catch block stands behind its head, whose binding is set off from the text around it. -/
theorem mem_catchBlocks {t : Text} {block : CatchBlock} (h : block ∈ catchBlocks t) :
    ∃ x c d y b, t = x ++ c :: (block.binding ++ d :: (y ++ b)) ∧ Unicode.isWord c = false ∧
      Unicode.isWord d = false ∧ (∀ e ∈ block.binding, Unicode.isWord e = true ∨ e = '$') ∧
      (d :: y).getLast? = some '\n' ∧ block.bodyStart = size (x ++ c :: (block.binding ++ d :: y)) := by
  obtain ⟨m, hm, hblock⟩ := List.mem_filterMap.1 h
  have hsolid : catchPattern.Solid := solid_of_leading (by decide)
  obtain ⟨a, w, b, stop, ht, hspan, -, hhead, rfl, hgroups⟩ := (hsolid.lists_findAll t).occurs hm
  obtain ⟨x, c, binding, d, y, hr, hc, hd, hword, hlast, hlookup⟩ := exists_binding (List.mem_of_head? hhead)
  obtain ⟨span, hspan₁, hblock⟩ := Option.bind_eq_some_iff.1 hblock
  obtain ⟨brace, -, hblock⟩ := Option.bind_eq_some_iff.1 hblock
  rw [Match.group?, hgroups, hlookup] at hspan₁
  cases hspan₁
  cases hblock
  have hw : w = x ++ c :: (binding ++ d :: y) := by
    have heq : w ++ stop.rest = (x ++ c :: (binding ++ d :: y)) ++ stop.rest := by rw [hr]; simp
    exact List.append_cancel_right heq
  subst hw
  have ht' : t = a ++ x ++ [c] ++ binding ++ (d :: (y ++ stop.rest)) := by
    rw [List.nil_append] at ht
    rw [ht]; simp
  have hslice : t.slice ⟨size (a ++ x ++ [c]), size (a ++ x ++ [c] ++ binding)⟩ = binding := by
    rw [ht', size_append _ binding]
    exact slice_append _ _ _
  refine ⟨a ++ x, c, d, y, stop.rest, ?_, hc, hd, ?_, hlast, ?_⟩
  · rw [hslice, ht']; simp
  · rwa [hslice]
  · rw [hslice, hspan]; simp

/-! ### Inserted lines -/

/-- The line that guards a catch block. -/
def guardLine (margin binding : Text) : Text := margin ++ Canonical.responseGuard binding ++ ['\n']

/-- What a guard says between its two bindings, without the spaces around it. -/
def guardWords : Text := "instanceof Response) return".toList

/-- What a guard has behind its parenthesis. -/
def guardTail (binding : Text) : Text := binding ++ ' ' :: guardWords ++ ' ' :: binding ++ [';', '\n']

theorem guardLine_eq (m binding : Text) : guardLine m binding = m ++ ['i', 'f', ' ', '('] ++ guardTail binding := by
  have hif : "if (".toList = ['i', 'f', ' ', '('] := rfl
  have hwords : " instanceof Response) return ".toList = ' ' :: guardWords ++ [' '] := by decide
  refine (congrArg₂ (fun a b => m ++ (a ++ binding ++ b ++ binding ++ [';']) ++ ['\n']) hif hwords).trans ?_
  simp only [guardTail, List.append_assoc, List.cons_append, List.nil_append]

/-- `new` is the guard of a catch block of `t`, put in behind a newline. -/
def InsertsGuard (t pre old _ new : Text) : Prop :=
  old = [] ∧ pre.getLast? = some '\n' ∧ ∃ margin binding, new = guardLine margin binding ∧
    (∀ c ∈ margin, isMargin c = true) ∧ (∀ c ∈ binding, Unicode.isWord c = true ∨ c = '$') ∧
    (NamesTable binding → NamesTable t)

section Insertion

variable {t : Text} {block : CatchBlock} {m : Text}

theorem isMargin_of_mem_margin {c : Char} (h : c ∈ t.margin) : isMargin c = true := List.mem_takeWhile_imp h

theorem isMargin_of_marginAt {n : Nat} (h : Fault.unlessCut (t.marginAt n) = .ok m) : ∀ c ∈ m, isMargin c = true := by
  cases hm : t.marginAt n with
  | none => rw [hm] at h; cases h
  | some m' =>
    rw [hm] at h
    cases h
    obtain ⟨parts, -, rfl⟩ := Option.map_eq_some_iff.1 hm
    exact fun c hc => isMargin_of_mem_margin hc

theorem innerMargin_ok (h : innerMargin t block = .ok m) : ∀ c ∈ m, isMargin c = true := by
  obtain ⟨m', hm', h⟩ := bind_eq_ok h
  cases h
  intro c hc
  rcases List.mem_append.1 hc with hc | hc
  · exact isMargin_of_marginAt hm' c hc
  · obtain rfl : c = ' ' := by simpa using hc
    rfl

theorem bodyMargin_ok (h : bodyMargin t block = .ok m) : ∀ c ∈ m, isMargin c = true := by
  cases hcut : t.cut block.bodyStart with
  | none => rw [bodyMargin, hcut] at h; cases h
  | some parts =>
    rw [bodyMargin, hcut] at h
    simp only [Fault.unlessCut, bind, Except.bind] at h
    split at h
    · split_ifs at h
      · exact innerMargin_ok h
      · cases h
        exact fun c hc => isMargin_of_mem_margin hc
    · exact innerMargin_ok h

theorem catchGuard_ok {e : Edit} (h : catchGuard t block = .ok e) :
    ∃ m, e = .insert block.bodyStart (guardLine m block.binding) ∧ ∀ c ∈ m, isMargin c = true := by
  obtain ⟨m, hm, h⟩ := bind_eq_ok h
  cases h
  exact ⟨m, rfl, bodyMargin_ok hm⟩

end Insertion

theorem mapM_ok {ε α β : Type} {f : α → Except ε β} {xs : List α} {ys : List β} (h : xs.mapM f = .ok ys) :
    ys.length = xs.length ∧ ∀ y ∈ ys, ∃ x ∈ xs, f x = .ok y := by
  induction xs generalizing ys with
  | nil => cases h; simp
  | cons x xs ih =>
    rw [List.mapM_cons] at h
    obtain ⟨y, hx, h⟩ := bind_eq_ok h
    obtain ⟨ys', hxs, h⟩ := bind_eq_ok h
    cases h
    obtain ⟨hlen, hmem⟩ := ih hxs
    refine ⟨by rw [List.length_cons, List.length_cons, hlen], fun z hz => ?_⟩
    rcases List.mem_cons.1 hz with rfl | hz
    · exact ⟨x, by simp, hx⟩
    · obtain ⟨x', hx', hz⟩ := hmem z hz
      exact ⟨x', by simp [hx'], hz⟩

theorem rewrites_of_guards {t u : Text} {edits : List Edit} (hedits : (catchBlocks t).mapM (catchGuard t) = .ok edits)
    (h : Edit.applyAll t edits = .ok u) : Rewrites (InsertsGuard t) (fun _ _ => True) [] t u := by
  refine Edit.rewrites_of_applyAll h ?_ fun _ _ _ _ _ => trivial
  intro e he pre old post ht hpre hold
  obtain ⟨block, hblock, hguard⟩ := (mapM_ok hedits).2 e he
  obtain ⟨m, rfl, hm⟩ := catchGuard_ok hguard
  obtain ⟨x, c, d, y, b, ht', hc, hd, hword, hlast, hstart⟩ := mem_catchBlocks hblock
  have hold' : size pre = size (pre ++ old) := hpre.trans hold.symm
  obtain rfl : old = [] := size_eq_zero.1 (by rw [size_append] at hold'; omega)
  refine ⟨rfl, ?_, m, block.binding, rfl, hm, hword, ?_⟩
  · obtain ⟨rfl, -⟩ : pre = x ++ c :: (block.binding ++ d :: y) ∧ post = b := by
      refine append_inj_of_size ?_ (hpre.trans hstart)
      rw [List.append_nil] at ht
      rw [← ht, ht']; simp
    have : x ++ c :: (block.binding ++ d :: y) = x ++ c :: block.binding ++ (d :: y) := by simp
    rw [this, List.getLast?_append, hlast, Option.some_or]
  · intro hnames
    rw [ht', namesTable_append_cons hc, namesTable_append_cons hd]
    exact .inr (.inl hnames)

/-! ### What a guard leaves alone -/

section Preserved

variable {t done rest out : Text}

theorem InsertsGuard.gap_cases {gap old post new : Text} (h : InsertsGuard t (done ++ gap) old post new) :
    gap = [] ∨ ∃ g, gap = g ++ ['\n'] := by
  rcases List.eq_nil_or_concat' gap with rfl | ⟨g, c, rfl⟩
  · exact .inl rfl
  · have := h.2.1
    rw [← List.append_assoc, List.getLast?_concat, Option.some.injEq] at this
    exact .inr ⟨g, by rw [this]⟩

theorem infix_of_guards {m : Text} (hm : '\n' ∉ m) (hne : m ≠ [])
    (h : Rewrites (InsertsGuard t) (fun _ _ => True) done rest out) (hrest : m <:+: rest) : m <:+: out := by
  refine h.infix_out ?_ ?_ ?_ hrest
  · rintro pre old post new ⟨rfl, hlast, -⟩ c hc
    rw [List.append_nil, hlast] at hc
    cases hc
    exact hm
  · rintro pre old post new ⟨rfl, -⟩ hin
    exact hne (List.infix_nil.1 hin)
  · rintro pre old post new ⟨rfl, -⟩ s hs - hpre
    exact absurd (List.prefix_nil.1 hpre) hs

theorem isWord_of_isMargin {c : Char} (h : isMargin c = true) : Unicode.isWord c = false := by
  simp only [isMargin, Bool.or_eq_true, beq_iff_eq] at h
  rcases h with rfl | rfl <;> decide

theorem namesTable_of_guardLine {m binding : Text} (hm : ∀ c ∈ m, isMargin c = true)
    (h : NamesTable (guardLine m binding)) : NamesTable binding := by
  induction m with
  | cons c m ih =>
    have hc := isWord_of_isMargin (hm c (by simp))
    have hcons : guardLine (c :: m) binding = [] ++ c :: guardLine m binding := by simp [guardLine]
    rw [hcons, namesTable_append_cons hc] at h
    exact h.elim (fun h => absurd h.le_length (by decide)) (ih fun d hd => hm d (by simp [hd]))
  | nil =>
    have hspace : Unicode.isWord ' ' = false := by decide
    have hline : guardLine [] binding = ['i', 'f', ' '] ++ '(' :: (binding ++ ' ' :: (guardWords ++ ' ' ::
        (binding ++ ';' :: ['\n']))) := by simp [guardLine_eq, guardTail]
    rw [hline, namesTable_append_cons (by decide), namesTable_append_cons hspace, namesTable_append_cons hspace,
      namesTable_append_cons (by decide)] at h
    rcases h with h | h | h | h | h
    · exact absurd h.le_length (by decide)
    · exact h
    · exact absurd h.isInfix (by decide)
    · exact h
    · exact absurd h.le_length (by decide)

theorem namesTable_of_guards (h : Rewrites (InsertsGuard t) (fun _ _ => True) done rest out) :
    (NamesTable rest → NamesTable out) ∧ (NamesTable out → NamesTable rest ∨ NamesTable t) := by
  have hnl : Unicode.isWord '\n' = false := by decide
  induction h with
  | nil => exact ⟨id, .inl⟩
  | @cons done rest out gap old new _ hnew _ ih =>
    obtain ⟨hgap, rfl, -, m, binding, rfl, hm, -, hnames⟩ := And.intro hnew.gap_cases hnew
    have hguard : NamesTable (m ++ Canonical.responseGuard binding) → NamesTable t := by
      intro h
      refine hnames (namesTable_of_guardLine hm ?_)
      exact (namesTable_append_cons (y := []) hnl).2 (.inl h)
    have hout : NamesTable (guardLine m binding ++ out) ↔
        NamesTable (m ++ Canonical.responseGuard binding) ∨ NamesTable out := by
      have hline : guardLine m binding ++ out = m ++ Canonical.responseGuard binding ++ '\n' :: out := by
        simp [guardLine]
      rw [hline, namesTable_append_cons hnl]
    rw [List.append_nil, List.append_assoc]
    rcases hgap with rfl | ⟨g, rfl⟩
    · rw [List.nil_append, List.nil_append, hout]
      exact ⟨fun h => .inr (ih.1 h), fun h => h.elim (fun h => .inr (hguard h)) ih.2⟩
    · simp only [List.append_assoc, List.singleton_append, namesTable_append_cons hnl, hout]
      refine ⟨Or.imp_right fun h => .inr (ih.1 h), ?_⟩
      rintro (h | h | h)
      · exact .inl (.inl h)
      · exact .inr (hguard h)
      · exact (ih.2 h).imp_left .inr

theorem not_mem_guardTail {binding : Text} (hword : ∀ c ∈ binding, Unicode.isWord c = true ∨ c = '$') {c : Char}
    (hc : c ∈ ['{', ',', ':']) : c ∉ guardTail binding := by
  obtain ⟨h1, h2, h3, h4, h5⟩ : c ∉ ' ' :: guardWords ∧ c ≠ ' ' ∧ c ∉ [';', '\n'] ∧
      Unicode.isWord c = false ∧ c ≠ '$' := by
    simp only [List.mem_cons, List.not_mem_nil, or_false] at hc
    rcases hc with rfl | rfl | rfl <;> decide
  have hb : c ∉ binding := fun h => by
    rcases hword c h with h | h
    · rw [h4] at h; cases h
    · exact h5 h
  simp only [guardTail, List.mem_append, List.mem_cons, not_or] at h1 h3 ⊢
  exact ⟨⟨⟨hb, h1⟩, h2, hb⟩, h3⟩

/-- A part that starts with the key of the headers does not start in front of the end of a line without a
colon. -/
theorem not_prefix_headersKey {x r v : Text} (hcolon : ':' ∉ x) (hlast : x.getLast? = some '\n') :
    HeaderShape.headersKey ++ v ≠ x ++ r := by
  intro h
  rcases List.append_eq_append_iff.1 h with ⟨y, rfl, -⟩ | ⟨y, hy, -⟩
  · exact hcolon (by simp [HeaderShape.headersKey])
  · have : '\n' ∈ HeaderShape.headersKey := by
      rw [hy]
      exact List.mem_append_left _ (List.mem_of_getLast? hlast)
    exact absurd this (by decide)

theorem not_isSite_of_guard {m binding a' x w b r : Text} {next : Option Char} (hm : ∀ c ∈ m, isMargin c = true)
    (hword : ∀ c ∈ binding, Unicode.isWord c = true ∨ c = '$') (hline : a' ++ x = guardLine m binding) (hx : x ≠ [])
    (h : w ++ b = x ++ r) : ¬ IsSite w next := by
  rintro ⟨shape, hw⟩
  have hhead : x.head? = some shape.first := by
    obtain ⟨c, x, rfl⟩ := List.exists_cons_of_ne_nil hx
    have := congrArg List.head? h
    rwa [List.head?_append, HeaderShape.head?_eq hw, Option.some_or, eq_comm] at this
  have hmem : shape.first ∈ x := List.mem_of_mem_head? hhead
  have hbehind : ∀ z, guardTail binding ≠ z ++ x := by
    intro z hz
    have hnot : ∀ c ∈ ['{', ',', ':'], c ∉ x := by
      intro c hc hcx
      exact not_mem_guardTail hword hc (hz ▸ List.mem_append_right z hcx)
    have hlast : x.getLast? = some '\n' := by
      have : (guardTail binding).getLast? = some '\n' := by rw [guardTail, List.getLast?_append]; rfl
      rwa [hz, List.getLast?_append_of_ne_nil _ hx] at this
    have hkey : shape.pattern.leading = HeaderShape.headersKey := by
      cases shape with
      | bare => rfl
      | jsonOnly => rfl
      | spreadFirst => exact absurd hmem (hnot '{' (by decide))
      | spreadLast => exact absurd hmem (hnot '{' (by decide))
      | trailingArgument => exact absurd hmem (hnot ',' (by decide))
    obtain ⟨v, rfl⟩ := hw.leading_isPrefix
    rw [hkey, List.append_assoc] at h
    exact not_prefix_headersKey (hnot ':' (by decide)) hlast h
  rw [guardLine_eq] at hline
  rcases List.append_eq_append_iff.1 hline with ⟨y, hy, rfl⟩ | ⟨z, -, hz⟩
  · cases y with
    | nil => exact hbehind [] rfl
    | cons c y =>
      -- in front of the binding
      obtain rfl : c = shape.first := by simpa using hhead
      have hc : shape.first ∈ m ++ ['i', 'f', ' ', '('] := hy ▸ by simp
      rcases List.mem_append.1 hc with hc | hc
      · have := hm _ hc
        cases shape <;> exact absurd this (by decide)
      · cases shape <;> exact absurd hc (by decide)
  · exact hbehind z hz

theorem not_isSite_of_across_guard {m binding s w' b r : Text} {next : Option Char}
    (hm : ∀ c ∈ m, isMargin c = true) (hw' : w' ≠ []) (h : w' ++ b = guardLine m binding ++ r) :
    ¬ IsSite (s ++ w') next := by
  intro hw
  obtain ⟨shape, -, hfinal, -⟩ := hw.exists_first
  have hf : 'f' ∉ w' := fun h => hw.not_mem.2.1 (List.mem_append_right s h)
  have hpre : w' <+: m ++ ['i'] := by
    refine prefix_of_not_mem hf (b := b) (r := [' ', '('] ++ guardTail binding ++ r) ?_
    rw [h, guardLine_eq]; simp
  obtain ⟨z, c, rfl⟩ := (List.eq_nil_or_concat' w').resolve_left hw'
  rw [← List.append_assoc, List.getLast?_concat, Option.some.injEq] at hfinal
  have hc : c ∈ m ++ ['i'] := hpre.subset (by simp)
  rcases List.mem_append.1 hc with hc | hc
  · have := hm c hc
    subst hfinal
    cases shape <;> exact absurd this (by decide)
  · obtain rfl := List.mem_singleton.1 hc
    cases shape <;> exact absurd hfinal (by decide)

theorem noSite_of_guards (h : Rewrites (InsertsGuard t) (fun _ _ => True) done rest out) (hrest : NoSite rest) :
    NoSite out := by
  induction h with
  | nil => exact hrest
  | @cons done rest out gap old new _ hnew _ ih =>
    obtain ⟨hgap, rfl, -, m, binding, rfl, hm, hword, -⟩ := And.intro hnew.gap_cases hnew
    have ih := ih fun a w b h => hrest (gap ++ a) w b (by rw [h]; simp)
    intro a w b hout hw
    cases lands hout with
    | behind a' hback => exact ih a' w b hback hw
    | inside a' x hx hline h => exact not_isSite_of_guard hm hword hline hx h hw
    | across x w' _ hw' hxw h => exact not_isSite_of_across_guard hm hw' h (hxw ▸ hw)
    | gap z hz hb =>
      subst hz hb
      cases z with
      | cons c z => exact hrest a w (c :: z ++ rest) (by simp) (by simpa using hw)
      | nil =>
        -- The gap ends with a newline, and no site does.
        obtain ⟨shape, -, hfinal, -⟩ := hw.exists_first
        rw [List.append_nil] at hgap
        have hlast : (a ++ w).getLast? = some shape.final := by
          rw [List.getLast?_append, hfinal, Option.some_or]
        rcases hgap with h0 | ⟨g, hg⟩
        · rw [h0] at hlast; cases hlast
        · rw [hg, List.getLast?_concat] at hlast
          cases shape <;> cases hlast

end Preserved

/-! ### The step -/

theorem guardPattern_spells (last : Option Char) : guardPattern.Spells last guardWords (some ' ') := by
  have hblank : ∀ c ∈ [' '], CharSet.blank.has c = true := by
    intro c hc
    obtain rfl := List.mem_singleton.1 hc
    decide
  have hone : ∀ {last next}, someBlanks.Spells last [' '] next := ⟨hblank, Nat.le_refl 1, by simp⟩
  have hmany : ∀ {last next}, blanks.Spells last [' '] next := ⟨hblank, Nat.zero_le _, by simp⟩
  have hnone : ∀ {last next}, blanks.Spells last [] next := ⟨by simp, Nat.zero_le _, by simp⟩
  have hlit : ∀ (s : String) {last next}, (text s).Spells last s.toList next := fun _ _ _ => rfl
  have hend : wordBoundary.Spells (some 'n') [] (some ' ') := ⟨rfl, by decide⟩
  exact ((((((((hlit "instanceof").append hone).append (hlit "Response")).append hnone).append (hlit ")")).append
    hmany).append (hlit "return")).append hend)

theorem isSome_responseGuard? {u m binding : Text} (h : guardLine m binding <:+: u) :
    (responseGuard? u).isSome = true := by
  rw [responseGuard?, Option.isSome_map, Option.isSome_iff_ne_none, ne_eq, find?_eq_none_iff]
  obtain ⟨a, b, rfl⟩ := h
  refine fun habsent => habsent (a ++ m ++ ['i', 'f', ' ', '('] ++ binding ++ [' ']) guardWords
    (' ' :: (binding ++ [';', '\n'] ++ b)) ?_ (guardPattern_spells _)
  simp only [guardLine_eq, guardTail, List.append_assoc, List.cons_append, List.nil_append]

end HandlerMigration.Shape

namespace HandlerMigration.Migration

open Shape

/-- What the step answers: nothing new without authentication, with a guard in place or without a catch
block, and otherwise the text with guards put in. -/
theorem guardCatches_cases {ctx : Context} {t : Text} {o : Output} (h : guardCatches ctx t = .ok o) :
    (o.text? = none ∧ (∀ n ∈ o.notes, n.1 ≠ .applied) ∧
      (ctx.policy.requiresAuth = false ∨ (responseGuard? t).isSome = true ∨
        catchBlocks t = [] ∧ ∃ m, (Outcome.warning, m) ∈ o.notes)) ∨
    ((∃ m, (Outcome.applied, m) ∈ o.notes) ∧ ∃ u, o.text? = some u ∧ (responseGuard? u).isSome = true ∧
      Rewrites (InsertsGuard t) (fun _ _ => True) [] t u) := by
  unfold guardCatches at h
  by_cases hauth : ctx.policy.requiresAuth = true
  · simp only [hauth, Bool.not_true, Bool.false_eq_true, ↓reduceIte] at h
    by_cases hguard : (responseGuard? t).isSome = true
    · simp only [hguard, ↓reduceIte] at h
      cases h
      exact .inl ⟨rfl, by simp [Output.skip], .inr (.inl hguard)⟩
    · simp only [hguard, Bool.false_eq_true, ↓reduceIte] at h
      by_cases hblocks : catchBlocks t = []
      · simp only [hblocks, List.isEmpty_nil, ↓reduceIte] at h
        cases h
        exact .inl ⟨rfl, by simp [Output.warn], .inr (.inr ⟨hblocks, by simp [Output.warn]⟩)⟩
      · simp only [List.isEmpty_iff, hblocks, ↓reduceIte] at h
        obtain ⟨edits, hedits, h⟩ := bind_eq_ok h
        obtain ⟨u, hu, h⟩ := bind_eq_ok h
        cases h
        refine .inr ⟨by simp [Output.change], u, rfl, ?_, rewrites_of_guards hedits hu⟩
        obtain ⟨e, he⟩ : ∃ e, e ∈ edits := by
          refine List.exists_mem_of_length_pos ?_
          rw [(mapM_ok hedits).1]
          exact List.length_pos_iff.2 hblocks
        obtain ⟨block, -, hblock⟩ := (mapM_ok hedits).2 e he
        obtain ⟨m, rfl, -⟩ := catchGuard_ok hblock
        exact isSome_responseGuard? (Edit.infix_of_applyAll hu he)
  · simp only [hauth, Bool.not_false, ↓reduceIte] at h
    cases h
    exact .inl ⟨rfl, by simp [Output.skip], .inl (by simpa using hauth)⟩

/-! ### An answer for every text -/

section Total

open Text Pattern

variable {t : Text}

theorem exists_brace {block : CatchBlock} (h : block ∈ catchBlocks t) : ∃ a b, t = a ++ b ∧ size a = block.brace := by
  obtain ⟨m, hm, hblock⟩ := List.mem_filterMap.1 h
  have hsolid : catchPattern.Solid := solid_of_leading (by decide)
  obtain ⟨a, w, b, stop, ht, -, -, hhead, -, hgroups⟩ := (hsolid.lists_findAll t).occurs hm
  obtain ⟨span, -, hblock⟩ := Option.bind_eq_some_iff.1 hblock
  obtain ⟨brace, hbrace, hblock⟩ := Option.bind_eq_some_iff.1 hblock
  cases hblock
  obtain ⟨x, v, y, hrest, -, hlookup⟩ := exists_part (i := 2) (q := .text "\x7b") rfl (List.mem_of_head? hhead)
  rw [Match.group?, hgroups, hlookup] at hbrace
  cases hbrace
  refine ⟨a ++ x, v ++ (y ++ stop.rest), ?_, size_append a x⟩
  have hrest : w ++ b = x ++ (v ++ (y ++ stop.rest)) := hrest
  rw [List.nil_append] at ht
  rw [ht, hrest, List.append_assoc]

theorem exists_bodyStart {block : CatchBlock} (h : block ∈ catchBlocks t) :
    ∃ a b, t = a ++ b ∧ size a = block.bodyStart := by
  obtain ⟨x, c, d, y, b, ht, -, -, -, -, hstart⟩ := mem_catchBlocks h
  exact ⟨x ++ c :: (block.binding ++ d :: y), b, by rw [ht]; simp, hstart.symm⟩

theorem pairwise_catchBlocks (t : Text) : (catchBlocks t).Pairwise fun b b' => b.bodyStart < b'.bodyStart := by
  have hsolid : catchPattern.Solid := solid_of_leading (by decide)
  have hlists := hsolid.lists_findAll t
  refine List.pairwise_filterMap.2 ((hlists.pairwise hsolid).imp_of_mem ?_)
  intro m m' _ hm' hle block hblock block' hblock'
  have hstop : ∀ {m : Match} {block : CatchBlock}, (do
      let binding ← m.group? 1
      let brace ← m.group? 2
      return ⟨m.span.stop, brace.start, t.slice binding⟩) = some block → block.bodyStart = m.span.stop := by
    intro m block hblock
    obtain ⟨binding, -, hblock⟩ := Option.bind_eq_some_iff.1 hblock
    obtain ⟨brace, -, hblock⟩ := Option.bind_eq_some_iff.1 hblock
    cases hblock
    rfl
  have hlt := (hlists.le_start hsolid hm').2
  rw [hstop hblock, hstop hblock']
  omega

theorem exists_innerMargin {block : CatchBlock} (h : block ∈ catchBlocks t) : ∃ m, innerMargin t block = .ok m := by
  obtain ⟨a, b, ht, hbrace⟩ := exists_brace h
  have hcut := cut_eq_some_iff.2 ⟨ht, hbrace⟩
  exact ⟨_, by rw [innerMargin, marginAt, hcut]; rfl⟩

theorem exists_catchGuard {block : CatchBlock} (h : block ∈ catchBlocks t) :
    ∃ m, catchGuard t block = .ok (.insert block.bodyStart (guardLine m block.binding)) ∧
      ∀ c ∈ m, isMargin c = true := by
  obtain ⟨a, b, ht, hstart⟩ := exists_bodyStart h
  have hcut := cut_eq_some_iff.2 ⟨ht, hstart⟩
  obtain ⟨inner, hinner⟩ := exists_innerMargin h
  obtain ⟨m, hm⟩ : ∃ m, bodyMargin t block = .ok m := by
    rw [bodyMargin, hcut]
    simp only [Fault.unlessCut, bind, Except.bind]
    split
    · split_ifs
      · exact ⟨inner, hinner⟩
      · exact ⟨_, rfl⟩
    · exact ⟨inner, hinner⟩
  exact ⟨m, by rw [catchGuard, hm]; rfl, bodyMargin_ok hm⟩

theorem exists_margins (t : Text) : ∃ margin : CatchBlock → Text, ∀ block ∈ catchBlocks t,
    catchGuard t block = .ok (.insert block.bodyStart (guardLine (margin block) block.binding)) ∧
      ∀ c ∈ margin block, isMargin c = true := by
  have hguard : ∀ block, ∃ m, block ∈ catchBlocks t →
      catchGuard t block = .ok (.insert block.bodyStart (guardLine m block.binding)) ∧ ∀ c ∈ m, isMargin c = true := by
    intro block
    by_cases hblock : block ∈ catchBlocks t
    · obtain ⟨m, hm⟩ := exists_catchGuard hblock
      exact ⟨m, fun _ => hm⟩
    · exact ⟨[], fun h => absurd h hblock⟩
  choose margin hmargin using hguard
  exact ⟨margin, hmargin⟩

theorem mapM_eq_map {ε α β : Type} {f : α → Except ε β} {g : α → β} {xs : List α} (h : ∀ x ∈ xs, f x = .ok (g x)) :
    xs.mapM f = .ok (xs.map g) := by
  induction xs with
  | nil => rfl
  | cons x xs ih =>
    obtain ⟨hx, hxs⟩ := List.forall_mem_cons.1 h
    rw [List.mapM_cons, hx, ih hxs]
    rfl

theorem exists_guardCatches (ctx : Context) (t : Text) : ∃ o, guardCatches ctx t = .ok o := by
  obtain ⟨margin, hmargin⟩ := exists_margins t
  have hedits := mapM_eq_map fun block hblock => (hmargin block hblock).1
  obtain ⟨u, hu⟩ : ∃ u, Edit.applyAll t ((catchBlocks t).map fun block =>
      .insert block.bodyStart (guardLine (margin block) block.binding)) = .ok u := by
    refine Edit.exists_applyAll (List.forall_mem_map.2 fun block hblock => ?_) (List.pairwise_map.2 ?_)
    · obtain ⟨a, b, ht, hstart⟩ := exists_bodyStart hblock
      have hboundary := isBoundary_iff.2 ⟨a, b, ht, hstart⟩
      refine ⟨Nat.le_refl _, ?_, hboundary, hboundary⟩
      show block.bodyStart ≤ size t
      rw [ht, size_append]
      omega
    · exact (pairwise_catchBlocks t).imp Nat.le_of_lt
  unfold guardCatches
  split_ifs
  · exact ⟨_, rfl⟩
  · exact ⟨_, rfl⟩
  · dsimp only
    split_ifs
    · exact ⟨_, rfl⟩
    · rw [hedits]
      exact ⟨_, by simp only [bind, Except.bind, hu]; rfl⟩

end Total

section Step

variable {ctx : Context} {t : Text} {o : Output}

theorem infix_of_guardCatches {m : Text} (h : guardCatches ctx t = .ok o) (hnl : '\n' ∉ m) (hne : m ≠ [])
    (hm : m <:+: t) : m <:+: o.text?.getD t := by
  rcases guardCatches_cases h with ⟨hnone, -⟩ | ⟨-, u, hu, -, hrewrites⟩
  · rw [hnone]; exact hm
  · rw [hu]; exact infix_of_guards hnl hne hrewrites hm

theorem namesTable_of_guardCatches (h : guardCatches ctx t = .ok o) :
    NamesTable (o.text?.getD t) ↔ NamesTable t := by
  rcases guardCatches_cases h with ⟨hnone, -⟩ | ⟨-, u, hu, -, hrewrites⟩
  · rw [hnone]; rfl
  · rw [hu]
    obtain ⟨hto, hfrom⟩ := namesTable_of_guards hrewrites
    exact ⟨fun h => (hfrom h).elim id id, hto⟩

theorem noSite_of_guardCatches (h : guardCatches ctx t = .ok o) (ht : NoSite t) : NoSite (o.text?.getD t) := by
  rcases guardCatches_cases h with ⟨hnone, -⟩ | ⟨-, u, hu, -, hrewrites⟩
  · rw [hnone]; exact ht
  · rw [hu]; exact noSite_of_guards hrewrites ht

theorem guard_of_guardCatches (h : guardCatches ctx t = .ok o) (hauth : ctx.policy.requiresAuth = true) :
    (responseGuard? (o.text?.getD t)).isSome = true ∨ ∃ m, (Outcome.warning, m) ∈ o.notes := by
  rcases guardCatches_cases h with ⟨hnone, -, hfree | hguard | ⟨-, hwarning⟩⟩ | ⟨-, u, hu, hguard, -⟩
  · rw [hauth] at hfree; cases hfree
  · rw [hnone]; exact .inl hguard
  · exact .inr hwarning
  · rw [hu]; exact .inl hguard

end Step

end HandlerMigration.Migration
