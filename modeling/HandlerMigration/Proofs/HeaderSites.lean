import HandlerMigration.Migration.Responses
import HandlerMigration.Proofs.Outline
import HandlerMigration.Proofs.References
import HandlerMigration.Proofs.Rewriting
import Mathlib.Data.List.Infix

/-!
# Header sites

The pieces of the five shapes differ only in blanks and quotes, so that eight condensed texts stand for
all of them (`HeaderShape.forms`). Two facts follow from finite checks on these texts. No two pieces
overlap, so that every match of every shape is a site (`headerSites_eq`). And no piece can take a part of
the text that replaces a site, so that a text in which all sites are replaced has none
(`noSite_of_rewrites`).
-/

namespace HandlerMigration.Shape

open Text Pattern Migration

namespace HeaderShape

theorem mem_all (shape : HeaderShape) : shape ∈ all := by cases shape <;> decide

/-! ### Pieces of a shape -/

/-- The first character of a piece. -/
def first : HeaderShape → Char
  | bare | jsonOnly => 'h'
  | spreadFirst | spreadLast => '{'
  | trailingArgument => ','

/-- The last character of a piece. -/
def final : HeaderShape → Char
  | bare => 's'
  | jsonOnly | spreadFirst | spreadLast => '}'
  | trailingArgument => ')'

/-- The key of the content type. -/
def typeKey : Text := ['\'', 'C', 'o', 'n', 't', 'e', 'n', 't', '-', 'T', 'y', 'p', 'e', '\'', ':']

/-- The content type of JSON. -/
def jsonName : Text :=
  ['\'', 'a', 'p', 'p', 'l', 'i', 'c', 'a', 't', 'i', 'o', 'n', '/', 'j', 's', 'o', 'n', '\'']

/-- The key of the headers. -/
def headersKey : Text := ['h', 'e', 'a', 'd', 'e', 'r', 's', ':']

/-- The ends of an object. -/
def closings : List Text := [[',', '}'], ['}']]

/-- The condensed pieces. -/
def forms : HeaderShape → List Text
  | bare => [headersKey ++ tableName]
  | jsonOnly => closings.map (headersKey ++ '{' :: typeKey ++ jsonName ++ ·)
  | spreadFirst => closings.map (['{', '.', '.', '.'] ++ tableName ++ ',' :: typeKey ++ jsonName ++ ·)
  | spreadLast => closings.map ('{' :: typeKey ++ jsonName ++ [',', '.', '.', '.'] ++ tableName ++ ·)
  | trailingArgument => [',' :: tableName ++ [')']]

theorem head?_leading (shape : HeaderShape) : shape.pattern.leading.head? = some shape.first := by
  cases shape <;> rfl

theorem trailing_pattern (shape : HeaderShape) : shape.pattern.trailing = some shape.final := by
  cases shape <;> rfl

theorem forms?_pattern (shape : HeaderShape) : shape.pattern.forms? = some shape.forms := by
  cases shape <;> decide

section Piece

variable {shape : HeaderShape} {last next : Option Char} {w : Text}

theorem leading_ne_nil (shape : HeaderShape) : shape.pattern.leading ≠ [] := by
  intro h
  have := shape.head?_leading
  simp [h] at this

theorem head?_eq (h : shape.pattern.Spells last w next) : w.head? = some shape.first := by
  obtain ⟨r, rfl⟩ := h.leading_isPrefix
  rw [List.head?_append, head?_leading, Option.some_or]

theorem getLast?_eq (h : shape.pattern.Spells last w next) : w.getLast? = some shape.final :=
  h.getLast?_eq shape.trailing_pattern

theorem condense_mem (h : shape.pattern.Spells last w next) : condense w ∈ shape.forms :=
  h.condense_mem shape.forms?_pattern

theorem condense_first (t : Text) : condense (shape.first :: t) = shape.first :: condense t := by
  cases shape <;> exact condense_cons (by decide) (by decide)

theorem head?_condense (h : w.head? = some shape.first) : (condense w).head? = some shape.first := by
  cases w with
  | nil => cases h
  | cons c w =>
    obtain rfl : c = shape.first := by simpa using h
    rw [condense_first, List.head?_cons]

theorem solid_pattern (shape : HeaderShape) : shape.pattern.Solid := solid_of_leading shape.leading_ne_nil

end Piece

theorem not_mem_forms : ∀ shape ∈ all, ∀ f ∈ shape.forms, '(' ∉ f ∧ 'f' ∉ f ∧ 'w' ∉ f := by decide

/-! ### How pieces meet -/

/-- No end of a piece starts another piece or is the start of one. -/
theorem forms_apart : ∀ shape ∈ all, ∀ f ∈ shape.forms, ∀ x ∈ f.tail.tails, ∀ shape' ∈ all,
    x.head? = some shape'.first → ∀ g ∈ shape'.forms, ¬ (x <+: g ∨ g <+: x) := by decide

theorem forms_distinct : ∀ shape ∈ all, ∀ f ∈ shape.forms, ∀ shape' ∈ all, ∀ g ∈ shape'.forms,
    f <+: g → shape = shape' := by decide

theorem eq_of_overlap {shape shape' : HeaderShape} {a w b a' w' b' : Text}
    (ht : a ++ (w ++ b) = a' ++ (w' ++ b')) (h : shape.pattern.Occurs a w b) (h' : shape'.pattern.Occurs a' w' b')
    (hle : size a ≤ size a') (hlt : size a' < size (a ++ w)) : a = a' ∧ shape = shape' := by
  obtain ⟨s, rfl, hs⟩ := prefix_of_size_le ht hle
  obtain ⟨x, rfl, hx⟩ := prefix_of_size_le hs.symm (by simp only [size_append] at hlt; omega)
  have hform := condense_mem h
  -- Both pieces start at `x`, and one of them ends first.
  have hmeet : condense x <+: condense w' ∨ condense w' <+: condense x := by
    rcases List.append_eq_append_iff.1 hx with ⟨y, rfl, -⟩ | ⟨y, rfl, -⟩
    · exact .inr ⟨condense y, by simp⟩
    · exact .inl ⟨condense y, by simp⟩
  rw [condense_append] at hform
  cases s with
  | nil =>
    refine ⟨by simp, ?_⟩
    rcases hmeet with hmeet | hmeet
    · exact forms_distinct _ shape.mem_all _ hform _ shape'.mem_all _ (condense_mem h') hmeet
    · exact (forms_distinct _ shape'.mem_all _ (condense_mem h') _ shape.mem_all _ hform hmeet).symm
  | cons c s =>
    exfalso
    obtain rfl : c = shape.first := by simpa using head?_eq h
    have hhead : (condense x).head? = some shape'.first := by
      refine head?_condense ?_
      cases x with
      | nil => simp at hlt
      | cons d x =>
        have := congrArg List.head? hx
        rwa [List.head?_append, head?_eq h', Option.some_or, eq_comm] at this
    rw [condense_first] at hform
    have hsuffix : condense x ∈ (shape.first :: condense s ++ condense x).tail.tails :=
      (List.mem_tails _ _).2 (List.suffix_append _ _)
    exact forms_apart _ shape.mem_all _ hform _ hsuffix _ shape'.mem_all hhead _ (condense_mem h') hmeet

end HeaderShape

/-! ### All sites -/

/-- The matches of all shapes. -/
def shapeMatches (t : Text) : List HeaderSite :=
  HeaderShape.all.flatMap fun shape => (shape.pattern.findAll t).map fun m => ⟨shape, m.span⟩

/-- The piece `w` is a site in front of the character `next`. -/
def IsSite (w : Text) (next : Option Char) : Prop := ∃ shape : HeaderShape, shape.pattern.Spells none w next

/-- The text has no site. -/
def NoSite (t : Text) : Prop := ∀ a w b, t = a ++ (w ++ b) → ¬ IsSite w b.head?

section Sites

variable {t : Text} {site : HeaderSite}

theorem mem_shapeMatches : site ∈ shapeMatches t ↔ ∃ m ∈ site.shape.pattern.findAll t, m.span = site.span := by
  simp only [shapeMatches, List.mem_flatMap, List.mem_map]
  constructor
  · rintro ⟨shape, -, m, hm, rfl⟩
    exact ⟨m, hm, rfl⟩
  · rintro ⟨m, hm, hspan⟩
    exact ⟨site.shape, site.shape.mem_all, m, hm, by rw [hspan]⟩

theorem occurs_of_mem_shapeMatches (h : site ∈ shapeMatches t) :
    ∃ a w b, t = a ++ (w ++ b) ∧ site.span = ⟨size a, size (a ++ w)⟩ ∧ site.shape.pattern.Occurs a w b := by
  obtain ⟨m, hm, hspan⟩ := mem_shapeMatches.1 h
  obtain ⟨a, w, b, -, ht, hm, ho, -⟩ := (site.shape.solid_pattern.lists_findAll t).occurs hm
  exact ⟨a, w, b, ht, hspan ▸ hm, ho⟩

theorem exists_shapeMatch {a w b : Text} (ht : t = a ++ (w ++ b)) (h : IsSite w b.head?) :
    ∃ site ∈ shapeMatches t, site.span.start ≤ size a ∧ size a < site.span.stop := by
  obtain ⟨shape, h⟩ := h
  have ho : shape.pattern.Occurs a w b := h.change_last shape.leading_ne_nil _
  obtain ⟨m, hm, hin⟩ := (shape.solid_pattern.lists_findAll t).exists_mem ht (by simp) ho
  exact ⟨⟨shape, m.span⟩, mem_shapeMatches.2 ⟨m, hm, rfl⟩, hin⟩

theorem isSite_of_occurs {shape : HeaderShape} {a w b : Text} (h : shape.pattern.Occurs a w b) :
    IsSite w b.head? := ⟨shape, h.change_last shape.leading_ne_nil _⟩

theorem noSite_iff : NoSite t ↔ shapeMatches t = [] := by
  constructor
  · intro h
    refine List.eq_nil_iff_forall_not_mem.2 fun site hsite => ?_
    obtain ⟨a, w, b, ht, -, ho⟩ := occurs_of_mem_shapeMatches hsite
    exact h a w b ht (isSite_of_occurs ho)
  · intro h a w b ht hw
    obtain ⟨site, hsite, -⟩ := exists_shapeMatch ht hw
    rw [h] at hsite
    cases hsite

/-- One of the two ends before the other starts. -/
def SitesApart (s s' : HeaderSite) : Prop := s.span.stop ≤ s'.span.start ∨ s'.span.stop ≤ s.span.start

theorem SitesApart.symm {s s' : HeaderSite} (h : SitesApart s s') : SitesApart s' s := Or.symm h

theorem sitesApart_of_ne {s s' : HeaderSite} (hs : s ∈ shapeMatches t) (hs' : s' ∈ shapeMatches t)
    (hne : s.shape ≠ s'.shape) : SitesApart s s' := by
  obtain ⟨a, w, b, ht, hspan, ho⟩ := occurs_of_mem_shapeMatches hs
  obtain ⟨a', w', b', ht', hspan', ho'⟩ := occurs_of_mem_shapeMatches hs'
  by_contra hover
  simp only [SitesApart, hspan, hspan', not_or, Nat.not_le] at hover
  rcases Nat.le_total (size a) (size a') with hle | hle
  · exact hne (HeaderShape.eq_of_overlap (ht.symm.trans ht') ho ho' hle hover.1).2
  · exact hne (HeaderShape.eq_of_overlap (ht'.symm.trans ht) ho' ho hle hover.2).2.symm

theorem pairwise_shapeMatches (t : Text) : (shapeMatches t).Pairwise SitesApart := by
  refine List.pairwise_flatMap.2 ⟨fun shape _ => ?_, ?_⟩
  · refine List.pairwise_map.2 ?_
    exact ((shape.solid_pattern.lists_findAll t).pairwise shape.solid_pattern).imp .inl
  · have hnodup : HeaderShape.all.Pairwise (· ≠ ·) := by decide
    refine hnodup.imp fun {shape shape'} hne s hs s' hs' => ?_
    obtain ⟨m, hm, rfl⟩ := List.mem_map.1 hs
    obtain ⟨m', hm', rfl⟩ := List.mem_map.1 hs'
    exact sitesApart_of_ne (mem_shapeMatches.2 ⟨m, hm, rfl⟩) (mem_shapeMatches.2 ⟨m', hm', rfl⟩) hne

theorem start_lt_stop (h : site ∈ shapeMatches t) : site.span.start < site.span.stop := by
  obtain ⟨a, w, b, -, hspan, ho⟩ := occurs_of_mem_shapeMatches h
  have := size_pos (site.shape.solid_pattern _ _ _ ho)
  rw [hspan, size_append]
  show size a < size a + size w
  omega

theorem dropOverlaps_eq_self {stop : Nat} {sites : List HeaderSite} (hstop : ∀ s ∈ sites, stop ≤ s.span.start)
    (h : sites.Pairwise fun s s' => s.span.stop ≤ s'.span.start) : dropOverlaps stop sites = sites := by
  induction sites generalizing stop with
  | nil => rfl
  | cons site sites ih =>
    obtain ⟨hsite, h⟩ := List.pairwise_cons.1 h
    rw [dropOverlaps, if_pos (hstop site (by simp)), ih hsite h]

theorem pairwise_sortedMatches (t : Text) :
    ((shapeMatches t).mergeSort fun a b => a.span.start ≤ b.span.start).Pairwise
      fun s s' => s.span.stop ≤ s'.span.start := by
  have hperm := List.mergeSort_perm (shapeMatches t) fun a b => decide (a.span.start ≤ b.span.start)
  have hsorted := @List.pairwise_mergeSort _ (fun a b : HeaderSite => decide (a.span.start ≤ b.span.start))
    (by simp only [decide_eq_true_eq]; omega) (by simp only [Bool.or_eq_true, decide_eq_true_eq]; omega)
    (shapeMatches t)
  have hapart := hperm.symm.pairwise (pairwise_shapeMatches t) SitesApart.symm
  refine (hsorted.and hapart).imp_of_mem fun {s s'} hs hs' h => ?_
  have := start_lt_stop (hperm.mem_iff.1 hs')
  obtain ⟨hle, happart | hback⟩ := h
  · exact happart
  · rw [decide_eq_true_eq] at hle
    omega

/-- Every match of every shape is a site. -/
theorem headerSites_eq (t : Text) :
    headerSites t = (shapeMatches t).mergeSort fun a b => a.span.start ≤ b.span.start :=
  dropOverlaps_eq_self (by simp) (pairwise_sortedMatches t)

theorem mem_headerSites : site ∈ headerSites t ↔ site ∈ shapeMatches t := by
  rw [headerSites_eq]
  exact (List.mergeSort_perm _ _).mem_iff

theorem headerSites_eq_nil_iff : headerSites t = [] ↔ NoSite t := by
  rw [noSite_iff, List.eq_nil_iff_forall_not_mem, List.eq_nil_iff_forall_not_mem]
  simp only [mem_headerSites]

end Sites

/-! ### Replaced sites -/

namespace HeaderShape

/-- The name of the helper. -/
def helperName : Text := ['g', 'e', 't', 'C', 'o', 'r', 's', 'H', 'e', 'a', 'd', 'e', 'r', 's']

/-- What stands in front of the parenthesis when a site is replaced. -/
def front : HeaderShape → Text
  | bare | jsonOnly =>
    headersKey ++ [' ', '{', ' '] ++ typeKey ++ ' ' :: jsonName ++ [',', ' ', '.', '.', '.'] ++ helperName
  | spreadFirst | spreadLast =>
    ['{', ' '] ++ typeKey ++ ' ' :: jsonName ++ [',', ' ', '.', '.', '.'] ++ helperName
  | trailingArgument => [',', ' '] ++ helperName

/-- What stands behind the parenthesis when a site is replaced. -/
def back : HeaderShape → Text
  | trailingArgument => ['o', 'r', 'i', 'g', 'i', 'n', ')', ')']
  | _ => ['o', 'r', 'i', 'g', 'i', 'n', ')', ' ', '}']

theorem sharedHeaders_eq (shape : HeaderShape) :
    (sharedHeaders shape).toList = shape.front ++ '(' :: shape.back := by cases shape <;> decide

theorem head?_front (shape : HeaderShape) : shape.front.head? = some shape.first := by
  cases shape <;> rfl

theorem first_not_mem_back : ∀ shape ∈ all, ∀ shape' ∈ all, shape.first ∉ shape'.back := by decide

theorem forms_apart_front : ∀ shape ∈ all, ∀ f ∈ shape.forms, ∀ x ∈ f.tail.tails, ∀ shape' ∈ all,
    x.head? = some shape'.first → ¬ x <+: condense shape'.front := by decide

theorem forms_not_inside_front : ∀ shape ∈ all, ∀ x ∈ (condense shape.front).tails, ∀ shape' ∈ all,
    x.head? = some shape'.first → ∀ f ∈ shape'.forms, ¬ f <+: x := by decide

end HeaderShape

section Replaced

variable {w b m r : Text} {shape : HeaderShape}

theorem IsSite.exists_first {next : Option Char} (h : IsSite w next) :
    ∃ shape : HeaderShape, w.head? = some shape.first ∧ w.getLast? = some shape.final ∧ condense w ∈ shape.forms := by
  obtain ⟨shape, h⟩ := h
  exact ⟨shape, HeaderShape.head?_eq h, HeaderShape.getLast?_eq h, HeaderShape.condense_mem h⟩

theorem IsSite.not_mem {next : Option Char} (h : IsSite w next) : '(' ∉ w ∧ 'f' ∉ w ∧ 'w' ∉ w := by
  obtain ⟨shape, -, -, hform⟩ := h.exists_first
  obtain ⟨hparen, hf, hw⟩ := HeaderShape.not_mem_forms _ shape.mem_all _ hform
  exact ⟨fun h => hparen (mem_condense h (by decide) (by decide)), fun h => hf (mem_condense h (by decide) (by decide)),
    fun h => hw (mem_condense h (by decide) (by decide))⟩

theorem prefix_of_not_mem {c : Char} (hc : c ∉ w) (h : w ++ b = m ++ c :: r) : w <+: m := by
  rcases List.append_eq_append_iff.1 h with ⟨x, rfl, -⟩ | ⟨x, rfl, hx⟩
  · exact List.prefix_append _ _
  · cases x with
    | nil => rw [List.append_nil]
    | cons d x =>
      obtain ⟨rfl, -⟩ := List.cons.inj hx
      exact absurd (by simp) hc

theorem not_isSite_of_inside {next : Option Char} {a' : Text} (hnew : a' ++ m = (sharedHeaders shape).toList)
    (hm : m ≠ []) (h : w ++ b = m ++ r) : ¬ IsSite w next := by
  intro hw
  obtain ⟨shape', hfirst, -, hform⟩ := hw.exists_first
  have hhead : m.head? = some shape'.first := by
    obtain ⟨c, m, rfl⟩ := List.exists_cons_of_ne_nil hm
    have := congrArg List.head? h
    rwa [List.head?_append, hfirst, Option.some_or, eq_comm] at this
  rw [HeaderShape.sharedHeaders_eq] at hnew
  rcases List.append_eq_append_iff.1 hnew with ⟨x, hx, rfl⟩ | ⟨x, rfl, hx⟩
  · -- in front of the parenthesis
    have hwx : w <+: x := prefix_of_not_mem hw.not_mem.1 (by rw [h, List.append_assoc]; rfl)
    have htail : condense x ∈ (condense shape.front).tails := by
      rw [hx, condense_append, List.mem_tails]
      exact List.suffix_append _ _
    have hxhead : x.head? = some shape'.first := by
      obtain ⟨y, rfl⟩ := hwx
      rw [List.head?_append, hfirst, Option.some_or]
    exact HeaderShape.forms_not_inside_front _ shape.mem_all _ htail _ shape'.mem_all
      (HeaderShape.head?_condense hxhead) _ hform (condense_isPrefix hwx)
  · cases x with
    | nil =>
      rw [List.nil_append] at hx
      rw [← hx] at hhead
      cases shape' <;> cases hhead
    | cons d x =>
      obtain ⟨-, hx⟩ := List.cons.inj hx
      refine HeaderShape.first_not_mem_back _ shape'.mem_all _ shape.mem_all ?_
      rw [hx]
      exact List.mem_append_right _ (List.mem_of_mem_head? hhead)

theorem not_isSite_of_across {next : Option Char} {w' : Text} (hm : m ≠ []) (hw' : w' ≠ [])
    (h : w' ++ b = (sharedHeaders shape).toList ++ r) : ¬ IsSite (m ++ w') next := by
  intro hw
  obtain ⟨shape', hfirst, -, hform⟩ := hw.exists_first
  rw [HeaderShape.sharedHeaders_eq, List.append_assoc] at h
  have hparen : '(' ∉ w' := fun hp => hw.not_mem.1 (List.mem_append_right m hp)
  have hfront : w' <+: shape.front := prefix_of_not_mem hparen h
  obtain ⟨c, m, rfl⟩ := List.exists_cons_of_ne_nil hm
  obtain rfl : c = shape'.first := by simpa using hfirst
  have hhead : (condense w').head? = some shape.first := by
    refine HeaderShape.head?_condense ?_
    obtain ⟨d, w', rfl⟩ := List.exists_cons_of_ne_nil hw'
    obtain ⟨x, hx⟩ := hfront
    have := shape.head?_front
    rwa [← hx, List.cons_append, List.head?_cons] at this
  rw [condense_append, HeaderShape.condense_first] at hform
  have hsuffix : condense w' ∈ (shape'.first :: condense m ++ condense w').tail.tails :=
    (List.mem_tails _ _).2 (List.suffix_append _ _)
  exact HeaderShape.forms_apart_front _ shape'.mem_all _ hform _ hsuffix _ shape.mem_all hhead
    (condense_isPrefix hfront)

end Replaced

/-- `new` replaces the site `old`. -/
def ReplacesSite (pre old post new : Text) : Prop :=
  ∃ shape : HeaderShape, shape.pattern.Occurs pre old post ∧ new = (sharedHeaders shape).toList

/-- No site starts between `pre` and `post`. -/
def NoSiteAt (_ post : Text) : Prop := ∀ w b, post = w ++ b → ¬ IsSite w b.head?

theorem noSite_of_kept {t : Text} (h : ∀ a c b, t = a ++ c :: b → NoSiteAt a (c :: b)) : NoSite t := by
  intro a w b ht hw
  obtain ⟨shape, hfirst, -⟩ := hw.exists_first
  cases w with
  | nil => cases hfirst
  | cons c w => exact h a c (w ++ b) ht (c :: w) b rfl hw

/-- A text in which all sites are replaced has no site. -/
theorem noSite_of_rewrites {done rest out : Text} (h : Rewrites ReplacesSite NoSiteAt done rest out) :
    NoSite out := by
  induction h with
  | nil hkept => exact noSite_of_kept hkept
  | @cons done rest out gap old new hkept hnew _ ih =>
    obtain ⟨shape, hold, rfl⟩ := hnew
    intro a w b hout hw
    cases lands hout with
    | behind a' hback => exact ih a' w b hback hw
    | inside a' m hm hin h => exact not_isSite_of_inside hin hm h hw
    | across m w' hm hw' hmw h => exact not_isSite_of_across hm hw' h (hmw ▸ hw)
    | gap x hgap hb =>
      -- It would be a site in the source: what follows it starts with the same character.
      subst hgap hb
      obtain ⟨_, hfirst, -⟩ := hw.exists_first
      obtain ⟨c, w, rfl⟩ := List.exists_cons_of_ne_nil (l := w) (by rintro rfl; cases hfirst)
      refine hkept a c (w ++ x) rfl (c :: w) (x ++ old ++ rest) (by simp) ?_
      have hnext : (x ++ old ++ rest).head? = (x ++ ((sharedHeaders shape).toList ++ out)).head? := by
        simp only [List.head?_append, HeaderShape.sharedHeaders_eq, HeaderShape.head?_front,
          HeaderShape.head?_eq hold, Option.or_assoc, Option.some_or]
      rwa [hnext]

/-! ### The step -/

theorem occurs_of_mem_headerSites {t pre old post : Text} {site : HeaderSite} (h : site ∈ headerSites t)
    (ht : t = pre ++ old ++ post) (hpre : size pre = site.span.start) (hold : size (pre ++ old) = site.span.stop) :
    site.shape.pattern.Occurs pre old post := by
  obtain ⟨a, w, b, ht', hspan, ho⟩ := occurs_of_mem_shapeMatches (mem_headerSites.1 h)
  simp only [hspan] at hpre hold
  rw [List.append_assoc] at ht
  obtain ⟨rfl, hrest⟩ := append_inj_of_size (ht.symm.trans ht') hpre
  obtain ⟨rfl, rfl⟩ := append_inj_of_size hrest (by simp only [size_append] at hold; omega)
  exact ho

theorem rewrites_of_sites {t u : Text}
    (h : Edit.applyAll t ((headerSites t).map fun site =>
      ⟨site.span.start, site.span.stop, (sharedHeaders site.shape).toList⟩) = .ok u) :
    Rewrites ReplacesSite NoSiteAt [] t u := by
  refine Edit.rewrites_of_applyAll h ?_ ?_
  · intro e he pre old post ht hpre hold
    obtain ⟨site, hsite, rfl⟩ := List.mem_map.1 he
    exact ⟨site.shape, occurs_of_mem_headerSites hsite ht hpre hold, rfl⟩
  · intro a c b ht hspares w b' hw hsite
    obtain ⟨site, hmem, hstart, hstop⟩ := exists_shapeMatch (ht.trans (by rw [hw])) hsite
    rcases hspares _ (List.mem_map.2 ⟨site, mem_headerSites.2 hmem, rfl⟩) with hlt | hle
    · exact absurd hstart (Nat.not_le.2 hlt)
    · exact absurd hstop (Nat.not_lt.2 hle)

theorem fits_of_mem_headerSites {t : Text} {site : HeaderSite} (h : site ∈ headerSites t) (new : Text) :
    Edit.Fits t ⟨site.span.start, site.span.stop, new⟩ := by
  obtain ⟨a, w, b, rfl, hspan, -⟩ := occurs_of_mem_shapeMatches (mem_headerSites.1 h)
  rw [hspan]
  exact ⟨by simp, by simp, isBoundary_iff.2 ⟨a, w ++ b, rfl, rfl⟩, isBoundary_iff.2 ⟨a ++ w, b, by simp, rfl⟩⟩

theorem exists_replaced (t : Text) :
    ∃ u, Edit.applyAll t ((headerSites t).map fun site =>
      ⟨site.span.start, site.span.stop, (sharedHeaders site.shape).toList⟩) = .ok u := by
  refine Edit.exists_applyAll (List.forall_mem_map.2 fun site h => fits_of_mem_headerSites h _) ?_
  rw [List.pairwise_map, headerSites_eq]
  exact pairwise_sortedMatches t

end HandlerMigration.Shape

namespace HandlerMigration.Migration

open Shape

/-- What the step answers: nothing new where there is no site, and otherwise the text with every site
replaced. It warns exactly if the text still names the headers. -/
theorem shareHeaders_cases {t : Text} {o : Output} (h : shareHeaders t = .ok o) :
    ((∃ m, (Outcome.warning, m) ∈ o.notes) ↔ 0 < headerReferences (o.text?.getD t)) ∧
    (headerSites t = [] ∧ o.text? = none ∧ (∀ n ∈ o.notes, n.1 ≠ .applied) ∨
      headerSites t ≠ [] ∧ (∃ m, (Outcome.applied, m) ∈ o.notes) ∧
        ∃ u, o.text? = some u ∧ Rewrites ReplacesSite NoSiteAt [] t u) := by
  unfold shareHeaders at h
  by_cases hs : headerSites t = []
  · simp only [hs, List.isEmpty_nil, ↓reduceIte] at h
    by_cases h0 : headerReferences t = 0
    · simp only [h0, ↓reduceIte] at h
      cases h
      exact ⟨by simp [Output.skip, h0], .inl ⟨hs, rfl, by simp [Output.skip]⟩⟩
    · simp only [h0, ↓reduceIte] at h
      cases h
      exact ⟨by simp [Output.warn]; omega, .inl ⟨hs, rfl, by simp [Output.warn]⟩⟩
  · simp only [List.isEmpty_iff, hs, ↓reduceIte] at h
    obtain ⟨u, hu, h⟩ := bind_eq_ok h
    have hr := rewrites_of_sites hu
    simp only [pure, Except.pure] at h
    split_ifs at h with h0
    · cases h
      exact ⟨by simp [Output.change, h0], .inr ⟨hs, by simp [Output.change], u, rfl, hr⟩⟩
    · cases h
      exact ⟨by simp [Output.change]; omega, .inr ⟨hs, by simp [Output.change], u, rfl, hr⟩⟩

theorem noSite_of_shareHeaders {t : Text} {o : Output} (h : shareHeaders t = .ok o) : NoSite (o.text?.getD t) := by
  rcases (shareHeaders_cases h).2 with ⟨hsites, hnone, -⟩ | ⟨-, -, u, hu, hrewrites⟩
  · rw [hnone]
    exact headerSites_eq_nil_iff.1 hsites
  · rw [hu]
    exact noSite_of_rewrites hrewrites

theorem exists_shareHeaders (t : Text) : ∃ o, shareHeaders t = .ok o := by
  obtain ⟨u, hu⟩ := exists_replaced t
  unfold shareHeaders
  simp only [hu, bind, Except.bind]
  split_ifs <;> exact ⟨_, rfl⟩

/-- One pass is complete. No two matches of the shapes overlap, so that all of them are sites. The step
answers every text; it makes a new one exactly if there is a site, and there is none in the new text, of
which the step makes no other. -/
theorem shareHeaders_complete (t : Text) :
    ((shapeMatches t).Pairwise SitesApart ∧
      headerSites t = ((shapeMatches t).mergeSort fun a b => a.span.start ≤ b.span.start) ∧
      ∀ shape : HeaderShape, ∀ m ∈ shape.pattern.findAll t, ⟨shape, m.span⟩ ∈ headerSites t) ∧
    ∃ o, shareHeaders t = .ok o ∧ (o.text?.isSome = true ↔ headerSites t ≠ []) ∧
      ∀ u, o.text? = some u → headerSites u = [] ∧ ∃ o', shareHeaders u = .ok o' ∧ o'.text? = none := by
  refine ⟨⟨pairwise_shapeMatches t, headerSites_eq t, fun shape m hm => ?_⟩, ?_⟩
  · exact mem_headerSites.2 (mem_shapeMatches.2 ⟨m, hm, rfl⟩)
  · obtain ⟨o, ho⟩ := exists_shareHeaders t
    refine ⟨o, ho, ?_, fun u hu => ?_⟩
    · rcases (shareHeaders_cases ho).2 with ⟨hsites, hnone, -⟩ | ⟨hsites, -, u, hu, -⟩
      · simp [hsites, hnone]
      · simp [hsites, hu]
    · have hsites : headerSites u = [] := by
        have := noSite_of_shareHeaders ho
        rw [hu] at this
        exact headerSites_eq_nil_iff.2 this
      obtain ⟨o', ho'⟩ := exists_shareHeaders u
      rcases (shareHeaders_cases ho').2 with ⟨-, hnone, -⟩ | ⟨hne, -⟩
      · exact ⟨hsites, o', ho', hnone⟩
      · exact absurd hsites hne

end HandlerMigration.Migration
