import HandlerMigration.Proofs.Cut
import HandlerMigration.Text.Edit
import Mathlib.Data.List.Chain
import Mathlib.Data.List.Permutation

/-!
# Edits as a splice

`applyAll` replaces spans of one text in place, from the back to the front. `splice` reads the text
once from left to right and puts the replacements between the parts that stay. The two agree wherever
`applyAll` has an answer, and it has one exactly if every edit fits the text and, by position, none
reaches into the next.

The link is `Spliced`, which takes the text apart at the ends of the edits: what is in front of an
edit is untouched by those behind it, so its offsets stay where they were.
-/

namespace HandlerMigration

theorem bind_eq_ok {ε α β : Type} {x : Except ε α} {f : α → Except ε β} {b : β} (h : x >>= f = .ok b) :
    ∃ a, x = .ok a ∧ f a = .ok b := by
  cases x with
  | error e => cases h
  | ok a => exact ⟨a, rfl, h⟩

theorem exists_ok {ε α : Type} {x : Except ε α} (h : x.isOk = true) : ∃ a, x = .ok a := by
  cases x with
  | error e => cases h
  | ok a => exact ⟨a, rfl⟩

theorem toOption_eq_some {ε α : Type} {x : Except ε α} {a : α} (h : x.toOption = some a) : x = .ok a := by
  cases x with
  | error e => cases h
  | ok b => cases h; rfl

namespace Edit

open Text

/-- The edit lies in the text, and both its ends stand between characters. -/
structure Fits (t : Text) (e : Edit) : Prop where
  le : e.start ≤ e.stop
  bound : e.stop ≤ t.size
  start : t.isBoundary e.start = true
  stop : t.isBoundary e.stop = true

/-- The first edit does not reach into the second. -/
def Apart (a b : Edit) : Prop := a.stop ≤ b.start

instance (a b : Edit) : Decidable (Apart a b) := inferInstanceAs (Decidable (_ ≤ _))

/-- The text from `offset` on, with the edits made from left to right. -/
def splice (t : Text) : (offset : Nat) → List Edit → Text
  | offset, [] => t.slice ⟨offset, t.size⟩
  | offset, e :: es => t.slice ⟨offset, e.start⟩ ++ e.replacement ++ splice t e.stop es

/-- `out` is the text `rest`, which starts at `offset`, with the edits made: each edit replaces an old
part behind a gap that stays. -/
inductive Spliced : (offset : Nat) → (rest : Text) → List Edit → (out : Text) → Prop where
  | nil (offset : Nat) (rest : Text) : Spliced offset rest [] rest
  | cons {offset : Nat} {rest out : Text} {es : List Edit} (gap old new : Text)
      (h : Spliced (offset + size gap + size old) rest es out) :
      Spliced offset (gap ++ old ++ rest)
        (⟨offset + size gap, offset + size gap + size old, new⟩ :: es) (gap ++ new ++ out)

/-! ### The order by position -/

/-- `sorted` holds the edits by position, and those of the same span in the order of `edits`. -/
structure StablySorted (edits sorted : List Edit) : Prop where
  perm : sorted.Perm edits
  order : sorted.Pairwise fun a b => a.start < b.start ∨ a.start = b.start ∧ a.stop ≤ b.stop
  stable : ∀ s : Span, sorted.filter (fun e => e.span = s) = edits.filter (fun e => e.span = s)

theorem le_iff {a b : Edit} : le a b = true ↔ a.start < b.start ∨ a.start = b.start ∧ a.stop ≤ b.stop := by
  simp [le]

theorem le_trans (a b c : Edit) (hab : le a b = true) (hbc : le b c = true) : le a c = true := by
  rw [le_iff] at *; omega

theorem le_total (a b : Edit) : (le a b || le b a) = true := by
  rw [Bool.or_eq_true, le_iff, le_iff]; omega

theorem sort_perm (edits : List Edit) : (sort edits).Perm edits := List.mergeSort_perm edits le

theorem mem_sort {e : Edit} {edits : List Edit} : e ∈ sort edits ↔ e ∈ edits := (sort_perm edits).mem_iff

theorem stablySorted_sort (edits : List Edit) : StablySorted edits (sort edits) where
  perm := sort_perm edits
  order := (List.pairwise_mergeSort le_trans le_total edits).imp le_iff.1
  stable s := by
    -- the edits of one span are in order as they stand, so sorting keeps them as a sublist
    have hp : (edits.filter fun e => e.span = s).Pairwise fun a b => le a b = true := by
      refine List.pairwise_of_forall_mem_list fun a ha b hb => le_iff.2 ?_
      have ha := of_decide_eq_true (List.mem_filter.1 ha).2
      have hb := of_decide_eq_true (List.mem_filter.1 hb).2
      have h : a.span = b.span := ha.trans hb.symm
      simp only [span, Span.mk.injEq] at h
      omega
    have hsub := (List.sublist_mergeSort le_trans le_total hp List.filter_sublist).filter fun e => e.span = s
    rw [List.filter_filter] at hsub
    simp only [Bool.and_self] at hsub
    exact (hsub.eq_of_length ((sort_perm edits).filter _).length_eq.symm).symm

theorem pairwise_sort {edits : List Edit} (hne : edits.Pairwise fun a b => a.start ≠ b.start) :
    (sort edits).Pairwise fun a b => a.start < b.start := by
  have hne' := ((sort_perm edits).pairwise_iff Ne.symm).2 hne
  refine ((stablySorted_sort edits).order.and hne').imp fun ⟨hle, hne⟩ => ?_
  omega

theorem sort_eq {edits sorted : List Edit} (hperm : sorted.Perm edits)
    (h : sorted.Pairwise fun a b => a.start < b.start) : sort edits = sorted := by
  have hlt := pairwise_sort ((hperm.pairwise_iff Ne.symm).1 (h.imp Nat.ne_of_lt))
  refine ((sort_perm edits).trans hperm.symm).eq_of_pairwise ?_ hlt h
  intro a b _ _ hab hba
  exact absurd hba (Nat.lt_asymm hab)

/-! ### Checks -/

/-- What is wrong with a single edit. Bounds come before character boundaries. -/
inductive Blames (t : Text) (e : Edit) : Fault → Prop where
  | bounds (h : ¬ (e.start ≤ e.stop ∧ e.stop ≤ t.size)) : Blames t e (.outOfBounds e.start e.stop t.size)
  | boundary (h : e.start ≤ e.stop ∧ e.stop ≤ t.size)
      (hb : ¬ (t.isBoundary e.start = true ∧ t.isBoundary e.stop = true)) :
      Blames t e (.insideCharacter e.start e.stop)

theorem check_cases (t : Text) (e : Edit) :
    check t e = .ok () ∧ Fits t e ∨ ∃ f, check t e = .error f ∧ Blames t e f := by
  by_cases h : e.start ≤ e.stop ∧ e.stop ≤ t.size
  · have h1 : (decide (e.start > e.stop) || decide (e.stop > t.size)) = false := by
      simp only [Bool.or_eq_false_iff, decide_eq_false_iff_not]; omega
    by_cases hb : t.isBoundary e.start = true ∧ t.isBoundary e.stop = true
    · exact .inl ⟨by simp [check, h1, hb.1, hb.2], h.1, h.2, hb.1, hb.2⟩
    · have h2 : (!t.isBoundary e.start || !t.isBoundary e.stop) = true := by
        rw [Bool.or_eq_true, Bool.not_eq_true', Bool.not_eq_true']
        by_contra hn
        simp only [not_or, Bool.not_eq_false] at hn
        exact hb hn
      exact .inr ⟨_, by simp [check, h1, h2], .boundary h hb⟩
  · have h1 : (decide (e.start > e.stop) || decide (e.stop > t.size)) = true := by
      simp only [Bool.or_eq_true, decide_eq_true_eq]; omega
    exact .inr ⟨_, by simp [check, h1], .bounds h⟩

theorem Blames.not_fits {t : Text} {e : Edit} {f : Fault} (h : Blames t e f) : ¬ Fits t e := by
  intro hf
  cases h with
  | bounds h => exact h ⟨hf.le, hf.bound⟩
  | boundary _ hb => exact hb ⟨hf.start, hf.stop⟩

/-- The checks go through the edits in the order given and stop at the first one at fault. -/
theorem forM_check_cases (t : Text) (edits : List Edit) :
    edits.forM (check t) = .ok () ∧ (∀ e ∈ edits, Fits t e) ∨
    ∃ f, edits.forM (check t) = .error f ∧
      ∃ before e after, edits = before ++ e :: after ∧ (∀ b ∈ before, Fits t b) ∧ Blames t e f := by
  induction edits with
  | nil => exact .inl ⟨rfl, by simp⟩
  | cons e es ih =>
    have hcons : (e :: es).forM (check t) = check t e >>= fun _ => es.forM (check t) := rfl
    rw [hcons]
    rcases check_cases t e with ⟨he, hf⟩ | ⟨f, he, hb⟩
    · rw [he]
      rcases ih with ⟨hok, hes⟩ | ⟨f, herr, before, e', after, rfl, hbefore, hb⟩
      · exact .inl ⟨hok, by simpa using ⟨hf, hes⟩⟩
      · exact .inr ⟨f, herr, e :: before, e', after, rfl, by simpa using ⟨hf, hbefore⟩, hb⟩
    · rw [he]
      exact .inr ⟨f, rfl, [], e, es, rfl, by simp, hb⟩

theorem firstOverlap_cases (es : List Edit) :
    firstOverlap es = none ∧ es.IsChain Apart ∨
    ∃ before a b after, es = before ++ a :: b :: after ∧ (before ++ [a]).IsChain Apart ∧ ¬ Apart a b ∧
      firstOverlap es = some (a.span, b.span) := by
  match es with
  | [] => exact .inl ⟨rfl, .nil⟩
  | [a] => exact .inl ⟨rfl, .singleton a⟩
  | a :: b :: rest =>
    by_cases hab : b.start < a.stop
    · exact .inr ⟨[], a, b, rest, rfl, .singleton a, Nat.not_le.2 hab, by simp [firstOverlap, hab]⟩
    · have hab' : Apart a b := Nat.not_lt.1 hab
      have hstep : firstOverlap (a :: b :: rest) = firstOverlap (b :: rest) := by
        simp [firstOverlap, hab]
      rcases firstOverlap_cases (b :: rest) with ⟨hn, hc⟩ | ⟨before, c, d, after, he, hc, hcd, hs⟩
      · exact .inl ⟨hstep.trans hn, .cons_cons hab' hc⟩
      · refine .inr ⟨a :: before, c, d, after, by rw [he]; rfl, ?_, hcd, hstep.trans hs⟩
        cases before with
        | nil => cases he; exact .cons_cons hab' hc
        | cons _ _ => cases he; exact .cons_cons hab' hc

/-! ### From the back to the front -/

namespace Spliced

variable {offset : Nat} {rest out : Text} {es : List Edit}

theorem foldrM_apply (h : Spliced offset rest es out) (done : Text) (hd : size done = offset) :
    es.foldrM apply (done ++ rest) = .ok (done ++ out) := by
  induction h generalizing done with
  | nil => rfl
  | @cons offset rest out es gap old new _ ih =>
    have hback := ih (done ++ gap ++ old) (by simp [hd, Nat.add_assoc])
    have hsame : done ++ (gap ++ old ++ rest) = done ++ gap ++ old ++ rest := by simp
    have hstart : (done ++ gap ++ old ++ out).cut (offset + size gap) = some (done ++ gap, old ++ out) :=
      cut_eq_some_iff.2 ⟨by simp, by simp [hd]⟩
    have hstop : (done ++ gap ++ old ++ out).cut (offset + size gap + size old) =
        some (done ++ gap ++ old, out) := cut_eq_some_iff.2 ⟨rfl, by simp [hd, Nat.add_assoc]⟩
    rw [List.foldrM_cons, hsame, hback]
    show apply _ (done ++ gap ++ old ++ out) = _
    simp only [apply, hstart, hstop]
    simp

theorem eq_splice (h : Spliced offset rest es out) (done : Text) (hd : size done = offset) :
    out = splice (done ++ rest) offset es := by
  induction h generalizing done with
  | nil offset rest =>
    subst hd
    have := slice_append done rest []
    rw [List.append_nil, ← size_append] at this
    exact this.symm
  | @cons offset rest out es gap old new _ ih =>
    have hback := ih (done ++ gap ++ old) (by simp [hd, Nat.add_assoc])
    have hgap : (done ++ (gap ++ old ++ rest)).slice ⟨offset, offset + size gap⟩ = gap := by
      subst hd
      simpa using slice_append done gap (old ++ rest)
    have hsame : done ++ (gap ++ old ++ rest) = done ++ gap ++ old ++ rest := by simp
    rw [splice, hgap, hback, hsame]

/-- Edits that fit and keep apart take the text apart. -/
theorem exists_of_fits (done : Text) (hfit : ∀ e ∈ es, Fits (done ++ rest) e) (hc : es.IsChain Apart)
    (hfirst : ∀ e ∈ es.head?, size done ≤ e.start) : ∃ out, Spliced (size done) rest es out := by
  induction es generalizing done rest with
  | nil => exact ⟨rest, .nil _ _⟩
  | cons e es ih =>
    have he := hfit e (by simp)
    obtain ⟨a, b, hab, ha⟩ := isBoundary_iff.1 he.start
    obtain ⟨c, d, hcd, hc'⟩ := isBoundary_iff.1 he.stop
    obtain ⟨gap, rfl, hrest⟩ := prefix_of_size_le hab (by rw [ha]; exact hfirst e rfl)
    obtain ⟨old, rfl, rfl⟩ := prefix_of_size_le (hab.symm.trans hcd) (by rw [ha, hc']; exact he.le)
    have hdone : done ++ rest = done ++ gap ++ old ++ d := by rw [hrest]; simp
    have hnext : ∀ e' ∈ es.head?, size (done ++ gap ++ old) ≤ e'.start := by
      intro e' he'
      rw [hc']
      cases es with
      | nil => cases he'
      | cons x es => cases he'; exact (List.isChain_cons_cons.1 hc).1
    obtain ⟨out, hout⟩ := ih (done ++ gap ++ old) (fun x hx => hdone ▸ hfit x (by simp [hx])) hc.tail hnext
    obtain ⟨start, stop, new⟩ := e
    simp only at ha hc'
    subst ha hc'
    rw [hrest]
    refine ⟨gap ++ new ++ out, ?_⟩
    simp only [size_append, ← List.append_assoc] at hout ⊢
    exact .cons gap old new hout

theorem fits (h : Spliced offset rest es out) (done : Text) (hd : size done = offset) :
    ∀ e ∈ es, Fits (done ++ rest) e := by
  induction h generalizing done with
  | nil => simp
  | @cons offset rest out es gap old new _ ih =>
    have hsame : done ++ (gap ++ old ++ rest) = done ++ gap ++ old ++ rest := by simp
    intro e he
    rcases List.mem_cons.1 he with rfl | he
    · refine ⟨Nat.le_add_right _ _, by simp [hd, Nat.add_assoc], ?_, ?_⟩
      · exact isBoundary_iff.2 ⟨done ++ gap, old ++ rest, by simp, by simp [hd]⟩
      · exact isBoundary_iff.2 ⟨done ++ gap ++ old, rest, hsame, by simp [hd, Nat.add_assoc]⟩
    · rw [hsame]
      exact ih (done ++ gap ++ old) (by simp [hd, Nat.add_assoc]) e he

theorem le_start (h : Spliced offset rest es out) : ∀ e ∈ es, offset ≤ e.start := by
  induction h with
  | nil => simp
  | @cons offset rest out es gap old new _ ih =>
    intro e he
    rcases List.mem_cons.1 he with rfl | he
    · exact Nat.le_add_right _ _
    · have := ih e he
      omega

theorem isChain (h : Spliced offset rest es out) : es.IsChain Apart := by
  induction h with
  | nil => exact .nil
  | cons gap old new h ih => exact List.isChain_cons.2 ⟨fun e he => h.le_start e (List.mem_of_head? he), ih⟩

theorem pairwise (h : Spliced offset rest es out) : es.Pairwise Apart := by
  induction h with
  | nil => exact .nil
  | cons gap old new h ih => exact List.pairwise_cons.2 ⟨h.le_start, ih⟩

theorem eq_of_nil (h : Spliced offset rest [] out) : out = rest := by
  cases h
  rfl

theorem skip {front : Text} (h : Spliced offset (front ++ rest) es out)
    (hes : ∀ e ∈ es, offset + size front ≤ e.start) :
    ∃ out', out = front ++ out' ∧ Spliced (offset + size front) rest es out' := by
  generalize hr : front ++ rest = r at h
  cases h with
  | nil => exact ⟨rest, hr.symm, .nil _ _⟩
  | @cons _ rest' out es gap old new h =>
    have hle : size front ≤ size gap := Nat.le_of_add_le_add_left (hes _ List.mem_cons_self)
    obtain ⟨gap, rfl, rfl⟩ := prefix_of_size_le (hr.trans (List.append_assoc gap old rest')) hle
    refine ⟨gap ++ new ++ out, by simp, ?_⟩
    simp only [size_append, ← Nat.add_assoc, ← List.append_assoc] at h ⊢
    exact .cons gap old new h

theorem of_cons {e : Edit} (h : Spliced offset rest (e :: es) out) :
    ∃ gap old rest' out', rest = gap ++ (old ++ rest') ∧ e.start = offset + size gap ∧
      e.stop = offset + size gap + size old ∧ out = gap ++ (e.replacement ++ out') ∧ Spliced e.stop rest' es out' := by
  cases h with
  | @cons _ rest out _ gap old new h => exact ⟨gap, old, rest, out, by simp, rfl, rfl, by simp, h⟩

theorem exists_first (h : Spliced offset rest es out) {e : Edit} (he : e ∈ es)
    (hfirst : ∀ e' ∈ es, e' ≠ e → e.start < e'.start) :
    ∃ gap old post new, rest = gap ++ (old ++ post) ∧ e.start = offset + size gap ∧
      e.stop = offset + size gap + size old ∧ out = gap ++ (e.replacement ++ new) := by
  cases es with
  | nil => cases he
  | cons e' es =>
    obtain ⟨gap, old, post, new, hrest, hstart, hstop, hout, htail⟩ := h.of_cons
    by_cases heq : e' = e
    · subst heq
      exact ⟨gap, old, post, new, hrest, hstart, hstop, hout⟩
    · have hmem : e ∈ es := (List.mem_cons.1 he).resolve_left (Ne.symm heq)
      have hlt := hfirst e' List.mem_cons_self heq
      have hle := htail.le_start e hmem
      omega

end Spliced

/-! ### The size of an edited text -/

/-- A sum over the edits. -/
def total (f : Edit → Nat) (es : List Edit) : Nat := es.foldr (fun e n => f e + n) 0

theorem total_lt {f g : Edit → Nat} {es : List Edit} (hne : es ≠ []) (h : ∀ e ∈ es, f e < g e) :
    total f es < total g es := by
  have hle : ∀ es' : List Edit, (∀ e ∈ es', f e < g e) → total f es' ≤ total g es' := by
    intro es' h'
    induction es' with
    | nil => exact Nat.le_refl 0
    | cons e es' ih =>
      obtain ⟨he, hes⟩ := List.forall_mem_cons.1 h'
      exact Nat.add_le_add (Nat.le_of_lt he) (ih hes)
  obtain ⟨e, es, rfl⟩ := List.exists_cons_of_ne_nil hne
  obtain ⟨he, hes⟩ := List.forall_mem_cons.1 h
  exact Nat.add_lt_add_of_lt_of_le he (hle es hes)

theorem Spliced.size_out {offset : Nat} {rest out : Text} {es : List Edit} (h : Spliced offset rest es out) :
    size out + total (fun e => e.stop - e.start) es = size rest + total (fun e => size e.replacement) es := by
  induction h with
  | nil => rfl
  | @cons offset rest out es gap old new _ ih =>
    simp only [total, List.foldr_cons, size_append] at ih ⊢
    omega

/-! ### All edits -/

theorem applyAll_eq (t : Text) (edits : List Edit) :
    applyAll t edits =
      match edits.forM (check t) with
      | .error f => .error f
      | .ok _ =>
        match firstOverlap (sort edits) with
        | some (a, b) => .error (.overlap a b)
        | none => (sort edits).foldrM apply t := by
  unfold applyAll
  cases edits.forM (check t) <;> rfl

theorem exists_spliced {t : Text} {edits : List Edit} (hfit : ∀ e ∈ edits, Fits t e)
    (hc : (sort edits).IsChain Apart) : ∃ u, Spliced 0 t (sort edits) u :=
  Spliced.exists_of_fits [] (fun e he => hfit e (mem_sort.1 he)) hc (by simp)

/-- All edits can be made exactly if, by position, they take the text apart. -/
theorem applyAll_eq_ok_iff {t u : Text} {edits : List Edit} :
    applyAll t edits = .ok u ↔ Spliced 0 t (sort edits) u := by
  rw [applyAll_eq]
  constructor
  · intro h
    rcases forM_check_cases t edits with ⟨hok, hfit⟩ | ⟨f, herr, -⟩
    · rw [hok] at h
      rcases firstOverlap_cases (sort edits) with ⟨hn, hc⟩ | ⟨_, a, b, _, -, -, -, hs⟩
      · obtain ⟨out, hout⟩ := exists_spliced hfit hc
        have hback := hout.foldrM_apply [] rfl
        simp only [hn, List.nil_append] at h hback
        cases hback.symm.trans h
        exact hout
      · simp [hs] at h
    · simp [herr] at h
  · intro hs
    have hfit : ∀ e ∈ edits, Fits t e := fun e he => hs.fits [] rfl e (mem_sort.2 he)
    rcases forM_check_cases t edits with ⟨hok, -⟩ | ⟨f, -, before, e, after, rfl, -, hb⟩
    · rcases firstOverlap_cases (sort edits) with ⟨hn, -⟩ | ⟨before, a, b, after, he, -, hab, -⟩
      · simpa [hok, hn] using hs.foldrM_apply [] rfl
      · have hc := hs.isChain
        rw [he] at hc
        exact absurd (List.isChain_cons_cons.1 (List.isChain_append.1 hc).2.1).1 hab
    · exact absurd (hfit e (by simp)) hb.not_fits

theorem applyAll_singleton (a old b new : Text) :
    applyAll (a ++ (old ++ b)) [⟨size a, size (a ++ old), new⟩] = .ok (a ++ (new ++ b)) := by
  have hsplice := @Spliced.cons 0 _ _ _ a old new (.nil _ b)
  rw [Nat.zero_add, ← size_append, List.append_assoc, List.append_assoc] at hsplice
  refine applyAll_eq_ok_iff.2 ?_
  rwa [sort, List.mergeSort_singleton]

theorem exists_of_applyAll_singleton {t u : Text} {e : Edit} (h : applyAll t [e] = .ok u) :
    ∃ pre old post, t = pre ++ (old ++ post) ∧ size pre = e.start ∧ size (pre ++ old) = e.stop ∧
      u = pre ++ (e.replacement ++ post) := by
  have hsplice := applyAll_eq_ok_iff.1 h
  rw [sort, List.mergeSort_singleton] at hsplice
  obtain ⟨pre, old, post, out, ht, hstart, hstop, hu, hnil⟩ := hsplice.of_cons
  cases hnil
  rw [Nat.zero_add] at hstart hstop
  exact ⟨pre, old, post, ht, hstart.symm, by rw [size_append, hstop], hu⟩

theorem exists_of_applyAll_insert {t u new : Text} {n : Nat} (h : applyAll t [.insert n new] = .ok u) :
    ∃ pre post, t = pre ++ post ∧ size pre = n ∧ u = pre ++ (new ++ post) := by
  obtain ⟨pre, old, post, rfl, hstart, hstop, hu⟩ := exists_of_applyAll_singleton h
  obtain rfl : old = [] := by
    refine size_eq_zero.1 ?_
    rw [size_append] at hstop
    simp only [insert] at hstart hstop
    omega
  exact ⟨pre, post, rfl, hstart, hu⟩

/-- `u` is the text `pre ++ (old ++ post)` without `old` and with `new` at the offset `n`, which is in
front of `old` or behind it. -/
def Exchanged (pre old post : Text) (n : Nat) (new u : Text) : Prop :=
  (∃ p q, pre = p ++ q ∧ size p = n ∧ u = p ++ (new ++ (q ++ post))) ∨
    ∃ p q, post = p ++ q ∧ size (pre ++ (old ++ p)) = n ∧ u = pre ++ (p ++ (new ++ q))

theorem exchanged_of_applyAll {pre old post new u : Text} {n : Nat}
    (h : applyAll (pre ++ (old ++ post)) [.delete (size pre) (size (pre ++ old)), .insert n new] = .ok u) :
    Exchanged pre old post n new u := by
  have hsplice := applyAll_eq_ok_iff.1 h
  rcases List.perm_pair.1 (sort_perm _) with hsort | hsort
  · rw [hsort] at hsplice
    obtain ⟨gap, old', rest, out, ht, hstart, hstop, rfl, htail⟩ := hsplice.of_cons
    obtain ⟨gap', old'', rest', out', rfl, hstart', hstop', rfl, hnil⟩ := htail.of_cons
    cases hnil
    simp only [delete, insert, Nat.zero_add] at hstart hstop hstart' hstop'
    obtain ⟨rfl, hrest⟩ := append_inj_of_size ht hstart
    obtain ⟨rfl, rfl⟩ := append_inj_of_size hrest (by rw [size_append] at hstop; omega)
    obtain rfl : old'' = [] := size_eq_zero.1 (by omega)
    exact .inr ⟨gap', rest', rfl, by simp only [size_append] at hstart' ⊢; omega, by simp [delete, insert]⟩
  · rw [hsort] at hsplice
    obtain ⟨gap, old', rest, out, ht, hstart, hstop, rfl, htail⟩ := hsplice.of_cons
    obtain ⟨gap', old'', rest', out', rfl, hstart', hstop', rfl, hnil⟩ := htail.of_cons
    cases hnil
    simp only [delete, insert, Nat.zero_add] at hstart hstop hstart' hstop'
    obtain rfl : old' = [] := size_eq_zero.1 (by omega)
    have hpre : pre ++ (old ++ post) = (gap ++ gap') ++ (old'' ++ rest') := by rw [ht]; simp
    obtain ⟨rfl, hrest⟩ := append_inj_of_size hpre (by rw [size_append]; omega)
    obtain ⟨rfl, rfl⟩ := append_inj_of_size hrest (by simp only [size_append, size_nil] at hstop hstop'; omega)
    exact .inl ⟨gap, gap', rfl, hstart.symm, by simp [delete, insert]⟩

/-- Neither edit reaches into the other one. -/
def Clear (a b : Edit) : Prop := Apart a b ∨ Apart b a

/-- All edits can be made exactly if each of them fits and no two of them overlap. -/
theorem exists_applyAll_iff {t : Text} {edits : List Edit} :
    (∃ u, applyAll t edits = .ok u) ↔ (∀ e ∈ edits, Fits t e) ∧ edits.Pairwise Clear := by
  have hsymm : ∀ {a b : Edit}, Clear a b → Clear b a := Or.symm
  constructor
  · rintro ⟨u, hu⟩
    have hs := applyAll_eq_ok_iff.1 hu
    refine ⟨fun e he => hs.fits [] rfl e (mem_sort.2 he), ?_⟩
    exact ((sort_perm edits).pairwise_iff hsymm).1 (hs.pairwise.imp Or.inl)
  · rintro ⟨hfit, hclear⟩
    have hclear := ((sort_perm edits).pairwise_iff hsymm).2 hclear
    have hapart : (sort edits).Pairwise Apart := by
      refine ((stablySorted_sort edits).order.and hclear).imp_of_mem fun {a b} ha hb h => ?_
      -- of two edits that start together, the one that the order has first is empty
      have ha := (hfit a (mem_sort.1 ha)).le
      have hb := (hfit b (mem_sort.1 hb)).le
      obtain ⟨hle, hclear⟩ := h
      unfold Clear Apart at *
      omega
    obtain ⟨u, hu⟩ := exists_spliced hfit hapart.isChain
    exact ⟨u, applyAll_eq_ok_iff.2 hu⟩

theorem exists_applyAll {t : Text} {edits : List Edit} (hfit : ∀ e ∈ edits, Fits t e) (hapart : edits.Pairwise Apart) :
    ∃ u, applyAll t edits = .ok u := exists_applyAll_iff.2 ⟨hfit, hapart.imp Or.inl⟩

theorem pairwise_clear {edits : List Edit} (h : ∀ e ∈ edits, e.stop = e.start) : edits.Pairwise Clear := by
  refine List.pairwise_of_forall_mem_list fun a ha b hb => ?_
  have ha := h a ha
  have hb := h b hb
  unfold Clear Apart
  omega

/-- Edits that fit are at fault only for two of them, neighbours by position, of which the first reaches into
the second. -/
theorem exists_overlap {t : Text} {edits : List Edit} {f : Fault} (hfit : ∀ e ∈ edits, Fits t e)
    (h : applyAll t edits = .error f) :
    ∃ a b rest, (a :: b :: rest).Perm edits ∧ le a b = true ∧ ¬ Apart a b ∧ f = .overlap a.span b.span := by
  rcases firstOverlap_cases (sort edits) with ⟨-, hchain⟩ | ⟨before, a, b, after, hsort, -, hab, hfirst⟩
  · obtain ⟨u, hu⟩ := exists_spliced hfit hchain
    rw [applyAll_eq_ok_iff.2 hu] at h
    cases h
  · refine ⟨a, b, before ++ after, ?_, ?_, hab, ?_⟩
    · have hfront : ([a, b] ++ before).Perm (before ++ [a, b]) := List.perm_append_comm
      have hperm : (before ++ a :: b :: after).Perm edits := hsort ▸ sort_perm edits
      exact List.Perm.trans (by simpa using hfront.append_right after) hperm
    · have horder := (stablySorted_sort edits).order
      rw [hsort] at horder
      exact le_iff.2 (List.rel_of_pairwise_cons (List.pairwise_append.1 horder).2.1 List.mem_cons_self)
    · rcases forM_check_cases t edits with ⟨hok, -⟩ | ⟨f', -, before, e, after, rfl, -, hblame⟩
      · rw [applyAll_eq, hok] at h
        simp only [hfirst] at h
        cases h
        rfl
      · exact absurd (hfit e (by simp)) hblame.not_fits

theorem fits_delete (pre old post : Text) : Fits (pre ++ (old ++ post)) (.delete (size pre) (size (pre ++ old))) where
  le := by simp [delete]
  bound := by simp [delete]
  start := isBoundary_iff.2 ⟨pre, old ++ post, rfl, rfl⟩
  stop := isBoundary_iff.2 ⟨pre ++ old, post, by simp, rfl⟩

theorem fits_insert (pre post new : Text) : Fits (pre ++ post) (.insert (size pre) new) where
  le := Nat.le_refl _
  bound := by simp [insert]
  start := isBoundary_iff.2 ⟨pre, post, rfl, rfl⟩
  stop := isBoundary_iff.2 ⟨pre, post, rfl, rfl⟩

/-- A text can be taken out at one place and another one put in elsewhere, unless that place is inside what is
taken out. -/
theorem applyAll_delete_insert_eq_error_iff {t pre old post front back new : Text} {f : Fault}
    (ht : t = pre ++ (old ++ post)) (ht' : t = front ++ back) :
    applyAll t [.delete (size pre) (size (pre ++ old)), .insert (size front) new] = .error f ↔
      size pre < size front ∧ size front < size (pre ++ old) ∧
        f = .overlap ⟨size pre, size (pre ++ old)⟩ ⟨size front, size front⟩ := by
  have hfit : ∀ e ∈ [delete (size pre) (size (pre ++ old)), insert (size front) new], Fits t e :=
    List.forall_mem_cons.2 ⟨ht ▸ fits_delete pre old post, List.forall_mem_singleton.2 (ht' ▸ fits_insert front back new)⟩
  have hfault : ∀ f, applyAll t [.delete (size pre) (size (pre ++ old)), .insert (size front) new] = .error f →
      size pre < size front ∧ size front < size (pre ++ old) ∧
        f = .overlap ⟨size pre, size (pre ++ old)⟩ ⟨size front, size front⟩ := by
    intro f h
    obtain ⟨a, b, rest, hperm, hle, hab, rfl⟩ := exists_overlap hfit h
    obtain rfl : rest = [] := by simpa using hperm.length_eq
    rw [le_iff] at hle
    unfold Apart at hab
    rcases List.perm_pair.1 hperm with hpair | hpair
    · cases hpair
      simp only [delete, insert, size_append] at hle hab
      refine ⟨?_, ?_, rfl⟩
      · omega
      · rw [size_append]; omega
    · cases hpair
      simp only [delete, insert, size_append] at hle hab
      omega
  refine ⟨hfault f, fun ⟨hstart, hstop, hf⟩ => ?_⟩
  cases happly : applyAll t [.delete (size pre) (size (pre ++ old)), .insert (size front) new] with
  | error f' => rw [(hfault f' happly).2.2, hf]
  | ok u =>
    have hclear := List.rel_of_pairwise_cons (exists_applyAll_iff.1 ⟨u, happly⟩).2 (List.mem_singleton_self _)
    unfold Clear Apart at hclear
    simp only [delete, insert] at hclear
    omega

theorem exists_first_of_applyAll {t u : Text} {edits : List Edit} (h : applyAll t edits = .ok u) {e : Edit}
    (he : e ∈ edits) (hfirst : ∀ e' ∈ edits, e' ≠ e → e.start < e'.start) :
    ∃ pre old post new, t = pre ++ (old ++ post) ∧ size pre = e.start ∧ size (pre ++ old) = e.stop ∧
      u = pre ++ (e.replacement ++ new) := by
  obtain ⟨pre, old, post, new, ht, hstart, hstop, hu⟩ :=
    (applyAll_eq_ok_iff.1 h).exists_first (mem_sort.2 he) fun e' he' => hfirst e' (mem_sort.1 he')
  rw [Nat.zero_add] at hstart hstop
  exact ⟨pre, old, post, new, ht, hstart.symm, by rw [size_append, hstop], hu⟩

section Size

variable {t u : Text} {edits : List Edit}

theorem sort_ne_nil (hne : edits ≠ []) : sort edits ≠ [] := fun h => hne (List.nil_perm.1 (h ▸ sort_perm edits))

theorem size_lt_of_grow (h : applyAll t edits = .ok u) (hne : edits ≠ [])
    (hgrow : ∀ e ∈ edits, e.stop - e.start < size e.replacement) : size t < size u := by
  have hsize := (applyAll_eq_ok_iff.1 h).size_out
  have htotal := total_lt (sort_ne_nil hne) fun e he => hgrow e (mem_sort.1 he)
  omega

theorem size_lt_of_shrink (h : applyAll t edits = .ok u) (hne : edits ≠ [])
    (hshrink : ∀ e ∈ edits, size e.replacement < e.stop - e.start) : size u < size t := by
  have hsize := (applyAll_eq_ok_iff.1 h).size_out
  have htotal := total_lt (sort_ne_nil hne) fun e he => hshrink e (mem_sort.1 he)
  omega

end Size

/-- Making all edits is the splice from left to right. There is an answer exactly if every edit fits
and, sorted by position, none reaches into the next. An error names the first edit in the order given
that does not fit; only if all of them fit it names the first two neighbours that overlap. -/
theorem applyAll_eq_splice (t : Text) (edits : List Edit) :
    StablySorted edits (sort edits) ∧
    ((∃ u, applyAll t edits = .ok u) ↔ (∀ e ∈ edits, Fits t e) ∧ (sort edits).IsChain Apart) ∧
    (∀ u, applyAll t edits = .ok u → u = splice t 0 (sort edits)) ∧
    ∀ f, applyAll t edits = .error f →
      (∃ before e after, edits = before ++ e :: after ∧ (∀ b ∈ before, Fits t b) ∧ Blames t e f) ∨
      ((∀ e ∈ edits, Fits t e) ∧ ∃ before a b after, sort edits = before ++ a :: b :: after ∧
        (before ++ [a]).IsChain Apart ∧ ¬ Apart a b ∧ f = .overlap a.span b.span) := by
  refine ⟨stablySorted_sort edits, ⟨?_, ?_⟩, ?_, ?_⟩
  · rintro ⟨u, hu⟩
    have hs := applyAll_eq_ok_iff.1 hu
    exact ⟨fun e he => hs.fits [] rfl e (mem_sort.2 he), hs.isChain⟩
  · rintro ⟨hfit, hc⟩
    obtain ⟨u, hu⟩ := exists_spliced hfit hc
    exact ⟨u, applyAll_eq_ok_iff.2 hu⟩
  · intro u hu
    exact (applyAll_eq_ok_iff.1 hu).eq_splice [] rfl
  · intro f hf
    rcases forM_check_cases t edits with ⟨hok, hfit⟩ | ⟨f', herr, hblame⟩
    · rcases firstOverlap_cases (sort edits) with ⟨-, hc⟩ | ⟨before, a, b, after, he, hc, hab, hs⟩
      · obtain ⟨u, hu⟩ := exists_spliced hfit hc
        rw [applyAll_eq_ok_iff.2 hu] at hf
        cases hf
      · rw [applyAll_eq, hok] at hf
        simp only [hs] at hf
        cases hf
        exact .inr ⟨hfit, before, a, b, after, he, hc, hab, rfl⟩
    · rw [applyAll_eq, herr] at hf
      cases hf
      exact .inl hblame

end Edit

end HandlerMigration
