import HandlerMigration.Proofs.Rewriting
import Mathlib.Data.List.Infix

/-!
# Places in a text

`places` counts the places of a text at which a test holds of the character in front and of the text behind. A text
in two parts has the places of both; only the tests of the first part see what follows it (`places_append`).

The places of a fixed part `m` are its `occurrences`. They add up over two texts if `m` does not stand across the
`Seam` between them, and otherwise there are more (`add_occurrences_le`). A text that is rewritten has no more of
them if every replacement closes its seams (`Rewrites.occurrences_le`).
-/

namespace HandlerMigration

namespace Text

variable {P Q : Option Char → Text → Bool} {last last' : Option Char} {a b m t x : Text} {c : Char}

/-- The number of places at which the test holds. `last` stands in front of the text. -/
def places (P : Option Char → Text → Bool) : (last : Option Char) → Text → Nat
  | _, [] => 0
  | last, c :: t => (P last (c :: t)).toNat + places P (some c) t

theorem getLast?_cons_or (c : Char) (a : Text) (last : Option Char) :
    (c :: a).getLast?.or last = a.getLast?.or (some c) := by
  rw [List.getLast?_cons]
  cases a.getLast? <;> rfl

theorem places_append (P : Option Char → Text → Bool) (last : Option Char) (a b : Text) :
    places P last (a ++ b) = places (fun last x => P last (x ++ b)) last a + places P (a.getLast?.or last) b := by
  induction a generalizing last with
  | nil => simp [places]
  | cons c a ih => rw [List.cons_append, places, ih, places, getLast?_cons_or, Nat.add_assoc, List.cons_append]

theorem places_le (h : ∀ x c y, a = x ++ c :: y → P (x.getLast?.or last) (c :: y) = true →
    Q (x.getLast?.or last) (c :: y) = true) : places P last a ≤ places Q last a := by
  induction a generalizing last with
  | nil => exact Nat.le_refl 0
  | cons c a ih =>
    refine Nat.add_le_add (Bool.toNat_le_toNat (h [] c a rfl)) (ih ?_)
    intro x d y ha
    have hx := h (c :: x) d y (by rw [ha]; rfl)
    rwa [getLast?_cons_or] at hx

theorem places_congr
    (h : ∀ x c y, a = x ++ c :: y → P (x.getLast?.or last) (c :: y) = Q (x.getLast?.or last) (c :: y)) :
    places P last a = places Q last a :=
  Nat.le_antisymm (places_le fun x c y ha => (h x c y ha ▸ id)) (places_le fun x c y ha => (h x c y ha ▸ id))

theorem places_eq_zero (h : ∀ x c y, a = x ++ c :: y → P (x.getLast?.or last) (c :: y) = false) :
    places P last a = 0 := by
  induction a generalizing last with
  | nil => rfl
  | cons c a ih =>
    have hc : P last (c :: a) = false := h [] c a rfl
    rw [places, hc, ih, Bool.toNat_false]
    intro x d y ha
    have hx := h (c :: x) d y (by rw [ha]; rfl)
    rwa [getLast?_cons_or] at hx

theorem places_change (h : P last t = P last' t) : places P last t = places P last' t := by
  cases t with
  | nil => rfl
  | cons c t => rw [places, places, h]

/-! ### Occurrences of a part -/

/-- The number of places at which the part `m` starts. -/
def occurrences (m t : Text) : Nat := places (fun _ x => m.isPrefixOf x) none t

/-- The part `m` does not stand across the seam between two texts. -/
def Seam (m a b : Text) : Prop := ∀ s s', m = s ++ s' → s ≠ [] → s' ≠ [] → s <:+ a → ¬ s' <+: b

theorem occurrences_append_eq (m a b : Text) :
    occurrences m (a ++ b) = places (fun _ x => m.isPrefixOf (x ++ b)) none a + occurrences m b := by
  rw [occurrences, places_append]
  exact congrArg _ (places_change rfl)

theorem occurrences_append (h : Seam m a b) : occurrences m (a ++ b) = occurrences m a + occurrences m b := by
  rw [occurrences_append_eq]
  refine congrArg (· + _) (places_congr fun x c y ha => ?_)
  rw [Bool.eq_iff_iff, List.isPrefixOf_iff_prefix, List.isPrefixOf_iff_prefix]
  refine ⟨fun hin => ?_, fun hin => hin.trans (List.prefix_append _ _)⟩
  rcases List.prefix_or_prefix_of_prefix hin (List.prefix_append (c :: y) b) with hfront | ⟨s', rfl⟩
  · exact hfront
  · have hback : s' <+: b := (List.prefix_append_right_inj _).1 hin
    rcases eq_or_ne s' [] with rfl | hs'
    · exact ⟨[], List.append_nil _ ▸ List.append_nil _⟩
    · exact absurd hback (h _ s' rfl (List.cons_ne_nil _ _) hs' ⟨x, ha.symm⟩)

theorem add_occurrences_le (m a b : Text) : occurrences m a + occurrences m b ≤ occurrences m (a ++ b) := by
  rw [occurrences_append_eq]
  refine Nat.add_le_add_right (places_le fun x c y _ hin => ?_) _
  rw [List.isPrefixOf_iff_prefix] at hin ⊢
  exact hin.trans (List.prefix_append _ _)

theorem seam_of_last (h : ∀ c ∈ a.getLast?, c ∉ m) (b : Text) : Seam m a b := by
  rintro s s' rfl hs - ⟨x, rfl⟩ -
  rw [List.getLast?_append_of_ne_nil x hs] at h
  exact h _ (List.getLast_mem_getLast? hs) (List.mem_append_left _ (List.getLast_mem hs))

theorem seam_of_head (hc : c ∉ m) (a b : Text) : Seam m a (c :: b) := by
  rintro s s' rfl - hs' - hin
  obtain ⟨d, s', rfl⟩ := List.exists_cons_of_ne_nil hs'
  obtain rfl := (List.cons_prefix_cons.1 hin).1
  exact hc (List.mem_append_right _ List.mem_cons_self)

theorem occurrences_cons (m : Text) (c : Char) (t : Text) :
    occurrences m (c :: t) = (m.isPrefixOf (c :: t)).toNat + occurrences m t := by
  rw [occurrences, places]
  exact congrArg _ (places_change rfl)

/-- Occurrences of a part that has its first character once do not overlap: leaving out the rest of each one
passes over none. -/
theorem count_eq_occurrences {s : Text} (hc : c ∉ s) (t : Text) : t.count (c :: s) = occurrences (c :: s) t := by
  suffices h : ∀ k, c ∉ t.take k → countFrom (c :: s) k t = occurrences (c :: s) t from h 0 (List.not_mem_nil)
  induction t with
  | nil => exact fun k _ => by cases k <;> rfl
  | cons d t ih =>
    intro k hk
    rw [occurrences_cons]
    cases k with
    | succ k =>
      rw [List.take_succ_cons, List.mem_cons, not_or] at hk
      have hno : (c :: s).isPrefixOf (d :: t) = false := by simp [List.isPrefixOf, hk.1]
      rw [countFrom, ih k hk.2, hno, Bool.toNat_false, Nat.zero_add]
    | zero =>
      rw [countFrom]
      split
      case isTrue hin =>
        obtain ⟨x, hx⟩ := List.isPrefixOf_iff_prefix.1 hin
        obtain rfl : s ++ x = t := (List.cons.inj hx).2
        have hs : c ∉ (s ++ x).take s.length := by rwa [List.take_left]
        rw [List.length_cons, Nat.add_sub_cancel, ih _ hs, hin, Bool.toNat_true, Nat.add_comm]
      case isFalse hno =>
        rw [ih 0 List.not_mem_nil, Bool.eq_false_of_not_eq_true hno, Bool.toNat_false, Nat.zero_add]

theorem occurrences_eq_zero_iff (hm : m ≠ []) : occurrences m t = 0 ↔ ¬ m <:+: t := by
  induction t with
  | nil => simpa [occurrences, places] using hm
  | cons c t ih =>
    rw [occurrences_cons, Nat.add_eq_zero_iff, ih, List.infix_cons_iff, not_or, Bool.toNat_eq_zero,
      Bool.eq_false_iff, ne_eq, List.isPrefixOf_iff_prefix]

/-- The text has no `m`, and none starts in it and ends behind it. -/
def Lacks (m a : Text) : Prop := occurrences m a = 0 ∧ ∀ z, Seam m a z

/-- Whether no `m` stands in a text and none can start there. -/
def isFreeOf (m a : Text) : Bool := occurrences m a == 0 && m.inits.all fun s => s.isEmpty || !s.isSuffixOf a

theorem lacks_of_isFreeOf (h : isFreeOf m a = true) : Lacks m a := by
  obtain ⟨hnone, hstarts⟩ := Bool.and_eq_true_iff.1 h
  refine ⟨beq_iff_eq.1 hnone, ?_⟩
  rintro z s s' rfl hs - hsuffix -
  have hstart := List.all_eq_true.1 hstarts s ((List.mem_inits _ _).2 (List.prefix_append s s'))
  rw [Bool.or_eq_true, List.isEmpty_iff, Bool.not_eq_true', Bool.eq_false_iff, ne_eq,
    List.isSuffixOf_iff_suffix] at hstart
  exact hstart.elim hs fun hno => hno hsuffix

theorem lacks_of_not_mem (hm : m ≠ []) (h : ∀ c ∈ a, c ∉ m) : Lacks m a := by
  refine ⟨(occurrences_eq_zero_iff hm).2 fun hin => ?_, fun z => seam_of_last (fun c hc => ?_) z⟩
  · obtain ⟨c, hc⟩ := List.exists_mem_of_ne_nil m hm
    exact h c (hin.subset hc) hc
  · exact h c (List.mem_of_mem_getLast? hc)

theorem Lacks.append (ha : Lacks m a) (hb : Lacks m b) : Lacks m (a ++ b) := by
  refine ⟨by rw [occurrences_append (ha.2 b), ha.1, hb.1], ?_⟩
  rintro z s s' rfl hs hs' ⟨p, hp⟩ hin
  rcases List.append_eq_append_iff.1 hp with ⟨s₁, rfl, rfl⟩ | ⟨p', -, rfl⟩
  · rcases eq_or_ne s₁ [] with rfl | hs₁
    · exact hb.2 z b s' rfl hs hs' List.suffix_rfl hin
    · -- it starts in the first text already
      refine ha.2 (b ++ z) s₁ (b ++ s') (List.append_assoc _ _ _) hs₁ ?_ (List.suffix_append _ _) ?_
      · exact List.append_ne_nil_of_right_ne_nil b hs'
      · exact (List.prefix_append_right_inj b).2 hin
  · exact hb.2 z s s' rfl hs hs' (List.suffix_append _ _) hin

/-- The text `new` instead of `old` behind `pre`: behind the start that both share, no `m` stands in it or across
one of its ends. -/
def BringsNone (m pre old new : Text) : Prop :=
  ∃ x y y', old = x ++ y ∧ new = x ++ y' ∧ Lacks m y' ∧ ∀ z, Seam m (pre ++ x) (y' ++ z)

theorem bringsNone_of_lacks {pre new : Text} (hnew : Lacks m new) (hfront : ∀ z, Seam m pre (new ++ z)) (old : Text) :
    BringsNone m pre old new := by
  refine ⟨[], old, new, rfl, rfl, hnew, fun z => ?_⟩
  rw [List.append_nil]
  exact hfront z

theorem Seam.of_append {x b : Text} (h : Seam m (x ++ a) b) : Seam m a b := by
  intro s s' hs hne hne' hsuffix
  exact h s s' hs hne hne' (hsuffix.trans (List.suffix_append x a))

end Text

open Text

namespace Rewrites

variable {New : Text → Text → Text → Text → Prop} {Kept : Text → Text → Prop} {done rest out m : Text}

theorem occurrences_le (h : Rewrites New Kept done rest out)
    (hnew : ∀ pre old post new, New pre old post new → BringsNone m pre old new) :
    occurrences m out ≤ occurrences m rest := by
  induction h with
  | nil => exact Nat.le_refl _
  | @cons done rest out gap old new _ hreplace _ ih =>
    obtain ⟨x, y, y', rfl, rfl, ⟨hnone, hback⟩, hfront⟩ := hnew _ _ _ _ hreplace
    have hfront := hfront out
    rw [List.append_assoc] at hfront
    calc occurrences m (gap ++ (x ++ y') ++ out)
        = occurrences m (gap ++ x ++ (y' ++ out)) := by simp
      _ = occurrences m (gap ++ x) + (occurrences m y' + occurrences m out) := by
        rw [occurrences_append hfront.of_append, occurrences_append (hback out)]
      _ ≤ occurrences m (gap ++ x) + occurrences m rest := by omega
      _ ≤ occurrences m (gap ++ x) + occurrences m (y ++ rest) := by
        have := add_occurrences_le m y rest
        omega
      _ ≤ occurrences m (gap ++ x ++ (y ++ rest)) := add_occurrences_le _ _ _
      _ = occurrences m (gap ++ (x ++ y) ++ rest) := by simp

end Rewrites

theorem Text.BringsNone.occurrences_le {m pre old new : Text} (h : BringsNone m pre old new) (post : Text) :
    occurrences m (pre ++ (new ++ post)) ≤ occurrences m (pre ++ (old ++ post)) := by
  have hrewrites : Rewrites (fun pre old _ new => BringsNone m pre old new) (fun _ _ => True) []
      (pre ++ old ++ post) (pre ++ new ++ post) :=
    .cons pre old new (fun _ _ _ _ => trivial) h (.nil fun _ _ _ _ => trivial)
  rw [← List.append_assoc, ← List.append_assoc]
  exact hrewrites.occurrences_le fun _ _ _ _ hnone => hnone

theorem Edit.occurrences_le {t u m : Text} {edits : List Edit} (h : applyAll t edits = .ok u)
    (hnew : ∀ e ∈ edits, ∀ pre old post, t = pre ++ old ++ post → size pre = e.start → size (pre ++ old) = e.stop →
      BringsNone m pre old e.replacement) : occurrences m u ≤ occurrences m t := by
  have hrewrites : Rewrites (fun pre old _ new => BringsNone m pre old new) (fun _ _ => True) [] t u :=
    rewrites_of_applyAll h hnew fun _ _ _ _ _ => trivial
  exact hrewrites.occurrences_le fun _ _ _ _ hnone => hnone

end HandlerMigration
