import HandlerMigration.Pattern.Cursor
import HandlerMigration.Proofs.Cut

/-!
# Pieces between positions

`Reaches cur w next`: the piece `w` leads from one position to the other. `Leads` says also which groups
were matched on the way: their numbers are among those given, and their spans lie between the positions.
-/

namespace HandlerMigration

open Text

namespace Cursor

/-- The piece `w` leads from one position to the other. -/
structure Reaches (cur : Cursor) (w : Text) (next : Cursor) : Prop where
  rest : cur.rest = w ++ next.rest
  offset : next.offset = cur.offset + size w
  last : next.last = w.getLast?.or cur.last

namespace Reaches

variable {cur mid next : Cursor} {u v w : Text}

theorem refl (cur : Cursor) : Reaches cur [] cur := ⟨rfl, rfl, rfl⟩

theorem trans (h : Reaches cur u mid) (h' : Reaches mid v next) : Reaches cur (u ++ v) next := by
  refine ⟨?_, ?_, ?_⟩
  · rw [h.rest, h'.rest, List.append_assoc]
  · rw [h'.offset, h.offset, size_append, Nat.add_assoc]
  · rw [h'.last, h.last, List.getLast?_append, Option.or_assoc]

theorem groups (h : Reaches cur w next) (gs : List (Nat × Span)) :
    Reaches cur w { next with groups := gs } := ⟨h.rest, h.offset, h.last⟩

theorem head? (h : Reaches cur w next) : cur.rest.head? = w.head?.or next.rest.head? := by
  rw [h.rest, List.head?_append]

theorem advance {c : Char} {rest : Text} (h : cur.rest = c :: rest) : Reaches cur [c] (cur.advance c rest) :=
  ⟨h, rfl, rfl⟩

theorem length_le (h : Reaches cur w next) {n : Nat} (hlen : cur.rest.length ≤ n) :
    next.rest.length + w.length ≤ n := by
  rw [h.rest, List.length_append] at hlen; omega

theorem rest_eq (h : Reaches cur w next) {r : Text} (hr : cur.rest = w ++ r) : next.rest = r :=
  (List.append_cancel_left (hr.symm.trans h.rest)).symm

end Reaches

theorem skip?_eq_some {cur next : Cursor} {s : Text} (h : cur.skip? s = some next) : Reaches cur s next := by
  induction s generalizing cur with
  | nil => cases h; exact .refl _
  | cons c s ih =>
    unfold skip? at h
    split at h
    · cases h
    · next d rest hd =>
      split_ifs at h with hcd
      subst hcd
      exact (Reaches.advance hd).trans (ih h)

theorem skip?_groups {cur next : Cursor} {s : Text} (h : cur.skip? s = some next) : next.groups = cur.groups := by
  induction s generalizing cur with
  | nil => cases h; rfl
  | cons c s ih =>
    unfold skip? at h
    split at h
    · cases h
    · split_ifs at h
      exact (ih h).trans rfl

theorem exists_skip? {cur : Cursor} {s r : Text} (h : cur.rest = s ++ r) : ∃ next, cur.skip? s = some next := by
  induction s generalizing cur with
  | nil => exact ⟨cur, rfl⟩
  | cons c s ih =>
    unfold skip?
    rw [h]
    simp only [List.cons_append, ↓reduceIte]
    exact ih rfl

theorem mem_drop_reach {set : CharSet} {offset : Nat} {last : Option Char} {groups : List (Nat × Span)}
    {limit : Option Nat} {t : Text} {least : Nat} {next : Cursor} :
    next ∈ (reach set offset last groups limit t).drop least ↔
      ∃ w r, t = w ++ r ∧ (∀ c ∈ w, set.has c) ∧ least ≤ w.length ∧ (∀ m ∈ limit, w.length ≤ m) ∧
        next = ⟨offset + size w, w.getLast?.or last, r, groups⟩ := by
  induction t generalizing offset last limit least with
  | nil =>
    cases least with
    | zero => simp [reach]
    | succ n =>
      simp only [reach, List.drop_succ_cons, List.drop_nil, List.not_mem_nil, false_iff]
      rintro ⟨w, r, hw, -, hl, -⟩
      obtain ⟨rfl, -⟩ := List.append_eq_nil_iff.1 hw.symm
      simp at hl
  | cons c t ih =>
    -- A run that starts with `c` is a run from behind `c`.
    have hrun : ∀ n, next ∈ (if limit != some 0 && set.has c then
          reach set (offset + c.utf8Size) (some c) groups (limit.map (· - 1)) t else []).drop n ↔
        ∃ w r, t = w ++ r ∧ (∀ d ∈ c :: w, set.has d) ∧ n ≤ w.length ∧ (∀ m ∈ limit, (c :: w).length ≤ m) ∧
          next = ⟨offset + size (c :: w), (c :: w).getLast?.or last, r, groups⟩ := by
      intro n
      split_ifs with h
      · simp only [bne_iff_ne, ne_eq, Bool.and_eq_true] at h
        rw [ih]
        refine exists_congr fun w => exists_congr fun r => ?_
        simp only [List.forall_mem_cons, h.2, true_and, size_cons, List.getLast?_cons, Option.or_some,
          Nat.add_assoc, Option.some_or]
        refine and_congr_right fun _ => and_congr_right fun _ => and_congr_right fun _ => and_congr ?_ ?_
        · cases limit with
          | none => simp
          | some m =>
            have : m ≠ 0 := fun h0 => h.1 (by rw [h0])
            simp only [Option.map_some, Option.mem_def, Option.some.injEq, forall_eq', List.length_cons]
            omega
        · cases w.getLast? <;> simp
      · simp only [List.drop_nil, List.not_mem_nil, false_iff]
        rintro ⟨w, r, -, hset, -, hlim, -⟩
        apply h
        simp only [bne_iff_ne, ne_eq, Bool.and_eq_true]
        exact ⟨fun h0 => absurd (hlim 0 (by rw [h0]; rfl)) (by simp), hset c (by simp)⟩
    cases least with
    | zero =>
      rw [reach, List.drop_zero, List.mem_cons, ← List.drop_zero (l := ite _ _ _), hrun 0]
      constructor
      · rintro (rfl | ⟨w, r, rfl, hset, -, hlim, rfl⟩)
        · exact ⟨[], c :: t, rfl, by simp, by simp, by simp, rfl⟩
        · exact ⟨c :: w, r, rfl, hset, by simp, hlim, rfl⟩
      · rintro ⟨w, r, hw, hset, -, hlim, rfl⟩
        cases w with
        | nil => cases hw; exact .inl rfl
        | cons d w => cases hw; exact .inr ⟨w, r, rfl, hset, by simp, hlim, rfl⟩
    | succ n =>
      rw [reach, List.drop_succ_cons, hrun n]
      constructor
      · rintro ⟨w, r, rfl, hset, hn, hlim, rfl⟩
        exact ⟨c :: w, r, rfl, hset, by simpa using hn, hlim, rfl⟩
      · rintro ⟨w, r, hw, hset, hn, hlim, rfl⟩
        cases w with
        | nil => simp at hn
        | cons d w => cases hw; exact ⟨w, r, rfl, hset, by simpa using hn, hlim, rfl⟩

/-! ### Groups -/

/-- The span lies between the two positions. -/
def Between (cur next : Cursor) (s : Span) : Prop :=
  ∃ x w y, cur.rest = x ++ (w ++ (y ++ next.rest)) ∧ s = ⟨cur.offset + size x, cur.offset + size (x ++ w)⟩

/-- The piece leads from one position to the other, and the groups that are reported from in between have
certain numbers. -/
structure Leads (indices : List Nat) (cur : Cursor) (w : Text) (next : Cursor) : Prop extends Reaches cur w next where
  groups : ∃ found, next.groups = found ++ cur.groups ∧ ∀ i s, (i, s) ∈ found → i ∈ indices ∧ Between cur next s

section Groups

variable {cur mid next : Cursor} {u v w : Text} {s : Span} {indices indices' : List Nat} {i : Nat}

theorem Between.trans_right (h : Between cur mid s) (hv : mid.Reaches v next) : Between cur next s := by
  obtain ⟨x, w, y, hrest, hs⟩ := h
  exact ⟨x, w, y ++ v, by rw [hrest, hv.rest]; simp, hs⟩

theorem Between.trans_left (hu : cur.Reaches u mid) (h : Between mid next s) : Between cur next s := by
  obtain ⟨x, w, y, hrest, rfl⟩ := h
  refine ⟨u ++ x, w, y, by rw [hu.rest, hrest]; simp, ?_⟩
  simp only [hu.offset, size_append, Nat.add_assoc]

theorem Reaches.leads (h : Reaches cur w next) (hgroups : next.groups = cur.groups) : Leads indices cur w next :=
  ⟨h, [], hgroups, fun _ _ hmem => absurd hmem List.not_mem_nil⟩

namespace Leads

theorem refl (cur : Cursor) : Leads indices cur [] cur := (Reaches.refl cur).leads rfl

theorem trans (h : Leads indices cur u mid) (h' : Leads indices mid v next) : Leads indices cur (u ++ v) next := by
  obtain ⟨found, hfound, hspans⟩ := h.groups
  obtain ⟨found', hfound', hspans'⟩ := h'.groups
  refine ⟨h.toReaches.trans h'.toReaches, found' ++ found, by rw [hfound', hfound, List.append_assoc], ?_⟩
  intro i s hmem
  rcases List.mem_append.1 hmem with hmem | hmem
  · exact (hspans' i s hmem).imp_right (.trans_left h.toReaches)
  · exact (hspans i s hmem).imp_right (·.trans_right h'.toReaches)

theorem mono (h : Leads indices cur w next) (hsub : indices ⊆ indices') : Leads indices' cur w next := by
  obtain ⟨found, hfound, hspans⟩ := h.groups
  exact ⟨h.toReaches, found, hfound, fun i s hmem => (hspans i s hmem).imp_left (@hsub i)⟩

theorem group (h : Leads indices cur w next) (i : Nat) :
    Leads (i :: indices) cur w { next with groups := (i, ⟨cur.offset, next.offset⟩) :: next.groups } := by
  obtain ⟨found, hfound, hspans⟩ := h.groups
  refine ⟨h.toReaches.groups _, (i, ⟨cur.offset, next.offset⟩) :: found, by rw [hfound]; rfl, fun j s hmem => ?_⟩
  rcases List.mem_cons.1 hmem with heq | hmem
  · cases heq
    exact ⟨List.mem_cons_self, [], w, [], h.rest, by rw [h.offset]; rfl⟩
  · exact (hspans j s hmem).imp_left (List.mem_cons_of_mem i)

theorem lookup_of_not_mem (h : Leads indices cur w next) (hi : i ∉ indices) :
    next.groups.lookup i = cur.groups.lookup i := by
  obtain ⟨found, hfound, hspans⟩ := h.groups
  have hnone : found.lookup i = none := by
    rw [List.lookup_eq_none_iff]
    rintro ⟨j, s⟩ hmem
    have hj := (hspans j s hmem).1
    simp only [bne_iff_ne, ne_eq]
    rintro rfl
    exact hi hj
  rw [hfound, List.lookup_append, hnone, Option.none_or]

/-- A group that is reported was known before, or it lies in the piece. -/
theorem known_or_between (h : Leads indices cur w next) (hs : next.groups.lookup i = some s) :
    cur.groups.lookup i = some s ∨ Between cur next s := by
  obtain ⟨found, hfound, hspans⟩ := h.groups
  rw [hfound, List.lookup_append] at hs
  rcases Option.or_eq_some_iff.1 hs with hs | ⟨-, hs⟩
  · obtain ⟨front, back, rfl, -⟩ := List.lookup_eq_some_iff.1 hs
    exact .inr (hspans i s (List.mem_append_right _ List.mem_cons_self)).2
  · exact .inl hs

end Leads

end Groups

end Cursor

end HandlerMigration
