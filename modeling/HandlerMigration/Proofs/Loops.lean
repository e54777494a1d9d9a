import HandlerMigration.Pattern.Flow
import HandlerMigration.Proofs.Reaching

/-!
# What a loop spells

`Flow.Spells f last w next`: the flow `f` admits the piece `w` between the characters `last` and `next`.
Main statement: the ends that the matcher tries are those of spelled pieces (`Flow.mem_ends`). A repetition
that is written out admits as many pieces as it should (`Flow.spells_repeated`).
-/

namespace HandlerMigration

open Text

namespace Pattern

/-! ### Repeated pieces -/

/-- `n` pieces in a row, each of which satisfies `P` between the characters around it. -/
def Repeats (P : Option Char → Text → Option Char → Prop) : Nat → Option Char → Text → Option Char → Prop
  | 0, _, w, _ => w = []
  | n + 1, last, w, next =>
    ∃ u v, w = u ++ v ∧ P last u (v.head?.or next) ∧ Repeats P n (u.getLast?.or last) v next

section Repeats

variable {P Q R : Option Char → Text → Option Char → Prop} {last next : Option Char} {a b : Nat} {w : Text}

theorem exists_pieces_assoc :
    (∃ x y, w = x ++ y ∧ P last x (y.head?.or next) ∧ ∃ u v, y = u ++ v ∧ Q (x.getLast?.or last) u (v.head?.or next) ∧
      R (u.getLast?.or (x.getLast?.or last)) v next) ↔
    ∃ y v, w = y ++ v ∧ (∃ x u, y = x ++ u ∧ P last x (u.head?.or (v.head?.or next)) ∧
      Q (x.getLast?.or last) u (v.head?.or next)) ∧ R (y.getLast?.or last) v next := by
  constructor
  · rintro ⟨x, _, rfl, hx, u, v, rfl, hu, hv⟩
    refine ⟨x ++ u, v, by simp, ⟨x, u, rfl, ?_, hu⟩, ?_⟩
    · rwa [List.head?_append, Option.or_assoc] at hx
    · rwa [List.getLast?_append, Option.or_assoc]
  · rintro ⟨_, v, rfl, ⟨x, u, rfl, hx, hu⟩, hv⟩
    refine ⟨x, u ++ v, by simp, ?_, u, v, rfl, hu, ?_⟩
    · rwa [List.head?_append, Option.or_assoc]
    · rwa [List.getLast?_append, Option.or_assoc] at hv

theorem Repeats.add_iff : Repeats P (a + b) last w next ↔
    ∃ u v, w = u ++ v ∧ Repeats P a last u (v.head?.or next) ∧ Repeats P b (u.getLast?.or last) v next := by
  induction a generalizing last w with
  | zero => simp [Repeats]
  | succ a ih =>
    rw [Nat.add_right_comm]
    simp only [Repeats, ih]
    exact exists_pieces_assoc

end Repeats

/-! ### Ends in the order of preference -/

section Prefer

variable {α β : Type}

def preferEnds (greedy : Bool) (more stop : List β) : List β :=
  if greedy then more ++ stop else stop ++ more

theorem mem_preferEnds {greedy : Bool} {more : List β} {x y : β} :
    x ∈ preferEnds greedy more [y] ↔ x ∈ more ∨ x = y := by
  cases greedy <;> simp [preferEnds, or_comm]

theorem findSome?_flatMap {γ : Type} (xs : List β) (g : β → List γ) (k : γ → Option α) :
    (xs.flatMap g).findSome? k = xs.findSome? fun x => (g x).findSome? k := by
  induction xs with
  | nil => rfl
  | cons x xs ih =>
    rw [List.flatMap_cons, List.findSome?_append, ih, List.findSome?_cons]
    cases (g x).findSome? k <;> rfl

theorem findSome?_preferEnds (greedy : Bool) (more stop : List β) (k : β → Option α) :
    (preferEnds greedy more stop).findSome? k =
      prefer greedy (fun _ => more.findSome? k) (fun _ => stop.findSome? k) := by
  unfold preferEnds prefer
  split_ifs <;> rw [List.findSome?_append] <;> cases List.findSome? k _ <;> rfl

end Prefer

end Pattern

open Pattern

namespace Flow

/-! ### Ends -/

/-- The ends from the fork of a loop on. -/
def turnsEnds (step : Walk → List Walk) (fork : Nat) (greedy : Bool) : (limit : Nat) → Walk → List Walk
  | 0, _ => []
  | n + 1, w =>
    (w.pass? fork).toList.flatMap fun w =>
      preferEnds greedy ((step w).flatMap (turnsEnds step fork greedy n)) [w]

/-- The ends of a flow, the preferred ones first. -/
def ends (bound : Nat) : Flow → (fork : Nat) → Walk → List Walk
  | lit s, _, w => (w.cur.skip? s).toList.map w.goTo
  | one set, _, w =>
    match w.cur.rest with
    | [] => []
    | c :: rest => if set.has c then [w.goTo (w.cur.advance c rest)] else []
  | look b, _, w => if b.holds w.cur.last w.cur.rest.head? then [w] else []
  | seq f g, fork, w => (ends bound f fork w).flatMap (ends bound g (fork + f.forks))
  | alt f g, fork, w =>
    (w.pass? fork).toList.flatMap fun w =>
      ends bound f (fork + 1) w ++ ends bound g (fork + 1 + f.forks) w
  | plus f greedy, fork, w =>
    (ends bound f (fork + 1) w).flatMap (turnsEnds (ends bound f (fork + 1)) fork greedy (bound + 1))
  | star f greedy, fork, w => turnsEnds (ends bound f (fork + 1)) fork greedy (bound + 1) w
  | group index f, fork, w =>
    (ends bound f fork w).map fun next =>
      { next with cur := { next.cur with
        groups := (index, ⟨w.cur.offset, next.cur.offset⟩) :: next.cur.groups } }

section Run

variable {α : Type} {step : Step α} {f : Walk → List Walk}

theorem turns_eq (hstep : ∀ k w, step k w = (f w).findSome? k) (fork : Nat) (greedy : Bool) (n : Nat)
    (k : Walk → Option α) (w : Walk) : turns step fork greedy n k w = (turnsEnds f fork greedy n w).findSome? k := by
  induction n generalizing w with
  | zero => rfl
  | succ n ih =>
    cases hpass : w.pass? fork with
    | none => simp [turns, turnsEnds, hpass]
    | some w' => simp [turns, turnsEnds, hpass, findSome?_preferEnds, hstep, findSome?_flatMap, funext ih]

theorem run_eq_findSome? (bound : Nat) (f : Flow) (fork : Nat) (k : Walk → Option α) (w : Walk) :
    f.run bound fork k w = (f.ends bound fork w).findSome? k := by
  induction f generalizing fork k w with
  | lit s => cases h : w.cur.skip? s <;> simp [run, ends, h]
  | one set =>
    simp only [run, ends]
    cases w.cur.rest with
    | nil => rfl
    | cons c rest => by_cases h : set.has c <;> simp [h]
  | look b => by_cases h : b.holds w.cur.last w.cur.rest.head? <;> simp [run, ends, h]
  | seq f g ihf ihg => rw [run, ihf, ends, findSome?_flatMap, funext (ihg _ k)]
  | alt f g ihf ihg =>
    cases hpass : w.pass? fork with
    | none => simp [run, ends, hpass]
    | some w' =>
      simp only [run, ends, hpass, Option.bind_some, ihf, ihg, Option.toList_some, List.flatMap_singleton,
        List.findSome?_append]
      cases List.findSome? k (ends bound f (fork + 1) w') <;> rfl
  | plus f greedy ih => rw [run, ih, ends, findSome?_flatMap, funext (turns_eq (ih _) fork greedy (bound + 1) k)]
  | star f greedy ih => exact turns_eq (ih _) fork greedy (bound + 1) k w
  | group index f ih => simp only [run, ends, ih, List.findSome?_map]; rfl

end Run

/-! ### Spelled pieces -/

/-- The flow admits the piece `w` between the characters `last` and `next`. -/
def Spells : Flow → (last : Option Char) → (w : Text) → (next : Option Char) → Prop
  | lit s, _, w, _ => w = s
  | one set, _, w, _ => ∃ c, w = [c] ∧ set.has c
  | look b, last, w, next => w = [] ∧ b.holds last next
  | seq f g, last, w, next =>
    ∃ u v, w = u ++ v ∧ Spells f last u (v.head?.or next) ∧ Spells g (u.getLast?.or last) v next
  | alt f g, last, w, next => Spells f last w next ∨ Spells g last w next
  | plus f _, last, w, next => ∃ n, Repeats (Spells f) (n + 1) last w next
  | star f _, last, w, next => ∃ n, Repeats (Spells f) n last w next
  | group _ f, last, w, next => Spells f last w next

/-- The numbers of the groups of a flow. -/
def indices : Flow → List Nat
  | lit _ | one _ | look _ => []
  | seq f g | alt f g => f.indices ++ g.indices
  | plus f _ | star f _ => f.indices
  | group i f => i :: f.indices

section Sound

variable {P : Option Char → Text → Option Char → Prop} {step : Walk → List Walk} {w w' next : Walk} {I : List Nat}

theorem pass?_eq_some {fork : Nat} (h : w' ∈ (w.pass? fork).toList) : w' = { w with passed := fork :: w.passed } := by
  unfold Walk.pass? at h
  split_ifs at h
  · cases h
  · exact List.mem_singleton.1 h

theorem leads_turnsEnds
    (hstep : ∀ w, ∀ next ∈ step w, ∃ u, w.cur.Leads I u next.cur ∧ P w.cur.last u next.cur.rest.head?)
    {fork n : Nat} {greedy : Bool} (h : next ∈ turnsEnds step fork greedy n w) :
    ∃ u, w.cur.Leads I u next.cur ∧ ∃ k, Repeats P k w.cur.last u next.cur.rest.head? := by
  induction n generalizing w with
  | zero => cases h
  | succ n ih =>
    obtain ⟨w', hw', h⟩ := List.mem_flatMap.1 h
    cases pass?_eq_some hw'
    rcases mem_preferEnds.1 h with h | rfl
    · obtain ⟨mid, hmid, hnext⟩ := List.mem_flatMap.1 h
      obtain ⟨u, hu, hpu⟩ := hstep _ mid hmid
      obtain ⟨v, hv, k, hpv⟩ := ih hnext
      exact ⟨u ++ v, hu.trans hv, k + 1, u, v, rfl, hv.head? ▸ hpu, hu.last ▸ hpv⟩
    · exact ⟨[], .refl _, 0, rfl⟩

/-- An end that the matcher tries is that of a spelled piece. -/
theorem mem_ends {bound fork : Nat} {f : Flow} (h : next ∈ f.ends bound fork w) :
    ∃ u, w.cur.Leads f.indices u next.cur ∧ f.Spells w.cur.last u next.cur.rest.head? := by
  induction f generalizing fork w next with
  | lit s =>
    obtain ⟨stop, hstop, rfl⟩ := List.mem_map.1 h
    have hstop := Option.mem_toList.1 hstop
    exact ⟨s, (Cursor.skip?_eq_some hstop).leads (Cursor.skip?_groups hstop), rfl⟩
  | one set =>
    simp only [ends] at h
    split at h
    · cases h
    · next c rest hc =>
      split_ifs at h with hset
      · cases List.mem_singleton.1 h
        exact ⟨[c], (Cursor.Reaches.advance hc).leads rfl, c, rfl, hset⟩
      · cases h
  | look b =>
    simp only [ends] at h
    split_ifs at h with hb
    · cases List.mem_singleton.1 h; exact ⟨[], .refl _, rfl, hb⟩
    · cases h
  | seq f g ihf ihg =>
    obtain ⟨mid, hmid, hnext⟩ := List.mem_flatMap.1 h
    obtain ⟨u, hu, hfu⟩ := ihf hmid
    obtain ⟨v, hv, hgv⟩ := ihg hnext
    exact ⟨u ++ v, (hu.mono (List.subset_append_left _ _)).trans (hv.mono (List.subset_append_right _ _)), u, v, rfl,
      hv.head? ▸ hfu, hu.last ▸ hgv⟩
  | alt f g ihf ihg =>
    obtain ⟨w', hw', h⟩ := List.mem_flatMap.1 h
    cases pass?_eq_some hw'
    rcases List.mem_append.1 h with h | h
    · obtain ⟨u, hu, hfu⟩ := ihf h; exact ⟨u, hu.mono (List.subset_append_left _ _), .inl hfu⟩
    · obtain ⟨u, hu, hgu⟩ := ihg h; exact ⟨u, hu.mono (List.subset_append_right _ _), .inr hgu⟩
  | plus f greedy ih =>
    obtain ⟨mid, hmid, hnext⟩ := List.mem_flatMap.1 h
    obtain ⟨u, hu, hfu⟩ := ih hmid
    obtain ⟨v, hv, k, hfv⟩ := leads_turnsEnds (fun _ _ h => ih h) hnext
    exact ⟨u ++ v, hu.trans hv, k, u, v, rfl, hv.head? ▸ hfu, hu.last ▸ hfv⟩
  | star f greedy ih => exact leads_turnsEnds (fun _ _ h => ih h) h
  | group index f ih =>
    obtain ⟨mid, hmid, rfl⟩ := List.mem_map.1 h
    obtain ⟨u, hu, hfu⟩ := ih hmid
    exact ⟨u, hu.group index, hfu⟩

end Sound

/-! ### Repetitions -/

section Repeated

variable {f rest : Flow} {greedy : Bool} {last next : Option Char} {w : Text} {n : Nat}

theorem spells_optional : (optional greedy f).Spells last w next ↔ f.Spells last w next ∨ w = [] := by
  cases greedy
  · exact or_comm
  · exact Iff.rfl

theorem spells_copies : (copies f rest n).Spells last w next ↔
    ∃ u v, w = u ++ v ∧ Repeats f.Spells n last u (v.head?.or next) ∧ rest.Spells (u.getLast?.or last) v next := by
  induction n generalizing last w with
  | zero => simp [copies, Repeats]
  | succ n ih =>
    simp only [copies, Spells, Repeats, ih]
    exact exists_pieces_assoc

theorem spells_atMost : (f.atMost greedy n).Spells last w next ↔ ∃ k ≤ n, Repeats f.Spells k last w next := by
  induction n generalizing last w with
  | zero => simp [atMost, Spells, Repeats]
  | succ n ih =>
    rw [atMost, spells_optional]
    constructor
    · rintro (⟨u, v, rfl, hu, hv⟩ | rfl)
      · obtain ⟨k, hk, hv⟩ := ih.1 hv
        exact ⟨k + 1, by omega, u, v, rfl, hu, hv⟩
      · exact ⟨0, by omega, rfl⟩
    · rintro ⟨_ | k, hk, h⟩
      · exact .inr h
      · obtain ⟨u, v, rfl, hu, hv⟩ := h
        exact .inl ⟨u, v, rfl, hu, ih.2 ⟨k, by omega, hv⟩⟩

theorem spells_copies_iff {least : Nat} {p : Nat → Prop}
    (hrest : ∀ {last w}, rest.Spells last w next ↔ ∃ k, p k ∧ Repeats f.Spells k last w next) :
    (copies f rest least).Spells last w next ↔ ∃ k, p k ∧ Repeats f.Spells (least + k) last w next := by
  simp only [spells_copies, hrest, Repeats.add_iff]
  constructor
  · rintro ⟨u, v, rfl, hu, k, hk, hv⟩
    exact ⟨k, hk, u, v, rfl, hu, hv⟩
  · rintro ⟨k, hk, u, v, rfl, hu, hv⟩
    exact ⟨u, v, rfl, hu, k, hk, hv⟩

theorem spells_repeated {least : Nat} {most : Option Nat} : (f.repeated greedy least most).Spells last w next ↔
    ∃ n, least ≤ n ∧ (∀ m ∈ most, n ≤ max least m) ∧ Repeats f.Spells n last w next := by
  match least, most with
  | least, some m =>
    simp only [repeated, Option.mem_def, Option.some.injEq, forall_eq']
    rw [spells_copies_iff spells_atMost]
    constructor
    · rintro ⟨k, hk, h⟩
      exact ⟨least + k, by omega, by omega, h⟩
    · rintro ⟨n, hn, hm, h⟩
      exact ⟨n - least, by omega, by rwa [Nat.add_sub_cancel' hn]⟩
  | 0, none =>
    have hstar : (f.repeated greedy 0 none).Spells last w next ↔ ∃ n, Repeats f.Spells n last w next := by
      rw [repeated]
      split_ifs
      · rw [spells_optional]
        constructor
        · rintro (⟨n, h⟩ | rfl)
          · exact ⟨n + 1, h⟩
          · exact ⟨0, rfl⟩
        · rintro ⟨_ | n, h⟩
          · exact .inr h
          · exact .inl ⟨n, h⟩
      · exact Iff.rfl
    simpa using hstar
  | least + 1, none =>
    have hplus : ∀ {last w}, (plus f greedy).Spells last w next ↔ ∃ k, 1 ≤ k ∧ Repeats f.Spells k last w next := by
      intro last w
      constructor
      · rintro ⟨n, h⟩
        exact ⟨n + 1, by omega, h⟩
      · rintro ⟨_ | n, hn, h⟩
        · omega
        · exact ⟨n, h⟩
    rw [repeated, spells_copies_iff hplus]
    constructor
    · rintro ⟨k, hk, h⟩
      exact ⟨least + k, by omega, by simp, h⟩
    · rintro ⟨n, hn, -, h⟩
      exact ⟨n - least, by omega, by rwa [Nat.add_sub_cancel' (by omega)]⟩

theorem mem_indices_copies {i : Nat} (h : i ∈ (copies f rest n).indices) : i ∈ f.indices ∨ i ∈ rest.indices := by
  induction n with
  | zero => exact .inr h
  | succ n ih => exact (List.mem_append.1 h).elim .inl ih

theorem mem_indices_optional {i : Nat} (h : i ∈ (optional greedy f).indices) : i ∈ f.indices := by
  cases greedy <;> simpa [optional, indices] using h

theorem mem_indices_atMost {i : Nat} (h : i ∈ (f.atMost greedy n).indices) : i ∈ f.indices := by
  induction n with
  | zero => cases h
  | succ n ih => exact (List.mem_append.1 (mem_indices_optional h)).elim id ih

theorem indices_repeated {least : Nat} {most : Option Nat} : (f.repeated greedy least most).indices ⊆ f.indices := by
  intro i h
  match least, most with
  | least, some m => exact (mem_indices_copies h).elim id mem_indices_atMost
  | 0, none =>
    rw [repeated] at h
    split_ifs at h
    · exact mem_indices_optional (f := plus f greedy) h
    · exact h
  | least + 1, none => exact (mem_indices_copies h).elim id id

end Repeated

end Flow

end HandlerMigration
