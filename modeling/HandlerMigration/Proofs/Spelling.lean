import HandlerMigration.Pattern.Match
import HandlerMigration.Proofs.LoopWays

/-!
# What a pattern spells

`Spells p last w next`: the pattern `p` admits the piece `w` between the characters `last` and `next`.
Nothing else of the text counts, so a piece can be moved to another text. Main statement: the ends that
the matcher tries at a position are those of the pieces that are spelled there (`mem_ends`,
`Spells.exists_mem_ends`).

`ends` lists these ends, the preferred one first, and the matcher takes the first that its continuation
accepts (`run_eq_findSome?`).
-/

namespace HandlerMigration

open Text

namespace Pattern

/-! ### Ends in the order of preference -/

/-- The ends of `n` steps. -/
def timesEnds (f : Cursor → List Cursor) : Nat → Cursor → List Cursor
  | 0, cur => [cur]
  | n + 1, cur => (f cur).flatMap (timesEnds f n)

/-- The ends of at most `n` steps. -/
def atMostEnds (f : Cursor → List Cursor) (greedy : Bool) : Nat → Cursor → List Cursor
  | 0, cur => [cur]
  | n + 1, cur => preferEnds greedy ((f cur).flatMap (atMostEnds f greedy n)) [cur]

/-- The ends of the pieces that a pattern admits at a position, the preferred ones first. -/
def ends (bound : Nat) : Pattern → Cursor → List Cursor
  | empty, cur => [cur]
  | lit s, cur => (cur.skip? s).toList
  | one set, cur =>
    match cur.rest with
    | [] => []
    | c :: rest => if set.has c then [cur.advance c rest] else []
  | many set least most greedy, cur =>
    let ends := (Cursor.reach set cur.offset cur.last cur.groups most cur.rest).drop least
    if greedy then ends.reverse else ends
  | seq p q, cur => (ends bound p cur).flatMap (ends bound q)
  | alt p q, cur => ends bound p cur ++ ends bound q cur
  | rep p least none greedy, cur => ((p.flow.repeated greedy least none).ends bound 0 ⟨cur, []⟩).map Walk.cur
  | rep p least (some m) greedy, cur =>
    (timesEnds (ends bound p) least cur).flatMap (atMostEnds (ends bound p) greedy (m - least))
  | look b, cur => if b.holds cur.last cur.rest.head? then [cur] else []
  | group index p, cur =>
    (ends bound p cur).map fun next =>
      { next with groups := (index, ⟨cur.offset, next.offset⟩) :: next.groups }

section Run

variable {α : Type} {step : Step α} {f : Cursor → List Cursor}

theorem times_eq (hstep : ∀ k cur, step k cur = (f cur).findSome? k) (n : Nat) (k : Cursor → Option α)
    (cur : Cursor) : times step n k cur = (timesEnds f n cur).findSome? k := by
  induction n generalizing cur with
  | zero => simp [times, timesEnds]
  | succ n ih => rw [times, timesEnds, hstep, findSome?_flatMap, funext ih]

theorem atMost_eq (hstep : ∀ k cur, step k cur = (f cur).findSome? k) (greedy : Bool) (n : Nat)
    (k : Cursor → Option α) (cur : Cursor) :
    atMost step greedy n k cur = (atMostEnds f greedy n cur).findSome? k := by
  induction n generalizing cur with
  | zero => simp [atMost, atMostEnds]
  | succ n ih => simp [atMost, atMostEnds, findSome?_preferEnds, hstep, findSome?_flatMap, funext ih]

/-- The matcher takes the first end that the continuation accepts. -/
theorem run_eq_findSome? (bound : Nat) (p : Pattern) (k : Cursor → Option α) (cur : Cursor) :
    p.run bound k cur = (p.ends bound cur).findSome? k := by
  induction p generalizing k cur with
  | empty => simp [run, ends]
  | lit s => cases h : cur.skip? s <;> simp [run, ends, h]
  | one set =>
    simp only [run, ends]
    cases cur.rest with
    | nil => rfl
    | cons c rest => by_cases h : set.has c <;> simp [h]
  | many set least most greedy => rfl
  | seq p q ihp ihq => rw [run, ihp, ends, findSome?_flatMap, funext (ihq k)]
  | alt p q ihp ihq =>
    simp only [run, ends, ihp, ihq, List.findSome?_append]
    cases List.findSome? k (ends bound p cur) <;> rfl
  | rep p least most greedy ih =>
    cases most with
    | none =>
      simp only [run, Flow.run_eq_findSome?, ends, List.findSome?_map]
      rfl
    | some m => simp only [run, ends, findSome?_flatMap, times_eq ih, funext (atMost_eq ih greedy (m - least) k)]
  | look b => by_cases h : b.holds cur.last cur.rest.head? <;> simp [run, ends, h]
  | group index p ih => simp only [run, ends, ih, List.findSome?_map]; rfl

theorem endAt_eq_head? (p : Pattern) (bound : Nat) (cur : Cursor) :
    p.endAt bound cur = (p.ends bound cur).head? := by
  rw [endAt, run_eq_findSome?]
  cases p.ends bound cur <;> rfl

end Run

/-! ### Spelled pieces -/

/-- The pattern admits the piece `w` between the characters `last` and `next`. -/
def Spells : Pattern → (last : Option Char) → (w : Text) → (next : Option Char) → Prop
  | empty, _, w, _ => w = []
  | lit s, _, w, _ => w = s
  | one set, _, w, _ => ∃ c, w = [c] ∧ set.has c
  | many set least most _, _, w, _ => (∀ c ∈ w, set.has c) ∧ least ≤ w.length ∧ ∀ m ∈ most, w.length ≤ m
  | seq p q, last, w, next =>
    ∃ u v, w = u ++ v ∧ Spells p last u (v.head?.or next) ∧ Spells q (u.getLast?.or last) v next
  | alt p q, last, w, next => Spells p last w next ∨ Spells q last w next
  | rep p least most _, last, w, next =>
    ∃ n, least ≤ n ∧ (∀ m ∈ most, n ≤ max least m) ∧ Repeats (Spells p) n last w next
  | look b, last, w, next => w = [] ∧ b.holds last next
  | group _ p, last, w, next => Spells p last w next

/-- The numbers of the groups of a pattern. -/
def indices : Pattern → List Nat
  | seq p q => p.indices ++ q.indices
  | alt p q => p.indices ++ q.indices
  | rep p _ _ _ => p.indices
  | group i p => i :: p.indices
  | _ => []

section Flow

variable {last next : Option Char} {w : Text}

theorem repeats_one {set : CharSet} {n : Nat} : Repeats (Flow.one set).Spells n last w next ↔
    (∀ c ∈ w, set.has c) ∧ w.length = n := by
  induction n generalizing last w with
  | zero => simp +contextual [Repeats]
  | succ n ih =>
    constructor
    · rintro ⟨_, v, rfl, ⟨c, rfl, hc⟩, hv⟩
      obtain ⟨hset, hlen⟩ := ih.1 hv
      exact ⟨List.forall_mem_cons.2 ⟨hc, hset⟩, congrArg (· + 1) hlen⟩
    · rintro ⟨hset, hlen⟩
      obtain ⟨c, v, rfl⟩ := List.exists_cons_of_length_eq_add_one hlen
      obtain ⟨hc, hset⟩ := List.forall_mem_cons.1 hset
      exact ⟨[c], v, rfl, ⟨c, rfl, hc⟩, ih.2 ⟨hset, Nat.succ.inj hlen⟩⟩

/-- A pattern and its flow admit the same pieces. -/
theorem spells_flow (p : Pattern) : p.flow.Spells = p.Spells := by
  funext last w next
  apply propext
  induction p generalizing last w next with
  | empty => exact Iff.rfl
  | lit s => exact Iff.rfl
  | one set => exact Iff.rfl
  | many set least most greedy =>
    have hall : most.all (least ≤ ·) = true ↔ ∀ m ∈ most, least ≤ m := by
      rw [Option.all_eq_true]
      simp
    rw [flow]
    split_ifs with hmost
    · rw [hall] at hmost
      simp only [Flow.spells_repeated, repeats_one]
      constructor
      · rintro ⟨_, hleast, hlimit, hset, rfl⟩
        exact ⟨hset, hleast, fun m hm => by have := hmost m hm; have := hlimit m hm; omega⟩
      · rintro ⟨hset, hleast, hlimit⟩
        exact ⟨w.length, hleast, fun m hm => by have := hlimit m hm; omega, hset, rfl⟩
    · rw [hall] at hmost
      refine iff_of_false (by simp [Flow.Spells, CharSet.none, CharSet.has]) ?_
      rintro ⟨-, hleast, hlimit⟩
      exact hmost fun m hm => Nat.le_trans hleast (hlimit m hm)
  | seq p q ihp ihq => simp only [flow, Flow.Spells, Spells, ihp, ihq]
  | alt p q ihp ihq => simp only [flow, Flow.Spells, Spells, ihp, ihq]
  | rep p least most greedy ih =>
    have hp : p.flow.Spells = p.Spells := by
      funext last w next
      exact propext (ih last w next)
    rw [flow, Flow.spells_repeated, hp]
    exact Iff.rfl
  | look b => exact Iff.rfl
  | group index p ih => exact ih last w next

theorem indices_flow (p : Pattern) : p.flow.indices ⊆ p.indices := by
  induction p with
  | many set least most greedy =>
    rw [flow]
    split_ifs
    · exact Flow.indices_repeated
    · exact fun _ h => h
  | seq p q ihp ihq => exact List.append_subset.2 ⟨List.subset_append_of_subset_left _ ihp, List.subset_append_of_subset_right _ ihq⟩
  | alt p q ihp ihq => exact List.append_subset.2 ⟨List.subset_append_of_subset_left _ ihp, List.subset_append_of_subset_right _ ihq⟩
  | rep p least most greedy ih => exact List.Subset.trans Flow.indices_repeated ih
  | group index p ih => exact List.cons_subset_cons _ ih
  | _ => exact fun _ h => h

end Flow

section Ends

variable {P : Option Char → Text → Option Char → Prop} {f : Cursor → List Cursor} {cur next : Cursor}
  {w r : Text} {n bound : Nat} {greedy : Bool}

/-- Every end that `f` lists is that of a piece with `P`, and of the groups in it the numbers are known. -/
def EndsSound (P : Option Char → Text → Option Char → Prop) (indices : List Nat) (f : Cursor → List Cursor) : Prop :=
  ∀ cur, ∀ next ∈ f cur, ∃ w, cur.Leads indices w next ∧ P cur.last w next.rest.head?

/-- Every piece with `P` has its end listed by `f`, if it stands among the last `bound` characters. -/
def EndsComplete (P : Option Char → Text → Option Char → Prop) (bound : Nat) (f : Cursor → List Cursor) : Prop :=
  ∀ cur w r, cur.rest = w ++ r → cur.rest.length ≤ bound → P cur.last w r.head? →
    ∃ next ∈ f cur, cur.Reaches w next

namespace EndsSound

variable {I : List Nat}

theorem cons (hf : EndsSound P I f) {mid : Cursor} (hmid : mid ∈ f cur) (hlead : mid.Leads I w next)
    (h : Repeats P n mid.last w next.rest.head?) :
    ∃ w, cur.Leads I w next ∧ Repeats P (n + 1) cur.last w next.rest.head? := by
  obtain ⟨u, hu, hpu⟩ := hf cur mid hmid
  exact ⟨u ++ w, hu.trans hlead, u, w, rfl, hlead.head? ▸ hpu, hu.last ▸ h⟩

theorem times (hf : EndsSound P I f) : EndsSound (Repeats P n) I (timesEnds f n) := by
  induction n with
  | zero => intro cur next h; cases List.mem_singleton.1 h; exact ⟨[], .refl _, rfl⟩
  | succ n ih =>
    intro cur next h
    obtain ⟨mid, hmid, hnext⟩ := List.mem_flatMap.1 h
    obtain ⟨w, hw, hpw⟩ := ih mid next hnext
    exact hf.cons hmid hw hpw

theorem atMost (hf : EndsSound P I f) :
    EndsSound (fun last w next => ∃ k ≤ n, Repeats P k last w next) I (atMostEnds f greedy n) := by
  induction n with
  | zero => intro cur next h; cases List.mem_singleton.1 h; exact ⟨[], .refl _, 0, Nat.le_refl 0, rfl⟩
  | succ n ih =>
    intro cur next h
    rcases mem_preferEnds.1 h with h | rfl
    · obtain ⟨mid, hmid, hnext⟩ := List.mem_flatMap.1 h
      obtain ⟨w, hw, k, hk, hpw⟩ := ih mid next hnext
      obtain ⟨w, hw, hpw⟩ := hf.cons hmid hw hpw
      exact ⟨w, hw, k + 1, by omega, hpw⟩
    · exact ⟨[], .refl _, 0, by omega, rfl⟩

end EndsSound

namespace EndsComplete

theorem cons (hf : EndsComplete P bound f) (hr : cur.rest = w ++ r) (hlen : cur.rest.length ≤ bound)
    (h : Repeats P (n + 1) cur.last w r.head?) :
    ∃ u v mid, w = u ++ v ∧ mid ∈ f cur ∧ cur.Reaches u mid ∧ mid.rest = v ++ r ∧ Repeats P n mid.last v r.head? := by
  obtain ⟨u, v, rfl, hu, hv⟩ := h
  rw [List.append_assoc] at hr
  obtain ⟨mid, hmid, hreach⟩ := hf cur u (v ++ r) hr hlen (by rwa [List.head?_append])
  exact ⟨u, v, mid, rfl, hmid, hreach, hreach.rest_eq hr, hreach.last ▸ hv⟩

theorem times (hf : EndsComplete P bound f) : EndsComplete (Repeats P n) bound (timesEnds f n) := by
  induction n with
  | zero => rintro cur w r - - rfl; exact ⟨cur, List.mem_singleton_self _, .refl _⟩
  | succ n ih =>
    intro cur w r hr hlen h
    obtain ⟨u, v, mid, rfl, hmid, hu, hv, hrep⟩ := hf.cons hr hlen h
    obtain ⟨next, hnext, hreach⟩ := ih mid v r hv (by have := hu.length_le hlen; omega) hrep
    exact ⟨next, List.mem_flatMap.2 ⟨mid, hmid, hnext⟩, hu.trans hreach⟩

theorem atMost (hf : EndsComplete P bound f) :
    EndsComplete (fun last w next => ∃ k ≤ n, Repeats P k last w next) bound (atMostEnds f greedy n) := by
  induction n with
  | zero =>
    rintro cur w r - - ⟨k, hk, h⟩
    obtain rfl : k = 0 := by omega
    obtain rfl : w = [] := h
    exact ⟨cur, List.mem_singleton_self _, .refl _⟩
  | succ n ih =>
    rintro cur w r hr hlen ⟨_ | k, hk, h⟩
    · obtain rfl : w = [] := h
      exact ⟨cur, mem_preferEnds.2 (.inr rfl), .refl _⟩
    · obtain ⟨u, v, mid, rfl, hmid, hu, hv, hrep⟩ := hf.cons hr hlen h
      obtain ⟨next, hnext, hreach⟩ := ih mid v r hv (by have := hu.length_le hlen; omega) ⟨k, by omega, hrep⟩
      exact ⟨next, mem_preferEnds.2 (.inl (List.mem_flatMap.2 ⟨mid, hmid, hnext⟩)), hu.trans hreach⟩

end EndsComplete

/-- An end that the matcher tries is that of a spelled piece. -/
theorem leads_of_mem_ends {p : Pattern} (h : next ∈ p.ends bound cur) :
    ∃ w, cur.Leads p.indices w next ∧ p.Spells cur.last w next.rest.head? := by
  induction p generalizing cur next with
  | empty => cases List.mem_singleton.1 h; exact ⟨[], .refl _, rfl⟩
  | lit s =>
    have hs : cur.skip? s = some next := by simpa [ends] using h
    exact ⟨s, (Cursor.skip?_eq_some hs).leads (Cursor.skip?_groups hs), rfl⟩
  | one set =>
    simp only [ends] at h
    split at h
    · cases h
    · next c rest hc =>
      split_ifs at h with hset
      · cases List.mem_singleton.1 h
        exact ⟨[c], (Cursor.Reaches.advance hc).leads rfl, c, rfl, hset⟩
      · cases h
  | many set least most greedy =>
    have h' : next ∈ (Cursor.reach set cur.offset cur.last cur.groups most cur.rest).drop least := by
      simp only [ends] at h
      split_ifs at h
      · exact List.mem_reverse.1 h
      · exact h
    obtain ⟨w, r, hr, hset, hl, hm, rfl⟩ := Cursor.mem_drop_reach.1 h'
    exact ⟨w, Cursor.Reaches.leads ⟨hr, rfl, rfl⟩ rfl, hset, hl, hm⟩
  | seq p q ihp ihq =>
    obtain ⟨mid, hmid, hnext⟩ := List.mem_flatMap.1 h
    obtain ⟨u, hu, hpu⟩ := ihp hmid
    obtain ⟨v, hv, hqv⟩ := ihq hnext
    exact ⟨u ++ v, (hu.mono (List.subset_append_left _ _)).trans (hv.mono (List.subset_append_right _ _)), u, v, rfl,
      hv.head? ▸ hpu, hu.last ▸ hqv⟩
  | alt p q ihp ihq =>
    rcases List.mem_append.1 h with h | h
    · obtain ⟨w, hw, hp⟩ := ihp h; exact ⟨w, hw.mono (List.subset_append_left _ _), .inl hp⟩
    · obtain ⟨w, hw, hq⟩ := ihq h; exact ⟨w, hw.mono (List.subset_append_right _ _), .inr hq⟩
  | rep p least most greedy ih =>
    cases most with
    | none =>
      obtain ⟨walk, hwalk, rfl⟩ := List.mem_map.1 h
      obtain ⟨w, hw, hspells⟩ := Flow.mem_ends hwalk
      rw [Flow.spells_repeated, spells_flow] at hspells
      exact ⟨w, hw.mono (List.Subset.trans Flow.indices_repeated (indices_flow p)), hspells⟩
    | some m =>
      have hf : EndsSound p.Spells p.indices (p.ends bound) := fun _ _ h => ih h
      obtain ⟨mid, hmid, hnext⟩ := List.mem_flatMap.1 h
      obtain ⟨u, hu, hpu⟩ := hf.times cur mid hmid
      obtain ⟨v, hv, k, hk, hpv⟩ := hf.atMost mid next hnext
      refine ⟨u ++ v, hu.trans hv, least + k, by omega, fun m' hm' => ?_, ?_⟩
      · cases hm'; omega
      · exact Repeats.add_iff.2 ⟨u, v, rfl, hv.head? ▸ hpu, hu.last ▸ hpv⟩
  | look b =>
    simp only [ends] at h
    split_ifs at h with hb
    · cases List.mem_singleton.1 h; exact ⟨[], .refl _, rfl, hb⟩
    · cases h
  | group index p ih =>
    obtain ⟨mid, hmid, rfl⟩ := List.mem_map.1 h
    obtain ⟨w, hw, hp⟩ := ih hmid
    exact ⟨w, hw.group index, hp⟩

theorem mem_ends {p : Pattern} (h : next ∈ p.ends bound cur) :
    ∃ w, cur.Reaches w next ∧ p.Spells cur.last w next.rest.head? := by
  obtain ⟨w, hw, hspells⟩ := leads_of_mem_ends h
  exact ⟨w, hw.toReaches, hspells⟩

theorem lookup_groups {p : Pattern} {i : Nat} (hi : i ∉ p.indices) (h : next ∈ p.ends bound cur) :
    next.groups.lookup i = cur.groups.lookup i := by
  obtain ⟨w, hw, -⟩ := leads_of_mem_ends h
  exact hw.lookup_of_not_mem hi

/-- The end of a spelled piece is tried. -/
theorem Spells.exists_mem_ends {p : Pattern} (h : p.Spells cur.last w r.head?) (hr : cur.rest = w ++ r)
    (hlen : cur.rest.length ≤ bound) : ∃ next ∈ p.ends bound cur, cur.Reaches w next := by
  induction p generalizing cur w r with
  | empty => cases h; exact ⟨cur, List.mem_singleton_self _, .refl _⟩
  | lit s =>
    obtain rfl : w = s := h
    obtain ⟨next, hnext⟩ := Cursor.exists_skip? hr
    exact ⟨next, by simpa [ends] using hnext, Cursor.skip?_eq_some hnext⟩
  | one set =>
    obtain ⟨c, rfl, hset⟩ := h
    exact ⟨cur.advance c r, by simp [ends, hr, hset], .advance hr⟩
  | many set least most greedy =>
    obtain ⟨hset, hl, hm⟩ := h
    let stop : Cursor := ⟨cur.offset + size w, w.getLast?.or cur.last, r, cur.groups⟩
    have hstop : stop ∈ (Cursor.reach set cur.offset cur.last cur.groups most cur.rest).drop least :=
      Cursor.mem_drop_reach.2 ⟨w, r, hr, hset, hl, hm, rfl⟩
    refine ⟨stop, ?_, ⟨hr, rfl, rfl⟩⟩
    simp only [ends]
    split_ifs
    · exact List.mem_reverse.2 hstop
    · exact hstop
  | seq p q ihp ihq =>
    obtain ⟨u, v, rfl, hu, hv⟩ := h
    rw [List.append_assoc] at hr
    obtain ⟨mid, hmid, hreach⟩ := ihp (by rwa [List.head?_append]) hr hlen
    obtain ⟨next, hnext, hreach'⟩ := ihq (hreach.last ▸ hv) (hreach.rest_eq hr)
      (by have := hreach.length_le hlen; omega)
    exact ⟨next, List.mem_flatMap.2 ⟨mid, hmid, hnext⟩, hreach.trans hreach'⟩
  | alt p q ihp ihq =>
    rcases h with h | h
    · obtain ⟨next, hnext, hreach⟩ := ihp h hr hlen; exact ⟨next, List.mem_append_left _ hnext, hreach⟩
    · obtain ⟨next, hnext, hreach⟩ := ihq h hr hlen; exact ⟨next, List.mem_append_right _ hnext, hreach⟩
  | rep p least most greedy ih =>
    cases most with
    | none =>
      have hflow : (p.flow.repeated greedy least none).Spells cur.last w r.head? := by
        rw [Flow.spells_repeated, spells_flow]
        exact h
      obtain ⟨next, hnext, hreach⟩ : ∃ next ∈ (p.flow.repeated greedy least none).ends bound 0 ⟨cur, []⟩,
        cur.Reaches w next.cur := hflow.exists_mem_ends hr hlen
      exact ⟨next.cur, List.mem_map_of_mem hnext, hreach⟩
    | some m =>
      have hf : EndsComplete p.Spells bound (p.ends bound) := fun _ _ _ hr hlen h => ih h hr hlen
      obtain ⟨n, hn, hmost, h⟩ := h
      obtain ⟨k, rfl⟩ : ∃ k, n = least + k := ⟨n - least, by omega⟩
      obtain ⟨u, v, rfl, hu, hv⟩ := Repeats.add_iff.1 h
      rw [List.append_assoc] at hr
      obtain ⟨mid, hmid, hreach⟩ := hf.times cur u (v ++ r) hr hlen (by rwa [List.head?_append])
      have hlen' : mid.rest.length ≤ bound := by have := hreach.length_le hlen; omega
      have hv' : Repeats p.Spells k mid.last v r.head? := hreach.last ▸ hv
      have hk : k ≤ m - least := by have := hmost m rfl; omega
      obtain ⟨next, hnext, hreach'⟩ := hf.atMost mid v r (hreach.rest_eq hr) hlen' ⟨k, hk, hv'⟩
      exact ⟨next, List.mem_flatMap.2 ⟨mid, hmid, hnext⟩, hreach.trans hreach'⟩
  | look b => obtain ⟨rfl, hb⟩ := h; exact ⟨cur, by simp [ends, hr, hb], .refl _⟩
  | group index p ih =>
    obtain ⟨next, hnext, hreach⟩ := ih h hr hlen
    exact ⟨_, List.mem_map.2 ⟨next, hnext, rfl⟩, hreach.groups _⟩

-- an empty first branch does not end the loop, for the way back to its fork is given up and the second is tried
example : ((rep (alt (manyOf (.chars ['a'])) (lit ['b'])) 0 none true).find? ['a', 'b']).map Match.span =
    some ⟨0, 2⟩ := by decide

theorem Spells.append {p q : Pattern} {last next : Option Char} {u v : Text} (hu : p.Spells last u (v.head?.or next))
    (hv : q.Spells (u.getLast?.or last) v next) : (p ++ q).Spells last (u ++ v) next := ⟨u, v, rfl, hu, hv⟩

theorem mem_ends_append {p q : Pattern} :
    next ∈ (p ++ q).ends bound cur ↔ ∃ mid ∈ p.ends bound cur, next ∈ q.ends bound mid := List.mem_flatMap

end Ends

end Pattern

end HandlerMigration
