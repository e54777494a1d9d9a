import HandlerMigration.Proofs.Search

/-!
# What the pieces of a pattern have in common

The text that every piece starts with, the character it ends with, texts that it holds and characters that
it does not and, for a pattern whose pieces differ only in blanks and quotes, the finitely many texts that
remain without them (`Spells.condense_mem`). All of it is computed from the pattern, so that questions about
how pieces can meet become finite checks. What is reported for a group is a piece of the pattern inside it
(`exists_part`).
-/

namespace HandlerMigration

namespace Text

variable {c : Char} {t u : Text}

/-- A text without blanks, and with single quotes only. -/
def condense (t : Text) : Text := (t.filter fun c => !isBlank c).map fun c => if c = '"' then '\'' else c

@[simp] theorem condense_append (t u : Text) : condense (t ++ u) = condense t ++ condense u := by
  simp [condense]

theorem mem_condense (hc : c ∈ t) (hb : isBlank c = false) (hq : c ≠ '"') : c ∈ condense t :=
  List.mem_map.2 ⟨c, List.mem_filter.2 ⟨hc, by simp [hb]⟩, if_neg hq⟩

theorem condense_eq_nil_of_blank (h : ∀ c ∈ t, isBlank c = true) : condense t = [] := by
  simpa [condense] using h

theorem condense_cons (hb : isBlank c = false) (hq : c ≠ '"') : condense (c :: t) = c :: condense t := by
  simp [condense, hb, hq]

theorem condense_isPrefix (h : t <+: u) : condense t <+: condense u := by
  obtain ⟨r, rfl⟩ := h
  exact ⟨condense r, (condense_append t r).symm⟩

end Text

namespace Pattern

open Text

variable {p : Pattern} {last next : Option Char} {w : Text}

/-- A fixed text that every piece starts with. -/
def leading : Pattern → Text
  | lit s => s
  | seq p _ => p.leading
  | group _ p => p.leading
  | _ => []

theorem Spells.leading_isPrefix (h : p.Spells last w next) : p.leading <+: w := by
  induction p generalizing last w next with
  | lit s => obtain rfl : w = s := h; exact List.prefix_rfl
  | seq p q ihp _ =>
    obtain ⟨u, v, rfl, hu, -⟩ := h
    exact (ihp hu).trans (List.prefix_append _ _)
  | group i p ih => exact ih h
  | _ => exact List.nil_prefix

theorem solid_of_leading (hp : p.leading ≠ []) : p.Solid := by
  rintro last w next h rfl
  exact hp (List.prefix_nil.1 h.leading_isPrefix)

/-- A piece with a fixed start does not depend on what is in front of it. -/
theorem Spells.change_last (h : p.Spells last w next) (hp : p.leading ≠ []) (last' : Option Char) :
    p.Spells last' w next := by
  induction p generalizing last w next with
  | lit s => exact h
  | seq p q ihp _ =>
    obtain ⟨u, v, rfl, hu, hv⟩ := h
    refine ⟨u, v, rfl, ihp hu hp, ?_⟩
    have hne : u ≠ [] := fun h0 => hp (List.prefix_nil.1 (h0 ▸ hu.leading_isPrefix))
    rw [List.getLast?_eq_some_getLast hne, Option.some_or] at hv ⊢
    exact hv
  | group i p ih => exact ih h hp
  | _ => exact absurd rfl hp

/-- Whether it can be seen from the pattern that it spells no empty piece. -/
def isSolid : Pattern → Bool
  | lit s => !s.isEmpty
  | one _ => true
  | many _ least _ _ => decide (0 < least)
  | seq p q => p.isSolid || q.isSolid
  | alt p q => p.isSolid && q.isSolid
  | group _ p => p.isSolid
  | _ => false

theorem solid_of_isSolid (hp : p.isSolid = true) : p.Solid := by
  rintro last w next h rfl
  induction p generalizing last next with
  | lit s => obtain rfl : [] = s := h; cases hp
  | one set => obtain ⟨c, hc, -⟩ := h; cases hc
  | many set least most greedy =>
    have : least ≤ 0 := h.2.1
    simp only [isSolid, decide_eq_true_eq] at hp
    omega
  | seq p q ihp ihq =>
    obtain ⟨u, v, huv, hu, hv⟩ := h
    obtain ⟨rfl, rfl⟩ := List.append_eq_nil_iff.1 huv.symm
    rcases Bool.or_eq_true_iff.1 hp with hp | hp
    · exact ihp hp _ _ hu
    · exact ihq hp _ _ hv
  | alt p q ihp ihq =>
    obtain ⟨hp, hq⟩ := Bool.and_eq_true_iff.1 hp
    exact h.elim (ihp hp _ _) (ihq hq _ _)
  | group i p ih => exact ih hp _ _ h
  | _ => cases hp

/-- Fixed texts that every piece holds. -/
def fixedParts : Pattern → List Text
  | lit s => [s]
  | seq p q => p.fixedParts ++ q.fixedParts
  | group _ p => p.fixedParts
  | _ => []

theorem Spells.infix_of_mem_fixedParts (h : p.Spells last w next) {s : Text} (hs : s ∈ p.fixedParts) : s <:+: w := by
  induction p generalizing last w next with
  | lit s' =>
    obtain rfl : w = s' := h
    obtain rfl := List.mem_singleton.1 hs
    exact List.infix_rfl
  | seq p q ihp ihq =>
    obtain ⟨u, v, rfl, hu, hv⟩ := h
    rcases List.mem_append.1 hs with hs | hs
    · exact (ihp hu hs).trans (List.prefix_append u v).isInfix
    · exact (ihq hv hs).trans (List.suffix_append u v).isInfix
  | group i p ih => exact ih h hs
  | _ => cases hs

/-- Whether it can be seen from the pattern that no piece holds a character. -/
def avoids (c : Char) : Pattern → Bool
  | empty => true
  | lit s => decide (c ∉ s)
  | one set => !set.has c
  | many set _ _ _ => !set.has c
  | seq p q => p.avoids c && q.avoids c
  | alt p q => p.avoids c && q.avoids c
  | rep _ _ _ _ => false
  | look _ => true
  | group _ p => p.avoids c

theorem Spells.not_mem_of_avoids {c : Char} (h : p.Spells last w next) (hp : p.avoids c = true) : c ∉ w := by
  induction p generalizing last w next with
  | empty => obtain rfl : w = [] := h; simp
  | lit s => obtain rfl : w = s := h; exact of_decide_eq_true hp
  | one set =>
    obtain ⟨d, rfl, hd⟩ := h
    intro hc
    obtain rfl := List.mem_singleton.1 hc
    simp [avoids, hd] at hp
  | many set least most greedy =>
    intro hc
    have hset := h.1 c hc
    simp [avoids, hset] at hp
  | seq p q ihp ihq =>
    obtain ⟨u, v, rfl, hu, hv⟩ := h
    obtain ⟨hp, hq⟩ := Bool.and_eq_true_iff.1 hp
    intro hc
    rcases List.mem_append.1 hc with hc | hc
    · exact ihp hu hp hc
    · exact ihq hv hq hc
  | alt p q ihp ihq =>
    obtain ⟨hp, hq⟩ := Bool.and_eq_true_iff.1 hp
    rcases h with h | h
    · exact ihp h hp
    · exact ihq h hq
  | rep p least most greedy => cases hp
  | look b => obtain ⟨rfl, -⟩ := h; simp
  | group i p ih => exact ih h hp

/-- Whether it can be seen from the pattern that every piece starts with a character and has it nowhere else. -/
def startsOnce (c : Char) : Pattern → Bool
  | lit (d :: s) => d == c && decide (c ∉ s)
  | seq p q => p.startsOnce c && q.avoids c
  | group _ p => p.startsOnce c
  | _ => false

theorem Spells.exists_cons {c : Char} (h : p.Spells last w next) (hp : p.startsOnce c = true) :
    ∃ s, w = c :: s ∧ c ∉ s := by
  fun_induction startsOnce c p generalizing last w next with
  | case1 d s =>
    obtain rfl : w = d :: s := h
    obtain ⟨hd, hs⟩ := Bool.and_eq_true_iff.1 hp
    exact ⟨s, by rw [beq_iff_eq.1 hd], of_decide_eq_true hs⟩
  | case2 p q ih =>
    obtain ⟨hp, hq⟩ := Bool.and_eq_true_iff.1 hp
    obtain ⟨u, v, rfl, hu, hv⟩ := h
    obtain ⟨s, rfl, hs⟩ := ih hu hp
    exact ⟨s ++ v, rfl, List.not_mem_append hs (hv.not_mem_of_avoids hq)⟩
  | case3 i p ih => exact ih h hp
  | case4 => cases hp

/-- The character that every piece ends with, if the pattern fixes one. -/
def trailing : Pattern → Option Char
  | lit s => s.getLast?
  | seq p (look _) => p.trailing
  | seq _ q => q.trailing
  | group _ p => p.trailing
  | _ => none

theorem Spells.getLast?_eq {c : Char} (h : p.Spells last w next) (hp : p.trailing = some c) :
    w.getLast? = some c := by
  fun_induction trailing p generalizing last w next with
  | case1 s => obtain rfl : w = s := h; exact hp
  | case2 p b ih =>
    obtain ⟨u, v, rfl, hu, rfl, -⟩ := h
    rw [List.append_nil]
    exact ih hu hp
  | case3 p q hq ih =>
    obtain ⟨u, v, rfl, -, hv⟩ := h
    rw [List.getLast?_append, ih hv hp, Option.some_or]
  | case4 i p ih => exact ih h hp
  | case5 => cases hp

/-- The condensed pieces, for a pattern of fixed texts, single characters and blanks. -/
def forms? : Pattern → Option (List Text)
  | empty => some [[]]
  | lit s => some [condense s]
  | one (.chars cs) => some (cs.map fun c => condense [c]).eraseDups
  | many .blank _ _ _ => some [[]]
  | many (.chars cs) _ _ _ => if cs.all isBlank then some [[]] else none
  | seq p q => p.forms?.bind fun us => q.forms?.map fun vs => us.flatMap fun u => vs.map (u ++ ·)
  | alt p q => p.forms?.bind fun us => q.forms?.map (us ++ ·)
  | look _ => some [[]]
  | group _ p => p.forms?
  | _ => none

theorem Spells.condense_mem {fs : List Text} (h : p.Spells last w next) (hp : p.forms? = some fs) :
    condense w ∈ fs := by
  fun_induction forms? p generalizing last w next fs with
  | case1 => cases h; cases hp; exact List.mem_singleton_self _
  | case2 s => cases h; cases hp; exact List.mem_singleton_self _
  | case3 cs =>
    obtain ⟨c, rfl, hc⟩ := h
    cases hp
    exact List.mem_eraseDups.2 (List.mem_map.2 ⟨c, by simpa [CharSet.has] using hc, rfl⟩)
  | case4 =>
    obtain ⟨hset, -⟩ := h
    cases hp
    exact List.mem_singleton.2 (condense_eq_nil_of_blank hset)
  | case5 cs _ _ _ hcs =>
    obtain ⟨hset, -⟩ := h
    cases hp
    refine List.mem_singleton.2 (condense_eq_nil_of_blank fun c hc => List.all_eq_true.1 hcs c ?_)
    simpa [CharSet.has] using hset c hc
  | case6 => cases hp
  | case7 p q ihp ihq =>
    obtain ⟨u, v, rfl, hu, hv⟩ := h
    obtain ⟨us, hus, hp⟩ := Option.bind_eq_some_iff.1 hp
    obtain ⟨vs, hvs, rfl⟩ := Option.map_eq_some_iff.1 hp
    rw [condense_append]
    exact List.mem_flatMap.2 ⟨_, ihp hu hus, List.mem_map.2 ⟨_, ihq hv hvs, rfl⟩⟩
  | case8 p q ihp ihq =>
    obtain ⟨us, hus, hp⟩ := Option.bind_eq_some_iff.1 hp
    obtain ⟨vs, hvs, rfl⟩ := Option.map_eq_some_iff.1 hp
    rcases h with h | h
    · exact List.mem_append_left _ (ihp h hus)
    · exact List.mem_append_right _ (ihq h hvs)
  | case9 b =>
    obtain ⟨rfl, -⟩ := h
    cases hp
    exact List.mem_singleton_self _
  | case10 i p ih => exact ih h hp
  | case11 => cases hp

/-- Condensed texts with one of which a piece starts, if what follows the piece starts with one of the given
texts. -/
def openings : Pattern → List Text → List Text
  | empty, ks => ks
  | lit s, ks => ks.map (condense s ++ ·)
  | many .blank _ _ _, ks => ks
  | many (.chars cs) _ _ _, ks => if cs.all isBlank then ks else [[]]
  | seq p q, ks => p.openings (q.openings ks)
  | alt p q, ks => p.openings ks ++ q.openings ks
  | look _, ks => ks
  | group _ p, ks => p.openings ks
  | _, _ => [[]]

theorem Spells.exists_opening {ks : List Text} {r : Text} (h : p.Spells last w next)
    (hks : ∃ k ∈ ks, k <+: condense r) : ∃ o ∈ p.openings ks, o <+: condense (w ++ r) := by
  fun_induction openings p ks generalizing last w next r with
  | case1 => obtain rfl : w = [] := h; exact hks
  | case2 s ks =>
    obtain rfl : w = s := h
    obtain ⟨k, hk, hr⟩ := hks
    refine ⟨_, List.mem_map_of_mem hk, ?_⟩
    rw [condense_append]
    exact (List.prefix_append_right_inj _).2 hr
  | case3 =>
    rw [condense_append, condense_eq_nil_of_blank h.1]
    exact hks
  | case4 ks cs _ _ _ hcs =>
    have hblank : ∀ c ∈ w, isBlank c = true := fun c hc =>
      List.all_eq_true.1 hcs c (by simpa [CharSet.has] using h.1 c hc)
    rw [condense_append, condense_eq_nil_of_blank hblank]
    exact hks
  | case6 ks p q ihq ihp =>
    obtain ⟨u, v, rfl, hu, hv⟩ := h
    rw [List.append_assoc]
    exact ihp hu (ihq hv hks)
  | case7 ks p q ihp ihq =>
    rcases h with h | h
    · obtain ⟨o, ho, hin⟩ := ihp h hks
      exact ⟨o, List.mem_append_left _ ho, hin⟩
    · obtain ⟨o, ho, hin⟩ := ihq h hks
      exact ⟨o, List.mem_append_right _ ho, hin⟩
  | case8 => obtain ⟨rfl, -⟩ := h; exact hks
  | case9 ks i p ih => exact ih h hks
  | _ => exact ⟨[], List.mem_singleton_self _, List.nil_prefix⟩

/-! ### Groups -/

/-- The pattern of the group with a number, if there is one such group and it is always met. -/
def part? (i : Nat) : Pattern → Option Pattern
  | seq p q => if i ∈ q.indices then if i ∈ p.indices then none else q.part? i else p.part? i
  | group j p => if i = j then some p else none
  | _ => none

/-- The span that is reported for a group is that of a piece of its pattern. -/
theorem exists_part {q : Pattern} {i bound : Nat} {cur stop : Cursor} (hq : p.part? i = some q)
    (h : stop ∈ p.ends bound cur) :
    ∃ x w y, cur.rest = x ++ (w ++ (y ++ stop.rest)) ∧
      q.Spells (x.getLast?.or cur.last) w (y ++ stop.rest).head? ∧
      stop.groups.lookup i = some ⟨cur.offset + size x, cur.offset + size (x ++ w)⟩ := by
  induction p generalizing cur stop with
  | seq p₁ p₂ ih₁ ih₂ =>
    obtain ⟨mid, hmid, hstop⟩ := mem_ends_append.1 h
    obtain ⟨u, hu, -⟩ := mem_ends hmid
    obtain ⟨v, hv, -⟩ := mem_ends hstop
    rw [part?] at hq
    split_ifs at hq with h₂ h₁
    · obtain ⟨x, w, y, hrest, hspells, hlookup⟩ := ih₂ hq hstop
      refine ⟨u ++ x, w, y, ?_, ?_, ?_⟩
      · rw [hu.rest, hrest, List.append_assoc]
      · rwa [List.getLast?_append, Option.or_assoc, ← hu.last]
      · rw [hlookup, hu.offset]
        simp only [size_append, Nat.add_assoc]
    · -- the group is in the first part, and the second one leaves its span alone
      obtain ⟨x, w, y, hrest, hspells, hlookup⟩ := ih₁ hq hmid
      refine ⟨x, w, y ++ v, ?_, ?_, ?_⟩
      · rw [hrest, hv.rest, List.append_assoc]
      · rwa [List.append_assoc, ← hv.rest]
      · rw [lookup_groups h₂ hstop, hlookup]
  | group j p ih =>
    obtain ⟨mid, hmid, rfl⟩ := List.mem_map.1 h
    rw [part?] at hq
    split_ifs at hq with hij
    cases hq
    subst hij
    obtain ⟨w, hw, hspells⟩ := mem_ends hmid
    exact ⟨[], w, [], by simpa using hw.rest, hspells, by simp [List.lookup_cons_self, hw.offset]⟩
  | _ => cases hq

end Pattern

end HandlerMigration
