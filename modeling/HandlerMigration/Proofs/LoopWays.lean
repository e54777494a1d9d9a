import HandlerMigration.Proofs.Loops
import Mathlib.Data.List.Duplicate

/-!
# Ways through a loop

The matcher gives up a way that comes to a fork again, but it misses no piece. Main statement: the end of every
spelled piece is tried (`Flow.Spells.exists_mem_ends`).

A way is told by the forks that it passes and the places where it does (`Flow.Takes`). If two ways pass a fork
at the same place, the front of one and the back of the other make a way (`splices_takes`). So a way that
comes to a fork again can be cut short, a shortest way does not (`Takes.exists_nodup`), and the matcher
follows it to its end (`covers_takes`).
-/

namespace HandlerMigration

open Text

/-! ### Places -/

/-- A place in a text. -/
structure Place where
  last : Option Char
  rest : Text

def Cursor.place (cur : Cursor) : Place := ⟨cur.last, cur.rest⟩

namespace Place

variable {a b : Place} {u v w : Text}

/-- The piece stands between the two places. -/
structure Reads (a : Place) (w : Text) (b : Place) : Prop where
  rest : a.rest = w ++ b.rest
  last : b.last = w.getLast?.or a.last

namespace Reads

theorem refl (a : Place) : a.Reads [] a := ⟨rfl, rfl⟩

theorem trans {mid : Place} (h : a.Reads u mid) (h' : mid.Reads v b) : a.Reads (u ++ v) b :=
  ⟨by rw [h.rest, h'.rest, List.append_assoc], by rw [h'.last, h.last, List.getLast?_append, Option.or_assoc]⟩

theorem split (h : a.Reads (u ++ v) b) : ∃ mid, a.Reads u mid ∧ mid.Reads v b := by
  refine ⟨⟨u.getLast?.or a.last, v ++ b.rest⟩, ⟨?_, rfl⟩, rfl, ?_⟩
  · rw [h.rest, List.append_assoc]
  · rw [h.last, List.getLast?_append, Option.or_assoc]

theorem head? (h : a.Reads w b) : a.rest.head? = w.head?.or b.rest.head? := by
  rw [h.rest, List.head?_append]

theorem length_le (h : a.Reads w b) : b.rest.length ≤ a.rest.length := by
  rw [h.rest, List.length_append]
  exact Nat.le_add_left _ _

theorem eq_of_nil (h : a.Reads [] b) : b = a := by
  obtain ⟨last, rest⟩ := b
  obtain ⟨hrest, hlast⟩ := h
  exact congrArg₂ Place.mk hlast hrest.symm

theorem eq_of_length_le (h : a.Reads w b) (hlen : a.rest.length ≤ b.rest.length) : b = a := by
  obtain rfl : w = [] := by
    rw [h.rest, List.length_append] at hlen
    exact List.length_eq_zero_iff.1 (by omega)
  exact h.eq_of_nil

theorem place_eq {cur next : Cursor} (h : cur.place.Reads w b) (hreach : cur.Reaches w next) : next.place = b := by
  have hrest : next.rest = b.rest := hreach.rest_eq h.rest
  have hlast : next.last = b.last := hreach.last.trans h.last.symm
  rw [Cursor.place, hrest, hlast]

end Reads

end Place

open Pattern

namespace Flow

/-! ### Ways -/

/-- The forks that a way passes, each with its place. -/
abbrev Trail := List (Nat × Place)

/-- A way from the fork of a loop on. -/
inductive Laps (T : Place → Trail → Place → Prop) (fork : Nat) : Place → Trail → Place → Prop where
  | stop (a : Place) : Laps T fork a [(fork, a)] a
  | lap {a mid b : Place} {x y : Trail} : T a x mid → Laps T fork mid y b → Laps T fork a ((fork, a) :: (x ++ y)) b

/-- A way through a flow from one place to another. -/
def Takes : Flow → (fork : Nat) → Place → Trail → Place → Prop
  | lit s, _, a, trail, b => trail = [] ∧ a.Reads s b
  | one set, _, a, trail, b => trail = [] ∧ ∃ c, set.has c ∧ a.Reads [c] b
  | look l, _, a, trail, b => trail = [] ∧ b = a ∧ l.holds a.last a.rest.head?
  | seq f g, fork, a, trail, b =>
    ∃ mid x y, trail = x ++ y ∧ Takes f fork a x mid ∧ Takes g (fork + f.forks) mid y b
  | alt f g, fork, a, trail, b =>
    ∃ x, trail = (fork, a) :: x ∧ (Takes f (fork + 1) a x b ∨ Takes g (fork + 1 + f.forks) a x b)
  | plus f _, fork, a, trail, b =>
    ∃ mid x y, trail = x ++ y ∧ Takes f (fork + 1) a x mid ∧ Laps (Takes f (fork + 1)) fork mid y b
  | star f _, fork, a, trail, b => Laps (Takes f (fork + 1)) fork a trail b
  | group _ f, fork, a, trail, b => Takes f fork a trail b

section Splice

theorem split_at {α : Type} {x y u v : List α} {m : α} (h : u ++ v = x ++ m :: y) :
    (∃ z, u = x ++ m :: z ∧ y = z ++ v) ∨ ∃ z, v = z ++ m :: y ∧ x = u ++ z := by
  rcases List.append_eq_append_iff.1 h with ⟨z, hx, hv⟩ | ⟨z, hu, hz⟩
  · exact .inr ⟨z, hv, hx⟩
  · cases z with
    | nil =>
      rw [List.append_nil] at hu
      exact .inr ⟨[], hz.symm, by rw [hu, List.append_nil]⟩
    | cons n z =>
      rw [List.cons_append, List.cons.injEq] at hz
      obtain ⟨rfl, hy⟩ := hz
      exact .inl ⟨z, hu, hy⟩

variable {T : Place → Trail → Place → Prop} {fork : Nat} {a b a' b' : Place} {x y x' y' : Trail} {m : Nat × Place}

/-- Of two ways through the same fork at the same place, the front of one and the back of the other make a way. -/
def Splices (T : Place → Trail → Place → Prop) : Prop :=
  ∀ ⦃a b a' b' x m y x' y'⦄, T a (x ++ m :: y) b → T a' (x' ++ m :: y') b' → T a (x ++ m :: y') b'

namespace Laps

theorem head_eq (h : Laps T fork a x b) : ∃ y, x = (fork, a) :: y := by
  cases h with
  | stop => exact ⟨_, rfl⟩
  | lap => exact ⟨_, rfl⟩

/-- A way that comes to no fork again takes a character in every turn. -/
theorem cases_of_nodup (h : Laps T fork a x b) (hnodup : x.Nodup) : ∃ y, x = (fork, a) :: y ∧
    ((y = [] ∧ b = a) ∨ ∃ mid u v, y = u ++ v ∧ (T a u mid ∧ mid ≠ a) ∧ Laps T fork mid v b) := by
  cases h with
  | stop => exact ⟨[], rfl, .inl ⟨rfl, rfl⟩⟩
  | lap hturn hrest =>
    refine ⟨_, rfl, .inr ⟨_, _, _, rfl, ⟨hturn, ?_⟩, hrest⟩⟩
    rintro rfl
    obtain ⟨y, rfl⟩ := hrest.head_eq
    exact (List.nodup_cons.1 hnodup).1 (List.mem_append_right _ List.mem_cons_self)

theorem mem_cases (h : Laps T fork a x b) (hm : m ∈ x) : m.1 = fork ∨ ∃ a u b, T a u b ∧ m ∈ u := by
  induction h with
  | stop a => exact .inl (by rw [List.mem_singleton.1 hm])
  | @lap a mid b u v hturn hrest ih =>
    rcases List.mem_cons.1 hm with rfl | hm
    · exact .inl rfl
    · rcases List.mem_append.1 hm with hm | hm
      · exact .inr ⟨a, u, mid, hturn, hm⟩
      · exact ih hm

/-- `m` followed by `y` is the back of a way through a loop to `b`: `m` is the fork of the loop, or it lies in a turn. -/
def Back (T : Place → Trail → Place → Prop) (fork : Nat) (m : Nat × Place) (y : Trail) (b : Place) : Prop :=
  Laps T fork m.2 (m :: y) b ∨ ∃ a x u v mid, y = u ++ v ∧ T a (x ++ m :: u) mid ∧ Laps T fork mid v b

theorem back (h : Laps T fork a (x ++ m :: y) b) : Back T fork m y b := by
  generalize htrail : x ++ m :: y = trail at h
  induction h generalizing x with
  | stop a =>
    obtain ⟨rfl, rfl, rfl⟩ : x = [] ∧ m = (fork, a) ∧ y = [] := by
      cases x <;> simp_all
    exact .inl (.stop a)
  | @lap a mid b u v hturn hrest ih =>
    cases x with
    | nil =>
      cases htrail
      exact .inl (.lap hturn hrest)
    | cons n x =>
      obtain ⟨-, htrail⟩ := List.cons.inj htrail
      rcases split_at htrail.symm with ⟨z, hu, hy⟩ | ⟨z, hv, -⟩
      · exact .inr ⟨a, x, z, v, mid, hy, hu ▸ hturn, hrest⟩
      · exact ih hv.symm

theorem Back.exists_turn (h : Back T fork m y b) (hm : m.1 ≠ fork) :
    ∃ a x u v mid, y = u ++ v ∧ T a (x ++ m :: u) mid ∧ Laps T fork mid v b := by
  rcases h with hlaps | hturn
  · obtain ⟨_, hhead⟩ := hlaps.head_eq
    exact absurd (congrArg Prod.fst (List.cons.inj hhead).1) hm
  · exact hturn

/-- The front of a way through a loop goes on as the back of another one. No turn passes the loop's own fork. -/
theorem splice (hT : Splices T) (hfork : ∀ ⦃a x b⦄, T a x b → ∀ m ∈ x, m.1 ≠ fork) (h : Laps T fork a (x ++ m :: y) b)
    (hback : Back T fork m y' b') : Laps T fork a (x ++ m :: y') b' := by
  -- at the loop's own fork, only a back that starts there goes on
  have hown : ∀ a, m = (fork, a) → Laps T fork a (m :: y') b' := by
    rintro a rfl
    rcases hback with hback | ⟨c, z, u, v, mid, -, hturn, -⟩
    · exact hback
    · exact absurd rfl (hfork hturn _ (List.mem_append_right _ List.mem_cons_self))
  generalize htrail : x ++ m :: y = trail at h
  induction h generalizing x with
  | stop a =>
    obtain ⟨rfl, hm, -⟩ : x = [] ∧ m = (fork, a) ∧ y = [] := by
      cases x <;> simp_all
    exact hown a hm
  | @lap a mid b u v hturn hrest ih =>
    cases x with
    | nil => exact hown a (List.cons.inj htrail).1
    | cons n x =>
      obtain ⟨rfl, hjoin⟩ := List.cons.inj htrail
      rcases split_at hjoin.symm with ⟨z, rfl, -⟩ | ⟨z, hv, rfl⟩
      · have hm := hfork hturn m (List.mem_append_right _ List.mem_cons_self)
        obtain ⟨c, w, u', v', mid', rfl, hturn', hrest'⟩ := hback.exists_turn hm
        have hway := lap (hT hturn hturn') hrest'
        simpa using hway
      · have hway := lap hturn (ih hv.symm)
        simpa using hway

end Laps

theorem Takes.mem_bounds {f : Flow} (h : f.Takes fork a x b) : ∀ m ∈ x, fork ≤ m.1 ∧ m.1 < fork + f.forks := by
  induction f generalizing fork a x b with
  | lit s => obtain ⟨rfl, -⟩ := h; simp
  | one set => obtain ⟨rfl, -⟩ := h; simp
  | look l => obtain ⟨rfl, -⟩ := h; simp
  | seq f g ihf ihg =>
    obtain ⟨mid, u, v, rfl, hu, hv⟩ := h
    intro m hm
    simp only [forks]
    rcases List.mem_append.1 hm with hm | hm
    · have := ihf hu m hm; omega
    · have := ihg hv m hm; omega
  | alt f g ihf ihg =>
    obtain ⟨u, rfl, hu⟩ := h
    intro m hm
    simp only [forks]
    rcases List.mem_cons.1 hm with rfl | hm
    · exact ⟨Nat.le_refl _, by omega⟩
    · rcases hu with hu | hu
      · have := ihf hu m hm; omega
      · have := ihg hu m hm; omega
  | plus f greedy ih =>
    obtain ⟨mid, u, v, rfl, hu, hv⟩ := h
    intro m hm
    simp only [forks]
    rcases List.mem_append.1 hm with hm | hm
    · have := ih hu m hm; omega
    · rcases hv.mem_cases hm with hm | ⟨a, u, b, hturn, hm⟩
      · omega
      · have := ih hturn m hm; omega
  | star f greedy ih =>
    intro m hm
    simp only [forks]
    rcases Laps.mem_cases h hm with hm | ⟨a, u, b, hturn, hm⟩
    · omega
    · have := ih hturn m hm; omega
  | group index f ih => exact ih h

theorem Takes.bounds {f : Flow} (h : f.Takes fork a (x ++ m :: y) b) : fork ≤ m.1 ∧ m.1 < fork + f.forks :=
  h.mem_bounds m (List.mem_append_right _ List.mem_cons_self)

theorem splices_takes (f : Flow) (fork : Nat) : Splices (f.Takes fork) := by
  induction f generalizing fork with
  | lit s => intro a b a' b' x m y x' y' h; exact absurd h.1 (by simp)
  | one set => intro a b a' b' x m y x' y' h; exact absurd h.1 (by simp)
  | look l => intro a b a' b' x m y x' y' h; exact absurd h.1 (by simp)
  | seq f g ihf ihg =>
    rintro a b a' b' x m y x' y' ⟨mid, u, v, huv, hu, hv⟩ ⟨mid', u', v', huv', hu', hv'⟩
    -- both ways pass `m` in the same part, which its number tells
    rcases split_at huv.symm with ⟨z, rfl, -⟩ | ⟨z, rfl, rfl⟩ <;>
      rcases split_at huv'.symm with ⟨z', rfl, hy⟩ | ⟨z', rfl, -⟩
    · exact ⟨mid', x ++ m :: z', v', by simp [hy], ihf _ hu hu', hv'⟩
    · have := hu.bounds; have := hv'.bounds; omega
    · have := hv.bounds; have := hu'.bounds; omega
    · exact ⟨mid, u, z ++ m :: y', by simp, hu, ihg _ hv hv'⟩
  | alt f g ihf ihg =>
    rintro a b a' b' x m y x' y' ⟨u, hu, hfg⟩ ⟨u', hu', hfg'⟩
    -- the fork itself is passed first, and only then
    rcases List.cons_eq_append_iff.1 hu.symm with ⟨rfl, hm⟩ | ⟨z, rfl, rfl⟩ <;>
      rcases List.cons_eq_append_iff.1 hu'.symm with ⟨rfl, hm'⟩ | ⟨z', rfl, rfl⟩
    · cases hm; cases hm'; exact ⟨y', rfl, hfg'⟩
    · cases hm
      rcases hfg' with hf' | hg'
      · exact absurd hf'.bounds.1 (by simp)
      · exact absurd hg'.bounds.1 (by simp only; omega)
    · cases hm'
      rcases hfg with hf | hg
      · exact absurd hf.bounds.1 (by simp)
      · exact absurd hg.bounds.1 (by simp only; omega)
    · refine ⟨z ++ m :: y', rfl, ?_⟩
      rcases hfg with hf | hg <;> rcases hfg' with hf' | hg'
      · exact .inl (ihf _ hf hf')
      · have := hf.bounds; have := hg'.bounds; omega
      · have := hg.bounds; have := hf'.bounds; omega
      · exact .inr (ihg _ hg hg')
  | plus f greedy ih =>
    have hfork : ∀ ⦃a x b⦄, f.Takes (fork + 1) a x b → ∀ m ∈ x, m.1 ≠ fork :=
      fun a x b h m hm => Nat.ne_of_gt (h.mem_bounds m hm).1
    rintro a b a' b' x m y x' y' ⟨mid, u, v, huv, hu, hv⟩ ⟨mid', u', v', huv', hu', hv'⟩
    have hback : Laps.Back (f.Takes (fork + 1)) fork m y' b' := by
      rcases split_at huv'.symm with ⟨z', rfl, hy⟩ | ⟨z', rfl, -⟩
      · exact .inr ⟨a', x', z', v', mid', hy, hu', hv'⟩
      · exact hv'.back
    rcases split_at huv.symm with ⟨z, rfl, -⟩ | ⟨z, rfl, rfl⟩
    · obtain ⟨c, w, u', v', mid', rfl, hturn', hrest'⟩ := hback.exists_turn (Nat.ne_of_gt hu.bounds.1)
      exact ⟨mid', x ++ m :: u', v', by simp, ih _ hu hturn', hrest'⟩
    · exact ⟨mid, u, z ++ m :: y', by simp, hu, hv.splice (ih _) hfork hback⟩
  | star f greedy ih =>
    intro a b a' b' x m y x' y' h h'
    exact Laps.splice (ih _) (fun a x b h m hm => Nat.ne_of_gt (h.mem_bounds m hm).1) h (Laps.back h')
  | group index f ih => exact ih fork

theorem exists_of_duplicate {α : Type} {m : α} {x : List α} (h : List.Duplicate m x) :
    ∃ u v w, x = u ++ m :: (v ++ m :: w) := by
  induction h with
  | cons_mem h =>
    obtain ⟨v, w, rfl⟩ := List.append_of_mem h
    exact ⟨[], v, w, rfl⟩
  | @cons_duplicate n x _ ih =>
    obtain ⟨u, v, w, rfl⟩ := ih
    exact ⟨n :: u, v, w, rfl⟩

/-- A way that comes to a fork again can be cut short. -/
theorem Takes.exists_nodup {f : Flow} (h : f.Takes fork a x b) : ∃ y, f.Takes fork a y b ∧ y.Nodup := by
  induction hn : x.length using Nat.strongRecOn generalizing x with
  | ind n ih =>
    by_cases hnodup : x.Nodup
    · exact ⟨x, h, hnodup⟩
    · obtain ⟨m, hm⟩ := List.exists_duplicate_iff_not_nodup.2 hnodup
      obtain ⟨u, v, w, rfl⟩ := exists_of_duplicate hm
      have hagain : f.Takes fork a ((u ++ m :: v) ++ m :: w) b := by
        rwa [List.append_assoc]
      refine ih _ ?_ (splices_takes f fork h hagain) rfl
      rw [← hn]
      simp only [List.length_append, List.length_cons]
      omega

end Splice

/-! ### The ends of all ways -/

section Covers

variable {T S : Place → Trail → Place → Prop} {step step' : Walk → List Walk} {limit limit' bound fork : Nat} {w : Walk}
  {a b : Place} {x : Trail}

/-- Where less than `limit` characters follow, the steps go a way that comes to no fork again to its end, and only
forks of the way are kept there. -/
def Covers (T : Place → Trail → Place → Prop) (limit : Nat) (step : Walk → List Walk) : Prop :=
  ∀ ⦃w x b⦄, T w.cur.place x b → x.Nodup → (∀ m ∈ w.passed, (m, w.cur.place) ∉ x) → w.cur.rest.length < limit →
    ∃ next ∈ step w, next.cur.place = b ∧ ∀ m ∈ next.passed, (m, b) ∈ x ∨ b = w.cur.place ∧ m ∈ w.passed

theorem Laps.exists_reads (hT : ∀ ⦃a x b⦄, T a x b → ∃ w, a.Reads w b) (h : Laps T fork a x b) : ∃ w, a.Reads w b := by
  induction h with
  | stop a => exact ⟨[], .refl a⟩
  | lap hturn _ ih =>
    obtain ⟨u, hu⟩ := hT hturn
    obtain ⟨v, hv⟩ := ih
    exact ⟨u ++ v, hu.trans hv⟩

theorem Takes.exists_reads {f : Flow} (h : f.Takes fork a x b) : ∃ w, a.Reads w b := by
  induction f generalizing fork a x b with
  | lit s => exact ⟨s, h.2⟩
  | one set => obtain ⟨-, c, -, hc⟩ := h; exact ⟨[c], hc⟩
  | look l => obtain ⟨-, rfl, -⟩ := h; exact ⟨[], .refl _⟩
  | seq f g ihf ihg =>
    obtain ⟨mid, x, y, -, hx, hy⟩ := h
    obtain ⟨u, hu⟩ := ihf hx
    obtain ⟨v, hv⟩ := ihg hy
    exact ⟨u ++ v, hu.trans hv⟩
  | alt f g ihf ihg =>
    obtain ⟨x, -, hx | hx⟩ := h
    · exact ihf hx
    · exact ihg hx
  | plus f greedy ih =>
    obtain ⟨mid, x, y, -, hx, hy⟩ := h
    obtain ⟨u, hu⟩ := ih hx
    obtain ⟨v, hv⟩ := hy.exists_reads fun _ _ _ => ih
    exact ⟨u ++ v, hu.trans hv⟩
  | star f greedy ih => exact Laps.exists_reads (fun _ _ _ => ih) h
  | group index f ih => exact ih h

namespace Covers

theorem goTo {u : Text} {next : Cursor} (h : w.cur.place.Reads u b) (hreach : w.cur.Reaches u next) :
    (w.goTo next).cur.place = b ∧ ∀ m ∈ (w.goTo next).passed, (m, b) ∈ x ∨ b = w.cur.place ∧ m ∈ w.passed := by
  refine ⟨h.place_eq hreach, fun m hm => .inr ?_⟩
  simp only [Walk.goTo] at hm
  split_ifs at hm with hoffset
  · obtain rfl : u = [] := size_eq_zero.1 (by rw [hreach.offset] at hoffset; omega)
    exact ⟨h.eq_of_nil, hm⟩
  · cases hm

theorem mono (h : Covers S limit step) (hsub : ∀ ⦃a x b⦄, T a x b → x.Nodup → S a x b) (hlimit : limit' ≤ limit) :
    Covers T limit' step :=
  fun _ _ _ hx hnodup hfresh hlen => h (hsub hx hnodup) hnodup hfresh (Nat.lt_of_lt_of_le hlen hlimit)

theorem or (hT : Covers T limit step) (hS : Covers S limit step') :
    Covers (fun a x b => T a x b ∨ S a x b) limit fun w => step w ++ step' w := by
  rintro w x b (h | h) hnodup hfresh hlen
  · obtain ⟨next, hnext, hend⟩ := hT h hnodup hfresh hlen
    exact ⟨next, List.mem_append_left _ hnext, hend⟩
  · obtain ⟨next, hnext, hend⟩ := hS h hnodup hfresh hlen
    exact ⟨next, List.mem_append_right _ hnext, hend⟩

theorem seq (hT : Covers T limit step) (hS : Covers S limit' step')
    (hshort : ∀ ⦃a x b⦄, T a x b → a.rest.length < limit → b.rest.length < limit') :
    Covers (fun a x b => ∃ mid y z, x = y ++ z ∧ T a y mid ∧ S mid z b) limit fun w => (step w).flatMap step' := by
  rintro w _ b ⟨mid, y, z, rfl, hy, hz⟩ hnodup hfresh hlen
  obtain ⟨hnodup, hnodup', hdisjoint⟩ := List.nodup_append.1 hnodup
  obtain ⟨next, hnext, rfl, hpassed⟩ := hT hy hnodup
    (fun m hm hmem => hfresh m hm (List.mem_append_left _ hmem)) hlen
  have hfresh' : ∀ m ∈ next.passed, (m, next.cur.place) ∉ z := by
    intro m hm hmem
    rcases hpassed m hm with hmem' | ⟨hsame, hm⟩
    · exact hdisjoint _ hmem' _ hmem rfl
    · rw [hsame] at hmem
      exact hfresh m hm (List.mem_append_right _ hmem)
  obtain ⟨stop, hstop, hb, hpassed'⟩ := hS hz hnodup' hfresh' (hshort hy hlen)
  refine ⟨stop, List.mem_flatMap.2 ⟨next, hnext, hstop⟩, hb, fun m hm => ?_⟩
  rcases hpassed' m hm with hmem | ⟨rfl, hm⟩
  · exact .inl (List.mem_append_right _ hmem)
  · exact (hpassed m hm).imp_left (List.mem_append_left _)

/-- The fork is not given up, and what follows it does not come to it again. -/
theorem pass (hT : Covers T limit step) (fork : Nat) :
    Covers (fun a x b => ∃ y, x = (fork, a) :: y ∧ T a y b) limit fun w => (w.pass? fork).toList.flatMap step := by
  rintro w _ b ⟨y, rfl, hy⟩ hnodup hfresh hlen
  obtain ⟨hnot, hnodup⟩ := List.nodup_cons.1 hnodup
  have hpass : w.pass? fork = some { w with passed := fork :: w.passed } :=
    if_neg fun hm => hfresh fork hm List.mem_cons_self
  have hfresh' : ∀ m ∈ fork :: w.passed, (m, w.cur.place) ∉ y := by
    intro m hm hmem
    rcases List.mem_cons.1 hm with rfl | hm
    · exact hnot hmem
    · exact hfresh m hm (List.mem_cons_of_mem _ hmem)
  obtain ⟨next, hnext, hb, hpassed⟩ := @hT { w with passed := fork :: w.passed } y b hy hnodup hfresh' hlen
  refine ⟨next, List.mem_flatMap.2 ⟨_, Option.mem_toList.2 hpass, hnext⟩, hb, fun m hm => ?_⟩
  rcases hpassed m hm with hmem | ⟨rfl, hm⟩
  · exact .inl (List.mem_cons_of_mem _ hmem)
  · rcases List.mem_cons.1 hm with rfl | hm
    · exact .inl List.mem_cons_self
    · exact .inr ⟨rfl, hm⟩

/-- A way goes on by a step, or it stays. -/
theorem prefer (hT : Covers T limit step) (greedy : Bool) :
    Covers (fun a x b => (x = [] ∧ b = a) ∨ T a x b) limit fun w => preferEnds greedy (step w) [w] := by
  rintro w x b (⟨rfl, rfl⟩ | hx) hnodup hfresh hlen
  · exact ⟨w, mem_preferEnds.2 (.inr rfl), rfl, fun m hm => .inr ⟨rfl, hm⟩⟩
  · obtain ⟨next, hnext, hend⟩ := hT hx hnodup hfresh hlen
    exact ⟨next, mem_preferEnds.2 (.inl hnext), hend⟩

theorem turns (hT : Covers T bound step) (hread : ∀ ⦃a x b⦄, T a x b → ∃ w, a.Reads w b) (fork : Nat) (greedy : Bool)
    (hlimit : limit ≤ bound) : Covers (Laps T fork) limit (turnsEnds step fork greedy limit) := by
  induction limit with
  | zero => intro w x b _ _ _ hlen; cases hlen
  | succ n ih =>
    have hturn : Covers (fun a x b => T a x b ∧ b ≠ a) (n + 1) step :=
      hT.mono (fun _ _ _ h _ => h.1) hlimit
    have hagain := hturn.seq (ih (Nat.le_of_succ_le hlimit)) fun a x b h hlen => by
      obtain ⟨u, hu⟩ := hread h.1
      by_contra hlong
      exact h.2 (hu.eq_of_length_le (by omega))
    exact ((hagain.prefer greedy).pass fork).mono (fun _ _ _ => Laps.cases_of_nodup) (Nat.le_refl _)

end Covers

theorem covers_takes (bound : Nat) (f : Flow) (fork : Nat) : Covers (f.Takes fork) (bound + 1) (f.ends bound fork) := by
  have hshort : ∀ {g : Flow} {n : Nat} ⦃a x b⦄, g.Takes n a x b →
      a.rest.length < bound + 1 → b.rest.length < bound + 1 := by
    intro g n a x b h hlen
    obtain ⟨u, hu⟩ := h.exists_reads
    exact Nat.lt_of_le_of_lt hu.length_le hlen
  induction f generalizing fork with
  | lit s =>
    rintro w _ b ⟨rfl, hs⟩ - - -
    obtain ⟨next, hnext⟩ := Cursor.exists_skip? hs.rest
    have hreach := Cursor.skip?_eq_some hnext
    exact ⟨w.goTo next, List.mem_map.2 ⟨next, Option.mem_toList.2 hnext, rfl⟩, Covers.goTo hs hreach⟩
  | one set =>
    rintro w _ b ⟨rfl, c, hc, hs⟩ - - -
    have hrest : w.cur.rest = c :: b.rest := hs.rest
    exact ⟨w.goTo (w.cur.advance c b.rest), by simp [ends, hrest, hc], Covers.goTo hs (.advance hrest)⟩
  | look l =>
    rintro w _ b ⟨rfl, rfl, hl⟩ - - -
    have hl : l.holds w.cur.last w.cur.rest.head? := hl
    exact ⟨w, by simp [ends, hl], rfl, fun m hm => .inr ⟨rfl, hm⟩⟩
  | seq f g ihf ihg => exact (ihf fork).seq (ihg _) hshort
  | alt f g ihf ihg => exact ((ihf _).or (ihg _)).pass fork
  | plus f greedy ih =>
    exact (ih _).seq ((ih _).turns (fun _ _ _ => Takes.exists_reads) fork greedy (Nat.le_refl _)) hshort
  | star f greedy ih => exact (ih _).turns (fun _ _ _ => Takes.exists_reads) fork greedy (Nat.le_refl _)
  | group index f ih =>
    intro w x b h hnodup hfresh hlen
    obtain ⟨next, hnext, hb, hpassed⟩ := ih fork h hnodup hfresh hlen
    exact ⟨_, List.mem_map.2 ⟨next, hnext, rfl⟩, hb, hpassed⟩

end Covers

/-! ### Ways of spelled pieces -/

section Complete

variable {fork : Nat} {a b : Place} {w : Text}

theorem exists_laps {P : Option Char → Text → Option Char → Prop} {T : Place → Trail → Place → Prop}
    (hT : ∀ ⦃a w b⦄, P a.last w b.rest.head? → a.Reads w b → ∃ x, T a x b) {n : Nat}
    (h : Repeats P n a.last w b.rest.head?) (hread : a.Reads w b) : ∃ x, Laps T fork a x b := by
  induction n generalizing a w with
  | zero =>
    obtain rfl : w = [] := h
    obtain rfl := hread.eq_of_nil
    exact ⟨_, .stop b⟩
  | succ n ih =>
    obtain ⟨u, v, rfl, hu, hv⟩ := h
    obtain ⟨mid, hmid, hb⟩ := hread.split
    obtain ⟨x, hx⟩ := hT (hb.head?.symm ▸ hu) hmid
    obtain ⟨y, hy⟩ := ih (hmid.last.symm ▸ hv) hb
    exact ⟨_, .lap hx hy⟩

theorem Spells.exists_takes {f : Flow} (h : f.Spells a.last w b.rest.head?) (hread : a.Reads w b) :
    ∃ x, f.Takes fork a x b := by
  induction f generalizing fork a w b with
  | lit s => cases h; exact ⟨[], rfl, hread⟩
  | one set => obtain ⟨c, rfl, hc⟩ := h; exact ⟨[], rfl, c, hc, hread⟩
  | look l =>
    obtain ⟨rfl, hl⟩ := h
    obtain rfl := hread.eq_of_nil
    exact ⟨[], rfl, rfl, hl⟩
  | seq f g ihf ihg =>
    obtain ⟨u, v, rfl, hu, hv⟩ := h
    obtain ⟨mid, hmid, hb⟩ := hread.split
    obtain ⟨x, hx⟩ := ihf (hb.head?.symm ▸ hu) hmid
    obtain ⟨y, hy⟩ := ihg (hmid.last.symm ▸ hv) hb
    exact ⟨x ++ y, mid, x, y, rfl, hx, hy⟩
  | alt f g ihf ihg =>
    rcases h with h | h
    · obtain ⟨x, hx⟩ := ihf h hread; exact ⟨_, x, rfl, .inl hx⟩
    · obtain ⟨x, hx⟩ := ihg h hread; exact ⟨_, x, rfl, .inr hx⟩
  | plus f greedy ih =>
    obtain ⟨n, u, v, rfl, hu, hv⟩ := h
    obtain ⟨mid, hmid, hb⟩ := hread.split
    obtain ⟨x, hx⟩ := ih (hb.head?.symm ▸ hu) hmid
    obtain ⟨y, hy⟩ := exists_laps (fun _ _ _ => ih) (hmid.last.symm ▸ hv) hb
    exact ⟨x ++ y, mid, x, y, rfl, hx, hy⟩
  | star f greedy ih =>
    obtain ⟨n, h⟩ := h
    exact exists_laps (fun _ _ _ => ih) h hread
  | group index f ih => exact ih h hread

/-- The end of a spelled piece is tried. -/
theorem Spells.exists_mem_ends {f : Flow} {cur : Cursor} {r : Text} {bound : Nat} (h : f.Spells cur.last w r.head?)
    (hr : cur.rest = w ++ r) (hlen : cur.rest.length ≤ bound) :
    ∃ next ∈ f.ends bound fork ⟨cur, []⟩, cur.Reaches w next.cur := by
  have hread : cur.place.Reads w ⟨w.getLast?.or cur.last, r⟩ := ⟨hr, rfl⟩
  obtain ⟨x, hx⟩ := Spells.exists_takes (a := cur.place) (b := ⟨w.getLast?.or cur.last, r⟩) h hread
  obtain ⟨y, hy, hnodup⟩ := hx.exists_nodup
  obtain ⟨next, hnext, hplace, -⟩ := covers_takes bound f fork (w := ⟨cur, []⟩) hy hnodup
    (fun m hm => absurd hm List.not_mem_nil) (Nat.lt_succ_of_le hlen)
  refine ⟨next, hnext, ?_⟩
  obtain ⟨w', hw', -⟩ := mem_ends hnext
  have hrest : next.cur.rest = r := congrArg Place.rest hplace
  obtain rfl : w' = w := by
    have hsame := hw'.rest.symm.trans hr
    rw [hrest] at hsame
    exact List.append_cancel_right hsame
  exact hw'.toReaches

end Complete

end Flow

end HandlerMigration
