import HandlerMigration.Proofs.Outline
import HandlerMigration.Proofs.Splice

/-!
# Matches of an edited text

Texts are put in behind the first character of a match, at most one in each. Main statement: the matches
of the new text then stand side by side with those of the old one (`aligned_of_spliced`).

A match can get lost only if a piece starts in front of it that did not exist before. Such a piece reaches
into the match, for nothing in front of it has changed. `Absorbs` excludes that: where a piece reaches into
another one, there was a piece from the same place on in the old text too, and the old search took it.
-/

namespace HandlerMigration

open Text

namespace Text

theorem append_cons_inj {P : Char → Bool} {x x' r r' : Text} {c c' : Char} (hx : ∀ d ∈ x, P d = false)
    (hx' : ∀ d ∈ x', P d = false) (hc : P c = true) (hc' : P c' = true) (h : x ++ c :: r = x' ++ c' :: r') :
    x = x' ∧ c = c' ∧ r = r' := by
  induction x generalizing x' with
  | nil =>
    cases x' with
    | nil => exact ⟨rfl, List.cons.inj h⟩
    | cons d x' =>
      obtain ⟨rfl, -⟩ := List.cons.inj h
      rw [hx' c (by simp)] at hc
      cases hc
  | cons d x ih =>
    cases x' with
    | nil =>
      obtain ⟨rfl, -⟩ := List.cons.inj h
      rw [hx d (by simp)] at hc'
      cases hc'
    | cons d' x' =>
      obtain ⟨rfl, htail⟩ := List.cons.inj h
      obtain ⟨rfl, hr⟩ := ih (fun e he => hx e (by simp [he])) (fun e he => hx' e (by simp [he])) htail
      exact ⟨rfl, hr⟩

theorem exists_of_append_eq {a b x y : Text} {c : Char} (hc : c ∉ a) (h : a ++ b = x ++ c :: y) :
    ∃ z, x = a ++ z ∧ b = z ++ c :: y := by
  rcases List.append_eq_append_iff.1 h with ⟨z, rfl, rfl⟩ | ⟨z, rfl, hz⟩
  · exact ⟨z, rfl, rfl⟩
  · cases z with
    | nil => exact ⟨[], by simp, hz.symm⟩
    | cons d z =>
      obtain ⟨rfl, -⟩ := List.cons.inj hz
      exact absurd (by simp) hc

end Text

theorem Text.front_or_behind {a b v x y : Text} {c : Char} (hc : c ∉ v) (h : x ++ c :: y = a ++ (v ++ b)) :
    (∃ z, x = a ++ (v ++ z) ∧ b = z ++ c :: y) ∨ ∃ z, a = x ++ c :: z ∧ y = z ++ (v ++ b) := by
  rcases List.append_eq_append_iff.1 h with ⟨z, rfl, hz⟩ | ⟨z, rfl, hz⟩
  · cases z with
    | nil =>
      obtain ⟨z, hx, hb⟩ := exists_of_append_eq hc (a := v) (x := []) hz.symm
      obtain ⟨rfl, rfl⟩ := List.append_eq_nil_iff.1 hx.symm
      exact .inl ⟨[], by simp, hb⟩
    | cons d z =>
      obtain ⟨rfl, rfl⟩ := List.cons.inj hz
      exact .inr ⟨z, rfl, rfl⟩
  · obtain ⟨z', rfl, rfl⟩ := exists_of_append_eq hc hz
    exact .inl ⟨z', rfl, rfl⟩

theorem CharSet.has_except {cs : List Char} {c : Char} : (CharSet.except cs).has c = true ↔ c ∉ cs := by
  simp [CharSet.except, CharSet.has]

namespace Pattern

variable {p q : Pattern} {bound bound' : Nat} {c : Char} {a b w done done' rest out : Text} {ms ms' : List Match}

/-! ### Pieces that do not depend on what is around them -/

/-- Whether the pattern asks nothing of the characters around its pieces. -/
def isPlain : Pattern → Bool
  | seq p q => p.isPlain && q.isPlain
  | alt p q => p.isPlain && q.isPlain
  | rep _ _ _ _ => false
  | look _ => false
  | group _ p => p.isPlain
  | _ => true

theorem Spells.move {last next : Option Char} (h : p.Spells last w next) (hp : p.isPlain = true)
    (last' next' : Option Char) : p.Spells last' w next' := by
  induction p generalizing last w next last' next' with
  | empty => exact h
  | lit s => exact h
  | one set => exact h
  | many set least most greedy => exact h
  | seq p q ihp ihq =>
    obtain ⟨u, v, rfl, hu, hv⟩ := h
    obtain ⟨hp, hq⟩ := Bool.and_eq_true_iff.1 hp
    exact ⟨u, v, rfl, ihp hu hp _ _, ihq hv hq _ _⟩
  | alt p q ihp ihq =>
    obtain ⟨hp, hq⟩ := Bool.and_eq_true_iff.1 hp
    exact h.imp (ihp · hp _ _) (ihq · hq _ _)
  | rep p least most greedy => cases hp
  | look b => cases hp
  | group i p ih => exact ih h hp _ _

/-- `w` is a piece of the pattern in a text of its own. -/
def Admits (p : Pattern) (w : Text) : Prop := p.Spells none w none

theorem spells_iff_admits (hp : p.isPlain = true) {last next : Option Char} : p.Spells last w next ↔ p.Admits w :=
  ⟨fun h => h.move hp _ _, fun h => h.move hp _ _⟩

theorem admits_append_iff (hp : p.isPlain = true) (hq : q.isPlain = true) :
    (p ++ q).Admits w ↔ ∃ u v, w = u ++ v ∧ p.Admits u ∧ q.Admits v := by
  constructor
  · rintro ⟨u, v, rfl, hu, hv⟩
    exact ⟨u, v, rfl, hu.move hp _ _, hv.move hq _ _⟩
  · rintro ⟨u, v, rfl, hu, hv⟩
    exact ⟨u, v, rfl, hu.move hp _ _, hv.move hq _ _⟩

theorem reaches_of_mem_ends {stop : Cursor} (h : stop ∈ p.ends bound (.behind a (w ++ b))) (hstop : stop.rest = b) :
    (Cursor.behind a (w ++ b)).Reaches w stop ∧ p.Occurs a w b := by
  obtain ⟨w', hreach, hspells⟩ := mem_ends h
  have hrest : w ++ b = w' ++ stop.rest := hreach.rest
  rw [hstop] at hrest hspells
  obtain rfl := List.append_cancel_right hrest
  exact ⟨hreach, hspells⟩

theorem ends_append (p q : Pattern) (bound : Nat) :
    (p ++ q).ends bound = fun cur => (p.ends bound cur).flatMap (q.ends bound) := rfl

theorem Spells.congr {last next : Option Char} (h : ∀ bound cur, p.ends bound cur = q.ends bound cur)
    (hw : p.Spells last w next) : q.Spells last w next := by
  have hhead : next.toList.head? = next := by cases next <;> rfl
  have hspells : p.Spells (Cursor.mk 0 last (w ++ next.toList) []).last w next.toList.head? := by rwa [hhead]
  obtain ⟨stop, hmem, hreach⟩ := hspells.exists_mem_ends rfl (Nat.le_refl _)
  rw [h] at hmem
  obtain ⟨w', hreach', hw'⟩ := mem_ends hmem
  have hrest : stop.rest = next.toList := hreach.rest_eq rfl
  have heq : w ++ next.toList = w' ++ stop.rest := hreach'.rest
  rw [hrest] at heq hw'
  rwa [List.append_cancel_right heq, ← hhead]

theorem admits_congr (h : ∀ bound cur, p.ends bound cur = q.ends bound cur) : p.Admits w ↔ q.Admits w :=
  ⟨.congr h, .congr fun bound cur => (h bound cur).symm⟩

/-- At one place the pattern has at most one piece. -/
def Definite (p : Pattern) : Prop :=
  ∀ w w' r r', p.Admits w → p.Admits w' → w ++ r = w' ++ r' → w = w' ∧ r = r'

theorem definite_lit (s : Text) : (lit s).Definite := by
  rintro w w' r r' rfl rfl h
  exact ⟨rfl, List.append_cancel_left h⟩

theorem Definite.append (hp : p.Definite) (hq : q.Definite) (hplain : (p ++ q).isPlain = true) :
    (p ++ q).Definite := by
  obtain ⟨hp', hq'⟩ := Bool.and_eq_true_iff.1 hplain
  intro w w' r r' hw hw' h
  obtain ⟨u, v, rfl, hu, hv⟩ := (admits_append_iff hp' hq').1 hw
  obtain ⟨u', v', rfl, hu', hv'⟩ := (admits_append_iff hp' hq').1 hw'
  rw [List.append_assoc, List.append_assoc] at h
  obtain ⟨rfl, hback⟩ := hp _ _ _ _ hu hu' h
  obtain ⟨rfl, rfl⟩ := hq _ _ _ _ hv hv' hback
  exact ⟨rfl, rfl⟩

/-- The first part of a piece ends where a character stands that it cannot have. -/
theorem Definite.until (P : Char → Bool) (hq : q.Definite) (hplain : (p ++ q).isPlain = true)
    (hfront : ∀ u, p.Admits u → ∀ d ∈ u, P d = false)
    (hstart : ∀ v, q.Admits v → ∃ d v', v = d :: v' ∧ P d = true) : (p ++ q).Definite := by
  obtain ⟨hp', hq'⟩ := Bool.and_eq_true_iff.1 hplain
  intro w w' r r' hw hw' h
  obtain ⟨u, v, rfl, hu, hv⟩ := (admits_append_iff hp' hq').1 hw
  obtain ⟨u', v', rfl, hu', hv'⟩ := (admits_append_iff hp' hq').1 hw'
  obtain ⟨d, v₁, rfl, hd⟩ := hstart _ hv
  obtain ⟨d', v₁', rfl, hd'⟩ := hstart _ hv'
  simp only [List.append_assoc, List.cons_append] at h
  obtain ⟨rfl, rfl, hback⟩ := append_cons_inj (hfront _ hu) (hfront _ hu') hd hd' h
  obtain ⟨hv₁, rfl⟩ := hq (d :: v₁) (d :: v₁') r r' hv hv' (by rw [List.cons_append, hback]; rfl)
  rw [hv₁]
  exact ⟨rfl, rfl⟩

theorem definite_until_lit {s : Text} (hplain : p.isPlain = true) (hp : p.avoids c = true) (hs : s.head? = some c) :
    (p ++ lit s).Definite := by
  refine Definite.until (· == c) (definite_lit s) (Bool.and_eq_true_iff.2 ⟨hplain, rfl⟩) ?_ ?_
  · intro u hu d hd
    refine beq_false_of_ne ?_
    rintro rfl
    exact hu.not_mem_of_avoids hp hd
  · rintro v rfl
    obtain ⟨v', hv⟩ := List.head?_eq_some_iff.1 hs
    exact ⟨c, v', hv, beq_self_eq_true c⟩

/-! ### Matches -/

/-- The pattern takes the piece `w` in the text `a ++ (w ++ b)` if it is tried behind `a`. -/
def Takes (p : Pattern) (bound : Nat) (a w b : Text) : Prop :=
  ∃ stop, (p.ends bound (.behind a (w ++ b))).head? = some stop ∧ stop.rest = b

theorem takes_of_unique (hw : p.Occurs a w b) (hone : ∀ w' b', w ++ b = w' ++ b' → p.Occurs a w' b' → b' = b)
    (hlen : (w ++ b).length ≤ bound) : p.Takes bound a w b := by
  have hspells : p.Spells (Cursor.behind a (w ++ b)).last w b.head? := hw
  obtain ⟨next, hnext, -⟩ := hspells.exists_mem_ends rfl hlen
  obtain ⟨stop, hstop⟩ := Option.isSome_iff_exists.1 (List.isSome_head?.2 (List.ne_nil_of_mem hnext))
  obtain ⟨w', hreach, hspells'⟩ := mem_ends (List.mem_of_head? hstop)
  exact ⟨stop, hstop, hone w' stop.rest hreach.rest hspells'⟩

theorem Definite.takes (hp : p.Definite) (hplain : p.isPlain = true) (hw : p.Admits w)
    (hlen : (w ++ b).length ≤ bound) : p.Takes bound a w b := by
  refine takes_of_unique ((spells_iff_admits hplain).2 hw) ?_ hlen
  intro w' b' heq hw'
  exact (hp _ _ _ _ hw ((spells_iff_admits hplain).1 hw') heq).2.symm

theorem First.takes {stop : Cursor} (h : First p bound done rest a w b stop) : p.Takes bound (done ++ a) w b :=
  ⟨stop, h.preferred, h.stop_rest⟩

namespace Lists

theorem skip {x : Text} (h : Lists p bound (done ++ x) rest ms)
    (hx : ∀ y z, x = y ++ z → z ≠ [] → ∀ w b, z ++ rest = w ++ b → ¬ p.Occurs (done ++ y) w b) :
    Lists p bound done (x ++ rest) ms := by
  -- a piece from behind `done` on that starts in `x` is excluded, and any other starts behind `x`
  have hbehind : ∀ a w b, x ++ rest = a ++ (w ++ b) → p.Occurs (done ++ a) w b →
      ∃ a', a = x ++ a' ∧ rest = a' ++ (w ++ b) := by
    intro a w b hsplit ho
    rcases List.append_eq_append_iff.1 hsplit with ⟨a', rfl, hrest⟩ | ⟨z, rfl, hz⟩
    · exact ⟨a', rfl, hrest⟩
    · rcases eq_or_ne z [] with rfl | hne
      · exact ⟨[], by simp, hz.symm⟩
      · exact absurd ho (hx a z rfl hne w b hz.symm)
  cases h with
  | nil habsent =>
    refine .nil fun a w b hsplit ho => ?_
    obtain ⟨a', rfl, hrest⟩ := hbehind a w b hsplit ho
    exact habsent a' w b hrest (by rwa [List.append_assoc])
  | @cons _ _ a w b stop ms hfirst htail =>
    rw [List.append_assoc done x a] at htail ⊢
    refine .cons ⟨by rw [hfirst.rest_eq]; simp, ?_, ?_, ?_⟩ htail
    · rw [← List.append_assoc]; exact hfirst.reaches
    · rw [← List.append_assoc]; exact hfirst.preferred
    · intro a' w' b' hsplit ho
      obtain ⟨a'', rfl, hrest⟩ := hbehind a' w' b' hsplit ho
      have := hfirst.first a'' w' b' hrest (by rwa [List.append_assoc])
      simpa using this

theorem unique (h : Lists p bound done rest ms) (h' : Lists p bound done rest ms') : ms = ms' := by
  induction h generalizing ms' with
  | nil habsent =>
    cases h' with
    | nil => rfl
    | cons hfirst _ => exact absurd hfirst.occurs (habsent _ _ _ hfirst.rest_eq)
  | @cons done rest a w b stop ms hfirst _ ih =>
    cases h' with
    | nil habsent => exact absurd hfirst.occurs (habsent _ _ _ hfirst.rest_eq)
    | @cons _ _ a' w' b' stop' ms' hfirst' htail' =>
      have hlen : a.length = a'.length := Nat.le_antisymm
        (hfirst.first _ _ _ hfirst'.rest_eq hfirst'.occurs) (hfirst'.first _ _ _ hfirst.rest_eq hfirst.occurs)
      obtain ⟨rfl, hrest⟩ := List.append_inj (hfirst.rest_eq.symm.trans hfirst'.rest_eq) hlen
      have hstop := hfirst'.preferred
      rw [← hrest, hfirst.preferred] at hstop
      obtain rfl := Option.some.inj hstop
      obtain rfl := hfirst.stop_rest.symm.trans hfirst'.stop_rest
      obtain rfl := List.append_cancel_right hrest
      rw [ih htail']

end Lists

/-- The matches of two texts behind `done` and `done'`, side by side. Where the old text has the match `w`, the new
one has the match `new` with `tail` behind it, in which no piece starts. Between the matches the texts agree. -/
inductive Aligned (p : Pattern) (c : Char) (bound bound' : Nat) (New : (pre w new tail : Text) → Prop) :
    (done rest : Text) → List Match → (done' out : Text) → List Match → Prop where
  | nil {done rest done' : Text} (h : p.Absent done rest) (h' : p.Absent done' rest) :
      Aligned p c bound bound' New done rest [] done' rest []
  | cons {done rest done' out a w b new tail : Text} {stop stop' : Cursor} {ms ms' : List Match}
      (h : First p bound done rest a w b stop)
      (h' : First p bound' done' (a ++ (new ++ (tail ++ out))) a new (tail ++ out) stop')
      (hnew : New (done ++ a) w new tail) (hc : c ∉ tail)
      (htail : Aligned p c bound bound' New (done ++ a ++ w) b ms (done' ++ a ++ new ++ tail) out ms') :
      Aligned p c bound bound' New done rest (Match.ofEnds (size (done ++ a), stop) :: ms) done'
        (a ++ (new ++ (tail ++ out))) (Match.ofEnds (size (done' ++ a), stop') :: ms')

/-- The match `m` of the text `a ++ (w ++ b)` is that of `w`. -/
structure Sits (p : Pattern) (t : Text) (m : Match) (a w b : Text) : Prop where
  text_eq : t = a ++ (w ++ b)
  span_eq : m.span = ⟨size a, size (a ++ w)⟩
  taken : ∃ bound stop, (p.ends bound (.behind a (w ++ b))).head? = some stop ∧ stop.rest = b ∧
    m.groups = stop.groups

theorem First.sits {stop : Cursor} (h : First p bound done rest a w b stop) :
    p.Sits (done ++ rest) (.ofEnds (size (done ++ a), stop)) (done ++ a) w b where
  text_eq := by rw [h.rest_eq, List.append_assoc]
  span_eq := by rw [Match.ofEnds, h.stop_offset]
  taken := ⟨bound, stop, h.preferred, h.stop_rest, rfl⟩

theorem Sits.unique {t a' w' b' : Text} {m : Match} (h : p.Sits t m a w b) (h' : p.Sits t m a' w' b') :
    a = a' ∧ w = w' ∧ b = b' := by
  have hspan := h.span_eq.symm.trans h'.span_eq
  rw [Span.mk.injEq] at hspan
  obtain ⟨rfl, hback⟩ := append_inj_of_size (h.text_eq.symm.trans h'.text_eq) hspan.1
  simp only [size_append] at hspan
  obtain ⟨rfl, rfl⟩ := append_inj_of_size hback (by omega)
  exact ⟨rfl, rfl, rfl⟩

theorem Sits.occurs {t : Text} {m : Match} (h : p.Sits t m a w b) : p.Occurs a w b := by
  obtain ⟨_, stop, hhead, hrest, -⟩ := h.taken
  exact (reaches_of_mem_ends (List.mem_of_head? hhead) hrest).2

theorem Solid.exists_sits {t : Text} {m : Match} (hp : p.Solid) (hm : m ∈ p.findAll t) : ∃ a w b, p.Sits t m a w b := by
  obtain ⟨a, w, b, stop, ht, hspan, -, hhead, hrest, hgroups⟩ := (hp.lists_findAll t).occurs hm
  exact ⟨a, w, b, ht, hspan, t.length, stop, hhead, hrest, hgroups⟩

namespace Aligned

variable {New : Text → Text → Text → Text → Prop}

theorem head?_eq (hp : p.leading.head? = some c) (h : Aligned p c bound bound' New done rest ms done' out ms') :
    out.head? = rest.head? := by
  have hhead : ∀ {a w b : Text}, p.Occurs a w b → w.head? = some c := by
    intro a w b ho
    obtain ⟨r, hr⟩ := ho.leading_isPrefix
    rw [← hr, List.head?_append, hp, Option.some_or]
  cases h with
  | nil => rfl
  | cons h h' =>
    rw [h.rest_eq]
    simp only [List.head?_append, hhead h.occurs, hhead h'.occurs, Option.some_or]

theorem lists (hp : p.leading.head? = some c) (h : Aligned p c bound bound' New done rest ms done' out ms') :
    Lists p bound' done' out ms' := by
  induction h with
  | nil _ h' => exact .nil h'
  | @cons _ _ _ out _ _ _ _ _ _ _ _ _ _ h' _ hc _ ih =>
    refine .cons h' (ih.skip ?_)
    intro y z hyz hz w b hsplit ho
    -- a piece that starts in the tail starts with a character of it
    obtain ⟨r, hr⟩ := ho.leading_isPrefix
    obtain ⟨d, z, rfl⟩ := List.exists_cons_of_ne_nil hz
    have hd : (d :: z ++ out).head? = some c := by
      rw [hsplit, ← hr, List.head?_append, List.head?_append, hp, Option.some_or, Option.some_or]
    obtain rfl : d = c := by simpa using hd
    exact hc (by rw [hyz]; simp)

theorem forall₂ (h : Aligned p c bound bound' New done rest ms done' out ms') :
    List.Forall₂ (fun m m' => ∃ a w b a' new tail b', p.Sits (done ++ rest) m a w b ∧
      p.Sits (done' ++ out) m' a' new (tail ++ b') ∧ New a w new tail) ms ms' := by
  induction h with
  | nil => exact .nil
  | @cons done rest done' out a w b new tail stop stop' ms ms' h h' hnew _ _ ih =>
    have ht : done ++ a ++ w ++ b = done ++ rest := by rw [h.rest_eq]; simp
    have hu : done' ++ a ++ new ++ tail ++ out = done' ++ (a ++ (new ++ (tail ++ out))) := by simp
    rw [ht, hu] at ih
    exact .cons ⟨done ++ a, w, b, done' ++ a, new, tail, out, h.sits, h'.sits, hnew⟩ ih

end Aligned

/-! ### Texts put into matches -/

/-- A pattern whose pieces start with `c` and depend on nothing around them. Where a piece reaches into another
one, there is also one from the same place on that ends inside the other or with it. -/
structure Absorbs (p : Pattern) (c : Char) : Prop where
  plain : p.isPlain = true
  starts : p.leading.head? = some c
  reach : ∀ x y w, x ≠ [] → p.Admits (x ++ c :: y) → p.Admits w → ∃ w₁ w₂, w = w₁ ++ w₂ ∧ p.Admits (x ++ w₁)

theorem Absorbs.exists_cons (hp : p.Absorbs c) (hw : p.Admits w) : ∃ v, w = c :: v := by
  obtain ⟨r, rfl⟩ := hw.leading_isPrefix
  obtain ⟨s, hs⟩ := List.head?_eq_some_iff.1 hp.starts
  exact ⟨s ++ r, by rw [hs]; rfl⟩

/-- A match stays the first one if something else is put in its place that is taken there, and if what follows
changes. -/
theorem Absorbs.first (hp : p.Absorbs c) {stop : Cursor} (h : First p bound done rest a w b stop) {new after : Text}
    (hnew : p.Takes bound' (done' ++ a) new after) :
    ∃ stop', First p bound' done' (a ++ (new ++ after)) a new after stop' := by
  obtain ⟨stop', hhead, hrest⟩ := hnew
  obtain ⟨hreach, hoccurs⟩ := reaches_of_mem_ends (List.mem_of_head? hhead) hrest
  refine ⟨stop', rfl, hreach, hhead, ?_⟩
  intro a' v r hsplit hv
  have hv := (spells_iff_admits hp.plain).1 hv
  by_contra hlt
  -- then there was a piece behind `a'` in the old text as well
  have hold : ∀ v' r', rest = a' ++ (v' ++ r') → ¬ p.Admits v' := fun v' r' hr hv' =>
    hlt (h.first a' v' r' hr ((spells_iff_admits hp.plain).2 hv'))
  obtain ⟨x, rfl⟩ : a' <+: a := List.prefix_of_prefix_length_le ⟨_, hsplit.symm⟩ ⟨_, rfl⟩ (by omega)
  have hx : x ≠ [] := by
    rintro rfl
    simp at hlt
  rw [List.append_assoc] at hsplit
  rcases List.append_eq_append_iff.1 (List.append_cancel_left hsplit) with ⟨y, rfl, hy⟩ | ⟨z, rfl, -⟩
  · obtain ⟨n, rfl⟩ := hp.exists_cons ((spells_iff_admits hp.plain).1 hoccurs)
    cases y with
    | nil => exact hold x (w ++ b) (by rw [h.rest_eq]; simp) (by simpa using hv)
    | cons d y =>
      obtain ⟨rfl, -⟩ := List.cons.inj hy
      obtain ⟨w₁, w₂, rfl, hw₁⟩ := hp.reach x y w hx hv ((spells_iff_admits hp.plain).1 h.occurs)
      exact hold (x ++ w₁) (w₂ ++ b) (by rw [h.rest_eq]; simp) hw₁
  · exact hold v (z ++ (w ++ b)) (by rw [h.rest_eq]; simp) hv

end Pattern

namespace Edit

open Pattern

variable {E es : List Edit} {offset : Nat} {a b w rest out : Text}

/-- `placed` is the match `w` behind `pre` with the edit among `E` made that puts something in behind its first
character, if there is one. -/
inductive Places (E : List Edit) (pre w : Text) : (placed : Text) → Prop where
  | insert (e : Edit) (he : e ∈ E) (front back : Text) (hw : w = front ++ back) (hfront : front ≠ [])
      (hstart : e.start = size (pre ++ front)) : Places E pre w (front ++ (e.replacement ++ back))
  | keep (h : ∀ e ∈ E, e.start ≤ size pre ∨ size (pre ++ w) < e.start) : Places E pre w w

/-- The first edit puts something into `w`, or all of them are behind it. -/
theorem Spliced.exists_placed {done : Text} (h : Spliced (size done) (a ++ (w ++ b)) es out)
    (hstrict : es.Pairwise fun e e' => e.start < e'.start) (hin : ∀ e ∈ es, e.stop = e.start)
    (hes : ∀ e ∈ es, e ∈ E) (hE : ∀ e ∈ E, e ∈ es ∨ e.start ≤ size done)
    (hcases : (∃ e es', es = e :: es' ∧ size (done ++ a) < e.start ∧ e.start ≤ size (done ++ a ++ w) ∧
        ∀ e' ∈ es', size (done ++ a ++ w) < e'.start) ∨ ∀ e ∈ es, size (done ++ a ++ w) < e.start) :
    ∃ placed es' out', out = a ++ (placed ++ out') ∧ Places E (done ++ a) w placed ∧
      Spliced (size (done ++ a ++ w)) b es' out' ∧ (∀ e ∈ es', e ∈ es ∧ size (done ++ a ++ w) < e.start) ∧
      es'.Pairwise (fun e e' => e.start < e'.start) ∧ ∀ e ∈ E, e ∈ es' ∨ e.start ≤ size (done ++ a ++ w) := by
  rcases hcases with ⟨e, es', rfl, hlt, hle, hback⟩ | hback
  · obtain ⟨gap, old, rest', out', hrest, hstart, hstop, rfl, htail⟩ := h.of_cons
    obtain rfl : old = [] := size_eq_zero.1 (by have := hin e (by simp); omega)
    simp only [size_append] at hlt hle
    obtain ⟨front, rfl, hfront⟩ := prefix_of_size_le hrest (by omega)
    obtain ⟨back, rfl, rfl⟩ := prefix_of_size_le (by simpa using hfront.symm)
      (by simp only [size_append] at hstart; omega)
    have hstop' : e.stop + size back = size (done ++ a ++ (front ++ back)) := by
      simp only [size_append, size_nil] at hstop ⊢; omega
    obtain ⟨out'', rfl, htail'⟩ := htail.skip fun e' he' => by
      have := hback e' he'
      omega
    rw [hstop'] at htail'
    refine ⟨_, es', out'', by simp, .insert e (hes e (by simp)) front back rfl ?_ ?_, htail',
      fun e' he' => ⟨by simp [he'], hback e' he'⟩, (List.pairwise_cons.1 hstrict).2, fun e' he' => ?_⟩
    · rintro rfl
      simp only [List.append_nil] at hstart
      omega
    · simp only [size_append] at hstart ⊢; omega
    · rcases hE e' he' with he' | he'
      · rcases List.mem_cons.1 he' with rfl | he'
        · exact .inr (by simp only [size_append] at hle ⊢; omega)
        · exact .inl he'
      · exact .inr (by simp only [size_append]; omega)
  · rw [← List.append_assoc] at h
    obtain ⟨out', rfl, htail⟩ := h.skip fun e he => by
      have := hback e he
      simp only [size_append] at this ⊢
      omega
    rw [← size_append, ← List.append_assoc] at htail
    refine ⟨w, es, out', by simp, .keep fun e he => ?_, htail, fun e he => ⟨he, hback e he⟩, hstrict, fun e he => ?_⟩
    · rcases hE e he with he | he
      · exact .inr (hback e he)
      · exact .inl (by simp only [size_append]; omega)
    · rcases hE e he with he | he
      · exact .inl he
      · exact .inr (by simp only [size_append]; omega)

end Edit

namespace Pattern

open Edit

variable {p : Pattern} {c : Char} {bound bound' : Nat} {E es : List Edit} {done rest out : Text} {ms : List Match}
  {New : Text → Text → Text → Text → Prop}

theorem Absorbs.solid (hp : p.Absorbs c) : p.Solid := by
  refine solid_of_leading fun h0 => ?_
  have := hp.starts
  rw [h0] at this
  cases this

theorem Absorbs.eq_of_mem (hp : p.Absorbs c) {t : Text} {m m' : Match} {n : Nat} (hm : m ∈ p.findAll t)
    (hm' : m' ∈ p.findAll t) (hn : m.span.start < n ∧ n ≤ m.span.stop) (hn' : m'.span.start < n ∧ n ≤ m'.span.stop) :
    m = m' := by
  by_contra hne
  have hapart := ((hp.solid.lists_findAll t).pairwise hp.solid).imp
    (S := fun m m' : Match => m.span.stop ≤ m'.span.start ∨ m'.span.stop ≤ m.span.start) Or.inl
  have : Std.Symm fun m m' : Match => m.span.stop ≤ m'.span.start ∨ m'.span.stop ≤ m.span.start :=
    ⟨fun _ _ => Or.symm⟩
  rcases hapart.forall hm hm' hne with h | h <;> omega

/-- Texts put into the matches of a pattern leave the matches side by side. `place` is where something can be put
into a match, and what stands in the place of a match has to be taken again. -/
theorem aligned_of_spliced (hp : p.Absorbs c) (place : Match → Nat) {t : Text} {all : List Match}
    (hplace : ∀ m ∈ all, ∀ pre w post placed, p.Sits t m pre w post → Places E pre w placed → ∃ new tail,
      placed = new ++ tail ∧ c ∉ tail ∧ New pre w new tail ∧ ∀ pre' after, after.head? = post.head? →
        (new ++ (tail ++ after)).length ≤ bound' → p.Takes bound' pre' new (tail ++ after))
    (h : Lists p bound done rest ms) (ht : t = done ++ rest) (hall : ∀ m ∈ ms, m ∈ all)
    (hs : Spliced (size done) rest es out) (hstrict : es.Pairwise fun e e' => e.start < e'.start)
    (hes : ∀ e ∈ es, e ∈ E) (hE : ∀ e ∈ E, e ∈ es ∨ e.start ≤ size done)
    (hin : ∀ e ∈ es, e.stop = e.start ∧ ∃ m ∈ ms, e.start = place m ∧ m.span.start < place m ∧ place m ≤ m.span.stop)
    (done' : Text) (hlen : out.length ≤ bound') :
    ∃ ms', Aligned p c bound bound' New done rest ms done' out ms' := by
  induction h generalizing es out done' with
  | @nil done rest habsent =>
    obtain rfl : es = [] := List.eq_nil_iff_forall_not_mem.2 fun e he => by
      obtain ⟨-, m, hm, -⟩ := hin e he
      cases hm
    obtain rfl := hs.eq_of_nil
    refine ⟨[], .nil habsent fun a w b hsplit ho => ?_⟩
    exact habsent a w b hsplit (Spells.move ho hp.plain _ _)
  | @cons done rest a w b stop ms hfirst htail ih =>
    have hspan : (Match.ofEnds (size (done ++ a), stop)).span = ⟨size (done ++ a), size (done ++ a ++ w)⟩ :=
      hfirst.sits.span_eq
    -- an edit for a later match is behind this one
    have hlater : ∀ m ∈ ms, m.span.start < place m → size (done ++ a ++ w) < place m := fun m hm hlt =>
      Nat.lt_of_le_of_lt (htail.le_start hp.solid hm).1 hlt
    have hcases : (∃ e es', es = e :: es' ∧ size (done ++ a) < e.start ∧ e.start ≤ size (done ++ a ++ w) ∧
        ∀ e' ∈ es', size (done ++ a ++ w) < e'.start) ∨ ∀ e ∈ es, size (done ++ a ++ w) < e.start := by
      cases es with
      | nil => exact .inr (by simp)
      | cons e es' =>
        obtain ⟨hbehind, -⟩ := List.pairwise_cons.1 hstrict
        obtain ⟨-, m, hm, hat, hlt, hle⟩ := hin e (by simp)
        rcases List.mem_cons.1 hm with rfl | hm
        · rw [hspan] at hlt hle
          rw [← hat] at hlt hle
          refine .inl ⟨e, es', rfl, hlt, hle, fun e' he' => ?_⟩
          obtain ⟨-, m', hm', hat', hlt', -⟩ := hin e' (by simp [he'])
          rcases List.mem_cons.1 hm' with rfl | hm'
          · have := hbehind e' he'
            omega
          · exact hat' ▸ hlater m' hm' hlt'
        · have hfront := hlater m hm hlt
          refine .inr (List.forall_mem_cons.2 ⟨by omega, fun e' he' => ?_⟩)
          have := hbehind e' he'
          omega
    rw [hfirst.rest_eq] at hs
    obtain ⟨placed, es', out', rfl, hplaced, hs', hes', hstrict', hE'⟩ :=
      hs.exists_placed hstrict (fun e he => (hin e he).1) hes hE hcases
    obtain ⟨new, tail, rfl, hc, hnew, htakes⟩ := hplace _ (hall _ (by simp)) _ _ _ _ (ht ▸ hfirst.sits) hplaced
    have hin' : ∀ e ∈ es', e.stop = e.start ∧
        ∃ m ∈ ms, e.start = place m ∧ m.span.start < place m ∧ place m ≤ m.span.stop := by
      intro e he
      obtain ⟨he, hlt⟩ := hes' e he
      obtain ⟨hstop, m, hm, hat, hplace⟩ := hin e he
      rcases List.mem_cons.1 hm with rfl | hm
      · rw [hspan, ← hat] at hplace
        exact absurd hplace.2 (Nat.not_le.2 hlt)
      · exact ⟨hstop, m, hm, hat, hplace⟩
    simp only [List.length_append] at hlen
    obtain ⟨ms', haligned⟩ := ih (by rw [ht, hfirst.rest_eq]; simp) (fun m hm => hall m (by simp [hm])) hs' hstrict'
      (fun e he => hes e (hes' e he).1) hE' hin' (done' ++ a ++ new ++ tail) (by omega)
    obtain ⟨stop', hfirst'⟩ :
        ∃ stop', First p bound' done' (a ++ (new ++ (tail ++ out'))) a new (tail ++ out') stop' := by
      refine hp.first hfirst (htakes (done' ++ a) out' (haligned.head?_eq hp.starts) ?_)
      simp only [List.length_append]
      omega
    rw [List.append_assoc new tail out']
    exact ⟨_, .cons hfirst hfirst' hnew hc haligned⟩

theorem aligned_findAll (hp : p.Absorbs c) (place : Match → Nat) {t u : Text}
    (hplace : ∀ m ∈ p.findAll t, ∀ pre w post placed, p.Sits t m pre w post → Places E pre w placed → ∃ new tail,
      placed = new ++ tail ∧ c ∉ tail ∧ New pre w new tail ∧ ∀ pre' after, after.head? = post.head? →
        (new ++ (tail ++ after)).length ≤ u.length → p.Takes u.length pre' new (tail ++ after))
    (hu : applyAll t E = .ok u) (hne : E.Pairwise fun e e' => e.start ≠ e'.start)
    (hin : ∀ e ∈ E, e.stop = e.start ∧
      ∃ m ∈ p.findAll t, e.start = place m ∧ m.span.start < place m ∧ place m ≤ m.span.stop) :
    Aligned p c t.length u.length New [] t (p.findAll t) [] u (p.findAll u) := by
  obtain ⟨ms', haligned⟩ := aligned_of_spliced hp place hplace (hp.solid.lists_findAll t) rfl (fun _ hm => hm)
    (applyAll_eq_ok_iff.1 hu) (pairwise_sort hne) (fun e he => mem_sort.1 he) (fun e he => .inl (mem_sort.2 he))
    (fun e he => hin e (mem_sort.1 he)) [] (Nat.le_refl _)
  rwa [(haligned.lists hp.starts).unique (hp.solid.lists_findAll u)] at haligned

end Pattern

end HandlerMigration
