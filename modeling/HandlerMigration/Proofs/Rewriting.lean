import HandlerMigration.Proofs.Splice

/-!
# Texts rewritten in places

`Rewrites New Kept done rest out` takes a text apart as its edits do, and says of each replacement and
of each position that stays what is known about it in the source. Facts about an edited text are proved
by induction on it, with no offsets left (`rewrites_of_applyAll`). The first of them: a fixed part of a
text survives if no replacement gets in its way (`Rewrites.infix_out`).
-/

namespace HandlerMigration

open Text

/-- `out` is the text `rest` behind `done` with parts replaced. Of each replacement `new` of a part `old`
between `pre` and `post` holds `New pre old post new`, and of each position between `pre` and `post` that
stays in front of a character holds `Kept pre post`. -/
inductive Rewrites (New : (pre old post new : Text) → Prop) (Kept : (pre post : Text) → Prop) :
    (done rest out : Text) → Prop where
  | nil {done rest : Text} (hkept : ∀ a c b, rest = a ++ c :: b → Kept (done ++ a) (c :: b)) :
      Rewrites New Kept done rest rest
  | cons {done rest out : Text} (gap old new : Text)
      (hkept : ∀ a c b, gap = a ++ c :: b → Kept (done ++ a) (c :: b ++ old ++ rest))
      (hnew : New (done ++ gap) old rest new) (h : Rewrites New Kept (done ++ gap ++ old) rest out) :
      Rewrites New Kept done (gap ++ old ++ rest) (gap ++ new ++ out)

namespace Edit

variable {New : Text → Text → Text → Text → Prop} {Kept : Text → Text → Prop}

/-- The position behind `a` lies in no span that the edit replaces. -/
def Spares (e : Edit) (a : Text) : Prop := size a < e.start ∨ e.stop ≤ size a

theorem Spliced.rewrites {offset : Nat} {rest out : Text} {es : List Edit} (h : Spliced offset rest es out)
    (done : Text) (hd : size done = offset)
    (hnew : ∀ e ∈ es, ∀ pre old post, done ++ rest = pre ++ old ++ post → size pre = e.start →
      size (pre ++ old) = e.stop → New pre old post e.replacement)
    (hkept : ∀ a c b, rest = a ++ c :: b → (∀ e ∈ es, e.Spares (done ++ a)) → Kept (done ++ a) (c :: b)) :
    Rewrites New Kept done rest out := by
  induction h generalizing done with
  | nil => exact .nil fun a c b h => hkept a c b h (by simp)
  | @cons offset rest out es gap old new h ih =>
    subst hd
    have hsame : done ++ (gap ++ old ++ rest) = done ++ gap ++ old ++ rest := by simp
    refine .cons gap old new ?_ ?_ (ih (done ++ gap ++ old) (by simp [Nat.add_assoc]) ?_ ?_)
    · rintro a c b rfl
      have hlt : size (done ++ a) < size done + size (a ++ c :: b) := by
        have := c.utf8Size_pos
        simp only [size_append, size_cons]; omega
      have hkept := hkept a c (b ++ old ++ rest) (by simp)
      simp only [List.cons_append] at hkept ⊢
      refine hkept fun e he => .inl ?_
      rcases List.mem_cons.1 he with rfl | he
      · exact hlt
      · have := h.le_start e he
        omega
    · exact hnew _ List.mem_cons_self (done ++ gap) old rest hsame (size_append _ _) (by simp only [size_append])
    · intro e he pre old' post ht
      exact hnew e (by simp [he]) pre old' post (hsame.trans ht)
    · intro a c b hr hspares
      have := hkept (gap ++ old ++ a) c b (by rw [hr]; simp)
      simp only [← List.append_assoc] at this
      refine this fun e he => ?_
      rcases List.mem_cons.1 he with rfl | he
      · exact .inr (by simp only [size_append]; omega)
      · exact hspares e he

/-- An edited text is the source rewritten in places. -/
theorem rewrites_of_applyAll {t u : Text} {edits : List Edit} (h : applyAll t edits = .ok u)
    (hnew : ∀ e ∈ edits, ∀ pre old post, t = pre ++ old ++ post → size pre = e.start →
      size (pre ++ old) = e.stop → New pre old post e.replacement)
    (hkept : ∀ a c b, t = a ++ c :: b → (∀ e ∈ edits, e.Spares a) → Kept a (c :: b)) :
    Rewrites New Kept [] t u := by
  refine (applyAll_eq_ok_iff.1 h).rewrites [] rfl (fun e he => hnew e (mem_sort.1 he)) fun a c b ht hspares => ?_
  exact hkept a c b ht fun e he => hspares e (mem_sort.2 he)

theorem Spliced.infix_out {offset : Nat} {rest out : Text} {es : List Edit} (h : Spliced offset rest es out)
    {e : Edit} (he : e ∈ es) : e.replacement <:+: out := by
  induction h with
  | nil => cases he
  | cons gap old new _ ih =>
    rcases List.mem_cons.1 he with rfl | he
    · exact List.infix_append _ _ _
    · exact (ih he).trans (List.suffix_append _ _).isInfix

theorem infix_of_applyAll {t u : Text} {edits : List Edit} (h : applyAll t edits = .ok u) {e : Edit}
    (he : e ∈ edits) : e.replacement <:+: u := (applyAll_eq_ok_iff.1 h).infix_out (mem_sort.2 he)

end Edit

/-- Where the piece `w` of the text `gap ++ new ++ out` lies. -/
inductive Lands (gap new out a w b : Text) : Prop where
  | gap (z : Text) (hgap : gap = a ++ (w ++ z)) (hb : b = z ++ (new ++ out))
  | across (m w' : Text) (hm : m ≠ []) (hw' : w' ≠ []) (hw : w = m ++ w') (hin : w' ++ b = new ++ out)
  | inside (a' m : Text) (hm : m ≠ []) (hnew : a' ++ m = new) (hin : w ++ b = m ++ out)
  | behind (a' : Text) (hout : out = a' ++ (w ++ b))

theorem lands {gap new out a w b : Text} (h : gap ++ new ++ out = a ++ (w ++ b)) : Lands gap new out a w b := by
  have hbehind : ∀ a', new ++ out = a' ++ (w ++ b) → Lands gap new out a w b := by
    intro a' h
    rcases List.append_eq_append_iff.1 h with ⟨a'', -, hout⟩ | ⟨m, hm, hin⟩
    · exact .behind a'' hout
    · rcases eq_or_ne m [] with rfl | hne
      · exact .behind [] hin.symm
      · exact .inside a' m hne hm.symm hin
  rw [List.append_assoc] at h
  rcases List.append_eq_append_iff.1 h with ⟨a', -, hin⟩ | ⟨m, hgap, hin⟩
  · exact hbehind a' hin
  · rcases List.append_eq_append_iff.1 hin with ⟨z, hm, hb⟩ | ⟨w', hw, hb⟩
    · exact .gap z (by rw [hgap, hm]) hb
    · rcases eq_or_ne w' [] with rfl | hw'
      · exact .gap [] (by rw [hgap, hw]; simp) hb.symm
      · rcases eq_or_ne m [] with rfl | hne
        · exact hbehind [] (by rw [hb, hw]; rfl)
        · exact .across m w' hne hw' hw hb.symm

namespace Rewrites

variable {New : Text → Text → Text → Text → Prop} {Kept : Text → Text → Prop} {done rest out m : Text}

/-- A part of the source survives if nothing replaced holds it, ends with one of its characters or
starts as it ends, unless what replaces it starts so as well. -/
theorem infix_out (h : Rewrites New Kept done rest out)
    (hend : ∀ pre old post new, New pre old post new → ∀ c ∈ (pre ++ old).getLast?, c ∉ m)
    (hold : ∀ pre old post new, New pre old post new → ¬ m <:+: old)
    (hstart : ∀ pre old post new, New pre old post new → ∀ s, s ≠ [] → s <:+ m → s <+: old → s <+: new)
    (hm : m <:+: rest) : m <:+: out := by
  induction h with
  | nil => exact hm
  | @cons done rest out gap old new _ hnew _ ih =>
    rcases List.infix_append_iff.1 hm with hm | hm | ⟨s₁, s₂, rfl, ⟨x, hx⟩, hs₂⟩
    · -- in front of the end of the replaced part
      rcases List.infix_append_iff.1 hm with hm | hm | ⟨s₁, s₂, rfl, ⟨x, rfl⟩, hs₂⟩
      · exact hm.trans (List.infix_append [] gap (new ++ out) |>.trans (by simp))
      · exact absurd hm (hold _ _ _ _ hnew)
      · have hs₂' : s₂ <+: new := by
          rcases eq_or_ne s₂ [] with rfl | hne
          · exact List.nil_prefix
          · exact hstart _ _ _ _ hnew s₂ hne (List.suffix_append _ _) hs₂
        obtain ⟨y, rfl⟩ := hs₂'
        exact ⟨x, y ++ out, by simp⟩
    · exact (ih hm).trans (List.suffix_append _ _).isInfix
    · -- across that end
      rcases List.eq_nil_or_concat' s₁ with rfl | ⟨s₁, c, rfl⟩
      · obtain ⟨y, rfl⟩ := hs₂
        exact (ih ⟨[], y, by simp⟩).trans (List.suffix_append _ _).isInfix
      · refine absurd (List.mem_append_left s₂ (List.mem_append_right s₁ (List.mem_singleton_self c))) ?_
        refine hend _ _ _ _ hnew c ?_
        rw [List.append_assoc, ← hx]
        simp

end Rewrites

end HandlerMigration
