import HandlerMigration.Proofs.Cut

/-!
# The bytes of a text

A text and its UTF-8 form. Only the bytes of ASCII characters are below 128, so wherever such a byte
stands the text can be cut (`exists_cut_of_ascii`).
-/

namespace HandlerMigration

/-- The byte of an ASCII character. -/
abbrev byte (c : Char) : UInt8 := c.toUInt8

namespace Text

/-- The UTF-8 form of a text. -/
def bytes (t : Text) : List UInt8 := t.flatMap String.utf8EncodeChar

@[simp] theorem bytes_nil : bytes [] = [] := rfl

theorem bytes_cons (c : Char) (t : Text) : bytes (c :: t) = String.utf8EncodeChar c ++ bytes t := rfl

@[simp] theorem bytes_append (a b : Text) : bytes (a ++ b) = bytes a ++ bytes b := List.flatMap_append

@[simp] theorem length_bytes (t : Text) : (bytes t).length = size t := by
  induction t with
  | nil => rfl
  | cons c t ih => simp [bytes_cons, ih]

theorem encode_of_lt {c : Char} (h : c.toNat < 128) : String.utf8EncodeChar c = [byte c] := by
  refine String.utf8EncodeChar_eq_singleton (Char.utf8Size_eq_one_iff.2 ?_)
  exact UInt32.le_iff_toNat_le.2 (Nat.le_of_lt_succ h)

theorem utf8Size_of_lt {c : Char} (h : c.toNat < 128) : c.utf8Size = 1 :=
  Char.utf8Size_eq_one_iff.2 (UInt32.le_iff_toNat_le.2 (Nat.le_of_lt_succ h))

theorem toNat_byte {c : Char} (h : c.toNat < 128) : (byte c).toNat = c.toNat := by
  show c.val.toNat % 256 = c.val.toNat
  exact Nat.mod_eq_of_lt (Nat.lt_trans h (by decide))

theorem byte_inj {c d : Char} (hc : c.toNat < 128) (hd : d.toNat < 128) : byte c = byte d ↔ c = d := by
  constructor
  · intro h
    have := congrArg UInt8.toNat h
    rw [toNat_byte hc, toNat_byte hd] at this
    exact Char.toNat_inj.1 this
  · rintro rfl; rfl

theorem le_of_mem_encode {c : Char} (h : ¬ c.toNat < 128) : ∀ b ∈ String.utf8EncodeChar c, 128 ≤ b.toNat := by
  have hc : ¬ c.val.toNat ≤ 127 := fun h' => h (Nat.lt_succ_of_le h')
  intro b hb
  unfold String.utf8EncodeChar at hb
  simp only [hc, ↓reduceIte] at hb
  split at hb
  · simp only [List.mem_cons, List.not_mem_nil, or_false] at hb
    rcases hb with rfl | rfl <;> simp <;> omega
  · split at hb
    · simp only [List.mem_cons, List.not_mem_nil, or_false] at hb
      rcases hb with rfl | rfl | rfl <;> simp <;> omega
    · simp only [List.mem_cons, List.not_mem_nil, or_false] at hb
      rcases hb with rfl | rfl | rfl | rfl <;> simp <;> omega

/-- Where a byte below 128 stands, the text can be cut, and its character follows. -/
theorem exists_cut_of_ascii {t : Text} {n : Nat} {b : UInt8} (h : (bytes t)[n]? = some b) (hb : b.toNat < 128) :
    ∃ a c r, t = a ++ c :: r ∧ size a = n ∧ c.toNat < 128 ∧ byte c = b := by
  induction t generalizing n with
  | nil => simp at h
  | cons x t ih =>
    rw [bytes_cons] at h
    by_cases hn : n < (String.utf8EncodeChar x).length
    · rw [List.getElem?_append_left hn] at h
      by_cases hx : x.toNat < 128
      · rw [encode_of_lt hx] at h hn
        obtain rfl : n = 0 := by simpa using hn
        exact ⟨[], x, t, rfl, rfl, hx, by simpa using h⟩
      · exact absurd hb (Nat.not_lt.2 (le_of_mem_encode hx b (List.mem_of_getElem? h)))
    · rw [List.getElem?_append_right (Nat.not_lt.1 hn)] at h
      rw [String.length_utf8EncodeChar] at h hn
      obtain ⟨a, c, r, rfl, hs, hc, hcb⟩ := ih h
      exact ⟨x :: a, c, r, rfl, by simp only [size_cons]; omega, hc, hcb⟩

end Text

end HandlerMigration
