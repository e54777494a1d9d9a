import HandlerMigration.Proofs.Bytes
import Mathlib.Order.Monotone.Basic

/-!
# The two ways to end a line

`crlf` puts a carriage return in front of every newline of a text, and `crlfOffset` says where an offset of the
text gets to. The new text can be cut where the old one can and, besides, between the two characters of a line
end (`exists_of_crlf_eq`).
-/

namespace HandlerMigration

/-- Both ends of a span moved. -/
def Span.map (f : Nat → Nat) (s : Span) : Span := ⟨f s.start, f s.stop⟩

namespace Text

variable {t a b : Text}

/-- A text with a carriage return in front of every newline. -/
def crlf (t : Text) : Text := t.flatMap fun c => if c = '\n' then ['\r', '\n'] else [c]

/-- Where an offset of a text is in `crlf t`: every newline in front of it moves it by one. -/
def crlfOffset (t : Text) (n : Nat) : Nat := n + ((bytes t).take n).count (byte '\n')

@[simp] theorem crlf_nil : crlf [] = [] := rfl

@[simp] theorem crlf_append (a b : Text) : crlf (a ++ b) = crlf a ++ crlf b := List.flatMap_append

theorem crlf_newline (t : Text) : crlf ('\n' :: t) = '\r' :: '\n' :: crlf t := rfl

theorem crlf_cons {c : Char} (hc : c ≠ '\n') (t : Text) : crlf (c :: t) = c :: crlf t := by
  rw [crlf, List.flatMap_cons, if_neg hc]
  rfl

theorem crlf_eq_self (h : '\n' ∉ t) : crlf t = t := by
  induction t with
  | nil => rfl
  | cons c t ih =>
    simp only [List.mem_cons, not_or] at h
    rw [crlf_cons (Ne.symm h.1), ih h.2]

theorem crlf_eq_nil : crlf t = [] ↔ t = [] := by
  refine ⟨fun h => ?_, fun h => by rw [h, crlf_nil]⟩
  cases t with
  | nil => rfl
  | cons c t =>
    by_cases hc : c = '\n'
    · rw [hc, crlf_newline] at h
      cases h
    · rw [crlf_cons hc] at h
      cases h

theorem getLast?_crlf (t : Text) : (crlf t).getLast? = t.getLast? := by
  rcases List.eq_nil_or_concat' t with rfl | ⟨t, c, rfl⟩
  · rfl
  · by_cases hc : c = '\n'
    · rw [hc, crlf_append, crlf_newline]
      simp
    · rw [crlf_append, crlf_cons hc]
      simp

theorem head?_crlf (t : Text) : (crlf t).head? = if t.head? = some '\n' then some '\r' else t.head? := by
  cases t with
  | nil => rfl
  | cons c t =>
    by_cases hc : c = '\n'
    · rw [hc, crlf_newline]
      rfl
    · rw [crlf_cons hc]
      simp [hc]

/-- `crlf t` can be cut where `t` can, and inside of the line ends. -/
theorem exists_of_crlf_eq (h : crlf t = a ++ b) :
    (∃ x y, t = x ++ y ∧ a = crlf x ∧ b = crlf y) ∨
      ∃ x y, t = x ++ '\n' :: y ∧ a = crlf x ++ ['\r'] ∧ b = '\n' :: crlf y := by
  induction t generalizing a with
  | nil =>
    obtain ⟨rfl, rfl⟩ := List.append_eq_nil_iff.1 h.symm
    exact .inl ⟨[], [], rfl, rfl, rfl⟩
  | cons c t ih =>
    cases a with
    | nil => exact .inl ⟨[], c :: t, rfl, rfl, h.symm⟩
    | cons d a =>
      by_cases hc : c = '\n'
      · subst hc
        obtain ⟨rfl, htail⟩ := List.cons.inj ((crlf_newline t).symm.trans h)
        cases a with
        | nil => exact .inr ⟨[], t, rfl, rfl, htail.symm⟩
        | cons d a =>
          obtain ⟨rfl, hrest⟩ := List.cons.inj htail
          rcases ih hrest with ⟨x, y, rfl, rfl, rfl⟩ | ⟨x, y, rfl, rfl, rfl⟩
          · exact .inl ⟨'\n' :: x, y, rfl, rfl, rfl⟩
          · exact .inr ⟨'\n' :: x, y, rfl, rfl, rfl⟩
      · obtain ⟨rfl, htail⟩ := List.cons.inj ((crlf_cons hc t).symm.trans h)
        rcases ih htail with ⟨x, y, rfl, rfl, rfl⟩ | ⟨x, y, rfl, rfl, rfl⟩
        · exact .inl ⟨c :: x, y, rfl, (crlf_cons hc x).symm, rfl⟩
        · exact .inr ⟨c :: x, y, rfl, by rw [crlf_cons hc]; rfl, rfl⟩

/-! ### Offsets -/

theorem newline_not_mem_encode {c : Char} (hc : c ≠ '\n') : byte '\n' ∉ String.utf8EncodeChar c := by
  intro h
  by_cases ha : c.toNat < 128
  · rw [encode_of_lt ha, List.mem_singleton] at h
    exact hc ((byte_inj ha (by decide)).1 h.symm)
  · exact absurd (le_of_mem_encode ha _ h) (by decide)

theorem size_crlf (t : Text) : size (crlf t) = size t + (bytes t).count (byte '\n') := by
  induction t with
  | nil => rfl
  | cons c t ih =>
    by_cases hc : c = '\n'
    · subst hc
      rw [crlf_newline, bytes_cons, encode_of_lt (by decide), List.singleton_append, List.count_cons_self]
      simp only [size_cons, ih, show ('\r' : Char).utf8Size = 1 from rfl, show ('\n' : Char).utf8Size = 1 from rfl]
      omega
    · rw [crlf_cons hc, bytes_cons, List.count_append, List.count_eq_zero_of_not_mem (newline_not_mem_encode hc)]
      simp only [size_cons, ih]
      omega

theorem crlfOffset_append (a b : Text) (n : Nat) :
    crlfOffset (a ++ b) (size a + n) = size (crlf a) + crlfOffset b n := by
  rw [crlfOffset, crlfOffset, size_crlf, bytes_append, ← length_bytes, List.take_length_add_append, List.count_append]
  omega

@[simp] theorem crlfOffset_zero (t : Text) : crlfOffset t 0 = 0 := by simp [crlfOffset]

theorem crlfOffset_size_append (a b : Text) : crlfOffset (a ++ b) (size a) = size (crlf a) := by
  have h := crlfOffset_append a b 0
  rwa [crlfOffset_zero] at h

theorem crlfOffset_size (t : Text) : crlfOffset t (size t) = size (crlf t) := by
  have h := crlfOffset_size_append t []
  rwa [List.append_nil] at h

theorem strictMono_crlfOffset (t : Text) : StrictMono t.crlfOffset := by
  intro n m h
  have hle := (List.take_prefix_take_left (l := bytes t) (Nat.le_of_lt h)).sublist.count_le (byte '\n')
  unfold crlfOffset
  omega

/-- An offset and where it gets to cut the two texts into the same parts. -/
theorem cut_crlf (t : Text) (n : Nat) :
    (crlf t).cut (crlfOffset t n) = (t.cut n).map fun parts => (crlf parts.1, crlf parts.2) := by
  cases h : t.cut n with
  | some parts =>
    obtain ⟨a, b⟩ := parts
    obtain ⟨rfl, rfl⟩ := cut_eq_some_iff.1 h
    rw [crlf_append, crlfOffset_size_append, cut_append]
    rfl
  | none =>
    refine Option.eq_none_iff_forall_ne_some.2 fun parts hparts => ?_
    obtain ⟨a, b⟩ := parts
    obtain ⟨hab, hsize⟩ := cut_eq_some_iff.1 hparts
    rcases exists_of_crlf_eq hab with ⟨x, y, rfl, rfl, rfl⟩ | ⟨x, y, rfl, rfl, rfl⟩
    · rw [← crlfOffset_size_append x y, (strictMono_crlfOffset _).injective.eq_iff] at hsize
      rw [← hsize, cut_append] at h
      cases h
    · -- no offset gets to the place inside of a line end: those around it are two apart
      have hstart := crlfOffset_size_append x ('\n' :: y)
      have hnext := crlfOffset_append x ('\n' :: y) 1
      have hone : crlfOffset ('\n' :: y) 1 = 2 := crlfOffset_size_append ['\n'] y
      rw [size_append, size_cons, size_nil, show ('\r' : Char).utf8Size = 1 from rfl] at hsize
      have hmono := strictMono_crlfOffset (x ++ '\n' :: y)
      have hfront : size x < n := hmono.lt_iff_lt.1 (by omega)
      have hback : n < size x + 1 := hmono.lt_iff_lt.1 (by omega)
      omega

theorem crlfOffset_append_of_le {n : Nat} (h : n ≤ size a) : crlfOffset (a ++ b) n = crlfOffset a n := by
  rw [crlfOffset, crlfOffset, bytes_append, List.take_append_of_le_length (by rwa [length_bytes])]

theorem cut_eq_none_of_lt {n : Nat} (h : size t < n) : t.cut n = none := by
  refine Option.eq_none_iff_forall_ne_some.2 fun parts hparts => ?_
  obtain ⟨rfl, rfl⟩ := cut_eq_some_iff.1 hparts
  rw [size_append] at h
  omega

theorem slice_crlf (t : Text) (s : Span) : (crlf t).slice (s.map t.crlfOffset) = crlf (t.slice s) := by
  simp only [slice, Span.map, cut_crlf]
  cases hstop : t.cut s.stop with
  | none => rfl
  | some parts =>
    obtain ⟨upTo, b⟩ := parts
    obtain ⟨rfl, -⟩ := cut_eq_some_iff.1 hstop
    simp only [Option.map_some]
    rcases Nat.lt_or_ge (size upTo) s.start with hlt | hle
    · have hlt' : size (crlf upTo) < crlfOffset (upTo ++ b) s.start := by
        rw [← crlfOffset_size_append upTo b]
        exact strictMono_crlfOffset _ hlt
      rw [cut_eq_none_of_lt hlt, cut_eq_none_of_lt hlt']
      rfl
    · rw [crlfOffset_append_of_le hle, cut_crlf]
      cases upTo.cut s.start <;> rfl

end Text

end HandlerMigration
