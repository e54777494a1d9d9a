import HandlerMigration.Text.Basic
import Mathlib.Data.List.Basic

/-!
# Cutting a text

`cut_eq_some_iff`: a text can be cut at an offset exactly if it is made of two parts of which the
first has that size, and then these parts are the answer. Everything else about offsets follows from
it, so that no later proof has to look at the recursion of `cut`.
-/

namespace HandlerMigration.Text

variable {t a b c d : Text} {n : Nat}

@[simp] theorem size_nil : size [] = 0 := rfl

@[simp] theorem size_cons (x : Char) (t : Text) : size (x :: t) = x.utf8Size + size t := rfl

@[simp] theorem size_append (a b : Text) : size (a ++ b) = size a + size b := by
  induction a with
  | nil => simp
  | cons x a ih => simp [ih, Nat.add_assoc]

theorem size_eq_zero : size t = 0 ↔ t = [] := by
  cases t with
  | nil => simp
  | cons x t => have := x.utf8Size_pos; simp; omega

theorem size_pos (h : t ≠ []) : 0 < size t := Nat.pos_of_ne_zero fun h0 => h (size_eq_zero.1 h0)

theorem cut_append (a b : Text) : (a ++ b).cut (size a) = some (a, b) := by
  induction a with
  | nil => simp [cut]
  | cons x a ih =>
    have hx := x.utf8Size_pos
    obtain ⟨m, hm⟩ : ∃ m, x.utf8Size + size a = m + 1 := ⟨x.utf8Size + size a - 1, by omega⟩
    have hm' : m + 1 - x.utf8Size = size a := by omega
    rw [size_cons, hm, List.cons_append, cut, if_neg (by omega), hm', ih]
    rfl

theorem cut_eq_some_iff : t.cut n = some (a, b) ↔ t = a ++ b ∧ size a = n := by
  constructor
  · intro h
    fun_induction cut t n generalizing a b with
    | case1 t => cases h; exact ⟨rfl, rfl⟩
    | case2 => cases h
    | case3 => cases h
    | case4 x t n hx ih =>
      obtain ⟨⟨p, q⟩, hpq, he⟩ := Option.map_eq_some_iff.1 h
      cases he
      obtain ⟨rfl, hs⟩ := ih hpq
      exact ⟨rfl, by simp only [size_cons]; omega⟩
  · rintro ⟨rfl, rfl⟩
    exact cut_append a b

theorem isBoundary_iff : t.isBoundary n = true ↔ ∃ a b, t = a ++ b ∧ size a = n := by
  rw [isBoundary, Option.isSome_iff_exists]
  constructor
  · rintro ⟨⟨a, b⟩, h⟩
    exact ⟨a, b, cut_eq_some_iff.1 h⟩
  · rintro ⟨a, b, h⟩
    exact ⟨(a, b), cut_eq_some_iff.2 h⟩

theorem prefix_of_size_le (h : a ++ b = c ++ d) (hs : size a ≤ size c) : ∃ m, c = a ++ m ∧ b = m ++ d := by
  rcases List.append_eq_append_iff.1 h with ⟨m, hc, hb⟩ | ⟨m, ha, hd⟩
  · exact ⟨m, hc, hb⟩
  · have hm : m = [] := size_eq_zero.1 (by rw [ha, size_append] at hs; omega)
    subst hm
    exact ⟨[], by simpa using ha.symm, by simpa using hd.symm⟩

theorem exists_inside {p : Text} (h : a ++ (p ++ b) = c ++ d) (hle : size a ≤ size c) (hlt : size c < size (a ++ p)) :
    ∃ x y, c = a ++ x ∧ p = x ++ y ∧ d = y ++ b ∧ y ≠ [] := by
  obtain ⟨x, rfl, hx⟩ := prefix_of_size_le h hle
  simp only [size_append] at hlt
  obtain ⟨y, rfl, rfl⟩ := prefix_of_size_le hx.symm (by omega)
  refine ⟨x, y, rfl, rfl, rfl, ?_⟩
  rintro rfl
  simp at hlt

theorem append_inj_of_size (h : a ++ b = c ++ d) (hs : size a = size c) : a = c ∧ b = d := by
  obtain ⟨m, rfl, rfl⟩ := prefix_of_size_le h (Nat.le_of_eq hs)
  have hm : m = [] := size_eq_zero.1 (by rw [size_append] at hs; omega)
  subst hm
  simp

theorem slice_append (a b c : Text) : (a ++ b ++ c).slice ⟨size a, size a + size b⟩ = b := by
  have h1 : (a ++ b ++ c).cut (size a + size b) = some (a ++ b, c) := by
    rw [← size_append]; exact cut_append (a ++ b) c
  simp only [slice, h1, cut_append]

end HandlerMigration.Text
