import HandlerMigration.Proofs.Search
import HandlerMigration.Shape.Declaration

/-!
# Names of the header table

A text names the header table if the name stands in it as a word of its own. A character that is no part
of a word therefore takes the question apart: a text names the table exactly if a part on one side of the
character does (`namesTable_append_cons`).
-/

namespace HandlerMigration

theorem isWord_of_isBlank {c : Char} (h : isBlank c = true) : Unicode.isWord c = false := by
  have hall : ∀ n ∈ [9, 10, 11, 12, 13, 0x20, 0x85, 0xA0, 0x1680, 0x2000, 0x2001, 0x2002, 0x2003, 0x2004, 0x2005,
      0x2006, 0x2007, 0x2008, 0x2009, 0x200A, 0x2028, 0x2029, 0x202F, 0x205F, 0x3000],
      Unicode.isWord (Char.ofNat n) = false := by decide +kernel
  rw [← Char.ofNat_toNat c]
  apply hall
  simp only [isBlank, Bool.or_eq_true, Bool.and_eq_true, decide_eq_true_eq, beq_iff_eq] at h
  simp only [List.mem_cons, List.not_mem_nil, or_false]
  omega

namespace Shape

open Pattern Text

variable {t x y : Text} {c : Char}

/-- The name of the table. -/
def tableName : Text := ['c', 'o', 'r', 's', 'H', 'e', 'a', 'd', 'e', 'r', 's']

/-- The text has the name of the table as a word of its own. -/
def NamesTable (t : Text) : Prop :=
  ∃ a b, t = a ++ (tableName ++ b) ∧ a.getLast?.any Unicode.isWord = false ∧ b.head?.any Unicode.isWord = false

theorem headerReferencePattern_occurs_iff {a w b : Text} :
    headerReferencePattern.Occurs a w b ↔
      w = tableName ∧ a.getLast?.any Unicode.isWord = false ∧ b.head?.any Unicode.isWord = false := by
  have hfirst : Unicode.isWord 'c' = true := by decide
  have hlast : Unicode.isWord 's' = true := by decide
  constructor
  · rintro ⟨_, _, rfl, ⟨_, _, rfl, ⟨rfl, hb⟩, rfl⟩, rfl, hb'⟩
    refine ⟨rfl, ?_, ?_⟩
    · simpa [Boundary.holds, hfirst] using hb
    · simpa [Boundary.holds, hlast] using hb'
  · rintro ⟨rfl, ha, hb⟩
    refine ⟨tableName, [], by simp, ⟨[], tableName, rfl, ⟨rfl, ?_⟩, rfl⟩, rfl, ?_⟩
    · simpa [Boundary.holds, hfirst, tableName] using ha
    · simpa [Boundary.holds, hlast, tableName] using hb

theorem headerReferences_pos_iff : 0 < headerReferences t ↔ NamesTable t := by
  rw [headerReferences, List.length_pos_iff, ne_eq, findAll_eq_nil_iff]
  simp only [Absent, List.nil_append, not_forall, not_not, exists_prop]
  constructor
  · rintro ⟨a, w, b, ht, ho⟩
    obtain ⟨rfl, ha, hb⟩ := headerReferencePattern_occurs_iff.1 ho
    exact ⟨a, b, ht, ha, hb⟩
  · rintro ⟨a, b, ht, hab⟩
    exact ⟨a, tableName, b, ht, headerReferencePattern_occurs_iff.2 ⟨rfl, hab⟩⟩

theorem NamesTable.isInfix (h : NamesTable t) : tableName <:+: t := by
  obtain ⟨a, b, rfl, -⟩ := h
  exact ⟨a, b, by simp⟩

theorem NamesTable.le_length (h : NamesTable t) : 11 ≤ t.length := h.isInfix.length_le

theorem isWord_of_mem_tableName (h : c ∈ tableName) : Unicode.isWord c = true := by
  have hall : tableName.all Unicode.isWord = true := by decide
  exact List.all_eq_true.1 hall c h

/-- The name cannot reach over a character that is no part of a word. -/
theorem namesTable_append_cons (hc : Unicode.isWord c = false) :
    NamesTable (x ++ c :: y) ↔ NamesTable x ∨ NamesTable y := by
  have hnot : c ∉ tableName := fun h => by simp [isWord_of_mem_tableName h] at hc
  have hlast : ∀ a : Text, (x ++ c :: a).getLast?.any Unicode.isWord = a.getLast?.any Unicode.isWord := by
    intro a
    rw [List.getLast?_append, List.getLast?_cons, Option.some_or]
    cases a.getLast? <;> simp [hc]
  constructor
  · rintro ⟨a, b, h, ha, hb⟩
    rcases List.append_eq_append_iff.1 h with ⟨a', rfl, hy⟩ | ⟨m, rfl, hm⟩
    · cases a' with
      | nil => exact absurd (by rw [List.nil_append] at hy; cases hy; simp [tableName]) hnot
      | cons d a' =>
        obtain ⟨rfl, rfl⟩ := List.cons.inj hy
        exact .inr ⟨a', b, rfl, hlast a' ▸ ha, hb⟩
    · rcases List.append_eq_append_iff.1 hm with ⟨m', rfl, rfl⟩ | ⟨n, hn, hy⟩
      · refine .inl ⟨a, m', rfl, ha, ?_⟩
        cases m' with
        | nil => rfl
        | cons d m' => simpa using hb
      · cases n with
        | nil =>
          rw [List.append_nil] at hn
          exact .inl ⟨a, [], by rw [hn, List.append_nil], ha, rfl⟩
        | cons d n =>
          obtain ⟨rfl, -⟩ := List.cons.inj hy
          exact absurd (by rw [hn]; simp) hnot
  · rintro (⟨a, b, rfl, ha, hb⟩ | ⟨a, b, rfl, ha, hb⟩)
    · refine ⟨a, b ++ c :: y, by simp, ha, ?_⟩
      cases b with
      | nil => exact hc
      | cons d b => exact hb
    · exact ⟨x ++ c :: a, b, by simp, (hlast a).trans ha, hb⟩

end Shape

end HandlerMigration
