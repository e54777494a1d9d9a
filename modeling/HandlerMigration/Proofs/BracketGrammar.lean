import HandlerMigration.Bracket
import HandlerMigration.Proofs.Bytes

/-!
# The grammar of bracketed code

`Reads` is the grammar of code over bytes: plain bytes, strings, comments, template literals with code
in their substitutions, and brackets around code. Main statement: the scan finds the end of a bracket
exactly if the grammar has code between it and the closer (`closing_iff_closes`).

`scanBytes` is the scan over bytes. It agrees with the scan over characters because no byte of a
character outside ASCII means anything in any mode. Against the grammar it is followed both ways: code
can be stepped over (`Reads.scanBytes_append`), and what is stepped over before an answer is code
(`scanBytes_sound`).
-/

namespace HandlerMigration.Bracket

open Text

/-! ### The grammar -/

/-- The byte that closes an opening bracket. -/
def closerByte? (b : UInt8) : Option UInt8 :=
  if b = byte '{' then some (byte '}')
  else if b = byte '(' then some (byte ')')
  else if b = byte '[' then some (byte ']')
  else none

/-- Neither a quote nor a bracket. -/
def Plain (b : UInt8) : Prop :=
  b ∉ [byte '\'', byte '"', byte '\x60', byte '{', byte '}', byte '(', byte ')', byte '[', byte ']']

/-- What stands in a string between its quotes. -/
inductive StringBody (quote : UInt8) : List UInt8 → Prop where
  | nil : StringBody quote []
  | escape (b : UInt8) {w : List UInt8} (h : StringBody quote w) : StringBody quote (byte '\\' :: b :: w)
  | other {b : UInt8} {w : List UInt8} (hb : b ≠ byte '\\') (hn : b ≠ byte '\n') (hq : b ≠ quote)
      (h : StringBody quote w) : StringBody quote (b :: w)

/-- What a piece of a text is read as. -/
inductive Part where
  | code
  /-- The inside of a template literal. -/
  | template

/-- `piece` is code, or the inside of a template literal, where `rest` follows it. -/
inductive Reads : Part → (piece rest : List UInt8) → Prop where
  | nil (part : Part) (rest : List UInt8) : Reads part [] rest
  | plain {b : UInt8} {w rest : List UInt8} (hb : Plain b)
      (hc : b = byte '/' → (w ++ rest).head? ≠ some (byte '/') ∧ (w ++ rest).head? ≠ some (byte '*'))
      (h : Reads .code w rest) : Reads .code (b :: w) rest
  /-- A string with both its quotes. -/
  | string {q : UInt8} {s w rest : List UInt8} (hq : q = byte '\'' ∨ q = byte '"') (hs : StringBody q s)
      (h : Reads .code w rest) : Reads .code (q :: (s ++ q :: w)) rest
  /-- A string that ends with its line. The newline is not part of it. -/
  | openString {q : UInt8} {s w rest : List UInt8} (hq : q = byte '\'' ∨ q = byte '"')
      (hs : StringBody q s) (hn : (w ++ rest).head? = some (byte '\n')) (h : Reads .code w rest) :
      Reads .code (q :: (s ++ w)) rest
  | lineComment {s w rest : List UInt8} (hs : byte '\n' ∉ s) (h : Reads .code w rest) :
      Reads .code (byte '/' :: byte '/' :: (s ++ byte '\n' :: w)) rest
  | blockComment {s w rest : List UInt8} (hs : ¬ [byte '*', byte '/'] <:+: s) (h : Reads .code w rest) :
      Reads .code (byte '/' :: byte '*' :: (s ++ byte '*' :: byte '/' :: w)) rest
  | literal {s w rest : List UInt8} (hs : Reads .template s (byte '\x60' :: (w ++ rest)))
      (h : Reads .code w rest) : Reads .code (byte '\x60' :: (s ++ byte '\x60' :: w)) rest
  | bracket {o c : UInt8} {s w rest : List UInt8} (ho : closerByte? o = some c)
      (hs : Reads .code s (c :: (w ++ rest))) (h : Reads .code w rest) :
      Reads .code (o :: (s ++ c :: w)) rest
  | escape (b : UInt8) {w rest : List UInt8} (h : Reads .template w rest) :
      Reads .template (byte '\\' :: b :: w) rest
  | substitution {s w rest : List UInt8} (hs : Reads .code s (byte '}' :: (w ++ rest)))
      (h : Reads .template w rest) :
      Reads .template (byte '$' :: byte '{' :: (s ++ byte '}' :: w)) rest
  | other {b : UInt8} {w rest : List UInt8} (hb : b ≠ byte '\\') (ht : b ≠ byte '\x60')
      (hd : b = byte '$' → (w ++ rest).head? ≠ some (byte '{')) (h : Reads .template w rest) :
      Reads .template (b :: w) rest

/-- The bytes from the opening bracket at `offset` up to `stop` are a bracket around code. -/
def Closes (s : List UInt8) (offset stop : Nat) : Prop :=
  ∃ o c, s[offset]? = some o ∧ closerByte? o = some c ∧ offset + 2 ≤ stop ∧ stop ≤ s.length ∧
    s[stop - 1]? = some c ∧ Reads .code ((s.drop (offset + 1)).take (stop - 1 - (offset + 1))) (s.drop (stop - 1))

/-! ### The scan over bytes -/

/-- What one byte does to the scan. -/
inductive Move where
  | fail
  /-- The bracket is closed. -/
  | finish
  | go (mode : Mode) (stack : List Open)
  /-- The next byte belongs to this one. -/
  | goPast (mode : Mode) (stack : List Open)

/-- The move at a closer, by what was opened last. -/
def moveClose (b : UInt8) : List Open → Move
  | [] => .fail
  | .bracket d :: outer => if b = byte d then if outer.isEmpty then .finish else .go .code outer else .fail
  | .substitution :: outer => if b = byte '}' then .go .template outer else .fail

/-- The move at the byte `b`, in front of the byte `next`. -/
def move (stack : List Open) (b : UInt8) (next : Option UInt8) : Mode → Move
  | .code =>
    if b = byte '\'' then .go (.quoted '\'') stack
    else if b = byte '"' then .go (.quoted '"') stack
    else if b = byte '\x60' then .go .template stack
    else if b = byte '/' ∧ next = some (byte '/') then .goPast .lineComment stack
    else if b = byte '/' ∧ next = some (byte '*') then .goPast .blockComment stack
    else if b = byte '{' then .go .code (.bracket '}' :: stack)
    else if b = byte '(' then .go .code (.bracket ')' :: stack)
    else if b = byte '[' then .go .code (.bracket ']' :: stack)
    else if b = byte '}' ∨ b = byte ')' ∨ b = byte ']' then moveClose b stack
    else .go .code stack
  | .quoted q =>
    if b = byte '\\' then .goPast (.quoted q) stack
    else if b = byte '\n' ∨ b = byte q then .go .code stack
    else .go (.quoted q) stack
  | .template =>
    if b = byte '\\' then .goPast .template stack
    else if b = byte '\x60' then .go .code stack
    else if b = byte '$' ∧ next = some (byte '{') then .goPast .code (.substitution :: stack)
    else .go .template stack
  | .lineComment => if b = byte '\n' then .go .code stack else .go .lineComment stack
  | .blockComment =>
    if b = byte '*' ∧ next = some (byte '/') then .goPast .code stack else .go .blockComment stack

/-- `scan` over the bytes of a text. If `past` holds, the first byte belongs to the one before it. -/
def scanBytes (past : Bool) (mode : Mode) (stack : List Open) (offset : Nat) : List UInt8 → Option Nat
  | [] => none
  | b :: s =>
    if past then scanBytes false mode stack (offset + 1) s
    else
      match move stack b s.head? mode with
      | .fail => none
      | .finish => some (offset + 1)
      | .go mode stack => scanBytes false mode stack (offset + 1) s
      | .goPast mode stack => scanBytes true mode stack (offset + 1) s

section Moves

variable {mode mode' : Mode} {stack stack' : List Open} {n : Nat} {b : UInt8} {s : List UInt8}

@[simp] theorem scanBytes_nil {past : Bool} : scanBytes past mode stack n [] = none := rfl

@[simp] theorem scanBytes_past : scanBytes true mode stack n (b :: s) = scanBytes false mode stack (n + 1) s := rfl

theorem scanBytes_fail (h : move stack b s.head? mode = .fail) : scanBytes false mode stack n (b :: s) = none := by
  simp [scanBytes, h]

theorem scanBytes_go (h : move stack b s.head? mode = .go mode' stack') :
    scanBytes false mode stack n (b :: s) = scanBytes false mode' stack' (n + 1) s := by
  simp [scanBytes, h]

theorem scanBytes_goPast {d : UInt8} (h : move stack b (some d) mode = .goPast mode' stack') :
    scanBytes false mode stack n (b :: d :: s) = scanBytes false mode' stack' (n + 2) s := by
  simp [scanBytes, h]

end Moves

/-! ### One step over code -/

/-- The byte that an open bracket or substitution waits for. -/
def Open.closer : Open → UInt8
  | .bracket d => byte d
  | .substitution => byte '}'

theorem Open.closer_bracket (d : Char) : (Open.bracket d).closer = byte d := rfl

theorem Open.closer_substitution : Open.substitution.closer = byte '}' := rfl

/-- How the scan goes on behind the closer of the last thing opened. -/
def resume : Open → (outer : List Open) → (offset : Nat) → List UInt8 → Option Nat
  | .bracket _, outer, n, s => if outer.isEmpty then some n else scanBytes false .code outer n s
  | .substitution, outer, n, s => scanBytes false .template outer n s

def IsCloser (b : UInt8) : Prop := b = byte '}' ∨ b = byte ')' ∨ b = byte ']'

section Step

variable {b o c : UInt8} {s r : List UInt8} {stack outer : List Open} {n : Nat}

/-- What a byte of code, with what follows it, is the start of. -/
inductive Starts : UInt8 → List UInt8 → Prop where
  | quote {q : Char} (hq : q = '\'' ∨ q = '"') (s : List UInt8) : Starts (byte q) s
  | tick (s : List UInt8) : Starts (byte '\x60') s
  | slashes (s : List UInt8) : Starts (byte '/') (byte '/' :: s)
  | slashStar (s : List UInt8) : Starts (byte '/') (byte '*' :: s)
  | opener {b c : UInt8} (hb : closerByte? b = some c) (s : List UInt8) : Starts b s
  | closer {b : UInt8} (hb : IsCloser b) (s : List UInt8) : Starts b s
  | plain {b : UInt8} {s : List UInt8} (hb : Plain b)
      (hc : b = byte '/' → s.head? ≠ some (byte '/') ∧ s.head? ≠ some (byte '*')) : Starts b s

theorem starts (b : UInt8) (s : List UInt8) : Starts b s := by
  by_cases hp : Plain b
  · by_cases hb : b = byte '/'
    · subst hb
      match s with
      | [] => exact .plain hp (by simp)
      | x :: r =>
        by_cases hx : x = byte '/'
        · subst hx; exact .slashes r
        by_cases hx' : x = byte '*'
        · subst hx'; exact .slashStar r
        exact .plain hp (by simp [hx, hx'])
    · exact .plain hp fun h => absurd h hb
  · simp only [Plain, not_not, List.mem_cons, List.not_mem_nil, or_false] at hp
    rcases hp with rfl | rfl | rfl | rfl | rfl | rfl | rfl | rfl | rfl
    exacts [.quote (.inl rfl) s, .quote (.inr rfl) s, .tick s, .opener (c := byte '}') (by decide) s,
      .closer (.inl rfl) s, .opener (c := byte ')') (by decide) s, .closer (.inr (.inl rfl)) s,
      .opener (c := byte ']') (by decide) s, .closer (.inr (.inr rfl)) s]

theorem scanBytes_plain (hb : Plain b)
    (hc : b = byte '/' → s.head? ≠ some (byte '/') ∧ s.head? ≠ some (byte '*')) :
    scanBytes false .code stack n (b :: s) = scanBytes false .code stack (n + 1) s := by
  simp only [Plain, List.mem_cons, List.not_mem_nil, or_false, not_or] at hb
  obtain ⟨h1, h2, h3, h4, h5, h6, h7, h8, h9⟩ := hb
  have hl : ¬ (b = byte '/' ∧ s.head? = some (byte '/')) := fun h => (hc h.1).1 h.2
  have hk : ¬ (b = byte '/' ∧ s.head? = some (byte '*')) := fun h => (hc h.1).2 h.2
  exact scanBytes_go (by simp only [move, h1, h2, h3, h4, h5, h6, h7, h8, h9, hl, hk, ↓reduceIte, or_self])

theorem scanBytes_quote {q : Char} (hq : q = '\'' ∨ q = '"') :
    scanBytes false .code stack n (byte q :: s) = scanBytes false (.quoted q) stack (n + 1) s :=
  scanBytes_go (by rcases hq with rfl | rfl <;> simp +decide [move])

theorem scanBytes_tick :
    scanBytes false .code stack n (byte '\x60' :: s) = scanBytes false .template stack (n + 1) s :=
  scanBytes_go (by simp +decide [move])

theorem scanBytes_slashes :
    scanBytes false .code stack n (byte '/' :: byte '/' :: s) = scanBytes false .lineComment stack (n + 2) s :=
  scanBytes_goPast (by simp +decide [move])

theorem scanBytes_slashStar :
    scanBytes false .code stack n (byte '/' :: byte '*' :: s) = scanBytes false .blockComment stack (n + 2) s :=
  scanBytes_goPast (by simp +decide [move])

theorem scanBytes_open (ho : closerByte? o = some c) :
    ∃ d, byte d = c ∧ IsCloser c ∧ ∀ stack n s,
      scanBytes false .code stack n (o :: s) = scanBytes false .code (.bracket d :: stack) (n + 1) s := by
  unfold closerByte? at ho
  split_ifs at ho with h1 h2 h3 <;> subst o <;> cases ho
  · exact ⟨'}', rfl, .inl rfl, fun _ _ _ => scanBytes_go (by simp +decide [move])⟩
  · exact ⟨')', rfl, .inr (.inl rfl), fun _ _ _ => scanBytes_go (by simp +decide [move])⟩
  · exact ⟨']', rfl, .inr (.inr rfl), fun _ _ _ => scanBytes_go (by simp +decide [move])⟩

theorem move_close (hb : IsCloser b) (next : Option UInt8) : move stack b next .code = moveClose b stack := by
  rcases hb with rfl | rfl | rfl <;> simp +decide [move]

theorem scanBytes_close (hb : IsCloser b) (o : Open) :
    scanBytes false .code (o :: outer) n (b :: s) =
      if b = o.closer then resume o outer (n + 1) s else none := by
  simp only [scanBytes, move_close hb, Bool.false_eq_true, ↓reduceIte]
  cases o with
  | bracket d =>
    by_cases hd : b = byte d
    · cases outer <;> simp [moveClose, Open.closer, resume, hd]
    · simp [moveClose, Open.closer, hd]
  | substitution =>
    by_cases hd : b = byte '}'
    · simp [moveClose, Open.closer, resume, hd]
    · simp [moveClose, Open.closer, hd]

end Step

/-! ### Strings and comments -/

section Runs

variable {q : Char} {s : List UInt8} {stack : List Open} {n e : Nat}

theorem scanBytes_quoted_other {b : UInt8} (hb : b ≠ byte '\\') (hn : b ≠ byte '\n') (hq : b ≠ byte q) :
    scanBytes false (.quoted q) stack n (b :: s) = scanBytes false (.quoted q) stack (n + 1) s :=
  scanBytes_go (by simp only [move, hb, hn, hq, ↓reduceIte, or_self])

theorem scanBytes_quoted_escape (b : UInt8) :
    scanBytes false (.quoted q) stack n (byte '\\' :: b :: s) = scanBytes false (.quoted q) stack (n + 2) s :=
  scanBytes_goPast (by simp only [move, ↓reduceIte])

theorem StringBody.scanBytes_append (h : StringBody (byte q) s) (r : List UInt8) :
    scanBytes false (.quoted q) stack n (s ++ r) = scanBytes false (.quoted q) stack (n + s.length) r := by
  induction h generalizing n with
  | nil => rfl
  | escape b _ ih =>
    rw [List.cons_append, List.cons_append, scanBytes_quoted_escape, ih, List.length_cons, List.length_cons]
    congr 1; omega
  | other hb hn hq _ ih =>
    rw [List.cons_append, scanBytes_quoted_other hb hn hq, ih, List.length_cons]
    congr 1; omega

theorem scanBytes_quoted_newline :
    scanBytes false (.quoted q) stack n (byte '\n' :: s) = scanBytes false .code stack n (byte '\n' :: s) := by
  rw [scanBytes_plain (by simp [Plain]; decide) (by simp +decide)]
  exact scanBytes_go (by simp +decide [move])

theorem scanBytes_quoted_close (hq : q = '\'' ∨ q = '"') :
    scanBytes false (.quoted q) stack n (byte q :: s) = scanBytes false .code stack (n + 1) s :=
  scanBytes_go (by rcases hq with rfl | rfl <;> simp +decide [move])

theorem scanBytes_quoted_sound (hq : q = '\'' ∨ q = '"') : ∀ (s : List UInt8) (n : Nat),
    scanBytes false (.quoted q) stack n s = some e → ∃ w r, StringBody (byte q) w ∧
      (s = w ++ byte q :: r ∧ scanBytes false .code stack (n + w.length + 1) r = some e ∨
        s = w ++ r ∧ r.head? = some (byte '\n') ∧ scanBytes false .code stack (n + w.length) r = some e)
  | [], n, h => by cases h
  | [b], n, h => by
    by_cases hb : b = byte '\\'
    · simp [scanBytes, move, hb] at h
    by_cases hn : b = byte '\n' ∨ b = byte q
    · rw [scanBytes_go (show move stack b _ _ = .go .code stack by simp only [move, hb, hn, ↓reduceIte])] at h
      cases h
    · rw [not_or] at hn
      rw [scanBytes_quoted_other hb hn.1 hn.2] at h
      cases h
  | b :: x :: s, n, h => by
    by_cases hb : b = byte '\\'
    · subst hb
      rw [scanBytes_quoted_escape] at h
      obtain ⟨w, r, hw, hr⟩ := scanBytes_quoted_sound hq s (n + 2) h
      refine ⟨byte '\\' :: x :: w, r, .escape x hw, ?_⟩
      simpa [Nat.add_assoc, Nat.add_comm 2, Nat.add_left_comm] using hr
    by_cases hn : b = byte '\n'
    · subst hn
      rw [scanBytes_quoted_newline] at h
      exact ⟨[], byte '\n' :: x :: s, .nil, .inr ⟨rfl, rfl, h⟩⟩
    by_cases hq' : b = byte q
    · subst hq'
      rw [scanBytes_quoted_close hq] at h
      exact ⟨[], x :: s, .nil, .inl ⟨rfl, h⟩⟩
    · rw [scanBytes_quoted_other hb hn hq'] at h
      obtain ⟨w, r, hw, hr⟩ := scanBytes_quoted_sound hq (x :: s) (n + 1) h
      refine ⟨b :: w, r, .other hb hn hq' hw, ?_⟩
      simpa [Nat.add_assoc, Nat.add_comm 1] using hr

theorem scanBytes_lineComment_other {b : UInt8} (hb : b ≠ byte '\n') :
    scanBytes false .lineComment stack n (b :: s) = scanBytes false .lineComment stack (n + 1) s :=
  scanBytes_go (by simp only [move, hb, ↓reduceIte])

theorem scanBytes_lineComment_append (h : byte '\n' ∉ s) (r : List UInt8) :
    scanBytes false .lineComment stack n (s ++ byte '\n' :: r) = scanBytes false .code stack (n + s.length + 1) r := by
  induction s generalizing n with
  | nil => exact scanBytes_go (by simp [move])
  | cons b s ih =>
    simp only [List.mem_cons, not_or] at h
    rw [List.cons_append, scanBytes_lineComment_other (Ne.symm h.1), ih h.2, List.length_cons]
    congr 1; omega

theorem scanBytes_lineComment_sound (h : scanBytes false .lineComment stack n s = some e) :
    ∃ w r, byte '\n' ∉ w ∧ s = w ++ byte '\n' :: r ∧ scanBytes false .code stack (n + w.length + 1) r = some e := by
  induction s generalizing n with
  | nil => cases h
  | cons b s ih =>
    by_cases hb : b = byte '\n'
    · subst hb
      exact ⟨[], s, by simp, rfl, scanBytes_lineComment_append (s := []) (by simp) s ▸ h⟩
    · rw [scanBytes_lineComment_other hb] at h
      obtain ⟨w, r, hw, rfl, hr⟩ := ih h
      refine ⟨b :: w, r, by simp [hw, Ne.symm hb], rfl, ?_⟩
      simpa [Nat.add_assoc, Nat.add_comm 1] using hr

theorem scanBytes_blockComment_other {b : UInt8} (hb : b = byte '*' → s.head? ≠ some (byte '/')) :
    scanBytes false .blockComment stack n (b :: s) = scanBytes false .blockComment stack (n + 1) s := by
  have h : ¬ (b = byte '*' ∧ s.head? = some (byte '/')) := fun h => hb h.1 h.2
  exact scanBytes_go (by simp only [move, h, ↓reduceIte])

theorem scanBytes_blockComment_close :
    scanBytes false .blockComment stack n (byte '*' :: byte '/' :: s) = scanBytes false .code stack (n + 2) s :=
  scanBytes_goPast (by simp [move])

theorem scanBytes_blockComment_append (h : ¬ [byte '*', byte '/'] <:+: s) (r : List UInt8) :
    scanBytes false .blockComment stack n (s ++ byte '*' :: byte '/' :: r) =
      scanBytes false .code stack (n + s.length + 2) r := by
  induction s generalizing n with
  | nil => exact scanBytes_blockComment_close
  | cons b s ih =>
    have hb : b = byte '*' → (s ++ byte '*' :: byte '/' :: r).head? ≠ some (byte '/') := by
      rintro rfl
      cases s with
      | nil => simp +decide
      | cons x s =>
        simp only [List.cons_append, List.head?_cons, ne_eq, Option.some.injEq]
        rintro rfl
        exact h ⟨[], s, rfl⟩
    rw [List.cons_append, scanBytes_blockComment_other hb, ih fun hi => h (hi.trans (List.infix_cons s.infix_refl)),
      List.length_cons]
    congr 1; omega

theorem scanBytes_blockComment_sound : ∀ (s : List UInt8) (n : Nat),
    scanBytes false .blockComment stack n s = some e → ∃ w r, ¬ [byte '*', byte '/'] <:+: w ∧
      s = w ++ byte '*' :: byte '/' :: r ∧ scanBytes false .code stack (n + w.length + 2) r = some e
  | [], n, h => by cases h
  | b :: s, n, h => by
    by_cases hb : b = byte '*' ∧ s.head? = some (byte '/')
    · obtain ⟨rfl, hs⟩ := hb
      obtain ⟨r, rfl⟩ : ∃ r, s = byte '/' :: r := by
        cases s with
        | nil => simp at hs
        | cons x r => exact ⟨r, by simpa using hs⟩
      rw [scanBytes_blockComment_close] at h
      exact ⟨[], r, by simp, rfl, h⟩
    · rw [scanBytes_blockComment_other fun h1 h2 => hb ⟨h1, h2⟩] at h
      obtain ⟨w, r, hw, rfl, hr⟩ := scanBytes_blockComment_sound s (n + 1) h
      refine ⟨b :: w, r, fun hi => ?_, rfl, by simpa [Nat.add_assoc, Nat.add_comm 1] using hr⟩
      rcases List.infix_cons_iff.1 hi with hp | hi
      · -- an end that starts with `b` needs the next byte, which is in `w`
        obtain ⟨u, hu⟩ := hp
        simp only [List.cons_append, List.cons.injEq, List.nil_append] at hu
        exact hb ⟨hu.1.symm, by rw [← hu.2]; rfl⟩
      · exact hw hi

end Runs

/-! ### Template literals -/

section Template

variable {b : UInt8} {s : List UInt8} {stack : List Open} {n : Nat}

theorem scanBytes_template_escape (b : UInt8) :
    scanBytes false .template stack n (byte '\\' :: b :: s) = scanBytes false .template stack (n + 2) s :=
  scanBytes_goPast (by simp only [move, ↓reduceIte])

theorem scanBytes_template_close :
    scanBytes false .template stack n (byte '\x60' :: s) = scanBytes false .code stack (n + 1) s :=
  scanBytes_go (by simp +decide [move])

theorem scanBytes_template_substitution :
    scanBytes false .template stack n (byte '$' :: byte '{' :: s) =
      scanBytes false .code (.substitution :: stack) (n + 2) s :=
  scanBytes_goPast (by simp +decide [move])

theorem scanBytes_template_other (hb : b ≠ byte '\\') (ht : b ≠ byte '\x60')
    (hd : b = byte '$' → s.head? ≠ some (byte '{')) :
    scanBytes false .template stack n (b :: s) = scanBytes false .template stack (n + 1) s := by
  have h : ¬ (b = byte '$' ∧ s.head? = some (byte '{')) := fun h => hd h.1 h.2
  exact scanBytes_go (by simp only [move, hb, ht, h, ↓reduceIte])

end Template

/-! ### The scan and the grammar -/

/-- Code is stepped over whatever is open around it; the inside of a template literal too. -/
theorem Reads.scanBytes_append {part : Part} {w rest : List UInt8} (h : Reads part w rest) :
    match part with
    | .code => ∀ (o : Open) (outer : List Open) (n : Nat),
      scanBytes false .code (o :: outer) n (w ++ rest) = scanBytes false .code (o :: outer) (n + w.length) rest
    | .template => ∀ (stack : List Open) (n : Nat),
      scanBytes false .template stack n (w ++ rest) = scanBytes false .template stack (n + w.length) rest := by
  induction h with
  | nil part rest => cases part <;> simp
  | plain hb hc _ ih =>
    intro o outer n
    rw [List.cons_append, scanBytes_plain hb hc, ih, List.length_cons]
    congr 1; omega
  | @string q s w rest hq hs _ ih =>
    intro o outer n
    obtain ⟨c, hc, rfl⟩ : ∃ c : Char, (c = '\'' ∨ c = '"') ∧ q = byte c := by
      rcases hq with rfl | rfl
      exacts [⟨'\'', .inl rfl, rfl⟩, ⟨'"', .inr rfl, rfl⟩]
    have hsplit : (byte c :: (s ++ byte c :: w)) ++ rest = byte c :: (s ++ byte c :: (w ++ rest)) := by simp
    rw [hsplit, scanBytes_quote hc, hs.scanBytes_append, scanBytes_quoted_close hc, ih]
    simp only [List.length_cons, List.length_append]; congr 1; omega
  | @openString q s w rest hq hs hn _ ih =>
    intro o outer n
    obtain ⟨c, hc, rfl⟩ : ∃ c : Char, (c = '\'' ∨ c = '"') ∧ q = byte c := by
      rcases hq with rfl | rfl
      exacts [⟨'\'', .inl rfl, rfl⟩, ⟨'"', .inr rfl, rfl⟩]
    have hsplit : (byte c :: (s ++ w)) ++ rest = byte c :: (s ++ (w ++ rest)) := by simp
    have hcode : ∀ n, scanBytes false (.quoted c) (o :: outer) n (w ++ rest) =
        scanBytes false .code (o :: outer) n (w ++ rest) := by
      intro n
      cases hw : w ++ rest with
      | nil => rw [hw] at hn; cases hn
      | cons x r =>
        rw [hw] at hn
        cases hn
        exact scanBytes_quoted_newline
    rw [hsplit, scanBytes_quote hc, hs.scanBytes_append, hcode, ih]
    simp only [List.length_cons, List.length_append]; congr 1; omega
  | @lineComment s w rest hs _ ih =>
    intro o outer n
    have hsplit : (byte '/' :: byte '/' :: (s ++ byte '\n' :: w)) ++ rest =
        byte '/' :: byte '/' :: (s ++ byte '\n' :: (w ++ rest)) := by simp
    rw [hsplit, scanBytes_slashes, scanBytes_lineComment_append hs, ih]
    simp only [List.length_cons, List.length_append]; congr 1; omega
  | @blockComment s w rest hs _ ih =>
    intro o outer n
    have hsplit : (byte '/' :: byte '*' :: (s ++ byte '*' :: byte '/' :: w)) ++ rest =
        byte '/' :: byte '*' :: (s ++ byte '*' :: byte '/' :: (w ++ rest)) := by simp
    rw [hsplit, scanBytes_slashStar, scanBytes_blockComment_append hs, ih]
    simp only [List.length_cons, List.length_append]; congr 1; omega
  | @literal s w rest _ _ ihs ih =>
    intro o outer n
    have hsplit : (byte '\x60' :: (s ++ byte '\x60' :: w)) ++ rest =
        byte '\x60' :: (s ++ byte '\x60' :: (w ++ rest)) := by simp
    rw [hsplit, scanBytes_tick, ihs, scanBytes_template_close, ih]
    simp only [List.length_cons, List.length_append]; congr 1; omega
  | @bracket b c s w rest ho _ _ ihs ih =>
    intro o outer n
    obtain ⟨d, rfl, hc, hopen⟩ := scanBytes_open ho
    have hsplit : (b :: (s ++ byte d :: w)) ++ rest = b :: (s ++ byte d :: (w ++ rest)) := by simp
    rw [hsplit, hopen, ihs, scanBytes_close hc]
    simp only [Open.closer, resume, List.isEmpty_cons, Bool.false_eq_true, ↓reduceIte]
    rw [ih]
    simp only [List.length_cons, List.length_append]; congr 1; omega
  | @escape b w rest _ ih =>
    intro stack n
    rw [List.cons_append, List.cons_append, scanBytes_template_escape, ih]
    simp only [List.length_cons]; congr 1; omega
  | @substitution s w rest _ _ ihs ih =>
    intro stack n
    have hsplit : (byte '$' :: byte '{' :: (s ++ byte '}' :: w)) ++ rest =
        byte '$' :: byte '{' :: (s ++ byte '}' :: (w ++ rest)) := by simp
    rw [hsplit, scanBytes_template_substitution, ihs, scanBytes_close (.inl rfl)]
    simp only [Open.closer, resume, ↓reduceIte]
    rw [ih]
    simp only [List.length_cons, List.length_append]; congr 1; omega
  | @other b w rest hb ht hd _ ih =>
    intro stack n
    rw [List.cons_append, scanBytes_template_other hb ht hd, ih, List.length_cons]
    congr 1; omega

section Sound

/-- What is stepped over before an answer is code up to the closer of what was opened last. -/
def CodeSound (s : List UInt8) : Prop :=
  ∀ o outer n e, scanBytes false .code (o :: outer) n s = some e →
    ∃ w r, s = w ++ o.closer :: r ∧ Reads .code w (o.closer :: r) ∧ resume o outer (n + w.length + 1) r = some e

def TemplateSound (s : List UInt8) : Prop :=
  ∀ stack n e, scanBytes false .template stack n s = some e →
    ∃ w r, s = w ++ byte '\x60' :: r ∧ Reads .template w (byte '\x60' :: r) ∧
      scanBytes false .code stack (n + w.length + 1) r = some e

variable {b : UInt8} {s : List UInt8} (ih : ∀ v u, s = v ++ u → CodeSound u ∧ TemplateSound u)

include ih

theorem codeSound_cons : CodeSound (b :: s) := by
  intro o outer n e h
  cases starts b s with
  | plain hb hc =>
    rw [scanBytes_plain hb hc] at h
    obtain ⟨w, r, rfl, hw, hr⟩ := (ih [] s rfl).1 o outer (n + 1) e h
    exact ⟨b :: w, r, rfl, .plain hb hc hw, by simpa [Nat.add_assoc, Nat.add_comm 1] using hr⟩
  | @quote q hq s =>
    rw [scanBytes_quote hq] at h
    have hq' : byte q = byte '\'' ∨ byte q = byte '"' := hq.imp (congrArg byte) (congrArg byte)
    obtain ⟨body, r', hbody, ⟨rfl, h'⟩ | ⟨rfl, hn, h'⟩⟩ := scanBytes_quoted_sound hq s (n + 1) h
    · obtain ⟨w, r, rfl, hw, hr⟩ := (ih (body ++ [byte q]) r' (by simp)).1 o outer _ e h'
      refine ⟨byte q :: (body ++ byte q :: w), r, by simp, .string hq' hbody hw, ?_⟩
      rw [← hr]; congr 1; simp only [List.length_cons, List.length_append]; omega
    · obtain ⟨w, r, rfl, hw, hr⟩ := (ih body r' rfl).1 o outer _ e h'
      refine ⟨byte q :: (body ++ w), r, by simp, .openString hq' hbody hn hw, ?_⟩
      rw [← hr]; congr 1; simp only [List.length_cons, List.length_append]; omega
  | tick s =>
    rw [scanBytes_tick] at h
    obtain ⟨body, r', rfl, hbody, h'⟩ := (ih [] s rfl).2 _ _ e h
    obtain ⟨w, r, rfl, hw, hr⟩ := (ih (body ++ [byte '\x60']) r' (by simp)).1 o outer _ e h'
    refine ⟨byte '\x60' :: (body ++ byte '\x60' :: w), r, by simp, .literal hbody hw, ?_⟩
    rw [← hr]; congr 1; simp only [List.length_cons, List.length_append]; omega
  | slashes s =>
    rw [scanBytes_slashes] at h
    obtain ⟨body, r', hbody, rfl, h'⟩ := scanBytes_lineComment_sound h
    obtain ⟨w, r, rfl, hw, hr⟩ := (ih (byte '/' :: body ++ [byte '\n']) r' (by simp)).1 o outer _ e h'
    refine ⟨byte '/' :: byte '/' :: (body ++ byte '\n' :: w), r, by simp, .lineComment hbody hw, ?_⟩
    rw [← hr]; congr 1; simp only [List.length_cons, List.length_append]; omega
  | slashStar s =>
    rw [scanBytes_slashStar] at h
    obtain ⟨body, r', hbody, rfl, h'⟩ := scanBytes_blockComment_sound s _ h
    obtain ⟨w, r, rfl, hw, hr⟩ := (ih (byte '*' :: body ++ [byte '*', byte '/']) r' (by simp)).1 o outer _ e h'
    refine ⟨byte '/' :: byte '*' :: (body ++ byte '*' :: byte '/' :: w), r, by simp,
      .blockComment hbody hw, ?_⟩
    rw [← hr]; congr 1; simp only [List.length_cons, List.length_append]; omega
  | @opener _ c hb s =>
    obtain ⟨d, rfl, -, hopen⟩ := scanBytes_open hb
    rw [hopen] at h
    obtain ⟨body, r', rfl, hbody, h'⟩ := (ih [] s rfl).1 _ _ _ e h
    simp only [resume, List.isEmpty_cons, Bool.false_eq_true, ↓reduceIte] at h'
    obtain ⟨w, r, rfl, hw, hr⟩ := (ih (body ++ [byte d]) r' (by simp [Open.closer])).1 o outer _ e h'
    refine ⟨b :: (body ++ byte d :: w), r, by simp [Open.closer], .bracket hb hbody hw, ?_⟩
    rw [← hr]; congr 1; simp only [List.length_cons, List.length_append]; omega
  | closer hb s =>
    rw [scanBytes_close hb] at h
    split at h
    · subst b
      exact ⟨[], s, rfl, .nil _ _, h⟩
    · cases h

theorem templateSound_cons : TemplateSound (b :: s) := by
  intro stack n e h
  by_cases ht : b = byte '\x60'
  · subst ht
    rw [scanBytes_template_close] at h
    exact ⟨[], s, rfl, .nil _ _, h⟩
  by_cases hb : b = byte '\\'
  · subst hb
    cases s with
    | nil => simp [scanBytes, move] at h
    | cons x s =>
      rw [scanBytes_template_escape] at h
      obtain ⟨w, r, rfl, hw, hr⟩ := (ih [x] s rfl).2 _ _ e h
      refine ⟨byte '\\' :: x :: w, r, rfl, .escape x hw, ?_⟩
      rw [← hr]; congr 1; simp only [List.length_cons]; omega
  by_cases hd : b = byte '$' ∧ s.head? = some (byte '{')
  · obtain ⟨rfl, hs⟩ := hd
    obtain ⟨s, rfl⟩ := List.head?_eq_some_iff.1 hs
    rw [scanBytes_template_substitution] at h
    obtain ⟨body, r', rfl, hbody, h'⟩ := (ih [byte '{'] s rfl).1 _ _ _ e h
    obtain ⟨w, r, rfl, hw, hr⟩ := (ih (byte '{' :: body ++ [byte '}']) r' (by simp [Open.closer])).2 _ _ e h'
    refine ⟨byte '$' :: byte '{' :: (body ++ byte '}' :: w), r, by simp [Open.closer],
      .substitution hbody hw, ?_⟩
    rw [← hr]; congr 1; simp only [List.length_cons, List.length_append]; omega
  · have hd' : b = byte '$' → s.head? ≠ some (byte '{') := fun h1 h2 => hd ⟨h1, h2⟩
    rw [scanBytes_template_other hb ht hd'] at h
    obtain ⟨w, r, rfl, hw, hr⟩ := (ih [] s rfl).2 _ _ e h
    exact ⟨b :: w, r, rfl, .other hb ht hd' hw, by simpa [Nat.add_assoc, Nat.add_comm 1] using hr⟩

end Sound

-- Behind a bracket or a template literal the scan goes on with what is left of the bytes, so the
-- statement is about every end of them.
theorem scanBytes_sound (s : List UInt8) : ∀ v u, s = v ++ u → CodeSound u ∧ TemplateSound u := by
  induction s with
  | nil =>
    intro v u h
    obtain ⟨rfl, rfl⟩ := List.append_eq_nil_iff.1 h.symm
    constructor
    · rintro o outer n e ⟨⟩
    · rintro stack n e ⟨⟩
  | cons b s ih =>
    intro v u h
    cases v with
    | nil =>
      subst h
      exact ⟨codeSound_cons ih, templateSound_cons ih⟩
    | cons x v => exact ih v u (List.cons.inj h).2

/-! ### Characters and bytes -/

/-- The quotes and closers that the scan waits for are ASCII characters. -/
def Mode.IsAscii : Mode → Prop
  | .quoted q => q.toNat < 128
  | _ => True

def Open.IsAscii : Open → Prop
  | .bracket d => d.toNat < 128
  | .substitution => True

section Characters

variable {mode : Mode} {stack : List Open} {n : Nat} {c d : Char} {t : Text}

theorem bytes_ascii (hc : c.toNat < 128) (t : Text) : bytes (c :: t) = byte c :: bytes t := by
  rw [bytes_cons, encode_of_lt hc]; rfl

theorem ne_byte {b : UInt8} (hb : 128 ≤ b.toNat) (hc : c.toNat < 128) : b ≠ byte c := by
  rintro rfl
  rw [toNat_byte hc] at hb
  omega

theorem head?_bytes (hd : d.toNat < 128) : (bytes t).head? = some (byte d) ↔ t.head? = some d := by
  cases t with
  | nil => simp
  | cons c t =>
    by_cases hc : c.toNat < 128
    · simp [bytes_ascii hc, byte_inj hc hd]
    · constructor
      · intro h
        rw [bytes_cons] at h
        have hmem : byte d ∈ String.utf8EncodeChar c := by
          cases he : String.utf8EncodeChar c with
          | nil => have := String.length_utf8EncodeChar c; have := c.utf8Size_pos; simp_all
          | cons x xs => rw [he] at h; simp only [List.cons_append, List.head?_cons, Option.some.injEq] at h; simp [h]
        exact absurd rfl (ne_byte (le_of_mem_encode hc _ hmem) hd)
      · rintro ⟨⟩
        exact absurd hd hc

theorem head?_bytes_ne (hd : d.toNat < 128) (h : ∀ r, t = d :: r → False) : (bytes t).head? ≠ some (byte d) := by
  intro hhead
  obtain ⟨r, hr⟩ := List.head?_eq_some_iff.1 ((head?_bytes hd).1 hhead)
  exact h r hr

theorem byte_ne_byte (hc : c.toNat < 128) (hd : d.toNat < 128) (h : c ≠ d) : byte c ≠ byte d :=
  fun h' => h ((byte_inj hc hd).1 h')

theorem move_high {b : UInt8} (hb : 128 ≤ b.toNat) (next : Option UInt8) (hm : mode.IsAscii) :
    move stack b next mode = .go mode stack := by
  have hne : ∀ {c : Char}, c.toNat < 128 → b ≠ byte c := fun hc => ne_byte hb hc
  cases mode with
  | quoted q => simp [move, hne hm, hne (c := '\\') (by decide), hne (c := '\n') (by decide)]
  | code =>
    simp [move, hne (c := '\'') (by decide), hne (c := '"') (by decide), hne (c := '\x60') (by decide),
      hne (c := '/') (by decide), hne (c := '{') (by decide), hne (c := '(') (by decide),
      hne (c := '[') (by decide), hne (c := '}') (by decide), hne (c := ')') (by decide),
      hne (c := ']') (by decide)]
  | template =>
    simp [move, hne (c := '\\') (by decide), hne (c := '\x60') (by decide), hne (c := '$') (by decide)]
  | lineComment => simp [move, hne (c := '\n') (by decide)]
  | blockComment => simp [move, hne (c := '*') (by decide)]

theorem scanBytes_high (hm : mode.IsAscii) (hi s : List UInt8) (h : ∀ b ∈ hi, 128 ≤ b.toNat) :
    scanBytes false mode stack n (hi ++ s) = scanBytes false mode stack (n + hi.length) s := by
  induction hi generalizing n with
  | nil => rfl
  | cons b hi ih =>
    rw [List.cons_append, scanBytes_go (move_high (h b (by simp)) _ hm), ih fun x hx => h x (by simp [hx]),
      List.length_cons]
    congr 1; omega

theorem scanBytes_char (hm : mode.IsAscii)
    (h : c.toNat < 128 → move stack (byte c) (bytes t).head? mode = .go mode stack) :
    scanBytes false mode stack n (bytes (c :: t)) = scanBytes false mode stack (n + c.utf8Size) (bytes t) := by
  by_cases hc : c.toNat < 128
  · rw [bytes_ascii hc, scanBytes_go (h hc), utf8Size_of_lt hc]
  · rw [bytes_cons, scanBytes_high hm _ _ (le_of_mem_encode hc), String.length_utf8EncodeChar]

/-- Behind a backslash a whole character is stepped over: its first byte is, and the others mean
nothing. -/
theorem scanBytes_past_char (hm : mode.IsAscii) (d : Char) (t : Text) :
    scanBytes true mode stack n (bytes (d :: t)) = scanBytes false mode stack (n + d.utf8Size) (bytes t) := by
  by_cases hd : d.toNat < 128
  · rw [bytes_ascii hd, scanBytes_past, utf8Size_of_lt hd]
  · rw [bytes_cons, ← String.length_utf8EncodeChar]
    cases he : String.utf8EncodeChar d with
    | nil => have := String.length_utf8EncodeChar d; have := d.utf8Size_pos; simp_all
    | cons x xs =>
      rw [List.cons_append, scanBytes_past, scanBytes_high hm, List.length_cons]
      · congr 1; omega
      · exact fun b hb => le_of_mem_encode hd b (by simp [he, hb])

theorem closer?_eq_some (h : closer? c = some d) :
    c.toNat < 128 ∧ d.toNat < 128 ∧ closerByte? (byte c) = some (byte d) ∧
      ∀ stack next, move stack (byte c) next .code = .go .code (.bracket d :: stack) := by
  unfold closer? at h
  split at h <;> cases h <;>
    exact ⟨by decide, by decide, by decide, fun _ _ => by simp +decide [move]⟩

theorem closer?_eq_none (h : closer? c = none) : c ≠ '{' ∧ c ≠ '(' ∧ c ≠ '[' := by
  refine ⟨?_, ?_, ?_⟩ <;> rintro rfl <;> cases h

theorem isCloser_iff : isCloser c = true ↔ c = '}' ∨ c = ')' ∨ c = ']' := by
  simp [isCloser, or_assoc]

theorem isCloser_byte (h : isCloser c = true) : c.toNat < 128 ∧ IsCloser (byte c) := by
  rcases isCloser_iff.1 h with rfl | rfl | rfl
  exacts [⟨by decide, .inl rfl⟩, ⟨by decide, .inr (.inl rfl)⟩, ⟨by decide, .inr (.inr rfl)⟩]

/-- The scan over characters is the scan over their bytes. -/
theorem scan_eq_scanBytes (mode : Mode) (stack : List Open) (n : Nat) (t : Text) (hm : mode.IsAscii)
    (hs : ∀ o ∈ stack, o.IsAscii) : scan mode stack n t = scanBytes false mode stack n (bytes t) := by
  fun_induction scan mode stack n t with
  | case1 => rfl
  | case2 stack n c t hc ih =>
    have hq : c = '\'' ∨ c = '"' := by simpa using hc
    have ha : c.toNat < 128 := by rcases hq with rfl | rfl <;> decide
    rw [ih ha hs, bytes_ascii ha, scanBytes_quote hq]
  | case3 stack n c t _ hc ih =>
    obtain rfl : c = '\x60' := by simpa using hc
    rw [ih trivial hs, bytes_ascii (by decide), scanBytes_tick]
  | case4 stack n c _ _ hc t ih =>
    obtain rfl : c = '/' := by simpa using hc
    rw [ih trivial hs, bytes_ascii (by decide), bytes_ascii (by decide), scanBytes_slashes]
  | case5 stack n c _ _ hc t ih =>
    obtain rfl : c = '/' := by simpa using hc
    rw [ih trivial hs, bytes_ascii (by decide), bytes_ascii (by decide), scanBytes_slashStar]
  | case6 stack n c _ _ hc t hl hk ih =>
    obtain rfl : c = '/' := by simpa using hc
    rw [ih trivial hs, bytes_ascii (by decide), scanBytes_plain (by simp [Plain]; decide) fun _ =>
      ⟨head?_bytes_ne (by decide) hl, head?_bytes_ne (by decide) hk⟩]
  | case7 stack n c t _ _ _ d hd ih =>
    obtain ⟨ha, had, -, hopen⟩ := closer?_eq_some hd
    rw [ih trivial (by simpa using ⟨had, hs⟩), bytes_ascii ha, scanBytes_go (hopen _ _)]
  | case8 n c t _ _ _ _ hc =>
    obtain ⟨ha, hb⟩ := isCloser_byte hc
    rw [bytes_ascii ha, scanBytes_fail (by rw [move_close hb]; rfl)]
  | case9 n c t _ _ _ _ hc d outer hd =>
    obtain ⟨ha, hb⟩ := isCloser_byte hc
    have hcd : byte c ≠ byte d := byte_ne_byte ha (hs (.bracket d) (by simp)) (by simpa using hd)
    rw [bytes_ascii ha, scanBytes_close hb, Open.closer_bracket, if_neg hcd]
  | case10 n c t _ _ _ _ hc d outer hd ho =>
    obtain ⟨ha, hb⟩ := isCloser_byte hc
    obtain rfl : c = d := by simpa using hd
    rw [bytes_ascii ha, scanBytes_close hb, Open.closer_bracket, if_pos rfl]
    simp [resume, ho]
  | case11 n c t _ _ _ _ hc d outer hd ho ih =>
    obtain ⟨ha, hb⟩ := isCloser_byte hc
    obtain rfl : c = d := by simpa using hd
    rw [ih trivial fun o h => hs o (by simp [h]), bytes_ascii ha, scanBytes_close hb, Open.closer_bracket, if_pos rfl]
    simp [resume, ho]
  | case12 n c t _ _ _ _ hc outer hd ih =>
    obtain rfl : c = '}' := by simpa using hd
    rw [ih trivial fun o h => hs o (by simp [h]), bytes_ascii (by decide), scanBytes_close (.inl rfl)]
    rfl
  | case13 n c t _ _ _ _ hc outer hd =>
    obtain ⟨ha, hb⟩ := isCloser_byte hc
    have hcd : byte c ≠ byte '}' := byte_ne_byte ha (by decide) (by simpa using hd)
    rw [bytes_ascii ha, scanBytes_close hb, Open.closer_substitution, if_neg hcd]
  | case14 stack n c t hq ht hl ho hc ih =>
    rw [ih trivial hs]
    refine (scanBytes_char hm fun ha => ?_).symm
    obtain ⟨h1, h2, h3⟩ := closer?_eq_none ho
    rw [isCloser_iff] at hc
    simp only [Bool.or_eq_true, beq_iff_eq, not_or] at hq ht hl hc
    simp [move, byte_ne_byte ha (by decide) hq.1, byte_ne_byte ha (by decide) hq.2, byte_ne_byte ha (by decide) ht,
      byte_ne_byte ha (by decide) hl, byte_ne_byte ha (by decide) h1, byte_ne_byte ha (by decide) h2,
      byte_ne_byte ha (by decide) h3, byte_ne_byte ha (by decide) hc.1, byte_ne_byte ha (by decide) hc.2.1,
      byte_ne_byte ha (by decide) hc.2.2]
  | case15 q stack n c hc =>
    obtain rfl : c = '\\' := by simpa using hc
    rw [bytes_ascii (by decide)]
    simp [scanBytes, move]
  | case16 q stack n c hc d t ih =>
    obtain rfl : c = '\\' := by simpa using hc
    rw [ih hm hs, bytes_ascii (by decide), ← scanBytes_past_char hm]
    simp [scanBytes, move]
  | case17 q stack n c t hb hc ih =>
    have hc' : c = '\n' ∨ c = q := by simpa using hc
    have ha : c.toNat < 128 := by rcases hc' with rfl | rfl; exacts [by decide, hm]
    have hb' : byte c ≠ byte '\\' := byte_ne_byte ha (by decide) (by simpa using hb)
    have hor : byte c = byte '\n' ∨ byte c = byte q := hc'.imp (congrArg byte) (congrArg byte)
    rw [ih trivial hs, bytes_ascii ha,
      scanBytes_go (show move stack (byte c) _ _ = .go .code stack by simp only [move, hb', hor, ↓reduceIte])]
  | case18 q stack n c t hb hc ih =>
    rw [ih hm hs]
    refine (scanBytes_char hm fun ha => ?_).symm
    simp only [Bool.or_eq_true, beq_iff_eq, not_or] at hb hc
    simp [move, byte_ne_byte ha (by decide) hb, byte_ne_byte ha (by decide) hc.1, byte_ne_byte ha hm hc.2]
  | case19 stack n c hc =>
    obtain rfl : c = '\\' := by simpa using hc
    rw [bytes_ascii (by decide)]
    simp [scanBytes, move]
  | case20 stack n c hc d t ih =>
    obtain rfl : c = '\\' := by simpa using hc
    rw [ih trivial hs, bytes_ascii (by decide), ← scanBytes_past_char hm]
    simp [scanBytes, move]
  | case21 stack n c t _ hc ih =>
    obtain rfl : c = '\x60' := by simpa using hc
    rw [ih trivial hs, bytes_ascii (by decide), scanBytes_template_close]
  | case22 stack n c _ _ hc t ih =>
    obtain rfl : c = '$' := by simpa using hc
    rw [ih trivial (by simpa [Open.IsAscii] using hs), bytes_ascii (by decide), bytes_ascii (by decide),
      scanBytes_template_substitution]
  | case23 stack n c _ _ hc t hd ih =>
    obtain rfl : c = '$' := by simpa using hc
    rw [ih trivial hs, bytes_ascii (by decide),
      scanBytes_template_other (by decide) (by decide) fun _ => head?_bytes_ne (by decide) hd]
  | case24 stack n c t hb ht hd ih =>
    rw [ih trivial hs]
    refine (scanBytes_char hm fun ha => ?_).symm
    simp only [beq_iff_eq] at hb ht hd
    simp [move, byte_ne_byte ha (by decide) hb, byte_ne_byte ha (by decide) ht, byte_ne_byte ha (by decide) hd]
  | case25 stack n c t hc ih =>
    obtain rfl : c = '\n' := by simpa using hc
    rw [ih trivial hs, bytes_ascii (by decide),
      scanBytes_go (show move stack (byte '\n') _ _ = .go .code stack by simp [move])]
  | case26 stack n c t hc ih =>
    rw [ih trivial hs]
    refine (scanBytes_char hm fun ha => ?_).symm
    have hne : byte c ≠ byte '\n' := byte_ne_byte ha (by decide) (by simpa using hc)
    simp [move, hne]
  | case27 stack n c hc t ih =>
    obtain rfl : c = '*' := by simpa using hc
    rw [ih trivial hs, bytes_ascii (by decide), bytes_ascii (by decide), scanBytes_blockComment_close]
  | case28 stack n c hc t hd ih =>
    obtain rfl : c = '*' := by simpa using hc
    rw [ih trivial hs, bytes_ascii (by decide),
      scanBytes_blockComment_other fun _ => head?_bytes_ne (by decide) hd]
  | case29 stack n c t hc ih =>
    rw [ih trivial hs]
    refine (scanBytes_char hm fun ha => ?_).symm
    have hne : byte c ≠ byte '*' := byte_ne_byte ha (by decide) (by simpa using hc)
    simp [move, hne]

end Characters

/-! ### The end of a bracket -/

theorem exists_closer? {o k : UInt8} {c : Char} (ho : closerByte? o = some k) (hc : byte c = o)
    (ha : c.toNat < 128) : ∃ d, closer? c = some d ∧ byte d = k := by
  subst hc
  unfold closerByte? at ho
  split_ifs at ho with h1 h2 h3 <;> cases ho
  · obtain rfl := (byte_inj ha (by decide)).1 h1; exact ⟨'}', rfl, rfl⟩
  · obtain rfl := (byte_inj ha (by decide)).1 h2; exact ⟨')', rfl, rfl⟩
  · obtain rfl := (byte_inj ha (by decide)).1 h3; exact ⟨']', rfl, rfl⟩

theorem closing_append {a rest : Text} {c d : Char} (hc : closer? c = some d) :
    closing (a ++ c :: rest) (size a) = scanBytes false .code [.bracket d] (size a + 1) (bytes rest) := by
  have hd : d.toNat < 128 := (closer?_eq_some hc).2.1
  simp only [closing, cut_append, hc, Option.bind_some]
  exact scan_eq_scanBytes _ _ _ _ trivial (by simpa [Open.IsAscii] using hd)

theorem closes_iff {s : List UInt8} {offset stop : Nat} :
    Closes s offset stop ↔ ∃ before o w c r, s = before ++ o :: (w ++ c :: r) ∧ before.length = offset ∧
      stop = offset + w.length + 2 ∧ closerByte? o = some c ∧ Reads .code w (c :: r) := by
  constructor
  · rintro ⟨o, c, ho, hoc, hlo, hhi, hc, hw⟩
    obtain ⟨h1, h1'⟩ := List.getElem?_eq_some_iff.1 ho
    obtain ⟨h2, h2'⟩ := List.getElem?_eq_some_iff.1 hc
    set w := (s.drop (offset + 1)).take (stop - 1 - (offset + 1)) with hwdef
    have htail : s.drop (stop - 1) = c :: s.drop stop := by
      rw [List.drop_eq_getElem_cons h2, h2']
      congr 2; omega
    have hlen : w.length = stop - 1 - (offset + 1) := by
      rw [hwdef, List.length_take, List.length_drop]; omega
    have hmid : s.drop (offset + 1) = w ++ c :: s.drop stop := by
      rw [← htail, hwdef]
      conv_lhs => rw [← List.take_append_drop (stop - 1 - (offset + 1)) (s.drop (offset + 1))]
      rw [List.drop_drop]
      congr 2; omega
    refine ⟨s.take offset, o, w, c, s.drop stop, ?_, by rw [List.length_take]; omega, by omega, hoc, htail ▸ hw⟩
    rw [← hmid, ← h1', ← List.drop_eq_getElem_cons h1, List.take_append_drop]
  · rintro ⟨before, o, w, c, r, rfl, rfl, rfl, hoc, hw⟩
    have hdrop : (before ++ o :: (w ++ c :: r)).drop (before.length + 1) = w ++ c :: r := by
      rw [List.drop_append]; simp
    have htail : (before ++ o :: (w ++ c :: r)).drop (before.length + w.length + 2 - 1) = c :: r := by
      have : before.length + w.length + 2 - 1 = before.length + 1 + w.length := by omega
      rw [this, ← List.drop_drop, hdrop]; simp
    refine ⟨o, c, by simp, hoc, by omega, by simp; omega, ?_, ?_⟩
    · rw [← List.head?_drop, htail]; rfl
    · rw [htail, hdrop]
      have : before.length + w.length + 2 - 1 - (before.length + 1) = w.length := by omega
      rw [this]; simpa using hw

theorem closes_of_closing {t : Text} {offset stop : Nat} (hscan : closing t offset = some stop) :
    Closes (bytes t) offset stop := by
  rw [closes_iff]
  have h := hscan
  unfold closing at h
  split at h
  next a c rest hcut =>
    obtain ⟨d, hd, -⟩ := Option.bind_eq_some_iff.1 h
    obtain ⟨rfl, rfl⟩ := cut_eq_some_iff.1 hcut
    obtain ⟨ha, -, hcd, -⟩ := closer?_eq_some hd
    rw [closing_append hd] at hscan
    obtain ⟨w, r, hw, hreads, hend⟩ := (scanBytes_sound _ [] _ rfl).1 _ _ _ _ hscan
    cases hend
    refine ⟨bytes a, byte c, w, byte d, r, ?_, length_bytes a, by omega, hcd, hreads⟩
    rw [bytes_append, bytes_ascii ha, hw, Open.closer_bracket]
  next => cases h

theorem closing_of_closes {t : Text} {offset stop : Nat} (h : Closes (bytes t) offset stop) :
    closing t offset = some stop := by
  obtain ⟨before, o, w, k, r, hs, rfl, rfl, hok, hw⟩ := closes_iff.1 h
  have ho : (bytes t)[before.length]? = some o := by rw [hs]; simp
  have hlt : o.toNat < 128 := by
    unfold closerByte? at hok
    split_ifs at hok <;> subst o <;> decide
  -- the bracket is a character of its own, so the text splits where its bytes do
  obtain ⟨a, c, rest, rfl, ha, hc, hco⟩ := exists_cut_of_ascii ho hlt
  obtain ⟨d, hd, rfl⟩ := exists_closer? hok hco hc
  rw [bytes_append, bytes_ascii hc] at hs
  obtain ⟨-, hrest⟩ := List.append_inj hs (by rw [length_bytes, ha])
  simp only [List.cons.injEq] at hrest
  obtain ⟨-, -, hcl, hopen⟩ := closer?_eq_some hd
  have hcloser : IsCloser (byte d) := by
    obtain ⟨d', hd', hcl', -⟩ := scanBytes_open hcl
    exact hd' ▸ hcl'
  rw [← ha, closing_append hd, hrest.2, hw.scanBytes_append, scanBytes_close hcloser,
    Open.closer_bracket, if_pos rfl]
  simp only [resume, List.isEmpty_nil, ↓reduceIte]
  congr 1; omega

/-- The scan accepts exactly the grammar: an answer is the end of a bracket around code, every such
end is the answer, and there is at most one. -/
theorem closing_iff_closes (t : Text) (offset : Nat) :
    (∀ stop, closing t offset = some stop ↔ Closes (bytes t) offset stop) ∧
    ∀ stop stop', Closes (bytes t) offset stop → Closes (bytes t) offset stop' → stop = stop' := by
  refine ⟨fun stop => ⟨closes_of_closing, closing_of_closes⟩, fun stop stop' h h' => ?_⟩
  have heq : some stop = some stop' := by rw [← closing_of_closes h, closing_of_closes h']
  exact Option.some.inj heq

end HandlerMigration.Bracket
