import HandlerMigration.Proofs.LineEndings
import HandlerMigration.Proofs.ScanWalk

/-!
# Brackets and line ends

The scan for a closing bracket sees the carriage return of a line end as a byte of its own. That makes a
difference in one place only: a backslash at the end of a line escapes the newline of the one text and the
carriage return of the other, so that a string goes on in the one and ends with its line in the other. Main
statement: up to there the scans of both texts go on in step, and if they never get there, they find the same
bracket (`closing_crlf`).
-/

namespace HandlerMigration.Bracket

open Text

/-! ### Bytes -/

/-- `crlf` on bytes. -/
def crlfBytes (s : List UInt8) : List UInt8 :=
  s.flatMap fun b => if b = byte '\n' then [byte '\r', byte '\n'] else [b]

section Bytes

variable {b : UInt8} {s : List UInt8}

@[simp] theorem crlfBytes_append (s r : List UInt8) : crlfBytes (s ++ r) = crlfBytes s ++ crlfBytes r :=
  List.flatMap_append

theorem crlfBytes_newline (s : List UInt8) : crlfBytes (byte '\n' :: s) = byte '\r' :: byte '\n' :: crlfBytes s := rfl

theorem crlfBytes_cons (hb : b ≠ byte '\n') (s : List UInt8) : crlfBytes (b :: s) = b :: crlfBytes s := by
  rw [crlfBytes, List.flatMap_cons, if_neg hb]
  rfl

theorem crlfBytes_eq_self (h : byte '\n' ∉ s) : crlfBytes s = s := by
  induction s with
  | nil => rfl
  | cons b s ih =>
    simp only [List.mem_cons, not_or] at h
    rw [crlfBytes_cons (Ne.symm h.1), ih h.2]

theorem bytes_crlf (t : Text) : bytes (crlf t) = crlfBytes (bytes t) := by
  induction t with
  | nil => rfl
  | cons c t ih =>
    by_cases hc : c = '\n'
    · subst hc
      rw [crlf_newline, bytes_ascii (by decide), bytes_ascii (by decide), bytes_ascii (by decide), crlfBytes_newline,
        ih]
    · rw [crlf_cons hc, bytes_cons, bytes_cons, crlfBytes_append, crlfBytes_eq_self (newline_not_mem_encode hc), ih]

theorem length_crlfBytes (s : List UInt8) : (crlfBytes s).length = s.length + s.count (byte '\n') := by
  induction s with
  | nil => rfl
  | cons b s ih =>
    by_cases hb : b = byte '\n'
    · rw [hb, crlfBytes_newline, List.count_cons_self]
      simp only [List.length_cons, ih]
      omega
    · rw [crlfBytes_cons hb, List.count_cons_of_ne hb]
      simp only [List.length_cons, ih]
      omega

end Bytes

/-! ### One step -/

/-- What the next byte can be for a byte to belong to it. -/
def IsSecond (next : Option UInt8) : Prop := next = some (byte '/') ∨ next = some (byte '*') ∨ next = some (byte '{')

theorem move_congr {stack : List Open} {b : UInt8} {next next' : Option UInt8} {mode : Mode}
    (h : next = next' ∨ ¬ IsSecond next ∧ ¬ IsSecond next') : move stack b next mode = move stack b next' mode := by
  rcases h with rfl | ⟨h, h'⟩
  · rfl
  · simp only [IsSecond, not_or] at h h'
    cases mode <;> simp only [move, h, h', and_false]

theorem head?_crlfBytes (s : List UInt8) :
    s.head? = (crlfBytes s).head? ∨ ¬ IsSecond s.head? ∧ ¬ IsSecond (crlfBytes s).head? := by
  cases s with
  | nil => exact .inl rfl
  | cons b s =>
    by_cases hb : b = byte '\n'
    · subst hb
      exact .inr ⟨by simp +decide [IsSecond], by simp +decide [IsSecond, crlfBytes_newline]⟩
    · exact .inl (by rw [crlfBytes_cons hb]; rfl)

def Mode.isQuoted : Mode → Bool
  | .quoted _ => true
  | _ => false

namespace ScanState

variable {st st' : ScanState} {b : UInt8} {s : List UInt8}

/-- Whether a scan meets a newline that a backslash escapes in a string. -/
def continues : ScanState → List UInt8 → Bool
  | _, [] => false
  | st, b :: s =>
    st.past && st.mode.isQuoted && b == byte '\n' || (st.step b s.head?).any fun st => st.continues s

/-- A newline that belongs to the byte in front of it is escaped, in a string or in a template literal. -/
def Escapes (st : ScanState) (next : Option UInt8) : Prop :=
  st.past = true → next = some (byte '\n') → st.mode.isQuoted = true ∨ st.mode = .template

theorem step_congr {next next' : Option UInt8} (h : next = next' ∨ ¬ IsSecond next ∧ ¬ IsSecond next') :
    st.step b next = st.step b next' := by
  rw [step, step, move_congr h]

theorem step_return (hst : Sound st.mode st.stack) (next : Option UInt8) :
    st.step (byte '\r') next = some ⟨false, st.mode, st.stack⟩ := by
  have hlacks : st.mode.lacks ['\r'] = true := by
    cases hmode : st.mode with
    | quoted q => rcases hst.quote q hmode with rfl | rfl <;> decide
    | _ => decide
  rw [step, move_unmarked_char hst.isAscii (by decide) hlacks]
  split_ifs <;> rfl

/-- A newline that is not escaped ends a string and a comment on a line. -/
def afterLine : Mode → Mode
  | .quoted _ => .code
  | .lineComment => .code
  | mode => mode

theorem step_newline (st : ScanState) (next : Option UInt8) :
    st.step (byte '\n') next = some ⟨false, if st.past then st.mode else afterLine st.mode, st.stack⟩ := by
  obtain ⟨past, mode, stack⟩ := st
  cases past with
  | true => rfl
  | false =>
    cases mode with
    | code => simp only [step, @move_unmarked_char .code stack '\n' trivial (by decide) (by decide)]; rfl
    | quoted q =>
      have hmove : move stack (byte '\n') next (.quoted q) = .go .code stack := by
        rw [move, if_neg (by decide), if_pos (.inl rfl)]
      simp only [step, hmove]
      rfl
    | template => simp only [step, @move_unmarked_char .template stack '\n' trivial (by decide) (by decide)]; rfl
    | lineComment =>
      have hmove : move stack (byte '\n') next .lineComment = .go .code stack := by rw [move, if_pos rfl]
      simp only [step, hmove]
      rfl
    | blockComment =>
      simp only [step, @move_unmarked_char .blockComment stack '\n' trivial (by decide) (by decide)]; rfl

/-- Both texts lead from one state to the same, but for a newline that is escaped in a string. -/
theorem walk_crlfBytes (hst : Sound st.mode st.stack) (hesc : st.Escapes (some b))
    (hq : (st.past && st.mode.isQuoted && b == byte '\n') = false) :
    st.walk (crlfBytes [b]) (crlfBytes s) = st.step b s.head? := by
  by_cases hb : b = byte '\n'
  · subst hb
    rw [crlfBytes_newline, walk, step_return hst, Option.bind_some, walk, step_newline, step_newline]
    cases hpast : st.past with
    | false => rfl
    | true =>
      rcases hesc hpast rfl with hquoted | htemplate
      · simp [hpast, hquoted] at hq
      · rw [htemplate]
        rfl
  · rw [crlfBytes_cons hb, step_congr (head?_crlfBytes s)]
    exact Option.bind_fun_some _

theorem moveClose_ne_goPast {mode : Mode} {stack stack' : List Open} : moveClose b stack ≠ .goPast mode stack' := by
  intro h
  cases stack with
  | nil => cases h
  | cons o outer => cases o <;> simp only [moveClose] at h <;> split_ifs at h

/-- What takes the next byte with it: a backslash in a string or a template literal, or else the first of two
bytes that mean something together. -/
theorem move_goPast {mode mode' : Mode} {stack stack' : List Open} {next : Option UInt8}
    (h : move stack b next mode = .goPast mode' stack') :
    b = byte '\\' ∧ (mode'.isQuoted = true ∨ mode' = .template) ∨ IsSecond next ∧ mode'.isQuoted = false := by
  cases mode with
  | code =>
    simp only [move] at h
    split_ifs at h with h1 h2 h3 hline hblock
    · cases h; exact .inr ⟨.inl hline.2, rfl⟩
    · cases h; exact .inr ⟨.inr (.inl hblock.2), rfl⟩
    · exact absurd h moveClose_ne_goPast
  | quoted q =>
    simp only [move] at h
    split_ifs at h with hb
    cases h
    exact .inl ⟨hb, .inl rfl⟩
  | template =>
    simp only [move] at h
    split_ifs at h with hb h1 hbrace
    · cases h; exact .inl ⟨hb, .inr rfl⟩
    · cases h; exact .inr ⟨.inr (.inr hbrace.2), rfl⟩
  | lineComment =>
    simp only [move] at h
    split_ifs at h
  | blockComment =>
    simp only [move] at h
    split_ifs at h with hb
    cases h
    exact .inr ⟨.inl hb.2, rfl⟩

theorem move_of_step {next : Option UInt8} (h : st.step b next = some st') (hpast : st'.past = true) :
    move st.stack b next st.mode = .goPast st'.mode st'.stack := by
  unfold step at h
  split_ifs at h
  · cases h; cases hpast
  · split at h
    · cases h; cases hpast
    · next hmove => cases h; exact hmove
    · cases h

theorem escapes_of_step (h : st.step b s.head? = some st') : st'.Escapes s.head? := by
  intro hpast hnext
  rcases move_goPast (move_of_step h hpast) with ⟨-, hmode⟩ | ⟨hsecond, -⟩
  · exact hmode
  · rw [hnext] at hsecond
    exact absurd hsecond (by simp +decide [IsSecond])

/-! ### Whole scans -/

theorem scan_add (st : ScanState) (n : Nat) (s : List UInt8) : st.scan n s = (st.scan 0 s).map (· + n) :=
  scanBytes_add _ _ _ _ _

theorem scan_crlfBytes_of_stop {n : Nat} (h : st.step b s.head? = none) :
    st.scan n (b :: crlfBytes s) = st.scan n (b :: s) := by
  obtain ⟨past, mode, stack⟩ := st
  have hmove := @move_congr stack b _ _ mode (head?_crlfBytes s)
  cases past with
  | true => cases h
  | false =>
    simp only [step, Bool.false_eq_true, ↓reduceIte] at h
    simp only [scan, scanBytes, Bool.false_eq_true, ↓reduceIte, ← hmove]
    cases hm : move stack b s.head? mode with
    | fail => rfl
    | finish => rfl
    | go mode' stack' => rw [hm] at h; cases h
    | goPast mode' stack' => rw [hm] at h; cases h

theorem scan_crlfBytes (hst : Sound st.mode st.stack) (hesc : st.Escapes s.head?) (h : st.continues s = false) :
    st.scan 0 (crlfBytes s) = (st.scan 0 s).map fun c => c + (s.take c).count (byte '\n') := by
  induction s generalizing st with
  | nil => rfl
  | cons b s ih =>
    rw [continues, Bool.or_eq_false_iff] at h
    obtain ⟨hq, hlater⟩ := h
    have hcons : crlfBytes (b :: s) = crlfBytes [b] ++ crlfBytes s := crlfBytes_append [b] s
    have hwalk := @walk_crlfBytes _ _ s hst hesc hq
    cases hstep : st.step b s.head? with
    | some st' =>
      rw [hstep] at hwalk hlater
      rw [hcons, scan_of_walk hwalk, scan_of_step hstep, scan_add, scan_add st' (0 + 1),
        ih (hst.step hstep) (escapes_of_step hstep) hlater]
      cases st'.scan 0 s with
      | none => rfl
      | some c =>
        have htake : (b :: s).take (c + 1) = [b] ++ s.take c := rfl
        simp only [Option.map_some, Nat.zero_add, htake, List.count_append, length_crlfBytes, List.length_singleton]
        congr 1
        omega
    | none =>
      have hb : b ≠ byte '\n' := by
        rintro rfl
        rw [step_newline] at hstep
        cases hstep
      rw [crlfBytes_cons hb, scan_crlfBytes_of_stop hstep]
      cases hscan : st.scan 0 (b :: s) with
      | none => rfl
      | some c =>
        obtain rfl := eq_of_step_eq_none hstep hscan
        simp [hb]

/-- Scans of both texts get to the first newline that is escaped in a string in the same state. -/
theorem exists_walk_of_continues (hst : Sound st.mode st.stack) (hesc : st.Escapes s.head?)
    (h : st.continues s = true) :
    ∃ w r q stack, s = w ++ byte '\n' :: r ∧ st.walk w (byte '\n' :: r) = some ⟨true, .quoted q, stack⟩ ∧
      st.walk (crlfBytes w) (crlfBytes (byte '\n' :: r)) = some ⟨true, .quoted q, stack⟩ := by
  induction s generalizing st with
  | nil => cases h
  | cons b s ih =>
    by_cases hq : (st.past && st.mode.isQuoted && b == byte '\n') = true
    · simp only [Bool.and_eq_true, beq_iff_eq] at hq
      obtain ⟨⟨hpast, hmode⟩, rfl⟩ := hq
      obtain ⟨past, mode, stack⟩ := st
      cases mode with
      | quoted q =>
        obtain rfl : past = true := hpast
        exact ⟨[], s, q, stack, rfl, rfl, rfl⟩
      | _ => cases hmode
    · rw [Bool.not_eq_true] at hq
      rw [continues, hq, Bool.false_or] at h
      cases hstep : st.step b s.head? with
      | none => rw [hstep] at h; cases h
      | some st' =>
        rw [hstep] at h
        obtain ⟨w, r, q, stack, rfl, hwalk, hwalk'⟩ := ih (hst.step hstep) (escapes_of_step hstep) h
        refine ⟨b :: w, r, q, stack, rfl, ?_, ?_⟩
        · rw [walk, hstep, Option.bind_some, hwalk]
        · have hone := @walk_crlfBytes _ _ (w ++ byte '\n' :: r) hst hesc hq
          have hcons : crlfBytes (b :: w) = crlfBytes [b] ++ crlfBytes w := crlfBytes_append [b] w
          rw [hcons, walk_append, ← crlfBytes_append, hone, hstep, Option.bind_some, hwalk']

theorem exists_backslash_of_walk {q : Char} {stack : List Open} {w r : List UInt8} (hpast : st.past = false)
    (h : st.walk w r = some ⟨true, .quoted q, stack⟩) : ∃ v, w = v ++ [byte '\\'] := by
  rcases List.eq_nil_or_concat' w with rfl | ⟨v, b, rfl⟩
  · cases h
    cases hpast
  · rw [walk_append] at h
    obtain ⟨mid, -, hmid⟩ := Option.bind_eq_some_iff.1 h
    obtain ⟨st', hst', hend⟩ := Option.bind_eq_some_iff.1 hmid
    cases hend
    rcases move_goPast (move_of_step hst' rfl) with ⟨rfl, -⟩ | ⟨-, hmode⟩
    · exact ⟨v, rfl⟩
    · cases hmode

end ScanState

/-- What is open after a move waits for ASCII characters. -/
def Move.StackIsAscii : Move → Prop
  | .go _ stack | .goPast _ stack => ∀ o ∈ stack, o.IsAscii
  | _ => True

theorem Move.StackIsAscii.ite {c : Prop} [Decidable c] {x y : Move} (hx : x.StackIsAscii) (hy : y.StackIsAscii) :
    (if c then x else y).StackIsAscii := by split <;> assumption

section Ascii

variable {stack : List Open} {b : UInt8} {next : Option UInt8}

theorem moveClose_stackIsAscii (h : ∀ o ∈ stack, o.IsAscii) : (moveClose b stack).StackIsAscii := by
  cases stack with
  | nil => trivial
  | cons o outer =>
    have houter := (List.forall_mem_cons.1 h).2
    cases o with
    | bracket d => exact .ite (.ite trivial houter) trivial
    | substitution => exact .ite houter trivial

theorem move_stackIsAscii (mode : Mode) (h : ∀ o ∈ stack, o.IsAscii) : (move stack b next mode).StackIsAscii := by
  have hpush : ∀ o : Open, o.IsAscii → ∀ o' ∈ o :: stack, o'.IsAscii := fun o ho => List.forall_mem_cons.2 ⟨ho, h⟩
  cases mode with
  | code =>
    exact .ite h (.ite h (.ite h (.ite h (.ite h (.ite (hpush _ (by show _ < _; decide))
      (.ite (hpush _ (by show _ < _; decide)) (.ite (hpush _ (by show _ < _; decide))
        (.ite (moveClose_stackIsAscii h) h))))))))
  | quoted q => exact .ite h (.ite h h)
  | template => exact .ite h (.ite h (.ite (hpush _ trivial) h))
  | lineComment => exact .ite h h
  | blockComment => exact .ite h h

theorem stackIsAscii_of_walk {st st' : ScanState} {w r : List UInt8} (hst : ∀ o ∈ st.stack, o.IsAscii)
    (h : st.walk w r = some st') : ∀ o ∈ st'.stack, o.IsAscii := by
  induction w generalizing st with
  | nil => cases h; exact hst
  | cons b w ih =>
    obtain ⟨mid, hmid, h⟩ := Option.bind_eq_some_iff.1 h
    refine ih ?_ h
    have hmove := @move_stackIsAscii _ b (w ++ r).head? st.mode hst
    unfold ScanState.step at hmid
    split_ifs at hmid
    · cases hmid; exact hst
    · split at hmid
      · next heq => cases hmid; rwa [heq] at hmove
      · next heq => cases hmid; rwa [heq] at hmove
      · cases hmid

end Ascii

/-! ### Brackets -/

/-- Whether the scan from the bracket at an offset meets a newline that a backslash escapes in a string, so that
the string goes on behind the end of its line. -/
def continuesString (t : Text) (offset : Nat) : Bool :=
  match t.cut offset with
  | some (_, c :: rest) => (closer? c).any fun d => ScanState.continues ⟨false, .code, [.bracket d]⟩ (bytes rest)
  | _ => false

section Bracket

variable {a rest : Text} {c d : Char}

theorem closing_crlf_append (hd : closer? c = some d) :
    closing (crlf (a ++ c :: rest)) (crlfOffset (a ++ c :: rest) (size a)) =
      ScanState.scan ⟨false, .code, [.bracket d]⟩ (size (crlf a) + 1) (crlfBytes (bytes rest)) := by
  have hc : c ≠ '\n' := by
    rintro rfl
    cases hd
  rw [crlfOffset_size_append, crlf_append, crlf_cons hc, closing_append hd, bytes_crlf]
  rfl

theorem closing_crlf_of_continues (hd : closer? c = some d)
    (h : ScanState.continues ⟨false, .code, [.bracket d]⟩ (bytes rest) = false) :
    closing (crlf (a ++ c :: rest)) (crlfOffset (a ++ c :: rest) (size a)) =
      (closing (a ++ c :: rest) (size a)).map (crlfOffset (a ++ c :: rest)) := by
  have hscan := @ScanState.scan_crlfBytes ⟨false, .code, [.bracket d]⟩ _ (.start d) nofun h
  rw [closing_crlf_append hd, closing_append hd, ScanState.scan_add, hscan]
  show _ = (ScanState.scan ⟨false, .code, [.bracket d]⟩ (size a + 1) (bytes rest)).map _
  rw [ScanState.scan_add _ (size a + 1), Option.map_map, Option.map_map]
  congr 1
  funext n
  have hc : c ≠ '\n' := by
    rintro rfl
    cases hd
  have hoffset := crlfOffset_append (a ++ [c]) rest n
  simp only [List.append_assoc, List.singleton_append, crlf_append, crlf_cons hc, crlf_nil, size_append, size_cons,
    size_nil, size_of_closer? hd, Nat.add_zero] at hoffset
  show n + ((bytes rest).take n).count (byte '\n') + (size (crlf a) + 1) = crlfOffset _ (n + (size a + 1))
  rw [Nat.add_comm n (size a + 1), hoffset, Nat.add_comm]
  rfl

theorem exists_text_of_continues (hd : closer? c = some d)
    (h : ScanState.continues ⟨false, .code, [.bracket d]⟩ (bytes rest) = true) :
    ∃ x b q stack, rest = x ++ '\\' :: '\n' :: b ∧ Sound (.quoted q) stack ∧ (∀ o ∈ stack, o.IsAscii) ∧
      ScanState.walk ⟨false, .code, [.bracket d]⟩ (bytes (x ++ ['\\'])) (bytes ('\n' :: b)) =
        some ⟨true, .quoted q, stack⟩ ∧
      ScanState.walk ⟨false, .code, [.bracket d]⟩ (crlfBytes (bytes (x ++ ['\\']))) (crlfBytes (bytes ('\n' :: b))) =
        some ⟨true, .quoted q, stack⟩ := by
  obtain ⟨w, r, q, stack, hw, hwalk, hwalk'⟩ :=
    @ScanState.exists_walk_of_continues ⟨false, .code, [.bracket d]⟩ _ (.start d) nofun h
  obtain ⟨v, rfl⟩ := ScanState.exists_backslash_of_walk rfl hwalk
  rw [List.append_assoc, List.singleton_append] at hw
  have hat : (bytes rest)[v.length]? = some (byte '\\') := by rw [hw]; simp
  obtain ⟨x, y, z, rfl, hsize, hya, hy⟩ := exists_cut_of_ascii hat (by decide)
  obtain rfl := (byte_inj hya (by decide)).1 hy
  rw [bytes_append, bytes_ascii hya] at hw
  obtain ⟨rfl, hz⟩ := List.append_inj hw (by rw [length_bytes, hsize])
  have hz := (List.cons.inj hz).2
  obtain ⟨b, rfl⟩ := List.head?_eq_some_iff.1 ((head?_bytes (by decide)).1 (by rw [hz]; rfl) : z.head? = some '\n')
  rw [bytes_ascii (by decide)] at hz
  obtain rfl := (List.cons.inj hz).2
  have hx : bytes (x ++ ['\\']) = bytes x ++ [byte '\\'] := by rw [bytes_append, bytes_ascii (by decide)]; rfl
  have hb : bytes ('\n' :: b) = byte '\n' :: bytes b := bytes_ascii (by decide) b
  refine ⟨x, b, q, stack, rfl, @Sound.walk ⟨_, _, _⟩ _ _ _ (.start d) hwalk, ?_, by rwa [hx, hb], by rwa [hx, hb]⟩
  refine @stackIsAscii_of_walk ⟨_, _, _⟩ _ _ _ ?_ hwalk
  exact List.forall_mem_singleton.2 (closer?_eq_some hd).2.1

/-- The string goes on in the one text and is over in the other. -/
theorem closing_of_continues (hd : closer? c = some d)
    (h : ScanState.continues ⟨false, .code, [.bracket d]⟩ (bytes rest) = true) :
    ∃ x b q stack, rest = x ++ '\\' :: '\n' :: b ∧
      closing (a ++ c :: rest) (size a) = scan (.quoted q) stack (size (a ++ c :: x ++ ['\\', '\n'])) b ∧
      closing (crlf (a ++ c :: rest)) (crlfOffset (a ++ c :: rest) (size a)) =
        scan .code stack (size (crlf (a ++ c :: x ++ ['\\', '\n']))) (crlf b) := by
  obtain ⟨x, b, q, stack, rfl, hsound, hascii, hwalk, hwalk'⟩ := exists_text_of_continues hd h
  have hsplit : bytes (x ++ '\\' :: '\n' :: b) = bytes (x ++ ['\\']) ++ bytes ('\n' :: b) := by
    rw [← bytes_append]
    simp
  have hc : c ≠ '\n' := by
    rintro rfl
    cases hd
  refine ⟨x, b, q, stack, rfl, ?_, ?_⟩
  · rw [closing_append hd, hsplit]
    refine (@ScanState.scan_of_walk _ _ _ _ _ hwalk).trans ?_
    rw [scan_eq_scanBytes _ _ _ _ hsound.isAscii hascii, bytes_ascii (by decide)]
    show scanBytes true (.quoted q) stack _ (byte '\n' :: bytes b) = _
    rw [scanBytes_past, length_bytes]
    congr 1
    simp only [size_append, size_cons, size_nil, size_of_closer? hd, show ('\n' : Char).utf8Size = 1 from rfl]
    omega
  · rw [closing_crlf_append hd, hsplit, crlfBytes_append]
    refine (ScanState.scan_of_walk hwalk').trans ?_
    rw [scan_eq_scanBytes .code _ _ _ trivial hascii, bytes_ascii (by decide), crlfBytes_newline, ← bytes_crlf,
      ← bytes_crlf]
    show scanBytes true (.quoted q) stack _ (byte '\r' :: byte '\n' :: bytes (crlf b)) = _
    rw [scanBytes_past, scanBytes_quoted_newline, scanBytes_plain (by simp [Plain]; decide) (by simp +decide),
      length_bytes]
    congr 1
    have hend : crlf (a ++ c :: x ++ ['\\', '\n']) = crlf a ++ c :: (crlf (x ++ ['\\']) ++ ['\r', '\n']) := by
      simp [crlf, hc]
    rw [hend]
    simp only [size_append, size_cons, size_nil, size_of_closer? hd, show ('\r' : Char).utf8Size = 1 from rfl,
      show ('\n' : Char).utf8Size = 1 from rfl]
    omega

end Bracket

/-- The scan for a closing bracket finds the same one in a text with the wider line ends, if it meets no string
that a backslash continues on the next line. At the first such line end the two part: the string goes on in the
one text, and in the other it is over. -/
theorem closing_crlf (t : Text) (offset : Nat) :
    (continuesString t offset = false →
      closing t.crlf (t.crlfOffset offset) = (closing t offset).map t.crlfOffset) ∧
    (continuesString t offset = true → ∃ a b q stack, t = a ++ '\\' :: '\n' :: b ∧
      closing t offset = scan (.quoted q) stack (size (a ++ ['\\', '\n'])) b ∧
      closing t.crlf (t.crlfOffset offset) = scan .code stack (size (crlf (a ++ ['\\', '\n']))) (crlf b)) := by
  have hcrlf := cut_crlf t offset
  cases hcut : t.cut offset with
  | none =>
    rw [hcut] at hcrlf
    simp [continuesString, closing, hcut, hcrlf]
  | some parts =>
    obtain ⟨a, _ | ⟨c, rest⟩⟩ := parts
    · rw [hcut] at hcrlf
      simp [continuesString, closing, hcut, hcrlf]
    · cases hd : closer? c with
      | none =>
        rw [hcut] at hcrlf
        by_cases hc : c = '\n'
        · subst hc
          simp [continuesString, closing, hcut, hcrlf, crlf_newline, closer?]
        · simp [continuesString, closing, hcut, hcrlf, crlf_cons hc, hd]
      | some d =>
        have hcontinues : continuesString t offset =
            ScanState.continues ⟨false, .code, [.bracket d]⟩ (bytes rest) := by
          simp only [continuesString, hcut, hd, Option.any_some]
        obtain ⟨rfl, rfl⟩ := cut_eq_some_iff.1 hcut
        rw [hcontinues]
        refine ⟨closing_crlf_of_continues hd, fun h => ?_⟩
        obtain ⟨x, b, q, stack, rfl, hlf, hcrlf⟩ := @closing_of_continues a rest c d hd h
        exact ⟨a ++ c :: x, b, q, stack, by simp, hlf, hcrlf⟩

/-- A string that goes on behind the end of its line, with a brace in its second half. -/
def continuedString : Text := ['{', '\'', '\\', '\n', '}', '\'', '}']

/-- Line ends in a template literal, one of them escaped, behind a comment and in a string that is not closed. -/
def quietLineEnds : Text := ['{', '\x60', '\\', '\n', '\n', '\x60', '/', '/', '}', '\n', '"', '\n', '}']

theorem closing_crlf_lineEnds :
    (closing quietLineEnds 0 = some 13 ∧ closing (crlf quietLineEnds) (crlfOffset quietLineEnds 0) = some 17) ∧
    ∃ a b q stack, continuedString = a ++ '\\' :: '\n' :: b ∧
      closing continuedString 0 = scan (.quoted q) stack (size (a ++ ['\\', '\n'])) b ∧
      closing (crlf continuedString) (crlfOffset continuedString 0) =
        scan .code stack (size (crlf (a ++ ['\\', '\n']))) (crlf b) := by
  have hclosing : closing quietLineEnds 0 = some 13 := by decide
  refine ⟨⟨hclosing, ?_⟩, (closing_crlf continuedString 0).2 (by decide)⟩
  rw [(closing_crlf quietLineEnds 0).1 (by decide), hclosing]
  decide

/-- With the wider line ends the string is over, and the brace in its second half is found. -/
theorem closing_crlf_ne :
    '\r' ∉ continuedString ∧ continuedString.head? = some '{' ∧
      (closing continuedString 0).map (crlfOffset continuedString) = some 8 ∧
      closing (crlf continuedString) (crlfOffset continuedString 0) = some 6 := by
  decide

end HandlerMigration.Bracket
