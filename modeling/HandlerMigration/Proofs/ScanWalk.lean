import HandlerMigration.Proofs.BracketGrammar

/-!
# How far a scan has come

`ScanState.walk` follows the scan over a piece of the bytes. The scan goes on from the state it comes to
(`scan_of_walk`), and an answer behind the piece means that it got through (`exists_walk`). `Sees` is the
same in terms of offsets of a text: the scan from a bracket has come to an offset, in some mode and with
some brackets open. What follows there can be exchanged (`Sees.exists_past`).
-/

namespace HandlerMigration.Bracket

open Text

/-! ### Characters without a meaning -/

/-- The characters that mean something in a mode. -/
def Mode.marks : Mode → List Char
  | .code => ['\'', '"', '\x60', '/', '{', '(', '[', '}', ')', ']']
  | .quoted q => ['\\', '\n', q]
  | .template => ['\\', '\x60', '$']
  | .lineComment => ['\n']
  | .blockComment => ['*']

/-- Nothing in the text means anything in the mode. -/
def Mode.lacks (mode : Mode) (w : Text) : Bool := w.all fun c => !mode.marks.contains c

section Marks

variable {mode : Mode} {stack : List Open} {n : Nat} {b : UInt8} {u w : Text} {s : List UInt8}

theorem lacks_iff : mode.lacks w = true ↔ ∀ c ∈ w, c ∉ mode.marks := by simp [Mode.lacks]

theorem lacks_append : mode.lacks (u ++ w) = true ↔ mode.lacks u = true ∧ mode.lacks w = true := by
  simp [Mode.lacks]

theorem Mode.IsAscii.marks (hm : mode.IsAscii) : ∀ c ∈ mode.marks, c.toNat < 128 := by
  have hall : mode.marks.all (fun c => c.toNat < 128) = true := by
    cases mode with
    | quoted q =>
      have hq : q.toNat < 128 := hm
      simp [Mode.marks, hq]
    | _ => decide
  simpa using hall

theorem ne_of_mem_bytes (hm : mode.IsAscii) (hw : mode.lacks w = true) (hb : b ∈ bytes w) :
    ∀ c ∈ mode.marks, b ≠ byte c := by
  obtain ⟨d, hd, hb⟩ := List.mem_flatMap.1 hb
  intro c hc
  by_cases ha : d.toNat < 128
  · rw [encode_of_lt ha, List.mem_singleton] at hb
    subst hb
    exact byte_ne_byte ha (hm.marks c hc) fun h => lacks_iff.1 hw d hd (h ▸ hc)
  · exact ne_byte (le_of_mem_encode ha b hb) (hm.marks c hc)

theorem move_unmarked (hm : mode.IsAscii) (hw : mode.lacks w = true) (hb : b ∈ bytes w) (next : Option UInt8) :
    move stack b next mode = .go mode stack := by
  have h := ne_of_mem_bytes hm hw hb
  cases mode with
  | code =>
    simp only [Mode.marks, List.forall_mem_cons] at h
    obtain ⟨h1, h2, h3, h4, h5, h6, h7, h8, h9, h10, -⟩ := h
    simp only [move, h1, h2, h3, h4, h5, h6, h7, h8, h9, h10, false_and, or_self, ↓reduceIte]
  | quoted q =>
    simp only [Mode.marks, List.forall_mem_cons] at h
    simp only [move, h.1, h.2.1, h.2.2.1, or_self, ↓reduceIte]
  | template =>
    simp only [Mode.marks, List.forall_mem_cons] at h
    simp only [move, h.1, h.2.1, h.2.2.1, false_and, ↓reduceIte]
  | lineComment =>
    simp only [Mode.marks, List.forall_mem_cons] at h
    simp only [move, h.1, ↓reduceIte]
  | blockComment =>
    simp only [Mode.marks, List.forall_mem_cons] at h
    simp only [move, h.1, false_and, ↓reduceIte]

theorem move_unmarked_char {d : Char} (hm : mode.IsAscii) (hd : d.toNat < 128) (h : mode.lacks [d] = true)
    (next : Option UInt8) : move stack (byte d) next mode = .go mode stack :=
  move_unmarked hm h (by rw [bytes_ascii hd]; exact List.mem_cons_self) next

theorem scanBytes_unmarked (hm : mode.IsAscii) (hw : mode.lacks w = true) :
    scanBytes false mode stack n (bytes w ++ s) = scanBytes false mode stack (n + size w) s := by
  have hmove : ∀ b ∈ bytes w, ∀ next, move stack b next mode = .go mode stack := fun b hb => move_unmarked hm hw hb
  rw [← length_bytes]
  generalize bytes w = v at hmove
  induction v generalizing n with
  | nil => rfl
  | cons b v ih =>
    obtain ⟨hb, hv⟩ := List.forall_mem_cons.1 hmove
    rw [List.cons_append, scanBytes_go (hb _), ih hv, List.length_cons]
    congr 1; omega

theorem stringBody_unmarked {q : Char} (hq : q.toNat < 128) (hw : (Mode.quoted q).lacks w = true) :
    StringBody (byte q) (bytes w) := by
  have hbytes : ∀ b ∈ bytes w, ∀ c ∈ (Mode.quoted q).marks, b ≠ byte c := fun b hb =>
    @ne_of_mem_bytes (.quoted q) _ _ hq hw hb
  generalize bytes w = v at hbytes
  induction v with
  | nil => exact .nil
  | cons b v ih =>
    obtain ⟨hb, hv⟩ := List.forall_mem_cons.1 hbytes
    simp only [Mode.marks, List.forall_mem_cons] at hb
    exact .other hb.1 hb.2.1 hb.2.2.1 (ih hv)

theorem reads_unmarked {rest : List UInt8} (hw : Mode.code.lacks w = true) (hs : Reads .code s rest) :
    Reads .code (bytes w ++ s) rest := by
  have hbytes : ∀ b ∈ bytes w, ∀ c ∈ Mode.code.marks, b ≠ byte c := fun b hb => ne_of_mem_bytes trivial hw hb
  generalize bytes w = v at hbytes
  induction v with
  | nil => exact hs
  | cons b v ih =>
    obtain ⟨hb, hv⟩ := List.forall_mem_cons.1 hbytes
    simp only [Mode.marks, List.forall_mem_cons] at hb
    obtain ⟨h1, h2, h3, h4, h5, h6, h7, h8, h9, h10, -⟩ := hb
    refine .plain ?_ (fun h => absurd h h4) (ih hv)
    simp only [Plain, List.mem_cons, List.not_mem_nil, or_false, not_or]
    exact ⟨h1, h2, h3, h5, h8, h6, h9, h7, h10⟩

end Marks

theorem scanBytes_add (past : Bool) (mode : Mode) (stack : List Open) (n : Nat) (s : List UInt8) :
    scanBytes past mode stack n s = (scanBytes past mode stack 0 s).map (· + n) := by
  suffices h : ∀ k, scanBytes past mode stack (k + n) s = (scanBytes past mode stack k s).map (· + n) by
    simpa using h 0
  induction s generalizing past mode stack with
  | nil => intro k; rfl
  | cons b s ih =>
    intro k
    have hshift : k + n + 1 = k + 1 + n := by omega
    cases past with
    | true => rw [scanBytes_past, scanBytes_past, hshift, ih]
    | false =>
      simp only [scanBytes, Bool.false_eq_true, ↓reduceIte, hshift]
      cases move stack b s.head? mode with
      | fail => rfl
      | finish => rfl
      | go mode stack => exact ih false mode stack (k + 1)
      | goPast mode stack => exact ih true mode stack (k + 1)

/-! ### States -/

/-- What a scan has to remember. -/
structure ScanState where
  /-- The next byte belongs to the one before it. -/
  past : Bool
  mode : Mode
  stack : List Open
deriving DecidableEq

namespace ScanState

variable {st st' : ScanState} {b : UInt8} {next : Option UInt8} {n c : Nat} {w v s rest rest' : List UInt8}

def scan (st : ScanState) (n : Nat) (s : List UInt8) : Option Nat := scanBytes st.past st.mode st.stack n s

/-- The state behind the byte `b`, in front of the byte `next`, if the scan goes on. -/
def step (st : ScanState) (b : UInt8) (next : Option UInt8) : Option ScanState :=
  if st.past then some ⟨false, st.mode, st.stack⟩
  else
    match move st.stack b next st.mode with
    | .go mode stack => some ⟨false, mode, stack⟩
    | .goPast mode stack => some ⟨true, mode, stack⟩
    | _ => none

/-- The state behind the bytes `w`, in front of `rest`, if the scan gets there. -/
def walk (st : ScanState) : (w rest : List UInt8) → Option ScanState
  | [], _ => some st
  | b :: w, rest => (st.step b (w ++ rest).head?).bind fun st => st.walk w rest

theorem scan_of_step (h : st.step b s.head? = some st') : st.scan n (b :: s) = st'.scan (n + 1) s := by
  obtain ⟨past, mode, stack⟩ := st
  unfold step at h
  cases past with
  | true => cases h; rfl
  | false =>
    simp only [Bool.false_eq_true, ↓reduceIte] at h
    simp only [scan, scanBytes, Bool.false_eq_true, ↓reduceIte]
    split at h
    · next hmove => cases h; rw [hmove]
    · next hmove => cases h; rw [hmove]
    · cases h

theorem eq_of_step_eq_none (h : st.step b s.head? = none) (hs : st.scan n (b :: s) = some c) : c = n + 1 := by
  obtain ⟨past, mode, stack⟩ := st
  unfold step at h
  cases past with
  | true => cases h
  | false =>
    simp only [Bool.false_eq_true, ↓reduceIte] at h
    simp only [scan, scanBytes, Bool.false_eq_true, ↓reduceIte] at hs
    cases hmove : move stack b s.head? mode with
    | fail => rw [hmove] at hs; cases hs
    | finish => rw [hmove] at hs; cases hs; rfl
    | go => rw [hmove] at h; cases h
    | goPast => rw [hmove] at h; cases h

theorem scan_of_walk (h : st.walk w rest = some st') : st.scan n (w ++ rest) = st'.scan (n + w.length) rest := by
  induction w generalizing st n with
  | nil => cases h; rfl
  | cons b w ih =>
    obtain ⟨mid, hmid, h⟩ := Option.bind_eq_some_iff.1 h
    rw [List.cons_append, scan_of_step hmid, ih h, List.length_cons]
    congr 1; omega

/-- A scan whose answer lies behind the bytes `w` gets there. -/
theorem exists_walk (h : st.scan n (w ++ rest) = some c) (hlt : n + w.length < c) :
    ∃ st', st.walk w rest = some st' := by
  induction w generalizing st n with
  | nil => exact ⟨st, rfl⟩
  | cons b w ih =>
    rw [List.length_cons] at hlt
    cases hstep : st.step b (w ++ rest).head? with
    | none =>
      have := eq_of_step_eq_none hstep h
      omega
    | some mid =>
      rw [List.cons_append, scan_of_step hstep] at h
      obtain ⟨st', h'⟩ := ih h (by omega)
      exact ⟨st', by rw [walk, hstep, Option.bind_some, h']⟩

theorem walk_append : st.walk (w ++ v) rest = (st.walk w (v ++ rest)).bind fun mid => mid.walk v rest := by
  induction w generalizing st with
  | nil => rfl
  | cons b w ih =>
    rw [List.cons_append, walk, walk, List.append_assoc]
    cases st.step b (w ++ (v ++ rest)).head? with
    | none => rfl
    | some mid => exact ih

/-- A walk sees of what follows only the first byte. -/
theorem walk_congr (h : rest.head? = rest'.head?) : st.walk w rest = st.walk w rest' := by
  induction w generalizing st with
  | nil => rfl
  | cons b w ih =>
    have hhead : (w ++ rest).head? = (w ++ rest').head? := by rw [List.head?_append, List.head?_append, h]
    simp only [walk, hhead, ih]

theorem move_brace_ne {mode mode' : Mode} {stack stack' : List Open} :
    move stack (byte '}') next mode ≠ .goPast mode' stack' := by
  intro h
  cases mode with
  | code =>
    rw [move_close (.inl rfl)] at h
    cases stack with
    | nil => cases h
    | cons o outer =>
      cases o <;> simp only [moveClose] at h <;> split_ifs at h
  | quoted q =>
    rw [move, if_neg (by decide)] at h
    split_ifs at h
  | template =>
    rw [@move_unmarked_char .template _ '}' trivial (by decide) (by decide)] at h
    cases h
  | lineComment =>
    rw [@move_unmarked_char .lineComment _ '}' trivial (by decide) (by decide)] at h
    cases h
  | blockComment =>
    rw [@move_unmarked_char .blockComment _ '}' trivial (by decide) (by decide)] at h
    cases h

theorem past_of_step_brace (h : st.step (byte '}') next = some st') : st'.past = false := by
  unfold step at h
  split_ifs at h
  · cases h; rfl
  · split at h
    · cases h; rfl
    · next hmove => exact absurd hmove move_brace_ne
    · cases h

end ScanState

/-! ### What every state has -/

/-- Strings have one of two quotes, and the bracket that the scan started from is still open. -/
structure Sound (mode : Mode) (stack : List Open) : Prop where
  quote : ∀ q, mode = .quoted q → q = '\'' ∨ q = '"'
  ground : ∃ inner d, stack = inner ++ [.bracket d]

/-- The scan goes on soundly, if it goes on. -/
def Move.IsSound : Move → Prop
  | .go mode stack | .goPast mode stack => Sound mode stack
  | _ => True

theorem Move.IsSound.ite {c : Prop} [Decidable c] {x y : Move} (hx : x.IsSound) (hy : y.IsSound) :
    (if c then x else y).IsSound := by split <;> assumption

namespace Sound

variable {mode mode' : Mode} {stack outer : List Open} {o : Open} {b : UInt8} {next : Option UInt8}

theorem start (d : Char) : Sound .code [.bracket d] := ⟨nofun, [], d, rfl⟩

theorem isAscii (h : Sound mode stack) : mode.IsAscii := by
  cases mode with
  | quoted q => rcases h.quote q rfl with rfl | rfl <;> show _ < _ <;> decide
  | _ => trivial

theorem exists_cons (h : Sound mode stack) : ∃ o outer, stack = o :: outer := by
  obtain ⟨inner, d, rfl⟩ := h.ground
  exact List.exists_cons_of_ne_nil (by simp)

theorem change (h : Sound mode stack) (hmode : ∀ q, mode' = .quoted q → q = '\'' ∨ q = '"') : Sound mode' stack :=
  ⟨hmode, h.ground⟩

theorem push (h : Sound mode stack) (o : Open) : Sound .code (o :: stack) := by
  obtain ⟨inner, d, rfl⟩ := h.ground
  exact ⟨nofun, o :: inner, d, rfl⟩

theorem pop (h : Sound mode (o :: outer)) (ho : o = .substitution ∨ outer ≠ [])
    (hmode : ∀ q, mode' = .quoted q → q = '\'' ∨ q = '"') : Sound mode' outer := by
  obtain ⟨inner, d, hstack⟩ := h.ground
  cases inner with
  | nil =>
    obtain ⟨rfl, rfl⟩ := List.cons.inj hstack
    rcases ho with ho | ho
    · cases ho
    · exact absurd rfl ho
  | cons o' inner => exact ⟨hmode, inner, d, (List.cons.inj hstack).2⟩

theorem moveClose (h : Sound mode stack) : (moveClose b stack).IsSound := by
  cases stack with
  | nil => exact trivial
  | cons o outer =>
    cases o with
    | bracket d =>
      refine .ite ?_ trivial
      cases outer with
      | nil => exact trivial
      | cons o' outer => exact h.pop (.inr (by simp)) nofun
    | substitution => exact .ite (h.pop (.inl rfl) nofun) trivial

theorem move (h : Sound mode stack) : (move stack b next mode).IsSound := by
  have hcode : Sound .code stack := h.change nofun
  cases mode with
  | code =>
    have hquote : ∀ q, q = '\'' ∨ q = '"' → Sound (.quoted q) stack := fun q hq =>
      h.change fun q' hq' => by cases hq'; exact hq
    have htemplate : Sound .template stack := h.change nofun
    have hline : Sound .lineComment stack := h.change nofun
    have hblock : Sound .blockComment stack := h.change nofun
    exact .ite (hquote _ (.inl rfl)) (.ite (hquote _ (.inr rfl)) (.ite htemplate (.ite hline (.ite hblock
      (.ite (h.push _) (.ite (h.push _) (.ite (h.push _) (.ite h.moveClose hcode))))))))
  | quoted q => exact .ite h (.ite hcode h)
  | template => exact .ite h (.ite hcode (.ite (h.push _) h))
  | lineComment => exact .ite hcode h
  | blockComment => exact .ite hcode h

theorem step {st st' : ScanState} (hst : Sound st.mode st.stack) (h : st.step b next = some st') :
    Sound st'.mode st'.stack := by
  have hmove := @move _ _ b next hst
  unfold ScanState.step at h
  split_ifs at h
  · cases h; exact hst
  · split at h
    · next heq => cases h; rwa [heq] at hmove
    · next heq => cases h; rwa [heq] at hmove
    · cases h

theorem walk {st st' : ScanState} {w rest : List UInt8} (hst : Sound st.mode st.stack)
    (h : st.walk w rest = some st') : Sound st'.mode st'.stack := by
  induction w generalizing st with
  | nil => cases h; exact hst
  | cons b w ih =>
    obtain ⟨mid, hmid, h⟩ := Option.bind_eq_some_iff.1 h
    exact ih (hst.step hmid) h

end Sound

/-! ### Offsets -/

/-- The scan from the bracket at `offset` has come to `n`, in `mode` and with `stack` open. -/
def Sees (t : Text) (offset n : Nat) (mode : Mode) (stack : List Open) : Prop :=
  ∃ a c r b d past, t = a ++ c :: (r ++ b) ∧ size a = offset ∧ size (a ++ c :: r) = n ∧ closer? c = some d ∧
    ScanState.walk ⟨false, .code, [.bracket d]⟩ (bytes r) (bytes b) = some ⟨past, mode, stack⟩

section Sees

variable {t a b : Text} {offset c : Nat} {mode : Mode} {stack : List Open}

theorem size_of_closer? {x d : Char} (h : closer? x = some d) : x.utf8Size = 1 :=
  utf8Size_of_lt (closer?_eq_some h).1

/-- A bracket that is closed stands around code. -/
theorem exists_code_of_closing (h : closing t offset = some c) :
    ∃ a x r d b, t = a ++ x :: (r ++ d :: b) ∧ closer? x = some d ∧ size a = offset ∧
      c = size (a ++ x :: (r ++ [d])) ∧ Reads .code (bytes r) (bytes (d :: b)) := by
  have hscan := h
  unfold closing at h
  split at h
  · next a x rest hcut =>
    obtain ⟨d, hd, -⟩ := Option.bind_eq_some_iff.1 h
    obtain ⟨rfl, rfl⟩ := cut_eq_some_iff.1 hcut
    obtain ⟨-, hda, -⟩ := closer?_eq_some hd
    rw [closing_append hd] at hscan
    obtain ⟨v, s, hv, hreads, hend⟩ := (scanBytes_sound _ [] _ rfl).1 _ _ _ _ hscan
    cases hend
    rw [Open.closer_bracket] at hv hreads
    -- the closer is a character of its own, so the text splits where its bytes do
    have hat : (bytes rest)[v.length]? = some (byte d) := by rw [hv]; simp
    obtain ⟨r, y, b, rfl, hsize, hya, hy⟩ := exists_cut_of_ascii hat (by rwa [toNat_byte hda])
    obtain rfl := (byte_inj hya hda).1 hy
    rw [bytes_append, bytes_ascii hya] at hv
    obtain ⟨rfl, hs⟩ := List.append_inj hv (by rw [length_bytes, hsize])
    refine ⟨a, x, r, y, b, rfl, hd, rfl, ?_, ?_⟩
    · simp only [size_append, size_cons, size_nil, size_of_closer? hd, utf8Size_of_lt hda, length_bytes]; omega
    · rwa [bytes_ascii hya, (List.cons.inj hs).2]
  · cases h

theorem exists_sees (hc : closing (a ++ b) offset = some c) (ho : offset < size a) (hlt : size a < c) :
    ∃ mode stack, Sees (a ++ b) offset (size a) mode stack := by
  have hscan := hc
  unfold closing at hc
  split at hc
  · next a' x rest hcut =>
    obtain ⟨d, hd, -⟩ := Option.bind_eq_some_iff.1 hc
    obtain ⟨ht, rfl⟩ := cut_eq_some_iff.1 hcut
    obtain ⟨m, rfl, hm⟩ := prefix_of_size_le ht.symm (Nat.le_of_lt ho)
    cases m with
    | nil => simp at ho
    | cons y r =>
      obtain ⟨rfl, rfl⟩ := List.cons.inj hm
      rw [List.append_assoc, List.cons_append, closing_append hd, bytes_append] at hscan
      have hwalk := @ScanState.exists_walk ⟨false, .code, [.bracket d]⟩ _ _ _ _ hscan (by
        rw [length_bytes]
        rw [size_append, size_cons, size_of_closer? hd] at hlt
        omega)
      obtain ⟨⟨past, mode, stack⟩, hwalk⟩ := hwalk
      exact ⟨mode, stack, a', x, r, b, d, past, by simp, rfl, rfl, hd, hwalk⟩
  · cases hc

theorem Sees.unique {n : Nat} {mode' : Mode} {stack' : List Open} (h : Sees t offset n mode stack)
    (h' : Sees t offset n mode' stack') : mode = mode' ∧ stack = stack' := by
  obtain ⟨a, x, r, b, d, past, rfl, rfl, rfl, hd, hwalk⟩ := h
  obtain ⟨a', x', r', b', d', past', ht, ha, hn, hd', hwalk'⟩ := h'
  obtain ⟨rfl, hx⟩ := append_inj_of_size ht.symm ha
  obtain ⟨rfl, hr⟩ := List.cons.inj hx
  obtain ⟨rfl, rfl⟩ := append_inj_of_size hr (by simpa using hn)
  cases hd.symm.trans hd'
  cases hwalk.symm.trans hwalk'
  exact ⟨rfl, rfl⟩

theorem closing_of_walk {x d : Char} {r : Text} {st : ScanState} (hd : closer? x = some d)
    (h : ScanState.walk ⟨false, .code, [.bracket d]⟩ (bytes r) (bytes b) = some st) :
    closing (a ++ x :: r ++ b) (size a) = st.scan (size (a ++ x :: r)) (bytes b) := by
  have hscan := @ScanState.scan_of_walk _ _ (size a + 1) _ _ h
  rw [List.append_assoc, List.cons_append, closing_append hd, bytes_append]
  refine hscan.trans ?_
  rw [length_bytes, size_append, size_cons, size_of_closer? hd, Nat.add_assoc]

/-- What follows the offset that a scan has come to can be exchanged, up to its first byte. -/
theorem Sees.exists_past (h : Sees (a ++ b) offset (size a) mode stack) :
    Sound mode stack ∧ ∃ past, ∀ b', (bytes b').head? = (bytes b).head? →
      closing (a ++ b') offset = scanBytes past mode stack (size a) (bytes b') := by
  obtain ⟨a', x, r, b₁, d, past, ht, rfl, hn, hd, hwalk⟩ := h
  have ht' : a ++ b = (a' ++ x :: r) ++ b₁ := by simpa using ht
  obtain ⟨rfl, rfl⟩ := append_inj_of_size ht' hn.symm
  refine ⟨@Sound.walk ⟨_, _, _⟩ _ _ _ (.start d) hwalk, past, fun b' hb' => ?_⟩
  rw [ScanState.walk_congr hb'.symm] at hwalk
  exact closing_of_walk hd hwalk

theorem Sees.closing_of_brace (h : Sees (a ++ '}' :: b) offset (size (a ++ ['}'])) mode stack) :
    closing (a ++ '}' :: b) offset = scanBytes false mode stack (size (a ++ ['}'])) (bytes b) := by
  obtain ⟨a', x, r, b₁, d, past, ht, rfl, hn, hd, hwalk⟩ := h
  have ht' : (a ++ ['}']) ++ b = (a' ++ x :: r) ++ b₁ := by simpa using ht
  obtain ⟨ha, rfl⟩ := append_inj_of_size ht' hn.symm
  rcases List.eq_nil_or_concat' r with rfl | ⟨r, y, rfl⟩
  · obtain ⟨-, hx⟩ := List.append_inj' ha rfl
    cases hx
    cases hd
  · have ha' : a ++ ['}'] = (a' ++ x :: r) ++ [y] := by simpa using ha
    obtain ⟨rfl, hy⟩ := List.append_inj' ha' rfl
    cases hy
    have hpast : past = false := by
      rw [bytes_append, ScanState.walk_append] at hwalk
      obtain ⟨mid, -, hmid⟩ := Option.bind_eq_some_iff.1 hwalk
      obtain ⟨st, hst, hend⟩ := Option.bind_eq_some_iff.1 hmid
      cases hend
      exact ScanState.past_of_step_brace hst
    subst hpast
    have htext : a' ++ x :: r ++ '}' :: b = a' ++ x :: (r ++ ['}']) ++ b := by simp
    rw [htext, closing_of_walk hd hwalk, ← ha]
    rfl

end Sees

end HandlerMigration.Bracket
