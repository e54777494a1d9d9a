import HandlerMigration.Migration.Requests
import HandlerMigration.Proofs.CatchGuards
import HandlerMigration.Proofs.ScanWalk

/-!
# Brackets around a preflight block

A test for a preflight request with its block is code, and so is the block that replaces it
(`reads_guard`). A scan from a bracket further out steps over either of them if it finds them in code.
Elsewhere the canonical block can be taken apart: its newline ends a string or a line comment
(`scanBytes_preflightBlock`). Main statement: the bracket is closed at the same place of the new text if
the scan leaves the old block as it leaves the new one (`closing_delegatePreflight`).
-/

namespace HandlerMigration.Shape

open Text HandlerMigration.Bracket Pattern

/-! ### Guards -/

theorem not_mem_marks {c : Char} (h : isBlank c = true ∨ Unicode.isWord c = true ∨ c = '$') :
    c ∉ Mode.code.marks := by
  have hmarks : Mode.code.marks.all (fun d => !(isBlank d || Unicode.isWord d || d == '$')) = true := by decide
  rw [List.all_eq_true] at hmarks
  intro hc
  have := hmarks c hc
  rcases h with h | h | rfl
  · simp [h] at this
  · simp [h] at this
  · simp at this

theorem lacks_blanks {last next : Option Char} {w : Text} (h : Piece.blanks.Spells last w next) :
    Mode.code.lacks w = true := lacks_iff.2 fun c hc => not_mem_marks (.inl (h.1 c hc))

theorem lacks_identifier {last next : Option Char} {w : Text} (h : Piece.identifier.Spells last w next) :
    Mode.code.lacks w = true := lacks_iff.2 fun c hc => not_mem_marks (.inr (identifier_word h c hc))

theorem lacks_margin {mode : Mode} {m : Text} (hmode : mode.lacks [' ', '\t'] = true)
    (hm : ∀ c ∈ m, isMargin c = true) : mode.lacks m = true := by
  refine lacks_iff.2 fun c hc => lacks_iff.1 hmode c ?_
  simpa [isMargin] using hm c hc

/-- A test for a preflight request up to its word. -/
def testPattern : Pattern :=
  text "if" ++ Piece.blanks ++ text "(" ++ Piece.blanks ++ opt (Piece.identifier ++ text ".") ++ text "method" ++
  Piece.blanks ++ text "==" ++ opt (text "=") ++ Piece.blanks

section Parts

variable {last next : Option Char} {w : Text}

theorem testPattern_parts (h : testPattern.Spells last w next) :
    ∃ front test, w = front ++ '(' :: test ∧ Mode.code.lacks front = true ∧ Mode.code.lacks test = true := by
  obtain ⟨_, b₄, rfl, ⟨_, more, rfl, ⟨_, _, rfl, ⟨_, b₃, rfl, ⟨_, _, rfl, ⟨_, object, rfl, ⟨_, b₂, rfl,
    ⟨_, _, rfl, ⟨_, b₁, rfl, rfl, hb₁⟩, rfl⟩, hb₂⟩, hobject⟩, rfl⟩, hb₃⟩, rfl⟩, hmore⟩, hb₄⟩ := h
  have hobject' : Mode.code.lacks object = true := by
    rcases hobject with ⟨_, _, rfl, hid, rfl⟩ | rfl
    · exact lacks_append.2 ⟨lacks_identifier hid, by decide⟩
    · rfl
  have hmore' : Mode.code.lacks more = true := by rcases hmore with rfl | rfl <;> decide
  have hmethod : Mode.code.lacks "method".toList = true := by decide
  have hequals : Mode.code.lacks "==".toList = true := by decide
  refine ⟨['i', 'f'] ++ b₁, b₂ ++ (object ++ ("method".toList ++ (b₃ ++ ("==".toList ++ (more ++ b₄))))), by simp,
    lacks_append.2 ⟨by decide, lacks_blanks hb₁⟩, ?_⟩
  simp only [lacks_append]
  exact ⟨lacks_blanks hb₂, hobject', hmethod, lacks_blanks hb₃, hequals, hmore', lacks_blanks hb₄⟩

/-- The word between quotes in a test for a preflight request. -/
def optionsWord : Text := ['O', 'P', 'T', 'I', 'O', 'N', 'S']

/-- A test for a preflight request up to the brace of its block. -/
def guardHead (front test gap gap' : Text) (q : Char) : Text :=
  front ++ '(' :: (test ++ q :: (optionsWord ++ q :: (gap ++ ')' :: gap')))

theorem optionsPattern_parts (h : optionsPattern.Spells last w next) :
    ∃ front test gap gap' q, w = guardHead front test gap gap' q ++ ['{'] ∧
      (q = '\'' ∨ q = '"') ∧ Mode.code.lacks front = true ∧ Mode.code.lacks test = true ∧
      Mode.code.lacks gap = true ∧ Mode.code.lacks gap' = true := by
  obtain ⟨_, _, rfl, ⟨_, gap', rfl, ⟨_, _, rfl, ⟨_, gap, rfl, ⟨_, word, rfl, htest, hword⟩, hgap⟩, rfl⟩,
    hgap'⟩, rfl⟩ := h
  obtain ⟨front, test, rfl, hfront, htest'⟩ := testPattern_parts htest
  obtain ⟨q, hq, rfl⟩ : ∃ q, (q = '\'' ∨ q = '"') ∧ word = q :: optionsWord ++ [q] := by
    rcases hword with rfl | rfl
    · exact ⟨'\'', .inl rfl, rfl⟩
    · exact ⟨'"', .inr rfl, rfl⟩
  exact ⟨front, test, gap, gap', q, by simp [guardHead], hq, hfront, htest', lacks_blanks hgap,
    lacks_blanks hgap'⟩

end Parts

/-! ### Guards as code -/

/-- A test with its block is code. -/
theorem reads_guard {front test gap gap' : Text} {q : Char} {body rest : List UInt8} (hq : q = '\'' ∨ q = '"')
    (hfront : Mode.code.lacks front = true) (htest : Mode.code.lacks test = true) (hgap : Mode.code.lacks gap = true)
    (hgap' : Mode.code.lacks gap' = true)
    (hbody : Reads .code body (byte '}' :: rest)) :
    Reads .code (bytes (guardHead front test gap gap' q) ++ byte '{' :: (body ++ [byte '}'])) rest := by
  have hqa : q.toNat < 128 := by rcases hq with rfl | rfl <;> decide
  have hblock : Reads .code (bytes gap' ++ byte '{' :: (body ++ [byte '}'])) rest :=
    reads_unmarked hgap' (.bracket (by decide) hbody (.nil _ _))
  have hword : StringBody (byte q) (bytes optionsWord) :=
    stringBody_unmarked hqa (by rcases hq with rfl | rfl <;> decide)
  have hinside : ∀ r, Reads .code (bytes test ++ byte q :: (bytes optionsWord ++ byte q :: bytes gap)) r := by
    intro r
    have hend : Reads .code (bytes gap) r := by simpa using reads_unmarked hgap (.nil _ r)
    exact reads_unmarked htest (.string (hq.imp (congrArg byte) (congrArg byte)) hword hend)
  have hall := reads_unmarked hfront (.bracket (o := byte '(') (c := byte ')') (by decide) (hinside _) hblock)
  convert hall using 1
  simp only [guardHead, bytes_append, bytes_ascii hqa, bytes_ascii (c := '(') (by decide),
    bytes_ascii (c := ')') (by decide), List.append_assoc, List.cons_append]

/-! ### The canonical block -/

/-- The first line of the canonical block, up to its word. -/
def blockFront : Text := ['i', 'f', ' ', '(', 'r', 'e', 'q', '.', 'm', 'e', 't', 'h', 'o', 'd', ' ', '=', '=', '=', ' ']

/-- The first line of the canonical block. -/
def blockLine : Text := blockFront ++ '\'' :: (optionsWord ++ ['\'', ')', ' ', '{'])

/-- The return of the shared helper, up to its arguments. -/
def callFront : Text := "  return handleCorsPreflightRequest".toList

/-- The argument of the shared helper. -/
def callArgument : Text := ['o', 'r', 'i', 'g', 'i', 'n']

/-- The canonical block behind its first line, without the closing brace. -/
def blockRest (m : Text) : Text := (m ++ callFront) ++ '(' :: (callArgument ++ ')' :: ([';', '\n'] ++ m))

theorem preflightBlock_eq (m : Text) :
    Canonical.preflightBlock m = blockLine ++ '\n' :: (blockRest m ++ ['}']) := by
  have hline : "if (req.method === 'OPTIONS') \x7b\n".toList = blockLine ++ ['\n'] := by decide
  have hcall : "  return ".toList ++ Canonical.preflightCall.toList ++ ";\n".toList =
      callFront ++ '(' :: (callArgument ++ [')', ';', '\n']) := by decide
  have hassoc : ∀ a b c d : Text,
      a ++ m ++ b ++ c ++ d ++ m ++ ['}'] = a ++ (m ++ ((b ++ c ++ d) ++ (m ++ ['}']))) := by simp
  refine (hassoc _ _ _ _).trans ((congrArg₂ (fun a b => a ++ (m ++ (b ++ (m ++ ['}'])))) hline hcall).trans ?_)
  simp only [blockRest, List.append_assoc, List.cons_append, List.nil_append]

theorem reads_blockRest {m : Text} (hm : ∀ c ∈ m, isMargin c = true) (rest : List UInt8) :
    Reads .code (bytes (blockRest m)) rest := by
  have hm' : Mode.code.lacks m = true := lacks_margin (by decide) hm
  have hargument : ∀ r, Reads .code (bytes callArgument ++ []) r := fun r => reads_unmarked (by decide) (.nil _ r)
  have hend : Reads .code (bytes ([';', '\n'] ++ m) ++ []) rest :=
    reads_unmarked (lacks_append.2 ⟨by decide, hm'⟩) (.nil _ rest)
  rw [List.append_nil] at hend
  have hfront : Mode.code.lacks callFront = true := by decide
  have hcall := reads_unmarked (lacks_append.2 ⟨hm', hfront⟩)
    (.bracket (o := byte '(') (c := byte ')') (by decide) (hargument _) hend)
  rw [blockRest, bytes_append, bytes_ascii (c := '(') (by decide), bytes_append callArgument,
    bytes_ascii (c := ')') (by decide)]
  rwa [List.append_nil] at hcall

/-- Whether the end of a line ends the mode. -/
def endsWithLine : Mode → Bool
  | .quoted _ | .lineComment => true
  | _ => false

/-- How the scan goes on behind the canonical block. The first line ends a string or a line comment, so
that the last brace closes what was opened last. -/
def afterBlock (mode : Mode) (o : Open) (outer : List Open) (n : Nat) (s : List UInt8) : Option Nat :=
  if endsWithLine mode then if byte '}' = o.closer then resume o outer n s else none
  else scanBytes false mode (o :: outer) n s

section Block

variable {mode : Mode} {stack outer : List Open} {o : Open} {n : Nat} {s : List UInt8} {m : Text}

theorem afterBlock_add : afterBlock mode o outer n s = (afterBlock mode o outer 0 s).map (· + n) := by
  have hresume : resume o outer n s = (resume o outer 0 s).map (· + n) := by
    cases o with
    | bracket d =>
      cases outer with
      | nil => simp [resume]
      | cons o' outer => exact scanBytes_add ..
    | substitution => exact scanBytes_add ..
  unfold afterBlock
  split_ifs
  · exact hresume
  · rfl
  · exact scanBytes_add ..

theorem scanBytes_letter (h : Sound mode stack) (past : Bool) :
    scanBytes past mode stack n (byte 'i' :: s) = scanBytes false mode stack n (byte 'i' :: s) := by
  cases past with
  | false => rfl
  | true =>
    have hlacks : mode.lacks ['i'] = true := by
      cases mode with
      | quoted q => rcases h.quote q rfl with rfl | rfl <;> decide
      | _ => decide
    rw [scanBytes_past, scanBytes_go (move_unmarked_char h.isAscii (by decide) hlacks _)]

theorem scanBytes_newline (h : endsWithLine mode = true) :
    scanBytes false mode stack n (byte '\n' :: s) = scanBytes false .code stack (n + 1) s := by
  refine scanBytes_go ?_
  cases mode with
  | quoted q => simp +decide [move]
  | lineComment => simp [move]
  | _ => cases h

theorem scanBytes_blockLine (hst : Sound mode stack) (h : endsWithLine mode = true) :
    scanBytes false mode stack n (bytes blockLine ++ byte '\n' :: s) =
      scanBytes false .code stack (n + size blockLine + 1) s := by
  have hplain : mode.lacks blockLine = true → scanBytes false mode stack n (bytes blockLine ++ byte '\n' :: s) =
      scanBytes false .code stack (n + size blockLine + 1) s := fun hlacks => by
    rw [scanBytes_unmarked hst.isAscii hlacks, scanBytes_newline h]
  cases mode with
  | lineComment => exact hplain (by decide)
  | quoted q =>
    rcases hst.quote q rfl with rfl | rfl
    · -- the quotes of the word end the string and start another one
      have hline : bytes blockLine ++ byte '\n' :: s = bytes blockFront ++ byte '\'' :: (bytes optionsWord ++
          byte '\'' :: (bytes [')', ' ', '{'] ++ byte '\n' :: s)) := rfl
      rw [hline, scanBytes_unmarked hst.isAscii (by decide), scanBytes_quoted_close (.inl rfl),
        @scanBytes_unmarked .code _ _ optionsWord _ trivial (by decide), scanBytes_quote (.inl rfl),
        scanBytes_unmarked hst.isAscii (by decide), scanBytes_newline h]
      rfl
    · exact hplain (by decide)
  | _ => cases h

theorem bytes_preflightBlock (m : Text) (s : List UInt8) :
    bytes (Canonical.preflightBlock m) ++ s =
      bytes blockLine ++ byte '\n' :: (bytes (blockRest m) ++ byte '}' :: s) := by
  have hbrace : bytes ['}'] = [byte '}'] := rfl
  rw [preflightBlock_eq, bytes_append, bytes_ascii (c := '\n') (by decide), bytes_append (blockRest m), hbrace]
  simp

theorem size_preflightBlock (m : Text) :
    size (Canonical.preflightBlock m) = size blockLine + 1 + size (blockRest m) + 1 := by
  have hlength := congrArg List.length (bytes_preflightBlock m [])
  simp only [List.append_nil, length_bytes, List.length_append, List.length_cons, List.length_nil] at hlength
  omega

theorem reads_preflightBlock (hm : ∀ c ∈ m, isMargin c = true) (rest : List UInt8) :
    Reads .code (bytes (Canonical.preflightBlock m)) rest := by
  have hbody : Reads .code (bytes ['\n'] ++ bytes (blockRest m)) (byte '}' :: rest) :=
    reads_unmarked (by decide) (reads_blockRest hm _)
  have hguard := @reads_guard ['i', 'f', ' '] _ [] [' '] '\'' _ rest (.inl rfl) (by decide)
    (show Mode.code.lacks ['r', 'e', 'q', '.', 'm', 'e', 't', 'h', 'o', 'd', ' ', '=', '=', '=', ' '] = true by decide)
    (by decide) (by decide) hbody
  have hbytes := bytes_preflightBlock m []
  rw [List.append_nil] at hbytes
  rw [hbytes]
  exact hguard

theorem lacks_preflightBlock (hmode : mode.lacks [' ', '\t'] = true) (hm : ∀ c ∈ m, isMargin c = true)
    (hfixed : mode.lacks
      (blockLine ++ ['\n'] ++ (callFront ++ ['('] ++ (callArgument ++ [')', ';', '\n', '}']))) = true) :
    mode.lacks (Canonical.preflightBlock m) = true := by
  have hmargin := lacks_margin hmode hm
  rw [lacks_iff] at hmargin hfixed ⊢
  intro c hc
  rw [preflightBlock_eq, blockRest] at hc
  by_cases hcm : c ∈ m
  · exact hmargin c hcm
  · refine hfixed c ?_
    simp only [List.mem_append, List.mem_cons, List.not_mem_nil, or_false, hcm, false_or, or_assoc] at hc ⊢
    exact hc

/-- The scan over the canonical block. -/
theorem scanBytes_preflightBlock (hst : Sound mode (o :: outer)) (hm : ∀ c ∈ m, isMargin c = true) (past : Bool) :
    scanBytes past mode (o :: outer) n (bytes (Canonical.preflightBlock m) ++ s) =
      afterBlock mode o outer (n + size (Canonical.preflightBlock m)) s := by
  have hpast : scanBytes past mode (o :: outer) n (bytes (Canonical.preflightBlock m) ++ s) =
      scanBytes false mode (o :: outer) n (bytes (Canonical.preflightBlock m) ++ s) := by
    rw [bytes_preflightBlock]
    exact scanBytes_letter hst past
  rw [hpast]
  by_cases hline : endsWithLine mode = true
  · rw [bytes_preflightBlock, scanBytes_blockLine hst hline, (reads_blockRest hm _).scanBytes_append,
      scanBytes_close (.inl rfl), afterBlock, if_pos hline, size_preflightBlock, length_bytes]
    congr 2; omega
  · rw [afterBlock, if_neg hline]
    cases mode with
    | code => rw [(reads_preflightBlock hm s).scanBytes_append, length_bytes]
    | template => exact scanBytes_unmarked trivial (lacks_preflightBlock (by decide) hm (by decide))
    | blockComment => exact scanBytes_unmarked trivial (lacks_preflightBlock (by decide) hm (by decide))
    | _ => exact absurd rfl hline

end Block

/-! ### The guard that is replaced -/

/-- A guard that stands in front of `b`: it starts with a word, and it is code. -/
structure IsGuard (w b : Text) : Prop where
  leading : ['i', 'f'] <+: w
  reads : Reads .code (bytes (w ++ ['}'])) (bytes b)

theorem IsGuard.head {w b : Text} (h : IsGuard w b) : w.head? = some 'i' := by
  obtain ⟨v, rfl⟩ := h.leading
  rfl

/-- A closed test with its block: the head, the braces and the code between them. -/
theorem exists_block {t : Text} {g : OptionsGuard} {stop : Nat} (hg : g ∈ optionsGuards t)
    (hstop : g.stop = some stop) :
    ∃ a head body b, t = a ++ (head ++ '{' :: (body ++ '}' :: b)) ∧ g.start = size a ∧ g.brace = size (a ++ head) ∧
      stop = size (a ++ (head ++ '{' :: (body ++ ['}']))) ∧
      optionsPattern.Occurs a (head ++ ['{']) (body ++ '}' :: b) ∧ Reads .code (bytes body) (byte '}' :: bytes b) := by
  obtain ⟨match', hmatch, rfl⟩ := List.mem_map.1 hg
  have hsolid : optionsPattern.Solid := solid_of_leading (by decide)
  obtain ⟨a, w, b, -, ht, hspan, hw, -⟩ := (hsolid.lists_findAll t).occurs hmatch
  obtain ⟨head, rfl⟩ : ∃ head, w = head ++ ['{'] := List.getLast?_eq_some_iff.1 (hw.getLast?_eq rfl)
  obtain ⟨a', x, r, d, b', ht', hx, ha', rfl, hreads⟩ := exists_code_of_closing hstop
  have hoffset : match'.span.stop - 1 = size (a ++ head) := by
    rw [hspan]
    simp only [size_append, size_cons, size_nil]
    rfl
  have hparts : a ++ head ++ '{' :: b = a' ++ x :: (r ++ d :: b') := by
    rw [← ht', ← List.nil_append t, ht]
    simp
  obtain ⟨rfl, hrest⟩ := append_inj_of_size hparts (hoffset.symm.trans ha'.symm)
  obtain ⟨rfl, rfl⟩ := List.cons.inj hrest
  cases hx
  refine ⟨a, head, r, b', by rw [ht']; simp, by rw [hspan], hoffset, by simp, hw, ?_⟩
  rwa [bytes_ascii (by decide)] at hreads

theorem isGuard_of_mem_optionsGuards {t : Text} {g : OptionsGuard} {stop : Nat} (hg : g ∈ optionsGuards t)
    (hstop : g.stop = some stop) :
    ∃ a w b, t = a ++ (w ++ '}' :: b) ∧ g.start = size a ∧ stop = size (a ++ (w ++ ['}'])) ∧ IsGuard w b := by
  obtain ⟨a, head, body, b, ht, hstart, -, hstop', hw, hreads⟩ := exists_block hg hstop
  have hleading : ['i', 'f'] <+: head ++ '{' :: body := by
    have hpiece : ['i', 'f'] <+: head ++ ['{'] := hw.leading_isPrefix
    exact hpiece.trans ⟨body, by simp⟩
  obtain ⟨front, test, gap, gap', q, hparts, hq, hfront, htest, hgap, hgap'⟩ := optionsPattern_parts hw
  obtain rfl : head = guardHead front test gap gap' q := List.append_cancel_right hparts
  refine ⟨a, guardHead front test gap gap' q ++ '{' :: body, b, by rw [ht]; simp, hstart, by rw [hstop']; simp,
    hleading, ?_⟩
  have hguard := reads_guard hq hfront htest hgap hgap' hreads
  generalize guardHead front test gap gap' q = head at *
  have hbytes : bytes (head ++ '{' :: body ++ ['}']) = bytes head ++ byte '{' :: (bytes body ++ [byte '}']) := by
    rw [bytes_append, bytes_append, bytes_ascii (c := '{') (by decide), List.append_assoc]
    rfl
  rwa [hbytes]

theorem isGuard_of_guardWhere {t : Text} {condition : Text → Bool} {found : Span × Unit}
    (h : guardWhere condition t = some found) :
    ∃ a w b, t = a ++ (w ++ '}' :: b) ∧ found.1 = ⟨size a, size (a ++ (w ++ ['}']))⟩ ∧ IsGuard w b := by
  obtain ⟨g, hg, h⟩ := List.exists_of_findSome?_eq_some h
  obtain ⟨body, hbody, h⟩ := Option.bind_eq_some_iff.1 h
  obtain ⟨block, hblock, h⟩ := Option.bind_eq_some_iff.1 h
  obtain ⟨stop, hstop, rfl⟩ := Option.map_eq_some_iff.1 hblock
  obtain ⟨a, w, b, ht, hstart, rfl, hguard⟩ := isGuard_of_mem_optionsGuards hg hstop
  split_ifs at h
  cases h
  exact ⟨a, w, b, ht, by rw [hstart], hguard⟩

theorem exists_guard {t : Text} {hit : Hit Unit} (h : firstHit t inlineHandlers = some hit) :
    ∃ a w b, t = a ++ (w ++ '}' :: b) ∧ hit.span = ⟨size a, size (a ++ (w ++ ['}']))⟩ ∧ IsGuard w b := by
  obtain ⟨r, hr, hfound⟩ := List.exists_of_findSome?_eq_some h
  obtain ⟨found, hfind, rfl⟩ := Option.map_eq_some_iff.1 hfound
  rcases List.mem_cons.1 hr with rfl | hr
  · exact isGuard_of_guardWhere hfind
  · cases List.mem_singleton.1 hr
    exact isGuard_of_guardWhere hfind

end HandlerMigration.Shape

namespace HandlerMigration.Migration

open Text HandlerMigration.Bracket Shape

/-- The step replaces the guard that it found, and nothing else. -/
theorem delegatePreflight_eq {t u a w b : Text} {notes : List (Outcome × String)} {hit : Hit Unit}
    (hrun : delegatePreflight t = .ok ⟨some u, notes⟩) (hhit : firstHit t inlineHandlers = some hit)
    (ht : t = a ++ (w ++ '}' :: b)) (hspan : hit.span = ⟨size a, size (a ++ (w ++ ['}']))⟩) :
    ∃ m, (∀ c ∈ m, isMargin c = true) ∧ u = a ++ (Canonical.preflightBlock m ++ b) := by
  unfold delegatePreflight at hrun
  split_ifs at hrun with hcall
  · cases hrun
  · rw [hhit] at hrun
    obtain ⟨m, hm, hrun⟩ := bind_eq_ok hrun
    obtain ⟨u', hu, hrun⟩ := bind_eq_ok hrun
    cases hrun
    refine ⟨m, isMargin_of_marginAt hm, ?_⟩
    rw [hspan, ht, show w ++ '}' :: b = (w ++ ['}']) ++ b by simp, Edit.applyAll_singleton] at hu
    cases hu
    rfl

/-- The scan from the bracket at `offset`, which closes at `c`, leaves what ends at `n` as it would leave
the canonical block. In a block comment or a template literal nothing changes; a string or a line comment
ends inside, and the last brace closes what was opened last. -/
def LeavesAsBlock (t : Text) (offset n c : Nat) (mode : Mode) (stack : List Open) : Prop :=
  match mode with
  | .code => True
  | .template | .blockComment => Sees t offset n mode stack
  | .quoted _ | .lineComment =>
    ∃ outer, stack = .bracket '}' :: outer ∧ (outer = [] ∧ c = n ∨ outer ≠ [] ∧ Sees t offset n .code outer) ∨
      stack = .substitution :: outer ∧ Sees t offset n .template outer

section Leaves

variable {t a w b : Text} {offset c : Nat} {mode : Mode} {o : Open} {outer : List Open}

theorem scanBytes_isGuard (hguard : IsGuard w b) (hst : Sound .code (o :: outer)) (past : Bool) (n : Nat) :
    scanBytes past .code (o :: outer) n (bytes (w ++ '}' :: b)) =
      scanBytes false .code (o :: outer) (n + size (w ++ ['}'])) (bytes b) := by
  obtain ⟨v, rfl⟩ := List.head?_eq_some_iff.1 hguard.head
  have hpast : scanBytes past .code (o :: outer) n (bytes ('i' :: v ++ '}' :: b)) =
      scanBytes false .code (o :: outer) n (bytes ('i' :: v ++ '}' :: b)) := by
    rw [List.cons_append, bytes_ascii (by decide), scanBytes_letter hst]
  have hsplit : bytes ('i' :: v ++ '}' :: b) = bytes ('i' :: v ++ ['}']) ++ bytes b := by
    rw [← bytes_append]
    simp
  rw [hpast, hsplit, hguard.reads.scanBytes_append, length_bytes]

theorem afterBlock_of_leaves (hguard : IsGuard w b) (hst : Sound mode (o :: outer)) (past : Bool)
    (hscan : closing (a ++ (w ++ '}' :: b)) offset = scanBytes past mode (o :: outer) (size a) (bytes (w ++ '}' :: b)))
    (hc : closing (a ++ (w ++ '}' :: b)) offset = some c)
    (hleaves : LeavesAsBlock (a ++ (w ++ '}' :: b)) offset (size (a ++ (w ++ ['}']))) c mode (o :: outer)) :
    afterBlock mode o outer (size (a ++ (w ++ ['}']))) (bytes b) = some c := by
  -- behind the guard, the scan goes on from what it sees there
  have hsees : ∀ mode' stack', Sees (a ++ (w ++ '}' :: b)) offset (size (a ++ (w ++ ['}']))) mode' stack' →
      scanBytes false mode' stack' (size (a ++ (w ++ ['}']))) (bytes b) = some c := by
    intro mode' stack' h
    rw [← List.append_assoc, ← List.append_assoc] at h
    rw [← hc, ← List.append_assoc, ← List.append_assoc, h.closing_of_brace]
  cases mode with
  | code =>
    rw [hc, scanBytes_isGuard hguard hst past] at hscan
    rw [size_append, afterBlock]
    exact hscan.symm
  | template => exact hsees _ _ hleaves
  | blockComment => exact hsees _ _ hleaves
  | _ =>
    obtain ⟨outer', ⟨hstack, ⟨rfl, rfl⟩ | ⟨hne, h⟩⟩ | ⟨hstack, h⟩⟩ := hleaves
    · cases hstack
      rfl
    · cases hstack
      have hclose := hsees _ _ h
      obtain ⟨o', outer, rfl⟩ := List.exists_cons_of_ne_nil hne
      exact hclose
    · cases hstack
      exact hsees _ _ h

end Leaves

/-- The brackets around a preflight block. The scan from a bracket in front of the guard that is replaced,
with an answer behind it, comes to the guard in some mode. If it leaves the guard as it leaves the canonical
block, as it always does in code, the bracket closes at the same place of the new text. -/
theorem closing_delegatePreflight {t u : Text} {notes : List (Outcome × String)} {hit : Hit Unit} {offset c : Nat}
    (hrun : delegatePreflight t = .ok ⟨some u, notes⟩) (hhit : firstHit t inlineHandlers = some hit)
    (ho : offset < hit.span.start) (hc : closing t offset = some c) (hle : hit.span.stop ≤ c) :
    ∃ mode stack, Sees t offset hit.span.start mode stack ∧
      (LeavesAsBlock t offset hit.span.stop c mode stack →
        ∃ c', closing u offset = some c' ∧ (c' : Int) = c + ((size u : Int) - size t)) := by
  obtain ⟨a, w, b, rfl, hspan, hguard⟩ := exists_guard hhit
  obtain ⟨m, hm, rfl⟩ := delegatePreflight_eq hrun hhit rfl hspan
  rw [hspan] at ho hle ⊢
  have hlt : size a < c := by
    refine Nat.lt_of_lt_of_le ?_ hle
    rw [size_append]
    exact Nat.lt_add_of_pos_right (size_pos (by simp))
  obtain ⟨mode, stack, hsees⟩ := exists_sees hc ho hlt
  obtain ⟨hsound, past, hclosing⟩ := hsees.exists_past
  obtain ⟨o, outer, rfl⟩ := hsound.exists_cons
  refine ⟨mode, _, hsees, fun hleaves => ?_⟩
  have hold := afterBlock_of_leaves hguard hsound past (hclosing _ rfl) hc hleaves
  have hnew : closing (a ++ (Canonical.preflightBlock m ++ b)) offset =
      afterBlock mode o outer (size a + size (Canonical.preflightBlock m)) (bytes b) := by
    rw [hclosing, bytes_append, scanBytes_preflightBlock hsound hm]
    -- both start with the same letter
    obtain ⟨v, hv⟩ := List.head?_eq_some_iff.1 hguard.head
    rw [hv, bytes_append, bytes_preflightBlock, List.cons_append, bytes_ascii (by decide)]
    rfl
  rw [afterBlock_add] at hold hnew
  obtain ⟨k, hk, rfl⟩ := Option.map_eq_some_iff.1 hold
  refine ⟨k + (size a + size (Canonical.preflightBlock m)), by rw [hnew, hk]; rfl, ?_⟩
  simp only [size_append, size_cons, size_nil]
  omega

/-- A guard in a callback inside a template literal, with a brace in a string of its block. -/
def nestedGuard : Text := "(\x60$\x7b()=>\x7bif(method=='OPTIONS')\x7breturn'\x7d'\x7d\x7d\x7d\x60)".toList

/-- `nestedGuard` with the canonical block. -/
def nestedBlock : Text :=
  ("(\x60$\x7b()=>\x7bif (req.method === 'OPTIONS') \x7b\n  return handleCorsPreflightRequest(origin);\n\x7d" ++
    "\x7d\x7d\x60)").toList

set_option maxRecDepth 20000 in
theorem closing_delegatePreflight_nestedGuard :
    closing nestedGuard 0 = some 45 ∧ (∃ notes, delegatePreflight nestedGuard = .ok ⟨some nestedBlock, notes⟩) ∧
      ∃ c', closing nestedBlock 0 = some c' ∧ (c' : Int) = 45 + ((size nestedBlock : Int) - size nestedGuard) := by
  obtain ⟨hc, hhit, hrun⟩ : closing nestedGuard 0 = some 45 ∧
      firstHit nestedGuard inlineHandlers = some ⟨"generic", ⟨9, 41⟩, ()⟩ ∧
      (delegatePreflight nestedGuard).toOption =
        some ⟨some nestedBlock, [(.applied, "replaced inline preflight handler (generic)")]⟩ := by decide +kernel
  have hsees : Sees nestedGuard 0 9 .code [.bracket '}', .substitution, .bracket ')'] :=
    ⟨[], '(', "\x60$\x7b()=>\x7b".toList, nestedGuard.drop 9, ')', false, by decide +kernel⟩
  have hrun := toOption_eq_some hrun
  obtain ⟨mode, stack, hmode, hshift⟩ := closing_delegatePreflight hrun hhit (by decide) hc (by decide)
  obtain ⟨rfl, rfl⟩ := hmode.unique hsees
  exact ⟨hc, ⟨_, hrun⟩, hshift trivial⟩

/-- A guard in a line comment. -/
def commentedGuard : Text := "\x7b//if(method=='OPTIONS')\x7breturn\x7d\n\x7d".toList

/-- `commentedGuard` with the canonical block, of which only the first line is still in the comment. -/
def commentedBlock : Text :=
  "\x7b//if (req.method === 'OPTIONS') \x7b\n  return handleCorsPreflightRequest(origin);\n\x7d\n\x7d".toList

set_option maxRecDepth 20000 in
/-- A one-line guard in a line comment becomes a block whose last brace closes the bracket around it. -/
theorem closing_commentedGuard :
    delegatePreflight commentedGuard =
        .ok ⟨some commentedBlock, [(.applied, "replaced inline preflight handler (generic)")]⟩ ∧
      firstHit commentedGuard inlineHandlers = some ⟨"generic", ⟨3, 32⟩, ()⟩ ∧ closing commentedGuard 0 = some 34 ∧
      ¬ ∃ c', closing commentedBlock 0 = some c' ∧
        (c' : Int) = 34 + ((size commentedBlock : Int) - size commentedGuard) := by
  obtain ⟨hrun, hhit, hc, hnew, hblock, hguard⟩ :
      (delegatePreflight commentedGuard).toOption =
        some ⟨some commentedBlock, [(.applied, "replaced inline preflight handler (generic)")]⟩ ∧
      firstHit commentedGuard inlineHandlers = some ⟨"generic", ⟨3, 32⟩, ()⟩ ∧ closing commentedGuard 0 = some 34 ∧
      closing commentedBlock 0 = some 81 ∧ size commentedBlock = 83 ∧ size commentedGuard = 34 := by decide +kernel
  refine ⟨toOption_eq_some hrun, hhit, hc, ?_⟩
  rintro ⟨c', hc', h⟩
  rw [hnew] at hc'
  cases hc'
  omega

end HandlerMigration.Migration
