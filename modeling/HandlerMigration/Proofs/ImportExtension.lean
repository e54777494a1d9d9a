import HandlerMigration.Proofs.NamedImports
import HandlerMigration.Proofs.Rest

/-!
# Names added to imports

A list of names is read between its commas, so that blanks and commas at its end do not count
(`namesOf_append_closing`) and names behind them are read as they were added (`namesOf_listed`). The edits of the step
are in different imports, for no path is one of two modules. With the imports side by side (`aligned_extensions`)
each import has its old names and, where it is the first one of its module, the names that were missing.
-/

namespace HandlerMigration

open Text

namespace Text

theorem splitOn_eq_splitOnP (mark : Char) (t : Text) : splitOn mark t = List.splitOnP (· == mark) t := by
  induction t with
  | nil => rfl
  | cons c t ih =>
    rw [List.splitOnP_cons_eq_if_modifyHead, splitOn, ih]
    by_cases hc : c = mark
    · rw [if_pos hc, if_pos (beq_iff_eq.2 hc)]
    · rw [if_neg hc, if_neg (by simpa using hc)]
      cases hsplit : List.splitOnP (· == mark) t with
      | nil => exact absurd hsplit (List.splitOnP_ne_nil _ _)
      | cons piece pieces => rfl

theorem dropEndWhile_concat {P : Char → Bool} {t : Text} {c : Char} (hc : P c = true) :
    (t ++ [c]).dropEndWhile P = t.dropEndWhile P := by
  rw [dropEndWhile, List.reverse_append, List.reverse_singleton, List.singleton_append, List.dropWhile_cons_of_pos hc]
  rfl

theorem trim_concat {t : Text} {c : Char} (hc : isBlank c = true) : (t ++ [c]).trim = t.trim := by
  rw [trim, trim, trimStart, trimStart, trimEnd, trimEnd, List.dropWhile_append]
  split_ifs with hnil
  · rw [List.isEmpty_iff.1 hnil, List.dropWhile_cons_of_pos hc]
    rfl
  · exact dropEndWhile_concat hc

end Text

namespace Shape

open Pattern

/-! ### Lists of names -/

/-- The names in a list, without their local ones. -/
def namesOf (x : Text) : List Text :=
  ((splitOn ',' x).map trim).filter (fun name => !name.isEmpty) |>.map firstWord

/-- Whether a name can be read back from a list. -/
def isListed (name : Text) : Bool := !name.isEmpty && name.all fun c => !isBlank c && c != ',' && c != '}'

/-- Names as they are put behind others. -/
def listed (names : List String) : Text := names.flatMap fun name => ',' :: ' ' :: name.toList

section Names

variable {x d : Text} {c : Char}

theorem namesOf_append_cons (x y : Text) : namesOf (x ++ ',' :: y) = namesOf x ++ namesOf y := by
  simp only [namesOf, splitOn_eq_splitOnP]
  rw [List.splitOnP_append_cons (p := fun c => c == ',') x y (beq_self_eq_true ','), List.map_append,
    List.filter_append, List.map_append]

theorem namesOf_of_not_mem (hx : ',' ∉ x) :
    namesOf x = if x.trim.isEmpty then [] else [x.trim.firstWord] := by
  have hsplit : splitOn ',' x = [x] := by
    rw [splitOn_eq_splitOnP]
    refine List.splitOnP_eq_singleton ?_
    intro c hc
    exact beq_false_of_ne fun h => hx (h ▸ hc)
  rw [namesOf, hsplit]
  cases hempty : x.trim.isEmpty <;> simp [hempty]

theorem namesOf_concat (hc : isBlank c = true) : namesOf (x ++ [c]) = namesOf x := by
  have hcomma : c ≠ ',' := by
    rintro rfl
    exact absurd hc (by decide)
  -- only the part behind the last comma changes
  induction hn : x.length using Nat.strong_induction_on generalizing x with
  | _ n ih =>
    by_cases hx : ',' ∈ x
    · obtain ⟨y, z, rfl⟩ := List.append_of_mem hx
      rw [List.append_assoc, List.cons_append, namesOf_append_cons, namesOf_append_cons]
      rw [ih z.length (by rw [← hn, List.length_append, List.length_cons]; omega) rfl]
    · have hx' : ',' ∉ x ++ [c] := List.not_mem_append hx (by simpa using hcomma.symm)
      rw [namesOf_of_not_mem hx, namesOf_of_not_mem hx', trim_concat hc]

/-- Blanks and commas at the end of a list do not count. -/
theorem namesOf_append_closing (hd : ∀ c ∈ d, (isBlank c || c == ',') = true) : namesOf (x ++ d) = namesOf x := by
  induction d generalizing x with
  | nil => rw [List.append_nil]
  | cons c d ih =>
    obtain ⟨hc, hback⟩ := List.forall_mem_cons.1 hd
    rcases Bool.or_eq_true_iff.1 hc with hblank | hcomma
    · rw [← List.singleton_append, ← List.append_assoc, ih hback, namesOf_concat hblank]
    · obtain rfl := beq_iff_eq.1 hcomma
      have hnone : namesOf d = [] := (ih hback : namesOf ([] ++ d) = namesOf [])
      rw [namesOf_append_cons, hnone, List.append_nil]

theorem namesOf_name {name : Text} (hname : isListed name = true) : namesOf (' ' :: name) = [name] := by
  obtain ⟨hne, hall⟩ := Bool.and_eq_true_iff.1 hname
  have hchars : ∀ c ∈ name, isBlank c = false ∧ c ≠ ',' := by
    intro c hc
    have := List.all_eq_true.1 hall c hc
    simp only [Bool.and_eq_true, Bool.not_eq_true', bne_iff_ne] at this
    exact this.1
  have hkeep : ∀ {l : Text}, (∀ c ∈ l, isBlank c = false) → l.dropWhile isBlank = l := by
    intro l hl
    cases l with
    | nil => rfl
    | cons c l => exact List.dropWhile_cons_of_neg (by simp [hl c (by simp)])
  have hstart : name.dropWhile isBlank = name := hkeep fun c hc => (hchars c hc).1
  have htrim : trim (' ' :: name) = name := by
    have hblank : (' ' :: name).dropWhile isBlank = name := by rw [List.dropWhile_cons_of_pos (by decide), hstart]
    rw [trim, trimStart, hblank, trimEnd, dropEndWhile, hkeep, List.reverse_reverse]
    intro c hc
    exact (hchars c (List.mem_reverse.1 hc)).1
  have hword : name.firstWord = name := by
    rw [firstWord, trimStart, hstart]
    refine List.takeWhile_eq_self_iff.2 ?_
    intro c hc
    simp [(hchars c hc).1]
  rw [namesOf_of_not_mem, htrim, if_neg, hword]
  · simpa using hne
  · intro hmem
    rcases List.mem_cons.1 hmem with h | h
    · cases h
    · exact (hchars _ h).2 rfl

/-- Names are read as they were added. -/
theorem namesOf_listed {names : List String} (h : ∀ name ∈ names, isListed name.toList = true) (x : Text) :
    namesOf (x ++ listed names) = namesOf x ++ names.map String.toList := by
  induction names generalizing x with
  | nil => simp [listed]
  | cons name names ih =>
    obtain ⟨hname, hnames⟩ := List.forall_mem_cons.1 h
    have hcons : x ++ listed (name :: names) = x ++ ',' :: (' ' :: name.toList) ++ listed names := by simp [listed]
    rw [hcons, ih hnames, namesOf_append_cons, namesOf_name hname]
    simp

theorem toList_listed {names : List String} (hne : names ≠ []) :
    (", " ++ ", ".intercalate names).toList = listed names := by
  have hsep : ", ".toList = [',', ' '] := rfl
  rw [String.toList_append, String.toList_intercalate, hsep]
  induction names with
  | nil => exact absurd rfl hne
  | cons name names ih =>
    cases names with
    | nil => simp [listed]
    | cons name' names =>
      rw [List.map_cons, List.map_cons, List.intercalate_cons_cons]
      have := ih (List.cons_ne_nil _ _)
      rw [List.map_cons] at this
      rw [List.append_assoc name.toList, this]
      simp [listed]

theorem brace_not_mem_listed {names : List String} (h : ∀ name ∈ names, isListed name.toList = true) :
    '}' ∉ listed names := by
  intro hmem
  obtain ⟨name, hname, hmem⟩ := List.mem_flatMap.1 hmem
  simp only [List.mem_cons] at hmem
  rcases hmem with hmem | hmem | hmem
  · cases hmem
  · cases hmem
  · have hall := (Bool.and_eq_true_iff.1 (h name hname)).2
    exact absurd (List.all_eq_true.1 hall _ hmem) (by decide)

end Names

/-! ### The edits -/

/-- The end of a list of names behind which others go. -/
def isClosing (c : Char) : Bool := isBlank c || c == ','

/-- The names that an import lacks. -/
def lacking (t : Text) (i : NamedImport) (names : List String) : List String :=
  names.filter fun name => !i.imports t name.toList

namespace ImportPiece

theorem imported_behind (i : ImportPiece) (a b : Text) :
    (i.behind a).imported (a ++ (i.text ++ b)) = namesOf i.names := by
  rw [NamedImport.imported, slice_names]
  rfl

theorem appendOffset_behind (i : ImportPiece) (a b : Text) :
    (i.behind a).appendOffset (a ++ (i.text ++ b)) = size (a ++ (i.front ++ i.names.dropEndWhile isClosing)) := by
  rw [NamedImport.appendOffset, slice_names]
  show size (a ++ i.front) + size (i.names.dropEndWhile isClosing) = _
  rw [← size_append, List.append_assoc]

theorem exists_extended (i : ImportPiece) {names : List String} (h : ∀ name ∈ names, isListed name.toList = true) :
    ∃ (rest : Text) (j : ImportPiece), i.text = i.front ++ i.names.dropEndWhile isClosing ++ rest ∧
      j.text = i.front ++ i.names.dropEndWhile isClosing ++ (listed names ++ rest) ∧ j.path = i.path ∧
      j.back = i.back ∧ namesOf j.names = namesOf i.names ++ names.map String.toList := by
  obtain ⟨d, hd, hclosing⟩ := exists_dropEndWhile isClosing i.names
  generalize i.names.dropEndWhile isClosing = kept at hd ⊢
  have hkept : '}' ∉ kept ∧ '}' ∉ d := by
    have := i.names_open
    rwa [hd, List.mem_append, not_or] at this
  have hopen : '}' ∉ kept ++ listed names ++ d :=
    List.not_mem_append (List.not_mem_append hkept.1 (brace_not_mem_listed h)) hkept.2
  refine ⟨d ++ (i.middle ++ (i.path ++ i.quote :: i.back)), { i with names := _, names_open := hopen }, ?_, ?_, rfl, rfl,
    ?_⟩
  · rw [text, hd]
    simp
  · simp [text]
  · rw [namesOf_append_closing hclosing, namesOf_listed h, hd, namesOf_append_closing hclosing]

end ImportPiece

end Shape

namespace Migration

open Shape Pattern

/-- The edits that add names to imports. -/
def importEdits (policy : Policy) (t : Text) : List Edit :=
  (((requiredImports policy).map (ImportNeed.of t)).filterMap ImportNeed.extension?).map (·.1)

/-- The lines that import modules that are not found. -/
def importLines (policy : Policy) (t : Text) : List String :=
  ((requiredImports policy).map (ImportNeed.of t)).filterMap ImportNeed.line?

variable {policy : Policy} {t u : Text}

theorem importLines_eq_nil_iff :
    importLines policy t = [] ↔ ∀ r ∈ requiredImports policy, moduleImport? t r.1.toList ≠ none := by
  simp only [importLines, List.filterMap_eq_nil_iff, List.forall_mem_map, line?_eq_none_iff]

theorem isListed_of_required {r : String × List String} (hr : r ∈ requiredImports policy) :
    ∀ name ∈ r.2, isListed name.toList = true := by
  have hall : (requiredImports policy).all (fun r => r.2.all fun name => isListed name.toList) = true := by
    cases policy <;> decide
  intro name hname
  exact List.all_eq_true.1 (List.all_eq_true.1 hall r hr) name hname

theorem isListed_of_lacking {r : String × List String} (hr : r ∈ requiredImports policy) {i : NamedImport} :
    ∀ name ∈ lacking t i r.2, isListed name.toList = true :=
  fun name hname => isListed_of_required hr name (List.mem_of_mem_filter hname)

theorem eq_of_isOf {r r' : String × List String} (hr : r ∈ requiredImports policy) (hr' : r' ∈ requiredImports policy)
    {i : NamedImport} (h : i.isOf r.1.toList = true) (h' : i.isOf r'.1.toList = true) : r = r' := by
  have hsuffix : ∀ {m : Text}, i.isOf m = true → m <:+ i.path := by
    intro m hm
    rcases Bool.or_eq_true_iff.1 hm with hm | hm
    · rw [beq_iff_eq.1 hm]
    · exact (List.suffix_cons '/' m).trans (List.isSuffixOf_iff_suffix.1 hm)
  have hapart : (requiredImports policy).Pairwise fun r r' =>
      ¬ r.1.toList <:+ r'.1.toList ∧ ¬ r'.1.toList <:+ r.1.toList := by
    cases policy <;> decide
  have : Std.Symm fun r r' : String × List String => ¬ r.1.toList <:+ r'.1.toList ∧ ¬ r'.1.toList <:+ r.1.toList :=
    ⟨fun _ _ => And.symm⟩
  by_contra hne
  obtain ⟨hnot, hnot'⟩ := hapart.forall hr hr' hne
  rcases List.suffix_or_suffix_of_suffix (hsuffix h) (hsuffix h') with hs | hs
  · exact hnot hs
  · exact hnot' hs

/-- The edit that adds the names of one module. -/
def importEdit? (t : Text) (r : String × List String) : Option Edit :=
  (moduleImport? t r.1.toList).bind fun i =>
    if lacking t i r.2 = [] then none else some (.insert (i.appendOffset t) (listed (lacking t i r.2)))

theorem importEdits_eq (policy : Policy) (t : Text) :
    importEdits policy t = (requiredImports policy).filterMap (importEdit? t) := by
  rw [importEdits, List.filterMap_map, List.map_filterMap]
  refine List.filterMap_congr ?_
  intro r _
  rw [Function.comp_apply, ImportNeed.of, importEdit?]
  cases moduleImport? t r.1.toList with
  | none => rfl
  | some i =>
    show Option.map _ (ImportNeed.extension? (if (lacking t i r.2).isEmpty = true then _ else _)) =
      if lacking t i r.2 = [] then none else _
    by_cases hnone : lacking t i r.2 = []
    · rw [if_pos (List.isEmpty_iff.2 hnone), if_pos hnone]
      rfl
    · rw [if_neg (mt List.isEmpty_iff.1 hnone), if_neg hnone, ← toList_listed hnone]
      rfl

theorem importEdit?_eq_some {r : String × List String} {e : Edit} (h : importEdit? t r = some e) :
    ∃ i, moduleImport? t r.1.toList = some i ∧ lacking t i r.2 ≠ [] ∧
      e = .insert (i.appendOffset t) (listed (lacking t i r.2)) := by
  obtain ⟨i, hi, h⟩ := Option.bind_eq_some_iff.1 h
  split_ifs at h with hnone
  exact ⟨i, hi, hnone, (Option.some.inj h).symm⟩

/-! ### Where the names go -/

theorem appendOffset_inside {m : Match} {a b : Text} {piece : ImportPiece}
    (h : namedImportPattern.Sits t m a piece.text b) :
    m.span.start < (piece.behind a).appendOffset t ∧ (piece.behind a).appendOffset t ≤ m.span.stop := by
  have hfront : piece.front ≠ [] := by
    obtain ⟨s, hs, -⟩ := piece.front_admits.exists_cons (c := 'i') (by decide)
    rw [hs]
    exact List.cons_ne_nil _ _
  have hpos := size_pos hfront
  have hnone : ∀ name ∈ ([] : List String), isListed name.toList = true := by simp
  obtain ⟨rest, -, htext, -⟩ := piece.exists_extended hnone
  rw [h.span_eq, h.text_eq, piece.appendOffset_behind, htext]
  simp only [size_append]
  omega

theorem isOf_of_module {module : Text} {i : NamedImport} (h : moduleImport? t module = some i) : i.isOf module = true :=
  List.find?_some (p := fun i : NamedImport => i.isOf module) h

theorem exists_sits_of_module {module : Text} {i : NamedImport} (h : moduleImport? t module = some i) :
    ∃ m ∈ namedImportPattern.findAll t, ∃ a b, ∃ piece : ImportPiece, namedImportPattern.Sits t m a piece.text b ∧
      namedImport? t m = some i ∧ i = piece.behind a ∧ i.isOf module = true := by
  obtain ⟨m, hm, a, b, piece, hsits, hi⟩ := exists_piece_of_mem (List.mem_of_find?_eq_some h)
  obtain ⟨piece', hpiece, hbehind, -⟩ := exists_piece_of_sits hsits
  obtain rfl := ImportPiece.text_injective hpiece
  exact ⟨m, hm, a, b, piece, hsits, by rw [hbehind, hi], hi, isOf_of_module h⟩

theorem pairwise_importEdits (policy : Policy) (t : Text) :
    (importEdits policy t).Pairwise fun e e' => e.start ≠ e'.start := by
  rw [importEdits_eq]
  have hdistinct : (requiredImports policy).Pairwise (· ≠ ·) := by cases policy <;> decide
  refine List.pairwise_filterMap.2 (hdistinct.imp_of_mem ?_)
  intro r r' hr hr' hne e he e' he' hstart
  obtain ⟨i, hi, -, rfl⟩ := importEdit?_eq_some he
  obtain ⟨i', hi', -, rfl⟩ := importEdit?_eq_some he'
  obtain ⟨m, hm, a, b, piece, hsits, himport, rfl, hof⟩ := exists_sits_of_module hi
  obtain ⟨m', hm', a', b', piece', hsits', himport', rfl, hof'⟩ := exists_sits_of_module hi'
  have hstart : (piece.behind a).appendOffset t = (piece'.behind a').appendOffset t := hstart
  obtain rfl := absorbs_namedImport.eq_of_mem hm hm' (appendOffset_inside hsits) (hstart ▸ appendOffset_inside hsits')
  have hsame := Option.some.inj (himport.symm.trans himport')
  exact hne (eq_of_isOf hr hr' hof (hsame ▸ hof'))

theorem fits_importEdits {e : Edit} (he : e ∈ importEdits policy t) : e.Fits t := by
  rw [importEdits_eq] at he
  obtain ⟨r, hr, he⟩ := List.mem_filterMap.1 he
  obtain ⟨i, hi, -, rfl⟩ := importEdit?_eq_some he
  obtain ⟨m, -, a, b, piece, hsits, -, rfl, -⟩ := exists_sits_of_module hi
  obtain ⟨rest, -, htext, -⟩ := piece.exists_extended (isListed_of_lacking (t := t) (i := piece.behind a) hr)
  have ht : t = a ++ (piece.front ++ piece.names.dropEndWhile isClosing) ++ (rest ++ b) := by
    rw [hsits.text_eq, htext]
    simp
  have hoffset : (piece.behind a).appendOffset t = size (a ++ (piece.front ++ piece.names.dropEndWhile isClosing)) := by
    rw [hsits.text_eq, piece.appendOffset_behind]
  rw [hoffset]
  conv_lhs => rw [ht]
  exact Edit.fits_insert _ _ _

/-! ### Imports side by side -/

/-- An import keeps its path and its names and gets, if it is the first one of a module, the names that it lacks. -/
structure Extends (policy : Policy) (t u : Text) (i i' : NamedImport) : Prop where
  path_eq : i'.path = i.path
  first : ∀ r ∈ requiredImports policy, moduleImport? t r.1.toList = some i →
    i'.imported u = i.imported t ++ (lacking t i r.2).map String.toList
  other : (∀ r ∈ requiredImports policy, moduleImport? t r.1.toList ≠ some i) → i'.imported u = i.imported t

/-- `Extends` for the pieces of two texts. -/
def ExtendsPiece (policy : Policy) (t pre w new tail : Text) : Prop :=
  tail = [] ∧ ∃ i j : ImportPiece, w = i.text ∧ new = j.text ∧ j.path = i.path ∧
    (∀ r ∈ requiredImports policy, moduleImport? t r.1.toList = some (i.behind pre) →
      namesOf j.names = namesOf i.names ++ (lacking t (i.behind pre) r.2).map String.toList) ∧
    ((∀ r ∈ requiredImports policy, moduleImport? t r.1.toList ≠ some (i.behind pre)) →
      namesOf j.names = namesOf i.names)

theorem exists_placed_import {m : Match} {pre post placed : Text} {i : ImportPiece}
    (hm : m ∈ namedImportPattern.findAll t) (hsits : namedImportPattern.Sits t m pre i.text post)
    (hplaced : Edit.Places (importEdits policy t) pre i.text placed) :
    ∃ j : ImportPiece, placed = j.text ∧ j.back = i.back ∧ ExtendsPiece policy t pre i.text placed [] := by
  cases hplaced with
  | keep hnone =>
    refine ⟨i, rfl, rfl, rfl, i, i, rfl, rfl, rfl, ?_, fun _ => rfl⟩
    intro r hr hfirst
    -- an edit for this import would be inside it
    have hlacking : lacking t (i.behind pre) r.2 = [] := by
      by_contra hne
      have hmem : Edit.insert ((i.behind pre).appendOffset t) (listed (lacking t (i.behind pre) r.2)) ∈
          importEdits policy t := by
        rw [importEdits_eq]
        refine List.mem_filterMap.2 ⟨r, hr, ?_⟩
        rw [importEdit?, hfirst, Option.bind_some, if_neg hne]
      have hinside := appendOffset_inside hsits
      rw [hsits.span_eq] at hinside
      rcases hnone _ hmem with hle | hlt
      · exact absurd hinside.1 (Nat.not_lt.2 hle)
      · exact absurd hinside.2 (Nat.not_le.2 hlt)
    rw [hlacking, List.map_nil, List.append_nil]
  | insert e he front back hw hfront hstart =>
    rw [importEdits_eq] at he
    obtain ⟨r, hr, he⟩ := List.mem_filterMap.1 he
    obtain ⟨i', hi', -, rfl⟩ := importEdit?_eq_some he
    obtain ⟨m', hm', a', b', i'', hsits', -, rfl, hof⟩ := exists_sits_of_module hi'
    have hstart : (i''.behind a').appendOffset t = size (pre ++ front) := hstart
    -- the edit is inside this import, so it is the edit for it
    obtain rfl : m = m' := by
      refine absorbs_namedImport.eq_of_mem hm hm' ?_ (appendOffset_inside hsits')
      have hpos := size_pos hfront
      rw [hstart, hsits.span_eq, hw]
      simp only [size_append]
      omega
    obtain ⟨rfl, htext, rfl⟩ := hsits.unique hsits'
    obtain rfl := ImportPiece.text_injective htext
    obtain ⟨rest, j, hi, hj, hpath, hback, hnames⟩ :=
      i.exists_extended (isListed_of_lacking (t := t) (i := i.behind pre) hr)
    obtain ⟨rfl, rfl⟩ : front = i.front ++ i.names.dropEndWhile isClosing ∧ back = rest := by
      refine append_inj_of_size (hw.symm.trans hi) ?_
      rw [hsits.text_eq, i.appendOffset_behind, size_append, size_append pre] at hstart
      omega
    refine ⟨j, hj.symm, hback, rfl, i, j, rfl, hj.symm, hpath, ?_, ?_⟩
    · intro r' hr' hfirst
      obtain rfl := eq_of_isOf hr hr' hof (isOf_of_module hfirst)
      exact hnames
    · intro hother
      exact absurd hi' (hother r hr)

theorem aligned_extensions (hu : Edit.applyAll t (importEdits policy t) = .ok u) :
    Aligned namedImportPattern 'i' t.length u.length (ExtendsPiece policy t) [] t (namedImportPattern.findAll t) [] u
      (namedImportPattern.findAll u) := by
  refine aligned_findAll absorbs_namedImport (fun m => ((namedImport? t m).map (·.appendOffset t)).getD 0) ?_ hu
    (pairwise_importEdits policy t) ?_
  · intro m hm pre w post placed hsits hplaced
    obtain ⟨i, rfl, -, hclose⟩ := exists_piece_of_sits hsits
    obtain ⟨j, rfl, hback, hextends⟩ := exists_placed_import hm hsits hplaced
    refine ⟨j.text, [], by simp, by simp, hextends, ?_⟩
    intro pre' after hafter hlen
    exact j.takes (afterClosing_congr j.back_admits (hback ▸ hclose) hafter) hlen
  · intro e he
    rw [importEdits_eq] at he
    obtain ⟨r, hr, he⟩ := List.mem_filterMap.1 he
    obtain ⟨i, hi, -, rfl⟩ := importEdit?_eq_some he
    obtain ⟨m, hm, a, b, piece, hsits, himport, rfl, -⟩ := exists_sits_of_module hi
    refine ⟨rfl, m, hm, ?_⟩
    rw [himport, Option.map_some, Option.getD_some]
    exact ⟨rfl, appendOffset_inside hsits⟩

theorem forall₂_namedImports (hu : Edit.applyAll t (importEdits policy t) = .ok u) :
    List.Forall₂ (Extends policy t u) (namedImports t) (namedImports u) := by
  have hmatches := (aligned_extensions hu).forall₂
  rw [List.nil_append, List.nil_append] at hmatches
  rw [namedImports_eq, namedImports_eq]
  refine List.rel_filterMap ?_ hmatches
  rintro m m' ⟨a, w, b, a', new, _, b', hsits, hsits', rfl, i, j, rfl, rfl, hpath, hfirst, hother⟩
  obtain ⟨i', hi', himport, -⟩ := exists_piece_of_sits hsits
  obtain ⟨j', hj', himport', -⟩ := exists_piece_of_sits hsits'
  obtain rfl := ImportPiece.text_injective hi'
  obtain rfl := ImportPiece.text_injective hj'
  have himported : (i.behind a).imported t = namesOf i.names := by rw [hsits.text_eq, i.imported_behind]
  have himported' : (j.behind a').imported u = namesOf j.names := by rw [hsits'.text_eq, j.imported_behind]
  rw [himport, himport']
  refine .some ⟨hpath, ?_, ?_⟩
  · intro r hr hmodule
    rw [himported, himported', hfirst r hr hmodule]
  · intro hnone
    rw [himported, himported', hother hnone]

/-! ### The step -/

/-- The first import of a module is at the same place in both lists. -/
theorem exists_module_of_extends (h : List.Forall₂ (Extends policy t u) (namedImports t) (namedImports u))
    {module : Text} {i : NamedImport} (hi : moduleImport? t module = some i) :
    ∃ i', moduleImport? u module = some i' ∧ Extends policy t u i i' := by
  rw [moduleImport?] at hi ⊢
  generalize namedImports t = is, namedImports u = is' at h hi ⊢
  induction h with
  | nil => cases hi
  | @cons j j' js js' hj _ ih =>
    have hof : j'.isOf module = j.isOf module := by rw [NamedImport.isOf, NamedImport.isOf, hj.path_eq]
    rw [List.find?_cons] at hi ⊢
    rw [hof]
    cases hmodule : j.isOf module with
    | true =>
      rw [hmodule] at hi
      cases hi
      exact ⟨j', rfl, hj⟩
    | false =>
      rw [hmodule] at hi
      exact ih hi

theorem settled_of_extends {ctx : Context}
    (hfound : ∀ r ∈ requiredImports ctx.policy, moduleImport? t r.1.toList ≠ none)
    (h : List.Forall₂ (Extends ctx.policy t u) (namedImports t) (namedImports u)) : Step.imports.Settled ctx u := by
  intro r hr
  obtain ⟨i, hi⟩ := Option.ne_none_iff_exists'.1 (hfound r hr)
  obtain ⟨i', hi', hextends⟩ := exists_module_of_extends h hi
  refine .inl ⟨i', hi', ?_⟩
  intro name hname
  rw [NamedImport.imports, List.contains_iff_mem, hextends.first r hr hi, List.mem_append]
  by_cases hold : i.imports t name.toList = true
  · exact .inl (List.contains_iff_mem.1 hold)
  · refine .inr (List.mem_map_of_mem (List.mem_filter.2 ⟨hname, ?_⟩))
    simpa using hold

theorem importEdits_eq_nil_iff : importEdits policy t = [] ↔ ∀ r ∈ requiredImports policy, ∀ i,
    moduleImport? t r.1.toList = some i → lacking t i r.2 = [] := by
  rw [importEdits_eq, List.filterMap_eq_nil_iff]
  refine forall₂_congr fun r _ => ?_
  rw [importEdit?, Option.bind_eq_none_iff]
  refine forall₂_congr fun i _ => ?_
  simp

theorem stop_of_mem_importEdits {e : Edit} (he : e ∈ importEdits policy t) : e.stop = e.start := by
  rw [importEdits_eq] at he
  obtain ⟨r, -, he⟩ := List.mem_filterMap.1 he
  obtain ⟨i, -, -, rfl⟩ := importEdit?_eq_some he
  rfl

theorem exists_importEdits (policy : Policy) (t : Text) : ∃ u, Edit.applyAll t (importEdits policy t) = .ok u := by
  refine Edit.exists_applyAll_iff.2 ⟨fun e he => fits_importEdits he, Edit.pairwise_clear fun e he => ?_⟩
  exact stop_of_mem_importEdits he

theorem normalizeImports_of_found {ctx : Context} (hlines : importLines ctx.policy t = [])
    (hu : Edit.applyAll t (importEdits ctx.policy t) = .ok u) :
    ∃ o, normalizeImports ctx t = .ok o ∧ (∀ note ∈ o.notes, note.1 ≠ .warning) ∧
      o.text? = if importEdits ctx.policy t = [] then none else some u := by
  unfold importEdits at hu ⊢
  unfold importLines at hlines
  unfold normalizeImports
  simp only [hlines, List.isEmpty_nil, ↓reduceIte, List.isEmpty_iff]
  split_ifs
  · exact ⟨_, rfl, by simp [Output.skip], rfl⟩
  · rw [hu]
    refine ⟨_, rfl, ?_, rfl⟩
    intro note hnote
    obtain ⟨message, -, rfl⟩ := List.mem_map.1 hnote
    intro hwarning
    cases hwarning

/-- Where every module is found, the step adds the names that are missing to the first import of each and changes no
other name and no path. It warns about nothing, and there is nothing more to be done. -/
theorem normalizeImports_extends (ctx : Context) (t : Text)
    (hfound : ∀ r ∈ requiredImports ctx.policy, moduleImport? t r.1.toList ≠ none) :
    ∃ o, normalizeImports ctx t = .ok o ∧ (∀ note ∈ o.notes, note.1 ≠ .warning) ∧
      (o.text? = none ↔ ∀ r ∈ requiredImports ctx.policy, ∀ i, moduleImport? t r.1.toList = some i →
        lacking t i r.2 = []) ∧
      ∀ u, o.text? = some u → List.Forall₂ (Extends ctx.policy t u) (namedImports t) (namedImports u) ∧
        ∃ o', normalizeImports ctx u = .ok o' ∧ o'.text? = none := by
  obtain ⟨u, hu⟩ := exists_importEdits ctx.policy t
  obtain ⟨o, ho, hnotes, htext⟩ := normalizeImports_of_found (importLines_eq_nil_iff.2 hfound) hu
  refine ⟨o, ho, hnotes, ?_, ?_⟩
  · rw [← importEdits_eq_nil_iff, htext]
    by_cases hnone : importEdits ctx.policy t = []
    · rw [if_pos hnone]
      exact ⟨fun _ => hnone, fun _ => rfl⟩
    · rw [if_neg hnone]
      exact ⟨fun h => absurd h (Option.some_ne_none u), fun h => absurd h hnone⟩
  · intro u' hu'
    rw [htext] at hu'
    split_ifs at hu'
    cases hu'
    have hextends := forall₂_namedImports hu
    obtain ⟨o', ho', hidle⟩ := (answers_normalizeImports ctx u).idle (settled_of_extends hfound hextends)
    exact ⟨hextends, o', ho', hidle.1⟩

/-- Imports of both modules. The first has an alias, a trailing comma and a line break in its list, the second has an
empty one, and a third one is of the first module again. -/
def partialImports : Text :=
  ("import\x7ba as b,\n\x7dfrom'./cors-config.ts';import\x7b\x7d from \"../auth.ts\"\n" ++
    "import \x7b x \x7d from 'y/cors-config.ts'").toList

set_option maxRecDepth 20000 in
theorem normalizeImports_extends_partialImports :
    (∀ r ∈ requiredImports .plainAuth, moduleImport? partialImports r.1.toList ≠ none) ∧
      ∃ o u, normalizeImports ⟨"f", .plainAuth, ⟨.empty, .empty⟩⟩ partialImports = .ok o ∧ o.text? = some u ∧
        List.Forall₂ (Extends .plainAuth partialImports u) (namedImports partialImports) (namedImports u) ∧
        (namedImports u).length = 3 ∧
        ∃ o', normalizeImports ⟨"f", .plainAuth, ⟨.empty, .empty⟩⟩ u = .ok o' ∧ o'.text? = none := by
  obtain ⟨hmodules, hedits, hcount⟩ :
      ((requiredImports .plainAuth).all fun r => (moduleImport? partialImports r.1.toList).isSome) = true ∧
      (importEdits .plainAuth partialImports).length = 2 ∧ (namedImports partialImports).length = 3 := by
    decide +kernel
  have hfound : ∀ r ∈ requiredImports .plainAuth, moduleImport? partialImports r.1.toList ≠ none := fun r hr =>
    Option.isSome_iff_ne_none.1 (List.all_eq_true.1 hmodules r hr)
  obtain ⟨o, ho, -, hnone, hnew⟩ :=
    normalizeImports_extends ⟨"f", .plainAuth, ⟨.empty, .empty⟩⟩ partialImports hfound
  obtain ⟨u, hu⟩ : ∃ u, o.text? = some u := by
    refine Option.ne_none_iff_exists'.1 fun htext => ?_
    rw [importEdits_eq_nil_iff.2 (hnone.1 htext)] at hedits
    cases hedits
  obtain ⟨hextends, hsettled⟩ := hnew u hu
  exact ⟨hfound, o, u, ho, hu, hextends, hextends.length_eq.symm.trans hcount, hsettled⟩

end Migration

end HandlerMigration
