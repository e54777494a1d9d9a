import HandlerMigration.Proofs.Alignment
import HandlerMigration.Proofs.PatternLineEndings
import HandlerMigration.Shape.Declaration

/-!
# Import lines and line ends

An import line ends in front of a newline or at the end of the text. In `crlf t` a carriage return stands in front
of every newline, so only an import at the end of the text is found there, and no import that breaks behind its
keyword. `closingImportPattern` describes these: it finds in `t` what `importLinePattern` finds in `crlf t`. Main
statement: when the last import line is the same in both texts (`lastImportLine_crlf_iff`).
-/

namespace HandlerMigration

open Text

/-- The character behind an offset. -/
def Text.charAt? (t : Text) (n : Nat) : Option Char := (t.cut n).bind fun parts => parts.2.head?

namespace Shape

open Pattern Piece

variable {t a a' w w' b x y : Text} {last next : Option Char}

/-! ### Imports at the end of the text -/

/-- An import line up to the end of its keyword. -/
def importHead : Pattern := look .lineStart ++ text "import"

/-- An import line from behind the blank that follows its keyword. -/
def importBody : Pattern :=
  manyOf (.except ['\n']) ++ text "from" ++ blanks ++ quote ++ someOf (.except ['\'', '"', '\n']) ++ quote ++
  Piece.margin ++ semicolon ++ Piece.margin

/-- An import line at the end of the text that does not break behind its keyword. -/
def closingImportPattern : Pattern :=
  importHead ++ (one (.inter .blank (.except ['\n'])) ++ (importBody ++ look .textEnd))

theorem ends_importLinePattern (bound : Nat) (cur : Cursor) : importLinePattern.ends bound cur =
    (importHead ++ (one .blank ++ (importBody ++ look .lineEnd))).ends bound cur := by
  simp only [importLinePattern, importHead, importBody, ends_append, List.flatMap_assoc]

theorem agrees_look_lineEnd : Agrees t (look .lineEnd) (look .textEnd) := by
  intro bound bound' cur _
  have hsame : Boundary.holds .lineEnd (cur.crlf t).last (cur.crlf t).rest.head? =
      Boundary.holds .textEnd cur.last cur.rest.head? := by
    simp only [Cursor.crlf, head?_crlf, Boundary.holds]
    cases cur.rest with
    | nil => rfl
    | cons c r =>
      by_cases hc : c = '\n'
      · simp [hc]
      · simp [hc]
  rw [ends_look_crlf hsame bound bound', List.head?_map]

/-- A blank that is the first character of a line end leads to where nothing can follow. -/
theorem agrees_blank {q q' : Pattern} (hq : Agrees t q q') (hnewline : q.Refuses) :
    Agrees t (one .blank ++ q) (one (.inter .blank (.except ['\n'])) ++ q') := by
  intro bound bound' cur hcur
  simp only [ends_append]
  cases hrest : cur.rest with
  | nil => simp only [ends, Cursor.crlf, hrest, crlf_nil, List.flatMap_nil, List.head?_nil, Option.map_none]
  | cons c r =>
    by_cases hc : c = '\n'
    · subst hc
      have hinside : q.ends bound' ((cur.crlf t).advance '\r' ('\n' :: crlf r)) = [] := hnewline _ _ rfl
      have hcrlf : (cur.crlf t).rest = '\r' :: '\n' :: crlf r := by rw [Cursor.crlf, hrest, crlf_newline]
      simp only [ends, hrest, hcrlf]
      rw [if_pos (by decide), if_neg (by decide), List.flatMap_singleton, hinside]
      rfl
    · have hcrlf : (cur.crlf t).rest = c :: crlf r := by rw [Cursor.crlf, hrest, crlf_cons hc]
      have hset : (CharSet.inter .blank (.except ['\n'])).has c = CharSet.blank.has c := by
        have hother : (CharSet.except ['\n']).has c = true := CharSet.has_except.2 (by simpa using hc)
        show (CharSet.blank.has c && (CharSet.except ['\n']).has c) = _
        rw [hother, Bool.and_true]
      simp only [ends, hrest, hcrlf, hset]
      split_ifs
      · rw [List.flatMap_singleton, List.flatMap_singleton, ← hcur.crlf_advance hrest hc]
        exact hq bound bound' _ (hcur.reaches (.advance hrest))
      · rfl

theorem agrees_importLinePattern : Agrees t importLinePattern closingImportPattern := by
  intro bound bound' cur hcur
  have hbody : Agrees t (importBody ++ look .lineEnd) (importBody ++ look .textEnd) :=
    .append (by decide) agrees_look_lineEnd
  rw [ends_importLinePattern]
  exact Agrees.append (by decide) (agrees_blank hbody (refuses_of_atNewline (by decide))) bound bound' cur hcur

theorem lastImportLine?_crlf_eq (t : Text) : lastImportLine? (crlf t) =
    ((closingImportPattern.findAll t).getLast?.map (·.span)).map (Span.map t.crlfOffset) := by
  rw [lastImportLine?, findAll_crlf (solid_of_isSolid (by decide)) (solid_of_isSolid (by decide))
    agrees_importLinePattern (refuses_of_atNewline (by decide)), List.getLast?_map, Option.map_map, Option.map_map]
  rfl

theorem importShape_spells_iff {set : CharSet} {e : Boundary} :
    (importHead ++ (one set ++ (importBody ++ look e))).Spells last w next ↔
      ∃ c z, w = 'i' :: 'm' :: 'p' :: 'o' :: 'r' :: 't' :: c :: z ∧ Boundary.holds .lineStart last (some 'i') = true ∧
        set.has c = true ∧ importBody.Admits z ∧ e.holds (z.getLast?.or (some c)) next = true := by
  constructor
  · rintro ⟨_, _, rfl, ⟨_, k, rfl, ⟨rfl, hstart⟩, hk⟩, _, _, rfl, ⟨c, rfl, hc⟩, z, _, rfl, hz, rfl, hend⟩
    obtain rfl : k = ['i', 'm', 'p', 'o', 'r', 't'] := hk
    exact ⟨c, z, by simp, hstart, hc, hz.move (by decide) _ _, hend⟩
  · rintro ⟨c, z, rfl, hstart, hc, hz, hend⟩
    exact ⟨['i', 'm', 'p', 'o', 'r', 't'], c :: z, rfl, ⟨[], _, rfl, ⟨rfl, hstart⟩, rfl⟩, [c], z, rfl, ⟨c, rfl, hc⟩, z,
      [], (List.append_nil z).symm, hz.move (by decide) _ _, rfl, hend⟩

theorem importLine_spells_iff : importLinePattern.Spells last w next ↔
    ∃ c z, w = 'i' :: 'm' :: 'p' :: 'o' :: 'r' :: 't' :: c :: z ∧ Boundary.holds .lineStart last (some 'i') = true ∧
      CharSet.blank.has c = true ∧ importBody.Admits z ∧
        Boundary.holds .lineEnd (z.getLast?.or (some c)) next = true := by
  rw [← importShape_spells_iff]
  exact ⟨.congr ends_importLinePattern, .congr fun bound cur => (ends_importLinePattern bound cur).symm⟩

theorem closingImport_spells_iff : closingImportPattern.Spells last w next ↔
    importLinePattern.Spells last w next ∧ next = none ∧ w[6]? ≠ some '\n' := by
  rw [importLine_spells_iff, closingImportPattern, importShape_spells_iff]
  constructor
  · rintro ⟨c, z, rfl, hstart, hc, hz, hend⟩
    obtain ⟨hblank, hother⟩ := Bool.and_eq_true_iff.1 hc
    obtain rfl : next = none := Option.isNone_iff_eq_none.1 hend
    refine ⟨⟨c, z, rfl, hstart, hblank, hz, rfl⟩, rfl, ?_⟩
    rintro hnewline
    exact CharSet.has_except.1 hother (List.mem_singleton.2 (Option.some.inj hnewline))
  · rintro ⟨⟨c, z, rfl, hstart, hblank, hz, -⟩, rfl, hnewline⟩
    have hc : c ≠ '\n' := fun h => hnewline (congrArg some h)
    have hother : (CharSet.except ['\n']).has c = true := CharSet.has_except.2 (by simpa using hc)
    exact ⟨c, z, rfl, hstart, Bool.and_eq_true_iff.2 ⟨hblank, hother⟩, hz, rfl⟩

/-- Behind its keyword, an import can break only in front of its path. -/
theorem importBody_parts (h : importBody.Admits w) : ∃ u gap q v, w = u ++ (gap ++ q :: v) ∧ '\n' ∉ u ∧
    (∀ c ∈ gap, isBlank c = true) ∧ (q = '\'' ∨ q = '"') ∧ '\n' ∉ v := by
  obtain ⟨_, m₂, rfl, ⟨_, e, rfl, ⟨_, m₁, rfl, ⟨_, q₂, rfl, ⟨_, path, rfl, ⟨_, _, rfl, ⟨u, gap, rfl, hu, hgap⟩,
    ⟨q, rfl, hq⟩⟩, hpath⟩, hq₂⟩, hm₁⟩, he⟩, hm₂⟩ := h
  refine ⟨u, gap, q, path ++ q₂ ++ m₁ ++ e ++ m₂, by simp, hu.not_mem_of_avoids (by decide), hgap.1, ?_, ?_⟩
  · simpa [CharSet.has] using hq
  · simp only [List.mem_append, not_or]
    exact ⟨⟨⟨⟨hpath.not_mem_of_avoids (by decide), hq₂.not_mem_of_avoids (by decide)⟩,
      hm₁.not_mem_of_avoids (by decide)⟩, he.not_mem_of_avoids (by decide)⟩, hm₂.not_mem_of_avoids (by decide)⟩

theorem head?_of_inner_line (h : closingImportPattern.Spells last (x ++ '\n' :: y) next) : y.head? ≠ some 'i' := by
  obtain ⟨c, z, hw, -, hc, hz, -⟩ := importShape_spells_iff.1 h
  obtain ⟨u, gap, q, v, rfl, hu, hgap, hq, hv⟩ := importBody_parts hz
  have hfront : '\n' ∉ 'i' :: 'm' :: 'p' :: 'o' :: 'r' :: 't' :: c :: u := by
    have hother := CharSet.has_except.1 (Bool.and_eq_true_iff.1 hc).2
    simp only [List.mem_singleton] at hother
    simp [hu, Ne.symm hother]
  obtain ⟨x', -, hrest⟩ := exists_of_append_eq hfront hw.symm
  have hquote : q ≠ '\n' ∧ q ≠ 'i' := by rcases hq with rfl | rfl <;> decide
  have hback : '\n' ∉ q :: v := by simp [hv, Ne.symm hquote.1]
  -- the newline is one of the blanks in front of the path, so a blank or the quote of the path follows
  rcases front_or_behind hback (by rw [List.append_nil]; exact hrest.symm) with ⟨s, -, hs⟩ | ⟨s, rfl, rfl⟩
  · simp at hs
  · cases s with
    | nil => exact fun hi => hquote.2 (Option.some.inj hi)
    | cons d s =>
      intro hi
      obtain rfl : d = 'i' := Option.some.inj hi
      exact absurd (hgap 'i' (by simp)) (by decide)

theorem closingImport_length_le (hw : closingImportPattern.Occurs a w []) (hw' : closingImportPattern.Occurs a' w' [])
    (h : a ++ w = a' ++ w') : a'.length ≤ a.length := by
  by_contra hlt
  obtain ⟨x, rfl⟩ : a <+: a' := List.prefix_of_prefix_length_le ⟨w, h⟩ ⟨w', rfl⟩ (by omega)
  have hx : x ≠ [] := by
    rintro rfl
    simp at hlt
  obtain rfl : w = x ++ w' := by
    rw [List.append_assoc] at h
    exact List.append_cancel_left h
  obtain ⟨c, z, rfl, hstart, -⟩ := importShape_spells_iff.1 hw'
  -- the later import starts a line, and so behind a newline inside of the earlier one
  obtain ⟨x, d, rfl⟩ := (List.eq_nil_or_concat' x).resolve_left hx
  have hd : d = '\n' := by simpa [Boundary.holds, List.getLast?_append] using hstart
  subst hd
  have hinner : closingImportPattern.Occurs a (x ++ '\n' :: 'i' :: 'm' :: 'p' :: 'o' :: 'r' :: 't' :: c :: z) [] := by
    simpa using hw
  exact head?_of_inner_line hinner rfl

theorem closingImport_unique (hw : closingImportPattern.Occurs a w []) (hw' : closingImportPattern.Occurs a' w' [])
    (h : a ++ w = a' ++ w') : a = a' :=
  (List.append_inj h (Nat.le_antisymm (closingImport_length_le hw' hw h.symm) (closingImport_length_le hw hw' h))).1

theorem closingImport_getLast?_iff {span : Span} :
    (closingImportPattern.findAll t).getLast?.map (·.span) = some span ↔
      ∃ a w, t = a ++ w ∧ closingImportPattern.Occurs a w [] ∧ span = ⟨size a, size t⟩ := by
  have hlists := (solid_of_isSolid (by decide) : closingImportPattern.Solid).lists_findAll t
  have hfound : ∀ m ∈ closingImportPattern.findAll t,
      ∃ a w, t = a ++ w ∧ closingImportPattern.Occurs a w [] ∧ m.span = ⟨size a, size t⟩ := by
    intro m hm
    obtain ⟨a, w, b, -, ht, hspan, hw, -⟩ := hlists.occurs hm
    obtain rfl : b = [] := List.head?_eq_none_iff.1 (closingImport_spells_iff.1 hw).2.1
    rw [List.nil_append, List.append_nil] at ht
    exact ⟨a, w, ht, hw, by rw [hspan, ht]⟩
  constructor
  · intro h
    obtain ⟨m, hm, rfl⟩ := Option.map_eq_some_iff.1 h
    exact hfound m (List.mem_of_getLast? hm)
  · rintro ⟨a, w, ht, hw, rfl⟩
    obtain ⟨m, hm, -⟩ := hlists.exists_mem (by rw [List.nil_append, List.append_nil]; exact ht) (Nat.zero_le _) hw
    cases hlast : (closingImportPattern.findAll t).getLast? with
    | none => rw [List.getLast?_eq_none_iff.1 hlast] at hm; cases hm
    | some m' =>
      obtain ⟨a', w', ht', hw', hspan⟩ := hfound m' (List.mem_of_getLast? hlast)
      rw [Option.map_some, hspan, closingImport_unique hw hw' (ht.symm.trans ht')]

/-! ### The last import line -/

theorem charAt?_keyword (h : importLinePattern.Occurs a w b) : (a ++ (w ++ b)).charAt? (size a + 6) = w[6]? := by
  obtain ⟨c, z, rfl, -⟩ := importLine_spells_iff.1 h
  have hcut := cut_append (a ++ ['i', 'm', 'p', 'o', 'r', 't']) (c :: (z ++ b))
  rw [size_append, List.append_assoc] at hcut
  exact congrArg (Option.bind · fun parts => parts.2.head?) hcut

theorem exists_lastImportLine {span : Span} (h : lastImportLine? t = some span) :
    ∃ a w b, t = a ++ (w ++ b) ∧ importLinePattern.Occurs a w b ∧ span = ⟨size a, size (a ++ w)⟩ := by
  obtain ⟨m, hm, rfl⟩ := Option.map_eq_some_iff.1 h
  have hsolid : importLinePattern.Solid := solid_of_isSolid (by decide)
  obtain ⟨a, w, b, -, ht, hspan, hw, -⟩ := (hsolid.lists_findAll t).occurs (List.mem_of_getLast? hm)
  exact ⟨a, w, b, ht, hw, hspan⟩

theorem lastImportLine?_ne_none (ht : t = a ++ (w ++ b)) (h : importLinePattern.Occurs a w b) :
    lastImportLine? t ≠ none := by
  have hsolid : importLinePattern.Solid := solid_of_isSolid (by decide)
  obtain ⟨m, hm, -⟩ := (hsolid.lists_findAll t).exists_mem ht (Nat.zero_le _) h
  intro hnone
  rw [List.getLast?_eq_none_iff.1 (Option.map_eq_none_iff.1 hnone)] at hm
  cases hm

/-- With the wider line ends, an import is found if it ends the text and does not break behind its keyword. -/
theorem lastImportLine?_crlf_eq_some_iff {span : Span} : lastImportLine? (crlf t) = some span ↔
    ∃ a w, t = a ++ w ∧ importLinePattern.Occurs a w [] ∧ w[6]? ≠ some '\n' ∧
      span = ⟨size (crlf a), size (crlf t)⟩ := by
  have hmoved : ∀ {a w : Text}, t = a ++ w →
      Span.map t.crlfOffset ⟨size a, size t⟩ = ⟨size (crlf a), size (crlf t)⟩ := by
    rintro a w rfl
    rw [Span.map, crlfOffset_size_append, crlfOffset_size]
  rw [lastImportLine?_crlf_eq, Option.map_eq_some_iff]
  constructor
  · rintro ⟨span, h, rfl⟩
    obtain ⟨a, w, ht, hw, rfl⟩ := closingImport_getLast?_iff.1 h
    obtain ⟨himport, -, hbreak⟩ := closingImport_spells_iff.1 hw
    exact ⟨a, w, ht, himport, hbreak, hmoved ht⟩
  · rintro ⟨a, w, ht, himport, hbreak, rfl⟩
    have hw : closingImportPattern.Occurs a w [] := closingImport_spells_iff.2 ⟨himport, rfl, hbreak⟩
    exact ⟨_, closingImport_getLast?_iff.2 ⟨a, w, ht, hw, rfl⟩, hmoved ht⟩

theorem lastImportLine?_crlf_of_occurs (h : importLinePattern.Occurs a w b) :
    lastImportLine? (crlf (a ++ (w ++ b))) = some (Span.map (crlfOffset (a ++ (w ++ b))) ⟨size a, size (a ++ w)⟩) ↔
      size (a ++ w) = size (a ++ (w ++ b)) ∧ (a ++ (w ++ b)).charAt? (size a + 6) ≠ some '\n' := by
  have hend : size (a ++ w) = size (a ++ (w ++ b)) ↔ b = [] := by
    refine ⟨fun hsize => size_eq_zero.1 ?_, fun hb => by rw [hb, List.append_nil]⟩
    rw [← List.append_assoc, size_append _ b] at hsize
    omega
  rw [lastImportLine?_crlf_eq_some_iff, charAt?_keyword h, hend]
  constructor
  · rintro ⟨a', w', ht, -, hbreak, hspan⟩
    obtain ⟨hstart, hstop⟩ := (Span.mk.injEq ..).mp hspan
    have hinjective := (strictMono_crlfOffset (a ++ (w ++ b))).injective
    -- both imports start at the same place, so that they are the same piece
    rw [← crlfOffset_size_append a' w', ← ht] at hstart
    have hsize : size a = size a' := hinjective hstart
    have hcut := cut_append a (w ++ b)
    rw [hsize, ht, cut_append] at hcut
    obtain ⟨-, rfl⟩ := (Prod.mk.injEq ..).mp (Option.some.inj hcut)
    rw [← crlfOffset_size] at hstop
    obtain rfl := hend.1 (hinjective hstop)
    rw [List.append_nil] at hbreak
    exact ⟨rfl, hbreak⟩
  · rintro ⟨rfl, hbreak⟩
    refine ⟨a, w, by rw [List.append_nil], h, hbreak, ?_⟩
    rw [Span.map, crlfOffset_size_append, List.append_nil, crlfOffset_size]

/-- The last import line is the same with both line ends exactly if it ends the text, so that it has no line end,
and does not break behind its keyword. -/
theorem lastImportLine_crlf_iff (t : Text) :
    (lastImportLine? (crlf t) = (lastImportLine? t).map (Span.map t.crlfOffset) ↔
      ∀ span, lastImportLine? t = some span → span.stop = size t ∧ t.charAt? (span.start + 6) ≠ some '\n') ∧
    ∀ span, lastImportLine? (crlf t) = some span → span.stop = size (crlf t) := by
  refine ⟨?_, fun span h => ?_⟩
  · cases hspan : lastImportLine? t with
    | none =>
      refine ⟨fun _ span h => (by cases h), fun _ => Option.eq_none_iff_forall_ne_some.2 fun span h => ?_⟩
      obtain ⟨a, w, ht, himport, -⟩ := lastImportLine?_crlf_eq_some_iff.1 h
      exact lastImportLine?_ne_none (by rw [List.append_nil]; exact ht) himport hspan
    | some span =>
      obtain ⟨a, w, b, rfl, himport, rfl⟩ := exists_lastImportLine hspan
      refine (lastImportLine?_crlf_of_occurs himport).trans ⟨fun h span hsome => ?_, fun h => h _ rfl⟩
      cases hsome
      exact h
  · obtain ⟨_, _, -, -, -, rfl⟩ := lastImportLine?_crlf_eq_some_iff.1 h
    rfl

/-- An import that ends the text. -/
def closingImport : Text :=
  ['\n', 'i', 'm', 'p', 'o', 'r', 't', ' ', 'a', ' ', 'f', 'r', 'o', 'm', ' ', '\'', 'b', '\'']

/-- The same import with a semicolon, on a line that has a line end. -/
def endedImport : Text :=
  ['i', 'm', 'p', 'o', 'r', 't', ' ', 'a', ' ', 'f', 'r', 'o', 'm', ' ', '\'', 'b', '\'', ';', '\n']

theorem lastImportLine_crlf_closing :
    lastImportLine? closingImport = some ⟨1, 18⟩ ∧ lastImportLine? (crlf closingImport) = some ⟨2, 19⟩ ∧
      ∀ span, lastImportLine? (crlf endedImport) = some span → span.stop = size (crlf endedImport) := by
  have hfound : lastImportLine? closingImport = some ⟨1, 18⟩ := by decide
  refine ⟨hfound, ?_, (lastImportLine_crlf_iff endedImport).2⟩
  rw [(lastImportLine_crlf_iff closingImport).1.2 (by rw [hfound]; intro span h; cases h; decide), hfound]
  decide

/-- An import that ends the text and breaks behind its keyword. -/
def brokenImport : Text :=
  ['i', 'm', 'p', 'o', 'r', 't', '\n', 'a', ' ', 'f', 'r', 'o', 'm', ' ', '\'', 'b', '\'']

/-- With the wider line ends neither import is found. -/
theorem lastImportLine_crlf_ne :
    ('\r' ∉ endedImport ∧ (lastImportLine? endedImport).map (Span.map endedImport.crlfOffset) = some ⟨0, 18⟩ ∧
      lastImportLine? (crlf endedImport) = none) ∧
    '\r' ∉ brokenImport ∧ (lastImportLine? brokenImport).map (Span.map brokenImport.crlfOffset) = some ⟨0, 18⟩ ∧
      lastImportLine? (crlf brokenImport) = none := by
  decide

end Shape

end HandlerMigration
