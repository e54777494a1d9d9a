import HandlerMigration.Proofs.LineEndings
import HandlerMigration.Proofs.Outline
import HandlerMigration.Shape.Basic

/-!
# Patterns and line ends

A pattern that is tried in `crlf t` where it is tried in `t` ends at the same places, and perhaps also between
the two characters of a line end, where no place of `t` gets to. `lineFit` computes from a pattern whether that
is so, and whether it has ends of the second kind; what follows in the pattern can exclude them, if it has no
piece that starts with a newline (`atNewline`). Main statement: if the preferred pieces of two patterns agree, one
in `crlf t` and the other in `t`, then so do all their matches (`findAll_crlf`).
-/

namespace HandlerMigration

open Text

/-! ### Positions -/

/-- The groups with their spans moved. -/
def moveGroups (f : Nat → Nat) (groups : List (Nat × Span)) : List (Nat × Span) :=
  groups.map fun g => (g.1, g.2.map f)

namespace Cursor

variable {t w r : Text} {cur next : Cursor} {c : Char} {set : CharSet}

/-- The same position in `crlf t`. -/
def crlf (t : Text) (cur : Cursor) : Cursor :=
  ⟨t.crlfOffset cur.offset, cur.last, Text.crlf cur.rest, moveGroups t.crlfOffset cur.groups⟩

/-- A position of the text `t`. -/
def On (t : Text) (cur : Cursor) : Prop :=
  ∃ done, t = done ++ cur.rest ∧ cur.offset = size done ∧ cur.last = done.getLast?

/-- In `crlf t`, where every newline follows a carriage return: not inside of a line end. -/
def isWhole (cur : Cursor) : Bool := cur.rest.head? != some '\n'

theorem isWhole_crlf (t : Text) (cur : Cursor) : (cur.crlf t).isWhole = true := by
  simp only [isWhole, crlf, head?_crlf, bne_iff_ne, ne_eq]
  split_ifs with h
  · decide
  · exact h

namespace On

theorem start (t : Text) : On t (.start t) := ⟨[], rfl, rfl, rfl⟩

theorem reaches (h : cur.On t) (hw : cur.Reaches w next) : next.On t := by
  obtain ⟨done, ht, hoffset, hlast⟩ := h
  refine ⟨done ++ w, ?_, ?_, ?_⟩
  · rw [ht, hw.rest, List.append_assoc]
  · rw [hw.offset, hoffset, size_append]
  · rw [hw.last, hlast, List.getLast?_append]

theorem mem_ends {p : Pattern} {bound : Nat} (h : cur.On t) (hnext : next ∈ p.ends bound cur) : next.On t := by
  obtain ⟨w, hw, -⟩ := Pattern.mem_ends hnext
  exact h.reaches hw

theorem crlfOffset_add (h : cur.On t) (hrest : cur.rest = w ++ r) :
    t.crlfOffset (cur.offset + size w) = t.crlfOffset cur.offset + size (Text.crlf w) := by
  obtain ⟨done, rfl, hoffset, -⟩ := h
  have hw := crlfOffset_size_append (done ++ w) r
  rw [List.append_assoc, ← hrest, size_append, crlf_append, size_append, ← hoffset] at hw
  rw [hw, hoffset, crlfOffset_size_append]

theorem crlfOffset_advance (h : cur.On t) (hrest : cur.rest = c :: r) (hc : c ≠ '\n') :
    t.crlfOffset (cur.offset + c.utf8Size) = t.crlfOffset cur.offset + c.utf8Size := by
  have hoffset := @crlfOffset_add _ [c] r _ h hrest
  simpa only [crlf_cons hc, crlf_nil, size_cons, size_nil, Nat.add_zero] using hoffset

theorem crlfOffset_newline (h : cur.On t) (hrest : cur.rest = '\n' :: r) :
    t.crlfOffset (cur.offset + ('\n' : Char).utf8Size) =
      t.crlfOffset cur.offset + ('\r' : Char).utf8Size + ('\n' : Char).utf8Size :=
  @crlfOffset_add _ ['\n'] r _ h hrest

theorem crlf_advance (h : cur.On t) (hrest : cur.rest = c :: r) (hc : c ≠ '\n') :
    (cur.advance c r).crlf t = (cur.crlf t).advance c (Text.crlf r) := by
  simp only [crlf, advance, h.crlfOffset_advance hrest hc]

theorem not_mem (h : cur.On t) (hr : '\r' ∉ t) : '\r' ∉ cur.rest := by
  obtain ⟨done, rfl, -⟩ := h
  exact fun hmem => hr (List.mem_append_right _ hmem)

end On

theorem skip?_crlf {s : Text} (h : cur.On t) (hn : '\n' ∉ s) (hr : '\r' ∉ s) :
    (cur.crlf t).skip? s = (cur.skip? s).map (crlf t) := by
  induction s generalizing cur with
  | nil => rfl
  | cons c s ih =>
    simp only [List.mem_cons, not_or] at hn hr
    unfold skip?
    cases hrest : cur.rest with
    | nil => simp only [crlf, hrest, crlf_nil, Option.map_none]
    | cons d r =>
      by_cases hd : d = '\n'
      · subst hd
        simp only [crlf, hrest, crlf_newline, Ne.symm hn.1, Ne.symm hr.1, ↓reduceIte, Option.map_none]
      · have hreach : cur.Reaches [d] (cur.advance d r) := .advance hrest
        have hcrlf : (cur.crlf t).rest = d :: Text.crlf r := by rw [crlf, hrest, crlf_cons hd]
        simp only [hcrlf]
        split_ifs
        · rw [← h.crlf_advance hrest hd, ih (h.reaches hreach) hn.2 hr.2]
        · rfl

theorem reach_crlf (hn : set.has '\n' = false) (hr : set.has '\r' = false) (limit : Option Nat) (h : cur.On t) :
    reach set (t.crlfOffset cur.offset) cur.last (moveGroups t.crlfOffset cur.groups) limit (Text.crlf cur.rest) =
      (reach set cur.offset cur.last cur.groups limit cur.rest).map (crlf t) := by
  obtain ⟨offset, last, rest, groups⟩ := cur
  induction rest generalizing offset last limit with
  | nil => rfl
  | cons c r ih =>
    by_cases hc : c = '\n'
    · subst hc
      simp only [crlf_newline, reach, hn, hr, Bool.and_false, Bool.false_eq_true, ↓reduceIte]
      rfl
    · have hnext := ih (limit.map (· - 1)) _ _ (h.reaches (.advance rfl))
      rw [h.crlfOffset_advance rfl hc] at hnext
      simp only [crlf_cons hc, reach, List.map_cons]
      congr 1
      · simp only [crlf, crlf_cons hc]
      · split_ifs
        · exact hnext
        · rfl

theorem exists_reach_cons (set : CharSet) (offset : Nat) (last : Option Char) (groups : List (Nat × Span))
    (limit : Option Nat) (rest : Text) :
    ∃ later, reach set offset last groups limit rest = ⟨offset, last, rest, groups⟩ :: later := by
  cases rest with
  | nil => exact ⟨[], rfl⟩
  | cons c rest => exact ⟨_, rfl⟩

theorem reach_none_cons (set : CharSet) (offset : Nat) (last : Option Char) (groups : List (Nat × Span)) (c : Char)
    (rest : Text) : reach set offset last groups none (c :: rest) = ⟨offset, last, c :: rest, groups⟩ ::
      if set.has c then reach set (offset + c.utf8Size) (some c) groups none rest else [] := rfl

/-- A run that takes carriage returns can end inside of a line end, and else where the run in the old text can. -/
theorem filter_reach_crlf (hr : set.has '\r' = true) (h : cur.On t) :
    (reach set (t.crlfOffset cur.offset) cur.last (moveGroups t.crlfOffset cur.groups) none
      (Text.crlf cur.rest)).filter isWhole = (reach set cur.offset cur.last cur.groups none cur.rest).map (crlf t) := by
  obtain ⟨offset, last, rest, groups⟩ := cur
  induction rest generalizing offset last with
  | nil => rfl
  | cons c r ih =>
    have hnext := ih _ _ (h.reaches (.advance rfl))
    have hwhole := isWhole_crlf t ⟨offset, last, c :: r, groups⟩
    by_cases hc : c = '\n'
    · subst hc
      simp only [h.crlfOffset_newline rfl] at hnext
      simp only [crlf, crlf_newline] at hwhole
      have hinside : isWhole ⟨t.crlfOffset offset + ('\r' : Char).utf8Size, some '\r', '\n' :: Text.crlf r,
          moveGroups t.crlfOffset groups⟩ = false := rfl
      -- the position inside of the line end drops out, and the run goes on behind it if it takes newlines
      rw [crlf_newline, reach_none_cons, if_pos hr, reach_none_cons, reach_none_cons, List.filter_cons_of_pos hwhole,
        List.filter_cons_of_neg (by rw [hinside]; decide), List.map_cons]
      congr 1
      split_ifs
      · exact hnext
      · rfl
    · rw [h.crlfOffset_advance rfl hc] at hnext
      simp only [crlf, crlf_cons hc] at hwhole
      rw [crlf_cons hc, reach_none_cons, reach_none_cons, List.filter_cons_of_pos hwhole, List.map_cons]
      congr 1
      · simp only [crlf, crlf_cons hc]
      · split_ifs
        · exact hnext
        · rfl

end Cursor

namespace Pattern

variable {t : Text} {p p' q q' : Pattern} {cur : Cursor}

/-! ### At a newline -/

/-- What a pattern does in front of a newline. -/
inductive AtNewline where
  /-- It has no piece there. -/
  | refuses
  /-- It has no piece there but the empty one. -/
  | stays
deriving DecidableEq

/-- What can be seen from a pattern of what it does in front of a newline. -/
def atNewline : Pattern → Option AtNewline
  | empty => some .stays
  | lit [] => some .stays
  | lit (c :: _) => if c = '\n' then none else some .refuses
  | one set => if set.has '\n' then none else some .refuses
  | many set least _ _ => if set.has '\n' then none else if 0 < least then some .refuses else some .stays
  | seq p q =>
    match p.atNewline with
    | some .refuses => some .refuses
    | some .stays => q.atNewline
    | none => none
  | alt p q =>
    match p.atNewline, q.atNewline with
    | some .refuses, some .refuses => some .refuses
    | some _, some _ => some .stays
    | _, _ => none
  | rep _ _ _ _ => none
  | look _ => some .stays
  | group _ p => p.atNewline

def Refuses (p : Pattern) : Prop := ∀ bound cur, cur.isWhole = false → p.ends bound cur = []

def Stays (p : Pattern) : Prop := ∀ bound cur, cur.isWhole = false → ∀ next ∈ p.ends bound cur, next.isWhole = false

theorem Refuses.stays (h : p.Refuses) : p.Stays := by
  intro bound cur hcur next hnext
  rw [h bound cur hcur] at hnext
  cases hnext

theorem exists_newline (h : cur.isWhole = false) : ∃ r, cur.rest = '\n' :: r := by
  rw [Cursor.isWhole, bne_eq_false_iff_eq] at h
  exact List.head?_eq_some_iff.1 h

theorem reach_newline {set : CharSet} (hset : set.has '\n' = false) (limit : Option Nat) (h : cur.isWhole = false) :
    Cursor.reach set cur.offset cur.last cur.groups limit cur.rest = [cur] := by
  obtain ⟨r, hr⟩ := exists_newline h
  obtain ⟨offset, last, rest, groups⟩ := cur
  obtain rfl : rest = '\n' :: r := hr
  simp only [Cursor.reach, hset, Bool.and_false, Bool.false_eq_true, ↓reduceIte]

theorem atNewline_sound {a : AtNewline} (h : p.atNewline = some a) : p.Stays ∧ (a = .refuses → p.Refuses) := by
  induction p generalizing a with
  | empty =>
    cases h
    exact ⟨fun _ cur hcur next hnext => by cases List.mem_singleton.1 hnext; exact hcur, nofun⟩
  | lit s =>
    cases s with
    | nil =>
      cases h
      exact ⟨fun _ cur hcur next hnext => by cases List.mem_singleton.1 hnext; exact hcur, nofun⟩
    | cons c s =>
      have hrefuses : (lit (c :: s)).Refuses := by
        intro bound cur hcur
        obtain ⟨r, hr⟩ := exists_newline hcur
        have hc : c ≠ '\n' := by
          rintro rfl
          simp [atNewline] at h
        simp [ends, Cursor.skip?, hr, hc]
      exact ⟨hrefuses.stays, fun _ => hrefuses⟩
  | one set =>
    have hrefuses : (one set).Refuses := by
      intro bound cur hcur
      obtain ⟨r, hr⟩ := exists_newline hcur
      have hset : set.has '\n' = false := by
        by_contra hset
        simp [atNewline, hset] at h
      simp [ends, hr, hset]
    exact ⟨hrefuses.stays, fun _ => hrefuses⟩
  | many set least most greedy =>
    have hset : set.has '\n' = false := by
      by_contra hset
      simp [atNewline, hset] at h
    have hends : ∀ bound cur, cur.isWhole = false → (many set least most greedy).ends bound cur = [cur].drop least := by
      intro bound cur hcur
      simp only [ends, reach_newline hset most hcur]
      cases least <;> simp
    constructor
    · intro bound cur hcur next hnext
      rw [hends bound cur hcur] at hnext
      cases List.mem_singleton.1 (List.mem_of_mem_drop hnext)
      exact hcur
    · rintro rfl bound cur hcur
      rw [hends bound cur hcur]
      cases least with
      | zero => simp [atNewline, hset] at h
      | succ n => simp
  | seq p q ihp ihq =>
    simp only [atNewline] at h
    cases hp : p.atNewline with
    | none => rw [hp] at h; cases h
    | some b =>
      obtain ⟨hstays, hrefuses⟩ := ihp hp
      rw [hp] at h
      cases b with
      | refuses =>
        have hseq : (seq p q).Refuses := by
          intro bound cur hcur
          rw [ends, hrefuses rfl bound cur hcur]
          rfl
        exact ⟨hseq.stays, fun _ => hseq⟩
      | stays =>
        obtain ⟨hstays', hrefuses'⟩ := ihq h
        constructor
        · intro bound cur hcur next hnext
          obtain ⟨mid, hmid, hnext⟩ := List.mem_flatMap.1 hnext
          exact hstays' bound mid (hstays bound cur hcur mid hmid) next hnext
        · intro ha bound cur hcur
          exact List.flatMap_eq_nil_iff.2 fun mid hmid => hrefuses' ha bound mid (hstays bound cur hcur mid hmid)
  | alt p q ihp ihq =>
    simp only [atNewline] at h
    cases hp : p.atNewline with
    | none => rw [hp] at h; cases h
    | some b =>
      cases hq : q.atNewline with
      | none => rw [hp, hq] at h; cases b <;> cases h
      | some b' =>
        obtain ⟨hstays, hrefuses⟩ := ihp hp
        obtain ⟨hstays', hrefuses'⟩ := ihq hq
        constructor
        · intro bound cur hcur next hnext
          exact (List.mem_append.1 hnext).elim (hstays bound cur hcur next) (hstays' bound cur hcur next)
        · rintro rfl bound cur hcur
          rw [hp, hq] at h
          cases b <;> cases b' <;> cases h
          rw [ends, hrefuses rfl bound cur hcur, hrefuses' rfl bound cur hcur]
          rfl
  | rep p least most greedy => cases h
  | look b =>
    cases h
    refine ⟨fun _ cur hcur next hnext => ?_, nofun⟩
    simp only [ends] at hnext
    split_ifs at hnext
    · cases List.mem_singleton.1 hnext; exact hcur
    · cases hnext
  | group i p ih =>
    obtain ⟨hstays, hrefuses⟩ := ih h
    constructor
    · intro bound cur hcur next hnext
      obtain ⟨mid, hmid, rfl⟩ := List.mem_map.1 hnext
      exact hstays bound cur hcur mid hmid
    · intro ha bound cur hcur
      rw [ends, hrefuses ha bound cur hcur]
      rfl

theorem refuses_of_atNewline (h : p.atNewline = some .refuses) : p.Refuses := (atNewline_sound h).2 rfl

/-! ### Ends in both texts -/

/-- The ends in `crlf t` that are not inside of a line end are those in `t`, in the same order. -/
def Follows (t : Text) (p : Pattern) : Prop := ∀ bound bound' cur, cur.On t →
  (p.ends bound' (cur.crlf t)).filter Cursor.isWhole = (p.ends bound cur).map (Cursor.crlf t)

/-- No end in `crlf t` is inside of a line end. -/
def EndsWhole (t : Text) (p : Pattern) : Prop := ∀ bound, ∀ cur : Cursor, cur.On t →
  ∀ next ∈ p.ends bound (cur.crlf t), next.isWhole = true

theorem Follows.ends_eq (h : Follows t p) (hwhole : EndsWhole t p) (bound bound' : Nat) (hcur : cur.On t) :
    p.ends bound' (cur.crlf t) = (p.ends bound cur).map (Cursor.crlf t) := by
  rw [← h bound bound' cur hcur, List.filter_eq_self.2 (hwhole bound' cur hcur)]

theorem follows_of_ends_eq (h : ∀ bound bound' cur, cur.On t →
    p.ends bound' (cur.crlf t) = (p.ends bound cur).map (Cursor.crlf t)) : Follows t p ∧ EndsWhole t p := by
  have hwhole : EndsWhole t p := by
    intro bound cur hcur next hnext
    rw [h bound bound cur hcur] at hnext
    obtain ⟨old, -, rfl⟩ := List.mem_map.1 hnext
    exact Cursor.isWhole_crlf t old
  refine ⟨fun bound bound' cur hcur => ?_, hwhole⟩
  rw [List.filter_eq_self.2 (hwhole bound' cur hcur), h bound bound' cur hcur]

theorem flatMap_filter {α β : Type} {P : α → Bool} {f : α → List β} {l : List α}
    (h : ∀ x ∈ l, P x = false → f x = []) : (l.filter P).flatMap f = l.flatMap f := by
  induction l with
  | nil => rfl
  | cons x l ih =>
    obtain ⟨hx, hl⟩ := List.forall_mem_cons.1 h
    cases hP : P x with
    | true => rw [List.filter_cons_of_pos hP, List.flatMap_cons, List.flatMap_cons, ih hl]
    | false =>
      rw [List.filter_cons_of_neg (by rw [hP]; decide), List.flatMap_cons, hx hP, List.nil_append, ih hl]

theorem Follows.seq (hp : Follows t p) (hq : Follows t q) (h : EndsWhole t p ∨ q.Stays) : Follows t (seq p q) := by
  intro bound bound' cur hcur
  have hinside : ∀ x ∈ p.ends bound' (cur.crlf t), x.isWhole = false →
      (q.ends bound' x).filter Cursor.isWhole = [] := by
    intro x hx hsplit
    rcases h with h | h
    · rw [h bound' cur hcur x hx] at hsplit
      cases hsplit
    · exact List.filter_eq_nil_iff.2 fun next hnext => by rw [h bound' x hsplit next hnext]; decide
  calc (p.ends bound' (cur.crlf t) |>.flatMap (q.ends bound')).filter Cursor.isWhole
      = (p.ends bound' (cur.crlf t)).flatMap fun x => (q.ends bound' x).filter Cursor.isWhole := List.filter_flatMap
    _ = ((p.ends bound' (cur.crlf t)).filter Cursor.isWhole).flatMap fun x => (q.ends bound' x).filter Cursor.isWhole :=
        (flatMap_filter hinside).symm
    _ = (p.ends bound cur).flatMap fun x => (q.ends bound' (x.crlf t)).filter Cursor.isWhole := by
        rw [hp bound bound' cur hcur, List.flatMap_map]
    _ = (p.ends bound cur).flatMap fun x => (q.ends bound x).map (Cursor.crlf t) :=
        List.flatMap_congr fun x hx => hq bound bound' x (hcur.mem_ends hx)
    _ = ((p.ends bound cur).flatMap (q.ends bound)).map (Cursor.crlf t) := List.map_flatMap.symm

theorem EndsWhole.seq (hp : Follows t p) (hq : EndsWhole t q) (h : EndsWhole t p ∨ q.Refuses) :
    EndsWhole t (seq p q) := by
  intro bound cur hcur next hnext
  obtain ⟨mid, hmid, hnext⟩ := List.mem_flatMap.1 hnext
  have hwhole : mid.isWhole = true := by
    rcases h with h | h
    · exact h bound cur hcur mid hmid
    · by_contra hsplit
      rw [h bound mid (Bool.not_eq_true _ ▸ hsplit)] at hnext
      cases hnext
  -- a place that is not inside of a line end is one of the old text
  have hkept : mid ∈ (p.ends bound (cur.crlf t)).filter Cursor.isWhole := List.mem_filter.2 ⟨hmid, hwhole⟩
  rw [hp bound bound cur hcur] at hkept
  obtain ⟨old, hold, rfl⟩ := List.mem_map.1 hkept
  exact hq bound old (hcur.mem_ends hold) next hnext

theorem Follows.alt (hp : Follows t p) (hq : Follows t q) : Follows t (alt p q) := by
  intro bound bound' cur hcur
  simp only [ends, List.filter_append, List.map_append, hp bound bound' cur hcur, hq bound bound' cur hcur]

theorem EndsWhole.alt (hp : EndsWhole t p) (hq : EndsWhole t q) : EndsWhole t (alt p q) := by
  intro bound cur hcur next hnext
  exact (List.mem_append.1 hnext).elim (hp bound cur hcur next) (hq bound cur hcur next)

theorem Follows.group (hp : Follows t p) (i : Nat) : Follows t (group i p) := by
  intro bound bound' cur hcur
  have hfilter := hp bound bound' cur hcur
  simp only [ends, List.filter_map, List.map_map]
  show (List.filter Cursor.isWhole (p.ends bound' (cur.crlf t))).map _ = _
  rw [hfilter, List.map_map]
  rfl

theorem EndsWhole.group (hp : EndsWhole t p) (i : Nat) : EndsWhole t (group i p) := by
  intro bound cur hcur next hnext
  obtain ⟨mid, hmid, rfl⟩ := List.mem_map.1 hnext
  exact hp bound cur hcur mid hmid

theorem ends_look_crlf {b b' : Boundary}
    (h : b.holds (cur.crlf t).last (cur.crlf t).rest.head? = b'.holds cur.last cur.rest.head?) (bound bound' : Nat) :
    (look b).ends bound' (cur.crlf t) = ((look b').ends bound cur).map (Cursor.crlf t) := by
  simp only [ends]
  rw [h]
  split_ifs <;> rfl

theorem follows_lit {s : Text} (hn : '\n' ∉ s) (hr : '\r' ∉ s) : Follows t (lit s) ∧ EndsWhole t (lit s) := by
  refine follows_of_ends_eq fun bound bound' cur hcur => ?_
  rw [ends, ends, Cursor.skip?_crlf hcur hn hr]
  cases cur.skip? s <;> rfl

theorem follows_one {set : CharSet} (hn : set.has '\n' = false) (hr : set.has '\r' = false) :
    Follows t (one set) ∧ EndsWhole t (one set) := by
  refine follows_of_ends_eq fun bound bound' cur hcur => ?_
  cases hrest : cur.rest with
  | nil => simp only [ends, Cursor.crlf, hrest, crlf_nil, List.map_nil]
  | cons c r =>
    by_cases hc : c = '\n'
    · subst hc
      simp only [ends, Cursor.crlf, hrest, crlf_newline, hn, hr, Bool.false_eq_true, ↓reduceIte, List.map_nil]
    · have hcrlf : (cur.crlf t).rest = c :: crlf r := by rw [Cursor.crlf, hrest, crlf_cons hc]
      simp only [ends, hrest, hcrlf]
      split_ifs
      · rw [← hcur.crlf_advance hrest hc, List.map_singleton]
      · rfl

theorem follows_many {set : CharSet} (hn : set.has '\n' = false) (hr : set.has '\r' = false) (least : Nat)
    (most : Option Nat) (greedy : Bool) :
    Follows t (many set least most greedy) ∧ EndsWhole t (many set least most greedy) := by
  refine follows_of_ends_eq fun bound bound' cur hcur => ?_
  have hreach := Cursor.reach_crlf hn hr most hcur
  simp only [ends, Cursor.crlf] at hreach ⊢
  rw [hreach]
  split_ifs
  · rw [List.map_reverse, List.map_drop]
  · rw [List.map_drop]

theorem follows_many_crossing {set : CharSet} {least : Nat} (hr : set.has '\r' = true) (hleast : least ≤ 1)
    (greedy : Bool) : Follows t (many set least none greedy) := by
  intro bound bound' cur hcur
  have hreach := Cursor.filter_reach_crlf hr hcur
  -- the first end is where the run starts, which is not inside of a line end
  have hdrop : ((Cursor.reach set (t.crlfOffset cur.offset) cur.last (moveGroups t.crlfOffset cur.groups) none
      (crlf cur.rest)).drop least).filter Cursor.isWhole =
        ((Cursor.reach set cur.offset cur.last cur.groups none cur.rest).drop least).map (Cursor.crlf t) := by
    rcases Nat.le_one_iff_eq_zero_or_eq_one.1 hleast with rfl | rfl
    · exact hreach
    · obtain ⟨later, hlater⟩ := Cursor.exists_reach_cons set cur.offset cur.last cur.groups none cur.rest
      obtain ⟨later', hlater'⟩ := Cursor.exists_reach_cons set (t.crlfOffset cur.offset) cur.last
        (moveGroups t.crlfOffset cur.groups) none (crlf cur.rest)
      have hfirst : Cursor.isWhole ⟨t.crlfOffset cur.offset, cur.last, crlf cur.rest,
          moveGroups t.crlfOffset cur.groups⟩ = true := Cursor.isWhole_crlf t cur
      rw [hlater, hlater', List.filter_cons_of_pos hfirst] at hreach
      rw [hlater, hlater']
      exact (List.cons.inj hreach).2
  simp only [ends]
  split_ifs
  · rw [List.filter_reverse, List.map_reverse]
    exact congrArg List.reverse hdrop
  · exact hdrop

/-- Where the pieces of a pattern can end in `crlf t`. -/
inductive LineFit where
  /-- Where they end in `t`. -/
  | whole
  /-- Where they end in `t` and inside of a line end. -/
  | split
deriving DecidableEq

/-- What can be seen from a pattern of where its pieces can end. -/
def lineFit : Pattern → Option LineFit
  | empty => some .whole
  | lit s => if '\n' ∈ s ∨ '\r' ∈ s then none else some .whole
  | one set => if set.has '\n' ∨ set.has '\r' then none else some .whole
  | many set least most _ =>
    if set.has '\r' then if least ≤ 1 ∧ most = none then some .split else none
    else if set.has '\n' then none else some .whole
  | seq p q =>
    match p.lineFit, q.lineFit, q.atNewline with
    | some .whole, fit, _ => fit
    | some .split, some fit, some .refuses => some fit
    | some .split, some _, some .stays => some .split
    | _, _, _ => none
  | alt p q =>
    match p.lineFit, q.lineFit with
    | some .whole, some .whole => some .whole
    | some _, some _ => some .split
    | _, _ => none
  | look .lineStart => some .whole
  | group _ p => p.lineFit
  | _ => none

theorem lineFit_sound (t : Text) {fit : LineFit} (h : p.lineFit = some fit) :
    Follows t p ∧ (fit = .whole → EndsWhole t p) := by
  induction p generalizing fit with
  | empty =>
    obtain ⟨hfollows, hwhole⟩ := @follows_of_ends_eq t empty fun _ _ _ _ => rfl
    exact ⟨hfollows, fun _ => hwhole⟩
  | lit s =>
    simp only [lineFit] at h
    split_ifs at h with hs
    obtain ⟨hn, hr⟩ := not_or.1 hs
    exact ⟨(follows_lit hn hr).1, fun _ => (follows_lit hn hr).2⟩
  | one set =>
    simp only [lineFit] at h
    split_ifs at h with hs
    simp only [not_or, Bool.not_eq_true] at hs
    exact ⟨(follows_one hs.1 hs.2).1, fun _ => (follows_one hs.1 hs.2).2⟩
  | many set least most greedy =>
    simp only [lineFit] at h
    split_ifs at h with hr hlimits hn
    · obtain ⟨hleast, rfl⟩ := hlimits
      cases h
      exact ⟨follows_many_crossing hr hleast greedy, by intro hfit; cases hfit⟩
    · rw [Bool.not_eq_true] at hr hn
      obtain ⟨hfollows, hwhole⟩ := @follows_many t set hn hr least most greedy
      exact ⟨hfollows, fun _ => hwhole⟩
  | seq p q ihp ihq =>
    simp only [lineFit] at h
    split at h
    · next hp =>
      obtain ⟨hpf, hpw⟩ := ihp hp
      obtain ⟨hqf, hqw⟩ := ihq h
      exact ⟨hpf.seq hqf (.inl (hpw rfl)), fun hfit => .seq hpf (hqw hfit) (.inl (hpw rfl))⟩
    · next hp hq hat =>
      cases h
      obtain ⟨hpf, -⟩ := ihp hp
      obtain ⟨hqf, hqw⟩ := ihq hq
      obtain ⟨hstays, hrefuses⟩ := atNewline_sound hat
      exact ⟨hpf.seq hqf (.inr hstays), fun hfit => .seq hpf (hqw hfit) (.inr (hrefuses rfl))⟩
    · next hp hq hat =>
      cases h
      exact ⟨(ihp hp).1.seq (ihq hq).1 (.inr (atNewline_sound hat).1), by intro hfit; cases hfit⟩
    · cases h
  | alt p q ihp ihq =>
    simp only [lineFit] at h
    split at h
    · next hp hq =>
      obtain ⟨hpf, hpw⟩ := ihp hp
      obtain ⟨hqf, hqw⟩ := ihq hq
      exact ⟨hpf.alt hqf, fun _ => (hpw rfl).alt (hqw rfl)⟩
    · next hp hq =>
      cases h
      exact ⟨(ihp hp).1.alt (ihq hq).1, by intro hfit; cases hfit⟩
    · cases h
  | rep p least most greedy => cases h
  | look b =>
    cases b with
    | lineStart =>
      obtain ⟨hfollows, hwhole⟩ := @follows_of_ends_eq t (look .lineStart) fun bound bound' cur _ =>
        @ends_look_crlf _ cur .lineStart .lineStart rfl bound bound'
      exact ⟨hfollows, fun _ => hwhole⟩
    | _ => cases h
  | group i p ih =>
    obtain ⟨hfollows, hwhole⟩ := ih h
    exact ⟨hfollows.group i, fun hfit => (hwhole hfit).group i⟩

/-! ### The preferred piece -/

/-- The preferred piece of `p` in `crlf t` ends where that of `p'` in `t` does. -/
def Agrees (t : Text) (p p' : Pattern) : Prop := ∀ bound bound' cur, cur.On t →
  (p.ends bound' (cur.crlf t)).head? = (p'.ends bound cur).head?.map (Cursor.crlf t)

theorem head?_flatMap_map {α β γ : Type} {f : α → List β} {g : α → List γ} {F : γ → β} {l : List α}
    (h : ∀ x ∈ l, (f x).head? = (g x).head?.map F) : (l.flatMap f).head? = (l.flatMap g).head?.map F := by
  induction l with
  | nil => rfl
  | cons x l ih =>
    obtain ⟨hx, hl⟩ := List.forall_mem_cons.1 h
    rw [List.flatMap_cons, List.flatMap_cons, List.head?_append, List.head?_append, hx, ih hl]
    cases (g x).head? <;> rfl

theorem Agrees.append (hp : p.lineFit = some .whole) (hq : Agrees t q q') : Agrees t (p ++ q) (p ++ q') := by
  intro bound bound' cur hcur
  obtain ⟨hfollows, hwhole⟩ := lineFit_sound t hp
  show ((p.ends bound' (cur.crlf t)).flatMap (q.ends bound')).head? =
    ((p.ends bound cur).flatMap (q'.ends bound)).head?.map (Cursor.crlf t)
  rw [hfollows.ends_eq (hwhole rfl) bound bound' hcur, List.flatMap_map]
  exact head?_flatMap_map fun mid hmid => hq bound bound' mid (hcur.mem_ends hmid)

theorem ends_lineBreak (bound : Nat) (cur : Cursor) : Piece.lineBreak.ends bound cur =
    ((cur.skip? ['\r']).toList ++ [cur]).flatMap fun mid => (mid.skip? ['\n']).toList := rfl

theorem ends_lineBreak_crlf (hr : '\r' ∉ t) (bound bound' : Nat) (h : cur.On t) :
    Piece.lineBreak.ends bound' (cur.crlf t) = (Piece.lineBreak.ends bound cur).map (Cursor.crlf t) := by
  rw [ends_lineBreak, ends_lineBreak]
  cases hrest : cur.rest with
  | nil => simp [Cursor.skip?, Cursor.crlf, hrest]
  | cons c r =>
    have hc : '\r' ≠ c := by
      rintro rfl
      exact h.not_mem hr (by rw [hrest]; exact List.mem_cons_self)
    by_cases hn : c = '\n'
    · subst hn
      simp [Cursor.skip?, Cursor.crlf, Cursor.advance, hrest, crlf_newline, h.crlfOffset_newline hrest]
    · simp [Cursor.skip?, Cursor.crlf, hrest, crlf_cons hn, hc, Ne.symm hn]

theorem agrees_lineBreak (hr : '\r' ∉ t) : Agrees t Piece.lineBreak Piece.lineBreak := by
  intro bound bound' cur hcur
  rw [ends_lineBreak_crlf hr bound bound' hcur, List.head?_map]

theorem agrees_lineEnd (hr : '\r' ∉ t) : Agrees t Piece.lineEnd Piece.lineEnd := by
  intro bound bound' cur hcur
  have hends : ∀ bound cur, Piece.lineEnd.ends bound cur =
      Piece.lineBreak.ends bound cur ++ (look .lineEnd).ends bound cur := fun _ _ => rfl
  rw [hends, hends, List.head?_append, List.head?_append, ends_lineBreak_crlf hr bound bound' hcur, List.head?_map]
  cases hbreak : (Piece.lineBreak.ends bound cur).head? with
  | some next => rfl
  | none =>
    -- without a line break there is no newline, so both positions are at the end of their texts or neither is
    have hnewline : cur.rest.head? ≠ some '\n' := by
      intro hhead
      obtain ⟨r, hrest⟩ := List.head?_eq_some_iff.1 hhead
      simp [ends_lineBreak, Cursor.skip?, hrest] at hbreak
    have hsame : Boundary.holds .lineEnd (cur.crlf t).last (cur.crlf t).rest.head? =
        Boundary.holds .lineEnd cur.last cur.rest.head? := by
      simp only [Cursor.crlf, head?_crlf, if_neg hnewline, Boundary.holds]
    rw [ends_look_crlf hsame bound bound', List.head?_map]
    rfl

/-! ### Searches -/

/-- A search goes through `crlf t` as through `t`, if the pattern starts nowhere inside of a line end. -/
theorem search_crlf (hp : Agrees t p p') (hnewline : p.Refuses) (bound bound' : Nat) {offset : Nat} {last : Option Char}
    {rest : Text} (h : Cursor.On t ⟨offset, last, rest, []⟩) :
    p.search bound' (t.crlfOffset offset) last (crlf rest) =
      (p'.search bound offset last rest).map (Prod.map t.crlfOffset (Cursor.crlf t)) := by
  have hend : ∀ {offset last rest}, Cursor.On t ⟨offset, last, rest, []⟩ →
      p.endAt bound' ⟨t.crlfOffset offset, last, crlf rest, []⟩ =
        (p'.endAt bound ⟨offset, last, rest, []⟩).map (Cursor.crlf t) := by
    intro offset last rest h
    rw [endAt_eq_head?, endAt_eq_head?]
    exact hp bound bound' _ h
  induction rest generalizing offset last with
  | nil =>
    have hhere := hend h
    rw [crlf_nil] at hhere ⊢
    rw [search, search, hhere, Option.map_map, Option.map_map]
    rfl
  | cons c rest ih =>
    have hnext := ih (h.reaches (.advance rfl))
    have hhere := hend h
    by_cases hc : c = '\n'
    · subst hc
      rw [crlf_newline] at hhere ⊢
      cases hold : p'.endAt bound ⟨offset, last, '\n' :: rest, []⟩ with
      | some stop => simp only [search, hhere, hold, Option.map_some, Prod.map_apply]
      | none =>
        have hinside : p.endAt bound' ⟨t.crlfOffset offset + ('\r' : Char).utf8Size, some '\r', '\n' :: crlf rest, []⟩ =
            none := by rw [endAt_eq_head?, hnewline _ _ rfl]; rfl
        simp only [search, hhere, hold, hinside, Option.map_none]
        rw [← h.crlfOffset_newline rfl]
        exact hnext
    · rw [crlf_cons hc] at hhere ⊢
      cases hold : p'.endAt bound ⟨offset, last, c :: rest, []⟩ with
      | some stop => simp only [search, hhere, hold, Option.map_some, Prod.map_apply]
      | none =>
        simp only [search, hhere, hold, Option.map_none]
        rw [← h.crlfOffset_advance rfl hc]
        exact hnext

end Pattern

/-- The same match in `crlf t`. -/
def Match.crlf (t : Text) (m : Match) : Match := ⟨m.span.map t.crlfOffset, moveGroups t.crlfOffset m.groups⟩

theorem Match.group?_crlf (t : Text) (m : Match) (i : Nat) :
    (m.crlf t).group? i = (m.group? i).map (Span.map t.crlfOffset) := by
  obtain ⟨span, groups⟩ := m
  induction groups with
  | nil => rfl
  | cons g groups ih =>
    obtain ⟨j, s⟩ := g
    simp only [Match.crlf, Match.group?, moveGroups, List.map_cons, List.lookup_cons] at ih ⊢
    cases i == j
    · exact ih
    · rfl

namespace Pattern

variable {t : Text} {p p' : Pattern} {cur : Cursor}

theorem searchAll_crlf (hsolid : p.Solid) (hsolid' : p'.Solid) (hp : Agrees t p p') (hnewline : p.Refuses)
    {bound bound' count count' : Nat} (hbound : cur.rest.length ≤ bound) (hbound' : (crlf cur.rest).length ≤ bound')
    (hcount : cur.rest.length < count) (hcount' : (crlf cur.rest).length < count') (lastEnd lastEnd' : Option Nat)
    (h : cur.On t) :
    p.searchAll bound' count' lastEnd' (cur.crlf t) = (p'.searchAll bound count lastEnd cur).map (Match.crlf t) := by
  induction count generalizing cur count' lastEnd lastEnd' with
  | zero => omega
  | succ n ih =>
    obtain ⟨n', rfl⟩ : ∃ n', count' = n' + 1 := ⟨count' - 1, by omega⟩
    obtain ⟨done, ht, hoffset, hlast⟩ := h
    have hoffset' : (cur.crlf t).offset = size (crlf done) := by
      rw [Cursor.crlf, hoffset, ht, crlfOffset_size_append]
    have hsearch := @search_crlf t p p' hp hnewline bound bound' (size done) done.getLast? cur.rest ⟨done, ht, rfl, rfl⟩
    have hnext := hsolid'.searchNext lastEnd hbound hoffset hlast rfl
    have hnext' := hsolid.searchNext lastEnd' hbound' hoffset' (hlast.trans (getLast?_crlf done).symm) rfl
    rw [ht, crlfOffset_size_append, ← ht] at hsearch
    rw [getLast?_crlf, hsearch] at hnext'
    rw [searchAll, searchAll, hnext, hnext']
    cases hfound : p'.search bound (size done) done.getLast? cur.rest with
    | none => rfl
    | some found =>
      obtain ⟨start, stop⟩ := found
      obtain ⟨a, w, b, -, hfirst⟩ := search_eq_some hbound hfound
      have hw : w ≠ [] := hsolid' _ _ _ hfirst.occurs
      have hon : stop.On t := by
        refine ⟨done ++ a ++ w, ?_, hfirst.stop_offset, hfirst.stop_last⟩
        rw [ht, hfirst.rest_eq, hfirst.stop_rest]
        simp only [List.append_assoc]
      have hshort : stop.rest.length < cur.rest.length := by
        have hpos := List.length_pos_iff.2 hw
        rw [hfirst.rest_eq, hfirst.stop_rest, List.length_append, List.length_append]
        omega
      have hshort' : (crlf stop.rest).length < (crlf cur.rest).length := by
        have hpos := List.length_pos_iff.2 (mt crlf_eq_nil.1 hw)
        rw [hfirst.rest_eq, hfirst.stop_rest, crlf_append, crlf_append, List.length_append, List.length_append]
        omega
      have htail := ih (by omega : stop.rest.length ≤ bound) (by omega : (crlf stop.rest).length ≤ bound') (by omega)
        (by omega : (crlf stop.rest).length < n') (some stop.offset) (some (stop.crlf t).offset) hon
      simp only [Option.map_some, Prod.map_apply, List.map_cons, htail]
      rfl

/-- The matches of `p` in `crlf t` are those of `p'` in `t`. -/
theorem findAll_crlf (hsolid : p.Solid) (hsolid' : p'.Solid) (hp : Agrees t p p') (hnewline : p.Refuses) :
    p.findAll (crlf t) = (p'.findAll t).map (Match.crlf t) := by
  have hstart : (Cursor.start t).crlf t = Cursor.start (crlf t) := by
    rw [Cursor.crlf, Cursor.start, crlfOffset_zero]
    rfl
  rw [findAll, ← hstart]
  exact searchAll_crlf hsolid hsolid' hp hnewline (Nat.le_refl _) (Nat.le_refl _) (Nat.lt_succ_self _)
    (Nat.lt_succ_self _) none none (.start t)

end Pattern

end HandlerMigration
