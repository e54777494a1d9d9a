import HandlerMigration.Handler.Policy
import Mathlib.Data.List.Basic

/-!
# What a roster says of a function

The three sets of a roster are compared two by two (`pairs`), and the first pair that shares a name is reported
with the first name that it shares (`overlap?_eq_some_iff`). If there is none, the sets share nothing at all, and
every function has exactly one standing. Main statement: `roster_partition`.

Both answers about a function only ask whether its name is in a list, so that the order of a list and repeated
entries do not count (`Rearranges.mem_iff`).
-/

namespace HandlerMigration.Roster

variable {r r' : Roster} {name : String}

/-! ### Sets that share a name -/

/-- The sets by the names that they have in the settings. -/
def sets (r : Roster) : List (String × List String) :=
  [("excluded", r.excluded), ("user_scoped", r.userScoped), ("cors_only", r.corsOnly)]

/-- Two sets at a time, each with those behind it. -/
def pairs (r : Roster) : List ((String × List String) × (String × List String)) :=
  [(("excluded", r.excluded), ("user_scoped", r.userScoped)), (("excluded", r.excluded), ("cors_only", r.corsOnly)),
    (("user_scoped", r.userScoped), ("cors_only", r.corsOnly))]

/-- No name is in two of the sets. -/
def NoOverlap (r : Roster) : Prop := r.sets.Pairwise fun set others => ∀ name ∈ set.2, name ∉ others.2

/-- `o` tells of the first pair that shares a name, and of the first name of the one set that is in the other. -/
def FirstShared (r : Roster) (o : Overlap) : Prop :=
  ∃ before names others after, r.pairs = before ++ ((o.first, names), (o.second, others)) :: after ∧
    (∀ pair ∈ before, ∀ name ∈ pair.1.2, name ∉ pair.2.2) ∧
    ∃ front back, names = front ++ o.name :: back ∧ o.name ∈ others ∧ ∀ name ∈ front, name ∉ others

theorem noOverlap_iff : r.NoOverlap ↔ ∀ pair ∈ r.pairs, ∀ name ∈ pair.1.2, name ∉ pair.2.2 := by
  simp only [NoOverlap, sets, pairs, List.pairwise_cons, List.forall_mem_cons]
  constructor
  · rintro ⟨⟨huser, hcors, -⟩, ⟨hcors', -⟩, -⟩
    exact ⟨huser, hcors, hcors', List.forall_mem_nil _⟩
  · rintro ⟨huser, hcors, hcors', -⟩
    exact ⟨⟨huser, hcors, List.forall_mem_nil _⟩, ⟨hcors', List.forall_mem_nil _⟩, List.forall_mem_nil _, .nil⟩

section Shared

variable {first second : String} {names others : List String} {o : Overlap}

theorem shared_eq_none_iff : shared first names second others = none ↔ ∀ name ∈ names, name ∉ others := by
  simp [shared]

theorem shared_eq_some_iff : shared first names second others = some o ↔ o.first = first ∧ o.second = second ∧
    ∃ front back, names = front ++ o.name :: back ∧ o.name ∈ others ∧ ∀ name ∈ front, name ∉ others := by
  simp only [shared, Option.map_eq_some_iff, List.find?_eq_some_iff_append, List.contains_iff_mem, Bool.not_eq_true']
  constructor
  · rintro ⟨name, ⟨hname, front, back, rfl, hfront⟩, rfl⟩
    exact ⟨rfl, rfl, front, back, rfl, hname, fun x hx => by simpa using hfront x hx⟩
  · rintro ⟨rfl, rfl, front, back, rfl, hname, hfront⟩
    exact ⟨o.name, ⟨hname, front, back, rfl, fun x hx => by simpa using hfront x hx⟩, rfl⟩

end Shared

theorem overlap?_eq (r : Roster) :
    r.overlap? = r.pairs.findSome? fun pair => shared pair.1.1 pair.1.2 pair.2.1 pair.2.2 := by
  simp only [overlap?, pairs, List.findSome?_cons, List.findSome?_nil]
  cases shared "excluded" r.excluded "user_scoped" r.userScoped with
  | some o => rfl
  | none =>
    cases shared "excluded" r.excluded "cors_only" r.corsOnly with
    | some o => rfl
    | none => cases shared "user_scoped" r.userScoped "cors_only" r.corsOnly <;> rfl

theorem overlap?_eq_none_iff : r.overlap? = none ↔ r.NoOverlap := by
  rw [overlap?_eq, List.findSome?_eq_none_iff, noOverlap_iff]
  exact forall₂_congr fun pair _ => shared_eq_none_iff

theorem overlap?_eq_some_iff {o : Overlap} : r.overlap? = some o ↔ r.FirstShared o := by
  rw [overlap?_eq, List.findSome?_eq_some_iff]
  constructor
  · rintro ⟨before, ⟨⟨first, names⟩, second, others⟩, after, hpairs, hshared, hbefore⟩
    obtain ⟨rfl, rfl, hname⟩ := shared_eq_some_iff.1 hshared
    exact ⟨before, names, others, after, hpairs, fun pair hpair => shared_eq_none_iff.1 (hbefore pair hpair), hname⟩
  · rintro ⟨before, names, others, after, hpairs, hbefore, hname⟩
    refine ⟨before, _, after, hpairs, shared_eq_some_iff.2 ⟨rfl, rfl, hname⟩, ?_⟩
    intro pair hpair
    exact shared_eq_none_iff.2 (hbefore pair hpair)

/-! ### Standings -/

inductive Standing where
  | excluded
  | userScoped
  | corsOnly
  | plain
deriving DecidableEq, Repr

/-- The answers about a function amount to a standing. -/
def Answers (r : Roster) (name : String) : Standing → Prop
  | .excluded => r.isExcluded name = true
  | .userScoped => r.resolve name = .userScopedAuth
  | .corsOnly => r.resolve name = .corsOnly
  | .plain => r.isExcluded name = false ∧ r.resolve name = .plainAuth

/-- The sets that list a function amount to a standing. -/
def Lists (r : Roster) (name : String) : Standing → Prop
  | .excluded => name ∈ r.excluded
  | .userScoped => name ∈ r.userScoped
  | .corsOnly => name ∈ r.corsOnly
  | .plain => name ∉ r.excluded ∧ name ∉ r.userScoped ∧ name ∉ r.corsOnly

theorem isExcluded_iff : r.isExcluded name = true ↔ name ∈ r.excluded := List.contains_iff_mem

theorem resolve_eq (r : Roster) (name : String) : r.resolve name =
    if name ∈ r.userScoped then .userScopedAuth else if name ∈ r.corsOnly then .corsOnly else .plainAuth := by
  simp only [resolve, List.contains_iff_mem]

theorem NoOverlap.of_excluded (h : r.NoOverlap) (hname : name ∈ r.excluded) :
    name ∉ r.userScoped ∧ name ∉ r.corsOnly := by
  obtain ⟨huser, hcors, -⟩ := List.forall_mem_cons.1 (noOverlap_iff.1 h) |>.imp_right List.forall_mem_cons.1
  exact ⟨huser name hname, hcors name hname⟩

theorem NoOverlap.of_userScoped (h : r.NoOverlap) (hname : name ∈ r.userScoped) : name ∉ r.corsOnly :=
  noOverlap_iff.1 h (("user_scoped", r.userScoped), ("cors_only", r.corsOnly)) (by simp [pairs]) name hname

theorem NoOverlap.answers_iff (h : r.NoOverlap) (s : Standing) : r.Answers name s ↔ r.Lists name s := by
  have hplain : r.isExcluded name = false ↔ name ∉ r.excluded := by rw [← isExcluded_iff, Bool.not_eq_true]
  cases s with
  | excluded => exact isExcluded_iff
  | userScoped =>
    rw [Answers, Lists, resolve_eq]
    split_ifs with huser hcors
    · exact iff_of_true rfl huser
    · exact iff_of_false (by decide) huser
    · exact iff_of_false (by decide) huser
  | corsOnly =>
    rw [Answers, Lists, resolve_eq]
    split_ifs with huser hcors
    · exact iff_of_false (by decide) (h.of_userScoped huser)
    · exact iff_of_true rfl hcors
    · exact iff_of_false (by decide) hcors
  | plain =>
    rw [Answers, Lists, resolve_eq, hplain]
    split_ifs with huser hcors
    · exact iff_of_false (fun hp => by cases hp.2) fun hp => hp.2.1 huser
    · exact iff_of_false (fun hp => by cases hp.2) fun hp => hp.2.2 hcors
    · exact ⟨fun hp => ⟨hp.1, huser, hcors⟩, fun hp => ⟨hp.1, rfl⟩⟩

theorem NoOverlap.existsUnique_lists (h : r.NoOverlap) (name : String) : ∃! s, r.Lists name s := by
  by_cases hexcluded : name ∈ r.excluded
  · obtain ⟨huser, hcors⟩ := h.of_excluded hexcluded
    refine ⟨.excluded, hexcluded, fun s hs => ?_⟩
    cases s with
    | excluded => rfl
    | userScoped => exact absurd hs huser
    | corsOnly => exact absurd hs hcors
    | plain => exact absurd hexcluded hs.1
  · by_cases huser : name ∈ r.userScoped
    · refine ⟨.userScoped, huser, fun s hs => ?_⟩
      cases s with
      | excluded => exact absurd hs hexcluded
      | userScoped => rfl
      | corsOnly => exact absurd hs (h.of_userScoped huser)
      | plain => exact absurd huser hs.2.1
    · by_cases hcors : name ∈ r.corsOnly
      · refine ⟨.corsOnly, hcors, fun s hs => ?_⟩
        cases s with
        | excluded => exact absurd hs hexcluded
        | userScoped => exact absurd hs huser
        | corsOnly => rfl
        | plain => exact absurd hcors hs.2.2
      · refine ⟨.plain, ⟨hexcluded, huser, hcors⟩, fun s hs => ?_⟩
        cases s with
        | excluded => exact absurd hs hexcluded
        | userScoped => exact absurd hs huser
        | corsOnly => exact absurd hs hcors
        | plain => rfl

/-! ### Order and repetition -/

/-- The second list has the entries of the first, in any order and as often as it likes. -/
inductive Rearranges : List String → List String → Prop where
  | perm {l l' : List String} (h : l.Perm l') : Rearranges l l'
  | again {l : List String} {name : String} (h : name ∈ l) : Rearranges l (name :: l)
  | trans {l l' l'' : List String} (h : Rearranges l l') (h' : Rearranges l' l'') : Rearranges l l''

theorem Rearranges.mem_iff {l l' : List String} (h : Rearranges l l') : name ∈ l' ↔ name ∈ l := by
  induction h with
  | perm h => exact h.mem_iff.symm
  | again h =>
    rw [List.mem_cons, or_iff_right_iff_imp]
    rintro rfl
    exact h
  | trans _ _ ih ih' => exact ih'.trans ih

/-- Each set of the second roster is one of the first, rearranged. -/
structure Rearranged (r r' : Roster) : Prop where
  excluded : Rearranges r.excluded r'.excluded
  userScoped : Rearranges r.userScoped r'.userScoped
  corsOnly : Rearranges r.corsOnly r'.corsOnly

theorem Rearranged.isExcluded_eq (h : Rearranged r r') (name : String) : r'.isExcluded name = r.isExcluded name := by
  rw [Bool.eq_iff_iff, isExcluded_iff, isExcluded_iff]
  exact h.excluded.mem_iff

theorem Rearranged.resolve_eq (h : Rearranged r r') (name : String) : r'.resolve name = r.resolve name := by
  rw [Roster.resolve_eq, Roster.resolve_eq]
  simp only [h.userScoped.mem_iff, h.corsOnly.mem_iff]

theorem Rearranged.noOverlap_iff (h : Rearranged r r') : r'.NoOverlap ↔ r.NoOverlap := by
  simp only [Roster.noOverlap_iff, pairs, List.forall_mem_cons, h.excluded.mem_iff, h.userScoped.mem_iff,
    h.corsOnly.mem_iff]

/-- A roster is valid exactly if no name is in two of its sets, and otherwise the first name that two sets share is
reported, for the first two that share one. In a valid roster every function has exactly one standing, that of the
set that lists it. Neither the order of the entries nor their repetition counts. -/
theorem roster_partition (r : Roster) :
    (r.overlap? = none ↔ r.NoOverlap) ∧ (∀ o, r.overlap? = some o ↔ r.FirstShared o) ∧
    (r.overlap? = none → ∀ name, (∃! s, r.Answers name s) ∧ ∀ s, r.Answers name s ↔ r.Lists name s) ∧
    ∀ r', Rearranged r r' → (r'.overlap? = none ↔ r.overlap? = none) ∧
      ∀ name, r'.isExcluded name = r.isExcluded name ∧ r'.resolve name = r.resolve name := by
  refine ⟨overlap?_eq_none_iff, fun o => overlap?_eq_some_iff, ?_, fun r' h => ⟨?_, fun name => ?_⟩⟩
  · intro hvalid name
    have hnone := overlap?_eq_none_iff.1 hvalid
    refine ⟨?_, hnone.answers_iff⟩
    simpa only [hnone.answers_iff] using hnone.existsUnique_lists name
  · rw [overlap?_eq_none_iff, overlap?_eq_none_iff]
    exact h.noOverlap_iff
  · exact ⟨h.isExcluded_eq name, h.resolve_eq name⟩

/-- Names are listed more than once. -/
def repeatedNames : Roster := ⟨["a", "b", "a"], ["c"], ["d"]⟩

/-- Two sets share two names, in different orders. -/
def sharedNames : Roster := ⟨["x", "z", "y"], ["w"], ["y", "z"]⟩

theorem roster_partition_repeatedNames :
    (repeatedNames.overlap? = none ∧ (∃! s, repeatedNames.Answers "b" s) ∧
      (repeatedNames.Answers "b" .excluded ↔ repeatedNames.Lists "b" .excluded)) ∧
    sharedNames.FirstShared ⟨"z", "excluded", "cors_only"⟩ ∧
    Rearranged repeatedNames ⟨["b", "b", "a", "a"], ["c"], ["d"]⟩ ∧
      resolve ⟨["b", "b", "a", "a"], ["c"], ["d"]⟩ "c" = repeatedNames.resolve "c" := by
  obtain ⟨-, -, hstanding, hrearranged⟩ := roster_partition repeatedNames
  have hvalid : repeatedNames.overlap? = none := by decide
  have hsame : Rearranged repeatedNames ⟨["b", "b", "a", "a"], ["c"], ["d"]⟩ :=
    ⟨.trans (.perm (by decide)) (.again (by decide)), .perm (.refl _), .perm (.refl _)⟩
  obtain ⟨hunique, hanswers⟩ := hstanding hvalid "b"
  refine ⟨⟨hvalid, hunique, hanswers .excluded⟩, ?_, hsame, ((hrearranged _ hsame).2 "c").2⟩
  exact ((roster_partition sharedNames).2.1 _).1 (by decide)

end HandlerMigration.Roster
