import HandlerMigration.Proofs.BatchWrites
import HandlerMigration.Proofs.Rest

/-!
# What the program reports about its handlers

What comes of a handler depends on nothing but the bytes of its file (`attempt_congr`), and these are as the
program found them when the batch comes to it, in every mode. So a batch is told by what comes of each handler
on the first disk: it breaks off if one of them does (`aborted_run_iff`), and else its output and its counters
are theirs, one after the other (`tells_run`).

Main statement: the counters account for every handler, they are the same in every mode, and so is what is
reported about each handler; and the program modifies, as it says, that many files (`execute_accounts`).
-/

namespace HandlerMigration.Command

/-! ### One handler -/

theorem attempt_congr {d d' : Disk} {target : Target} (ctx : Context)
    (h : d.tree.bytes? target.route = d'.tree.bytes? target.route) : attempt d ctx target = attempt d' ctx target := by
  unfold attempt Disk.readRoute
  rw [h]

theorem Migrates.ne {t : Tree} {ctx : Context} {route : Route} {new : ByteArray} (h : Migrates t ctx route new) :
    t.bytes? route ≠ some new := by
  obtain ⟨old, text, result, hold, htext, hrun, hchanged, rfl⟩ := h
  intro hsame
  rw [hold] at hsame
  have hread : String.fromUTF8? (String.ofList result.text).toUTF8 = some (String.ofList result.text) :=
    dif_pos (String.ofList result.text).isValidUTF8
  rw [Option.some.inj hsame, hread] at htext
  have htext : result.text = text.toList := by
    rw [← Option.some.inj htext, String.toList_ofList]
  rw [(Migration.run_eq_ok.1 hrun).2, htext, bne_self_eq_false] at hchanged
  cases hchanged

namespace Attempt

/-- What a handler is counted as: its status, or nothing if it could not be migrated. -/
def status? : Attempt → Option Status
  | migrated _ result => some (Status.of result)
  | failed _ => none
  | aborted => none

/-- What is printed about a handler: the change, where changes are shown, the name with the policy and the status, and
the notes. The notes on what was skipped are left out if the handler is compliant. -/
def report (mode : Mode) (policy : Policy) (target : Target) : Attempt → String
  | migrated old result =>
    let status := Status.of result
    let notes := result.notes.filter fun note => decide (note.outcome ≠ .skipped ∨ status ≠ .compliant)
    (if result.changed = true ∧ mode = .diff then Diff.unified target.path old result.text else "") ++
      (status.mark ++ " " ++ target.name ++ " (" ++ policy.label ++ "): " ++ status.label mode ++ "\n") ++
      String.join (notes.map fun note => "    [" ++ toString note.number ++ " " ++ note.step.name ++ "] " ++
        note.outcome.label ++ ": " ++ note.message ++ "\n")
  | failed _ => ""
  | aborted => ""

/-- What is said about a handler that could not be migrated. -/
def complaint (target : Target) : Attempt → String
  | failed message => "✗ " ++ target.name ++ ": " ++ message ++ "\n"
  | migrated _ _ => ""
  | aborted => ""

/-- The counters with one more handler. -/
def count (s : Summary) : Attempt → Summary
  | migrated _ result => s.add (Status.of result)
  | failed _ => s.addError
  | aborted => s

/-- The migration has changed the handler. -/
def modifies : Attempt → Bool
  | migrated _ result => result.changed
  | failed _ => false
  | aborted => false

theorem status?_eq_modified_iff {a : Attempt} : a.status? = some .modified ↔ a.modifies = true := by
  cases a with
  | migrated old result =>
    show some (Status.of result) = some .modified ↔ result.changed = true
    unfold Status.of
    split_ifs with hchanged hwarnings
    · exact iff_of_true rfl hchanged
    · exact iff_of_false (by simp) hchanged
    · exact iff_of_false (by simp) hchanged
  | failed message => exact iff_of_false (by simp [status?]) (by simp [modifies])
  | aborted => exact iff_of_false (by simp [status?]) (by simp [modifies])

end Attempt

theorem handlerReport_eq (target : Target) (policy : Policy) (mode : Mode) (old : Text) (result : Migration.Result) :
    (if result.changed = true ∧ mode = .diff then Diff.unified target.path old result.text else "") ++
        handlerReport target.name policy mode result =
      (Attempt.migrated old result).report mode policy target := by
  have hshown : shownNotes (Status.of result) result.notes =
      result.notes.filter fun note => decide (note.outcome ≠ .skipped ∨ Status.of result ≠ .compliant) := by
    refine List.filter_congr fun note _ => ?_
    by_cases houtcome : note.outcome = .skipped <;> by_cases hstatus : Status.of result = .compliant <;>
      simp [houtcome, hstatus]
  rw [handlerReport, hshown, Attempt.report, ← String.append_assoc]
  rfl

/-! ### Counters -/

namespace Summary

variable {attempts : List Attempt}

/-- The counters of handlers by what each is counted as. -/
def ofStatuses (statuses : List (Option Status)) (excluded : Nat) : Summary where
  modified := statuses.count (some .modified)
  compliant := statuses.count (some .compliant)
  unmatched := statuses.count (some .unmatched)
  errored := statuses.count none
  excluded := excluded

theorem total_eq_length (statuses : List (Option Status)) :
    statuses.count (some .modified) + statuses.count (some .compliant) + statuses.count (some .unmatched) +
      statuses.count none = statuses.length := by
  induction statuses with
  | nil => rfl
  | cons status statuses ih =>
    rcases status with _ | _ | _ | _ <;> simp only [List.count_cons, List.length_cons] <;> simp <;> omega

theorem count_ofStatuses {a : Attempt} (h : a ≠ .aborted) (statuses : List (Option Status)) (excluded : Nat) :
    a.count (.ofStatuses statuses excluded) = .ofStatuses (statuses ++ [a.status?]) excluded := by
  cases a with
  | migrated old result =>
    show add _ (Status.of result) = ofStatuses (statuses ++ [some (Status.of result)]) excluded
    cases Status.of result <;> simp [add, ofStatuses, List.count_append]
  | failed message => simp [Attempt.count, Attempt.status?, addError, ofStatuses, List.count_append]
  | aborted => exact absurd rfl h

theorem foldl_ofStatuses (h : ∀ a ∈ attempts, a ≠ .aborted) (statuses : List (Option Status)) (excluded : Nat) :
    attempts.foldl Attempt.count (.ofStatuses statuses excluded) =
      .ofStatuses (statuses ++ attempts.map Attempt.status?) excluded := by
  induction attempts generalizing statuses with
  | nil => simp
  | cons a attempts ih =>
    obtain ⟨ha, hrest⟩ := List.forall_mem_cons.1 h
    rw [List.foldl_cons, count_ofStatuses ha, ih hrest, List.append_assoc, List.map_cons, List.singleton_append]

end Summary

/-! ### A batch -/

namespace Batch

variable {mode : Mode} {anchors : Anchors} {roster : Roster} {d : Disk} {b : Batch} {target : Target}
  {targets : List Target} {route : Route}

/-- What comes of a handler on the disk that the batch starts from. -/
def attemptOn (anchors : Anchors) (roster : Roster) (d : Disk) (target : Target) : Attempt :=
  attempt d (contextOf anchors roster target) target

theorem bytes?_step (h : route ≠ target.route) :
    (step mode anchors roster b target).disk.tree.bytes? route = b.disk.tree.bytes? route := by
  by_cases hmode : mode = .write
  · subst hmode
    exact bytes?_step_of_ne h
  · rw [step_disk hmode]

theorem step_eq (hb : b.aborted = false) : step mode anchors roster b target =
    match attemptOn anchors roster b.disk target with
    | .aborted => { b with aborted := true }
    | .failed message =>
      { b with err := b.err ++ failureReport target.name message, summary := b.summary.addError }
    | .migrated old result =>
      let b := if result.changed then b.applyChange mode target old result.text else b
      { b with
        out := b.out ++ handlerReport target.name (roster.resolve target.name) mode result
        summary := b.summary.add (Status.of result) } := by
  rw [step, hb]
  rfl

theorem applyChange_fields (b : Batch) (mode : Mode) (target : Target) (old new : Text) :
    (b.applyChange mode target old new).out = b.out ++ (if mode = .diff then Diff.unified target.path old new else "") ∧
      (b.applyChange mode target old new).err = b.err ∧ (b.applyChange mode target old new).summary = b.summary ∧
      (b.applyChange mode target old new).aborted = b.aborted := by
  cases mode with
  | write => exact ⟨by rw [if_neg (by decide), String.append_empty]; rfl, rfl, rfl, rfl⟩
  | check => exact ⟨by rw [if_neg (by decide), String.append_empty]; rfl, rfl, rfl, rfl⟩
  | diff => exact ⟨by rw [if_pos rfl]; rfl, rfl, rfl, rfl⟩

theorem step_of_aborted (hb : b.aborted = false) (h : attemptOn anchors roster b.disk target = .aborted) :
    (step mode anchors roster b target).aborted = true := by
  rw [step_eq hb, h]

/-- `b'` tells of one more handler than `b`, of which came `a`. -/
structure Tells (mode : Mode) (roster : Roster) (b : Batch) (target : Target) (a : Attempt) (b' : Batch) : Prop where
  out : b'.out = b.out ++ a.report mode (roster.resolve target.name) target
  err : b'.err = b.err ++ a.complaint target
  summary : b'.summary = a.count b.summary
  aborted : b'.aborted = false

theorem tells_step (mode : Mode) (hb : b.aborted = false) {a : Attempt} (ha : attemptOn anchors roster b.disk target = a)
    (h : a ≠ .aborted) : Tells mode roster b target a (step mode anchors roster b target) := by
  rw [step_eq hb, ha]
  cases a with
  | aborted => exact absurd rfl h
  | failed message => exact ⟨String.append_empty.symm, rfl, rfl, hb⟩
  | migrated old result =>
    by_cases hchanged : result.changed = true
    · obtain ⟨hout, herr, hsummary, haborted⟩ := applyChange_fields b mode target old result.text
      refine ⟨?_, ?_, ?_, ?_⟩
      · rw [← handlerReport_eq]
        simp only [hchanged, ↓reduceIte, hout, true_and, String.append_assoc]
      · simp only [hchanged, ↓reduceIte, herr]
        exact String.append_empty.symm
      · simp only [hchanged, ↓reduceIte, hsummary]
        rfl
      · simp only [hchanged, ↓reduceIte, haborted, hb]
    · refine ⟨?_, ?_, ?_, ?_⟩
      · rw [← handlerReport_eq]
        simp only [hchanged, Bool.false_eq_true, ↓reduceIte, false_and, String.empty_append]
      · simp only [hchanged, Bool.false_eq_true, ↓reduceIte]
        exact String.append_empty.symm
      · simp only [hchanged, Bool.false_eq_true, ↓reduceIte]
        rfl
      · simp only [hchanged, Bool.false_eq_true, ↓reduceIte, hb]

/-- The files of all handlers still to come are as they were on `d`. -/
def Fresh (d : Disk) (b : Batch) (targets : List Target) : Prop :=
  ∀ target ∈ targets, b.disk.tree.bytes? target.route = d.tree.bytes? target.route

theorem Fresh.attemptOn (h : Fresh d b targets) (htarget : target ∈ targets) :
    attemptOn anchors roster b.disk target = attemptOn anchors roster d target :=
  attempt_congr _ (h target htarget)

theorem Fresh.step (h : Fresh d b (target :: targets)) (hroutes : ((target :: targets).map Target.route).Nodup) :
    Fresh d (step mode anchors roster b target) targets := by
  intro other hother
  have hne : other.route ≠ target.route := by
    intro heq
    exact (List.nodup_cons.1 hroutes).1 (heq ▸ List.mem_map_of_mem hother)
  rw [bytes?_step hne]
  exact h other (List.mem_cons_of_mem _ hother)

/-- A batch goes on to its end unless there is a handler that breaks it off. -/
theorem aborted_foldl_iff (hb : b.aborted = false) (hfresh : Fresh d b targets)
    (hroutes : (targets.map Target.route).Nodup) :
    (targets.foldl (step mode anchors roster) b).aborted = true ↔
      ∃ target ∈ targets, attemptOn anchors roster d target = .aborted := by
  induction targets generalizing b with
  | nil => simp [hb]
  | cons target targets ih =>
    rw [List.foldl_cons, List.exists_mem_cons_iff]
    have hsame : attemptOn anchors roster b.disk target = attemptOn anchors roster d target :=
      hfresh.attemptOn List.mem_cons_self
    by_cases ha : attemptOn anchors roster d target = .aborted
    · -- a batch that was broken off does nothing more
      have hstep : (step mode anchors roster b target).aborted = true := step_of_aborted hb (hsame.trans ha)
      rw [aborted_foldl hstep]
      exact iff_of_true hstep (.inl ha)
    · have hstep := (tells_step mode hb hsame ha).aborted
      rw [ih hstep (hfresh.step hroutes) (List.nodup_cons.1 hroutes).2]
      exact ⟨.inr, fun h => h.resolve_left ha⟩

/-- A batch that comes to its end tells what came of each handler, one after the other. -/
theorem tells_foldl (hb : b.aborted = false) (hfresh : Fresh d b targets)
    (hroutes : (targets.map Target.route).Nodup)
    (h : ∀ target ∈ targets, attemptOn anchors roster d target ≠ .aborted) :
    (targets.foldl (step mode anchors roster) b).out = b.out ++ String.join (targets.map fun target =>
        (attemptOn anchors roster d target).report mode (roster.resolve target.name) target) ∧
      (targets.foldl (step mode anchors roster) b).err = b.err ++ String.join (targets.map fun target =>
        (attemptOn anchors roster d target).complaint target) ∧
      (targets.foldl (step mode anchors roster) b).summary =
        (targets.map (attemptOn anchors roster d)).foldl Attempt.count b.summary := by
  induction targets generalizing b with
  | nil => exact ⟨String.append_empty.symm, String.append_empty.symm, rfl⟩
  | cons target targets ih =>
    obtain ⟨ha, hrest⟩ := List.forall_mem_cons.1 h
    have hstep := tells_step mode hb (hfresh.attemptOn List.mem_cons_self) ha
    obtain ⟨hout, herr, hsummary⟩ := ih hstep.aborted (hfresh.step hroutes) (List.nodup_cons.1 hroutes).2 hrest
    rw [List.foldl_cons, hout, herr, hsummary, hstep.out, hstep.err, hstep.summary]
    simp only [List.map_cons, String.join_cons, String.append_assoc, List.foldl_cons, and_self]

/-- What each handler of a survey is counted as. -/
def statuses (anchors : Anchors) (roster : Roster) (d : Disk) (survey : Survey) : List (Option Status) :=
  survey.targets.map fun target => (attemptOn anchors roster d target).status?

section Run

variable {survey : Survey}

theorem aborted_run_iff (mode : Mode) (hroutes : (survey.targets.map Target.route).Nodup) :
    (run mode anchors roster d survey).aborted = true ↔
      ∃ target ∈ survey.targets, attemptOn anchors roster d target = .aborted :=
  aborted_foldl_iff rfl (fun _ _ => rfl) hroutes

theorem tells_run (mode : Mode) (hroutes : (survey.targets.map Target.route).Nodup)
    (h : ∀ target ∈ survey.targets, attemptOn anchors roster d target ≠ .aborted) :
    (run mode anchors roster d survey).out = String.join (survey.targets.map fun target =>
        (attemptOn anchors roster d target).report mode (roster.resolve target.name) target) ∧
      (run mode anchors roster d survey).err = String.join (survey.targets.map fun target =>
        (attemptOn anchors roster d target).complaint target) ∧
      (run mode anchors roster d survey).summary =
        .ofStatuses (statuses anchors roster d survey) survey.excluded.length := by
  obtain ⟨hout, herr, hsummary⟩ := @tells_foldl mode anchors roster d ⟨d, "", "", .start survey.excluded.length, false⟩
    survey.targets rfl (fun _ _ => rfl) hroutes h
  rw [String.empty_append] at hout herr
  have hcounted := Summary.foldl_ofStatuses (List.forall_mem_map.2 h) [] survey.excluded.length
  rw [List.nil_append, List.map_map] at hcounted
  exact ⟨hout, herr, hsummary.trans hcounted⟩

theorem count_modified_statuses : (statuses anchors roster d survey).count (some .modified) =
    (survey.targets.filter fun target => (attemptOn anchors roster d target).modifies).length := by
  rw [statuses, List.count, List.countP_map, ← List.countP_eq_length_filter]
  refine List.countP_congr fun target _ => ?_
  rw [Function.comp_apply, beq_iff_eq]
  exact Attempt.status?_eq_modified_iff

theorem modifies_iff : (attemptOn anchors roster d target).modifies = true ↔
    ∃ new, Migrates d.tree (contextOf anchors roster target) target.route new := by
  unfold attemptOn
  rcases attempt_cases d (contextOf anchors roster target) target with
    ⟨old, result, hattempt, hchanged, hnew⟩ | ⟨hnone, hsame⟩
  · rw [hattempt]
    exact iff_of_true hchanged ⟨_, hnew⟩
  · refine iff_of_false (fun hmodifies => ?_) fun ⟨new, hnew⟩ => hnone new hnew
    cases hattempt : attempt d (contextOf anchors roster target) target with
    | migrated old result =>
      rw [hattempt, Attempt.modifies, hsame old result hattempt] at hmodifies
      cases hmodifies
    | failed message => rw [hattempt] at hmodifies; cases hmodifies
    | aborted => rw [hattempt] at hmodifies; cases hmodifies

/-- The files that a batch changes are those of the handlers that it counts as modified. -/
theorem bytes?_run_ne_iff (hroutes : (survey.targets.map Target.route).Nodup)
    (h : (run .write anchors roster d survey).aborted = false) :
    (run .write anchors roster d survey).disk.tree.bytes? route ≠ d.tree.bytes? route ↔
      ∃ target ∈ survey.targets, (attemptOn anchors roster d target).modifies = true ∧ target.route = route := by
  constructor
  · intro hne
    obtain ⟨target, htarget, rfl⟩ : ∃ target ∈ survey.targets, route = target.route := by
      by_contra hother
      refine hne (bytes?_foldl_of_forall_ne fun target htarget heq => ?_)
      exact hother ⟨target, htarget, heq⟩
    rcases bytes?_run_cases anchors roster d hroutes htarget with ⟨new, hnew, -⟩ | ⟨hsame, -⟩
    · exact ⟨target, htarget, modifies_iff.2 ⟨new, hnew⟩, rfl⟩
    · exact absurd hsame hne
  · rintro ⟨target, htarget, hmodifies, rfl⟩
    obtain ⟨new, hnew⟩ := modifies_iff.1 hmodifies
    rcases bytes?_run_cases anchors roster d hroutes htarget with ⟨new', hnew', hbytes⟩ | ⟨-, haborted | hnone⟩
    · rw [hbytes]
      exact fun heq => hnew'.ne heq.symm
    · rw [h] at haborted; cases haborted
    · exact absurd hnew (hnone new)

end Run

end Batch

/-! ### The program -/

theorem Summary.report_eq (summary : Summary) (mode : Mode) :
    summary.report mode = s!"\n{summary.modified} " ++ (if mode = .write then "modified" else "would modify") ++
      s!", {summary.compliant} already compliant, {summary.unmatched} unmatched, {summary.errored} errored, " ++
      s!"{summary.excluded} excluded\n" := by
  have hlabel : mode.modifiedLabel = if mode = .write then "modified" else "would modify" := by
    cases mode <;> rfl
  simp only [report, hlabel, String.append_assoc]
  rfl

theorem Summary.failure?_eq (summary : Summary) (mode : Mode) :
    summary.failure? mode =
      if 0 < summary.errored then some s!"{summary.errored} file(s) failed to migrate"
      else if mode = .check ∧ 0 < summary.modified then some s!"{summary.modified} file(s) need migration"
      else none := by
  simp only [failure?, gt_iff_lt, Bool.and_eq_true, decide_eq_true_eq]

theorem Summary.failure?_isSome_iff {summary : Summary} {mode : Mode} :
    (summary.failure? mode).isSome = true ↔ 0 < summary.errored ∨ mode = .check ∧ 0 < summary.modified := by
  rw [failure?_eq]
  split_ifs with herrored hcheck
  · exact iff_of_true rfl (.inl herrored)
  · exact iff_of_true rfl (.inr hcheck)
  · exact iff_of_false Bool.false_ne_true fun h => h.elim herrored hcheck

theorem errorReport_nil (number text : String) :
    errorReport (number ++ text) [] = "Error: " ++ number ++ (text ++ "\n") := by
  show "Error: " ++ (number ++ text) ++ "\n" ++ "" = _
  simp only [String.append_empty, String.append_assoc]

theorem Summary.failure?_elim (summary : Summary) (mode : Mode) :
    (summary.failure? mode).elim "" (fun message => errorReport message []) =
      if 0 < summary.errored then s!"Error: {summary.errored} file(s) failed to migrate\n"
      else if mode = .check ∧ 0 < summary.modified then s!"Error: {summary.modified} file(s) need migration\n"
      else "" := by
  rw [failure?_eq]
  split_ifs
  · exact errorReport_nil _ _
  · exact errorReport_nil _ _
  · rfl

section Program

variable {d : Disk} {directory : String} {config : Option String} {s : Settings} {anchors : Anchors} {survey : Survey}

/-- What is said if there is no handler. -/
def emptyNotice (s : Settings) (directory : String) (survey : Survey) : String :=
  if survey.targets.isEmpty then s!"No {s.handlerFile} files found under {directory}\n" else ""

theorem executeRun_of_prepares {mode : Mode} (h : Prepares d directory config s anchors survey)
    (haborted : (Batch.run mode anchors s.roster d survey).aborted = false) :
    executeRun d directory config mode =
      let batch := Batch.run mode anchors s.roster d survey
      ⟨.exit (if (batch.summary.failure? mode).isSome then 1 else 0), batch.out ++ batch.summary.report mode,
        emptyNotice s directory survey ++ batch.err ++
          (batch.summary.failure? mode).elim "" fun message => errorReport message [], batch.disk⟩ := by
  unfold executeRun withSettings
  rw [h.settings]
  simp only [h.anchors, withSurvey, h.survey, haborted, Bool.false_eq_true, ↓reduceIte]
  cases Summary.failure? (Batch.run mode anchors s.roster d survey).summary mode with
  | none => simp only [Option.elim_none, String.append_empty]; rfl
  | some message => rfl

theorem ending_ne_abort_iff {mode : Mode} (h : Prepares d directory config s anchors survey) :
    (executeRun d directory config mode).ending ≠ .abort ↔
      (Batch.run mode anchors s.roster d survey).aborted = false := by
  rcases executeRun_cases d directory config mode with ⟨-, hnone⟩ | ⟨s', anchors', survey', h', -, hend⟩
  · exact absurd h (hnone s anchors survey)
  · obtain ⟨rfl, rfl, rfl⟩ := h.unique h'
    rw [ne_eq, hend, Bool.not_eq_true]

/-- The program accounts for every handler, and in the same way in every mode. Each handler is counted by what
comes of it on the first disk, and reported so; only the word for a change, the shown change and whether changes
are a failure depend on the mode. If it may write, it changes as many files as it counts. -/
theorem execute_accounts {arguments : List String} {mode : Mode} (hprep : Prepares d directory config s anchors survey)
    (hrequest : Request.ofArguments arguments = .ok (.run directory config mode))
    (hend : (execute d arguments).ending ≠ .abort) :
    ∃ modified compliant unmatched errored : Nat,
      modified = (Batch.statuses anchors s.roster d survey).count (some .modified) ∧
      compliant = (Batch.statuses anchors s.roster d survey).count (some .compliant) ∧
      unmatched = (Batch.statuses anchors s.roster d survey).count (some .unmatched) ∧
      errored = (Batch.statuses anchors s.roster d survey).count none ∧
      modified + compliant + unmatched + errored = survey.targets.length ∧
      (∀ arguments mode, Request.ofArguments arguments = .ok (.run directory config mode) →
        (execute d arguments).out =
          String.join (survey.targets.map fun target =>
            (Batch.attemptOn anchors s.roster d target).report mode (s.roster.resolve target.name) target) ++
          (s!"\n{modified} " ++ (if mode = .write then "modified" else "would modify") ++
            s!", {compliant} already compliant, {unmatched} unmatched, {errored} errored, " ++
            s!"{survey.excluded.length} excluded\n") ∧
        (execute d arguments).err =
          emptyNotice s directory survey ++
          String.join (survey.targets.map fun target => (Batch.attemptOn anchors s.roster d target).complaint target) ++
          (if 0 < errored then s!"Error: {errored} file(s) failed to migrate\n"
            else if mode = .check ∧ 0 < modified then s!"Error: {modified} file(s) need migration\n" else "") ∧
        (execute d arguments).ending = .exit (if 0 < errored ∨ mode = .check ∧ 0 < modified then 1 else 0)) ∧
      ∀ arguments, Request.ofArguments arguments = .ok (.run directory config .write) →
        ∃ changed : List Route, changed.Nodup ∧ changed.length = modified ∧
          ∀ route, route ∈ changed ↔ (execute d arguments).disk.tree.bytes? route ≠ d.tree.bytes? route := by
  have hroutes := Survey.nodup_routes hprep.survey
  rw [execute_run d hrequest, ending_ne_abort_iff hprep, Bool.eq_false_iff, ne_eq, Batch.aborted_run_iff mode hroutes]
    at hend
  have hattempts : ∀ target ∈ survey.targets, Batch.attemptOn anchors s.roster d target ≠ .aborted :=
    fun target htarget ha => hend ⟨target, htarget, ha⟩
  have haborted : ∀ mode, (Batch.run mode anchors s.roster d survey).aborted = false := by
    intro mode
    rw [Bool.eq_false_iff, ne_eq, Batch.aborted_run_iff mode hroutes]
    exact hend
  refine ⟨_, _, _, _, rfl, rfl, rfl, rfl, (Summary.total_eq_length _).trans (List.length_map _), ?_, ?_⟩
  · intro arguments mode hrequest
    obtain ⟨hout, herr, hsummary⟩ := Batch.tells_run mode hroutes hattempts
    rw [execute_run d hrequest, executeRun_of_prepares hprep (haborted mode)]
    simp only [hout, herr, hsummary, Summary.failure?_isSome_iff]
    exact ⟨congrArg _ (Summary.report_eq _ _), congrArg _ (Summary.failure?_elim _ _), rfl⟩
  · intro arguments hrequest
    rw [execute_run d hrequest, executeRun_of_prepares hprep (haborted .write)]
    refine ⟨(survey.targets.filter fun target => (Batch.attemptOn anchors s.roster d target).modifies).map Target.route,
      ?_, ?_, fun route => ?_⟩
    · exact hroutes.sublist (List.filter_sublist.map _)
    · rw [List.length_map, Batch.count_modified_statuses]
    · simp only [List.mem_map, List.mem_filter, and_assoc]
      exact (Batch.bytes?_run_ne_iff hroutes (haborted .write)).symm

end Program

/-- What is printed about the handlers of `threeFunctions` if nothing may be written. -/
def threeFunctionsReport : String :=
  "✓ b (plain auth): would modify\n" ++
  "    [1 imports] warning: no import to anchor on; could not add " ++
  "import \x7b getCorsHeaders, handleCorsPreflightRequest \x7d from '../_shared/cors-config.ts'; and " ++
  "import \x7b validateAuth \x7d from '../_shared/auth.ts';\n" ++
  "    [2 headers_const] skipped: no local corsHeaders definition\n" ++
  "    [3 origin] applied: inserted origin extraction\n" ++
  "    [4 preflight] warning: no OPTIONS preflight block found\n" ++
  "    [5 auth] warning: no OPTIONS block found; auth not added\n" ++
  "    [6 response_headers] skipped: no corsHeaders response sites\n" ++
  "    [7 error_boundary] warning: no catch blocks found\n"

set_option maxRecDepth 20000 in
/-- Of the two handlers one is no text and one changes, and one function is excluded. -/
theorem execute_accounts_threeFunctions :
    (execute threeFunctions ["run", "f", "--check"]).ending ≠ .abort ∧
    (execute threeFunctions ["run", "f", "--check"]).out = threeFunctionsReport ++
      "\n1 would modify, 0 already compliant, 0 unmatched, 1 errored, 1 excluded\n" ∧
    (execute threeFunctions ["run", "f", "--check"]).err =
      "✗ a: Failed to read f/a/index.ts: stream did not contain valid UTF-8\n" ++
      "Error: 1 file(s) failed to migrate\n" ∧
    (execute threeFunctions ["run", "f", "--diff"]).ending = .exit 1 ∧
    ∃ changed : List Route, changed.Nodup ∧ changed.length = 1 ∧ ∀ route, route ∈ changed ↔
      (execute threeFunctions ["run", "f"]).disk.tree.bytes? route ≠ threeFunctions.tree.bytes? route := by
  obtain ⟨hcheck, hdiff, hwrite⟩ :
      (Request.ofArguments ["run", "f", "--check"]).toOption = some (.run "f" none .check) ∧
      (Request.ofArguments ["run", "f", "--diff"]).toOption = some (.run "f" none .diff) ∧
      (Request.ofArguments ["run", "f"]).toOption = some (.run "f" none .write) := by decide +kernel
  have hall : (Settings.standard.anchors.toOption.any fun anchors =>
      !(Batch.run .check anchors Settings.standard.roster threeFunctions threeFunctionsSurvey).aborted &&
      decide (Batch.statuses anchors Settings.standard.roster threeFunctions threeFunctionsSurvey =
        [none, some .modified]) &&
      decide (String.join (threeFunctionsSurvey.targets.map fun target =>
        (Batch.attemptOn anchors Settings.standard.roster threeFunctions target).report .check
          (Settings.standard.roster.resolve target.name) target) = threeFunctionsReport) &&
      decide (String.join (threeFunctionsSurvey.targets.map fun target =>
        (Batch.attemptOn anchors Settings.standard.roster threeFunctions target).complaint target) =
          "✗ a: Failed to read f/a/index.ts: stream did not contain valid UTF-8\n")) = true := by
    decide +kernel
  obtain ⟨anchors, hanchors, hbatch⟩ := (Option.any_eq_true _ _).1 hall
  simp only [Bool.and_eq_true, Bool.not_eq_true', decide_eq_true_eq] at hbatch
  obtain ⟨⟨⟨haborted, hstatuses⟩, hreports⟩, hcomplaints⟩ := hbatch
  have hprep : Prepares threeFunctions "f" none .standard anchors threeFunctionsSurvey :=
    ⟨discover_threeFunctions, toOption_eq_some hanchors, survey_threeFunctions⟩
  have hend : (execute threeFunctions ["run", "f", "--check"]).ending ≠ .abort := by
    rw [execute_run _ (toOption_eq_some hcheck), ending_ne_abort_iff hprep]
    exact haborted
  obtain ⟨modified, compliant, unmatched, errored, hmodified, hcompliant, hunmatched, herrored, -, hmodes, hchanged⟩ :=
    execute_accounts hprep (toOption_eq_some hcheck) hend
  rw [hstatuses] at hmodified hcompliant hunmatched herrored
  subst hmodified hcompliant hunmatched herrored
  obtain ⟨hout, herr, -⟩ := hmodes _ _ (toOption_eq_some hcheck)
  rw [hreports, String.append_assoc] at hout
  rw [hcomplaints] at herr
  exact ⟨hend, hout, herr, (hmodes _ _ (toOption_eq_some hdiff)).2.2, hchanged _ (toOption_eq_some hwrite)⟩

end HandlerMigration.Command
