import HandlerMigration.Command.Execute
import HandlerMigration.Proofs.Splice
import Mathlib.Data.List.Nodup
import Mathlib.Data.List.Sort

/-!
# What the program writes

The program writes a file only if it is the handler of a function that is not excluded and its migration
has changed it, and it writes what the migration left. If it is not broken off it writes all of these
(`execute_writes`).

The handlers of a survey lie at different routes, so that none of them has a share in what becomes of
another: a file is as it was when the batch comes to its handler (`bytes?_foldl_of_forall_ne`), and the
handlers behind it leave it alone.
-/

namespace HandlerMigration

/-! ### Files of a tree -/

namespace Tree

variable {t : Tree} {route other : Route} {bytes : ByteArray}

theorem bytes?_write_of_ne (h : other ≠ route) : (t.write route bytes).bytes? other = t.bytes? other := by
  unfold bytes? write
  induction t.files with
  | nil => rfl
  | cons file files ih =>
    obtain ⟨place, content⟩ := file
    rw [List.map_cons]
    by_cases hplace : place = route
    · have hother : (other == place) = false := by simpa [hplace] using h
      rw [if_pos hplace, List.lookup_cons, List.lookup_cons, hother]
      exact ih
    · rw [if_neg hplace, List.lookup_cons, List.lookup_cons]
      cases other == place
      · exact ih
      · rfl

theorem bytes?_write_self {old : ByteArray} (h : t.bytes? route = some old) :
    (t.write route bytes).bytes? route = some bytes := by
  unfold bytes? at h
  unfold bytes? write
  revert h
  induction t.files with
  | nil => intro h; cases h
  | cons file files ih =>
    obtain ⟨place, content⟩ := file
    intro h
    rw [List.map_cons]
    by_cases hplace : place = route
    · simp [hplace]
    · have hroute : (route == place) = false := by simpa using Ne.symm hplace
      rw [List.lookup_cons, hroute] at h
      rw [if_neg hplace, List.lookup_cons, hroute]
      exact ih h

end Tree

/-! ### Handlers of a survey -/

namespace Survey

theorem nodup_eraseDups {α : Type} [BEq α] [LawfulBEq α] (names : List α) : names.eraseDups.Nodup := by
  induction hn : names.length using Nat.strongRecOn generalizing names with
  | ind n ih =>
    cases names with
    | nil => simp
    | cons a names =>
      rw [List.eraseDups_cons, List.nodup_cons]
      refine ⟨fun h => ?_, ih _ ?_ _ rfl⟩
      · simp [List.mem_eraseDups] at h
      · have := List.length_filter_le (fun b => !b == a) names
        rw [List.length_cons] at hn
        omega

variable {d : Disk} {path handlerFile : String} {roster : Roster} {survey : Survey}

theorem nodup_functions (d : Disk) (directory : Route) (handlerFile : String) :
    (functions d directory handlerFile).Nodup :=
  (List.mergeSort_perm _ _).nodup_iff.2 ((nodup_eraseDups _).filter _)

theorem ofDirectory_eq_ok (h : ofDirectory d path handlerFile roster = .ok survey) :
    ∃ root, d.route path = .ok root ∧
      survey.targets = ((functions d root handlerFile).filter fun name => !roster.isExcluded name).map fun name =>
        ⟨name, Path.join (Path.join path name) handlerFile, root ++ [name, handlerFile]⟩ := by
  unfold ofDirectory at h
  split at h
  · cases h
  · next root hroot =>
    split_ifs at h
    split at h
    · cases h
    · cases h
      exact ⟨root, hroot, rfl⟩

theorem mem_targets (h : ofDirectory d path handlerFile roster = .ok survey) {target : Target}
    (htarget : target ∈ survey.targets) :
    ∃ root, d.route path = .ok root ∧ target.route = root ++ [target.name, handlerFile] ∧
      roster.isExcluded target.name = false := by
  obtain ⟨root, hroot, htargets⟩ := ofDirectory_eq_ok h
  rw [htargets] at htarget
  obtain ⟨name, hname, rfl⟩ := List.mem_map.1 htarget
  exact ⟨root, hroot, rfl, by simpa using (List.mem_filter.1 hname).2⟩

theorem nodup_routes (h : ofDirectory d path handlerFile roster = .ok survey) :
    (survey.targets.map Target.route).Nodup := by
  obtain ⟨root, -, htargets⟩ := ofDirectory_eq_ok h
  rw [htargets, List.map_map]
  refine ((nodup_functions d root handlerFile).filter _).map fun name name' hroutes => ?_
  simpa using hroutes

end Survey

namespace Command

/-! ### One handler -/

/-- `new` is what a migration makes of the file at `route`: the file is a text, the migration has a result,
and the result differs from the text. -/
def Migrates (t : Tree) (ctx : Context) (route : Route) (new : ByteArray) : Prop :=
  ∃ old text result, t.bytes? route = some old ∧ String.fromUTF8? old = some text ∧
    Migration.run Migration.Step.standard ctx text.toList = .ok result ∧ result.changed = true ∧
    new = (String.ofList result.text).toUTF8

namespace Migrates

variable {t t' : Tree} {ctx : Context} {route : Route} {new new' : ByteArray}

theorem unique (h : Migrates t ctx route new) (h' : Migrates t ctx route new') : new = new' := by
  obtain ⟨old, text, result, hold, htext, hrun, -, rfl⟩ := h
  obtain ⟨old', text', result', hold', htext', hrun', -, rfl⟩ := h'
  cases hold.symm.trans hold'
  cases htext.symm.trans htext'
  cases hrun.symm.trans hrun'
  rfl

theorem exists_run (h : Migrates t ctx route new) {old : ByteArray} {text : String} (hold : t.bytes? route = some old)
    (htext : String.fromUTF8? old = some text) :
    ∃ result, Migration.run Migration.Step.standard ctx text.toList = .ok result ∧ result.changed = true := by
  obtain ⟨old', text', result, hold', htext', hrun, hchanged, -⟩ := h
  cases hold.symm.trans hold'
  cases htext.symm.trans htext'
  exact ⟨result, hrun, hchanged⟩

theorem congr (hbytes : t.bytes? route = t'.bytes? route) (h : Migrates t ctx route new) :
    Migrates t' ctx route new := by
  obtain ⟨old, text, result, hold, h⟩ := h
  exact ⟨old, text, result, hbytes ▸ hold, h⟩

theorem bytes?_write (h : Migrates t ctx route new) : (t.write route new).bytes? route = some new := by
  obtain ⟨old, -, -, hold, -⟩ := h
  exact Tree.bytes?_write_self hold

end Migrates

/-- What comes of one handler: its migration has changed it, or there is nothing to write. -/
theorem attempt_cases (d : Disk) (ctx : Context) (target : Target) :
    (∃ old result, attempt d ctx target = .migrated old result ∧ result.changed = true ∧
      Migrates d.tree ctx target.route (String.ofList result.text).toUTF8) ∨
    (∀ new, ¬ Migrates d.tree ctx target.route new) ∧
      ∀ old result, attempt d ctx target = .migrated old result → result.changed = false := by
  unfold attempt Disk.readRoute
  cases hold : d.tree.bytes? target.route with
  | none =>
    refine .inr ⟨?_, by simp⟩
    rintro new ⟨old, text, result, hold', -⟩
    cases hold.symm.trans hold'
  | some old =>
    simp only
    cases htext : String.fromUTF8? old with
    | none =>
      refine .inr ⟨?_, by simp⟩
      rintro new ⟨old', text, result, hold', htext', -⟩
      cases hold.symm.trans hold'
      cases htext.symm.trans htext'
    | some text =>
      simp only
      cases hrun : Migration.run Migration.Step.standard ctx text.toList with
      | error failure =>
        refine .inr ⟨fun new hnew => ?_, fun _ _ h => ?_⟩
        · obtain ⟨result, hrun', -⟩ := hnew.exists_run hold htext
          cases hrun.symm.trans hrun'
        · simp only at h
          split_ifs at h
      | ok result =>
        cases hchanged : result.changed with
        | true => exact .inl ⟨_, result, rfl, hchanged, old, text, result, hold, htext, hrun, hchanged, rfl⟩
        | false =>
          refine .inr ⟨fun new hnew => ?_, fun _ _ h => ?_⟩
          · obtain ⟨result', hrun', hchanged'⟩ := hnew.exists_run hold htext
            cases hrun.symm.trans hrun'
            cases hchanged.symm.trans hchanged'
          · cases h
            exact hchanged

/-! ### A batch -/

namespace Batch

variable {mode : Mode} {anchors : Anchors} {roster : Roster} {b : Batch} {target : Target} {targets : List Target}
  {route : Route}

/-- What a migration of the handler knows about it. -/
def contextOf (anchors : Anchors) (roster : Roster) (target : Target) : Context :=
  ⟨target.name, roster.resolve target.name, anchors⟩

theorem step_disk (hmode : mode ≠ .write) : (step mode anchors roster b target).disk = b.disk := by
  unfold step
  split_ifs
  · rfl
  · simp only
    split
    · rfl
    · rfl
    · split_ifs
      · cases mode with
        | write => exact absurd rfl hmode
        | check => rfl
        | diff => rfl
      · rfl

theorem run_disk (hmode : mode ≠ .write) (d : Disk) (survey : Survey) :
    (run mode anchors roster d survey).disk = d := by
  unfold run
  generalize hstart : Batch.mk d "" "" (.start survey.excluded.length) false = start
  have hdisk : start.disk = d := by rw [← hstart]
  clear hstart
  induction survey.targets generalizing start with
  | nil => exact hdisk
  | cons target targets ih => exact ih _ ((step_disk hmode).trans hdisk)

theorem aborted_step (h : b.aborted = true) : step mode anchors roster b target = b := by
  rw [step, if_pos h]

theorem aborted_foldl (h : b.aborted = true) : targets.foldl (step mode anchors roster) b = b := by
  induction targets with
  | nil => rfl
  | cons target targets ih => rw [List.foldl_cons, aborted_step h, ih]

theorem step_tree_cases (anchors : Anchors) (roster : Roster) (b : Batch) (target : Target) :
    (∃ new, Migrates b.disk.tree (contextOf anchors roster target) target.route new ∧
      (step .write anchors roster b target).disk.tree = b.disk.tree.write target.route new) ∨
    (step .write anchors roster b target).disk.tree = b.disk.tree ∧
      (b.aborted = true ∨ ∀ new, ¬ Migrates b.disk.tree (contextOf anchors roster target) target.route new) := by
  by_cases haborted : b.aborted = true
  · exact .inr ⟨by rw [aborted_step haborted], .inl haborted⟩
  · unfold step
    rw [if_neg haborted]
    rcases attempt_cases b.disk (contextOf anchors roster target) target with
      ⟨old, result, hattempt, hchanged, hnew⟩ | ⟨hnone, hsame⟩
    · refine .inl ⟨_, hnew, ?_⟩
      unfold contextOf at hattempt
      simp only [hattempt, hchanged, ↓reduceIte]
      rfl
    · refine .inr ⟨?_, .inr hnone⟩
      unfold contextOf at hsame
      simp only
      split
      · rfl
      · rfl
      · next old result hattempt =>
        rw [hsame old result hattempt]
        rfl

theorem bytes?_step_of_ne (h : route ≠ target.route) :
    (step .write anchors roster b target).disk.tree.bytes? route = b.disk.tree.bytes? route := by
  rcases step_tree_cases anchors roster b target with ⟨new, -, htree⟩ | ⟨htree, -⟩
  · rw [htree, Tree.bytes?_write_of_ne h]
  · rw [htree]

/-- A batch leaves the files of all others alone. -/
theorem bytes?_foldl_of_forall_ne (h : ∀ target ∈ targets, route ≠ target.route) :
    (targets.foldl (step .write anchors roster) b).disk.tree.bytes? route = b.disk.tree.bytes? route := by
  induction targets generalizing b with
  | nil => rfl
  | cons target targets ih =>
    obtain ⟨htarget, htargets⟩ := List.forall_mem_cons.1 h
    rw [List.foldl_cons, ih htargets, bytes?_step_of_ne htarget]

/-- What becomes of the file of a handler, whatever the others are: it is written, or it stays and there was
nothing to write or the batch was broken off. -/
theorem bytes?_run_cases (anchors : Anchors) (roster : Roster) (d : Disk) {survey : Survey}
    (hroutes : (survey.targets.map Target.route).Nodup) (htarget : target ∈ survey.targets) :
    (∃ new, Migrates d.tree (contextOf anchors roster target) target.route new ∧
      (run .write anchors roster d survey).disk.tree.bytes? target.route = some new) ∨
    (run .write anchors roster d survey).disk.tree.bytes? target.route = d.tree.bytes? target.route ∧
      ((run .write anchors roster d survey).aborted = true ∨
        ∀ new, ¬ Migrates d.tree (contextOf anchors roster target) target.route new) := by
  obtain ⟨before, after, htargets⟩ := List.append_of_mem htarget
  rw [htargets, List.map_append, List.map_cons] at hroutes
  have hbefore : ∀ other ∈ before, target.route ≠ other.route := by
    intro other hother heq
    exact (List.nodup_append.1 hroutes).2.2 _ (List.mem_map_of_mem hother) _ List.mem_cons_self heq.symm
  have hafter : ∀ other ∈ after, target.route ≠ other.route := by
    intro other hother heq
    exact (List.nodup_cons.1 (List.nodup_append.1 hroutes).2.1).1 (heq ▸ List.mem_map_of_mem hother)
  unfold run
  rw [htargets, List.foldl_append, List.foldl_cons, bytes?_foldl_of_forall_ne hafter]
  -- the handlers in front of this one have left its file as it was
  have hsame : (before.foldl (step .write anchors roster)
      ⟨d, "", "", .start survey.excluded.length, false⟩).disk.tree.bytes? target.route = d.tree.bytes? target.route :=
    bytes?_foldl_of_forall_ne hbefore
  generalize before.foldl (step .write anchors roster) ⟨d, "", "", .start survey.excluded.length, false⟩ = b at hsame ⊢
  rcases step_tree_cases anchors roster b target with ⟨new, hnew, htree⟩ | ⟨htree, hnone⟩
  · exact .inl ⟨new, hnew.congr hsame, by rw [htree]; exact hnew.bytes?_write⟩
  · refine .inr ⟨by rw [htree, hsame], ?_⟩
    rcases hnone with haborted | hnone
    · rw [aborted_step haborted, aborted_foldl haborted]
      exact .inl haborted
    · exact .inr fun new hnew => hnone new (hnew.congr hsame.symm)

end Batch

/-! ### The program -/

/-- What a run over a directory starts from. -/
structure Prepares (d : Disk) (directory : String) (config : Option String) (s : Settings) (anchors : Anchors)
    (survey : Survey) : Prop where
  settings : Settings.discover d config directory = .ok s
  anchors : s.anchors = .ok anchors
  survey : Survey.ofDirectory d directory s.handlerFile s.roster = .ok survey

variable {d : Disk} {directory : String} {config : Option String} {mode : Mode}

theorem Prepares.unique {s s' : Settings} {anchors anchors' : Anchors} {survey survey' : Survey}
    (h : Prepares d directory config s anchors survey) (h' : Prepares d directory config s' anchors' survey') :
    s = s' ∧ anchors = anchors' ∧ survey = survey' := by
  cases h.settings.symm.trans h'.settings
  cases h.anchors.symm.trans h'.anchors
  cases h.survey.symm.trans h'.survey
  exact ⟨rfl, rfl, rfl⟩

theorem executeRun_cases (d : Disk) (directory : String) (config : Option String) (mode : Mode) :
    (executeRun d directory config mode).disk = d ∧
      (∀ s anchors survey, ¬ Prepares d directory config s anchors survey) ∨
    ∃ s anchors survey, Prepares d directory config s anchors survey ∧
      (executeRun d directory config mode).disk = (Batch.run mode anchors s.roster d survey).disk ∧
      ((executeRun d directory config mode).ending = .abort ↔
        (Batch.run mode anchors s.roster d survey).aborted = true) := by
  unfold executeRun withSettings
  cases hsettings : Settings.discover d config directory with
  | error e =>
    refine .inl ⟨rfl, fun s anchors survey h => ?_⟩
    cases hsettings.symm.trans h.settings
  | ok s =>
    simp only
    cases hanchors : s.anchors with
    | error e =>
      refine .inl ⟨rfl, fun s' anchors survey h => ?_⟩
      cases hsettings.symm.trans h.settings
      cases hanchors.symm.trans h.anchors
    | ok anchors =>
      simp only [withSurvey]
      cases hsurvey : Survey.ofDirectory d directory s.handlerFile s.roster with
      | error e =>
        refine .inl ⟨rfl, fun s' anchors' survey h => ?_⟩
        cases hsettings.symm.trans h.settings
        cases hsurvey.symm.trans h.survey
      | ok survey =>
        refine .inr ⟨s, anchors, survey, ⟨hsettings, hanchors, hsurvey⟩, ?_⟩
        simp only
        cases haborted : (Batch.run mode anchors s.roster d survey).aborted with
        | true => simp
        | false =>
          cases Summary.failure? (Batch.run mode anchors s.roster d survey).summary mode <;> simp

theorem executeList_disk (d : Disk) (directory : String) (config : Option String) :
    (executeList d directory config).disk = d := by
  unfold executeList withSettings
  split
  · rfl
  · simp only [withSurvey]
    split <;> rfl

theorem execute_disk_of_ne_write (d : Disk) (arguments : List String)
    (h : ∀ directory config, Request.ofArguments arguments ≠ .ok (.run directory config .write)) :
    (execute d arguments).disk = d := by
  unfold execute
  split
  · rfl
  · next directory config mode hrequest =>
    have hmode : mode ≠ .write := by
      rintro rfl
      exact h directory config hrequest
    rcases executeRun_cases d directory config mode with ⟨hdisk, -⟩ | ⟨s, anchors, survey, -, hdisk, -⟩
    · exact hdisk
    · rw [hdisk, Batch.run_disk hmode]
  · exact executeList_disk d _ _
  · rfl
  · rfl

theorem execute_run {arguments : List String} (d : Disk)
    (h : Request.ofArguments arguments = .ok (.run directory config mode)) :
    execute d arguments = executeRun d directory config mode := by
  unfold execute
  rw [h]

/-- The program writes nothing unless it is asked to run and neither to check nor to show differences. Then
the only files with new bytes are handlers that their migration has changed, and the new bytes are those of
the migrated text. Unless the program gives up inside a handler every such handler is written. -/
theorem execute_writes (d : Disk) (arguments : List String) :
    ((∀ directory config, Request.ofArguments arguments ≠ .ok (.run directory config .write)) →
      (execute d arguments).disk = d) ∧
    ∀ directory config, Request.ofArguments arguments = .ok (.run directory config .write) →
      (∀ route, (execute d arguments).disk.tree.bytes? route ≠ d.tree.bytes? route →
        ∃ s anchors survey root name new, Prepares d directory config s anchors survey ∧
          d.route directory = .ok root ∧ route = root ++ [name, s.handlerFile] ∧ s.roster.isExcluded name = false ∧
          Migrates d.tree ⟨name, s.roster.resolve name, anchors⟩ route new ∧
          (execute d arguments).disk.tree.bytes? route = some new) ∧
      ((execute d arguments).ending ≠ .abort →
        ∀ s anchors survey, Prepares d directory config s anchors survey → ∀ target ∈ survey.targets,
          ∀ new, Migrates d.tree ⟨target.name, s.roster.resolve target.name, anchors⟩ target.route new →
            (execute d arguments).disk.tree.bytes? target.route = some new) := by
  refine ⟨execute_disk_of_ne_write d arguments, fun directory config hrequest => ?_⟩
  rw [execute_run d hrequest]
  rcases executeRun_cases d directory config .write with ⟨hdisk, hnone⟩ | ⟨s, anchors, survey, hprep, hdisk, hend⟩
  · refine ⟨fun route hne => absurd (by rw [hdisk]) hne, fun _ s anchors survey hprep => ?_⟩
    exact absurd hprep (hnone s anchors survey)
  · have hroutes := Survey.nodup_routes hprep.survey
    rw [hdisk]
    refine ⟨fun route hne => ?_, fun hending s' anchors' survey' hprep' target htarget new hnew => ?_⟩
    · obtain ⟨target, htarget, rfl⟩ : ∃ target ∈ survey.targets, route = target.route := by
        by_contra hother
        refine hne (Batch.bytes?_foldl_of_forall_ne fun target htarget heq => ?_)
        exact hother ⟨target, htarget, heq⟩
      obtain ⟨root, hroot, hroute, hexcluded⟩ := Survey.mem_targets hprep.survey htarget
      rcases Batch.bytes?_run_cases anchors s.roster d hroutes htarget with
        ⟨new, hnew, hbytes⟩ | ⟨hsame, -⟩
      · exact ⟨s, anchors, survey, root, target.name, new, hprep, hroot, hroute, hexcluded, hnew, hbytes⟩
      · exact absurd hsame hne
    · obtain ⟨rfl, rfl, rfl⟩ := hprep.unique hprep'
      rcases Batch.bytes?_run_cases anchors s.roster d hroutes htarget with
        ⟨new', hnew', hbytes⟩ | ⟨-, haborted | hnone⟩
      · rw [hbytes, hnew'.unique hnew]
      · exact absurd (hend.2 haborted) hending
      · exact absurd hnew (hnone new)

/-- A function that is excluded, one whose handler is no text, and one whose handler is migrated. -/
def threeFunctions : Disk where
  tree := {
    files := [(["f", "_shared", "index.ts"], "serve(async(req)=>\x7b\n\x7d".toUTF8), (["f", "a", "index.ts"], ⟨#[255]⟩),
      (["f", "b", "index.ts"], "serve(async(req)=>\x7b\n\x7d".toUTF8)]
    directories := [] }
  location := ""
  workingDirectory := []

def threeFunctionsSurvey : Survey where
  targets := [⟨"a", "f/a/index.ts", ["f", "a", "index.ts"]⟩, ⟨"b", "f/b/index.ts", ["f", "b", "index.ts"]⟩]
  excluded := ["_shared"]

theorem route_threeFunctions : threeFunctions.route "f" = .ok ["f"] := by
  have hsplit : "f".splitOn "/" = ["f"] := by
    -- the recursion along the text is well-founded, so its two steps are unfolded by hand
    rw [String.splitOn, if_neg (by decide), String.splitOnAux, if_neg (by decide), if_neg (by decide),
      String.splitOnAux, if_pos (by decide)]
    rfl
  rw [Disk.route, if_neg (by decide), if_pos (by decide +kernel), hsplit]
  rfl

theorem survey_threeFunctions :
    Survey.ofDirectory threeFunctions "f" "index.ts" .standard = .ok threeFunctionsSurvey := by
  have hfilter : (threeFunctions.tree.entries ["f"]).filter (fun name =>
      threeFunctions.tree.isDirectory (["f"] ++ [name]) && !Ignore.isIgnored threeFunctions (["f"] ++ [name]) &&
      threeFunctions.tree.isFile (["f"] ++ [name, "index.ts"]) &&
      !Ignore.isIgnored threeFunctions (["f"] ++ [name, "index.ts"])) = ["_shared", "a", "b"] := by decide +kernel
  have hfunctions : Survey.functions threeFunctions ["f"] "index.ts" = ["_shared", "a", "b"] := by
    unfold Survey.functions
    simp only
    rw [hfilter]
    exact List.mergeSort_of_pairwise (by decide +kernel)
  unfold Survey.ofDirectory
  rw [route_threeFunctions]
  simp only [hfunctions]
  exact toOption_eq_some (by decide +kernel)

theorem discover_threeFunctions : Settings.discover threeFunctions none "f" = .ok .standard := by
  unfold Settings.discover Settings.besideRoute
  rw [if_neg (by decide), route_threeFunctions]
  rfl

set_option maxRecDepth 20000 in
/-- The handler of the first function is no text. The other one is written, and listing writes nothing. -/
theorem execute_writes_threeFunctions :
    (execute threeFunctions ["list", "f"]).disk = threeFunctions ∧
    (∃ s anchors survey root name new, Prepares threeFunctions "f" none s anchors survey ∧
      threeFunctions.route "f" = .ok root ∧ ["f", "b", "index.ts"] = root ++ [name, s.handlerFile] ∧
      s.roster.isExcluded name = false ∧
      Migrates threeFunctions.tree ⟨name, s.roster.resolve name, anchors⟩ ["f", "b", "index.ts"] new ∧
      (execute threeFunctions ["run", "f"]).disk.tree.bytes? ["f", "b", "index.ts"] = some new) ∧
    ∃ anchors new, Prepares threeFunctions "f" none .standard anchors threeFunctionsSurvey ∧
      Migrates threeFunctions.tree ⟨"b", .plainAuth, anchors⟩ ["f", "b", "index.ts"] new ∧
      (execute threeFunctions ["run", "f"]).ending ≠ .abort ∧
      (execute threeFunctions ["run", "f"]).disk.tree.bytes? ["f", "b", "index.ts"] = some new := by
  have hlist : Request.ofArguments ["list", "f"] = .ok (.list "f" none) := toOption_eq_some (by decide +kernel)
  have hrun : Request.ofArguments ["run", "f"] = .ok (.run "f" none .write) := toOption_eq_some (by decide +kernel)
  have hall : (Settings.standard.anchors.toOption.any fun anchors =>
      !(Batch.run .write anchors Settings.standard.roster threeFunctions threeFunctionsSurvey).aborted &&
      (Migration.run Migration.Step.standard ⟨"b", .plainAuth, anchors⟩
        "serve(async(req)=>\x7b\n\x7d".toList).toOption.any fun result => result.changed &&
          decide ((String.ofList result.text).toUTF8 ≠ "serve(async(req)=>\x7b\n\x7d".toUTF8)) = true := by
    decide +kernel
  obtain ⟨anchors, hanchors, hall⟩ := (Option.any_eq_true _ _).1 hall
  obtain ⟨haborted, hall⟩ := Bool.and_eq_true_iff.1 hall
  obtain ⟨result, hresult, hall⟩ := (Option.any_eq_true _ _).1 hall
  obtain ⟨hchanged, hnew⟩ := Bool.and_eq_true_iff.1 hall
  have hprep : Prepares threeFunctions "f" none .standard anchors threeFunctionsSurvey :=
    ⟨discover_threeFunctions, toOption_eq_some hanchors, survey_threeFunctions⟩
  have hmigrates : Migrates threeFunctions.tree ⟨"b", .plainAuth, anchors⟩ ["f", "b", "index.ts"]
      (String.ofList result.text).toUTF8 :=
    ⟨_, _, result, rfl, by decide +kernel, toOption_eq_some hresult, hchanged, rfl⟩
  have hending : (execute threeFunctions ["run", "f"]).ending ≠ .abort := by
    rw [execute_run _ hrun]
    rcases executeRun_cases threeFunctions "f" none .write with ⟨-, hnone⟩ | ⟨s, anchors', survey, hprep', -, hend⟩
    · exact absurd hprep (hnone _ _ _)
    · obtain ⟨rfl, rfl, rfl⟩ := hprep.unique hprep'
      rw [ne_eq, hend]
      simpa using haborted
  have hwritten := ((execute_writes threeFunctions ["run", "f"]).2 "f" none hrun).2 hending _ _ _ hprep
    ⟨"b", "f/b/index.ts", ["f", "b", "index.ts"]⟩ (by decide) _ hmigrates
  refine ⟨(execute_writes threeFunctions ["list", "f"]).1 fun _ _ h => ?_,
    ((execute_writes threeFunctions ["run", "f"]).2 "f" none hrun).1 _ fun h => ?_, anchors, _, hprep, hmigrates,
    hending, hwritten⟩
  · cases hlist.symm.trans h
  · rw [hwritten] at h
    exact of_decide_eq_true hnew (Option.some.inj h)

end Command

end HandlerMigration
