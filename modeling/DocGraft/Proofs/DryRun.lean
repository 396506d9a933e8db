import DocGraft.Proofs.CompletionOrder
import DocGraft.Proofs.UnifiedDiff

/-!
# Dry runs

A dry run merges the jobs as a real run does and then writes nothing. Its reports are those of the
real run with a diff for each job that changes its text, as long as the real run can write what it
has to. The diff of such a job is never empty, so the diffs alone tell which files will be changed.
-/

namespace DocGraft

/-- The report without the diff that a dry run records. -/
def FileReport.withoutDiff (r : FileReport) : FileReport := { r with diff := .text "" }

namespace Job

variable {g : Merger} {runner : Runner} {t : Tree} {d : Direction} {dryRun : Bool} {j : Job}

def Merged.withoutDiff (m : Merged) : Merged := { m with report := m.report.withoutDiff }

lemma Made.withoutDiff_report (made : Made) (j : Job) (dryRun : Bool) :
    (made.report j dryRun).withoutDiff = made.report j false := by
  simp [FileReport.withoutDiff, report]

/-- A dry run makes no other difference to what a job gives than the diff. -/
lemma merge_false (g : Merger) (runner : Runner) (t : Tree) (d : Direction) (dryRun : Bool)
    (j : Job) :
    merge g runner t d false j = (merge g runner t d dryRun j).map Merged.withoutDiff := by
  unfold merge
  cases t.findFile j.transformed with
  | error e => rfl
  | ok found =>
    cases found with
    | false => rfl
    | true =>
      dsimp only
      cases make g runner t d j with
      | ok made => simp [Except.map, Merged.withoutDiff, made.withoutDiff_report]
      | error fault =>
        dsimp only
        cases fault.abort? with
        | some abort => rfl
        | none => rfl

/-- The merge of the two texts of the job, as they are read, is not the first of them. -/
def Changes (g : Merger) (runner : Runner) (t : Tree) (d : Direction) (j : Job) : Prop :=
  ∃ base transformed merged, t.readText j.base = .ok base ∧
    t.readText j.transformed = .ok transformed ∧
    g.merge runner d base transformed = .ok merged ∧ merged ≠ base

lemma changes_of_make {made : Made} (h : make g runner t d j = .ok made)
    (hne : made.merged ≠ made.base) : j.Changes g runner t d := by
  obtain ⟨transformed, hbase, htransformed, hmerge⟩ := exists_of_make h
  exact ⟨made.base, transformed, made.merged, hbase, htransformed, hmerge, hne⟩

lemma Changes.exists_make (h : j.Changes g runner t d) :
    ∃ made, make g runner t d j = .ok made ∧ made.merged ≠ made.base := by
  obtain ⟨base, transformed, merged, hbase, htransformed, hmerge, hne⟩ := h
  unfold Merger.merge at hmerge
  cases hplan : g.plan runner d base transformed with
  | error failure => simp [hplan, bind, Except.bind] at hmerge
  | ok plan =>
    have happly : g.apply runner plan = .ok merged := by
      rw [hplan] at hmerge
      exact hmerge
    refine ⟨⟨base, plan, merged⟩, ?_, hne⟩
    simp [make, texts, hbase, htransformed, hplan, happly, bind, Except.bind, pure, Except.pure]

lemma merge_of_make {made : Made} (h : make g runner t d j = .ok made) :
    merge g runner t d dryRun j = .ok ⟨made.report j dryRun, made.text j⟩ := by
  obtain ⟨transformed, -, htransformed, -⟩ := exists_of_make h
  rw [merge, Tree.findFile_of_readText htransformed, h]

lemma Made.status_report (made : Made) (j : Job) (dryRun : Bool) :
    (made.report j dryRun).status = .changed ↔ made.merged ≠ made.base := by
  by_cases hne : made.merged = made.base
  · simp [report, isChanged, hne]
  · simp [report, isChanged, hne]

lemma status_eq_changed_iff {m : Merged} (h : merge g runner t d dryRun j = .ok m) :
    m.report.status = .changed ↔ j.Changes g runner t d := by
  constructor
  · intro hstatus
    rcases merge_cases h with ⟨made, hmake, rfl⟩ | ⟨error, -, rfl⟩
    · exact changes_of_make hmake ((made.status_report j dryRun).mp hstatus)
    · simp [failed] at hstatus
  · intro hchanges
    obtain ⟨made, hmake, hne⟩ := hchanges.exists_make
    rw [merge_of_make hmake] at h
    rw [← Except.ok.inj h]
    exact (made.status_report j dryRun).mpr hne

/-- A dry run records a diff for exactly the jobs that change their texts. -/
lemma diff_ne_empty_iff {m : Merged} (h : merge g runner t d true j = .ok m) :
    m.report.diff ≠ .text "" ↔ m.report.status = .changed := by
  rcases merge_cases h with ⟨made, -, rfl⟩ | ⟨error, -, rfl⟩
  · rw [made.status_report]
    by_cases hne : made.merged = made.base
    · simp [Made.report, Made.isChanged, hne]
    · have hdiff := Diff.Unified.diff_ne_nil (Ne.symm hne) j.name.toList
      have htext : String.ofList (Diff.Unified.diff made.base made.merged j.name.toList) ≠ "" := by
        intro hempty
        apply hdiff
        rw [← String.toList_ofList (l := Diff.Unified.diff _ _ _), hempty, String.toList_empty]
      simp [Made.report, Made.isChanged, hne, htext]
  · simp [failed]

end Job

namespace Batch

variable {b : Batch} {runner : Runner} {tree t : Tree} {given : List (Job × Job.Merged)}

/-- The turns of all jobs are without a fault. -/
def WritesAll (b : Batch) (runner : Runner) (tree : Tree) : Prop :=
  b.faultsAfter tree (b.given (b.endings runner tree)) = []

/-- Turns without faults leave the reports as they are. -/
lemma filesAfter_of_faultsAfter (h : b.faultsAfter t given = []) :
    b.filesAfter t given = given.map fun pair => pair.2.report := by
  induction given generalizing t with
  | nil => rfl
  | cons pair rest ih =>
    rw [faultsAfter, List.append_eq_nil_iff, Option.toList_eq_nil_iff] at h
    rw [filesAfter, h.1, ih h.2]
    rfl

lemma turn_of_dry (hdry : b.dryRun = true) (t : Tree) (job : Job) (m : Job.Merged) :
    b.turn t job m = (t, none) := by
  rcases turn_cases b t job m with hturn | ⟨text, -, hwet, -⟩
  · exact hturn
  · rw [hdry] at hwet
    exact absurd hwet (by simp)

lemma treeAfter_of_dry (hdry : b.dryRun = true) (t : Tree) (given : List (Job × Job.Merged)) :
    b.treeAfter t given = t := by
  induction given with
  | nil => rfl
  | cons pair rest ih => rw [treeAfter, turn_of_dry hdry, ih]

lemma faultsAfter_of_dry (hdry : b.dryRun = true) (t : Tree) (given : List (Job × Job.Merged)) :
    b.faultsAfter t given = [] := by
  induction given with
  | nil => rfl
  | cons pair rest ih =>
    rw [faultsAfter, turn_of_dry hdry]
    exact ih

/-- A real run gives what a dry run does but for the diffs. -/
lemma result_real (b : Batch) (runner : Runner) (tree : Tree) (i : Nat) (job : Job) :
    (({ b with dryRun := false } : Batch).endings runner tree i job).result =
      (b.endings runner tree i job).result.map Job.Merged.withoutDiff :=
  Job.merge_false _ _ _ _ b.dryRun _

lemma given_real (b : Batch) (runner : Runner) (tree : Tree) :
    let real : Batch := { b with dryRun := false }
    real.given (real.endings runner tree) =
      (b.given (b.endings runner tree)).map fun pair => (pair.1, pair.2.withoutDiff) := by
  intro real
  rw [given, given, List.map_filterMap]
  apply List.filterMap_congr
  intro i _
  cases hjob : b.jobs[i]? with
  | none => simp [given?, resultAt, real, hjob]
  | some job =>
    have hreal := result_real b runner tree i job
    cases hresult : (b.endings runner tree i job).result with
    | error abort =>
      rw [hresult] at hreal
      simp [given?, resultAt, real, hjob, hresult, hreal, Except.map]
    | ok m =>
      rw [hresult] at hreal
      simp [given?, resultAt, real, hjob, hresult, hreal, Except.map]

lemma allReport_real : let real : Batch := { b with dryRun := false }
    real.AllReport (real.endings runner tree) ↔ b.AllReport (b.endings runner tree) := by
  intro real
  unfold AllReport
  refine forall₃_congr fun i job _ => ?_
  rw [result_real]
  cases (b.endings runner tree i job).result with
  | error abort => simp [Except.map]
  | ok m => simp [Except.map]

/-- Without faults, the reports of a run that no failure stops are those that the jobs give. -/
lemma CanEndIn.report_eq {ends : Endings} {outcome : Outcome} (h : b.CanEndIn ends tree outcome)
    (hslow : b.failFast = false) (hall : b.AllReport ends)
    (hwrites : b.faultsAfter tree (b.given ends) = []) :
    outcome.report = .ok ⟨.text b.direction.name, .bool b.dryRun,
      (b.given ends).map fun pair => pair.2.report⟩ := by
  rcases h.cases_of_slow hslow with
    ⟨i, job, abort, hjob, hresult, -⟩ | ⟨-, ⟨e, he, -⟩ | ⟨-, hreport, -⟩⟩
  · obtain ⟨m, hm⟩ := hall i job hjob
    rw [hm] at hresult
    simp at hresult
  · rw [hwrites] at he
    simp at he
  · rw [hreport, filesAfter_of_faultsAfter hwrites]

/-- A dry run predicts the real run, in whatever orders the jobs of both are completed. If all jobs
give reports and the real run can write its texts, its reports are those of the dry run without
their diffs; if a job gives none, both runs are without reports. The diffs of the dry run that are
not empty belong to the jobs with changed texts. -/
theorem dry_run_predicts_real_run (b : Batch) (runner : Runner) (tree : Tree)
    (hslow : b.failFast = false) :
    let dry : Batch := { b with dryRun := true }
    let real : Batch := { b with dryRun := false }
    (dry.AllReport (dry.endings runner tree) → ∃ files : List FileReport,
      (∀ outcome, dry.CanEndIn (dry.endings runner tree) tree outcome →
        outcome.report = .ok ⟨.text b.direction.name, .bool true, files⟩) ∧
      (real.WritesAll runner tree →
        ∀ outcome, real.CanEndIn (real.endings runner tree) tree outcome →
        outcome.report =
          .ok ⟨.text b.direction.name, .bool false, files.map FileReport.withoutDiff⟩) ∧
      files.length = b.size ∧
      ∀ (i : Nat) job file, b.jobs[i]? = some job → files[i]? = some file →
        (file.diff ≠ .text "" ↔ file.status = .changed) ∧
        (file.status = .changed ↔ job.Changes b.merger runner tree b.direction)) ∧
    (¬ dry.AllReport (dry.endings runner tree) → ∀ outcome,
      dry.CanEndIn (dry.endings runner tree) tree outcome ∨
        real.CanEndIn (real.endings runner tree) tree outcome →
      ∃ abort, outcome.report = .error (.job abort)) := by
  intro dry real
  have hreal : real.given (real.endings runner tree) =
      (dry.given (dry.endings runner tree)).map fun pair => (pair.1, pair.2.withoutDiff) :=
    given_real dry runner tree
  refine ⟨fun hall => ?_, fun hnone outcome houtcome => ?_⟩
  · refine ⟨(dry.given (dry.endings runner tree)).map fun pair => pair.2.report, ?_, ?_, ?_, ?_⟩
    · intro outcome houtcome
      exact houtcome.report_eq hslow hall (faultsAfter_of_dry rfl _ _)
    · intro hwrites outcome houtcome
      have hreport := houtcome.report_eq hslow ((allReport_real (b := dry)).mpr hall) hwrites
      rw [hreport, hreal, List.map_map, List.map_map]
      rfl
    · rw [List.length_map]
      exact hall.length_given
    · intro i job file hjob hfile
      obtain ⟨m, hm, hgiven⟩ := hall.exists_given hjob
      rw [List.getElem?_map, hgiven] at hfile
      rw [← Option.some.inj hfile]
      exact ⟨Job.diff_ne_empty_iff hm, Job.status_eq_changed_iff hm⟩
  · rcases houtcome with hdry | hreal
    · exact (hdry.of_not_allReport hslow hnone).1
    · exact (hreal.of_not_allReport hslow fun hall => hnone ((allReport_real (b := dry)).mp hall)).1

/-- Of two jobs the first changes its file in place, and the second has no transformed file. -/
theorem dry_run_predicts_real_run_of_two :
    let tree : Tree :=
      { files := [(["o", "a.rs"], Utf8.encode "/// A.\r\nfn a() {}\r\n".toList),
          (["o", "b.rs"], Utf8.encode "/// B.\nfn b() {}\n".toList),
          (["t", "a.rs"], Utf8.encode "#[omnidoc]\nfn a() {}\n".toList)] }
    let job (name : String) : Job := ⟨⟨.here, ["o", name]⟩, ⟨.here, ["t", name]⟩,
      ⟨.here, ["o", name]⟩, name⟩
    let b : Batch := ⟨[job "a.rs", job "b.rs"], {}, .migrate, false, false⟩
    let dry : Batch := { b with dryRun := true }
    b.failFast = false ∧ dry.AllReport (dry.endings Formatter.echo tree) ∧
      b.WritesAll Formatter.echo tree ∧
      ∃ first second : FileReport,
        (dry.run Formatter.echo tree (.int 4)).report =
          .ok ⟨.text "migrate", .bool true, [first, second]⟩ ∧
        (b.run Formatter.echo tree (.int 4)).report =
          .ok ⟨.text "migrate", .bool false, [first.withoutDiff, second.withoutDiff]⟩ ∧
        (first.diff ≠ .text "" ↔ first.status = .changed) ∧
        (first.status = .changed ↔ (job "a.rs").Changes {} Formatter.echo tree .migrate) := by
  intro tree job b dry
  have hall : dry.AllReport (dry.endings Formatter.echo tree) :=
    allReport_of_isAddressable rfl (by decide +kernel) Formatter.echo
  have hwrites : b.WritesAll Formatter.echo tree := by
    unfold WritesAll
    decide +kernel
  obtain ⟨files, hdry, hreal, hlength, hfiles⟩ :=
    (dry_run_predicts_real_run b Formatter.echo tree rfl).1 hall
  obtain ⟨first, second, rfl⟩ := List.length_eq_two.mp hlength
  refine ⟨rfl, hall, hwrites, first, second, ?_, ?_, hfiles 0 (job "a.rs") first rfl rfl⟩
  · exact hdry _ (canEndIn_run dry Formatter.echo tree (.int 4) rfl)
  · exact hreal hwrites _ (canEndIn_run b Formatter.echo tree (.int 4) rfl)

end Batch

end DocGraft
