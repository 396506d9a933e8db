import DocGraft.Proofs.BatchWriting
import DocGraft.Proofs.PoolRuns

/-!
# The order of completion

Where failures do not stop a batch, its result does not depend on the order in which its jobs are
completed: each job is merged on the first tree alone, and then the jobs take turns to write in
their own order. The run has a report as long as every job can be asked for. A transformed path that
is too long to be looked for takes the reports of all jobs with it.
-/

namespace DocGraft

/-- The paths of the job can be asked for: they hold no null characters, and it can be told whether
there is a transformed file. -/
structure Job.IsAddressable (t : Tree) (j : Job) : Prop where
  transformed : t.place j.transformed ≠ .error .nameTooLong
  base : ¬ j.base.HasNull
  output : ¬ j.output.HasNull

namespace Job

variable {g : Merger} {runner : Runner} {t : Tree} {d : Direction} {dryRun : Bool} {j : Job}

instance (t : Tree) (j : Job) : Decidable (j.IsAddressable t) :=
  decidable_of_iff (t.place j.transformed ≠ .error .nameTooLong ∧ ¬ j.base.HasNull ∧
    ¬ j.output.HasNull) ⟨fun h => ⟨h.1, h.2.1, h.2.2⟩, fun h => ⟨h.transformed, h.base, h.output⟩⟩

lemma merge_of_nameTooLong (h : t.place j.transformed = .error .nameTooLong) :
    merge g runner t d dryRun j = .error (.file ⟨.nameTooLong, j.transformed⟩) := by
  have hfind : t.findFile j.transformed = .error ⟨.nameTooLong, j.transformed⟩ :=
    Tree.find_eq_error_iff.mpr ⟨h, rfl⟩
  rw [merge, hfind]

lemma IsAddressable.exists_merge (hname : g.macroIsText = true) (h : j.IsAddressable t)
    (runner : Runner) (d : Direction) (dryRun : Bool) :
    ∃ m, merge g runner t d dryRun j = .ok m := by
  unfold merge
  cases hfind : t.findFile j.transformed with
  | error e => exact absurd (Tree.find_eq_error_iff.mp hfind).1 h.transformed
  | ok found =>
    cases found with
    | false => exact ⟨_, rfl⟩
    | true =>
      dsimp only
      cases hmake : make g runner t d j with
      | ok made => exact ⟨_, rfl⟩
      | error fault =>
        cases habort : fault.abort? with
        | none =>
          simp only [habort]
          exact ⟨_, rfl⟩
        | some abort =>
          -- what ends a batch here is a null character in one of the two paths that are read
          obtain ⟨e, he, htexts⟩ := exists_of_make_abort hname hmake habort
          rcases error_of_bind htexts with hbase | ⟨base, -, htexts⟩
          · exact absurd (Tree.hasNull_of_readText hbase he) h.base
          · rcases error_of_bind htexts with htransformed | ⟨transformed, -, htexts⟩
            · exact absurd (Tree.hasNull_of_readText htransformed he)
                (Tree.not_hasNull_of_findFile hfind)
            · simp [pure, Except.pure] at htexts

end Job

lemma getElem?_filterMap_of_isSome {α β : Type} {f : α → Option β} {xs : List α}
    (h : ∀ x ∈ xs, (f x).isSome = true) (i : Nat) : (xs.filterMap f)[i]? = xs[i]?.bind f := by
  induction xs generalizing i with
  | nil => simp
  | cons x rest ih =>
    obtain ⟨y, hy⟩ := Option.isSome_iff_exists.mp (h x List.mem_cons_self)
    rw [List.filterMap_cons_some hy]
    cases i with
    | zero => simp [hy]
    | succ i => exact ih (fun z hz => h z (List.mem_cons_of_mem x hz)) i

namespace Batch

variable {b : Batch} {ends : Endings} {runner : Runner} {tree : Tree} {pool : Pool}
  {actions : List Pool.Action}

/-- All jobs, in their order, with what they give. -/
def given (b : Batch) (ends : Endings) : List (Job × Job.Merged) :=
  (List.range b.size).filterMap (b.given? ends)

/-- Every job has its turn in the order of the jobs: it is merged on the first tree alone, and what
it gives is settled on the tree that the turns before it left. -/
structure TakesTurns (b : Batch) (runner : Runner) (tree : Tree) (trees : Nat → Tree)
    (files : List FileReport) : Prop where
  first : trees 0 = tree
  length_eq : files.length = b.size
  turn : ∀ i job, b.jobs[i]? = some job →
    ∃ m, Job.merge b.merger runner tree b.direction b.dryRun job = .ok m ∧
      m.report.checked = .ok m.report ∧
      files[i]? = some (settled job m (b.turn (trees i) job m).2) ∧
      trees (i + 1) = (b.turn (trees i) job m).1
  checked : ∀ file ∈ files, file.checked = .ok file

lemma stops_eq_false (h : b.failFast = false) (i : Nat) : b.stops ends i = false := by
  rw [stops, h, Bool.false_and]

/-- Where failures do not stop a batch, a pool that is done has collected all jobs. -/
lemma inJobOrder_eq_range (hslow : b.failFast = false)
    (hrun : (Pool.ofSize b.size).run? (b.stops ends) actions = some pool)
    (hdone : pool.isDone = true) : b.inJobOrder pool = List.range b.size := by
  have hsound := Pool.sound_of_run? hrun
  apply List.filter_eq_self.mpr
  intro i hi
  rw [List.contains_iff_mem]
  exact hsound.mem_collected_of_never hdone (stops_eq_false hslow) (List.mem_range.mp hi)

/-- All jobs give reports. -/
def AllReport (b : Batch) (ends : Endings) : Prop :=
  ∀ i job, b.jobs[i]? = some job → ∃ m, (ends i job).result = .ok m

lemma AllReport.isSome_given? (hall : b.AllReport ends) {i : Nat} (hi : i < b.size) :
    (b.given? ends i).isSome = true := by
  have hjob : b.jobs[i]? = some b.jobs[i] := List.getElem?_eq_getElem hi
  obtain ⟨m, hm⟩ := hall i b.jobs[i] hjob
  rw [given?_eq_some_iff.mpr ⟨hjob, hm⟩, Option.isSome_some]

lemma AllReport.getElem?_given (hall : b.AllReport ends) {i : Nat} (hi : i < b.size) :
    (b.given ends)[i]? = b.given? ends i := by
  rw [given, getElem?_filterMap_of_isSome fun j hj => hall.isSome_given? (List.mem_range.mp hj),
    List.getElem?_range hi, Option.bind_some]

lemma AllReport.length_given (hall : b.AllReport ends) :
    (b.given ends).length = b.size := by
  rw [given, List.length_filterMap_eq_countP]
  refine (List.countP_eq_length.mpr ?_).trans List.length_range
  exact fun i hi => hall.isSome_given? (List.mem_range.mp hi)

lemma AllReport.exists_given (hall : b.AllReport ends) {i : Nat} {job : Job}
    (hjob : b.jobs[i]? = some job) :
    ∃ m, (ends i job).result = .ok m ∧ (b.given ends)[i]? = some (job, m) := by
  obtain ⟨hi, -⟩ := List.getElem?_eq_some_iff.mp hjob
  obtain ⟨m, hm⟩ := hall i job hjob
  exact ⟨m, hm, (hall.getElem?_given hi).trans (given?_eq_some_iff.mpr ⟨hjob, hm⟩)⟩

lemma job_mem_of_mem_given {pair : Job × Job.Merged} (h : pair ∈ b.given ends) :
    pair.1 ∈ b.jobs := by
  obtain ⟨i, -, hi⟩ := List.mem_filterMap.mp h
  exact List.mem_of_getElem? (given?_eq_some_iff.mp hi).1

lemma checked_settled {job : Job} {m : Job.Merged} (h : m.report.checked = .ok m.report)
    (fault : Option FileError) : (settled job m fault).checked = .ok (settled job m fault) := by
  cases fault with
  | none => exact h
  | some e => exact Job.checked_failed job.name e.message_ne_empty

lemma AllReport.takesTurns (hall : b.AllReport (b.endings runner tree)) :
    let given := b.given (b.endings runner tree)
    b.TakesTurns runner tree (fun i => b.treeAfter tree (given.take i))
      (b.filesAfter tree given) where
  first := rfl
  length_eq := (length_filesAfter b tree _).trans hall.length_given
  turn i job hjob := by
    obtain ⟨m, hm, hgiven⟩ := hall.exists_given hjob
    exact ⟨m, hm, Job.checked_report hm, getElem?_filesAfter tree hgiven,
      treeAfter_take_succ tree hgiven⟩
  checked := by
    intro file hfile
    obtain ⟨i, hi⟩ := List.mem_iff_getElem?.mp hfile
    obtain ⟨hlt, -⟩ := List.getElem?_eq_some_iff.mp hi
    rw [length_filesAfter, hall.length_given] at hlt
    obtain ⟨⟨job, m⟩, hsome⟩ := Option.isSome_iff_exists.mp (hall.isSome_given? hlt)
    have hgiven := (hall.getElem?_given hlt).trans hsome
    rw [getElem?_filesAfter tree hgiven] at hi
    rw [← Option.some.inj hi]
    exact checked_settled (Job.checked_report (given?_eq_some_iff.mp hsome).2) _

/-- Some order in which the jobs are started, end and are collected leads to the outcome. -/
def CanEndIn (b : Batch) (ends : Endings) (tree : Tree) (outcome : Outcome) : Prop :=
  ∃ actions pool, (Pool.ofSize b.size).run? (b.stops ends) actions = some pool ∧
    pool.isDone = true ∧ outcome = b.conclude ends tree pool

/-- A run by itself is the one with the jobs one by one. -/
lemma canEndIn_run (b : Batch) (runner : Runner) (tree : Tree) (workers : Value)
    (h : (poolSize workers).isSome = true) :
    b.CanEndIn (b.endings runner tree) tree (b.run runner tree workers) := by
  obtain ⟨size, hsize⟩ := Option.isSome_iff_exists.mp h
  obtain ⟨⟨actions, hrun⟩, hdone⟩ := Pool.sequential_isRun (b.stops (b.endings runner tree)) b.size
  refine ⟨actions, _, hrun, hdone, ?_⟩
  rw [run, hsize]

/-- How a run ends that no failure stops: with a job that gives no report, with a path that is none,
or with the reports of all jobs. -/
lemma CanEndIn.cases_of_slow {outcome : Outcome} (h : b.CanEndIn ends tree outcome)
    (hslow : b.failFast = false) :
    let given := b.given ends
    (∃ i job abort, b.jobs[i]? = some job ∧ (ends i job).result = .error abort ∧
        outcome.report = .error (.job abort) ∧ outcome.tree = tree) ∨
      b.AllReport ends ∧
        ((∃ e ∈ b.faultsAfter tree given, e.fault = .nullCharacter ∧
            outcome.report = .error (.job (.file e)) ∧
            outcome.tree = (b.writeAll ends { tree := tree } (List.range b.size)).tree) ∨
          (∀ e ∈ b.faultsAfter tree given, e.fault ≠ .nullCharacter) ∧
            outcome.report =
              .ok ⟨.text b.direction.name, .bool b.dryRun, b.filesAfter tree given⟩ ∧
            outcome.tree = b.treeAfter tree given) := by
  obtain ⟨actions, pool, hrun, hdone, rfl⟩ := h
  have horder := inJobOrder_eq_range hslow hrun hdone
  have hsound := Pool.sound_of_run? hrun
  have hcases := conclude_cases b ends tree pool
  rw [gathered, horder] at hcases
  rcases hcases with ⟨i, -, abort, hresult, hreport⟩ | ⟨hgood, hreport⟩
  · obtain ⟨job, hjob, hresult⟩ := Option.map_eq_some_iff.mp hresult
    exact .inl ⟨i, job, abort, hjob, hresult, hreport⟩
  · refine .inr ⟨?_, hreport⟩
    intro i job hjob
    obtain ⟨hi, -⟩ := List.getElem?_eq_some_iff.mp hjob
    have hcollected := hsound.mem_collected_of_never hdone (stops_eq_false hslow) hi
    exact exists_of_resultAt hjob (hgood i hcollected)

/-- A job that gives no report leaves the whole run without one, and nothing is written. -/
lemma CanEndIn.of_not_allReport {outcome : Outcome} (h : b.CanEndIn ends tree outcome)
    (hslow : b.failFast = false) (hnone : ¬ b.AllReport ends) :
    (∃ abort, outcome.report = .error (.job abort)) ∧ outcome.tree = tree := by
  rcases h.cases_of_slow hslow with ⟨-, -, abort, -, -, hreport, htree⟩ | ⟨hall, -⟩
  · exact ⟨⟨abort, hreport⟩, htree⟩
  · exact absurd hall hnone

lemma not_allReport_of_nameTooLong {job : Job} (hjob : job ∈ b.jobs)
    (hlong : tree.place job.transformed = .error .nameTooLong) :
    ¬ b.AllReport (b.endings runner tree) := by
  intro hall
  obtain ⟨i, hi⟩ := List.mem_iff_getElem?.mp hjob
  obtain ⟨m, hm⟩ := hall i job hi
  have hmerge : Job.merge b.merger runner tree b.direction b.dryRun job = .ok m := hm
  rw [Job.merge_of_nameTooLong hlong] at hmerge
  simp at hmerge

lemma allReport_of_isAddressable (hname : b.merger.macroIsText = true)
    (h : ∀ job ∈ b.jobs, job.IsAddressable tree) (runner : Runner) :
    b.AllReport (b.endings runner tree) :=
  fun _ job hjob => (h job (List.mem_of_getElem? hjob)).exists_merge hname _ _ _

/-- Where failures do not stop a batch, every order of completion leads to the same reports and the
same tree: those of jobs that are each merged on the first tree alone and take turns to write in
their own order. There is one report for each job, and all reports can be read back. This holds as
long as every job can be asked for; a single transformed path that is too long to be looked for
leaves the run without any report and without a change. -/
theorem completion_order_is_immaterial (b : Batch) (runner : Runner) (tree : Tree)
    (hname : b.merger.macroIsText = true) (hslow : b.failFast = false) :
    let ends := b.endings runner tree
    ((∀ job ∈ b.jobs, job.IsAddressable tree) →
      ∃ trees files, b.TakesTurns runner tree trees files ∧
        ∀ outcome, b.CanEndIn ends tree outcome →
          outcome.report = .ok ⟨.text b.direction.name, .bool b.dryRun, files⟩ ∧
          outcome.tree = trees b.size) ∧
    ((∃ job ∈ b.jobs, tree.place job.transformed = .error .nameTooLong) →
      ∀ outcome, b.CanEndIn ends tree outcome →
        (∃ abort, outcome.report = .error (.job abort)) ∧ outcome.tree = tree) ∧
    ∀ workers, (poolSize workers).isSome = true →
      b.CanEndIn ends tree (b.run runner tree workers) := by
  intro ends
  refine ⟨fun haddress => ?_, ?_, canEndIn_run b runner tree⟩
  · have hall : b.AllReport ends := allReport_of_isAddressable hname haddress runner
    refine ⟨_, _, hall.takesTurns, fun outcome houtcome => ?_⟩
    rw [List.take_of_length_le (Nat.le_of_eq hall.length_given)]
    rcases houtcome.cases_of_slow hslow with
      ⟨i, job, abort, hjob, hresult, -⟩ | ⟨-, ⟨e, he, hnull, -⟩ | ⟨-, hreport⟩⟩
    · obtain ⟨m, hm⟩ := hall i job hjob
      rw [hm] at hresult
      simp at hresult
    · refine absurd hnull (fault_ne_nullCharacter ?_ e he)
      exact fun pair hpair => (haddress pair.1 (job_mem_of_mem_given hpair)).output
    · exact hreport
  · rintro ⟨job, hjob, hlong⟩ outcome houtcome
    exact houtcome.of_not_allReport hslow (not_allReport_of_nameTooLong hjob hlong)

/-- The second of two jobs has no transformed file, and is completed before the first. The paths of
the transformed files start from the root. -/
theorem completion_order_is_immaterial_for_two :
    let tree : Tree :=
      { files := [(["w", "o", "a.rs"], Utf8.encode "/// A.\nfn a() {}\n".toList),
          (["t", "a.rs"], Utf8.encode "#[omnidoc]\nfn a() {}\n".toList)]
        here := ["w"] }
    let job (name : String) : Job := ⟨⟨.here, ["o", name]⟩, ⟨.root, ["t", name]⟩,
      ⟨.here, ["out", name]⟩, name⟩
    let b : Batch := ⟨[job "a.rs", job "b.rs"], {}, .migrate, false, false⟩
    let ends := b.endings Formatter.echo tree
    let late : List Pool.Action :=
      [.start 0, .start 1, .finish 1, .collect 1, .finish 0, .collect 0]
    b.merger.macroIsText = true ∧ b.failFast = false ∧
      (∀ job ∈ b.jobs, job.IsAddressable tree) ∧
      ∃ pool, (Pool.ofSize b.size).run? (b.stops ends) late = some pool ∧
        pool.isDone = true ∧ pool.collected = [1, 0] ∧
        ∃ trees files, b.TakesTurns Formatter.echo tree trees files ∧
          (b.conclude ends tree pool).report = .ok ⟨.text "migrate", .bool false, files⟩ ∧
          (b.conclude ends tree pool).tree = trees 2 := by
  intro tree job b ends late
  have haddress : ∀ job ∈ b.jobs, job.IsAddressable tree := by decide +kernel
  obtain ⟨trees, files, hturns, horder⟩ :=
    (completion_order_is_immaterial b Formatter.echo tree rfl rfl).1 haddress
  have hrun : (Pool.ofSize b.size).run? (b.stops ends) late =
      some { size := 2, collected := [1, 0] } := by decide +kernel
  obtain ⟨hreport, htree⟩ := horder _ ⟨late, _, hrun, rfl, rfl⟩
  exact ⟨rfl, rfl, haddress, _, hrun, rfl, rfl, trees, files, hturns, hreport, htree⟩

/-- The transformed path of the second of two jobs is too long to be looked for. The first job has
both of its files, and still there is no report on it. -/
theorem too_long_path_leaves_no_report :
    let tree : Tree :=
      { files := [(["o", "a.rs"], Utf8.encode "/// A.\nfn a() {}\n".toList),
          (["o", "b.rs"], Utf8.encode "/// B.\nfn b() {}\n".toList),
          (["t", "a.rs"], Utf8.encode "#[omnidoc]\nfn a() {}\n".toList)] }
    let long := String.ofList (List.replicate 300 'z')
    let first : Job := ⟨⟨.here, ["o", "a.rs"]⟩, ⟨.here, ["t", "a.rs"]⟩, ⟨.here, ["o", "a.rs"]⟩, ""⟩
    let second : Job := ⟨⟨.here, ["o", "b.rs"]⟩, ⟨.here, ["t", long]⟩, ⟨.here, ["o", "b.rs"]⟩, ""⟩
    let b : Batch := ⟨[first, second], {}, .migrate, false, false⟩
    first.IsAddressable tree ∧
      (∃ abort, (b.run Formatter.echo tree (.int 4)).report = .error (.job abort)) ∧
      (b.run Formatter.echo tree (.int 4)).tree = tree := by
  intro tree long first second b
  have hnull : ¬ second.transformed.HasNull :=
    Path.not_hasNull_of_replicate ["t"] (by decide) (by decide) 300
  have hlong : tree.place second.transformed = .error .nameTooLong :=
    Tree.place_of_long_name ["t"] (q := ["t"]) hnull (by decide +kernel) (by decide +kernel)
      (by decide +kernel)
  have hsecond : second ∈ b.jobs := List.mem_cons_of_mem first (List.mem_singleton_self second)
  refine ⟨by decide +kernel, ?_⟩
  exact (canEndIn_run b Formatter.echo tree (.int 4) rfl).of_not_allReport rfl
    (not_allReport_of_nameTooLong hsecond hlong)

end Batch

end DocGraft
