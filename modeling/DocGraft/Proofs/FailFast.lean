import DocGraft.Proofs.CompletionOrder
import DocGraft.Proofs.RunWarnings

/-!
# Batches that stop at a failure

However the jobs of a batch are started and collected, and whatever each of them ends with, every
job is collected once or cancelled before it was started. The reports are those on the collected
jobs in the order of the jobs, and no other job writes. Only a failure that was collected cancels
jobs, in one round of questions, and the warning about it counts the jobs without a report.
-/

namespace DocGraft.Batch

open Happening (warnings)

variable {b : Batch} {ends : Endings} {tree : Tree} {actions : List Pool.Action} {pool : Pool}

/-- The reports on a pool that is done: one on each collected job, in the order of the jobs, with
what the job gave and what became of its text. Every file that is changed is the output of one of
these jobs. -/
structure Reports (b : Batch) (ends : Endings) (tree : Tree) (pool : Pool)
    (files : List FileReport) (last : Tree) : Prop where
  ascending : (b.inJobOrder pool).Pairwise (· < ·)
  perm : (b.inJobOrder pool).Perm pool.collected
  length_eq : files.length = (b.inJobOrder pool).length
  file : ∀ k i : Nat, (b.inJobOrder pool)[k]? = some i → ∃ job m, b.jobs[i]? = some job ∧
    (ends i job).result = .ok m ∧
    files[k]? = some (settled job m
      (b.turn (b.treeAfter tree ((b.gathered ends pool).take k)) job m).2)
  frame : ∀ q, last.file? q ≠ tree.file? q → ∃ i ∈ pool.collected, ∃ job,
    b.jobs[i]? = some job ∧ last.place job.output = .ok q

/-! ### Failures that stop a batch -/

lemma exists_of_stops {i : Nat} (h : b.stops ends i = true) :
    b.failFast = true ∧ ∃ job m, b.jobs[i]? = some job ∧ (ends i job).result = .ok m ∧
      m.report.status = .failed := by
  rw [stops, Bool.and_eq_true, resultAt] at h
  obtain ⟨hfast, hfailed⟩ := h
  refine ⟨hfast, ?_⟩
  cases hjob : b.jobs[i]? with
  | none => simp [hjob] at hfailed
  | some job =>
    rw [hjob, Option.map_some, Option.any_some] at hfailed
    cases hresult : (ends i job).result with
    | error abort => simp [hresult, hasFailed] at hfailed
    | ok m =>
      rw [hresult, hasFailed, decide_eq_true_iff] at hfailed
      exact ⟨job, m, rfl, hresult, hfailed⟩

lemma exists_failure_of_cancelled
    (hrun : (Pool.ofSize b.size).run? (b.stops ends) actions = some pool)
    (h : pool.cancelled ≠ []) :
    b.failFast = true ∧ ∃ i ∈ pool.collected, ∃ job m, b.jobs[i]? = some job ∧
      (ends i job).result = .ok m ∧ m.report.status = .failed := by
  have hsound := Pool.sound_of_run? hrun
  cases hstopped : pool.stoppedBy with
  | none => exact absurd (hsound.unstopped hstopped).1 h
  | some i =>
    obtain ⟨hstops, hmem⟩ := hsound.stopped i hstopped
    obtain ⟨hfast, hfailed⟩ := exists_of_stops hstops
    exact ⟨hfast, i, hmem, hfailed⟩

lemma count_ask_le (hrun : (Pool.ofSize b.size).run? (b.stops ends) actions = some pool) :
    actions.count .ask ≤ b.size := by
  have hasked := (Pool.sound_of_run? hrun).asked
  split at hasked
  · omega
  · omega

/-! ### Reports on collected jobs -/

lemma ascending_inJobOrder (b : Batch) (pool : Pool) : (b.inJobOrder pool).Pairwise (· < ·) :=
  List.pairwise_lt_range.filter _

lemma inJobOrder_perm
    (hrun : (Pool.ofSize b.size).run? (b.stops ends) actions = some pool)
    (hdone : pool.isDone = true) : (b.inJobOrder pool).Perm pool.collected := by
  have hsound := Pool.sound_of_run? hrun
  apply (List.perm_ext_iff_of_nodup (List.nodup_range.filter _)
    (hsound.nodup_collected hdone)).mpr
  intro i
  rw [ List.mem_filter, List.contains_iff_mem, List.mem_range]
  constructor
  · exact fun h => h.2
  · exact fun h => ⟨hsound.lt_of_mem_collected hdone h, h⟩

lemma isSome_given?_of_collected
    (hgood : ∀ i ∈ pool.collected, ∀ abort, b.resultAt ends i ≠ some (.error abort))
    {i : Nat} (hi : i ∈ b.inJobOrder pool) : (b.given? ends i).isSome = true := by
  rw [inJobOrder, List.mem_filter, List.mem_range, List.contains_iff_mem] at hi
  have hlt : i < b.jobs.length := hi.1
  have hjob : b.jobs[i]? = some b.jobs[i] := List.getElem?_eq_getElem hlt
  obtain ⟨m, hm⟩ := exists_of_resultAt hjob (hgood i hi.2)
  rw [given?_eq_some_iff.mpr ⟨hjob, hm⟩, Option.isSome_some]

lemma mem_collected_of_mem_gathered {pair : Job × Job.Merged}
    (h : pair ∈ b.gathered ends pool) : ∃ i ∈ pool.collected, b.jobs[i]? = some pair.1 := by
  obtain ⟨i, hi, hgiven⟩ := List.mem_filterMap.mp h
  rw [inJobOrder, List.mem_filter, List.contains_iff_mem] at hi
  exact ⟨i, hi.2, (given?_eq_some_iff.mp hgiven).1⟩

/-- The reports on a pool that is done, if all collected jobs give reports. -/
lemma reports_filesAfter
    (hrun : (Pool.ofSize b.size).run? (b.stops ends) actions = some pool)
    (hdone : pool.isDone = true)
    (hgood : ∀ i ∈ pool.collected, ∀ abort, b.resultAt ends i ≠ some (.error abort)) :
    b.Reports ends tree pool (b.filesAfter tree (b.gathered ends pool))
      (b.treeAfter tree (b.gathered ends pool)) where
  ascending := ascending_inJobOrder b pool
  perm := inJobOrder_perm hrun hdone
  length_eq := by
    rw [length_filesAfter, gathered, List.length_filterMap_eq_countP]
    exact List.countP_eq_length.mpr fun i hi => isSome_given?_of_collected hgood hi
  file k i hk := by
    have hi := List.mem_of_getElem? hk
    obtain ⟨⟨job, m⟩, hgiven⟩ := Option.isSome_iff_exists.mp (isSome_given?_of_collected hgood hi)
    obtain ⟨hjob, hresult⟩ := given?_eq_some_iff.mp hgiven
    have hpair : (b.gathered ends pool)[k]? = some (job, m) := by
      rw [gathered, getElem?_filterMap_of_isSome fun j hj => isSome_given?_of_collected hgood hj,
        hk, Option.bind_some, hgiven]
    exact ⟨job, m, hjob, hresult, getElem?_filesAfter tree hpair⟩
  frame q hq := by
    obtain ⟨k, job, m, text, hpair, -, -, -, hplace⟩ := exists_of_file?_ne hq
    obtain ⟨i, hi, hjob⟩ := mem_collected_of_mem_gathered (List.mem_of_getElem? hpair)
    exact ⟨i, hi, job, hjob, hplace⟩

lemma reports_of_conclude
    (hrun : (Pool.ofSize b.size).run? (b.stops ends) actions = some pool)
    (hdone : pool.isDone = true) {report : BatchReport}
    (hreport : (b.conclude ends tree pool).report = .ok report) :
    b.Reports ends tree pool report.files (b.conclude ends tree pool).tree := by
  rcases conclude_cases b ends tree pool with
    ⟨i, -, abort, -, herror, -⟩ | ⟨hgood, ⟨e, -, -, herror, -⟩ | ⟨-, hok, htree⟩⟩
  · simp [herror] at hreport
  · simp [herror] at hreport
  · rw [hok] at hreport
    rw [htree, ← Except.ok.inj hreport]
    exact reports_filesAfter hrun hdone hgood

/-- There are reports if every collected job gives one and has an output that is a path. -/
lemma exists_report (tree : Tree)
    (h : ∀ i ∈ pool.collected, ∀ job, b.jobs[i]? = some job →
      (∃ m, (ends i job).result = .ok m) ∧ ¬ job.output.HasNull) :
    ∃ report, (b.conclude ends tree pool).report = .ok report := by
  rcases conclude_cases b ends tree pool with
    ⟨i, hi, abort, hresult, -⟩ | ⟨-, ⟨e, he, hnull, -⟩ | ⟨-, hok, -⟩⟩
  · obtain ⟨job, hjob, hresult⟩ := Option.map_eq_some_iff.mp hresult
    obtain ⟨⟨m, hm⟩, -⟩ := h i hi job hjob
    rw [hm] at hresult
    simp at hresult
  · refine absurd hnull (fault_ne_nullCharacter (fun pair hpair => ?_) e he)
    obtain ⟨i, hi, hjob⟩ := mem_collected_of_mem_gathered hpair
    exact (h i hi pair.1 hjob).2
  · exact ⟨_, hok⟩

/-- A batch that stops at a failure loses and repeats nothing, whatever its jobs end with. At every
moment jobs are cancelled only if a failure was collected that stops the batch, and no more
questions are asked than there are jobs. When the pool is done, each job was started once and
collected, or cancelled without a start, and if the batch was stopped, there was one question for
each job. In a result each collected job has one report, in the order of the jobs; what is at the
output of a cancelled job is as it was, unless a job with a report writes there too; and the
warnings are those of the collected jobs with the one about the stop, which counts the jobs without
a report. Jobs that are merged on the tree warn of nothing themselves, and there is a result if
they can be asked for. -/
theorem fail_fast_loses_nothing (b : Batch) (ends : Endings) (tree : Tree)
    (actions : List Pool.Action) (pool : Pool)
    (hrun : (Pool.ofSize b.size).run? (b.stops ends) actions = some pool) :
    let outcome := b.conclude ends tree pool
    (pool.cancelled ≠ [] → b.failFast = true ∧ ∃ i ∈ pool.collected, ∃ job m,
      b.jobs[i]? = some job ∧ (ends i job).result = .ok m ∧ m.report.status = .failed) ∧
    actions.count .ask ≤ b.size ∧
    (pool.isDone = true →
      (pool.collected ++ pool.cancelled).Perm (List.range b.size) ∧
      (∀ i ∈ pool.collected, actions.count (.start i) = 1) ∧
      (∀ i ∈ pool.cancelled, actions.count (.start i) = 0) ∧
      (actions.count .ask = if pool.stoppedBy.isSome then b.size else 0) ∧
      ((∀ i ∈ pool.collected, ∀ job, b.jobs[i]? = some job →
          (∃ m, (ends i job).result = .ok m) ∧ ¬ job.output.HasNull) →
        ∃ report, outcome.report = .ok report) ∧
      (∀ report, outcome.report = .ok report →
        b.Reports ends tree pool report.files outcome.tree ∧
        (∀ i ∈ pool.cancelled, ∀ job q, b.jobs[i]? = some job →
          outcome.tree.place job.output = .ok q →
          (∀ k ∈ pool.collected, ∀ other, b.jobs[k]? = some other →
            outcome.tree.place other.output ≠ .ok q) →
          outcome.tree.file? q = tree.file? q) ∧
        warnings outcome.course =
          pool.collected.flatMap (b.warningsAt ends pool (b.size - report.files.length))) ∧
      ∀ runner, ends = b.endings runner tree →
        (b.merger.macroIsText = true → (∀ job ∈ b.jobs, job.IsAddressable tree) →
          ∃ report, outcome.report = .ok report) ∧
        ∀ report, outcome.report = .ok report →
          warnings outcome.course = (pool.stoppedBy.bind fun i => b.jobs[i]?).toList.map
            (stopWarning (b.size - report.files.length))) := by
  intro outcome
  have hsound := Pool.sound_of_run? hrun
  refine ⟨exists_failure_of_cancelled hrun, count_ask_le hrun, fun hdone => ?_⟩
  have hwarnings : ∀ report, outcome.report = .ok report → warnings outcome.course =
      pool.collected.flatMap (b.warningsAt ends pool (b.size - report.files.length)) := by
    intro report hreport
    have hreports := reports_of_conclude hrun hdone hreport
    -- the jobs without a report are the cancelled ones
    have hcount : b.size - report.files.length = pool.cancelled.length := by
      have hlength := hsound.length_collected hdone
      rw [hreports.length_eq, hreports.perm.length_eq]
      omega
    rw [hcount]
    exact warnings_conclude hreport
  refine ⟨hsound.perm_range hdone, ?_, ?_, hsound.count_ask hdone, exists_report tree, ?_, ?_⟩
  · intro i hi
    rw [hsound.count_start hdone]
    exact List.count_eq_one_of_mem (hsound.nodup_collected hdone) hi
  · intro i hi
    rw [hsound.count_start hdone]
    exact List.count_eq_zero.mpr (hsound.not_mem_collected hdone hi)
  · intro report hreport
    have hreports := reports_of_conclude hrun hdone hreport
    refine ⟨hreports, ?_, hwarnings report hreport⟩
    intro i _ job q _ _ halone
    by_contra hne
    obtain ⟨k, hk, other, hother, hplace⟩ := hreports.frame q hne
    exact halone k hk other hother hplace
  · rintro runner rfl
    refine ⟨fun hname haddress => exists_report tree fun i _ job hjob => ?_, ?_⟩
    · have hjob := haddress job (List.mem_of_getElem? hjob)
      exact ⟨hjob.exists_merge hname _ _ _, hjob.output⟩
    · intro report hreport
      rw [hwarnings report hreport]
      exact flatMap_warningsAt hrun hdone (fun _ _ => Job.warnings_trace _ _ _ _ _) _

/-- Of four jobs the second fails while the first one runs, and the third is started before it is
asked. Only the fourth is cancelled. -/
theorem fail_fast_loses_nothing_of_four :
    let tree : Tree :=
      { files := [(["o", "a.rs"], Utf8.encode "/// A.\nfn a() {}\n".toList),
          (["o", "b.rs"], Utf8.encode "/// B.\nfn b() {}\n".toList),
          (["o", "c.rs"], Utf8.encode "/// C.\nfn c() {}\n".toList),
          (["o", "d.rs"], Utf8.encode "/// D.\nfn d() {}\n".toList),
          (["t", "a.rs"], Utf8.encode "#[omnidoc]\nfn a() {}\n".toList)] }
    let job (name : String) : Job := ⟨⟨.root, ["o", name]⟩, ⟨.root, ["t", name]⟩,
      ⟨.root, ["o", name]⟩, name⟩
    let b : Batch := ⟨[job "a.rs", job "b.rs", job "c.rs", job "d.rs"], {}, .migrate, false, true⟩
    let ends := b.endings Formatter.echo tree
    let actions : List Pool.Action :=
      [.start 0, .start 1, .finish 1, .collect 1, .ask, .start 2, .ask, .ask, .ask, .finish 0,
        .collect 0, .finish 2, .collect 2]
    let pool : Pool :=
      { size := 4, collected := [1, 0, 2], cancelled := [3], stoppedBy := some 1 }
    (Pool.ofSize b.size).run? (b.stops ends) actions = some pool ∧
      pool.isDone = true ∧
      (∃ i ∈ pool.collected, ∃ job m, b.jobs[i]? = some job ∧ (ends i job).result = .ok m ∧
        m.report.status = .failed) ∧
      ∃ report, (b.conclude ends tree pool).report = .ok report ∧
        b.Reports ends tree pool report.files (b.conclude ends tree pool).tree ∧
        warnings (b.conclude ends tree pool).course =
          [stopWarning (4 - report.files.length) (job "b.rs")] := by
  intro tree job b ends actions pool
  have hrun : (Pool.ofSize b.size).run? (b.stops ends) actions = some pool := by decide +kernel
  have haddress : ∀ job ∈ b.jobs, job.IsAddressable tree := by decide +kernel
  obtain ⟨hcancelled, -, hdone⟩ := fail_fast_loses_nothing b ends tree actions pool hrun
  obtain ⟨-, -, -, -, -, hreports, hmerged⟩ := hdone rfl
  obtain ⟨hexists, hwarnings⟩ := hmerged Formatter.echo rfl
  obtain ⟨report, hreport⟩ := hexists rfl haddress
  exact ⟨hrun, rfl, (hcancelled (by simp [pool])).2, report, hreport,
    (hreports report hreport).1, hwarnings report hreport⟩

/-- The first and the third of three jobs have one output, and the second fails. The third job is
cancelled, and still there is a new file at its output. -/
theorem output_of_cancelled_job_is_written :
    let tree : Tree :=
      { files := [(["o", "a.rs"], Utf8.encode "/// A.\nfn a() {}\n".toList),
          (["o", "b.rs"], Utf8.encode "/// B.\nfn b() {}\n".toList),
          (["o", "c.rs"], Utf8.encode "/// C.\nfn c() {}\n".toList),
          (["t", "a.rs"], Utf8.encode "#[omnidoc]\nfn a() {}\n".toList),
          (["t", "c.rs"], Utf8.encode "#[omnidoc]\nfn c() {}\n".toList)] }
    let job (name output : String) : Job := ⟨⟨.here, ["o", name]⟩, ⟨.here, ["t", name]⟩,
      ⟨.here, [output]⟩, ""⟩
    let b : Batch := ⟨[job "a.rs" "x.rs", job "b.rs" "y.rs", job "c.rs" "x.rs"], {}, .migrate,
      false, true⟩
    let ends := b.endings Formatter.echo tree
    let pool := Pool.sequential (b.stops ends) b.size
    let last := (b.conclude ends tree pool).tree
    (∃ actions, (Pool.ofSize b.size).run? (b.stops ends) actions = some pool) ∧
      pool.isDone = true ∧ pool.collected = [0, 1] ∧ pool.cancelled = [2] ∧
      last.place (job "c.rs" "x.rs").output = .ok ["x.rs"] ∧
      tree.file? ["x.rs"] = none ∧
      last.file? ["x.rs"] = some (Utf8.encode "#[omnidoc]\nfn a() {}\n".toList) := by
  intro tree job b ends pool last
  obtain ⟨hactions, hdone⟩ := Pool.sequential_isRun (b.stops ends) b.size
  have hplace : last.place (job "c.rs" "x.rs").output = .ok ["x.rs"] := by decide +kernel
  exact ⟨hactions, hdone, by decide +kernel, by decide +kernel, hplace, rfl, by decide +kernel⟩

end DocGraft.Batch
