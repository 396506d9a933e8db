import DocGraft.Proofs.AppliedPlan
import DocGraft.Proofs.BatchWriting
import DocGraft.Proofs.PoolRuns

/-!
# Warnings of a run

Writing the text of a job warns of nothing. So the warnings in the course of a run are those of the
jobs that were collected, in the order of collection, and the one about the failure that stopped the
run, told when that failure is collected. Merging a job warns of nothing, whatever the job, which
leaves the last one alone.
-/

namespace DocGraft

lemma Merger.exists_of_plan {g : Merger} {process : Runner} {d : Direction}
    {base transformed : Text} {p : Plan} (h : g.plan process d base transformed = .ok p) :
    ∃ fb ft, p = g.planFormatted d fb ft := by
  unfold plan draft at h
  cases hbase : Formatter.format process base with
  | error failure => simp [hbase, bind, Except.bind] at h
  | ok fb =>
    cases htransformed : Formatter.format process transformed with
    | error failure => simp [hbase, htransformed, bind, Except.bind] at h
    | ok ft =>
      refine ⟨fb, ft, ?_⟩
      simp only [hbase, htransformed, bind, Except.bind, pure, Except.pure] at h
      split at h
      · simp at h
      · exact (Except.ok.inj h).symm

lemma Merger.quiet_trace (g : Merger) (process : Runner) (d : Direction) (base transformed : Text) :
    (g.trace process d base transformed).Quiet := by
  refine (g.quiet_planTrace process d base transformed).append ?_
  split
  · next p hplan =>
    obtain ⟨fb, ft, rfl⟩ := exists_of_plan hplan
    apply g.quiet_applyTrace process
    exact Application.refused_eq_nil (inOrder_planFormatted g d fb ft)
      (laid_planFormatted g d fb ft)
  · exact Trace.quiet_nil

/-- The warnings among the entries. -/
def Trace.warnings (t : Trace) : Trace := t.filter fun e => e.level = .warning

/-- Merging a job tells of errors and helps to look for them, but warns of nothing. -/
lemma Job.level_ne_warning {g : Merger} {runner : Runner} {t : Tree} {d : Direction} {j : Job}
    {e : Entry} (he : e ∈ j.trace g runner t d) : e.level ≠ .warning := by
  unfold trace at he
  split at he
  · rcases List.mem_append.mp he with he | he
    · have hdebug : e.level = .debug := by
        split at he
        · exact g.quiet_trace runner d _ _ e he
        · simp at he
      simp [hdebug]
    · split at he
      · obtain rfl := List.mem_singleton.mp he
        simp
      · split at he
        · simp at he
        · obtain rfl := List.mem_singleton.mp he
          simp
  · simp at he

lemma Job.warnings_trace (g : Merger) (runner : Runner) (t : Tree) (d : Direction) (j : Job) :
    (j.trace g runner t d).warnings = [] := by
  rw [Trace.warnings, List.filter_eq_nil_iff]
  intro e he
  simpa using level_ne_warning he

namespace Happening

def warnings (course : List Happening) : Trace := Trace.warnings (course.filterMap entry?)

@[simp] lemma warnings_append (first rest : List Happening) :
    warnings (first ++ rest) = warnings first ++ warnings rest := by
  simp [warnings, Trace.warnings]

@[simp] lemma warnings_map_entry (trace : Trace) :
    warnings (trace.map .entry) = trace.warnings := by
  have hentries : (trace.map Happening.entry).filterMap entry? = trace := by
    simp [List.filterMap_map, Function.comp_def, entry?]
  rw [warnings, hentries]

end Happening

open Happening (warnings warnings_append warnings_map_entry)

namespace Batch

variable {b : Batch} {ends : Endings} {tree : Tree} {pool : Pool} {actions : List Pool.Action}
  {report : BatchReport}

@[simp] lemma warnings_event (b : Batch) (stage : Stage) (path : Option String) (index : Nat)
    (detail : String) : warnings [b.event stage path index detail] = [] := rfl

lemma warnings_writeOne (b : Batch) (w : Writing) (i : Nat) (job : Job) (m : Job.Merged) :
    warnings (b.writeOne w i job m).course = warnings w.course := by
  unfold writeOne
  split
  · dsimp only
    split
    · rw [warnings_append, warnings_event, List.append_nil]
    · split
      · rw [warnings_append, warnings_event, List.append_nil]
      · rw [warnings_append]
        exact List.append_nil _
  · rfl

/-- Writing warns of nothing. -/
lemma warnings_writeAll (b : Batch) (ends : Endings) (w : Writing) (is : List Nat) :
    warnings (b.writeAll ends w is).course = warnings w.course := by
  refine writeAll_keeps (p := fun later => warnings later.course = warnings w.course) ?_ rfl is
  intro later i job m _ hlater
  exact (warnings_writeOne b later i job m).trans hlater

/-- The warning about the failure of a job that stops the batch. -/
def stopWarning (notRun : Nat) (job : Job) : Entry :=
  ⟨.warning, .batch, "Stopping after failure in " ++ job.name ++ "; " ++ toString notRun ++
    " file(s) not run"⟩

/-- The warnings that are told when a job is collected: those of the job, and the one about the
stop if the job stops the batch. -/
def warningsAt (b : Batch) (ends : Endings) (pool : Pool) (notRun i : Nat) : Trace :=
  match b.jobs[i]? with
  | none => []
  | some job =>
    (ends i job).trace.warnings ++ if pool.stoppedBy = some i then [stopWarning notRun job] else []

lemma warnings_collecting (pool : Pool) (done i : Nat) (job : Job) (m : Job.Merged) :
    warnings (b.collecting ends pool done i job m) = (ends i job).trace.warnings ++
      if pool.stoppedBy = some i then [stopWarning pool.cancelled.length job] else [] := by
  rw [collecting, warnings_append, warnings_append, warnings_map_entry, warnings_event,
    List.append_nil]
  congr 1
  split
  · rfl
  · rfl

/-- Where all collected jobs give reports, their warnings are told one after the other. -/
lemma warnings_collectingAll (pool : Pool) (done : Nat) {is : List Nat}
    (h : (b.collectingAll ends pool done is).2 = none) :
    warnings (b.collectingAll ends pool done is).1 =
      is.flatMap (b.warningsAt ends pool pool.cancelled.length) := by
  induction is generalizing done with
  | nil => rfl
  | cons i rest ih =>
    rw [collectingAll] at h ⊢
    split at h
    · next job m hjob _ =>
      rw [warnings_append, warnings_collecting, ih (done + 1) h, List.flatMap_cons, warningsAt,
        hjob]
    · simp at h
    · next hok herror =>
      -- a job with this number would give a report or the reason for none
      have hnone : b.jobs[i]? = none := by
        cases hjob : b.jobs[i]? with
        | none => rfl
        | some job =>
          obtain ⟨m, hm⟩ := exists_of_resultAt hjob fun abort => herror job abort hjob
          refine absurd ?_ (hok job m hjob)
          rw [resultAt, hjob, Option.map_some, hm]
      rw [ih done h, List.flatMap_cons, warningsAt, hnone, List.nil_append]

/-- The warnings of a run with reports are those of the collected jobs. -/
lemma warnings_conclude (hreport : (b.conclude ends tree pool).report = .ok report) :
    warnings (b.conclude ends tree pool).course =
      pool.collected.flatMap (b.warningsAt ends pool pool.cancelled.length) := by
  have hcollect : (b.collectingAll ends pool 0 pool.collected).2 = none := by
    cases habort : (b.collectingAll ends pool 0 pool.collected).2 with
    | none => rfl
    | some abort => simp [conclude, habort] at hreport
  have hwrite : (b.writeAll ends { tree := tree } (b.inJobOrder pool)).abort = none := by
    cases habort : (b.writeAll ends { tree := tree } (b.inJobOrder pool)).abort with
    | none => rfl
    | some abort => simp [conclude, hcollect, habort] at hreport
  have hcourse : warnings (b.conclude ends tree pool).course =
      warnings (b.collectingAll ends pool 0 pool.collected).1 := by
    simp only [conclude, hcollect, hwrite, opening, closing, warnings_append, warnings_event,
      warnings_writeAll, List.nil_append, List.append_nil]
    exact List.append_nil _
  rw [hcourse, warnings_collectingAll pool 0 hcollect]

/-- Where the jobs warn of nothing, a run that was stopped has one warning and any other none. -/
lemma flatMap_warningsAt (hrun : (Pool.ofSize b.size).run? (b.stops ends) actions = some pool)
    (hdone : pool.isDone = true) (hquiet : ∀ i job, (ends i job).trace.warnings = [])
    (notRun : Nat) :
    pool.collected.flatMap (b.warningsAt ends pool notRun) =
      (pool.stoppedBy.bind fun i => b.jobs[i]?).toList.map (stopWarning notRun) := by
  have hsound := Pool.sound_of_run? hrun
  have hother : ∀ i, pool.stoppedBy ≠ some i → b.warningsAt ends pool notRun i = [] := by
    intro i hi
    unfold warningsAt
    split
    · rfl
    · rw [hquiet, if_neg hi, List.nil_append]
  cases hstopped : pool.stoppedBy with
  | none =>
    rw [Option.bind_none, Option.toList_none, List.map_nil, List.flatMap_eq_nil_iff]
    intro i _
    exact hother i (by rw [hstopped]; simp)
  | some i =>
    obtain ⟨first, rest, hcollected⟩ := List.append_of_mem (hsound.stopped i hstopped).2
    have hnodup := hsound.nodup_collected hdone
    rw [hcollected] at hnodup ⊢
    have hnone : ∀ is : List Nat, i ∉ is → is.flatMap (b.warningsAt ends pool notRun) = [] := by
      intro is hi
      rw [List.flatMap_eq_nil_iff]
      intro j hj
      apply hother
      rw [hstopped]
      rintro ⟨⟩
      exact hi hj
    -- the job that stopped the run was collected once
    have hfirst := hnone first fun hi =>
      (List.nodup_append.mp hnodup).2.2 i hi i List.mem_cons_self rfl
    have hrest := hnone rest (List.nodup_cons.mp (List.nodup_append.mp hnodup).2.1).1
    rw [List.flatMap_append, List.flatMap_cons, hfirst, hrest, List.append_nil, List.nil_append,
      warningsAt]
    cases hjob : b.jobs[i]? with
    | none => simp [hjob]
    | some job => simp [hjob, hquiet, hstopped]

end Batch

end DocGraft
