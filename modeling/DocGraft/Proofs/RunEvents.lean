import DocGraft.Proofs.FailFast
import DocGraft.Proofs.ProgressBar

/-!
# The events of a run

A run tells of one discovery, of each collected job with its number in the order of collection, of
each text that is written with the number of its job, and of its end. A run that breaks off tells of
a beginning of this and of no end. So a bar on a terminal never counts more than there is, and has
counted all when a run comes to its end.
-/

namespace DocGraft

/-! ### Events -/

namespace Happening

/-- The events among what is told. -/
def events (course : List Happening) : List Event := course.filterMap event?

@[simp] lemma events_append (first rest : List Happening) :
    events (first ++ rest) = events first ++ events rest := List.filterMap_append

@[simp] lemma events_map_entry (trace : Trace) : events (trace.map .entry) = [] := by
  simp [events, List.filterMap_map, Function.comp_def, event?]

end Happening

open Happening (events events_append events_map_entry)

namespace Batch

variable (b : Batch) (ends : Endings)

/-- An event about a file of the batch, or about all of them. -/
def told (stage : Stage) (path : Option String) (index : Nat) (detail : String) : Event :=
  ⟨stage.name, path, index, b.size, detail⟩

def merging (k : Nat) (job : Job) (m : Job.Merged) : Event :=
  b.told .merging (some job.name) k (job.name ++ ": " ++ m.report.status.name)

def writing (i : Nat) (job : Job) : Event :=
  b.told .writing (some job.name) i ("Writing " ++ job.output.text)

def discovering : Event :=
  b.told .discovering none 0 (toString b.size ++ " file(s) to " ++ b.direction.name)

def complete (report : BatchReport) : Event :=
  b.told .complete none (b.size - 1) (toString report.changed ++ " rewritten, " ++
    toString report.unchanged ++ " unchanged, " ++ toString report.failed ++ " failed")

/-- The events of collecting jobs, the first of them as the `done`-th one. -/
def mergings (done : Nat) (is : List Nat) : List Event :=
  ((is.filterMap (b.given? ends)).zipIdx done).map fun ((job, m), k) => b.merging k job m

/-- The event of writing what a job gives, if there is something to write. -/
def writing? (i : Nat) (job : Job) (m : Job.Merged) : Option Event :=
  match m.text, b.dryRun with
  | some _, false => some (b.writing i job)
  | _, _ => none

def writings (is : List Nat) : List Event :=
  is.filterMap fun i => (b.given? ends i).bind fun (job, m) => b.writing? i job m

variable {b} {ends} {tree : Tree} {pool : Pool} {actions : List Pool.Action}

lemma events_event (stage : Stage) (path : Option String) (index : Nat) (detail : String) :
    events [b.event stage path index detail] = [b.told stage path index detail] := rfl

lemma events_collecting (pool : Pool) (done i : Nat) (job : Job) (m : Job.Merged) :
    events (b.collecting ends pool done i job m) = [b.merging done job m] := by
  rw [collecting, events_append, events_append, events_map_entry, events_event]
  split
  · rfl
  · rfl

lemma mergings_cons_of_given {i : Nat} {job : Job} {m : Job.Merged}
    (h : b.given? ends i = some (job, m)) (done : Nat) (rest : List Nat) :
    b.mergings ends done (i :: rest) =
      b.merging done job m :: b.mergings ends (done + 1) rest := by
  rw [mergings, List.filterMap_cons_some h]
  rfl

lemma mergings_cons_of_none {i : Nat} (h : b.given? ends i = none) (done : Nat)
    (rest : List Nat) :
    b.mergings ends done (i :: rest) = b.mergings ends done rest := by
  rw [mergings, List.filterMap_cons_none h]
  rfl

lemma writings_cons (i : Nat) (rest : List Nat) :
    b.writings ends (i :: rest) =
      ((b.given? ends i).bind fun (job, m) => b.writing? i job m).toList ++
        b.writings ends rest := by
  unfold writings
  cases hwriting : (b.given? ends i).bind fun (job, m) => b.writing? i job m with
  | none => exact List.filterMap_cons_none hwriting
  | some e => exact List.filterMap_cons_some hwriting

/-- Collecting tells of the jobs up to the first one without a report. -/
lemma events_collectingAll (b : Batch) (ends : Endings) (pool : Pool) (done : Nat)
    (is : List Nat) :
    ∃ reached, reached <+: is ∧
      events (b.collectingAll ends pool done is).1 = b.mergings ends done reached ∧
      ((b.collectingAll ends pool done is).2 = none → reached = is) := by
  induction is generalizing done with
  | nil => exact ⟨[], List.prefix_rfl, rfl, fun _ => rfl⟩
  | cons i rest ih =>
    rw [collectingAll]
    split
    · next job m hjob hresult =>
      obtain ⟨reached, hprefix, hevents, hall⟩ := ih (done + 1)
      have hgiven : b.given? ends i = some (job, m) := by
        rw [given?, hjob, hresult]
      refine ⟨i :: reached, List.cons_prefix_cons.mpr ⟨rfl, hprefix⟩, ?_, ?_⟩
      · rw [events_append, events_collecting, hevents, mergings_cons_of_given hgiven]
        rfl
      · exact fun hnone => congrArg (i :: ·) (hall hnone)
    · exact ⟨[], List.nil_prefix, events_map_entry _, by simp⟩
    · next hok _ =>
      obtain ⟨reached, hprefix, hevents, hall⟩ := ih done
      have hgiven : b.given? ends i = none := by
        unfold given?
        split
        · next job m hjob hresult => exact absurd hresult (hok job m hjob)
        · rfl
      refine ⟨i :: reached, List.cons_prefix_cons.mpr ⟨rfl, hprefix⟩, ?_, ?_⟩
      · rw [hevents, mergings_cons_of_none hgiven]
      · exact fun hnone => congrArg (i :: ·) (hall hnone)

lemma events_writeOne (b : Batch) (w : Writing) (i : Nat) (job : Job) (m : Job.Merged) :
    events (b.writeOne w i job m).course = events w.course ++ (b.writing? i job m).toList := by
  unfold writeOne writing?
  cases m.text with
  | none => exact (List.append_nil _).symm
  | some text =>
    cases b.dryRun with
    | true => exact (List.append_nil _).symm
    | false =>
      -- the event comes before it is known whether the text can be written
      dsimp only
      split
      · rw [events_append]
        rfl
      · split
        · rw [events_append]
          rfl
        · rw [events_append]
          rfl

/-- Writing tells of the texts up to the first one whose path is none. -/
lemma events_writeAll (b : Batch) (ends : Endings) (w : Writing) (is : List Nat) :
    ∃ reached, reached <+: is ∧
      events (b.writeAll ends w is).course =
        events w.course ++ b.writings ends reached ∧
      ((b.writeAll ends w is).abort = none → reached = is) := by
  induction is generalizing w with
  | nil => exact ⟨[], List.prefix_rfl, (List.append_nil _).symm, fun _ => rfl⟩
  | cons i rest ih =>
    by_cases habort : w.abort = none
    · rw [writeAll_cons habort]
      cases hgiven : b.given? ends i with
      | none =>
        obtain ⟨reached, hprefix, hevents, hall⟩ := ih w
        refine ⟨i :: reached, List.cons_prefix_cons.mpr ⟨rfl, hprefix⟩, ?_, ?_⟩
        · rw [hevents, writings_cons, hgiven]
          rfl
        · exact fun hnone => congrArg (i :: ·) (hall hnone)
      | some pair =>
        obtain ⟨reached, hprefix, hevents, hall⟩ := ih (b.writeOne w i pair.1 pair.2)
        refine ⟨i :: reached, List.cons_prefix_cons.mpr ⟨rfl, hprefix⟩, ?_, ?_⟩
        · rw [hevents, events_writeOne, List.append_assoc, writings_cons, hgiven]
          rfl
        · exact fun hnone => congrArg (i :: ·) (hall hnone)
    · rw [writeAll_of_abort habort]
      exact ⟨[], List.nil_prefix, (List.append_nil _).symm, fun h => absurd h habort⟩

/-- A run that has a report tells of all collected jobs, of all texts and of its end. Any other run
breaks off before its end. -/
lemma events_conclude (b : Batch) (ends : Endings) (tree : Tree) (pool : Pool) :
    let outcome := b.conclude ends tree pool
    (∃ fault reached written, outcome.report = .error fault ∧ reached <+: pool.collected ∧
      written <+: b.inJobOrder pool ∧
      events outcome.course =
        b.discovering :: b.mergings ends 0 reached ++ b.writings ends written) ∨
    ∃ report, outcome.report = .ok report ∧
      events outcome.course =
        b.discovering :: b.mergings ends 0 pool.collected ++
          b.writings ends (b.inJobOrder pool) ++ [b.complete report] := by
  intro outcome
  have houtcome : outcome = b.conclude ends tree pool := rfl
  obtain ⟨reached, hreached, hmerging, hresultd⟩ :=
    events_collectingAll b ends pool 0 pool.collected
  obtain ⟨written, hwritten, hwriting, hwrote⟩ :=
    events_writeAll b ends { tree := tree } (b.inJobOrder pool)
  unfold conclude at houtcome
  cases hcollect : (b.collectingAll ends pool 0 pool.collected).2 with
  | some abort =>
    simp only [hcollect] at houtcome
    refine .inl ⟨.job abort, reached, [], by rw [houtcome], hreached, List.nil_prefix, ?_⟩
    rw [houtcome, events_append, hmerging]
    exact (List.append_nil _).symm
  | none =>
    -- all that was collected is told of, and what is left to tell is the writing
    simp only [hcollect] at houtcome
    obtain rfl := hresultd hcollect
    cases hwrite : (b.writeAll ends { tree := tree } (b.inJobOrder pool)).abort with
    | some abort =>
      simp only [hwrite] at houtcome
      refine .inl ⟨.job abort, _, written, by rw [houtcome], hreached, hwritten, ?_⟩
      rw [houtcome, events_append, events_append, hmerging, hwriting]
      rfl
    | none =>
      simp only [hwrite] at houtcome
      obtain rfl := hwrote hwrite
      refine .inr ⟨_, by rw [houtcome], ?_⟩
      rw [houtcome, events_append, events_append, events_append, hmerging, hwriting]
      rfl

/-! ### What the events say -/

/-- The events of collecting and of writing. Each collected job has one of the former, numbered in
the order of collection, and each text that is to be written one of the latter, with the number of
its job. -/
structure Phases (b : Batch) (ends : Endings) (pool : Pool)
    (collecting written : List Event) : Prop where
  nodup : pool.collected.Nodup
  length_eq : collecting.length = pool.collected.length
  getElem_collecting : ∀ k i : Nat, pool.collected[k]? = some i → ∃ job m, b.jobs[i]? = some job ∧
    (ends i job).result = .ok m ∧
    collecting[k]? = some (b.merging k job m)
  mem_written : ∀ e, e ∈ written ↔ ∃ i ∈ pool.collected, ∃ job m text, b.jobs[i]? = some job ∧
    (ends i job).result = .ok m ∧ m.text = some text ∧
    b.dryRun = false ∧ e = b.writing i job
  ascending : written.Pairwise fun e e' => e.index < e'.index

/-- The event gives the number of all files, and one of them. -/
structure Within (b : Batch) (e : Event) : Prop where
  total_eq : e.total = b.size
  nonneg : 0 ≤ e.index
  lt : e.index < max (b.size : Int) 1

lemma within_told {index : Nat} (stage : Stage) (path : Option String) (detail : String)
    (h : index < b.size ∨ index = 0) : b.Within (b.told stage path index detail) := by
  have hlt : (index : Int) < max (b.size : Int) 1 := by omega
  exact ⟨rfl, Int.natCast_nonneg index, hlt⟩

lemma writing?_eq_some_iff {i : Nat} {job : Job} {m : Job.Merged} {e : Event} :
    b.writing? i job m = some e ↔
      ∃ text, m.text = some text ∧ b.dryRun = false ∧ e = b.writing i job := by
  unfold writing?
  cases m.text with
  | none => simp
  | some text =>
    cases b.dryRun with
    | true => simp
    | false => simp [eq_comm]

lemma getElem?_mergings (is : List Nat) (k : Nat) :
    (b.mergings ends 0 is)[k]? =
      (is.filterMap (b.given? ends))[k]?.map fun (job, m) => b.merging k job m := by
  rw [mergings, List.getElem?_map, List.getElem?_zipIdx, Option.map_map, Nat.zero_add]
  rfl

lemma exists_of_mem_mergings {is : List Nat} {e : Event} (h : e ∈ b.mergings ends 0 is) :
    ∃ k job m, k < is.length ∧ e = b.merging k job m := by
  obtain ⟨k, hk⟩ := List.mem_iff_getElem?.mp h
  rw [getElem?_mergings] at hk
  obtain ⟨⟨job, m⟩, hpair, rfl⟩ := Option.map_eq_some_iff.mp hk
  obtain ⟨hlt, -⟩ := List.getElem?_eq_some_iff.mp hpair
  exact ⟨k, job, m, hlt.trans_le (List.length_filterMap_le _ _), rfl⟩

lemma mem_writings {is : List Nat} {e : Event} : e ∈ b.writings ends is ↔
    ∃ i ∈ is, ∃ job m text, b.jobs[i]? = some job ∧
      (ends i job).result = .ok m ∧ m.text = some text ∧
      b.dryRun = false ∧ e = b.writing i job := by
  unfold writings
  rw [List.mem_filterMap]
  constructor
  · rintro ⟨i, hi, h⟩
    obtain ⟨⟨job, m⟩, hgiven, hwriting⟩ := Option.bind_eq_some_iff.mp h
    obtain ⟨hjob, hresult⟩ := given?_eq_some_iff.mp hgiven
    obtain ⟨text, htext, hdry, rfl⟩ := writing?_eq_some_iff.mp hwriting
    exact ⟨i, hi, job, m, text, hjob, hresult, htext, hdry, rfl⟩
  · rintro ⟨i, hi, job, m, text, hjob, hresult, htext, hdry, rfl⟩
    refine ⟨i, hi, Option.bind_eq_some_iff.mpr ⟨(job, m), ?_, ?_⟩⟩
    · exact given?_eq_some_iff.mpr ⟨hjob, hresult⟩
    · exact writing?_eq_some_iff.mpr ⟨text, htext, hdry, rfl⟩

lemma ascending_writings {is : List Nat} (h : is.Pairwise (· < ·)) :
    (b.writings ends is).Pairwise fun e e' => e.index < e'.index := by
  have hindex : ∀ i e, ((b.given? ends i).bind fun (job, m) => b.writing? i job m) = some e →
      e.index = i := by
    intro i e he
    obtain ⟨⟨job, m⟩, -, hwriting⟩ := Option.bind_eq_some_iff.mp he
    obtain ⟨-, -, -, rfl⟩ := writing?_eq_some_iff.mp hwriting
    rfl
  unfold writings
  rw [List.pairwise_filterMap]
  refine h.imp fun {i j} hij e he e' he' => ?_
  rw [hindex i e he, hindex j e' he']
  exact Int.ofNat_lt.mpr hij

section Runs

variable (hrun : (Pool.ofSize b.size).run? (b.stops ends) actions = some pool)
  (hdone : pool.isDone = true)

include hrun hdone

lemma phases_of_report {report : BatchReport}
    (hreport : (b.conclude ends tree pool).report = .ok report) :
    b.Phases ends pool (b.mergings ends 0 pool.collected)
      (b.writings ends (b.inJobOrder pool)) := by
  have hperm := inJobOrder_perm hrun hdone
  have hgood : ∀ i ∈ pool.collected, ∀ abort, b.resultAt ends i ≠ some (.error abort) := by
    rcases conclude_cases b ends tree pool with ⟨i, -, abort, -, herror, -⟩ | ⟨hgood, -⟩
    · simp [herror] at hreport
    · exact hgood
  have hsome : ∀ i ∈ pool.collected, (b.given? ends i).isSome = true :=
    fun i hi => isSome_given?_of_collected hgood (hperm.mem_iff.mpr hi)
  refine ⟨(Pool.sound_of_run? hrun).nodup_collected hdone, ?_, ?_, ?_, ?_⟩
  · rw [mergings, List.length_map, List.length_zipIdx, List.length_filterMap_eq_countP]
    exact List.countP_eq_length.mpr hsome
  · intro k i hi
    obtain ⟨⟨job, m⟩, hgiven⟩ := Option.isSome_iff_exists.mp (hsome i (List.mem_of_getElem? hi))
    obtain ⟨hjob, hresult⟩ := given?_eq_some_iff.mp hgiven
    refine ⟨job, m, hjob, hresult, ?_⟩
    rw [getElem?_mergings, getElem?_filterMap_of_isSome hsome, hi, Option.bind_some, hgiven]
    rfl
  · intro e
    rw [mem_writings]
    constructor
    · rintro ⟨i, hi, h⟩
      exact ⟨i, hperm.mem_iff.mp hi, h⟩
    · rintro ⟨i, hi, h⟩
      exact ⟨i, hperm.mem_iff.mpr hi, h⟩
  · exact ascending_writings (ascending_inJobOrder b pool)

/-- Every event gives the number of all files, and one of these files. -/
lemma within_of_mem_events {e : Event} (he : e ∈ events (b.conclude ends tree pool).course) :
    b.Within e := by
  have hsound := Pool.sound_of_run? hrun
  have hmerging : ∀ reached : List Nat, reached.length ≤ pool.collected.length →
      ∀ e ∈ b.mergings ends 0 reached, b.Within e := by
    intro reached hle e he
    obtain ⟨k, job, m, hk, rfl⟩ := exists_of_mem_mergings he
    have hlength := hsound.length_collected hdone
    exact within_told _ _ _ (by omega)
  have hwriting : ∀ written : List Nat, written ⊆ b.inJobOrder pool →
      ∀ e ∈ b.writings ends written, b.Within e := by
    intro written hsub e he
    obtain ⟨i, hi, job, m, text, -, -, -, -, rfl⟩ := mem_writings.mp he
    have hmem := (inJobOrder_perm hrun hdone).subset (hsub hi)
    exact within_told _ _ _ (.inl (hsound.lt_of_mem_collected hdone hmem))
  obtain ⟨-, reached, written, -, hreached, hwritten, hevents⟩ | ⟨report, -, hevents⟩ :=
    events_conclude b ends tree pool
  · rw [hevents, List.mem_append, List.mem_cons] at he
    rcases he with (rfl | he) | he
    · exact within_told _ _ _ (.inr rfl)
    · exact hmerging reached hreached.length_le e he
    · exact hwriting written hwritten.subset e he
  · rw [hevents, List.mem_append, List.mem_append, List.mem_cons, List.mem_singleton] at he
    rcases he with ((rfl | he) | he) | rfl
    · exact within_told _ _ _ (.inr rfl)
    · exact hmerging _ (Nat.le_refl _) e he
    · exact hwriting _ (List.Subset.refl _) e he
    · exact within_told _ _ _ (by omega)

end Runs

lemma stage_ne_complete {fault : Fault}
    (hreport : (b.conclude ends tree pool).report = .error fault) {e : Event}
    (he : e ∈ events (b.conclude ends tree pool).course) : e.stage ≠ Stage.complete.name := by
  obtain ⟨-, reached, written, -, -, -, hevents⟩ | ⟨report, hok, -⟩ :=
    events_conclude b ends tree pool
  · rw [hevents, List.mem_append, List.mem_cons] at he
    rcases he with (rfl | he) | he
    · exact (by decide : Stage.discovering.name ≠ Stage.complete.name)
    · obtain ⟨k, job, m, -, rfl⟩ := exists_of_mem_mergings he
      exact (by decide : Stage.merging.name ≠ Stage.complete.name)
    · obtain ⟨i, -, job, m, text, -, -, -, -, rfl⟩ := mem_writings.mp he
      exact (by decide : Stage.writing.name ≠ Stage.complete.name)
  · simp [hok] at hreport

/-- However the jobs are started and collected, and whatever each of them ends with, a run with a
report tells of the discovery, of each collected job in the order of collection, of each text that
is written in the order of the jobs, and of its end with the numbers of the report. There is a
report if the collected jobs give reports and have outputs that are paths, as jobs do that can be
asked for; a run without one never tells of its end. A bar on a terminal that follows the events
never counts more files than there are, and has counted all at the end, unless a detail that is to
be told cannot be shown. -/
theorem events_follow_protocol (b : Batch) (ends : Endings) (tree : Tree)
    (actions : List Pool.Action) (pool : Pool)
    (hrun : (Pool.ofSize b.size).run? (b.stops ends) actions = some pool)
    (hdone : pool.isDone = true) :
    let outcome := b.conclude ends tree pool
    let all := events outcome.course
    (∀ report, outcome.report = .ok report → ∃ collecting written,
      b.Phases ends pool collecting written ∧
      all = b.discovering :: collecting ++ written ++ [b.complete report]) ∧
    ((∀ i ∈ pool.collected, ∀ job, b.jobs[i]? = some job →
        (∃ m, (ends i job).result = .ok m) ∧ ¬ job.output.HasNull) →
      ∃ report, outcome.report = .ok report) ∧
    (∀ runner, ends = b.endings runner tree → b.merger.macroIsText = true →
      (∀ job ∈ b.jobs, job.IsAddressable tree) → ∃ report, outcome.report = .ok report) ∧
    (∀ fault, outcome.report = .error fault → ∀ e ∈ all, e.stage ≠ Stage.complete.name) ∧
    (∀ e ∈ all, b.Within e) ∧
    ∀ (screen : Screen) (o : Progress.Options), screen.KeepsBars → o.terminal = true →
      o.quiet = false → 0 < b.size →
      ∃ first, Progress.start screen o {} b.size = .ok first ∧
        (∀ shown, shown <+: all → ∃ bar,
          (Progress.advanceAll screen o first.state shown).bar = some bar ∧
          Progress.Counts screen b.size bar) ∧
        ∀ report, outcome.report = .ok report →
          (∃ last bar, Progress.followAll screen o first.state all = .ok last ∧
            last.bar = some bar ∧ screen.completed bar = b.size ∧ screen.total bar = b.size) ∨
          o.verbose = true ∧ ∃ e ∈ all, ∃ fault,
            screen.line (Progress.detailLine e) = .error fault ∧
            Progress.followAll screen o first.state all = .error (.screen fault) := by
  intro outcome all
  have hwithin : ∀ e ∈ all, b.Within e := fun e he => within_of_mem_events hrun hdone he
  have hreported : ∀ report, outcome.report = .ok report →
      all = b.discovering :: b.mergings ends 0 pool.collected ++
        b.writings ends (b.inJobOrder pool) ++ [b.complete report] := by
    intro report hreport
    obtain ⟨fault, -, -, herror, -⟩ | ⟨report', hok, hevents⟩ := events_conclude b ends tree pool
    · exact absurd (hreport.symm.trans herror) (by simp)
    · obtain rfl := Except.ok.inj (hreport.symm.trans hok)
      exact hevents
  refine ⟨?_, exists_report tree, ?_, fun fault hfault e he => stage_ne_complete hfault he,
    hwithin, ?_⟩
  · intro report hreport
    exact ⟨_, _, phases_of_report hrun hdone hreport, hreported report hreport⟩
  · rintro runner rfl hname haddress
    refine exists_report tree fun i _ job hjob => ?_
    have hasked := haddress job (List.mem_of_getElem? hjob)
    exact ⟨hasked.exists_merge hname _ _ _, hasked.output⟩
  intro screen o hkeeps hterminal hquiet hpos
  -- in a batch with files the bound on an index is the number of files
  have hbounds : ∀ e ∈ all, e.total = b.size ∧ 0 ≤ e.index ∧ e.index < b.size := by
    intro e he
    obtain ⟨htotal, hindex, hlt⟩ := hwithin e he
    exact ⟨htotal, hindex, by omega⟩
  obtain ⟨first, bar, hfirst, hbar, hcounts⟩ :=
    Progress.start_on_terminal hkeeps hterminal hquiet b.size
  refine ⟨first, hfirst, fun shown hshown => ?_, fun report hreport => ?_⟩
  · exact Progress.exists_bar_advanceAll hkeeps hquiet
      (fun e he => hbounds e (hshown.subset he)) hbar hcounts
  · rcases Progress.followAll_cases screen o first.state all with
      hfollowed | ⟨hverbose, -, hdetail⟩
    · have hend : (b.complete report).index + 1 = b.size := by
        simp only [complete, told]
        omega
      rw [hfollowed]
      rw [hreported report hreport] at hbounds ⊢
      obtain ⟨last, hlast, hcounted⟩ := Progress.exists_bar_advanceAll_concat hkeeps hquiet
        (fun e he => hbounds e (List.mem_append_left _ he)) rfl hend hpos hbar hcounts
      exact .inl ⟨_, last, rfl, hlast, hcounted⟩
    · exact .inr ⟨hverbose, hdetail⟩

/-- The second of two jobs has no transformed file, and is completed before the first. The bar is
one of the console. -/
theorem events_follow_protocol_for_two :
    let tree : Tree :=
      { files := [(["o", "a.rs"], Utf8.encode "/// A.\nfn a() {}\n".toList),
          (["t", "a.rs"], Utf8.encode "#[omnidoc]\nfn a() {}\n".toList)] }
    let job (name : String) : Job := ⟨⟨.root, ["o", name]⟩, ⟨.root, ["t", name]⟩,
      ⟨.here, ["out", name]⟩, name⟩
    let b : Batch := ⟨[job "a.rs", job "b.rs"], {}, .migrate, false, false⟩
    let ends := b.endings Formatter.echo tree
    let late : List Pool.Action :=
      [.start 0, .start 1, .finish 1, .collect 1, .finish 0, .collect 0]
    let pool : Pool := { size := 2, collected := [1, 0] }
    let outcome := b.conclude ends tree pool
    let o : Progress.Options := { terminal := true }
    Console.screen.KeepsBars ∧
      (Pool.ofSize b.size).run? (b.stops ends) late = some pool ∧ pool.isDone = true ∧
      ∃ report collecting written, outcome.report = .ok report ∧
        b.Phases ends pool collecting written ∧
        events outcome.course =
          b.discovering :: collecting ++ written ++ [b.complete report] ∧
        ∃ first last bar, Progress.start Console.screen o {} 2 = .ok first ∧
          Progress.followAll Console.screen o first.state (events outcome.course) = .ok last ∧
          last.bar = some bar ∧ Console.screen.completed bar = 2 ∧
          Console.screen.total bar = 2 := by
  intro tree job b ends late pool outcome o
  have hrun : (Pool.ofSize b.size).run? (b.stops ends) late = some pool := by decide +kernel
  have haddress : ∀ job ∈ b.jobs, job.IsAddressable tree := by decide +kernel
  obtain ⟨hphases, -, hexists, -, -, hbar⟩ :=
    events_follow_protocol b ends tree late pool hrun rfl
  obtain ⟨report, hreport⟩ := hexists Formatter.echo rfl rfl haddress
  obtain ⟨collecting, written, hall, hevents⟩ := hphases report hreport
  obtain ⟨first, hfirst, -, hlast⟩ :=
    hbar Console.screen o Console.keepsBars rfl rfl (by decide)
  rcases hlast report hreport with ⟨last, bar, hfollowed, hshown, hcounted⟩ | ⟨hverbose, -⟩
  · exact ⟨Console.keepsBars, hrun, rfl, report, collecting, written, hreport, hall, hevents,
      first, last, bar, hfirst, hfollowed, hshown, hcounted⟩
  · exact absurd hverbose Bool.false_ne_true

/-- The transformed path of the second of two jobs is too long to be looked for. The run breaks off
there and never tells of its end. -/
theorem too_long_path_leaves_no_end :
    let tree : Tree :=
      { files := [(["o", "a.rs"], Utf8.encode "/// A.\nfn a() {}\n".toList),
          (["o", "b.rs"], Utf8.encode "/// B.\nfn b() {}\n".toList),
          (["t", "a.rs"], Utf8.encode "#[omnidoc]\nfn a() {}\n".toList)] }
    let long := String.ofList (List.replicate 300 'z')
    let first : Job := ⟨⟨.here, ["o", "a.rs"]⟩, ⟨.here, ["t", "a.rs"]⟩, ⟨.here, ["o", "a.rs"]⟩, ""⟩
    let second : Job := ⟨⟨.here, ["o", "b.rs"]⟩, ⟨.here, ["t", long]⟩, ⟨.here, ["o", "b.rs"]⟩, ""⟩
    let b : Batch := ⟨[first, second], {}, .migrate, false, false⟩
    ∀ e ∈ events (b.run Formatter.echo tree (.int 4)).course, e.stage ≠ Stage.complete.name := by
  intro tree long first second b e he
  have hnull : ¬ second.transformed.HasNull :=
    Path.not_hasNull_of_replicate ["t"] (by decide) (by decide) 300
  have hlong : tree.place second.transformed = .error .nameTooLong :=
    Tree.place_of_long_name ["t"] (q := ["t"]) hnull (by decide +kernel) (by decide +kernel)
      (by decide +kernel)
  have hsecond : second ∈ b.jobs := List.mem_cons_of_mem first (List.mem_singleton_self second)
  have hends := canEndIn_run b Formatter.echo tree (.int 4) rfl
  obtain ⟨⟨abort, hreport⟩, -⟩ :=
    hends.of_not_allReport rfl (not_allReport_of_nameTooLong hsecond hlong)
  obtain ⟨actions, pool, -, -, houtcome⟩ := hends
  rw [houtcome] at hreport he
  exact stage_ne_complete hreport he

end Batch

end DocGraft
