import DocGraft.Batch.Job
import DocGraft.Batch.Pool
import DocGraft.Progress

/-!
# Runs of a batch

All jobs are merged in a pool; when the pool is done, the texts are written in the order of the
jobs. The course of a run is the list of its events and entries. What follows from the endings of
the jobs does not ask how they came about.
-/

namespace DocGraft

/-- Something that is told during a run. -/
inductive Happening
  | entry (e : Entry)
  | event (e : Event)
  deriving DecidableEq, Repr

namespace Happening

def event? : Happening → Option Event
  | .event e => some e
  | .entry _ => none

def entry? : Happening → Option Entry
  | .entry e => some e
  | .event _ => none

end Happening

structure Batch where
  jobs : List Job
  merger : Merger
  direction : Direction
  dryRun : Bool := false
  /-- A failure cancels the jobs that wait. -/
  failFast : Bool := false

namespace Batch

/-- The size of a pool: the number in the settings, and at least one. -/
def poolSize : Value → Option Value
  | .int n => some (.int (max 1 n))
  | .bool _ => some (.int 1)
  | .float x => some (if x.exceeds 1 then .float x else .int 1)
  | _ => none

inductive Fault
  /-- The size of the pool is no number. -/
  | poolSize (value : Value)
  | job (abort : Job.Abort)
  deriving Repr, BEq

structure Outcome where
  report : Except Fault BatchReport
  tree : Tree
  course : List Happening

/-- How each job ends, by its number. -/
abbrev Endings := Nat → Job → Job.Ending

/-- The endings of jobs that are merged on one tree. -/
def endings (b : Batch) (runner : Runner) (tree : Tree) : Endings := fun _ job =>
  job.ending b.merger runner tree b.direction b.dryRun

variable (b : Batch) (ends : Endings) (tree : Tree)

def size : Nat := b.jobs.length

def resultAt (i : Nat) : Option (Except Job.Abort Job.Merged) :=
  b.jobs[i]?.map fun job => (ends i job).result

def hasFailed : Except Job.Abort Job.Merged → Bool
  | .ok m => m.report.status = .failed
  | .error _ => false

def stops (i : Nat) : Bool := b.failFast && (b.resultAt ends i).any hasFailed

def event (stage : Stage) (path : Option String) (index : Nat) (detail : String) : Happening :=
  .event ⟨stage.name, path, index, b.size, detail⟩

def opening : List Happening :=
  [b.event .discovering none 0 (toString b.size ++ " file(s) to " ++ b.direction.name)]

/-- What is told when a result is collected as the `done`-th one. -/
def collecting (pool : Pool) (done i : Nat) (job : Job) (m : Job.Merged) : List Happening :=
  (ends i job).trace.map .entry ++
    [b.event .merging (some job.name) done (job.name ++ ": " ++ m.report.status.name)] ++
    if pool.stoppedBy = some i then
      [.entry ⟨.warning, .batch, "Stopping after failure in " ++ job.name ++ "; " ++
        toString pool.cancelled.length ++ " file(s) not run"⟩]
    else []

/-- What is told while results are collected, up to a job that gives none. -/
def collectingAll (pool : Pool) : (done : Nat) → List Nat → List Happening × Option Job.Abort
  | _, [] => ([], none)
  | done, i :: rest =>
    match b.jobs[i]?, b.resultAt ends i with
    | some job, some (.ok m) =>
      let (later, abort) := collectingAll pool (done + 1) rest
      (b.collecting ends pool done i job m ++ later, abort)
    | some job, some (.error abort) => ((ends i job).trace.map .entry, some abort)
    | _, _ => collectingAll pool done rest

/-- Writes a text to its place, and makes the directories on the way. -/
def writeJob (t : Tree) (job : Job) (text : Text) : Tree × Option FileError :=
  match t.ensureDirs job.output.parent with
  | (t, some e) => (t, some e)
  | (t, none) =>
    match t.writeText job.output text with
    | .error e => (t, some e)
    | .ok t => (t, none)

/-- The tree, the reports and the course after writing the texts of some jobs, and the reason to
give up, if there is one. -/
structure Writing where
  tree : Tree
  files : List FileReport := []
  course : List Happening := []
  abort : Option Job.Abort := none

/-- Writes what a job has to write; a fault makes its report a failure. -/
def writeOne (w : Writing) (i : Nat) (job : Job) (m : Job.Merged) : Writing :=
  match m.text, b.dryRun with
  | some text, false =>
    let start := b.event .writing (some job.name) i ("Writing " ++ job.output.text)
    match writeJob w.tree job text with
    | (t, none) =>
      { w with tree := t, files := w.files ++ [m.report], course := w.course ++ [start] }
    | (t, some e) =>
      if e.fault = .nullCharacter then
        { w with tree := t, course := w.course ++ [start], abort := some (.file e) }
      else
        { w with
          tree := t
          files := w.files ++ [Job.failed job.name e.message]
          course := w.course ++ [start, .entry ⟨.error, .batch,
            "Failed to write " ++ job.output.text ++ ": " ++ e.message⟩] }
  | _, _ => { w with files := w.files ++ [m.report] }

def writeAll (w : Writing) : List Nat → Writing
  | [] => w
  | i :: rest =>
    match w.abort, b.jobs[i]?, b.resultAt ends i with
    | none, some job, some (.ok m) => writeAll (b.writeOne w i job m) rest
    | some _, _, _ => w
    | _, _, _ => writeAll w rest

def closing (report : BatchReport) : List Happening :=
  [b.event .complete none (b.size - 1) (toString report.changed ++ " rewritten, " ++
    toString report.unchanged ++ " unchanged, " ++ toString report.failed ++ " failed")]

/-- The numbers of the collected jobs in the order of the jobs. -/
def inJobOrder (pool : Pool) : List Nat := (List.range b.size).filter pool.collected.contains

/-- What follows from a pool that is done. -/
def conclude (pool : Pool) : Outcome :=
  let (told, abort) := b.collectingAll ends pool 0 pool.collected
  match abort with
  | some abort => ⟨.error (.job abort), tree, b.opening ++ told⟩
  | none =>
    let w := b.writeAll ends { tree := tree } (b.inJobOrder pool)
    match w.abort with
    | some abort => ⟨.error (.job abort), w.tree, b.opening ++ told ++ w.course⟩
    | none =>
      let report : BatchReport := ⟨.text b.direction.name, .bool b.dryRun, w.files⟩
      ⟨.ok report, w.tree, b.opening ++ told ++ w.course ++ b.closing report⟩

/-- A run with one job after the other; the size of the pool has to be a number. -/
def run (b : Batch) (runner : Runner) (tree : Tree) (workers : Value) : Outcome :=
  match poolSize workers with
  | none => ⟨.error (.poolSize workers), tree, b.opening⟩
  | some _ =>
    let ends := b.endings runner tree
    b.conclude ends tree (.sequential (b.stops ends) b.size)

end Batch

end DocGraft
