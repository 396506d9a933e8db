import DocGraft.Diff.Unified
import DocGraft.Files.Tree
import DocGraft.Merge
import DocGraft.Report.File

/-!
# Jobs of a batch

A job is a pair of files to merge and the place for the result. Merging a job reads files and writes
none, so what it gives depends on the tree and the job alone.
-/

namespace DocGraft

open Formatter (Failure)

structure Job where
  base : Path
  transformed : Path
  output : Path
  /-- The name of the job in reports; if it is empty, the path of the base is used. -/
  relative : String := ""
  deriving DecidableEq, Repr

namespace Job

def name (j : Job) : String := if j.relative.isEmpty then j.base.text else j.relative

inductive Fault
  /-- The file name endings are not several values. -/
  | endings (value : Value)
  /-- A file name ending is no text. -/
  | ending (value : Value)
  /-- What is below the base directory cannot be told. -/
  | file (e : FileError)
  deriving Repr, BEq

/-- Whether a file name ends in one of several ways, tried in their order. -/
def endsIn (name : Text) : List Value → Except Fault Bool
  | [] => .ok false
  | .text s :: rest => if s.toList.isSuffixOf name then .ok true else endsIn name rest
  | v :: _ => .error (.ending v)

def ofPlace (base transformed : Path) (output : Option Path) (place : Place) : Job :=
  ⟨base.append place, transformed.append place, (output.getD base).append place,
    (Path.mk .here place).text⟩

/-- The files whose names end in one of several ways. -/
def select (t : Tree) (base : Path) (endings : List Value) :
    List Place → Except Fault (List Place)
  | [] => .ok []
  | place :: rest => do
    let isFile ← (t.findFile (base.append place)).mapError .file
    let chosen ← if isFile then endsIn ((place.getLast?.getD "").toList) endings else .ok false
    let others ← select t base endings rest
    return if chosen then place :: others else others

/-- One job for each file below the base directory with one of the endings. -/
def discover (t : Tree) (base transformed : Path) (output : Option Path) (endings : Value) :
    Except Fault (List Job) := do
  match endings.parts? with
  | none => .error (.endings endings)
  | some suffixes =>
    let places ← (t.below base).mapError .file
    return (← select t base suffixes places).map (ofPlace base transformed output)

def discoverTrace (base : Path) (jobs : List Job) : Trace :=
  [⟨.debug, .batch, "Discovered " ++ toString jobs.length ++ " file(s) under " ++ base.text⟩]

inductive MergeFault
  | read (fault : ReadFault)
  | format (failure : Failure)
  deriving DecidableEq, Repr

def MergeFault.message (f : Formatter) : MergeFault → String
  | .read fault => fault.message
  | .format failure => failure.message f

structure Made where
  base : Text
  plan : Plan
  merged : Text

def texts (j : Job) (t : Tree) : Except ReadFault (Text × Text) := do
  return (← t.readText j.base, ← t.readText j.transformed)

def make (g : Merger) (runner : Runner) (t : Tree) (d : Direction) (j : Job) :
    Except MergeFault Made :=
  match j.texts t with
  | .error fault => .error (.read fault)
  | .ok (base, transformed) =>
    match g.plan runner d base transformed with
    | .error failure => .error (.format failure)
    | .ok plan =>
      match g.apply runner plan with
      | .error failure => .error (.format failure)
      | .ok merged => .ok ⟨base, plan, merged⟩

/-- The report on a job and the text to write, if there is something to write. -/
structure Merged where
  report : FileReport
  text : Option Text
  deriving Repr, BEq

def failed (name error : String) : FileReport :=
  { path := .text name, status := .failed, error := .text error }

def Made.isChanged (m : Made) : Bool := m.merged ≠ m.base

def Made.report (j : Job) (dryRun : Bool) (m : Made) : FileReport where
  path := .text j.name
  status := if m.isChanged then .changed else .unchanged
  total := .int m.plan.split.length
  applied := .int m.plan.appliedCount
  outputPath := .text j.output.text
  diff :=
    if dryRun && m.isChanged then
      .text (String.ofList (Diff.Unified.diff m.base m.merged j.name.toList))
    else .text ""

/-- An unchanged text that would go back to its own file is not written. -/
def Made.text (j : Job) (m : Made) : Option Text :=
  if !m.isChanged && j.output = j.base then none else some m.merged

/-- Why a job gives no report, so that there is none for the whole batch. -/
inductive Abort
  | macroNotText
  | file (e : FileError)
  deriving DecidableEq, Repr

/-- The reason to give up the batch, if a job stops with more than a failure of its own. -/
def MergeFault.abort? : MergeFault → Option Abort
  | .format .macroNotText => some .macroNotText
  | .read (.file e) => if e.fault = .nullCharacter then some (.file e) else none
  | _ => none

def merge (g : Merger) (runner : Runner) (t : Tree) (d : Direction) (dryRun : Bool) (j : Job) :
    Except Abort Merged :=
  match t.findFile j.transformed with
  | .error e => .error (.file e)
  | .ok false =>
    .ok ⟨failed j.name ("no transformed counterpart at " ++ j.transformed.text), none⟩
  | .ok true =>
    match make g runner t d j with
    | .ok m => .ok ⟨m.report j dryRun, m.text j⟩
    | .error fault =>
      match fault.abort? with
      | some abort => .error abort
      | none => .ok ⟨failed j.name (fault.message g.formatter), none⟩

def trace (g : Merger) (runner : Runner) (t : Tree) (d : Direction) (j : Job) : Trace :=
  match t.findFile j.transformed with
  | .ok true =>
    (match j.texts t with
      | .ok (base, transformed) => g.trace runner d base transformed
      | .error _ => []) ++
    match make g runner t d j with
    | .ok m =>
      [⟨.debug, .batch, j.name ++ ": " ++ (m.report j false).status.name ++ " (" ++
        toString m.plan.appliedCount ++ "/" ++ toString m.plan.split.length ++ " hunks)"⟩]
    | .error fault =>
      if fault.abort?.isSome then []
      else
        [⟨.error, .batch, "Failed to " ++ d.name ++ " " ++ j.name ++ ": " ++
          fault.message g.formatter⟩]
  | _ => []

/-- How a job ends: with what it gives, or without a report, and what was noted on the way. -/
structure Ending where
  result : Except Abort Merged
  trace : Trace := []
  deriving Repr

def ending (g : Merger) (runner : Runner) (t : Tree) (d : Direction) (dryRun : Bool) (j : Job) :
    Ending where
  result := merge g runner t d dryRun j
  trace := trace g runner t d j

end Job

end DocGraft
