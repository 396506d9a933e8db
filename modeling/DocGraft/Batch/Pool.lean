/-!
# Pools of jobs

The jobs of a batch wait, run, end, and have their results collected, each in its own time. When a
result that stops the batch is collected, every job is asked, once and one after the other, to be
cancelled before the next result is collected; a job gives in if it still waits. Meanwhile other
jobs may start and end.
-/

namespace DocGraft

/-- The jobs by their numbers. -/
structure Pool where
  size : Nat := 0
  waiting : List Nat := []
  running : List Nat := []
  ended : List Nat := []
  /-- The jobs whose results were collected, in the order of collection. -/
  collected : List Nat := []
  cancelled : List Nat := []
  /-- The job that stopped the batch. -/
  stoppedBy : Option Nat := none
  /-- The jobs that are still to be asked. -/
  asking : List Nat := []
  deriving DecidableEq, Repr

namespace Pool

/-- A step of one job, or the question to the next job that is to be asked. -/
inductive Action
  | start (i : Nat)
  | finish (i : Nat)
  | collect (i : Nat)
  | ask
  deriving DecidableEq, Repr

def ofSize (n : Nat) : Pool := { size := n, waiting := List.range n }

/-- The pool after an action, if the action is possible; `stops` tells the jobs whose results stop
the batch. -/
def step? (stops : Nat → Bool) (p : Pool) : Action → Option Pool
  | .start i =>
    if p.waiting.contains i then
      some { p with waiting := p.waiting.erase i, running := p.running ++ [i] }
    else none
  | .finish i =>
    if p.running.contains i then
      some { p with running := p.running.erase i, ended := p.ended ++ [i] }
    else none
  | .collect i =>
    if p.ended.contains i && p.asking.isEmpty then
      let p := { p with ended := p.ended.erase i, collected := p.collected ++ [i] }
      if stops i && p.stoppedBy.isNone then
        some { p with stoppedBy := some i, asking := List.range p.size }
      else some p
    else none
  | .ask =>
    match p.asking with
    | [] => none
    | i :: rest =>
      if p.waiting.contains i then
        some { p with
          waiting := p.waiting.erase i, cancelled := p.cancelled ++ [i], asking := rest }
      else some { p with asking := rest }

def run? (stops : Nat → Bool) : Pool → List Action → Option Pool
  | p, [] => some p
  | p, a :: rest => (p.step? stops a).bind fun q => run? stops q rest

def isDone (p : Pool) : Bool :=
  p.waiting.isEmpty && p.running.isEmpty && p.ended.isEmpty && p.asking.isEmpty

/-- The pool after the possible ones of several actions. -/
def advance (stops : Nat → Bool) (p : Pool) (actions : List Action) : Pool :=
  actions.foldl (fun p a => (p.step? stops a).getD p) p

/-- One job after the other, each collected and all questions asked before the next one starts. -/
def oneByOne (n : Nat) : List Action :=
  (List.range n).flatMap fun i =>
    [.start i, .finish i, .collect i] ++ List.replicate n .ask

/-- The pool when all jobs were run one by one. -/
def sequential (stops : Nat → Bool) (n : Nat) : Pool := (ofSize n).advance stops (oneByOne n)

end Pool

end DocGraft
