import DocGraft.Text.Basic

/-!
# Hunks

A hunk says that a run of lines of one text is replaced by a run of lines of another. Positions
count from zero and ranges are half open. A hunk is a pair of ranges only: whether they lie inside
two given texts is not part of it.
-/

namespace DocGraft

structure Hunk where
  beforeStart : Nat
  beforeCount : Nat
  afterStart : Nat
  afterCount : Nat
  deriving DecidableEq, Repr

namespace Hunk

def beforeEnd (h : Hunk) : Nat := h.beforeStart + h.beforeCount

def afterEnd (h : Hunk) : Nat := h.afterStart + h.afterCount

/-- The hunk only adds lines. -/
def isInsertion (h : Hunk) : Bool := h.beforeCount == 0

/-- The hunk only removes lines. -/
def isDeletion (h : Hunk) : Bool := h.afterCount == 0

/-- The lines with positions from `start` on, `count` of them or as many as there are. -/
def window (ls : List Line) (start count : Nat) : List Line := (ls.drop start).take count

/-- The lines that the hunk replaces. -/
def removed (h : Hunk) (before : List Line) : List Line := window before h.beforeStart h.beforeCount

/-- The lines that the hunk puts in their place. -/
def added (h : Hunk) (after : List Line) : List Line := window after h.afterStart h.afterCount

def describe (h : Hunk) : String :=
  "before[" ++ toString h.beforeStart ++ ".." ++ toString h.beforeEnd ++ "] -> after[" ++
    toString h.afterStart ++ ".." ++ toString h.afterEnd ++ "]"

/-- A member of a hunk that was given as a negative number. -/
structure Negative where
  member : String
  value : Int
  deriving DecidableEq, Repr

def Negative.message (n : Negative) : String :=
  n.member ++ " must be >= 0, got " ++ toString n.value

/-- A hunk from four integers; the first negative one is reported. -/
def ofInts (beforeStart beforeCount afterStart afterCount : Int) : Except Negative Hunk :=
  let members := [("before_start", beforeStart), ("before_count", beforeCount),
    ("after_start", afterStart), ("after_count", afterCount)]
  match members.find? fun p => p.2 < 0 with
  | some p => .error ⟨p.1, p.2⟩
  | none => .ok ⟨beforeStart.toNat, beforeCount.toNat, afterStart.toNat, afterCount.toNat⟩

end Hunk

end DocGraft
