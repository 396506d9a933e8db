import DocGraft.Hunk.Relevance
import DocGraft.Trace

/-!
# Hunks that mix two levels

Equal lines do not show where a module's documentation ends and that of its first item starts, so
one hunk may cover both. The border is found by content: a line of module documentation, then blank
lines, then a line that an item's documentation starts with.
-/

namespace DocGraft.Hunk

/-- How many lines stand before the first item documentation that follows module documentation with
nothing but blank lines between them. -/
def border? (m : Markers) : List Line → Option Nat
  | [] => none
  | l :: rest =>
    let later := (border? m rest).map (· + 1)
    if Line.isModuleDoc m l then
      match rest.dropWhile Text.isBlank with
      | [] => none
      | c :: _ =>
        if !Line.isModuleDoc m c && Line.isItemDoc c then
          some ((rest.takeWhile Text.isBlank).length + 1)
        else later
    else later

/-- The position in the after text where the item documentation of a mixed hunk starts. -/
def splitPoint? (m : Markers) (after : List Line) (h : Hunk) : Option Nat :=
  (border? m (h.added after)).map (h.afterStart + ·)

/-- How many removed lines go with the module documentation: the line itself and the blank line
behind it, if there are as many. -/
def moduleShare (h : Hunk) : Nat := if 2 ≤ h.beforeCount then 2 else 1

/-- The two parts of a hunk that is cut at `point` of the after text. -/
def halves (h : Hunk) (point : Nat) : Hunk × Hunk :=
  let first := point - h.afterStart
  (⟨h.beforeStart, h.moduleShare, h.afterStart, first⟩,
    ⟨h.beforeStart + h.moduleShare, h.beforeCount - h.moduleShare, point, h.afterCount - first⟩)

/-- Where a hunk is cut, if it is: one that only adds or only removes lines never is. -/
def cut? (m : Markers) (after : List Line) (h : Hunk) : Option (Hunk × Hunk) :=
  if h.isInsertion || h.isDeletion then none
  else (h.splitPoint? m after).map h.halves

/-- The hunk, or its two parts if it mixes two levels. -/
def split (m : Markers) (after : List Line) (h : Hunk) : List Hunk :=
  match h.cut? m after with
  | some (first, second) => [first, second]
  | none => [h]

def splitAll (m : Markers) (after : List Line) (hunks : List Hunk) : List Hunk :=
  hunks.flatMap (split m after)

/-- One entry for each hunk that is cut. -/
def splitTrace (m : Markers) (after : List Line) (hunks : List Hunk) : Trace :=
  hunks.filterMap fun h => (h.cut? m after).map fun parts =>
    ⟨.debug, .splitter,
      "Split " ++ h.describe ++ " into " ++ parts.1.describe ++ " and " ++ parts.2.describe⟩

end DocGraft.Hunk
