import DocGraft.Hunk.Split

/-!
# Merges without a name for the macro

A setting may name the macro for module documentation by something that is no text. Such a name is
of no use, and the first inner attribute that has to be compared with it stops the merge. The
predicates here say where that happens; what is known before the comparison may make it needless.
-/

namespace DocGraft

/-- An inner attribute that is no documentation unless it calls the macro. -/
def Line.isOpenInner (l : Line) : Bool := isInnerAttribute l && !isDocAttribute l

namespace Hunk

/-- Looking for the border in a mixed hunk needs the name: lines behind the border do not count. -/
def splitNeedsName (m : Markers) (after : List Line) (h : Hunk) : Bool :=
  let lines := h.added after
  !(h.isInsertion || h.isDeletion) &&
    (lines.take ((border? m lines).getD lines.length)).any Line.isOpenInner

/-- Telling whether the hunk is relevant needs the name: no line before says so already. -/
def relevanceNeedsName (d : Direction) (m : Markers) (before after : List Line) (h : Hunk) : Bool :=
  match d with
  | .migrate =>
    !(h.removed before).any Line.isInlineDoc &&
      ((h.added after).takeWhile fun l =>
        !(Line.isInlineDoc l || Line.isReferenceMarker m l)).any Line.isInnerAttribute
  | .restore =>
    ((h.removed before).takeWhile fun l => !Line.isReferenceMarker m l).any Line.isInnerAttribute

def levelNeedsName (m : Markers) (after : List Line) (h : Hunk) : Bool :=
  ((h.added after).takeWhile fun l => !Line.isModuleDoc m l).any Line.isOpenInner

def renderNeedsName (before after : List Line) (h : Hunk) : Bool :=
  (h.removed before).any Line.isOpenInner || (h.added after).any Line.isOpenInner

end Hunk

end DocGraft
