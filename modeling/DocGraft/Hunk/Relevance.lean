import DocGraft.Hunk
import DocGraft.Line.Kind
import DocGraft.Value

/-!
# Hunks about documentation

Documentation moves in one of two directions: out of the sources, leaving markers behind, or back
into them. For each direction a hunk counts if the lines that it removes or adds say so. Only lines
inside its two ranges are looked at.
-/

namespace DocGraft

inductive Direction
  /-- Documentation leaves the source and markers take its place. -/
  | migrate
  /-- Markers leave the source and documentation takes their place. -/
  | restore
  deriving DecidableEq, Repr

def Direction.name : Direction → String
  | .migrate => "migrate"
  | .restore => "restore"

def Direction.ofName? : String → Option Direction
  | "migrate" => some .migrate
  | "restore" => some .restore
  | _ => none

def Direction.ofValue? : Value → Option Direction
  | .text name => ofName? name
  | _ => none

/-- What is said about a value that names no direction. -/
def Direction.invalid (value : Value) : String := value.shown ++ " is not a valid MergeDirection"

namespace Line

/-- Documentation in the source itself. -/
def isInlineDoc (l : Line) : Bool := isDocComment l || isDocLiteral l

/-- A stand-in for documentation kept elsewhere. -/
def isMarker (m : Markers) (l : Line) : Bool := isReferenceMarker m l || isModuleDocMacro m l

end Line

namespace Hunk

/-- The hunk removes documentation, or adds documentation or a marker. -/
def isDocChange (m : Markers) (before after : List Line) (h : Hunk) : Bool :=
  (h.removed before).any Line.isInlineDoc ||
    (h.added after).any fun l => Line.isInlineDoc l || Line.isMarker m l

/-- The hunk removes a marker or adds documentation. -/
def isDocReturn (m : Markers) (before after : List Line) (h : Hunk) : Bool :=
  (h.removed before).any (Line.isMarker m) || (h.added after).any Line.isInlineDoc

/-- Whether a merge in this direction applies the hunk. -/
def isRelevant : Direction → Markers → (before after : List Line) → Hunk → Bool
  | .migrate => isDocChange
  | .restore => isDocReturn

def isModuleLevel (m : Markers) (after : List Line) (h : Hunk) : Bool :=
  (h.added after).any (Line.isModuleDoc m)

def byStart (hunks : List Hunk) : List Hunk :=
  hunks.mergeSort fun h k => h.beforeStart ≤ k.beforeStart

/-- Hunks at module level come first; each of the two groups is in the order of the text. -/
def inOrder (m : Markers) (after : List Line) (hunks : List Hunk) : List Hunk :=
  byStart (hunks.filter (isModuleLevel m after)) ++
    byStart (hunks.filter fun h => !isModuleLevel m after h)

end Hunk

end DocGraft
