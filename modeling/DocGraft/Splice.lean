import DocGraft.Bookend.DocAttribute
import DocGraft.Hunk.Render
import DocGraft.Trace

/-!
# Splicing hunks into a text

Each relevant hunk becomes a patch: a place in the base lines and the lines that go there. Patches
are spliced in from left to right; one that reaches back behind a place already passed is left out
and reported. Everything outside the patches is the base, line for line.
-/

namespace DocGraft

/-- Replaces `count` lines from `start` on. -/
structure Patch where
  start : Nat
  count : Nat
  lines : List Line
  deriving DecidableEq, Repr

namespace Patch

def ofHunk (m : Markers) (base after : List Line) (h : Hunk) : Patch :=
  ⟨h.beforeStart, h.beforeCount, h.render m base after⟩

def byStart (patches : List Patch) : List Patch :=
  patches.mergeSort fun p q => p.start ≤ q.start

/-- The place of a patch in a text of `size` lines. -/
def clip (p : Patch) (size : Nat) : Nat := min p.start size

/-- The lines from `cursor` on, with the patches in them. -/
def splice (base : List Line) : (cursor : Nat) → List Patch → List Line
  | cursor, [] => base.drop cursor
  | cursor, p :: rest =>
    let start := p.clip base.length
    if start < cursor then splice base cursor rest
    else
      (base.drop cursor).take (start - cursor) ++ p.lines ++
        splice base (min (start + p.count) base.length) rest

/-- The places of the patches that are left out because they start before the cursor. -/
def refused (size : Nat) : (cursor : Nat) → List Patch → List Nat
  | _, [] => []
  | cursor, p :: rest =>
    let start := p.clip size
    if start < cursor then start :: refused size cursor rest
    else refused size (min (start + p.count) size) rest

end Patch

/-- The application of hunks to a base: `relevant` tells which hunks count, and `post` is run
over the whole text before its end is put in order. -/
structure Application where
  base : List Line
  after : List Line
  hunks : List Hunk
  markers : Markers
  relevant : Hunk → Bool
  post : Text → Text

namespace Application

/-- The application of hunks in one direction: documentation that comes back is uncarried. -/
def ofHunks (direction : Direction) (m : Markers) (base after : List Line)
    (hunks : List Hunk) : Application where
  base := base
  after := after
  hunks := hunks
  markers := m
  relevant := Hunk.isRelevant direction m base after
  post := match direction with
    | .migrate => id
    | .restore => Bookend.uncarryAll

/-- The hunks in the order in which they are looked at. -/
def ordered (a : Application) : List Hunk := Hunk.inOrder a.markers a.after a.hunks

def patches (a : Application) : List Patch :=
  Patch.byStart ((a.ordered.filter a.relevant).map (Patch.ofHunk a.markers a.base a.after))

def lines (a : Application) : List Line := Patch.splice a.base 0 a.patches

/-- The merged text: the lines joined, passed through `post`, and ended by one line feed. -/
def text (a : Application) : Text := Text.closed (a.post (Text.unpieces a.lines))

/-- The entries about the first hunks: all hunks are listed, and of the first ones those that are
passed over are named. -/
def traceUpTo (source : Source) (a : Application) (first : List Hunk) : Trace :=
  Trace.ofHunks source "Applying hunks" a.base a.after a.ordered ++
    (first.filter fun h => !a.relevant h).map fun h =>
      ⟨.debug, source, "Skipping irrelevant hunk " ++ h.describe⟩

/-- The hunks, those that are passed over, and the patches that are left out. -/
def trace (source : Source) (a : Application) : Trace :=
  a.traceUpTo source a.ordered ++
    (Patch.refused a.base.length 0 a.patches).map fun start =>
      ⟨.warning, source,
        "Ignoring hunk overlapping already merged lines at " ++ toString start⟩

end Application

end DocGraft
