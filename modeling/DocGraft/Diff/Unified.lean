import DocGraft.Diff.Alignment
import DocGraft.Text.LineBreak

/-!
# Unified diffs

A unified diff shows the changes of a text in groups, each with up to three unchanged lines around
it and a header with its place in both texts. The lines keep the boundaries they have, so the
entries follow each other without anything between them.
-/

namespace DocGraft.Diff

namespace Segment

variable {α : Type}

def before : Segment α → List α
  | .same run => run
  | .change removed _ => removed

def after : Segment α → List α
  | .same run => run
  | .change _ added => added

def isChange : Segment α → Bool
  | .same _ => false
  | .change _ _ => true

end Segment

/-- Neighbouring segments, from `beforeStart` in the first list and `afterStart` in the second. -/
structure Group (α : Type) where
  beforeStart : Nat
  afterStart : Nat
  segments : List (Segment α)
  deriving DecidableEq, Repr

namespace Group

variable {α : Type}

def before (g : Group α) : List α := g.segments.flatMap Segment.before

def after (g : Group α) : List α := g.segments.flatMap Segment.after

/-- The number of unchanged lines that are shown around a change. -/
def context : Nat := 3

/-- Puts a segment in front of the first group, which then starts at `i` and `j`. -/
def cons (i j : Nat) (s : Segment α) : List (Group α) → List (Group α)
  | [] => [⟨i, j, [s]⟩]
  | g :: rest => ⟨i, j, s :: g.segments⟩ :: rest

/-- The groups of segments that start at `i` and `j`: a run of more unchanged lines than two
contexts ends one group and starts another. -/
def cut : (i j : Nat) → List (Segment α) → List (Group α)
  | _, _, [] => []
  | i, j, .same run :: rest =>
    let later := cut (i + run.length) (j + run.length) rest
    if 2 * context < run.length then
      let skipped := run.length - context
      ⟨i, j, [.same (run.take context)]⟩ ::
        cons (i + skipped) (j + skipped) (.same (run.drop skipped)) later
    else cons i j (.same run) later
  | i, j, .change removed added :: rest =>
    cons i j (.change removed added) (cut (i + removed.length) (j + added.length) rest)

/-- The segments with no more than one context behind the last change. -/
def trimTail : List (Segment α) → List (Segment α)
  | [] => []
  | [.same run] => [.same (run.take context)]
  | s :: rest => s :: trimTail rest

/-- The groups of an alignment that hold a change, with no more than one context before the first
and behind the last change. -/
def ofSegments (segments : List (Segment α)) : List (Group α) :=
  let groups := match trimTail segments with
    | .same run :: rest =>
      let skipped := run.length - context
      cut skipped skipped (.same (run.drop skipped) :: rest)
    | trimmed => cut 0 0 trimmed
  groups.filter fun g => g.segments.any Segment.isChange

end Group

/-- A line that occurs more than once in a hundred lines, in a text of at least two hundred, anchors
no block. -/
def popular {α : Type} [DecidableEq α] (lines : List α) : List α :=
  if lines.length < 200 then []
  else lines.eraseDups.filter fun l => lines.length / 100 + 1 < lines.count l

namespace Unified

/-- The place of a group in one text: its first line, counted from one, and its length unless that
is one. A range without lines is placed at the line before it. -/
def range (start length : Nat) : String :=
  if length = 1 then toString (start + 1)
  else toString (if length = 0 then start else start + 1) ++ "," ++ toString length

def header (g : Group Text) : Text :=
  ("@@ -" ++ range g.beforeStart g.before.length ++ " +" ++
    range g.afterStart g.after.length ++ " @@\n").toList

def segmentEntries : Segment Text → List Text
  | .same run => run.map (' ' :: ·)
  | .change removed added => removed.map ('-' :: ·) ++ added.map ('+' :: ·)

def groupEntries (g : Group Text) : List Text := header g :: g.segments.flatMap segmentEntries

def groups (before after : Text) : List (Group Text) :=
  let common := popular (Text.brokenLines after)
  Group.ofSegments (align common.contains (Text.brokenLines before) (Text.brokenLines after))

/-- The two lines that name the texts, and the groups; nothing if there are no groups. -/
def entries (before after path : Text) : List Text :=
  match groups before after with
  | [] => []
  | gs =>
    ("--- a/".toList ++ path ++ ['\n']) :: ("+++ b/".toList ++ path ++ ['\n']) ::
      gs.flatMap groupEntries

def diff (before after path : Text) : Text := (entries before after path).flatten

end Unified

end DocGraft.Diff
