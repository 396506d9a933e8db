import DocGraft.Bookend.Reformat
import DocGraft.Diff.Alignment
import DocGraft.Hunk.Unnamed
import DocGraft.Splice

/-!
# Merging documentation

There are two texts of one source: the base, whose code is kept, and the transformed one, whose
documentation is wanted. Both are formatted and compared, and the hunks that are about documentation
are applied to the base. All other lines are those of the formatted base.
-/

namespace DocGraft

open Formatter (Failure)

/-- What a merge is done with. -/
structure Merger where
  formatter : Formatter := {}
  markers : Markers := {}
  splitMixed : Bool := true
  reformatBookends : Bool := true
  /-- The macro for module documentation has a usable name. -/
  macroIsText : Bool := true

/-- What a merge has decided before it makes a text. -/
structure Plan where
  direction : Direction
  markers : Markers
  formattedBase : Text
  formattedTransformed : Text
  /-- The hunks of the comparison. -/
  hunks : List Hunk
  /-- The hunks to choose from. -/
  split : List Hunk

namespace Plan

def before (p : Plan) : List Line := Text.lines p.formattedBase

def after (p : Plan) : List Line := Text.lines p.formattedTransformed

def isRelevant (p : Plan) : Hunk → Bool := Hunk.isRelevant p.direction p.markers p.before p.after

/-- For each hunk to choose from, whether it is applied. -/
def relevant (p : Plan) : List Bool := p.split.map p.isRelevant

/-- For each hunk to choose from, whether it is about a module. -/
def moduleLevel (p : Plan) : List Bool := p.split.map (Hunk.isModuleLevel p.markers p.after)

def appliedCount (p : Plan) : Nat := p.relevant.count true

def hasChanges (p : Plan) : Bool := 0 < p.appliedCount

def application (p : Plan) : Application :=
  Application.ofHunks p.direction p.markers p.before p.after p.split

def diffTrace (p : Plan) : Trace :=
  Diff.trace p.before p.after ++
    Trace.ofHunks .merger (p.direction.name ++ " diff") p.before p.after p.hunks

def choiceTrace (p : Plan) : Trace :=
  [⟨.debug, .merger, p.direction.name ++ ": " ++ toString p.hunks.length ++ " hunk(s), " ++
    toString p.split.length ++ " after splitting, " ++ toString p.appliedCount ++ " relevant"⟩]

def needsName (p : Plan) : Bool :=
  p.split.any fun h => h.relevanceNeedsName p.direction p.markers p.before p.after ||
    h.levelNeedsName p.markers p.after

end Plan

namespace Merger

/-- The merger of the settings. A name that is no text marks nothing. -/
def ofSettings (s : Settings) : Except Settings.Fault Merger := do
  let name : Value → Text
    | .text t => t.toList
    | _ => [' ']
  let macroIsText := match s.markers.moduleMacro with
    | .text _ => true
    | _ => false
  return ⟨← Formatter.ofSettings s.formatter,
    ⟨name s.markers.reference, name s.markers.moduleMacro⟩, s.merge.splitMixed.isTrue,
    s.merge.reformatBookends.isTrue, macroIsText⟩

def planFormatted (g : Merger) (direction : Direction) (base transformed : Text) : Plan :=
  let after := Text.lines transformed
  let hunks := Diff.hunks (Text.lines base) after
  ⟨direction, g.markers, base, transformed, hunks,
    if g.splitMixed then Hunk.splitAll g.markers after hunks else hunks⟩

def splitNeedsName (g : Merger) (p : Plan) : Bool :=
  g.splitMixed && p.hunks.any (Hunk.splitNeedsName g.markers p.after)

/-- Whether making the plan needs a name that the macro does not have. -/
def planFails (g : Merger) (p : Plan) : Bool :=
  !g.macroIsText && (g.splitNeedsName p || p.needsName)

/-- The plan for two texts that are not formatted yet, before it is known whether it can be made. -/
def draft (g : Merger) (process : Runner) (direction : Direction) (base transformed : Text) :
    Except Failure Plan := do
  let base ← Formatter.format process base
  let transformed ← Formatter.format process transformed
  return g.planFormatted direction base transformed

def plan (g : Merger) (process : Runner) (direction : Direction) (base transformed : Text) :
    Except Failure Plan := do
  let p ← g.draft process direction base transformed
  if g.planFails p then .error .macroNotText else .ok p

/-- Whether macro lines are reformatted after the plan is applied. -/
def reformats (g : Merger) (p : Plan) : Bool := p.direction == .migrate && g.reformatBookends

def renderFails (g : Merger) (p : Plan) (h : Hunk) : Bool :=
  !g.macroIsText && p.isRelevant h && h.renderNeedsName p.before p.after

/-- Whether applying the plan needs a name that the macro does not have. -/
def applyFails (g : Merger) (p : Plan) : Bool :=
  p.split.any (g.renderFails p) ||
    (!g.macroIsText && g.reformats p &&
      (Text.pieces p.application.text).any Line.isInnerAttribute)

def apply (g : Merger) (process : Runner) (p : Plan) : Except Failure Text :=
  let merged := p.application.text
  if g.applyFails p then .error .macroNotText
  else if g.reformats p then Bookend.reformatText g.markers (Formatter.format process) merged
  else .ok merged

def merge (g : Merger) (process : Runner) (direction : Direction) (base transformed : Text) :
    Except Failure Text := do
  g.apply process (← g.plan process direction base transformed)

def attempts (g : Merger) (process : Runner) (p : Plan) : List Bookend.Attempt :=
  if g.reformats p then
    Bookend.Attempt.all g.markers (Formatter.format process) (Text.pieces p.application.text)
  else []

/-- The number of runs of the process in a merge that has this plan. -/
def runs (g : Merger) (process : Runner) (p : Plan) : Nat :=
  2 + ((g.attempts process p).filterMap Bookend.Attempt.input?).length

/-- The entries about cutting the hunks of a plan, up to one that stops it. -/
def splitTrace (g : Merger) (p : Plan) : Trace :=
  if g.splitMixed then
    Hunk.splitTrace g.markers p.after (p.hunks.takeWhile fun h =>
      g.macroIsText || !h.splitNeedsName g.markers p.after)
  else []

def planTrace (g : Merger) (process : Runner) (direction : Direction)
    (base transformed : Text) : Trace :=
  match g.draft process direction base transformed with
  | .ok p =>
    p.diffTrace ++ g.splitTrace p ++ if g.planFails p then [] else p.choiceTrace
  | .error failure => g.formatter.trace (.error failure)

/-- The entries of applying a plan, up to a hunk that stops it. -/
def applyTrace (g : Merger) (process : Runner) (p : Plan) : Trace :=
  if p.split.any (g.renderFails p) then
    p.application.traceUpTo .merger
      (p.application.ordered.takeWhile fun h => !g.renderFails p h)
  else
    p.application.trace .merger ++
      (g.attempts process p).flatMap (Bookend.Attempt.trace g.formatter .merger)

def trace (g : Merger) (process : Runner) (direction : Direction) (base transformed : Text) :
    Trace :=
  g.planTrace process direction base transformed ++
    match g.plan process direction base transformed with
    | .ok p => g.applyTrace process p
    | .error _ => []

end Merger

end DocGraft
