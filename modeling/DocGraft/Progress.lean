import DocGraft.Report.Batch
import DocGraft.Screen
import DocGraft.Trace

/-!
# Progress of a batch

A reporter follows the events of a batch. On a terminal it keeps a bar, elsewhere it makes entries;
at the end it prints a summary. What it does at each step is a value. On a terminal a reporter that
tells the details shows them at once, so that a detail that cannot be shown ends what it follows.
-/

namespace DocGraft

inductive Stage
  | discovering
  | merging
  | writing
  | complete
  deriving DecidableEq, Repr

def Stage.name : Stage → String
  | .discovering => "DISCOVERING"
  | .merging => "MERGING"
  | .writing => "WRITING"
  | .complete => "COMPLETE"

/-- Something that happened in a batch. The stage is given by its name. -/
structure Event where
  stage : String
  path : Option String
  index : Int
  total : Int
  detail : String
  deriving DecidableEq, Repr

/-- Something that is printed: a line with markup, or a table. -/
inductive Item
  | line (markup : String)
  | grid (g : Grid)
  deriving DecidableEq, Repr

def Item.show (screen : Screen) : Item → Except Screen.Fault String
  | .line markup => screen.line markup
  | .grid g => screen.grid g

namespace Progress

structure Options where
  verbose : Bool := false
  quiet : Bool := false
  terminal : Bool := false
  deriving DecidableEq, Repr

/-- The stage, the bar, and the bars that were started before it and never ended. -/
structure State (screen : Screen) where
  stage : String := ""
  bar : Option screen.Bar := none
  older : List screen.Bar := []

/-- The next state, what is printed, and the entries. -/
structure Step (screen : Screen) where
  state : State screen
  printed : List Item := []
  trace : Trace := []

/-- Why a step cannot be made: something that cannot be shown, or a report without a sum. -/
inductive Fault
  | screen (fault : Screen.Fault)
  | report (fault : ReportFault)
  deriving Repr, BEq

variable (screen : Screen)

def note (message : String) : Trace := [⟨.info, .progress, message⟩]

/-- Starts a bar on a terminal. The bars that are not ended yet are shown with it. -/
def start (o : Options) (s : State screen) (total : Int) : Except Fault (Step screen) := do
  if o.quiet then return { state := s }
  else if o.terminal then
    let older := s.older ++ s.bar.toList
    let bar ← (screen.addBar older Screen.starting total).mapError .screen
    return { state := { s with bar := some bar, older } }
  else
    let message := "Batch started -- " ++ toString total ++ " files to process"
    return { state := s, trace := note message }

/-- The bar after an event: it names a new stage, and counts if there is something to count. -/
def barAfter (s : State screen) (e : Event) (bar : screen.Bar) : screen.Bar :=
  let named := if e.stage ≠ s.stage then screen.describe bar ("[cyan]" ++ e.stage) else bar
  if e.total ≠ 0 then screen.count named (e.index + 1) e.total else named

def detailLine (e : Event) : String := "  [dim]" ++ e.detail ++ "[/dim]"

/-- The state after an event, and what is to be printed about it. -/
def advance (o : Options) (s : State screen) (e : Event) : Step screen :=
  if o.quiet then { state := s }
  else
    let state := { s with stage := e.stage, bar := s.bar.map (barAfter screen s e) }
    if o.verbose then
      if e.detail.isEmpty then { state }
      else if o.terminal then { state, printed := [.line (detailLine e)] }
      else { state, trace := note e.detail }
    else if o.terminal then { state }
    else
      { state,
        trace := note (e.stage ++ " [" ++ toString (e.index + 1) ++ "/" ++ toString e.total ++
          "] " ++ e.detail) }

/-- Follows an event, and shows what is to be printed about it. -/
def follow (o : Options) (s : State screen) (e : Event) : Except Fault (Step screen) := do
  let step := advance screen o s e
  let _ ← (step.printed.mapM (Item.show screen)).mapError .screen
  return step

def summaryGrid (r : BatchReport) : Except ReportFault Grid := do
  return ⟨r.summaryTitle, [⟨"Metric", "cyan"⟩, ⟨"Value", "green"⟩],
    [["Processed", toString r.processed], ["Rewritten", toString r.changed],
      ["Unchanged", toString r.unchanged], ["Failed", toString r.failed],
      ["Hunks applied", (← r.applied).asText]]⟩

def errorItems (o : Options) (errors : List String) : List Item :=
  if errors.isEmpty then []
  else
    .line ("[red]Errors: " ++ toString errors.length ++ "[/red]") ::
      if o.verbose then errors.map fun e => .line ("  - " ++ e)
      else [.line "Run with --verbose to see details"]

/-- Ends the bar, and gives the summary that is to be printed. -/
def finish (o : Options) (s : State screen) (r : BatchReport) : Except Fault (Step screen) := do
  let _ ← (s.bar.toList.mapM screen.endBar).mapError .screen
  let state := { s with bar := none }
  if o.quiet then return { state }
  else
    let grid ← (summaryGrid r).mapError .report
    return { state, printed := .grid grid :: errorItems o r.errors }

end Progress

end DocGraft
