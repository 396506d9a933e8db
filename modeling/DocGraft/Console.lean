import DocGraft.Grid
import DocGraft.Markup
import DocGraft.Text.Wrap

/-!
# The console

A screen without colours and of fixed width: lines with markup are wrapped, and a text that is set
already is cut off at the right. Of a bar only its description is drawn. The names of emoji stay as
they are.
-/

namespace DocGraft.Console

/-- The number of cells in a line. -/
def width : Nat := 80

def ofLines (lines : List Text) : String :=
  String.join (lines.map fun line => String.ofList line ++ "\n")

/-- Whether a span is still there when a text is set in lines. One that covers nothing goes where
its text is cut. -/
def keeps (t : Text) (lines : List Text) (span : Markup.Span) : Bool :=
  (lines.length = 1 && !t.contains '\t') || span.covered.any (· ≠ '\n')

/-- Reads the style of a span. A text that gives no style does no harm. -/
def checkStyle (span : Markup.Span) : Except Markup.Fault Unit :=
  match Markup.Style.read span.style with
  | .ok _ | .error .unknown => .ok ()
  | .error refusal => .error (.style refusal)

def fault : Markup.Fault → Screen.Fault
  | .style refusal => ⟨"style", refusal.message⟩
  | _ => ⟨"markup", ""⟩

/-- A line with markup as it is shown. -/
def line (markup : String) : Except Screen.Fault String :=
  Except.mapError fault do
    let (t, spans) ← Markup.typeset markup
    let lines := Text.wrap width t
    (spans.filter (keeps t lines)).forM checkStyle
    return ofLines lines

/-- A cell without its markup. -/
def cell (markup : String) : Except Screen.Fault String :=
  Except.mapError fault do
    let (t, spans) ← Markup.typeset markup
    spans.forM checkStyle
    return String.ofList t

def grid (g : Grid) : Except Screen.Fault String := do
  let title ← cell g.title
  let columns ← g.columns.mapM fun c => do return { c with header := ← cell c.header }
  let rows ← g.rows.mapM fun row => row.mapM cell
  return Grid.render ⟨title, columns, rows⟩

/-- A text that is set already. -/
def block (t : Text) : String := ofLines ((Text.pieces t).map (Text.fit width))

structure Bar where
  description : String
  completed : Int
  total : Int
  deriving DecidableEq, Repr

/-- Draws a bar, whose description is a line with markup. -/
def Bar.draw (b : Bar) : Except Screen.Fault String :=
  line ("[progress.description]" ++ b.description)

def addBar (older : List Bar) (description : String) (total : Int) : Except Screen.Fault Bar := do
  let bar : Bar := ⟨description, 0, total⟩
  let _ ← (older ++ [bar]).mapM Bar.draw
  return bar

/-- The console as a screen. -/
def screen : Screen where
  line := line
  grid := grid
  block := block
  Bar := Bar
  addBar := addBar
  describe bar description := { bar with description }
  count bar completed total := { bar with completed, total }
  endBar bar := bar.draw.map fun _ => ()
  description := Bar.description
  completed := Bar.completed
  total := Bar.total

end DocGraft.Console
