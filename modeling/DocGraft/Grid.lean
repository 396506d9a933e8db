import DocGraft.Screen

/-!
# Printed tables

A grid of cells in box characters under a title. A column is as wide as its widest cell with one
blank on each side, and the title stands in the middle.
-/

namespace DocGraft.Grid

def headers (g : Grid) : List String := g.columns.map Column.header

/-- For each column the size of its largest cell. -/
def widths (g : Grid) : List Nat :=
  g.rows.foldl (fun sizes row => List.zipWith (fun n cell => max n cell.length) sizes row)
    (g.headers.map String.length)

def blank (n : Nat) : String := String.ofList (List.replicate n ' ')

/-- The characters of a horizontal line: its ends, its joints and what lies between them. -/
structure Border where
  left : String
  joint : String
  right : String
  line : Char

def top : Border := ⟨"┏", "┳", "┓", '━'⟩

def underHeaders : Border := ⟨"┡", "╇", "┩", '━'⟩

def bottom : Border := ⟨"└", "┴", "┘", '─'⟩

def Border.render (b : Border) (widths : List Nat) : String :=
  b.left ++
    b.joint.intercalate (widths.map fun n => String.ofList (List.replicate (n + 2) b.line)) ++
    b.right

def renderRow (bar : String) (widths : List Nat) (cells : List String) : String :=
  bar ++ bar.intercalate (List.zipWith (fun n cell =>
    " " ++ cell ++ blank (n - cell.length) ++ " ") widths cells) ++ bar

/-- The number of characters in a line of the grid. -/
def width (g : Grid) : Nat := g.widths.foldl (fun n w => n + w + 3) 1

def lines (g : Grid) : List String :=
  let w := g.widths
  [blank ((g.width - g.title.length) / 2) ++ g.title, top.render w, renderRow "┃" w g.headers,
    underHeaders.render w] ++ g.rows.map (renderRow "│" w) ++ [bottom.render w]

def render (g : Grid) : String := String.join (g.lines.map (· ++ "\n"))

end DocGraft.Grid
