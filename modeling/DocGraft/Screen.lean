import DocGraft.Text.Basic

/-!
# Screens

What is meant for a reader is put on a screen: lines with markup, tables, texts that are set
already, and bars that count. How a screen shows them is left open. The program calls its
operations, and relies on what it is told about them here.
-/

namespace DocGraft

structure Column where
  header : String
  /-- The style of its cells. -/
  style : String
  deriving DecidableEq, Repr

/-- A table under a title. Its cells are texts with markup. -/
structure Grid where
  title : String
  columns : List Column
  rows : List (List String)
  deriving DecidableEq, Repr

/-- Why something cannot be shown: the kind of the fault and what is said about it. -/
structure Screen.Fault where
  kind : String
  message : String
  deriving DecidableEq, Repr

structure Screen where
  /-- A line with markup as it is shown. -/
  line : String → Except Screen.Fault String
  grid : Grid → Except Screen.Fault String
  block : Text → String
  Bar : Type
  /-- Starts a bar with a description and the number that it counts to. Older bars that were never
  ended are shown with it. -/
  addBar : (older : List Bar) → (description : String) → (total : Int) → Except Screen.Fault Bar
  describe : Bar → (description : String) → Bar
  count : Bar → (completed total : Int) → Bar
  /-- Shows a bar for the last time. -/
  endBar : Bar → Except Screen.Fault Unit
  description : Bar → String
  completed : Bar → Int
  total : Bar → Int

/-- The description of a bar before anything has happened. -/
def Screen.starting : String := "[cyan]STARTING"

/-- A bar keeps the two numbers that it was given last. One that has just been started has counted
nothing. -/
structure Screen.KeepsBars (screen : Screen) : Prop where
  addBar (total : Int) : ∃ bar, screen.addBar [] starting total = .ok bar ∧
    screen.completed bar = 0 ∧ screen.total bar = total
  count (bar : screen.Bar) (completed total : Int) :
    screen.completed (screen.count bar completed total) = completed ∧
      screen.total (screen.count bar completed total) = total

end DocGraft
