import DocGraft.Text.Grapheme

/-!
# Lines of limited width

A text is cut into lines between words, and a word that is longer than a line is cut anywhere. The
blanks behind a word go with it and may stand over the end of the line.
-/

namespace DocGraft.Text

/-- The words from here on, behind the beginning of one in reverse. -/
def wordsFrom : (word : Text) → Text → List Text
  | word, [] => [word.reverse]
  | word, c :: rest =>
    if !isBlankChar c && word.head?.any isBlankChar && !isBlank word then
      word.reverse :: wordsFrom [c] rest
    else wordsFrom (c :: word) rest

/-- The words of a text, each with the blanks behind it; the blanks before the first word belong to
that word. -/
def words (t : Text) : List Text := wordsFrom [] t

/-- Pieces of at most `width` cells from here on, behind the beginning of one that has `used`
cells. -/
def chop (width : Nat) : (piece : Text) → (used : Nat) → List Grapheme → List Text
  | piece, _, [] => [piece]
  | piece, used, g :: rest =>
    if width < used + g.cells then piece :: chop width g.text g.cells rest
    else chop width (piece ++ g.text) (used + g.cells) rest

/-- The lines from here on, behind the beginning of one that has `used` cells: a word stays on the
current line if it fits there. -/
def fill (width : Nat) : (line : Text) → (used : Nat) → List Text → List Text
  | line, _, [] => [line]
  | line, used, word :: rest =>
    let size := cells (trimRight word)
    if used + size ≤ width then fill width (line ++ word) (used + cells word) rest
    else if size ≤ width then line :: fill width word (cells word) rest
    else
      let parts := chop width [] 0 (graphemes word)
      let last := parts.getLast?.getD []
      (if line.isEmpty then [] else [line]) ++ parts.dropLast ++ fill width last (cells last) rest

/-- The beginning of a line that has at most `width` cells. Half of a grapheme is a blank. -/
def crop : (width : Nat) → List Grapheme → Text
  | _, [] => []
  | width, g :: rest =>
    if g.cells ≤ width then g.text ++ crop (width - g.cells) rest
    else List.replicate width ' '

/-- A line of at most `width` cells; blanks over the end are the first to go. -/
def fit (width : Nat) (line : Text) : Text :=
  let blanks := (line.reverse.takeWhile isBlankChar).length
  let line := line.take (line.length - min blanks (line.length - width))
  if cells line ≤ width then line else crop width (graphemes line)

def tabSize : Nat := 8

/-- A line from the parts between its tabs, with blanks up to the next stop in the place of each
tab. -/
def expandTabs : List Text → Text
  | [] => []
  | [part] => part
  | part :: rest =>
    let part := part ++ [' ']
    part ++ List.replicate ((tabSize - cells part % tabSize) % tabSize) ' ' ++ expandTabs rest

/-- The lines of a text on a screen of this width. -/
def wrap (width : Nat) (t : Text) : List Text :=
  (pieces t).flatMap fun line =>
    (fill width [] 0 (words (expandTabs (line.splitOn '\t')))).map (fit width)

end DocGraft.Text
