import DocGraft.Bookend.DocAttribute
import DocGraft.Line.Kind
import DocGraft.Text.LineBreak

/-!
# Macro lines between bookends

A formatter has no use for a lone inner attribute. Its content is put between the bookends of a
constant, where it is an expression, and taken out again when it is formatted.
-/

namespace DocGraft.Bookend

open Text (trim)

/-- The content of an inner attribute that is a line of its own; none if there is nothing in it. -/
def content? (l : Line) : Option Text := do
  let opened ← afterTokens? [['#'], ['!'], ['[']] l
  let inner ← beforeTokens? [[']']] opened
  if inner.contains '\n' || (trim inner).isEmpty then none else some (trim inner)

def opening : Text := "const _: i32 = \x7b".toList

def closing : Text := "\x7d;".toList

/-- The constant whose value is this content. -/
def wrap (content : Text) : Text := opening ++ [' '] ++ content ++ [' '] ++ closing

/-- The content of a constant, on one line; none if the bookends are lost or hold nothing. -/
def unwrap? (t : Text) : Option Text := do
  let opened ← Text.after? opening (trim t)
  let inner ← Text.before? closing opened
  let parts := (Text.bareLines inner).map trim |>.filter (!·.isEmpty)
  if parts.isEmpty then none else some ([' '].intercalate parts)

def innerAttribute (indent content : Text) : Line := indent ++ ['#', '!', '['] ++ content ++ [']']

end DocGraft.Bookend
