import DocGraft.Text.Basic

/-!
# Line boundaries of printed text

A unified diff and the unwrapping of a macro line cut text at every character that Unicode or
ASCII calls a line boundary, not only at line feeds. Reading a file turns the two other common line
ends into line feeds.
-/

namespace DocGraft.Text

/-- Line feed, vertical tab, form feed, carriage return, the separators U+001C to U+001E, next
line, line separator and paragraph separator. -/
def lineBreaks : Ranges := [(0x0A, 0x0D), (0x1C, 0x1E), (0x85, 0x85), (0x2028, 0x2029)]

def isLineBreak (c : Char) : Bool := lineBreaks.has c.toNat

/-- The lines of a text with the boundary that ends each of them; a carriage return and a line feed
are one boundary. Their concatenation is the text. -/
def brokenLines : Text → List Text
  | [] => []
  | '\r' :: '\n' :: rest => ['\r', '\n'] :: brokenLines rest
  | c :: rest => if isLineBreak c then [c] :: brokenLines rest else consHead c (brokenLines rest)

/-- The same lines without their boundaries. -/
def bareLines : Text → List Text
  | [] => []
  | '\r' :: '\n' :: rest => [] :: bareLines rest
  | c :: rest => if isLineBreak c then [] :: bareLines rest else consHead c (bareLines rest)

/-- A text as it is read from a file: each line end is one line feed. -/
def normalizeEnds : Text → Text
  | [] => []
  | '\r' :: '\n' :: rest => '\n' :: normalizeEnds rest
  | '\r' :: rest => '\n' :: normalizeEnds rest
  | c :: rest => c :: normalizeEnds rest

end DocGraft.Text
