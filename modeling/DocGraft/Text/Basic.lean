/-!
# Texts

A text is a list of characters, and so is a line: everything that inspects source text is a
recursion over such a list. This file has the character class of blanks and the cutting, trimming
and joining that the rest of the library is written with.
-/

namespace DocGraft

/-- The content of a file, or any part of it. -/
abbrev Text := List Char

/-- A text that is looked at as one line; it usually holds no line feed, but it may. -/
abbrev Line := List Char

namespace Text

/-- A set of code points given by closed intervals. -/
abbrev Ranges := List (Nat × Nat)

def Ranges.has (ranges : Ranges) (n : Nat) : Bool :=
  ranges.any fun range => range.1 ≤ n && n ≤ range.2

/-- The white space characters of Unicode, and the four information separators. -/
def blanks : Ranges :=
  [(0x09, 0x0D), (0x1C, 0x20), (0x85, 0x85), (0xA0, 0xA0), (0x1680, 0x1680), (0x2000, 0x200A),
    (0x2028, 0x2029), (0x202F, 0x202F), (0x205F, 0x205F), (0x3000, 0x3000)]

def isBlankChar (c : Char) : Bool := blanks.has c.toNat

def trimLeft (t : Text) : Text := t.dropWhile isBlankChar

def trimRight (t : Text) : Text := (t.reverse.dropWhile isBlankChar).reverse

def trim (t : Text) : Text := trimRight (trimLeft t)

def indent (t : Text) : Text := t.takeWhile isBlankChar

def squash (t : Text) : Text := t.filter fun c => !isBlankChar c

def isBlank (t : Text) : Bool := t.all isBlankChar

/-- What follows `lead` in `t`, if `t` starts with it. -/
def after? : (lead t : Text) → Option Text
  | [], t => some t
  | _ :: _, [] => none
  | c :: lead, d :: t => if c = d then after? lead t else none

/-- What precedes `tail` in `t`, if `t` ends with it. -/
def before? (tail t : Text) : Option Text :=
  (after? tail.reverse t.reverse).map List.reverse

/-- Whether `part` stands somewhere in a text. -/
def holds (part : Text) : Text → Bool
  | [] => part.isEmpty
  | c :: t => part.isPrefixOf (c :: t) || holds part t

/-- The pieces of a text between line feeds; there is always one more piece than line feeds. -/
def pieces (t : Text) : List Line := t.splitOn '\n'

/-- Lines with a line feed between each two of them. -/
def unpieces (ls : List Line) : Text := ['\n'].intercalate ls

/-- A line without its final carriage return. -/
def dropReturn (l : Line) : Line :=
  if l.getLast? = some '\r' then l.dropLast else l

/-- The lines of a text: what lies between line feeds, where a final line feed ends the last line
and opens no new one, and a carriage return before a line feed belongs to the line end. -/
def lines (t : Text) : List Line :=
  let ps := pieces t
  (if ps.getLast? = some [] then ps.dropLast else ps).map dropReturn

/-- A text without the line feeds it ends in. -/
def dropFinalFeeds (t : Text) : Text := (t.reverse.dropWhile (· == '\n')).reverse

/-- The same text with exactly one line feed at its end; a text of line feeds only is empty. -/
def closed (t : Text) : Text :=
  match dropFinalFeeds t with
  | [] => []
  | body => body ++ ['\n']

/-- Prepends a character to the first of several pieces. -/
def consHead (c : Char) : List Text → List Text
  | [] => [[c]]
  | p :: ps => (c :: p) :: ps

end Text

end DocGraft
