import DocGraft.Text.Basic

/-!
# Doc comments carried in attributes

A tool that works on tokens cannot keep a doc comment, so it carries the comment in the string
literal of a doc attribute: `#[doc = "/// text"]`. Here such a line is turned back into the comment.
-/

namespace DocGraft.Bookend

open Text (trimLeft trimRight)

/-- Consumes tokens at the start of a text, with any blanks before each of them. -/
def afterTokens? : List Text → Text → Option Text
  | [], t => some t
  | token :: tokens, t => (Text.after? token (trimLeft t)).bind (afterTokens? tokens)

/-- Removes tokens at the end of a text, the last one first, with any blanks behind each. -/
def beforeTokens? : List Text → Text → Option Text
  | [], t => some t
  | token :: tokens, t => (Text.before? token (trimRight t)).bind (beforeTokens? tokens)

/-- Takes the backslash off an escaped quote, apostrophe or backslash. -/
def unescape : Text → Text
  | [] => []
  | '\\' :: c :: rest =>
    if c == '"' || c == '\'' || c == '\\' then c :: unescape rest else '\\' :: unescape (c :: rest)
  | c :: rest => c :: unescape rest

def isComment (t : Text) : Bool := ['/', '/', '/'].isPrefixOf t || ['/', '/', '!'].isPrefixOf t

/-- The literal of a doc attribute that carries a doc comment, as it is written. -/
def carried? (l : Line) : Option Text := do
  let opened ← afterTokens? [['#'], ['['], ['d', 'o', 'c'], ['='], ['"']] l
  let content ← beforeTokens? [[']'], ['"']] opened
  if isComment content && !content.contains '\n' then some content else none

/-- An empty comment is written without the blank at its end. -/
def closeEmpty (t : Text) : Text :=
  if t = ['/', '/', '/', ' '] || t = ['/', '/', '!', ' '] then trimRight t else t

/-- The doc comment that a line carries, behind the same indentation; any other line as it is. -/
def uncarry (l : Line) : Line :=
  match carried? l with
  | some content => Text.indent l ++ closeEmpty (unescape content)
  | none => l

def uncarryAll (t : Text) : Text := Text.unpieces ((Text.pieces t).map uncarry)

end DocGraft.Bookend
