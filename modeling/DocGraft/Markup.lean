import DocGraft.Markup.Tag

/-!
# Markup

Printed lines may carry tags for styles, each of which can be closed by its name or, as the last one
that is open, without a name. A backslash takes its meaning from a tag, and a second backslash takes
its meaning from the first. Where there are no colours only the text between the tags is left.
-/

namespace DocGraft.Markup

/-- A part of a line: text, or what stands between the brackets of a tag. -/
inductive Piece
  | text (t : Text)
  | tag (content : Text)
  deriving DecidableEq, Repr

inductive Fault
  /-- A closing tag for a style that is not open. -/
  | notOpen (style : Text)
  /-- A closing tag without a name where nothing is open. -/
  | nothingOpen
  /-- A tag that is closed has parameters that cannot be read. -/
  | parameters (tag : Tag)
  | style (refusal : Refusal)
  deriving DecidableEq, Repr

/-- Whether a tag has just been opened: a letter or sign that starts its name follows, and a bracket
that closes it comes before any that opens another. -/
def opensTag : Text → Bool
  | [] => false
  | c :: rest =>
    (('a' ≤ c && c ≤ 'z') || c = '#' || c = '/' || c = '@') &&
      (rest.takeWhile (· ≠ '[')).contains ']'

/-- The pieces up to the end of a tag; the text before it and its content are in reverse. -/
def cut (before content : Text) : List Piece :=
  let slashes := (before.takeWhile (· = '\\')).length
  [.text (before.drop slashes).reverse, .text (List.replicate (slashes / 2) '\\'),
    if slashes % 2 = 1 then .text ('[' :: content.reverse ++ [']']) else .tag content.reverse]

/-- The pieces of a line from here on: behind some text, and perhaps inside of a tag, both in
reverse. -/
def piecesFrom : (before : Text) → (content? : Option Text) → Text → List Piece
  | before, _, [] => [.text before.reverse]
  | before, none, c :: rest =>
    if c = '[' && opensTag rest then piecesFrom before (some []) rest
    else piecesFrom (c :: before) none rest
  | before, some content, c :: rest =>
    if c = ']' then cut before content ++ piecesFrom [] none rest
    else piecesFrom before (some (c :: content)) rest

def pieces (t : Text) : List Piece := piecesFrom [] none t

/-- A bracket needs no backslash where it opens no tag, and may have one. -/
def unescape : Text → Text
  | [] => []
  | '\\' :: '[' :: rest => '[' :: unescape rest
  | c :: rest => c :: unescape rest

/-- Characters that would move the cursor: the bell, the backspace, the vertical tab, the form feed
and the carriage return. -/
def isMotion (c : Char) : Bool := [7, 8, 11, 12, 13].contains c.toNat

/-- Text outside of tags as it is printed. -/
def printed (t : Text) : Text := (unescape t).filter fun c => !isMotion c

/-- A text that has a style, with what gives the style. -/
structure Span where
  style : Text
  covered : Text
  deriving DecidableEq, Repr

/-- The text of a line up to some place, the tags that are open there, the last one first and each
with the size of the text before it, and the spans that are closed. -/
structure Setting where
  text : Text := []
  openTags : List (Tag × Nat) := []
  spans : List Span := []
  deriving DecidableEq, Repr

namespace Setting

def span (s : Setting) (entry : Tag × Nat) : Span := ⟨entry.1.style, s.text.drop entry.2⟩

/-- Closes an open tag. -/
def close (s : Setting) (entry : Tag × Nat) : Except Fault Setting :=
  if entry.1.isReadable then
    .ok { s with openTags := s.openTags.erase entry, spans := s.span entry :: s.spans }
  else .error (.parameters entry.1)

def known (name : Text) : Except Fault Text := (styleName name).mapError .style

def addTag (s : Setting) (tag : Tag) : Except Fault Setting :=
  match tag.name with
  | '/' :: name =>
    if Text.isBlank name then
      match s.openTags with
      | [] => .error .nothingOpen
      | entry :: _ => s.close entry
    else do
      let style ← known name
      match s.openTags.find? fun entry => entry.1.name = style with
      | some entry => s.close entry
      | none => .error (.notOpen style)
  | name => do
    return { s with openTags := ({ tag with name := ← known name }, s.text.length) :: s.openTags }

def add (s : Setting) : Piece → Except Fault Setting
  | .text t => .ok { s with text := s.text ++ printed t }
  | .tag content => s.addTag (.ofContent content)

end Setting

/-- The text of a line without its markup, and its spans. -/
def typeset (s : String) : Except Fault (Text × List Span) := do
  let setting ← (pieces s.toList).foldlM Setting.add {}
  return (setting.text, setting.openTags.map setting.span ++ setting.spans)

end DocGraft.Markup
