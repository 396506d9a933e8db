import DocGraft.Markup.Literal
import DocGraft.Markup.Style
import DocGraft.Text.WordChar

/-!
# Tags

A tag has a name, and behind an equals sign it may have parameters. The parameters of an action,
whose name starts with an at sign, are a call or a written value.
-/

namespace DocGraft.Markup

structure Tag where
  name : Text
  parameters? : Option Text := none
  deriving DecidableEq, Repr

namespace Tag

/-- The tag of what stands between its brackets. -/
def ofContent (content : Text) : Tag :=
  let name := content.takeWhile (· ≠ '=')
  ⟨name, if name.length < content.length then some (content.drop (name.length + 1)) else none⟩

/-- The text that gives the style of an open tag. -/
def style (t : Tag) : Text :=
  match t.parameters? with
  | none => t.name
  | some parameters => t.name ++ ' ' :: parameters

def isHandlerChar (c : Char) : Bool := Text.isWordChar c || c == '.'

/-- What is to be a written value in the parameters of an action: the brackets of a call, which may
be left out and hold no line feed, or otherwise the whole. -/
def arguments (parameters : Text) : Text :=
  let t := Text.trim parameters
  match t.dropWhile isHandlerChar with
  | [] => ['(', ')']
  | '(' :: rest =>
    if rest.getLast? = some ')' && !rest.contains '\n' then '(' :: rest else t
  | _ => t

/-- Whether the parameters of a tag can be read. Only those of an action are. -/
def isReadable (t : Tag) : Bool :=
  match t.name, t.parameters? with
  | '@' :: _, some parameters => parameters.isEmpty || Literal.isValue (arguments parameters)
  | _, _ => true

end Tag

end DocGraft.Markup
