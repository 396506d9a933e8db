import DocGraft.Markup.Color

/-!
# Styles

A style is given by words: attributes, which may be denied, a colour, a colour behind the text, and
a link. The same style can be given in several ways, and is known by one name.
-/

namespace DocGraft.Markup

inductive Attribute
  | bold
  | dim
  | italic
  | underline
  | blink
  | blink2
  | reverse
  | conceal
  | strike
  | underline2
  | frame
  | encircle
  | overline
  deriving DecidableEq, Repr

namespace Attribute

/-- The attributes in the order in which they are named together. -/
def all : List Attribute :=
  [.bold, .dim, .italic, .underline, .blink, .blink2, .reverse, .conceal, .strike, .underline2,
    .frame, .encircle, .overline]

def name : Attribute → String
  | .bold => "bold"
  | .dim => "dim"
  | .italic => "italic"
  | .underline => "underline"
  | .blink => "blink"
  | .blink2 => "blink2"
  | .reverse => "reverse"
  | .conceal => "conceal"
  | .strike => "strike"
  | .underline2 => "underline2"
  | .frame => "frame"
  | .encircle => "encircle"
  | .overline => "overline"

/-- The short names that some attributes have. -/
def ofShort? : String → Option Attribute
  | "b" => some .bold
  | "d" => some .dim
  | "i" => some .italic
  | "u" => some .underline
  | "r" => some .reverse
  | "c" => some .conceal
  | "s" => some .strike
  | "uu" => some .underline2
  | "o" => some .overline
  | _ => none

def ofName? (s : String) : Option Attribute :=
  (ofShort? s).or (all.find? fun a => a.name == s)

end Attribute

/-- A style. Of two words about the same attribute the later one, which stands first, counts. -/
structure Style where
  attributes : List (Attribute × Bool) := []
  color? : Option Text := none
  background? : Option Text := none
  link? : Option Text := none
  deriving DecidableEq, Repr

namespace Style

def set (s : Style) (a : Attribute) (on : Bool) : Style :=
  { s with attributes := (a, on) :: s.attributes }

def orUnknown {α : Type} : Option α → Except Refusal α
  | some a => .ok a
  | none => .error .unknown

/-- A style with what further words ask for. -/
def add (s : Style) : List Text → Except Refusal Style
  | [] => .ok s
  | word :: rest =>
    match String.ofList (Text.lower word) with
    | "on" =>
      match rest with
      | [] => .error .unknown
      | color :: rest => do add { s with background? := some (← Color.read color) } rest
    | "not" =>
      match rest with
      | [] => .error .unknown
      | name :: rest => do
        add (s.set (← orUnknown (Attribute.ofName? (String.ofList name))) false) rest
    | "link" =>
      match rest with
      | [] => .error .unknown
      | place :: rest => add { s with link? := some place } rest
    | name =>
      match Attribute.ofName? name with
      | some a => add (s.set a true) rest
      | none => do add { s with color? := some (← Color.read word) } rest

def words (t : Text) : List Text := (t.splitOnP Text.isBlankChar).filter (!·.isEmpty)

def read (t : Text) : Except Refusal Style :=
  if Text.trim t = "none".toList then .ok {} else add {} (words t)

def name (s : Style) : Text :=
  let attributes := Attribute.all.filterMap fun a => (s.attributes.lookup a).map fun on =>
    ((if on then "" else "not ") ++ a.name).toList
  let colors := s.color?.toList ++ (s.background?.map ("on ".toList ++ ·)).toList
  match attributes ++ colors ++ (s.link?.map ("link ".toList ++ ·)).toList with
  | [] => "none".toList
  | parts => [' '].intercalate parts

end Style

/-- The name for what a text gives; a text that gives no style is its own name in small letters. -/
def styleName (t : Text) : Except Refusal Text :=
  match Style.read t with
  | .ok style => .ok style.name
  | .error .unknown => .ok (Text.lower (Text.trim t))
  | .error refusal => .error refusal

end DocGraft.Markup
