import DocGraft.Text.Basic

/-!
# Kinds of source lines

What a line is can be told from the line alone. Comments are recognised behind their indentation;
attributes are recognised in the line without its blanks, so that `# ! [doc = x]` and `#![doc = x]`
are the same attribute.
-/

namespace DocGraft

/-- The names that stand for documentation kept elsewhere: the last path segment of the attribute
that refers to an item's documentation, and the macro that stands for a module's documentation. -/
structure Markers where
  reference : Text := ['o', 'm', 'n', 'i', 'd', 'o', 'c']
  moduleMacro : Text := ['m', 'o', 'd', 'u', 'l', 'e', '_', 'd', 'o', 'c']
  deriving DecidableEq, Repr

inductive LineKind
  | docComment
  | docAttribute
  | referenceMarker
  | moduleDocMacro
  | otherAttribute
  | ordinaryComment
  | blank
  | code
  deriving DecidableEq, Repr

namespace Line

open Text (squash trimLeft)

/-- A comment with three slashes; one with four is an ordinary comment. -/
def isOuterDocComment (l : Line) : Bool :=
  ['/', '/', '/'].isPrefixOf (trimLeft l) &&
    !(['/', '/', '/', '/'].isPrefixOf (trimLeft l))

def isInnerDocComment (l : Line) : Bool := ['/', '/', '!'].isPrefixOf (trimLeft l)

def isDocComment (l : Line) : Bool := isOuterDocComment l || isInnerDocComment l

def isOrdinaryComment (l : Line) : Bool := ['/', '/'].isPrefixOf (trimLeft l) && !isDocComment l

/-- An attribute of what follows it. -/
def isOuterAttribute (l : Line) : Bool := ['#', '['].isPrefixOf (squash l)

/-- An attribute of what encloses it. -/
def isInnerAttribute (l : Line) : Bool := ['#', '!', '['].isPrefixOf (squash l)

def docOuter : Text := ['#', '[', 'd', 'o', 'c', '=']

def docInner : Text := ['#', '!', '[', 'd', 'o', 'c', '=']

/-- An attribute that gives documentation, by any expression. -/
def isDocAttribute (l : Line) : Bool :=
  docOuter.isPrefixOf (squash l) || docInner.isPrefixOf (squash l)

/-- What follows the opening quote, if the text starts with a string literal, plain or raw. -/
def literal? : Text → Option Text
  | '"' :: rest => some rest
  | 'r' :: rest => Text.after? ['"'] (rest.dropWhile (· == '#'))
  | _ => none

/-- The value of the doc attribute that a squashed line starts with. -/
def docValue? (compact : Text) : Option Text :=
  (Text.after? docOuter compact).or (Text.after? docInner compact)

/-- An attribute that gives documentation by a string literal. -/
def isDocLiteral (l : Line) : Bool := ((docValue? (squash l)).bind literal?).isSome

/-- The pieces of a path between double colons. -/
def segments : Text → List Text
  | [] => [[]]
  | ':' :: ':' :: rest => [] :: segments rest
  | c :: rest => Text.consHead c (segments rest)

/-- The path of an attribute: what stands before its arguments, its value or its end. -/
def attributePath (body : Text) : Text :=
  body.takeWhile fun c => !(c == '(' || c == ']' || c == '=')

/-- An outer attribute that names the reference marker, with or without arguments. -/
def isReferenceMarker (m : Markers) (l : Line) : Bool :=
  match Text.after? ['#', '['] (squash l) with
  | some body => (segments (attributePath body)).getLast? == some m.reference
  | none => false

def isWordChar (c : Char) : Bool := c.isAlphanum || c == '_'

/-- Whether `call` occurs in the text right after a character that is not part of a word. -/
def occursAfterBreak (call : Text) : Text → Bool
  | [] => false
  | c :: rest => (!isWordChar c && call.isPrefixOf rest) || occursAfterBreak call rest

/-- Whether the text calls the macro of this name: the name is not the end of a longer one. -/
def callsMacro (name t : Text) : Bool :=
  (name ++ ['!']).isPrefixOf t || occursAfterBreak (name ++ ['!']) t

/-- An inner attribute that calls the macro for a module's documentation. -/
def isModuleDocMacro (m : Markers) (l : Line) : Bool :=
  isInnerAttribute l && callsMacro m.moduleMacro (squash l)

/-- An attribute that is neither documentation nor a stand-in for it. -/
def isOtherAttribute (m : Markers) (l : Line) : Bool :=
  if isDocAttribute l then false
  else if isOuterAttribute l then !isReferenceMarker m l
  else isInnerAttribute l && !isModuleDocMacro m l

/-- An outer doc attribute whose literal is an inner doc comment. -/
def isCarriedInnerDoc (l : Line) : Bool :=
  match (Text.after? docOuter (squash l)).bind literal? with
  | some content => ['/', '/', '!'].isPrefixOf content
  | none => false

/-- Documentation of a module, in any of its forms. -/
def isModuleDoc (m : Markers) (l : Line) : Bool :=
  if isInnerDocComment l then true
  else if isInnerAttribute l then isDocAttribute l || isModuleDocMacro m l
  else isCarriedInnerDoc l

/-- A line of the form that an item's documentation starts with. -/
def isItemDoc (l : Line) : Bool := isOuterAttribute l || isOuterDocComment l

/-- A line that a merge never takes from the transformed side: the merged text has the ones of the
other side. -/
def isKeptAside (m : Markers) (l : Line) : Bool := isOtherAttribute m l || isOrdinaryComment l

def kind (m : Markers) (l : Line) : LineKind :=
  if Text.isBlank l then .blank
  else if isDocComment l then .docComment
  else if isOrdinaryComment l then .ordinaryComment
  else if isModuleDocMacro m l then .moduleDocMacro
  else if isReferenceMarker m l then .referenceMarker
  else if isDocAttribute l then .docAttribute
  else if isOtherAttribute m l then .otherAttribute
  else .code

end Line

end DocGraft
