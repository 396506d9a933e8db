import DocGraft.Markup.Literal.Token
import DocGraft.Text.LineBreak

/-!
# Written values

A value is written as a number, as a string, or as a tuple, a set or a table of values in brackets.
A reader goes through the tokens with a stack of brackets that are still open, each with what has
been read in it. Only whether a text is a value is asked, not which.
-/

namespace DocGraft.Markup.Literal

/-- What has been read of a member. -/
inductive Term
  | empty
  /-- A sign, with its number still to come. -/
  | sign
  /-- A string, which another one may carry on. -/
  | string (bytes : Bool)
  | value (k : Kind)
  /-- A real number and a sign, with an imaginary number still to come. -/
  | sum
  deriving DecidableEq, Repr

namespace Term

/-- The kind of a member that is read to its end. -/
def kind? : Term → Option Kind
  | .string _ => some .constant
  | .value k => some k
  | .empty | .sign | .sum => none

def addValue (k : Kind) : Term → Option Term
  | .empty => some (.value k)
  | .sign =>
    match k with
    | .real => some (.value .signedReal)
    | .imaginary => some (.value .constant)
    | _ => none
  | .sum => if k = .imaginary then some (.value .constant) else none
  | .string _ | .value _ => none

def addString (bytes : Bool) : Term → Option Term
  | .empty => some (.string bytes)
  | .string before => if before = bytes then some (.string bytes) else none
  | _ => none

def addSign : Term → Option Term
  | .empty => some .sign
  | .value .real | .value .signedReal => some .sum
  | _ => none

end Term

/-- What members are read for. -/
inductive Scope
  /-- The text itself. -/
  | text
  /-- The text behind its only line. -/
  | ended
  | round
  | curly
  /-- The brackets behind the constructor of sets. -/
  | call
  deriving DecidableEq, Repr

/-- What the members in curly brackets are. -/
inductive Members
  | unknown
  | elements
  | entries
  deriving DecidableEq, Repr

/-- A scope with the member that is being read, whether a comma stands before it, whether all
members before it may be keys, and in curly brackets what the members are and whether a colon stands
before the value of an entry. -/
structure Frame where
  scope : Scope
  term : Term := .empty
  comma : Bool := false
  keys : Bool := true
  members : Members := .unknown
  colon : Bool := false
  deriving DecidableEq, Repr

namespace Frame

/-- Whether a member of this kind may stand where one has been read. -/
def takes (f : Frame) (k : Kind) : Bool :=
  match f.scope, f.members with
  | .curly, .entries => f.colon && k != .setName
  | .curly, _ => k.isKey
  | _, _ => k != .setName

def addComma (f : Frame) : Option Frame := do
  let k ← f.term.kind?
  if f.scope = .call || !f.takes k then none
  else
    let members := if f.members = .unknown then .elements else f.members
    return { f with
      term := .empty, comma := true, keys := f.keys && k.isKey, members, colon := false }

def addColon (f : Frame) : Option Frame := do
  let k ← f.term.kind?
  if f.scope = .curly && f.members != .elements && !f.colon && k.isKey then
    return { f with term := .empty, members := .entries, colon := true }
  else none

/-- The kind of a tuple, or of a single value, that is read to its end. -/
def tuple? (f : Frame) : Option Kind :=
  match f.term.kind? with
  | some k =>
    if !f.comma then some k
    else if k = .setName then none
    else some (if f.keys && k.isKey then .constant else .mutable)
  | none =>
    if f.term ≠ .empty then none
    else some (if f.keys then .constant else .mutable)

/-- The kind of what is read in brackets. -/
def result? (f : Frame) : Option Kind :=
  match f.scope with
  | .text | .ended => none
  | .round => f.tuple?
  | .call => if f.term = .empty then some .mutable else none
  | .curly =>
    match f.term.kind? with
    | some k => if f.takes k then some .mutable else none
    | none => if f.term = .empty && !f.colon then some .mutable else none

/-- Whether the text is one value or more, read to their end. -/
def isWhole (f : Frame) : Bool :=
  match f.term.kind? with
  | some k => k != .setName
  | none => f.term = .empty && f.comma

def bracket? : Scope → Option Bracket
  | .text | .ended => none
  | .round | .call => some .round
  | .curly => some .curly

end Frame

/-- The number of brackets that may be open at a time. -/
def deepest : Nat := 200

/-- The frames behind an opening bracket. -/
def enter (b : Bracket) (f : Frame) (below : List Frame) : Option (List Frame) :=
  if deepest ≤ below.length then none
  else
    match b, f.term with
    | .round, .value .setName => some ({ scope := .call } :: { f with term := .empty } :: below)
    | _, .value _ | _, .string _ => none
    | .round, _ => some ({ scope := .round } :: f :: below)
    | .curly, _ => some ({ scope := .curly } :: f :: below)

/-- The frames behind a token; the innermost is the first. -/
def advance : List Frame → Token → Option (List Frame)
  | [], _ => none
  | f :: below, token =>
    if f.scope = .ended then if token = .lineEnd then some (f :: below) else none
    else
      match token with
      | .value k => do return { f with term := ← f.term.addValue k } :: below
      | .string bytes => do return { f with term := ← f.term.addString bytes } :: below
      | .sign => do return { f with term := ← f.term.addSign } :: below
      | .comma => do return (← f.addComma) :: below
      | .colon => do return (← f.addColon) :: below
      | .opening b => enter b f below
      | .closing b =>
        match below with
        | [] => none
        | g :: below =>
          if Frame.bracket? f.scope = some b then do
            return { g with term := ← g.term.addValue (← f.result?) } :: below
          else none
      | .lineEnd =>
        if f.scope ≠ .text || (f.term = .empty && !f.comma) then some (f :: below)
        else if f.isWhole then some ({ f with scope := .ended } :: below)
        else none

/-- Whether a text is a written value; a null character stands in none. -/
def isValue (t : Text) : Bool :=
  !t.contains '\x00' &&
  match (tokens? (Text.normalizeEnds t)).bind fun tokens =>
      tokens.foldlM advance [{ scope := .text }] with
  | some [f] => f.isWhole
  | _ => false

end DocGraft.Markup.Literal
