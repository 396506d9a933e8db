import DocGraft.Number.Reader
import DocGraft.Value

/-!
# Settings from the command line

A setting given as text is read as the most specific value it can be. Its name is a path of keys
with dots between them; tables that are missing on the way are made, and a value that is no table
blocks the way.
-/

namespace DocGraft

/-- The value that a text stands for: a truth value, a whole number, a floating point number, a list
of the parts between commas, or the text itself. -/
def Value.ofText (s : String) : Value :=
  let t := s.toList
  let word := String.ofList (t.map Char.toLower)
  if word = "true" then .bool true
  else if word = "false" then .bool false
  else
    match Number.readInt? t, Number.readFloat? t with
    | some n, _ => .int n
    | none, some x => .float x
    | none, none =>
      if t.contains ',' then
        .list ((t.splitOn ',').map Text.trim |>.filter (!·.isEmpty) |>.map fun part =>
          .text (String.ofList part))
      else .text s

/-- A value that stands in the way of a path, and the keys that should have led through it. -/
structure Blocked where
  value : Value
  keys : List String
  deriving Repr, BEq

/-- Why no key leads through the value. -/
def Blocked.message (b : Blocked) : String :=
  let kind := b.value.kindName
  let fixed := "'" ++ kind ++ "' object does not support item assignment"
  match b.value, b.keys with
  | .list _, _ => "list indices must be integers or slices, not str"
  | .text s, key :: _ :: _ =>
    if Text.holds key.toList s.toList then "string indices must be integers, not 'str'" else fixed
  | .text _, _ => fixed
  | _, _ :: _ :: _ => "argument of type '" ++ kind ++ "' is not iterable"
  | _, _ => fixed

namespace Table

/-- Sets the value at the end of a path, and makes the tables that are missing on the way. -/
def assign (t : Table) : List String → Value → Except Blocked Table
  | [], _ => .ok t
  | [key], value => .ok (t.set key value)
  | key :: rest, value =>
    match t.get? key with
    | none => do return t.set key (.table (← assign [] rest value))
    | some (.table inner) => do return t.set key (.table (← assign inner rest value))
    | some other => .error ⟨other, rest⟩

def path (name : String) : List String := (name.toList.splitOn '.').map String.ofList

def override (t : Table) (name text : String) : Except Blocked Table :=
  t.assign (path name) (.ofText text)

/-- Sets several named values, the first one first. -/
def overrideAll (t : Table) : List (String × String) → Except Blocked Table
  | [] => .ok t
  | (name, text) :: rest => do overrideAll (← t.override name text) rest

end Table

end DocGraft
