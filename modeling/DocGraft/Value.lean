import DocGraft.Number.Digit
import DocGraft.Number.Shortest
import DocGraft.Text.Quoted
import DocGraft.Value.Moment

/-!
# Values

Settings and reports are read from data that may hold any value in any place, and a value of the
wrong kind is kept as it is until it is used. Tables keep their entries in the order in which they
were made. One table is laid over another key by key: where both have a table the two are laid over
each other, and everywhere else the later value stands alone.
-/

namespace DocGraft

inductive Value
  | null
  | bool (b : Bool)
  | int (n : Int)
  | float (x : Binary64)
  | text (s : String)
  | moment (m : Moment)
  | list (items : List Value)
  /-- A list that is a setting by now and can change no more. -/
  | fixed (items : List Value)
  | table (entries : List (String × Value))
  deriving Repr, Inhabited

namespace Value

mutual

/-- Whether two values are the same. Tables have to give their entries in the same order. -/
def beq : Value → Value → Bool
  | .null, .null => true
  | .bool a, .bool b => a == b
  | .int m, .int n => m == n
  | .float x, .float y => x == y
  | .text s, .text t => s == t
  | .moment m, .moment n => m.isSame n
  | .list xs, .list ys => beqItems xs ys
  | .fixed xs, .fixed ys => beqItems xs ys
  | .table xs, .table ys => beqEntries xs ys
  | _, _ => false

def beqItems : List Value → List Value → Bool
  | [], [] => true
  | x :: xs, y :: ys => beq x y && beqItems xs ys
  | _, _ => false

def beqEntries : List (String × Value) → List (String × Value) → Bool
  | [], [] => true
  | (key, x) :: xs, (key', y) :: ys => key == key' && beq x y && beqEntries xs ys
  | _, _ => false

end

instance : BEq Value := ⟨beq⟩

end Value

abbrev Table := List (String × Value)

namespace Table

def get? (t : Table) (key : String) : Option Value := List.lookup key t

def getD (t : Table) (key : String) (default : Value) : Value := (t.get? key).getD default

/-- The table with this value under the key: in the place of the old value, or at the end. -/
def set : Table → String → Value → Table
  | [], key, value => [(key, value)]
  | (k, v) :: rest, key, value =>
    if k = key then (key, value) :: rest else (k, v) :: set rest key value

/-- The value at the end of a path of keys. -/
def at? : Table → List String → Option Value
  | _, [] => none
  | t, [key] => t.get? key
  | t, key :: rest =>
    match t.get? key with
    | some (.table inner) => at? inner rest
    | _ => none

mutual

/-- The table `base` with another one laid over it. -/
def overlay (base : Table) : List (String × Value) → Table
  | [] => base
  | (key, value) :: rest => overlay (base.set key (overlayValue (base.get? key) value)) rest

/-- What stands under a key that had the value `old` and gets another one. -/
def overlayValue (old : Option Value) : Value → Value
  | .table entries =>
    match old with
    | some (.table base) => .table (overlay base entries)
    | _ => .table entries
  | .null => .null
  | .bool b => .bool b
  | .int n => .int n
  | .float x => .float x
  | .text s => .text s
  | .moment m => .moment m
  | .list items => .list items
  | .fixed items => .fixed items

end

end Table

namespace Value

/-- Whether a value counts as true: nothing, zero and what is empty do not. -/
def isTrue : Value → Bool
  | .null => false
  | .bool b => b
  | .int n => n != 0
  | .float x => !x.isZero
  | .text s => !s.isEmpty
  | .moment _ => true
  | .list items | .fixed items => !items.isEmpty
  | .table entries => !entries.isEmpty

/-- Items in round brackets, where a single one is followed by a comma. -/
def inRoundBrackets : List String → String
  | [item] => "(" ++ item ++ ",)"
  | items => "(" ++ ", ".intercalate items ++ ")"

mutual

/-- A value as it is shown in messages. A fixed list has round brackets, any other square ones. -/
def shown : Value → String
  | .null => "None"
  | .bool b => if b then "True" else "False"
  | .int n => toString n
  | .float x => x.text
  | .text s => quoted s
  | .moment m => m.shown
  | .list items => "[" ++ ", ".intercalate (shownItems items) ++ "]"
  | .fixed items => inRoundBrackets (shownItems items)
  | .table entries => "\x7b" ++ ", ".intercalate (shownEntries entries) ++ "\x7d"

def shownItems : List Value → List String
  | [] => []
  | item :: rest => shown item :: shownItems rest

def shownEntries : List (String × Value) → List String
  | [] => []
  | (key, value) :: rest => (quoted key ++ ": " ++ shown value) :: shownEntries rest

end

/-- A value as text: a text as it is, a moment in its own form, anything else as it is shown. -/
def asText : Value → String
  | .text s => s
  | .moment m => m.text
  | v => v.shown

mutual

/-- Whether no whole number in a value has more digits than are written. -/
def isWritable : Value → Bool
  | .int n => n.natAbs < Nat.pow 10 Number.longest
  | .list items | .fixed items => areWritable items
  | .table entries => haveWritable entries
  | .null | .bool _ | .float _ | .text _ | .moment _ => true

def areWritable : List Value → Bool
  | [] => true
  | item :: rest => isWritable item && areWritable rest

def haveWritable : List (String × Value) → Bool
  | [] => true
  | (_, value) :: rest => isWritable value && haveWritable rest

end

/-- The name of a value's kind, in messages about a value of the wrong kind. -/
def kindName : Value → String
  | .null => "NoneType"
  | .bool _ => "bool"
  | .int _ => "int"
  | .float _ => "float"
  | .text _ => "str"
  | .moment m => m.kindName
  | .list _ => "list"
  | .fixed _ => "tuple"
  | .table _ => "dict"

/-- The parts of a value that has parts: characters, items or keys. -/
def parts? : Value → Option (List Value)
  | .text s => some (s.toList.map fun c => .text (String.singleton c))
  | .list items | .fixed items => some items
  | .table entries => some (entries.map fun e => .text e.1)
  | _ => none

end Value

end DocGraft
