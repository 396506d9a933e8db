import DocGraft.Value

/-!
# JSON texts

Values are written as JSON with two spaces for each level, one item or entry a line. All characters
outside printable ASCII are escaped, those above U+FFFF as two surrogates. The numbers that JSON has
no notation for are written as words. A moment, and a whole number of too many digits, is refused.
-/

namespace DocGraft.Json

def unitEscape (n : Nat) : Text := ['\\', 'u'] ++ Text.hexDigits 4 n

/-- A character as it stands in a JSON string. -/
def escapeChar (c : Char) : Text :=
  let n := c.toNat
  if c = '"' || c = '\\' then ['\\', c]
  else if c = '\n' then ['\\', 'n']
  else if c = '\r' then ['\\', 'r']
  else if c = '\t' then ['\\', 't']
  else if n = 8 then ['\\', 'b']
  else if n = 12 then ['\\', 'f']
  else if 0x20 ≤ n && n ≤ 0x7E then [c]
  else if n < 0x10000 then unitEscape n
  else unitEscape (0xD800 + (n - 0x10000) / 0x400) ++ unitEscape (0xDC00 + (n - 0x10000) % 0x400)

def string (t : Text) : Text := '"' :: t.flatMap escapeChar ++ ['"']

def number : Binary64 → Text
  | .infinite negative => (if negative then "-Infinity" else "Infinity").toList
  | .nan => "NaN".toList
  | x => x.text.toList

/-- A new line, indented for its level. -/
def newLine (level : Nat) : Text := '\n' :: List.replicate (2 * level) ' '

mutual

/-- A value whose own brackets stand at this level. -/
def write (level : Nat) : Value → Text
  | .null => "null".toList
  | .bool b => (if b then "true" else "false").toList
  | .int n => (toString n).toList
  | .float x => number x
  | .text s => string s.toList
  | .moment m => string m.text.toList
  | .list [] | .fixed [] => ['[', ']']
  | .list (item :: rest) | .fixed (item :: rest) =>
    '[' :: writeItems (level + 1) (item :: rest) ++ newLine level ++ [']']
  | .table [] => ['\x7b', '\x7d']
  | .table (entry :: rest) =>
    '\x7b' :: writeEntries (level + 1) (entry :: rest) ++ newLine level ++ ['\x7d']

def writeItems (level : Nat) : List Value → Text
  | [] => []
  | [item] => newLine level ++ write level item
  | item :: rest => newLine level ++ write level item ++ [','] ++ writeItems level rest

def writeEntries (level : Nat) : List (String × Value) → Text
  | [] => []
  | [(key, value)] => newLine level ++ string key.toList ++ [':', ' '] ++ write level value
  | (key, value) :: rest =>
    newLine level ++ string key.toList ++ [':', ' '] ++ write level value ++ [','] ++
      writeEntries level rest

end

def text (v : Value) : Text := write 0 v

inductive Refusal
  | tooLong
  | moment (m : Moment)
  deriving DecidableEq, Repr

def Refusal.message : Refusal → String
  | .tooLong => Number.tooLong none
  | .moment m => "Object of type " ++ m.className ++ " is not JSON serializable"

mutual

/-- Why a value is refused: the first one in it that cannot be written. -/
def refusal? : Value → Option Refusal
  | .int n => if n.natAbs < Nat.pow 10 Number.longest then none else some .tooLong
  | .moment m => some (.moment m)
  | .list items | .fixed items => itemsRefusal? items
  | .table entries => entriesRefusal? entries
  | .null | .bool _ | .float _ | .text _ => none

def itemsRefusal? : List Value → Option Refusal
  | [] => none
  | item :: rest => (refusal? item).or (itemsRefusal? rest)

def entriesRefusal? : List (String × Value) → Option Refusal
  | [] => none
  | (_, value) :: rest => (refusal? value).or (entriesRefusal? rest)

end

/-- The text of a value that can be written. -/
def encode (v : Value) : Except Refusal Text :=
  match refusal? v with
  | none => .ok (text v)
  | some refusal => .error refusal

end DocGraft.Json
