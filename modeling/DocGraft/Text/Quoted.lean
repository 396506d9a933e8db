import DocGraft.Text.Printable

/-!
# Quoted texts

Messages show a text between quotes, so that blanks and controls in it can be seen. The quote is
`'`, unless the text has that one and not `"`. A backslash and the quote in use are escaped by a
backslash, tab, line feed and carriage return by a letter, and every other unprintable character by
its number in two, four or eight hexadecimal digits.
-/

namespace DocGraft.Text

/-- The last `width` hexadecimal digits of `n`. -/
def hexDigits : (width n : Nat) → Text
  | 0, _ => []
  | width + 1, n => hexDigits width (n / 16) ++ [Nat.digitChar (n % 16)]

def numberEscape (c : Char) : Text :=
  if c.toNat < 0x100 then ['\\', 'x'] ++ hexDigits 2 c.toNat
  else if c.toNat < 0x10000 then ['\\', 'u'] ++ hexDigits 4 c.toNat
  else ['\\', 'U'] ++ hexDigits 8 c.toNat

def quoteChar (quote c : Char) : Text :=
  if c = quote || c = '\\' then ['\\', c]
  else if c = '\t' then ['\\', 't']
  else if c = '\n' then ['\\', 'n']
  else if c = '\r' then ['\\', 'r']
  else if isPrintable c then [c]
  else numberEscape c

def quoteOf (t : Text) : Char :=
  if t.contains '\'' && !t.contains '"' then '"' else '\''

def quoted (t : Text) : Text :=
  let quote := quoteOf t
  quote :: t.flatMap (quoteChar quote) ++ [quote]

end DocGraft.Text

namespace DocGraft

def quoted (s : String) : String := String.ofList (Text.quoted s.toList)

end DocGraft
