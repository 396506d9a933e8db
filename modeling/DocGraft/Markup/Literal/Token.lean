import DocGraft.Number.Digit
import DocGraft.Number.Reader

/-!
# The tokens of a written value

Numbers, strings, constants and the signs between them. The scanner goes through a text character by
character; what it has begun is its mode.
-/

namespace DocGraft.Markup.Literal

open Number (hexValue? octalValue? binaryValue?)

/-- What is known of a value. -/
inductive Kind
  | real
  | signedReal
  | imaginary
  /-- Any other value that never changes, and so may be a key. -/
  | constant
  | mutable
  /-- The name of the constructor of sets, which is no value by itself. -/
  | setName
  deriving DecidableEq, Repr

def Kind.isKey : Kind → Bool
  | .mutable | .setName => false
  | _ => true

inductive Bracket
  | round
  | curly
  deriving DecidableEq, Repr

inductive Token
  | value (k : Kind)
  | string (bytes : Bool)
  | opening (b : Bracket)
  | closing (b : Bracket)
  | comma
  | colon
  /-- A plus or a minus. -/
  | sign
  | lineEnd
  deriving DecidableEq, Repr

/-- A whole number in another base than ten; a low line may stand before its digits. -/
def isBased (value? : Char → Option Nat) : Text → Bool
  | '_' :: rest => (Number.digitsBy? value? rest).isSome
  | t => (Number.digitsBy? value? t).isSome

/-- A whole number: in base ten a zero comes first only if there are zeros alone. -/
def isWholeNumber (t : Text) : Bool :=
  match t with
  | '0' :: 'x' :: rest | '0' :: 'X' :: rest => isBased hexValue? rest
  | '0' :: 'o' :: rest | '0' :: 'O' :: rest => isBased octalValue? rest
  | '0' :: 'b' :: rest | '0' :: 'B' :: rest => isBased binaryValue? rest
  | _ =>
    match Number.digits? t with
    | none => false
    | some digits =>
      digits.all (· == 0) || (digits.head? != some 0 && digits.length ≤ Number.longest)

def isDecimal (t : Text) : Bool := (Number.decimal? false t).isSome

/-- The value that a word stands for. -/
def wordKind? (word : Text) : Option Kind :=
  if !word.all (·.toNat < 0x80) then none
  else if word = "set".toList then some .setName
  else if ["None", "True", "False", "..."].contains (String.ofList word) then some .constant
  else if isWholeNumber word then some .real
  else if isDecimal word && word.any (fun c => c == '.' || Number.isExponentMark c) then some .real
  else
    match word.reverse with
    | 'j' :: number | 'J' :: number =>
      if isDecimal number.reverse then some .imaginary else none
    | _ => none

/-- The form of a string: the mark at its ends, three of them if it is long, whether a backslash
means nothing but itself, and whether it holds bytes. -/
structure Form where
  mark : Char
  long : Bool := false
  raw : Bool := false
  bytes : Bool := false
  deriving DecidableEq, Repr

/-- The form that the letters before a mark ask for. -/
def form? (mark : Char) (letters : Text) : Option Form :=
  match String.ofList (letters.map Char.toLower) with
  | "" | "u" => some { mark }
  | "r" => some { mark, raw := true }
  | "b" => some { mark, bytes := true }
  | "br" | "rb" => some { mark, raw := true, bytes := true }
  | _ => none

/-- Where the scanner is in a string. -/
inductive Place
  | plain
  /-- Behind so many marks that may end a long string. -/
  | marks (count : Nat)
  | backslash
  /-- Before so many digits of a character's number, behind others. -/
  | digits (count code : Nat)
  /-- In the name of a character, with its bracket still to come or behind it. -/
  | name (opened : Bool)
  deriving DecidableEq, Repr

inductive Mode
  | between
  /-- In a name or a number, in reverse. -/
  | word (read : Text)
  | comment
  /-- Behind a backslash that carries on the line. -/
  | carried
  /-- Behind the first mark of a string, or behind the second. -/
  | opened (f : Form) (twice : Bool)
  | quoted (f : Form) (place : Place)
  deriving DecidableEq, Repr

/-- What a step finds, and the mode after it. -/
abbrev Step := Option (List Token × Mode)

def isWordPart (c : Char) : Bool := c.isAlphanum || c == '_' || c == '.' || 0x80 ≤ c.toNat

/-- A character between tokens. -/
def stepBetween (c : Char) : Step :=
  match c with
  | '(' => some ([.opening .round], .between)
  | ')' => some ([.closing .round], .between)
  | '\x7b' => some ([.opening .curly], .between)
  | '\x7d' => some ([.closing .curly], .between)
  | ',' => some ([.comma], .between)
  | ':' => some ([.colon], .between)
  | '+' | '-' => some ([.sign], .between)
  | '\n' => some ([.lineEnd], .between)
  | ' ' | '\t' | '\x0c' => some ([], .between)
  | '#' => some ([], .comment)
  | '\\' => some ([], .carried)
  | '"' | '\'' => some ([], .opened { mark := c } false)
  | _ => if isWordPart c then some ([], .word [c]) else none

/-- Whether a character goes on with a word: a sign does so behind the mark of an exponent. -/
def joins (read : Text) (c : Char) : Bool :=
  isWordPart c ||
    ((c == '+' || c == '-') && read.head?.any Number.isExponentMark &&
      match read.reverse with
      | '0' :: 'x' :: _ | '0' :: 'X' :: _ => false
      | first :: _ => first.isDigit || first == '.'
      | [] => false)

def stepWord (read : Text) (c : Char) : Step :=
  if c == '"' || c == '\'' then do return ([], .opened (← form? c read.reverse) false)
  else if joins read c then some ([], .word (c :: read))
  else do
    let (tokens, mode) ← stepBetween c
    return (.value (← wordKind? read.reverse) :: tokens, mode)

/-- A character of a string that no backslash stands before. -/
def stepQuoted (f : Form) (c : Char) (marks : Nat) : Step :=
  if f.bytes && 0x80 ≤ c.toNat then none
  else if c == '\\' then some ([], .quoted f .backslash)
  else if c == f.mark then
    if !f.long || marks == 2 then some ([.string f.bytes], .between)
    else some ([], .quoted f (.marks (marks + 1)))
  else if c == '\n' && !f.long then none
  else some ([], .quoted f .plain)

/-- A character behind a backslash. -/
def stepEscape (f : Form) (c : Char) : Step :=
  if f.bytes && 0x80 ≤ c.toNat then none
  else if f.raw then some ([], .quoted f .plain)
  else
    match c with
    | 'x' => some ([], .quoted f (.digits 2 0))
    | 'u' => some ([], .quoted f (if f.bytes then .plain else .digits 4 0))
    | 'U' => some ([], .quoted f (if f.bytes then .plain else .digits 8 0))
    | 'N' => some ([], .quoted f (if f.bytes then .plain else .name false))
    | _ => some ([], .quoted f .plain)

/-- A digit of a character's number, which must not be beyond the last character. -/
def stepDigit (f : Form) (count code : Nat) (c : Char) : Step := do
  let code := 16 * code + (← hexValue? c)
  if 1 < count then return ([], .quoted f (.digits (count - 1) code))
  else if code ≤ 0x10FFFF then return ([], .quoted f .plain)
  else none

/-- A character of a character's name. All names are taken for known ones. -/
def stepName (f : Form) (opened : Bool) (c : Char) : Step :=
  if !opened then if c == '\x7b' then some ([], .quoted f (.name true)) else none
  else if c == '\x7d' then some ([], .quoted f .plain)
  else if c.isAlphanum || c == ' ' || c == '-' then some ([], .quoted f (.name true))
  else none

def step : Mode → Char → Step
  | .between, c => stepBetween c
  | .word read, c => stepWord read c
  | .comment, c => if c == '\n' then stepBetween c else some ([], .comment)
  | .carried, c => if c == '\n' then some ([], .between) else none
  | .opened f false, c =>
    if c == f.mark then some ([], .opened f true) else stepQuoted f c 0
  | .opened f true, c =>
    if c == f.mark then some ([], .quoted { f with long := true } .plain)
    else do
      let (tokens, mode) ← stepBetween c
      return (.string f.bytes :: tokens, mode)
  | .quoted f .plain, c => stepQuoted f c 0
  | .quoted f (.marks count), c => stepQuoted f c count
  | .quoted f .backslash, c => stepEscape f c
  | .quoted f (.digits count code), c => stepDigit f count code c
  | .quoted f (.name opened), c => stepName f opened c

/-- What a mode leaves at the end of the text. -/
def leave : Mode → Option (List Token)
  | .between | .comment => some []
  | .word read => do return [.value (← wordKind? read.reverse)]
  | .opened f true => some [.string f.bytes]
  | .carried | .opened _ false | .quoted _ _ => none

def tokensFrom : Mode → Text → Option (List Token)
  | mode, [] => leave mode
  | mode, c :: rest => do
    let (tokens, next) ← step mode c
    return tokens ++ (← tokensFrom next rest)

/-- The tokens of a text, if it can be cut into tokens. -/
def tokens? (t : Text) : Option (List Token) := tokensFrom .between t

end DocGraft.Markup.Literal
