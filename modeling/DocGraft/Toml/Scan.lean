import DocGraft.Number.Digit
import DocGraft.Number.Reader
import DocGraft.Value
import DocGraft.Text.Utf8

/-!
# The words of a TOML document

Keys, strings, dates, times, numbers and truth values, and the blanks and comments between them. A
reader takes something off the front of a text and fails if it is not there. Where a reader has fuel,
the length of the text is enough.
-/

namespace DocGraft.Toml

open Number (hexValue? decimalValue? octalValue? binaryValue?)

inductive Fault
  | notUtf8 (fault : Utf8.Fault)
  | malformed
  /-- A whole number in decimal digits has more of them than are read. -/
  | tooLong (digits : Nat)
  deriving DecidableEq, Repr

def Fault.message : Fault → String
  | .notUtf8 fault => fault.message
  | .malformed => "malformed document"
  | .tooLong digits => Number.tooLong (some digits)

/-- What is read, if it is there. -/
def orMalformed {α : Type} : Option α → Except Fault α
  | some a => .ok a
  | none => .error .malformed

def isSpace (c : Char) : Bool := c == ' ' || c == '\t'

def isControl (c : Char) : Bool := c.toNat < 0x20 || c.toNat == 0x7F

/-- A character that may stand in a comment and in a string of one line. -/
def isAllowed (c : Char) : Bool := c == '\t' || !isControl c

/-- A character that may stand in a string of several lines. -/
def isAllowedInBlock (c : Char) : Bool := c == '\n' || isAllowed c

def skipSpaces (t : Text) : Text := t.dropWhile isSpace

/-- The text from the end of the line on, if it starts with a comment. -/
def skipComment : Text → Option Text
  | '#' :: rest =>
    if (rest.takeWhile (· != '\n')).all isAllowed then some (rest.dropWhile (· != '\n')) else none
  | t => some t

/-- The text behind spaces, line feeds and comments. -/
def skipGaps : (inComment : Bool) → Text → Option Text
  | _, [] => some []
  | _, '\n' :: rest => skipGaps false rest
  | true, c :: rest => if isAllowed c then skipGaps true rest else none
  | false, '#' :: rest => skipGaps true rest
  | false, c :: rest => if isSpace c then skipGaps false rest else some (c :: rest)

/-- The character whose number is written in hexadecimal digits, `size` of them. -/
def numbered? (size : Nat) (t : Text) : Option (Char × Text) := do
  let digits ← (t.take size).mapM hexValue?
  let code := Number.ofDigits 16 digits
  if digits.length = size ∧ code.isValidChar then some (Char.ofNat code, t.drop size) else none

/-- The character that an escape stands for; the text starts behind the backslash. -/
def escape? : Text → Option (Char × Text)
  | 'b' :: rest => some (Char.ofNat 8, rest)
  | 't' :: rest => some ('\t', rest)
  | 'n' :: rest => some ('\n', rest)
  | 'f' :: rest => some (Char.ofNat 12, rest)
  | 'r' :: rest => some ('\r', rest)
  | '"' :: rest => some ('"', rest)
  | '\\' :: rest => some ('\\', rest)
  | 'u' :: rest => numbered? 4 rest
  | 'U' :: rest => numbered? 8 rest
  | _ => none

/-- The text behind a backslash at the end of a line, and behind all blanks that follow it. -/
def continued? (t : Text) : Option Text :=
  match skipSpaces t with
  | '\n' :: rest => some (rest.dropWhile fun c => isSpace c || c == '\n')
  | _ => none

/-- The content of a string with escapes on one line, behind its opening quote. -/
def basic : (fuel : Nat) → Text → Option (Text × Text)
  | 0, _ => none
  | _, [] => none
  | fuel + 1, c :: rest =>
    if c == '"' then some ([], rest)
    else if c == '\\' then do
      let (e, rest) ← escape? rest
      let (content, rest) ← basic fuel rest
      return (e :: content, rest)
    else if isAllowed c then do
      let (content, rest) ← basic fuel rest
      return (c :: content, rest)
    else none

/-- The content of a string with escapes on several lines, behind its opening quotes. -/
def basicBlock : (fuel : Nat) → Text → Option (Text × Text)
  | 0, _ => none
  | _, [] => none
  | fuel + 1, c :: rest =>
    if ['"', '"', '"'].isPrefixOf (c :: rest) then some ([], rest.drop 2)
    else if c == '\\' then
      if rest.head?.any fun d => isSpace d || d == '\n' then
        (continued? rest).bind (basicBlock fuel)
      else do
        let (e, rest) ← escape? rest
        let (content, rest) ← basicBlock fuel rest
        return (e :: content, rest)
    else if isAllowedInBlock c then do
      let (content, rest) ← basicBlock fuel rest
      return (c :: content, rest)
    else none

/-- The content of a string without escapes on one line, behind its opening quote. -/
def literal : Text → Option (Text × Text)
  | [] => none
  | c :: rest =>
    if c == '\'' then some ([], rest)
    else if isAllowed c then do
      let (content, rest) ← literal rest
      return (c :: content, rest)
    else none

/-- The content of a string without escapes on several lines, behind its opening quotes. -/
def literalBlock : Text → Option (Text × Text)
  | [] => none
  | c :: rest =>
    if ['\'', '\'', '\''].isPrefixOf (c :: rest) then some ([], rest.drop 2)
    else if isAllowedInBlock c then do
      let (content, rest) ← literalBlock rest
      return (c :: content, rest)
    else none

/-- A line feed right behind the opening quotes is no part of the string. -/
def dropFirstFeed : Text → Text
  | '\n' :: rest => rest
  | t => t

/-- One or two more quotes behind the closing ones belong to the string. -/
def moreQuotes (quote : Char) (p : Text × Text) : Text × Text :=
  let extra := (p.2.take 2).takeWhile (· == quote)
  (p.1 ++ extra, p.2.drop extra.length)

def string? (t : Text) : Option (String × Text) := do
  let fuel := t.length
  let (content, rest) ← match t with
    | '"' :: '"' :: '"' :: rest => (basicBlock fuel (dropFirstFeed rest)).map (moreQuotes '"')
    | '"' :: rest => basic fuel rest
    | '\'' :: '\'' :: '\'' :: rest => (literalBlock (dropFirstFeed rest)).map (moreQuotes '\'')
    | '\'' :: rest => literal rest
    | _ => none
  return (String.ofList content, rest)

def isKeyChar (c : Char) : Bool := c.isAlphanum || c == '-' || c == '_'

/-- One part of a key: a word or a string of one line. -/
def keyPart? : Text → Option (String × Text)
  | '"' :: rest => (basic (rest.length + 1) rest).map fun p => (String.ofList p.1, p.2)
  | '\'' :: rest => (literal rest).map fun p => (String.ofList p.1, p.2)
  | t =>
    match t.takeWhile isKeyChar with
    | [] => none
    | word => some (String.ofList word, t.dropWhile isKeyChar)

/-- A key: parts with dots between them. The spaces behind it are taken too. -/
def key : (fuel : Nat) → Text → Option (List String × Text)
  | 0, _ => none
  | fuel + 1, t => do
    let (part, rest) ← keyPart? t
    match skipSpaces rest with
    | '.' :: rest => do
      let (parts, rest) ← key fuel (skipSpaces rest)
      return (part :: parts, rest)
    | rest => return ([part], rest)

/-- A key behind any spaces. -/
def key? (t : Text) : Option (List String × Text) := key (t.length + 1) (skipSpaces t)

def decimals? : Text → Option (List Nat) := Number.digitsBy? decimalValue?

/-- Decimal digits without a zero before them. -/
def whole? (t : Text) : Option (List Nat) :=
  match decimals? t with
  | some (0 :: _ :: _) => none
  | digits => digits

/-- A floating point number: a point with digits on both sides, an exponent, or both. -/
def float? (negative : Bool) (t : Text) : Option Value := do
  let mantissa := t.takeWhile fun c => !Number.isExponentMark c
  let tail := t.dropWhile fun c => !Number.isExponentMark c
  let exponent ← match tail with
    | [] => some 0
    | _ :: rest =>
      let (down, body) := Number.signed rest
      (decimals? body).map fun digits => Number.applySign down (Number.ofDigits 10 digits)
  let front ← whole? (mantissa.takeWhile (· != '.'))
  let places ← match mantissa.dropWhile (· != '.') with
    | [] => some []
    | _ :: rest => decimals? rest
  return .float (.ofDecimal negative (Number.ofDigits 10 (front ++ places))
    (exponent - places.length))

/-- A number without its sign. -/
def unsigned (negative : Bool) (t : Text) : Except Fault Value :=
  match String.ofList t with
  | "inf" => .ok (.float (.infinite negative))
  | "nan" => .ok (.float .nan)
  | _ =>
    match whole? t with
    | some digits =>
      if Number.longest < digits.length then .error (.tooLong digits.length)
      else .ok (.int (Number.applySign negative (Number.ofDigits 10 digits)))
    | none => orMalformed (float? negative t)

/-- A whole number in another base than ten. -/
def based (base : Nat) (value? : Char → Option Nat) (t : Text) : Except Fault Value :=
  orMalformed ((Number.digitsBy? value? t).map fun digits => .int (Number.ofDigits base digits))

def isWordEnd (c : Char) : Bool :=
  isSpace c || c == '\n' || c == '#' || c == ',' || c == ']' || c == '\x7d'

/-- A truth value or a number. -/
def scalar (word : Text) : Except Fault Value :=
  match word with
  | '0' :: 'x' :: rest => based 16 hexValue? rest
  | '0' :: 'o' :: rest => based 8 octalValue? rest
  | '0' :: 'b' :: rest => based 2 binaryValue? rest
  | '+' :: rest => unsigned false rest
  | '-' :: rest => unsigned true rest
  | _ =>
    if word = "true".toList then .ok (.bool true)
    else if word = "false".toList then .ok (.bool false)
    else unsigned false word

/-! ### Dates and times -/

/-- A number of so many digits. -/
def digits? (size : Nat) (t : Text) : Option (Nat × Text) := do
  let digits ← (t.take size).mapM decimalValue?
  if digits.length = size then some (Number.ofDigits 10 digits, t.drop size) else none

def date? (t : Text) : Option (Date × Text) := do
  let (year, rest) ← digits? 4 t
  let (month, rest) ← digits? 2 (← Text.after? ['-'] rest)
  let (day, rest) ← digits? 2 (← Text.after? ['-'] rest)
  return (← Date.ofNumbers? year month day, rest)

/-- The microseconds behind a point, if there is one with digits behind it. Digits after the sixth
have no meaning. -/
def micros (t : Text) : Nat × Text :=
  match t with
  | '.' :: rest =>
    match rest.takeWhile Char.isDigit with
    | [] => (0, t)
    | digits =>
      let kept := (digits ++ List.replicate 6 '0').take 6
      (Number.ofDigits 10 (kept.filterMap decimalValue?), rest.drop digits.length)
  | _ => (0, t)

def clock? (t : Text) : Option (Clock × Text) := do
  let (hour, rest) ← digits? 2 t
  let (minute, rest) ← digits? 2 (← Text.after? [':'] rest)
  let (second, rest) ← digits? 2 (← Text.after? [':'] rest)
  let (micro, rest) := micros rest
  return (← Clock.ofNumbers? hour minute second micro, rest)

/-- How many minutes a clock is ahead of universal time. -/
def ahead? : Text → Option (Int × Text)
  | 'Z' :: rest | 'z' :: rest => some (0, rest)
  | c :: rest => do
    if c ≠ '+' ∧ c ≠ '-' then failure
    let (hours, rest) ← digits? 2 rest
    let (minutes, rest) ← digits? 2 (← Text.after? [':'] rest)
    if hours < 24 ∧ minutes < 60 then
      return (Number.applySign (c == '-') (hours * 60 + minutes), rest)
    else failure
  | [] => none

/-- The time of day behind a date and a blank or the letter that parts them, if it is there. -/
def withClock (d : Date) (t : Text) : Moment × Text :=
  match t with
  | [] => (.date d, t)
  | c :: rest =>
    if c = 'T' || c = 't' || c = ' ' then
      match clock? rest with
      | none => (.date d, t)
      | some (clock, rest) =>
        match ahead? rest with
        | none => (.dated d clock none, rest)
        | some (ahead, rest) => (.dated d clock (some ahead), rest)
    else (.date d, t)

def moment? (t : Text) : Option (Moment × Text) :=
  match date? t with
  | some (d, rest) => some (withClock d rest)
  | none => (clock? t).map fun p => (.clock p.1, p.2)

end DocGraft.Toml
