import DocGraft.Number.Binary64
import DocGraft.Number.Digit

/-!
# Reading numbers

Numbers may stand between blanks and have a sign. Digits may come from any script, and a single low
line may stand between two of them.
-/

namespace DocGraft.Number

open Text (digitValue?)

/-- The blanks around a number; the information separators are not among them. -/
def isPadding (c : Char) : Bool :=
  Text.isBlankChar c && !(0x1C ≤ c.toNat && c.toNat ≤ 0x1F)

def dropPadding (t : Text) : Text :=
  ((t.dropWhile isPadding).reverse.dropWhile isPadding).reverse

/-- Whether a text starts with a minus sign, and what follows the sign, if any. -/
def signed : Text → Bool × Text
  | '-' :: rest => (true, rest)
  | '+' :: rest => (false, rest)
  | t => (false, t)

/-- The values of one or more digits, with single low lines between them; `value?` tells which
characters are digits. -/
def digitsBy? (value? : Char → Option Nat) : Text → Option (List Nat)
  | [] => none
  | [c] => (value? c).map ([·])
  | c :: '_' :: rest => do return (← value? c) :: (← digitsBy? value? rest)
  | c :: rest => do return (← value? c) :: (← digitsBy? value? rest)

/-- Decimal digits of any script. -/
def digits? : Text → Option (List Nat) := digitsBy? digitValue?

def ofDigits (base : Nat) (digits : List Nat) : Nat := digits.foldl (fun n d => base * n + d) 0

def applySign (negative : Bool) (n : Nat) : Int := if negative then -n else n

def readInt? (t : Text) : Option Int := do
  let (negative, body) := signed (dropPadding t)
  let digits ← digits? body
  if longest < digits.length then none else some (applySign negative (ofDigits 10 digits))

/-- Digits that may be left out. -/
def optionalDigits? (t : Text) : Option (List Nat) := if t.isEmpty then some [] else digits? t

def isExponentMark (c : Char) : Bool := c == 'e' || c == 'E'

/-- The exponent behind the mark; zero if there is no mark. -/
def exponent? : Text → Option Int
  | [] => some 0
  | _ :: rest => do
    let (negative, body) := signed rest
    return applySign negative (ofDigits 10 (← digits? body))

/-- An unsigned decimal with or without a point and an exponent. -/
def decimal? (negative : Bool) (t : Text) : Option Binary64 := do
  let mantissa := t.takeWhile fun c => !isExponentMark c
  let exponent ← exponent? (t.dropWhile fun c => !isExponentMark c)
  let whole ← optionalDigits? (mantissa.takeWhile (· != '.'))
  let places ← optionalDigits? ((mantissa.dropWhile (· != '.')).drop 1)
  if whole.isEmpty && places.isEmpty then none
  else some (.ofDecimal negative (ofDigits 10 (whole ++ places)) (exponent - places.length))

/-- A number of the floating point format: a decimal, or one of the words for an infinity and for
not a number, in any case. -/
def readFloat? (t : Text) : Option Binary64 :=
  let (negative, body) := signed (dropPadding t)
  let word := String.ofList (body.map Char.toLower)
  if word = "inf" || word = "infinity" then some (.infinite negative)
  else if word = "nan" then some .nan
  else decimal? negative body

end DocGraft.Number
