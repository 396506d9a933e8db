import DocGraft.Number.Binary64

/-!
# Shortest decimals

A number is written with the fewest digits that read back as the same number, and of those with the
digits nearest to it. It is written positionally if its first digit stands at an exponent from -4 to
15, with a point even if it is whole, and otherwise with a signed exponent of at least two digits.
-/

namespace DocGraft.Binary64

/-- A decimal, `digits * 10 ^ exponent`. -/
structure Decimal where
  digits : Nat
  exponent : Int
  deriving DecidableEq, Repr

/-- The decimal that a finite number is exactly. -/
def exactDecimal (m : Nat) (q : Int) : Decimal :=
  ⟨m * Nat.pow 2 q.toNat * Nat.pow 5 (-q).toNat, min q 0⟩

/-- Whether a decimal is nearest to this finite number. -/
def readsBack (m : Nat) (q : Int) (d : Decimal) : Bool :=
  ofDecimal false d.digits d.exponent == .finite false m q

/-- The decimals of `size` digits on both sides of an exact one, the nearer first. -/
def neighbours (exact : Decimal) (size : Nat) : List Decimal :=
  let dropped := decimalSize exact.digits - size
  let unit := Nat.pow 10 dropped
  let low : Decimal := ⟨exact.digits / unit, exact.exponent + dropped⟩
  let high : Decimal := ⟨exact.digits / unit + 1, exact.exponent + dropped⟩
  match compare (2 * (exact.digits % unit)) unit with
  | .lt => [low, high]
  | .gt => [high, low]
  | .eq => if low.digits % 2 = 0 then [low, high] else [high, low]

/-- The digits without the zeros at their end; `fuel` bounds their number. -/
def strip : (fuel : Nat) → Decimal → Decimal
  | 0, d => d
  | fuel + 1, d =>
    if d.digits ≠ 0 ∧ d.digits % 10 = 0 then strip fuel ⟨d.digits / 10, d.exponent + 1⟩ else d

/-- The shortest decimal that reads back as the number, and the nearest of those. Seventeen digits
are always enough. -/
def shortest (m : Nat) (q : Int) : Decimal :=
  let exact := exactDecimal m q
  let found := (List.range 17).findSome? fun n =>
    (neighbours exact (n + 1)).find? (readsBack m q)
  let d := found.getD exact
  strip (decimalSize d.digits) d

def zeros (n : Nat) : List Char := List.replicate n '0'

/-- Digits with a point behind the first `point` of them. -/
def positional (digits : List Char) (point : Int) : List Char :=
  if point ≤ 0 then ['0', '.'] ++ zeros (-point).toNat ++ digits
  else if digits.length ≤ point.toNat then
    digits ++ zeros (point.toNat - digits.length) ++ ['.', '0']
  else digits.take point.toNat ++ ['.'] ++ digits.drop point.toNat

/-- One digit before the point, and the exponent of that digit. -/
def scientific (digits : List Char) (exponent : Int) : List Char :=
  let size := Nat.toDigits 10 exponent.natAbs
  digits.take 1 ++ (if digits.length ≤ 1 then [] else '.' :: digits.drop 1) ++
    ['e', if exponent < 0 then '-' else '+'] ++ zeros (2 - size.length) ++ size

def layout (d : Decimal) : List Char :=
  let digits := Nat.toDigits 10 d.digits
  let point := digits.length + d.exponent
  if -4 ≤ point - 1 ∧ point - 1 < 16 then positional digits point
  else scientific digits (point - 1)

def text : Binary64 → String
  | .finite negative m q =>
    let body := if m = 0 then ['0', '.', '0'] else layout (shortest m q)
    String.ofList (if negative then '-' :: body else body)
  | .infinite negative => if negative then "-inf" else "inf"
  | .nan => "nan"

end DocGraft.Binary64
