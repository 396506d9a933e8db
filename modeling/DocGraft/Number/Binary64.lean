/-!
# Binary floating point numbers

A number of the 64 bit format is a whole number times a power of two, an infinity, or not a number.
A decimal is read by exact arithmetic and goes to the nearest number, a half to the even one.
-/

namespace DocGraft

/-- A finite number is `m * 2 ^ q` with `m < 2 ^ 53` and `-1074 ≤ q ≤ 971`, where `q` is the least
exponent that allows it. -/
inductive Binary64
  | finite (negative : Bool) (m : Nat) (q : Int)
  | infinite (negative : Bool)
  | nan
  deriving DecidableEq, Repr

namespace Binary64

def leastExponent : Int := -1074

def greatestExponent : Int := 971

def zero (negative : Bool) : Binary64 := .finite negative 0 leastExponent

def isZero : Binary64 → Bool
  | .finite _ m _ => m == 0
  | _ => false

/-- The whole number nearest to a quotient; a half goes to the even one. -/
def roundQuotient (num den : Nat) : Nat :=
  let down := num / den
  match compare (2 * (num % den)) den with
  | .lt => down
  | .gt => down + 1
  | .eq => down + down % 2

/-- `num / den` in units of `2 ^ q`, rounded. -/
def inUnits (num den : Nat) (q : Int) : Nat :=
  roundQuotient (num * Nat.pow 2 (-q).toNat) (den * Nat.pow 2 q.toNat)

/-- The exponent of the greatest power of two that is at most `num / den`. -/
def binaryExponent (num den : Nat) : Int :=
  let guess : Int := num.log2 - den.log2
  if num * Nat.pow 2 (-guess).toNat < den * Nat.pow 2 guess.toNat then guess - 1 else guess

/-- The number nearest to `num / den`. -/
def ofRatio (negative : Bool) (num den : Nat) : Binary64 :=
  let q := max (binaryExponent num den - 52) leastExponent
  let m := inUnits num den q
  let (m, q) := if m = Nat.pow 2 53 then (Nat.pow 2 52, q + 1) else (m, q)
  if greatestExponent < q then .infinite negative else .finite negative m q

def decimalSize (n : Nat) : Nat := (Nat.toDigits 10 n).length

/-- The number nearest to `digits * 10 ^ exponent`. Decimals far outside the format are told by
their size. -/
def ofDecimal (negative : Bool) (digits : Nat) (exponent : Int) : Binary64 :=
  if digits = 0 || decimalSize digits + exponent < -330 then zero negative
  else if 310 < decimalSize digits + exponent then .infinite negative
  else ofRatio negative (digits * Nat.pow 10 exponent.toNat) (Nat.pow 10 (-exponent).toNat)

def ofInt (n : Int) : Binary64 := ofDecimal (n < 0) n.natAbs 0

/-- A finite number in units of the least exponent. -/
def units (negative : Bool) (m : Nat) (q : Int) : Int :=
  let size : Int := .ofNat (m * Nat.pow 2 (q - leastExponent).toNat)
  if negative then -size else size

/-- Whether a whole number is less than this one, exactly. -/
def exceeds (x : Binary64) (n : Int) : Bool :=
  match x with
  | .finite negative m q => n * .ofNat (Nat.pow 2 (-leastExponent).toNat) < units negative m q
  | .infinite negative => !negative
  | .nan => false

end Binary64

end DocGraft
