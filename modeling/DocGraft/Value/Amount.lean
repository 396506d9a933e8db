import DocGraft.Value

/-!
# Amounts

Numbers of all kinds are compared and added with each other, and a truth value counts as one or
zero. Texts are compared character by character, lists item by item, and moments with others of
their kind. Other values have no order, and only numbers have a sum.
-/

namespace DocGraft

namespace Binary64

/-- The number one in units of the least exponent. -/
def one : Int := .ofNat (Nat.pow 2 (-leastExponent).toNat)

/-- The number nearest to so many units of the least exponent. -/
def ofUnits (n : Int) : Binary64 :=
  if n = 0 then zero false else ofRatio (n < 0) n.natAbs one.toNat

/-- The number nearest to a sum. -/
def add : Binary64 → Binary64 → Binary64
  | .finite a m q, .finite b n r => ofUnits (units a m q + units b n r)
  | .infinite a, .infinite b => if a = b then .infinite a else .nan
  | .nan, _ | _, .nan => .nan
  | .infinite a, _ | _, .infinite a => .infinite a

end Binary64

namespace Value

/-- The place of a number among all numbers: first whether it is an infinity and on which side, then
its size in units of the least exponent. -/
def place? : Value → Option (Int × Int)
  | .bool b => some (0, if b then Binary64.one else 0)
  | .int n => some (0, n * Binary64.one)
  | .float (.finite negative m q) => some (0, Binary64.units negative m q)
  | .float (.infinite negative) => some (if negative then -1 else 1, 0)
  | _ => none

/-- Whether two values are the same, where numbers of two kinds may be. -/
def isSame (a b : Value) : Bool :=
  match a.place?, b.place? with
  | some p, some q => p == q
  | _, _ => a == b

def isNan (v : Value) : Bool := v == .float .nan

mutual

/-- Whether the first value is the greater one, if there is an order between them. -/
def exceeds? (a b : Value) : Option Bool :=
  match a, b with
  | .text s, .text t => some (t < s)
  | .moment m, .moment n => m.exceeds? n
  | .list xs, .list ys => itemsExceed? xs ys
  | a, b =>
    match a.place?, b.place? with
    | some (i, m), some (j, n) => some (j < i || (i = j && n < m))
    | p, q => if (a.isNan || p.isSome) && (b.isNan || q.isSome) then some false else none

/-- The first items that are not the same decide, and otherwise the number of items. -/
def itemsExceed? : List Value → List Value → Option Bool
  | [], _ => some false
  | _ :: _, [] => some true
  | x :: xs, y :: ys => if isSame x y then itemsExceed? xs ys else exceeds? x y

end

/-- A number as a whole one, if it is. -/
def whole? : Value → Option Int
  | .bool b => some (if b then 1 else 0)
  | .int n => some n
  | _ => none

def number? : Value → Option Binary64
  | .float x => some x
  | v => v.whole?.map Binary64.ofInt

/-- The sum of two numbers; it is whole if both are. -/
def add? (a b : Value) : Option Value :=
  match a.whole?, b.whole? with
  | some m, some n => some (.int (m + n))
  | _, _ => do return .float (.add (← a.number?) (← b.number?))

end Value

end DocGraft
