import Storefront.Value.Basic
import Storefront.Decimal.Shortest
import Storefront.Text.CodePoint

/-!
# Comparing values

Equality is defined between any two values: numbers (booleans, integers, statuses and floats)
compare by exact numeric value, timestamps as instants (a naive and an aware one are never
equal), sequences and records item by item, maps as key sets with equal values; values of
unrelated classes are unequal. Order is defined only between numbers, between strings (by
code point), between timestamps that are both naive or both aware, and between sequences of
the same class (at the first unequal item, else by length); elsewhere it is undefined (`none`).
-/

-- powers of naturals and integers are the core ones, whatever else is in scope
attribute [local instance (1100)] instPowNat

namespace Storefront

/-- A number: an exact integer or a binary64 value. -/
inductive Num where
  | exact (i : Int)
  | real (x : Float)

/-- A finite float as `m * 2^e` exactly; `none` for infinities and NaN. -/
def exactOfFloat? (x : Float) : Option (Int × Int) :=
  let b := x.toBits
  if (b >>> 52) &&& 0x7FF == 0x7FF then none
  else
    let d := Decimal.Binary.ofBits b
    let m : Int := d.m
    some (if b >>> 63 == 1 then -m else m, d.q)

/-- Compare `i` with `m * 2^e` exactly. -/
def cmpExact (i m e : Int) : Ordering :=
  if e ≥ 0 then compare i (m * 2 ^ e.toNat) else compare (i * 2 ^ (-e).toNat) m

/-- The comparison operators. -/
inductive CmpOp where
  | eq
  | lt
  | le
  | gt
  | ge
deriving DecidableEq, Repr

namespace CmpOp

/-- The operator's symbol. -/
def symbol : CmpOp → String
  | eq => "=="
  | lt => "<"
  | le => "<="
  | gt => ">"
  | ge => ">="

/-- The operator with a symbol. -/
def ofSymbol? (s : String) : Option CmpOp :=
  [eq, lt, le, gt, ge].find? (·.symbol == s)

/-- The operator's verdict on an ordering. -/
def holds : CmpOp → Ordering → Bool
  | eq, o => o == .eq
  | lt, o => o == .lt
  | le, o => o != .gt
  | gt, o => o == .gt
  | ge, o => o != .lt

end CmpOp

namespace Num

/-- How two numbers compare; `none` when a NaN is involved. -/
def order? : Num → Num → Option Ordering
  | exact a, exact b => some (compare a b)
  | exact a, real y =>
    match exactOfFloat? y with
    | some (m, e) => some (cmpExact a m e)
    | none => if y.isNaN then none else some (if y > 0 then .lt else .gt)
  | real x, exact b =>
    match exactOfFloat? x with
    | some (m, e) => some (cmpExact b m e).swap
    | none => if x.isNaN then none else some (if x > 0 then .gt else .lt)
  | real x, real y =>
    if x.isNaN || y.isNaN then none
    else if x < y then some .lt else if x == y then some .eq else some .gt

/-- The operator applied to two numbers; false whenever a NaN is involved. -/
def holds (op : CmpOp) (a b : Num) : Bool :=
  match a.order? b with
  | some o => op.holds o
  | none => false

end Num

namespace Value

/-- The number a value stands for. -/
def num? : Value → Option Num
  | bool b => some (.exact (if b then 1 else 0))
  | int i => some (.exact i)
  | status s => some (.exact s.code)
  | float x => some (.real x)
  | _ => Option.none

/-- Whether two values are both NaN. The service reads one NaN object only, so containers,
which test their items for identity before equality, find NaN equal to itself there. -/
def bothNaN : Value → Value → Bool
  | float x, float y => x.isNaN && y.isNaN
  | _, _ => false

mutual

/-- Equality of values. -/
def same : Value → Value → Bool
  | str a, str b => a == b
  | none, none => true
  | time a, time b => a.same b
  | list xs, list ys => sameItems xs ys
  | tuple xs, tuple ys => sameItems xs ys
  | dict xs, dict ys => xs.length == ys.length && sameEntries xs ys
  | record c xs, record d ys => c == d && sameFields xs ys
  | a, b =>
    match a.num?, b.num? with
    | some x, some y => Num.holds .eq x y
    | _, _ => false

/-- Equal lengths and items in order that are one object or equal. -/
def sameItems : List Value → List Value → Bool
  | [], [] => true
  | x :: xs, y :: ys => (bothNaN x y || same x y) && sameItems xs ys
  | _, _ => false

/-- Every entry of the first map has an equal entry under its key in the second. -/
def sameEntries : List (String × Value) → List (String × Value) → Bool
  | [], _ => true
  | (k, v) :: es, ys =>
    (match lookup ys k with
      | some w => bothNaN v w || same v w
      | Option.none => false) && sameEntries es ys

/-- Equal fields in order. -/
def sameFields : List (String × Value) → List (String × Value) → Bool
  | [], [] => true
  | (_, x) :: xs, (_, y) :: ys => (bothNaN x y || same x y) && sameFields xs ys
  | _, _ => false

end

mutual

/-- The operator applied to two values; `none` where order is undefined. -/
def test : CmpOp → Value → Value → Option Bool
  | .eq, a, b => some (same a b)
  | op, str a, str b => some (op.holds (Text.compareText a b))
  | op, time a, time b => if a.comparable b then some (op.holds (a.cmp b)) else Option.none
  | op, list xs, list ys => testItems op xs ys
  | op, tuple xs, tuple ys => testItems op xs ys
  | op, a, b =>
    match a.num?, b.num? with
    | some x, some y => some (Num.holds op x y)
    | _, _ => Option.none

/-- Sequences: the operator on the first pair of items that are not alike, else on the
lengths. -/
def testItems : CmpOp → List Value → List Value → Option Bool
  | op, [], [] => some (op.holds .eq)
  | op, [], _ :: _ => some (op.holds .lt)
  | op, _ :: _, [] => some (op.holds .gt)
  | op, x :: xs, y :: ys => if bothNaN x y || same x y then testItems op xs ys else test op x y

end

/-- Equality as containers test their items and maps their keys: identity first, so the one
NaN is equal to itself, then equality. -/
def alike (a b : Value) : Bool := bothNaN a b || same a b

end Value

end Storefront
