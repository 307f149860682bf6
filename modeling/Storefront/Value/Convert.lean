import Storefront.Failure
import Storefront.Value.Compare
import Storefront.Text.Number

/-!
# Values as numbers

The conversions of the runtime's `int` and `float`: booleans and statuses stand for their
integers, a float is cut toward zero, and text is read as a number with the rules of
`Storefront.Text`. An integer becomes the nearest float, ties to even, and one past the
largest float overflows; NaN has no integer and an infinity overflows.
-/

-- powers of naturals and integers are the core ones, whatever else is in scope
attribute [local instance (1100)] instPowNat

namespace Storefront

/-- The integer a value stands for, booleans counting as zero and one. -/
def intOf? : Value → Option Int
  | .int i => some i
  | .bool b => some (if b then 1 else 0)
  | .status s => some s.code
  | _ => none

/-- The float nearest a natural number, ties to even. Past 64 bits the number is cut to 61
bits with one more bit kept when anything nonzero was cut, which rounds the same way. -/
def natToFloat (n : Nat) : Float :=
  if n < 2 ^ (64 : Nat) then Float.ofNat n
  else
    let s := Nat.log2 n - 60
    let q := n >>> s
    let sticky := if q <<< s == n then 0 else 1
    Float.scaleB (Float.ofNat (q ||| sticky)) s

/-- A finite float counted in units of the smallest subnormal, `2^-1074`, of which every
finite float is a whole multiple; `none` for infinities and NaN. -/
def floatUnits? (x : Float) : Option Int :=
  (exactOfFloat? x).map fun (m, e) => m * 2 ^ (e + 1074).toNat

/-- The float nearest a count of units of `2^-1074`, with its sign; `none` past the largest
float. -/
def unitsFloat? (u : Int) : Option Float :=
  (Text.scaledFloat? u.natAbs (-1074)).map fun f => if u < 0 then -f else f

/-- An integer as a float, as mixed arithmetic converts it; one too large overflows. -/
def toFloat (i : Int) : Except Failure Float :=
  let f := natToFloat i.natAbs
  if f.isInf then throw (.runtimeText .overflowError "int too large to convert to float")
  else pure (if i < 0 then -f else f)

/-- The integer a float is cut to toward zero; NaN has none and an infinity overflows. -/
def truncate (x : Float) : Except Failure Int :=
  if x.isNaN then throw (.runtimeText .valueError "cannot convert float NaN to integer")
  else match exactOfFloat? x with
    | some (m, e) =>
      if e ≥ 0 then pure (m * 2 ^ e.toNat) else pure (m.tdiv (2 ^ (-e).toNat))
    | none => throw (.runtimeText .overflowError "cannot convert float infinity to integer")

/-- The integer a value converts to: an integer, the truncation of a finite float, or the
number a string holds. -/
def toInt (v : Value) : Except Failure Value :=
  match v with
  | .float x => do pure (.int (← truncate x))
  | .str s => match Text.readInt? s with
    | some i => pure (.int i)
    | none => throw (.runtime .valueError)
  | v => match intOf? v with
    | some i => pure (.int i)
    | none => throw (.runtime .typeError)

/-- The float a value converts to. -/
def toFloatValue (v : Value) : Except Failure Value :=
  match v with
  | .float x => pure (.float x)
  | .str s => match Text.readFloat? s with
    | some x => pure (.float x)
    | none => throw (.runtime .valueError)
  | v => match intOf? v with
    | some i => do pure (.float (← toFloat i))
    | none => throw (.runtime .typeError)

/-- A float whose sign bit is set. -/
def Float.signBit (x : Float) : Bool := x.toBits >>> 63 == 1

/-- Zero with the sign of a float. -/
def Float.signedZero (x : Float) : Float := if Float.signBit x then -0.0 else 0.0

/-- The remainder of `x / y` truncated toward zero, computed exactly, with the sign of `x`;
for an infinite `x` it is NaN, and for an infinite `y` it is `x`. -/
def fmod (x y : Float) : Float :=
  match exactOfFloat? x, exactOfFloat? y with
  | some (mx, ex), some (my, ey) =>
    if my == 0 then 0.0 / 0.0
    else
      let e := min ex ey
      let r := (mx * 2 ^ (ex - e).toNat).tmod (my * 2 ^ (ey - e).toNat)
      if r == 0 then Float.signedZero x else Float.scaleB (Float.ofInt r) e
  | some _, none => if y.isNaN then y else x
  | none, _ => 0.0 / 0.0

/-- Floor division and remainder of floats: the remainder takes the sign of the divisor and
the quotient is the nearest integer to the exact floor. -/
def floatDivmod (x y : Float) : Float × Float :=
  let m := fmod x y
  let d := (x - m) / y
  let (m, d) :=
    if m != 0.0 then
      if (y < 0.0) != (m < 0.0) then (m + y, d - 1.0) else (m, d)
    else (Float.signedZero y, d)
  let q :=
    if d != 0.0 then
      let f := d.floor
      if d - f > 0.5 then f + 1.0 else f
    else Float.signedZero (x / y)
  (q, m)

end Storefront
