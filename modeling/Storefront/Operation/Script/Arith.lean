import Storefront.Operation.Script.Syntax
import Storefront.Value.Convert
import Storefront.Value.Text

/-!
# Arithmetic of scalar values

The operators on numbers and strings, as the service's runtime computes them. Booleans and
statuses count as integers; integers and floats mix into floats, and an integer too large for
a float overflows; `/` always gives the float nearest the exact quotient, and `//` and `%`
round toward negative infinity. Bitwise operators take integers in two's complement. Strings
join with `+` and repeat with `*`.

Results that would not fit in memory are refused instead of computed: an integer of more than
`maxBits` bits or a string of more than `maxChars` characters.
-/

-- powers of naturals and integers are the core ones, whatever else is in scope
attribute [local instance (1100)] instPowNat

namespace Storefront.Script

/-- A failure of the runtime, of one kind. -/
def fail (k : FailureKind) : Except Failure α := throw (.runtime k)

/-- A failure of the runtime with its text. -/
def failText (k : FailureKind) (text : String) : Except Failure α := throw (.runtimeText k text)

/-- The text of a number too large for its conversion to text. -/
def digitLimitText : String :=
  "Exceeds the limit (4300 digits) for integer string conversion; " ++
    "use sys.set_int_max_str_digits() to increase the limit"

/-- A float result out of range, with the arguments the platform's error carries. -/
def rangeOverflow : Failure :=
  .runtimeArgs .overflowError [.int 34, .str "Numerical result out of range"]

/-- A value or an operation that bodies here do not model. -/
def unsupported : Failure := .malformed "unsupported operation in body"

/-- The most bits an integer result may have. -/
def maxBits : Nat := 2 ^ (24 : Nat)

/-- The most characters a string result may have. -/
def maxChars : Nat := 2 ^ (24 : Nat)

/-- The most decimal digits an integer may be written with. -/
def maxIntDigits : Nat := 4300

/-- The decimal text of an integer, refused past the digit limit. -/
def intText (i : Int) : Except Failure String :=
  if Nat.log2 i.natAbs > 14300 then failText .valueError digitLimitText
  else
    let s := toString i
    if s.length - (if i < 0 then 1 else 0) > maxIntDigits then failText .valueError digitLimitText
    else pure s

/-- The quotient of two integers as the float nearest to it, ties to even; a quotient too
large for a float overflows. The divisor is not zero. -/
def trueDivide (x y : Int) : Except Failure Float := do
  let neg := (x < 0) != (y < 0)
  let n := x.natAbs
  let d := y.natAbs
  if n < 2 ^ (53 : Nat) && d < 2 ^ (53 : Nat) then pure (Float.ofInt x / Float.ofInt y)
  else if n == 0 then pure (if neg then -0.0 else 0.0)
  else
    -- scale so that the integer quotient has at least 55 bits, and keep a sticky bit
    let e : Int := (Nat.log2 n : Int) - Nat.log2 d - 56
    let (num, den) := if e ≥ 0 then (n, d * 2 ^ e.toNat) else (n * 2 ^ (-e).toNat, d)
    let q := num / den
    let q' := 2 * q + (if num % den == 0 then 0 else 1)
    let f := Float.scaleB (natToFloat q') (e - 1)
    if f.isInf then failText .overflowError "integer division result too large for a float"
    else pure (if neg then -f else f)

/-- Bitwise and, or and exclusive or of integers in two's complement, where a negative
number has infinitely many leading ones. -/
def bitwise (op : BinOp) (a b : Int) : Int :=
  -- a negative `a` is the complement of the natural number `-a - 1`
  let c (i : Int) : Nat := (-i - 1).toNat
  match op with
  | .bitAnd =>
    if a ≥ 0 && b ≥ 0 then Nat.land a.toNat b.toNat
    else if a < 0 && b < 0 then -(Nat.lor (c a) (c b) : Int) - 1
    else if a ≥ 0 then (a.toNat - Nat.land a.toNat (c b) : Nat)
    else (b.toNat - Nat.land b.toNat (c a) : Nat)
  | .bitOr =>
    if a ≥ 0 && b ≥ 0 then Nat.lor a.toNat b.toNat
    else if a < 0 && b < 0 then -(Nat.land (c a) (c b) : Int) - 1
    else if a ≥ 0 then -((c b - Nat.land (c b) a.toNat : Nat) : Int) - 1
    else -((c a - Nat.land (c a) b.toNat : Nat) : Int) - 1
  | _ =>
    if a ≥ 0 && b ≥ 0 then Nat.xor a.toNat b.toNat
    else if a < 0 && b < 0 then Nat.xor (c a) (c b)
    else if a ≥ 0 then -(Nat.xor a.toNat (c b) : Int) - 1
    else -(Nat.xor (c a) b.toNat : Int) - 1

/-- A float to a power: zero to a negative power divides by zero, a negative base to a
fractional power has no real value, and a finite power that overflows fails. -/
def floatPow (x y : Float) : Except Failure Value :=
  if x == 0.0 && y < 0.0 then failText .zeroDivisionError "0.0 cannot be raised to a negative power"
  else if x < 0.0 && !x.isInf && y.floor != y && !y.isInf then throw unsupported
  else
    let r := Float.pow x y
    if r.isInf && !x.isInf && !y.isInf then throw rangeOverflow else pure (.float r)

/-- Arithmetic on two floats. -/
def floatArith (op : BinOp) (x y : Float) : Except Failure Value :=
  match op with
  | .add => pure (.float (x + y))
  | .sub => pure (.float (x - y))
  | .mul => pure (.float (x * y))
  | .div => if y == 0.0 then failText .zeroDivisionError "float division by zero"
    else pure (.float (x / y))
  | .floorDiv => if y == 0.0 then failText .zeroDivisionError "float floor division by zero"
    else pure (.float (floatDivmod x y).1)
  | .mod => if y == 0.0 then failText .zeroDivisionError "float modulo"
    else pure (.float (floatDivmod x y).2)
  | .pow => floatPow x y
  | _ => fail .typeError

/-- An integer result, refused when it has too many bits. -/
def bounded (i : Int) : Except Failure Value :=
  if Nat.log2 i.natAbs ≥ maxBits then throw (.runtime (.other "MemoryError")) else pure (.int i)

/-- Arithmetic on two integers. -/
def intArith (op : BinOp) (x y : Int) : Except Failure Value :=
  match op with
  | .add => pure (.int (x + y))
  | .sub => pure (.int (x - y))
  | .mul =>
    if Nat.log2 x.natAbs + Nat.log2 y.natAbs ≥ maxBits then throw (.runtime (.other "MemoryError"))
    else pure (.int (x * y))
  | .div => if y == 0 then failText .zeroDivisionError "division by zero"
    else do pure (.float (← trueDivide x y))
  | .floorDiv => if y == 0 then failText .zeroDivisionError "integer division or modulo by zero"
    else pure (.int (x.fdiv y))
  | .mod => if y == 0 then failText .zeroDivisionError "integer modulo by zero"
    else pure (.int (x.fmod y))
  | .pow =>
    if y ≥ 0 then
      if x.natAbs ≤ 1 then pure (.int (x ^ y.toNat))
      else if (Nat.log2 x.natAbs + 1) * y.toNat > maxBits then
        throw (.runtime (.other "MemoryError"))
      else pure (.int (x ^ y.toNat))
    else if x == 0 then failText .zeroDivisionError "0.0 cannot be raised to a negative power"
    else do
      let a ← toFloat x
      let b ← toFloat y
      floatPow a b
  | .bitAnd | .bitOr | .bitXor => pure (.int (bitwise op x y))
  | .shiftLeft =>
    if y < 0 then failText .valueError "negative shift count"
    else if x == 0 then pure (.int 0)
    else if y.toNat + Nat.log2 x.natAbs ≥ maxBits then throw (.runtime (.other "MemoryError"))
    else pure (.int (x * 2 ^ y.toNat))
  | .shiftRight =>
    if y < 0 then failText .valueError "negative shift count"
    else if y.toNat > Nat.log2 x.natAbs + 1 then pure (.int (if x < 0 then -1 else 0))
    else pure (.int (x.fdiv (2 ^ y.toNat)))
  | .matMul => fail .typeError

/-- Arithmetic on two numbers: exact for integers, in floats otherwise. -/
def numArith (op : BinOp) : Num → Num → Except Failure Value
  | .exact x, .exact y => intArith op x y
  | .exact x, .real y => do floatArith op (← toFloat x) y
  | .real x, .exact y => do floatArith op x (← toFloat y)
  | .real x, .real y => floatArith op x y

/-- A sequence repeated a number of times; none for a count below one. -/
def repeatList (xs : List α) (n : Int) : List α := (List.replicate n.toNat xs).flatten

/-- The count of a repetition: an integer, or a type failure. A count too large to hold is
an overflow, and a result too long to hold is refused. -/
def repeatCount (n : Value) (size : Nat) : Except Failure Int :=
  match intOf? n with
  | some k =>
    if k ≥ 2 ^ (63 : Nat) then failText .overflowError "cannot fit 'int' into an index-sized integer"
    else if k > 0 && k.toNat * size > maxChars then throw (.runtime (.other "MemoryError"))
    else pure k
  | none => fail .typeError

/-- A binary operator on two scalar values: numbers, strings joined or repeated, and the
bitwise operators on booleans. -/
def scalarBinary (op : BinOp) (a b : Value) : Except Failure Value :=
  match op, a, b with
  | .add, .str x, .str y => pure (.str (x ++ y))
  | .bitAnd, .bool x, .bool y => pure (.bool (x && y))
  | .bitOr, .bool x, .bool y => pure (.bool (x || y))
  | .bitXor, .bool x, .bool y => pure (.bool (x != y))
  | .mul, .str x, n => do
    let k ← repeatCount n x.length
    pure (.str (String.join (repeatList [x] k)))
  | .mul, n, .str x => do
    let k ← repeatCount n x.length
    pure (.str (String.join (repeatList [x] k)))
  | op, a, b =>
    match a.num?, b.num? with
    | some x, some y => numArith op x y
    | _, _ => fail .typeError

/-- The negation of a number. -/
def negate (v : Value) : Except Failure Value :=
  match v with
  | .float x => pure (.float (-x))
  | v => match intOf? v with
    | some i => pure (.int (-i))
    | none => fail .typeError

/-- The bitwise complement of an integer. -/
def complement (v : Value) : Except Failure Value :=
  match v with
  | .float _ => fail .typeError
  | v => match intOf? v with
    | some i => pure (.int (-i - 1))
    | none => fail .typeError

/-- A number as itself, booleans and statuses as integers. -/
def positive (v : Value) : Except Failure Value :=
  match v with
  | .float x => pure (.float x)
  | v => match intOf? v with
    | some i => pure (.int i)
    | none => fail .typeError

/-- A unary operator on a scalar value. -/
def scalarUnary (op : UnaryOp) (v : Value) : Except Failure Value :=
  match op with
  | .neg => negate v
  | .pos => positive v
  | .invert => complement v
  | .not => pure (.bool !v.truthy)

/-- A float rounded to the nearest integer, halves to even. -/
def roundHalfEven (x : Float) : Except Failure Int :=
  if x.isNaN then failText .valueError "cannot convert float NaN to integer"
  else match exactOfFloat? x with
    | some (m, e) =>
      if e ≥ 0 then pure (m * 2 ^ e.toNat)
      else
        let d : Int := 2 ^ (-e).toNat
        let q := m.fdiv d
        let r := m - q * d
        pure (if 2 * r > d then q + 1 else if 2 * r == d then q + q % 2 else q)
    | none => failText .overflowError "cannot convert float infinity to integer"

/-- An integer rounded to a multiple of ten to the power of minus `n`, a half going to the
even multiple; a non-negative `n` leaves it as it is. Past its own count of digits every
multiple but zero is too far. -/
def roundIntPlaces (i : Int) (n : Int) : Int :=
  if n ≥ 0 then i
  else
    let k := (-n).toNat
    if k > (toString i.natAbs).length then 0
    else
      let d : Int := 10 ^ k
      let q := i.fdiv d
      let r := i - q * d
      let q := if 2 * r > d then q + 1 else if 2 * r == d then q + q % 2 else q
      q * d

/-- The absolute value of a number. -/
def absolute (v : Value) : Except Failure Value :=
  match v with
  | .float x => pure (.float x.abs)
  | v => match intOf? v with
    | some i => pure (.int i.natAbs)
    | none => fail .typeError

/-- The integer a value truncates to for the integer conversions of a format: an integer,
or a float cut toward zero. -/
def truncated (v : Value) : Except Failure Int :=
  match v with
  | .float x =>
    if x.isNaN then failText .valueError "cannot convert float NaN to integer"
    else match exactOfFloat? x with
      | some (m, e) => pure (if e ≥ 0 then m * 2 ^ e.toNat else m.tdiv (2 ^ (-e).toNat))
      | none => failText .overflowError "cannot convert float infinity to integer"
  | v => match intOf? v with
    | some i => pure i
    | none => fail .typeError

/-- A float rounded to a number of decimal places, halves to even on the exact value. More
than 323 places (past the last digit of the smallest float) leave it as it is, and fewer
than -308 (past the largest float's first digit) give zero of its sign. -/
def roundPlaces (x : Float) (n : Int) : Except Failure Float :=
  if x.isNaN || x.isInf || x == 0.0 then pure x
  else if n > 323 then pure x
  else if n < -308 then pure (if x < 0.0 then -0.0 else 0.0)
  else match exactOfFloat? x with
    | some (m, e) =>
      -- the value times 10^n, rounded to an integer, then divided by 10^n
      let num : Int := m * (if e ≥ 0 then 2 ^ e.toNat else 1) * (if n ≥ 0 then 10 ^ n.toNat else 1)
      let den : Int := (if e < 0 then 2 ^ (-e).toNat else 1) * (if n < 0 then 10 ^ (-n).toNat else 1)
      let q := num.fdiv den
      let r := num - q * den
      let k := if 2 * r > den then q + 1 else if 2 * r == den then q + q % 2 else q
      let y := if n ≥ 0 then Json.scientific k.natAbs (-n) else Json.scientific (k.natAbs * 10 ^ (-n).toNat) 0
      let y := if k < 0 || (k == 0 && x < 0.0) then -y else y
      if y.isInf then failText .overflowError "rounded value too large to represent" else pure y
    | none => pure x

end Storefront.Script
