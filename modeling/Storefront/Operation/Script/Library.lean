import Storefront.Operation.Script.Builtins

/-!
# Modules of the runtime's library

The modules a body may import: `math`, with its functions on numbers and its constants, and
`datetime`, with its classes of times and durations. Importing any other module is not
modelled.

The functions of `math` that take floats convert integers to floats first, and refuse what
is not a number. A result that is NaN from an argument that is not is a domain error; an
infinite result from finite arguments is a range error for the functions that grow without
bound (`exp`, `sinh`, …), a domain error for the others (a pole, as `log(0)`). `floor`,
`ceil` and `trunc` give integers; `gcd`, `lcm`, `factorial`, `comb`, `perm` and `isqrt` work
on integers only.
-/

-- powers of naturals and integers are the core ones, whatever else is in scope
attribute [local instance (1100)] instPowNat

namespace Storefront.Script

/-- The functions of `math` this library gives. -/
def mathFunctions : List String :=
  ["acos", "acosh", "asin", "asinh", "atan", "atan2", "atanh", "cbrt", "ceil", "comb",
    "copysign", "cos", "cosh", "degrees", "exp", "exp2", "expm1", "fabs", "factorial", "floor",
    "dist", "fmod", "frexp", "fsum", "gcd", "hypot", "isclose", "isfinite", "isinf", "isnan",
    "isqrt", "lcm", "ldexp",
    "log", "log10", "log1p", "log2", "modf", "perm", "pow", "prod", "radians", "sin", "sinh",
    "sqrt", "tan", "tanh", "trunc"]

/-- The float of a bit pattern. -/
def floatOfBits (b : UInt64) : Float := Float.ofBits b

/-- π, the nearest float. -/
def piFloat : Float := floatOfBits 0x400921FB54442D18

/-- A domain error of `math`. -/
def domainError : Failure := .runtimeText .valueError "math domain error"

/-- A range error of `math`. -/
def rangeError : Failure := .runtimeText .overflowError "math range error"

/-- The float a function of one float gives, with its errors: NaN from a number is a domain
error; infinity from a finite number is a range error when the function grows without
bound, else a domain error. -/
def mathOne (grows : Bool) (f : Float → Float) (x : Float) : Except Failure Float :=
  let r := f x
  if r.isNaN && !x.isNaN then throw domainError
  else if r.isInf && !x.isNaN && !x.isInf then throw (if grows then rangeError else domainError)
  else pure r

/-- The natural logarithm as `math.log` takes it: of a positive number, and minus infinity
of zero, which the caller refuses. -/
def logOf (x : Float) : Float :=
  if x.isNaN then x else if x == 0.0 then -floatOfBits 0x7FF0000000000000
  else if x < 0.0 then floatOfBits 0x7FF8000000000000 else x.log

/-- The binomial coefficient: the ways to choose `k` of `n`. -/
def choose (n k : Nat) : Nat := (List.range k).foldl (fun acc i => acc * (n - i) / (i + 1)) 1

/-- The ways to arrange `k` of `n`. -/
def arrangements (n k : Nat) : Nat := (List.range k).foldl (fun acc i => acc * (n - i)) 1

/-- The running state of `fsum`: the exact sum of the finite summands since the last
infinity or NaN, counted in units of `2^-1074`, and the float sums of the infinities and NaNs
and of the infinities alone. -/
structure FloatSum where
  units : Int := 0
  special : Float := 0.0
  infinite : Float := 0.0

/-- One more summand of `fsum`. A finite one joins the exact sum, which must still round to a
finite float; an infinity or a NaN joins the special sums and starts the exact sum over. -/
def FloatSum.add (s : FloatSum) (x : Float) : Except Failure FloatSum :=
  match floatUnits? x with
  | some u =>
    let e := s.units + u
    match unitsFloat? e with
    | some _ => pure { s with units := e }
    | none => throw (.runtimeText .overflowError "intermediate overflow in fsum")
  | none =>
    let infinite := if x.isInf then s.infinite + x else s.infinite
    pure { units := 0, special := s.special + x, infinite := infinite }

/-- The total of `fsum`: the special sum when an infinity or a NaN was added, refused when
infinities of both signs met, else the exact sum rounded once. -/
def FloatSum.total (s : FloatSum) : Except Failure Float :=
  if s.special != 0.0 then
    if s.infinite.isNaN then throw (.runtimeText .valueError "-inf + inf in fsum")
    else pure s.special
  else pure ((unitsFloat? s.units).getD 0.0)

/-- The length of a vector of floats, the square root of the exact sum of squares rounded
once: infinite when a coordinate is infinite, even beside a NaN, else NaN when one is NaN,
and infinite past the largest float. -/
def vectorNorm (xs : List Float) : Float :=
  let inf := floatOfBits 0x7FF0000000000000
  if xs.any Float.isInf then inf
  else if xs.any Float.isNaN then floatOfBits 0x7FF8000000000000
  else
    -- the squares are counted in units of 2^-2148, whose root is 2^-1074
    let t : Nat := (xs.filterMap floatUnits?).foldl (fun acc u => acc + u.natAbs ^ (2 : Nat)) 0
    if t == 0 then 0.0
    else
      -- scale by 4^s so that the root has at least 55 bits, then keep a sticky bit
      let s := (110 - Nat.log2 t) / 2 + 1
      let big := t * 4 ^ s
      let r := Nat.sqrt big
      let q := 2 * r + (if r * r == big then 0 else 1)
      (Text.scaledFloat? q (-1075 - (s : Int))).getD inf

/-- The remainder of `x` by `y` with the sign of `x`, which is always exact: NaN from a NaN,
a domain error for an infinite `x` or a zero `y`, and `x` itself for an infinite `y`. -/
def floatRemainder (x y : Float) : Except Failure Float :=
  if x.isNaN || y.isNaN then pure (x + y)
  else if x.isInf || y == 0.0 then throw domainError
  else if y.isInf then pure x
  else match floatUnits? x, floatUnits? y with
    | some a, some b =>
      let r := a.tmod b
      if r == 0 then pure (if x.toBits >>> 63 == 1 then -0.0 else 0.0)
      else pure ((unitsFloat? r).getD 0.0)
    | _, _ => pure x

namespace Run

/-- The module an import names. -/
def importModule (m : List String) : Run Obj :=
  match m with
  | ["math"] => pure (.module "math")
  | ["datetime"] => pure (.module "datetime")
  | _ => throw unsupported

/-- What a module holds under a name. -/
def moduleAttr (m name : String) : Run Obj := do
  let missing : Run Obj := failWith (.runtimeText .attributeError
    ("module '" ++ m ++ "' has no attribute '" ++ name ++ "'"))
  match m with
  | "math" =>
    -- a constant of the module is one object
    let constant (x : Float) : Run Obj := pure (.scalar (.float x) (.const 0 ("math." ++ name)))
    match name with
    | "pi" => constant piFloat
    | "e" => constant (floatOfBits 0x4005BF0A8B145769)
    | "tau" => constant (floatOfBits 0x401921FB54442D18)
    | "inf" => constant (floatOfBits 0x7FF0000000000000)
    | "nan" => constant (floatOfBits 0x7FF8000000000000)
    | f => if mathFunctions.contains f then pure (.builtin ("math." ++ f)) else missing
  | "datetime" => match name with
    | "datetime" | "timedelta" | "timezone" => pure (.cls name)
    | "MINYEAR" => int 1
    | "MAXYEAR" => int 9999
    | _ => missing
  | _ => missing

/-- A number argument of `math` as a float. -/
def realArg (o : Obj) : Run Float := do
  match o with
  | .scalar (.float x) _ => pure x
  | .scalar v _ => match intOf? v with
    | some i => lift (toFloat i)
    | none => typeFail ("must be real number, not " ++ (← typeOf o))
  | _ => typeFail ("must be real number, not " ++ (← typeOf o))

/-- An integer argument of `math`. -/
def integerArg (o : Obj) : Run Int := do
  match o with
  | .scalar (.float _) _ => typeFail "'float' object cannot be interpreted as an integer"
  | _ => match o.int? with
    | some i => pure i
    | none => typeFail ("'" ++ (← typeOf o) ++ "' object cannot be interpreted as an integer")

/-- Exactly the arguments a function of `math` takes. -/
def exactArgs (fn : String) (n : Nat) (args : List Obj) (kwargs : List (String × Obj)) :
    Run (List Obj) := do
  if !kwargs.isEmpty then typeFail ("math." ++ fn ++ "() takes no keyword arguments")
  if args.length != n then
    if n == 1 then
      typeFail ("math." ++ fn ++ "() takes exactly one argument (" ++ toString args.length ++ " given)")
    else typeFail (fn ++ " expected " ++ toString n ++ " arguments, got " ++ toString args.length)
  pure args

/-- A function of `math` of one float. -/
def mathFloat (fn : String) (grows : Bool) (f : Float → Float) (args : List Obj)
    (kwargs : List (String × Obj)) : Run Obj := do
  let xs ← exactArgs fn 1 args kwargs
  float (← lift (mathOne grows f (← realArg (xs.headD noneObj))))

/-- The integer a number rounds to by `floor`, `ceil` or `trunc`: an integer itself, a float
by the rounding. -/
def roundedInt (fn : String) (round : Float → Float) (o : Obj) : Run Obj := do
  match o with
  | .scalar (.float x) _ => int (← lift (truncate (round x)))
  | .scalar v _ => match intOf? v with
    | some i => int i
    | none => typeFail ("must be real number, not " ++ (← typeOf o))
  | _ =>
    if fn == "trunc" then typeFail ("type " ++ (← typeOf o) ++ " doesn't define __trunc__ method")
    else typeFail ("must be real number, not " ++ (← typeOf o))

/-- A function of `math` called with arguments, by its name without the module. -/
def mathCall (fn : String) (args : List Obj) (kwargs : List (String × Obj)) : Run Obj := do
  match fn with
  | "sqrt" => mathFloat fn false Float.sqrt args kwargs
  | "exp" => mathFloat fn true Float.exp args kwargs
  | "exp2" => mathFloat fn true Float.exp2 args kwargs
  | "expm1" => mathFloat fn true (fun x => if x.abs < 1e-5 then x + x * x / 2.0 + x * x * x / 6.0 else x.exp - 1.0) args kwargs
  | "sin" => mathFloat fn false Float.sin args kwargs
  | "cos" => mathFloat fn false Float.cos args kwargs
  | "tan" => mathFloat fn false Float.tan args kwargs
  | "asin" => mathFloat fn false Float.asin args kwargs
  | "acos" => mathFloat fn false Float.acos args kwargs
  | "atan" => mathFloat fn false Float.atan args kwargs
  | "sinh" => mathFloat fn true Float.sinh args kwargs
  | "cosh" => mathFloat fn true Float.cosh args kwargs
  | "tanh" => mathFloat fn false Float.tanh args kwargs
  | "asinh" => mathFloat fn false Float.asinh args kwargs
  | "acosh" => mathFloat fn false Float.acosh args kwargs
  | "atanh" => mathFloat fn false Float.atanh args kwargs
  | "cbrt" => mathFloat fn false Float.cbrt args kwargs
  | "fabs" => mathFloat fn false Float.abs args kwargs
  | "degrees" => mathFloat fn false (fun x => x * (180.0 / piFloat)) args kwargs
  | "radians" => mathFloat fn false (fun x => x * (piFloat / 180.0)) args kwargs
  | "log10" => mathFloat fn false (fun x => if x > 0.0 then x.log10 else logOf x) args kwargs
  | "log2" => mathFloat fn false (fun x => if x > 0.0 then x.log2 else logOf x) args kwargs
  | "log1p" => mathFloat fn false (fun x => if x > -1.0 then (1.0 + x).log else logOf (1.0 + x)) args kwargs
  | "log" => do
    if !kwargs.isEmpty then typeFail "math.log() takes no keyword arguments"
    match args with
    | [x] => float (← lift (mathOne false logOf (← realArg x)))
    | [x, b] => do
      let lx ← lift (mathOne false logOf (← realArg x))
      let lb ← lift (mathOne false logOf (← realArg b))
      if lb == 0.0 then failWith (.runtimeText .zeroDivisionError "float division by zero")
      float (lx / lb)
    | _ => typeFail ("log expected at least 1 argument, got " ++ toString args.length)
  | "floor" => do roundedInt fn Float.floor ((← exactArgs fn 1 args kwargs).headD noneObj)
  | "ceil" => do roundedInt fn Float.ceil ((← exactArgs fn 1 args kwargs).headD noneObj)
  | "trunc" => do roundedInt fn id ((← exactArgs fn 1 args kwargs).headD noneObj)
  | "isnan" | "isinf" | "isfinite" => do
    let x ← realArg ((← exactArgs fn 1 args kwargs).headD noneObj)
    pure (bool (match fn with
      | "isnan" => x.isNaN
      | "isinf" => x.isInf
      | _ => !x.isNaN && !x.isInf))
  | "pow" => do
    let xs ← exactArgs fn 2 args kwargs
    let x ← realArg (xs.headD noneObj)
    let y ← realArg (xs.getD 1 noneObj)
    let r := x ^ y
    if x == 0.0 && y < 0.0 && !y.isInf then throw domainError
    if r.isNaN && !x.isNaN && !y.isNaN then throw domainError
    if r.isInf && !x.isInf && !y.isInf && !x.isNaN && !y.isNaN then throw rangeError
    float r
  | "fmod" => do
    let xs ← exactArgs fn 2 args kwargs
    float (← lift (floatRemainder (← realArg (xs.headD noneObj)) (← realArg (xs.getD 1 noneObj))))
  | "hypot" => do
    if !kwargs.isEmpty then typeFail "math.hypot() takes no keyword arguments"
    float (vectorNorm (← args.mapM realArg))
  | "atan2" => do
    let xs ← exactArgs fn 2 args kwargs
    float (Float.atan2 (← realArg (xs.headD noneObj)) (← realArg (xs.getD 1 noneObj)))
  | "copysign" => do
    let xs ← exactArgs fn 2 args kwargs
    let x ← realArg (xs.headD noneObj)
    let y ← realArg (xs.getD 1 noneObj)
    let neg := y.toBits >>> 63 == 1
    float (if neg then -x.abs else x.abs)
  | "ldexp" => do
    let xs ← exactArgs fn 2 args kwargs
    let x ← realArg (xs.headD noneObj)
    let i ← integerArg (xs.getD 1 noneObj)
    let r := Float.scaleB x (max (min i 10000) (-10000))
    if r.isInf && !x.isInf then throw rangeError
    float r
  | "modf" => do
    let x ← realArg ((← exactArgs fn 1 args kwargs).headD noneObj)
    if x.isInf then tuple [← float (if x > 0.0 then 0.0 else -0.0), ← float x]
    else
      let whole := if x < 0.0 then -((-x).floor) else x.floor
      let frac := x - whole
      -- the fraction keeps the sign of the argument, also when it is zero
      let frac := if frac == 0.0 && x.toBits >>> 63 == 1 then -0.0 else frac
      tuple [← float frac, ← float whole]
  | "frexp" => do
    let x ← realArg ((← exactArgs fn 1 args kwargs).headD noneObj)
    if x == 0.0 || x.isNaN || x.isInf then tuple [← float x, ← int 0]
    else
      let (m, e) := x.frExp
      tuple [← float m, ← int e]
  | "isqrt" => do
    let n ← integerArg ((← exactArgs fn 1 args kwargs).headD noneObj)
    if n < 0 then failWith (.runtimeText .valueError "isqrt() argument must be nonnegative")
    int n.toNat.sqrt
  | "factorial" => do
    let n ← integerArg ((← exactArgs fn 1 args kwargs).headD noneObj)
    if n < 0 then failWith (.runtimeText .valueError "factorial() not defined for negative values")
    if n > 20000 then throw unsupported
    int (arrangements n.toNat n.toNat)
  | "gcd" | "lcm" => do
    if !kwargs.isEmpty then typeFail ("math." ++ fn ++ "() takes no keyword arguments")
    let is ← args.mapM integerArg
    if fn == "gcd" then int (is.foldl (fun acc i => (Nat.gcd acc.natAbs i.natAbs : Int)) 0)
    else match is with
      | [] => int 1
      | i :: rest => int (rest.foldl (fun acc j => (Nat.lcm acc.natAbs j.natAbs : Int)) i.natAbs)
  | "comb" | "perm" => do
    if !kwargs.isEmpty then typeFail ("math." ++ fn ++ "() takes no keyword arguments")
    let (n, k) ← match fn, args with
      | "perm", [n] => do
        let n ← integerArg n
        pure (n, n)
      | _, [n, k] => do pure (← integerArg n, ← integerArg k)
      | _, _ => typeFail (fn ++ " expected 2 arguments, got " ++ toString args.length)
    if n < 0 then failWith (.runtimeText .valueError "n must be a non-negative integer")
    if k < 0 then failWith (.runtimeText .valueError "k must be a non-negative integer")
    if k > n then int 0
    else if k.toNat > 20000 then throw unsupported
    else int (if fn == "comb" then choose n.toNat k.toNat else arrangements n.toNat k.toNat)
  | "isclose" => do
    let ps ← bindArgs (.named 0 2) "isclose" "isclose" ["a", "b", "rel_tol", "abs_tol"] 2 args kwargs
    if args.length > 2 then
      typeFail ("isclose() takes exactly 2 positional arguments (" ++ toString args.length ++ " given)")
    let a ← realArg (req ps 0)
    let b ← realArg (req ps 1)
    let rel ← match ps.getD 2 none with
      | some r => realArg r
      | none => pure 1e-9
    let abs ← match ps.getD 3 none with
      | some r => realArg r
      | none => pure 0.0
    if rel < 0.0 || abs < 0.0 then
      failWith (.runtimeText .valueError "tolerances must be non-negative")
    if a == b then pure (bool true)
    else if a.isInf || b.isInf then pure (bool false)
    else
      let diff := (b - a).abs
      pure (bool ((diff ≤ (rel * b).abs) || (diff ≤ (rel * a).abs) || diff ≤ abs))
  | _ => throw unsupported

/-- The units a span of time is given in, in the order of the constructor's parameters. -/
def spanUnits : List String :=
  ["days", "seconds", "microseconds", "milliseconds", "minutes", "hours", "weeks"]

/-- The units a span of time is made up from, in the order they are added, with their
length in microseconds. -/
def spanFactors : List (String × Int) :=
  [("microseconds", 1), ("milliseconds", 1000), ("seconds", 1000000), ("minutes", 60000000),
    ("hours", 3600000000), ("days", 86400000000), ("weeks", 604800000000)]

/-- A count of a unit added to a span in the making: the whole microseconds so far and the
fraction of one left over. An integer count is exact; a float count's whole part is exact,
its fraction times the unit is taken in floating point, whose whole part is exact again and
whose fraction joins the leftover. -/
def spanPart (unit : String) (factor : Int) (o : Obj) (acc : Int × Float) :
    Run (Int × Float) := do
  let (sofar, leftover) := acc
  match o with
  | .scalar (.float x) _ =>
    let sum := sofar + (← lift (truncate x)) * factor
    let frac := x - Span.truncFloat x
    if frac == 0.0 then pure (sum, leftover)
    else
      let scaled := Float.ofInt factor * frac
      let whole := Span.truncFloat scaled
      pure (sum + (← lift (truncate whole)), leftover + (scaled - whole))
  | _ => match o.int? with
    | some i => pure (sofar + i * factor, leftover)
    | none => typeFail ("unsupported type for timedelta " ++ unit ++ " component: " ++
        (← typeOf o))

/-- The leftover fractions of a span rounded to whole microseconds: to the nearest, a half
going the way that makes the total even. -/
def roundLeftover (whole : Int) (leftover : Float) : Run Int := do
  let r := leftover.round
  let r := if (r - leftover).abs == 0.5 then
      let odd : Float := if whole % 2 == 0 then 0.0 else 1.0
      2.0 * ((leftover + odd) * 0.5).round - odd
    else r
  lift (truncate r)

/-- A span of time from counts of its units. -/
def makeSpan (args : List Obj) (kwargs : List (String × Obj)) : Run Obj := do
  let ps ← bindArgs (.named 0 7) "__new__" "__new__" spanUnits 0 args kwargs
  let mut acc : Int × Float := (0, 0.0)
  for (unit, factor) in spanFactors do
    match ps.getD (spanUnits.idxOf unit) none with
    | some o => acc ← spanPart unit factor o acc
    | none => pure ()
  let (whole, leftover) := acc
  if leftover == 0.0 then span whole
  else span (whole + (← roundLeftover whole leftover))

/-- A time from its fields. -/
def makeTime (args : List Obj) (kwargs : List (String × Obj)) : Run Obj := do
  let ps ← fieldArgs none timeFieldNames 8 3 args kwargs
  let parts ← (ps.take 7).mapM fun p => match p with
    | some o => cIntArg o
    | none => pure 0
  let fold ← match ps.getD 8 none with
    | some o => cIntArg o
    | none => pure 0
  timeOf parts fold (match ps.getD 7 none with
    | some z => zoneArg z
    | none => pure none)

/-- A zone of a fixed offset, strictly less than a day either way. -/
def makeZone (args : List Obj) (kwargs : List (String × Obj)) : Run Obj := do
  let ps ← fieldArgs (some "timezone") ["offset", "name"] 2 1 args kwargs
  match req ps 0 with
  | .duration us _ =>
    let name ← match ps.getD 1 none with
      | some (.scalar (.str s) _) => pure (some s)
      | some (.scalar .none _) => typeFail "timezone() argument 2 must be str, not None"
      | some o => typeFail ("timezone() argument 2 must be str, not " ++ (← typeOf o))
      | none => pure none
    if us ≤ -microsPerDay || us ≥ microsPerDay then
      failWith (.runtimeText .valueError ("offset must be a timedelta strictly between " ++
        "-timedelta(hours=24) and timedelta(hours=24), not " ++ DateTime.spanText us ++ "."))
    else if name.isSome then throw unsupported
    else pure (.zone us)
  | o => typeFail ("timezone() argument 1 must be datetime.timedelta, not " ++ (← typeOf o))

/-- The classes of the time library that make objects, if the name is one. -/
def timeClass? (name : String) (args : List Obj) (kwargs : List (String × Obj)) :
    Run (Option Obj) := do
  match name with
  | "timedelta" => some <$> makeSpan args kwargs
  | "datetime" => some <$> makeTime args kwargs
  | "timezone" => some <$> makeZone args kwargs
  | _ => pure none

end Run

end Storefront.Script
