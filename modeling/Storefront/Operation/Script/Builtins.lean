import Storefront.Operation.Script.Methods

/-!
# Builtin functions

The builtin functions and classes that need no function of the body and no iteration: sizes,
conversions between numbers and texts, rounding, the class of an object and the tests of
classes, attributes by name, hashes of numbers and tuples, and the making of ranges and
exceptions.

`int` reads a text in a base from 2 to 36, or in the base its prefix names when the base is
0; digits may be separated by single underscores. A number is hashed to its residue modulo
the prime `2^61 - 1`, with its sign, so that equal numbers of different classes hash alike;
a tuple combines the hashes of its items.
-/

-- powers of naturals and integers are the core ones, whatever else is in scope
attribute [local instance (1100)] instPowNat

namespace Storefront.Script

/-- The value of a digit in the bases up to 36. -/
def digitValue (c : Char) : Option Nat :=
  if c.isDigit then some (c.toNat - 48)
  else if 'a' ≤ c && c ≤ 'z' then some (c.toNat - 87)
  else if 'A' ≤ c && c ≤ 'Z' then some (c.toNat - 55)
  else none

/-- Digits of a base with single underscores between them, all of the text. -/
def baseDigits (base : Nat) (cs : List Char) : Option (List Nat) :=
  let rec go : List Char → Bool → Option (List Nat)
    | [], _ => some []
    | '_' :: rest, afterDigit => if afterDigit && !rest.isEmpty then go rest false else none
    | c :: rest, _ => do
      let d ← digitValue c
      if d ≥ base then none
      let ds ← go rest true
      pure (d :: ds)
  if cs.isEmpty then none else go cs false

/-- Whether a base is a power of two, whose texts have no limit of digits. -/
def powerOfTwo (base : Nat) : Bool := base == 2 || base == 4 || base == 8 || base == 16 || base == 32

/-- How many digits of a base stand at the front of a text, single underscores between them,
when that run is well formed: not starting or ending with an underscore, nor holding two in a
row. -/
def digitRun (base : Nat) (cs : List Char) : Option Nat :=
  let rec go : List Char → Char → Nat → Option Nat
    | [], prev, n => if prev == '_' then none else some n
    | c :: rest, prev, n =>
      if c == '_' then (if prev == '_' then none else go rest '_' n)
      else match digitValue c with
        | some d => if d < base then go rest c (n + 1) else if prev == '_' then none else some n
        | none => if prev == '_' then none else some n
  go cs '_' 0

/-- What reading an integer's text gives: the integer, a text that is not one, or a run of
more digits than the limit at its front (with their count), which is refused before the rest
of the text is read. -/
inductive IntText where
  | value (i : Int)
  | invalid
  | tooLong (digits : Nat)

/-- The integer a text holds in a base, or in the base its prefix names when the base is 0.
Without a prefix, base 0 reads decimal digits and refuses leading zeros before other
digits. Past the digit limit, a base that is not a power of two refuses the text. -/
def readIntText (s : String) (base : Nat) : IntText :=
  let (neg, body) := Text.sign (Text.normalize s)
  let low := body.map Char.toLower
  let (b, rest, prefixed) : Nat × List Char × Bool := match low with
    | '0' :: p :: more =>
      if p == 'x' && (base == 16 || base == 0) then (16, more, true)
      else if p == 'o' && (base == 8 || base == 0) then (8, more, true)
      else if p == 'b' && (base == 2 || base == 0) then (2, more, true)
      else (if base == 0 then 10 else base, low, false)
    | _ => (if base == 0 then 10 else base, low, false)
  let rest := if prefixed then (match rest with | '_' :: r => r | r => r) else rest
  match digitRun b rest with
  | some k =>
    if !powerOfTwo b && k > maxIntDigits then .tooLong k
    else match baseDigits b rest with
      | some ds =>
        let v : Int := ds.foldl (fun (acc : Int) (d : Nat) => acc * b + d) 0
        if base == 0 && !prefixed && ds.head? == some 0 && v != 0 then .invalid
        else .value (if neg then -v else v)
      | none => .invalid
  | none => .invalid

/-- The text of an integer in a base with its prefix: `0x`, `0o` or `0b`. -/
def prefixedText (i : Int) (base : Nat) (pre : String) : String :=
  (if i < 0 then "-" else "") ++ pre ++ String.ofList (Format.natDigits base i.natAbs)

/-- The inverse of a number modulo another it has no common factor with, by the extended
Euclidean algorithm on the remainders and their coefficients. -/
def modInverse (a n : Nat) : Nat :=
  let rec go : Nat → Int → Int → Int → Int → Int
    | 0, _, _, t, _ => t
    | fuel + 1, r, r', t, t' =>
      if r' == 0 then t else
        let q := r / r'
        go fuel r' (r - q * r') t' (t - q * t')
  ((go (2 * Nat.log2 n + 4) n (a % n) 0 1) % (n : Int)).toNat

/-- A number raised to a power modulo another, the result taking the sign of the modulus; a
negative power takes the inverse, which must exist. -/
def powMod (b e m : Int) : Except Failure Int := do
  if m == 0 then throw (.runtimeText .valueError "pow() 3rd argument cannot be 0")
  let n := m.natAbs
  let base : Nat := (b % (n : Int)).toNat
  let base ← if e ≥ 0 then pure base
    else
      -- the inverse by the extended Euclidean algorithm
      if Nat.gcd base n != 1 then
        throw (.runtimeText .valueError "base is not invertible for the given modulus")
      else
        pure (modInverse base n)
  let rec go : Nat → Nat → Nat → Nat → Nat
    | 0, _, _, acc => acc
    | fuel + 1, b, k, acc =>
      if k == 0 then acc
      else go fuel (b * b % n) (k / 2) (if k % 2 == 1 then acc * b % n else acc)
  let k := e.natAbs
  let r : Int := (go (Nat.log2 k + 2) base k (1 % n) : Nat)
  pure (if m < 0 && r != 0 then r + m else r)

/-- The refusal of an integer's text with more digits than the limit. -/
def tooManyDigits (k : Nat) : Failure :=
  .runtimeText .valueError ("Exceeds the limit (4300 digits) for integer string conversion: " ++
    "value has " ++ toString k ++ " digits; use sys.set_int_max_str_digits() to increase the limit")

namespace Run

/-- An argument of a number builtin: a scalar number. -/
def numberArg (fn : String) (o : Obj) : Run Value := do
  match o with
  | .scalar v _ => match v with
    | .int _ | .bool _ | .float _ | .status _ => pure v
    | _ => typeFail ("bad operand type for " ++ fn ++ "(): '" ++ (← typeOf o) ++ "'")
  | _ => typeFail ("bad operand type for " ++ fn ++ "(): '" ++ (← typeOf o) ++ "'")

/-- `int` of an object, in a base when one is given. -/
def toIntObj (o : Obj) (base : Option Obj) : Run Obj := do
  match base with
  | some b => do
    let b ← intArg b
    if !(b == 0 || (2 ≤ b && b ≤ 36)) then
      failWith (.runtimeText .valueError "int() base must be >= 2 and <= 36, or 0")
    match o with
    | .scalar (.str s) _ => match readIntText s b.toNat with
      | .value i => int i
      | .tooLong k => failWith (tooManyDigits k)
      | .invalid => failWith (.runtimeText .valueError
          ("invalid literal for int() with base " ++ toString b ++ ": " ++ (← repr o)))
    | _ => typeFail "int() can't convert non-string with explicit base"
  | none => match o with
    | .scalar (.int _) _ => pure o
    | .scalar (.str s) _ => match readIntText s 10 with
      | .value i => int i
      | .tooLong k => failWith (tooManyDigits k)
      | .invalid => failWith (.runtimeText .valueError
          ("invalid literal for int() with base 10: " ++ (← repr o)))
    | .scalar (.float x) _ => do int (← lift (truncated (.float x)))
    | .scalar v _ => match intOf? v with
      | some i => int i
      | none => typeFail ("int() argument must be a string, a bytes-like object or a real " ++
          "number, not '" ++ (← typeOf o) ++ "'")
    | _ => typeFail ("int() argument must be a string, a bytes-like object or a real " ++
        "number, not '" ++ (← typeOf o) ++ "'")

/-- `float` of an object. -/
def toFloatObj (o : Obj) : Run Obj := do
  match o with
  | .scalar (.float _) _ => pure o
  | .scalar (.str s) _ => match Text.readFloat? s with
    | some x => float x
    | none => failWith (.runtimeText .valueError
        ("could not convert string to float: " ++ (← repr o)))
  | .scalar v _ => match intOf? v with
    | some i => do float (← lift (toFloat i))
    | none => typeFail ("float() argument must be a string or a real number, not '" ++
        (← typeOf o) ++ "'")
  | _ => typeFail ("float() argument must be a string or a real number, not '" ++
      (← typeOf o) ++ "'")

/-- `round` of a number, to a number of decimal places when one is given. -/
def roundObj (o : Obj) (places : Option Obj) : Run Obj := do
  let places := match places with
    | some (.scalar .none _) => none
    | p => p
  match o with
  | .scalar (.float x) _ => match places with
    | none => do int (← lift (roundHalfEven x))
    | some p => do float (← lift (roundPlaces x (← intArg p)))
  | .scalar v _ => match intOf? v with
    | some i => match places with
      | none => int i
      | some p => do
        let n ← intArg p
        if n ≥ 0 then int i
        else
          let d : Int := 10 ^ n.natAbs
          let q := i.fdiv d
          let r := i - q * d
          let q := if 2 * r > d then q + 1 else if 2 * r == d then q + q % 2 else q
          int (q * d)
    | none => typeFail ("type " ++ (← typeOf o) ++ " doesn't define __round__ method")
  | _ => typeFail ("type " ++ (← typeOf o) ++ " doesn't define __round__ method")

/-- The length of an object. -/
def lengthOf (o : Obj) : Run Nat := do
  let h ← heap
  match o with
  | .scalar (.str s) _ => pure s.length
  | .tuple xs _ => pure xs.length
  | .bytes bs _ => pure bs.length
  | .range a b s _ =>
    let k := rangeLength a b s
    if k ≥ 2 ^ (63 : Nat) then
      failWith (.runtimeText .overflowError "Python int too large to convert to C ssize_t")
    else pure k
  | .ref a => match h.cell a with
    | .list xs => pure xs.size
    | .dict es => pure es.size
    | .set t _ => pure t.used
    | .view _ d => match h.cell d with
      | .dict es => pure es.size
      | _ => pure 0
    | _ => typeFail ("object of type '" ++ typeName h o ++ "' has no len()")
  | _ => typeFail ("object of type '" ++ typeName h o ++ "' has no len()")

/-- A range from its arguments: a stop, or a start, a stop and a step that is not zero. -/
def rangeObj (args : List Obj) : Run Obj := do
  let is ← args.mapM intArg
  match is with
  | [b] => pure (.range 0 b 1 (← fresh))
  | [a, b] => pure (.range a b 1 (← fresh))
  | [a, b, s] =>
    if s == 0 then failWith (.runtimeText .valueError "range() arg 3 must not be zero")
    else pure (.range a b s (← fresh))
  | [] => typeFail "range expected at least 1 argument, got 0"
  | _ => typeFail ("range expected at most 3 arguments, got " ++ toString args.length)

/-- The attribute of an object by a name given as a string; a missing one gives the default
when there is one. -/
def attrByName (o name : Obj) (default : Option Obj) : Run Obj := do
  let n ← match name with
    | .scalar (.str s) _ => pure s
    | _ => typeFail ("attribute name must be string, not '" ++ (← typeOf name) ++ "'")
  match default with
  | none => attr o n
  | some d => tryCatch (attr o n) fun f =>
      if f.runtimeKind? == some .attributeError then pure d else throw f

/-- A builtin that needs no function of the body and no iteration, if it is one. -/
def simpleBuiltin (name : String) (args : List Obj) (kwargs : List (String × Obj)) :
    Run (Option Obj) := do
  let h ← heap
  let one (fn : String) : Run Obj := do
    let ps ← bindArgs .single fn fn ["obj"] 1 args kwargs
    pure (req ps 0)
  match name with
  | "len" => do some <$> int (← lengthOf (← one "len"))
  | "abs" => do
    match ← one "abs" with
    | .duration us _ => some <$> span us.natAbs
    -- a nonnegative integer is its own absolute value
    | o@(.scalar (.int i) _) => if i ≥ 0 then pure (some o) else some <$> int (-i)
    | o => some <$> scalar (← lift (absolute (← numberArg "abs" o)))
  | "repr" => do some <$> str (← repr (← one "repr"))
  | "ascii" => do some <$> str (← lift (h.ascii (← one "ascii")))
  | "chr" => do
    let i ← intArg (← one "chr")
    if i < -2 ^ (31 : Nat) || i ≥ 2 ^ (31 : Nat) then
      failWith (.runtimeText .overflowError "Python int too large to convert to C int")
    if i < 0 || i ≥ 0x110000 then failWith (.runtimeText .valueError "chr() arg not in range(0x110000)")
    match Format.charOf? i with
    | some c => some <$> char c
    | none => throw unsupported
  | "ord" => do
    let o ← one "ord"
    match o with
    | .scalar (.str s) _ => match s.toList with
      | [c] => some <$> int (Text.codePoint c)
      | cs => typeFail ("ord() expected a character, but string of length " ++
          toString cs.length ++ " found")
    | _ => typeFail ("ord() expected string of length 1, but " ++ (← typeOf o) ++ " found")
  | "hex" => do some <$> str (prefixedText (← intArg (← one "hex")) 16 "0x")
  | "oct" => do some <$> str (prefixedText (← intArg (← one "oct")) 8 "0o")
  | "bin" => do some <$> str (prefixedText (← intArg (← one "bin")) 2 "0b")
  | "callable" => do
    let o ← one "callable"
    let c := match o with
      | .builtin _ | .cls _ | .method .. | .bound .. => true
      | .ref a => match h.cell a with
        | .func _ | .cls _ => true
        | .inst c _ => ((h.userClass? c).bind (h.classAttr? · "__call__")).isSome
        | _ => false
      | _ => false
    pure (some (bool c))
  | "hash" => do
    let o ← one "hash"
    if !hashable h depth o then
      typeFail ("unhashable type: '" ++ typeName h o ++ "'")
    some <$> int (← lift (hashOf h false depth o))
  | "isinstance" => do
    let ps ← bindArgs .counted "isinstance" "isinstance" ["obj", "class_or_tuple"] 2 args kwargs
    let cs ← classObjs "isinstance" (req ps 1)
    pure (some (bool (cs.any (h.isInstance (req ps 0)))))
  | "issubclass" => do
    let ps ← bindArgs .counted "issubclass" "issubclass" ["cls", "class_or_tuple"] 2 args kwargs
    let sub := req ps 0
    let isClass := match sub with
      | .cls _ => true
      | .ref a => (h.userClass? a).isSome
      | _ => false
    if !isClass then typeFail "issubclass() arg 1 must be a class"
    let cs ← classObjs "issubclass" (req ps 1)
    pure (some (bool (cs.any (h.inheritsFrom sub))))
  | "type" => do
    if args.length == 3 then throw unsupported
    if args.length != 1 || !kwargs.isEmpty then typeFail "type() takes 1 or 3 arguments"
    pure (some (h.classObj (args.headD noneObj)))
  | "format" => do
    let ps ← bindArgs .counted "format" "format" ["value", "format_spec"] 1 args kwargs
    let spec ← match ps.getD 1 none with
      | none => pure ""
      | some (.scalar (.str s) _) => pure s
      | some x => typeFail ("format() argument 2 must be str, not " ++ (← argClassText x))
    some <$> str (← formatWith (req ps 0) spec)
  | "getattr" => do
    if !kwargs.isEmpty then typeFail "getattr() takes no keyword arguments"
    match args with
    | [o, n] => some <$> attrByName o n none
    | [o, n, d] => some <$> attrByName o n (some d)
    | _ => typeFail ("getattr expected at least 2 arguments, got " ++ toString args.length)
  | "hasattr" => do
    let ps ← bindArgs .counted "hasattr" "hasattr" ["obj", "name"] 2 args kwargs
    let found ← tryCatch (do let _ ← attrByName (req ps 0) (req ps 1) none; pure true) fun f =>
      if f.runtimeKind? == some .attributeError then pure false else throw f
    pure (some (bool found))
  | "print" => do
    for (k, _) in kwargs do
      if k == "file" then throw unsupported
      if !(k == "sep" || k == "end" || k == "flush") then
        typeFail ("'" ++ k ++ "' is an invalid keyword argument for print()")
    for x in args do
      let _ ← strOf x
    pure (some noneObj)
  | "round" => do
    let ps ← bindArgs (.named 0 2) "round" "round" ["number", "ndigits"] 1 args kwargs
    let x := req ps 0
    let places := match ps.getD 1 none with
      | some (.scalar .none _) => none
      | o => o
    let refuse : Run (Option Obj) := do
      typeFail ("type " ++ (← typeOf x) ++ " doesn't define __round__ method")
    match x with
    | .scalar (.float f) _ => match places with
      | none => some <$> int (← lift (roundHalfEven f))
      | some d => some <$> float (← lift (roundPlaces f (← intArg d)))
    | .scalar v _ => match intOf? v with
      | some i => match places with
        | none => if v matches .int _ then pure (some x) else some <$> int i
        | some d => do
          let d ← intArg d
          -- an integer rounded to places at or after its point is itself
          if d ≥ 0 && v matches .int _ then pure (some x) else some <$> int (roundIntPlaces i d)
      | none => refuse
    | _ => refuse
  | "divmod" => do
    let ps ← bindArgs .counted "divmod" "divmod" ["x", "y"] 2 args kwargs
    match req ps 0, req ps 1 with
    | .scalar v _, .scalar w _ =>
      if (v.num?).isNone || (w.num?).isNone then
        typeFail ("unsupported operand type(s) for divmod(): '" ++ (← typeOf (req ps 0)) ++
          "' and '" ++ (← typeOf (req ps 1)) ++ "'")
      match v.num?, w.num? with
      | some (.real _), some d | some _, some d@(.real _) =>
        let zero := match d with
          | .real y => y == 0.0
          | .exact k => k == 0
        if zero then failWith (.runtimeText .zeroDivisionError "float divmod()")
      | _, _ => pure ()
      let q ← scalar (← lift (scalarBinary .floorDiv v w))
      let r ← scalar (← lift (scalarBinary .mod v w))
      some <$> tuple [q, r]
    | .duration x _, .duration y _ =>
      if y == 0 then
        failWith (.runtimeText .zeroDivisionError "integer division or modulo by zero")
      else some <$> tuple [← int (Int.fdiv x y), ← span (Int.fmod x y)]
    | a, b => typeFail ("unsupported operand type(s) for divmod(): '" ++ (← typeOf a) ++
        "' and '" ++ (← typeOf b) ++ "'")
  | "pow" => do
    let ps ← bindArgs (.named 0 3) "pow" "pow" ["base", "exp", "mod"] 2 args kwargs
    let isInt (o : Obj) : Bool := match o with
      | .scalar (.float _) _ => false
      | o => o.int?.isSome
    match ps.getD 2 none with
    | none => some <$> binary .pow (req ps 0) (req ps 1)
    | some (.scalar .none _) => some <$> binary .pow (req ps 0) (req ps 1)
    | some m => do
      if !(isInt (req ps 0) && isInt (req ps 1) && isInt m) then
        typeFail "pow() 3rd argument not allowed unless all arguments are integers"
      let r ← lift (powMod ((req ps 0).int?.getD 0) ((req ps 1).int?.getD 0) (m.int?.getD 0))
      some <$> int r
  | _ => pure none

/-- A call of a builtin class that needs no function of the body and no iteration, if it is
one. -/
def simpleClass (name : String) (args : List Obj) (kwargs : List (String × Obj)) :
    Run (Option Obj) := do
  match name with
  | "int" => do
    let ps ← bindArgs (.named 1 2) "int" "int" ["x", "base"] 0 args kwargs
    match ps.getD 0 none with
    | none => do
      if (ps.getD 1 none).isSome then typeFail "int() missing string argument"
      some <$> int 0
    | some x => some <$> toIntObj x (ps.getD 1 none)
  | "float" => do
    let ps ← bindArgs .counted "float" "float" ["x"] 0 args kwargs
    match ps.getD 0 none with
    | none => some <$> float 0.0
    | some x => some <$> toFloatObj x
  | "bool" => do
    let ps ← bindArgs .counted "bool" "bool" ["x"] 0 args kwargs
    match ps.getD 0 none with
    | none => pure (some (bool false))
    | some x => pure (some (bool (truthy (← heap) x)))
  | "str" => do
    let ps ← bindArgs (.named 0 3) "str" "str" ["object", "encoding", "errors"] 0
      args kwargs
    if (ps.getD 1 none).isSome || (ps.getD 2 none).isSome then
      -- decoding: the encoding and the errors are checked first, then the object
      if let some e := ps.getD 1 none then discard <| namedTextArg "str" "argument 'encoding'" e
      if let some e := ps.getD 2 none then discard <| namedTextArg "str" "argument 'errors'" e
      match ps.getD 0 none with
      | some (.scalar (.str _) _) => typeFail "decoding str is not supported"
      | some x => typeFail ("decoding to str: need a bytes-like object, " ++ (← typeOf x) ++ " found")
      | none => return some (← str "")
    match ps.getD 0 none with
    | none => some <$> str ""
    | some (.scalar (.str s) o) => pure (some (.scalar (.str s) o))
    | some x => some <$> str (← strOf x)
  | "range" => do
    if !kwargs.isEmpty then typeFail "range() takes no keyword arguments"
    some <$> rangeObj args
  | "type" => simpleBuiltin "type" args kwargs
  | c =>
    if isExceptionClass c then do
      if !kwargs.isEmpty then typeFail (c ++ "() takes no keyword arguments")
      some <$> alloc (.exception c args [])
    else pure none

end Run

end Storefront.Script
