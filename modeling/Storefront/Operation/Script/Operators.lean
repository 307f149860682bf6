import Storefront.Operation.Script.Access
import Storefront.Text.Format
import Storefront.Text.Search
import Storefront.Time.Strftime

/-!
# Operators on objects

Arithmetic on scalars follows `Storefront.Script.scalarBinary`; lists and tuples join with
`+` and repeat with `*`; sets combine with `|`, `&`, `-` and `^`, and dicts merge with `|`.
Every result is a new object.

A string's `%` writes its arguments into it by the older format: the conversions take the
items of a tuple in turn, or the one argument that is not a tuple, or the values of a
mapping under their keys; arguments left over are a type failure unless a mapping was given.

An object is written by a format specification as its class writes it: integers, floats
and strings by `Storefront.Format.Spec`, booleans as integers when a specification is given,
and other objects only with the empty specification, as their text. A string's `format`
method replaces its fields, numbered or named, with the arguments' texts, following
attributes and items named in a field and expanding fields nested in a specification.
-/

-- powers of naturals and integers are the core ones, whatever else is in scope
attribute [local instance (1100)] instPowNat

namespace Storefront.Script

/-- How objects are written where objects of classes of the body may take part: `text` as
`str` writes an object, or as `repr` does when asked, and `format` by a specification. The
evaluator gives writers that call the classes' hooks; `Run.plainWriters` write builtin objects
alone. -/
structure Writers where
  text : Obj → Bool → Run String
  format : Obj → String → Run String

namespace Run

/-- The table of a set or frozen set, and whether it is frozen. -/
def setTable? (o : Obj) : Run (Option (SetTable Obj × Bool)) := do
  match o with
  | .ref a => match ← cell a with
    | .set t frozen => pure (some (t, frozen))
    | _ => pure none
  | _ => pure none

/-- An operator between two sets, at their addresses: the result is new, of the left
operand's kind. -/
def setBinary (op : BinOp) (x : Nat) (xs : SetTable Obj) (frozen : Bool) (y : Nat)
    (ys : SetTable Obj) : Run (Option Obj) := do
  let h ← heap
  let other : Source := .table ys (some y)
  let made ← match op with
    | .bitOr => do
      let r ← lift (h.setOf (.table xs none))
      if x == y then pure (some r) else pure (some (← lift (h.setUpdate r none other)))
    | .bitAnd => do pure (some (← lift (h.setIntersection xs (some x) other)))
    | .sub => do pure (some (← lift (h.setDifference xs other)))
    | .bitXor => do pure (some (← lift (h.setSymmetric xs other)))
    | _ => pure none
  match made with
  | some t => do pure (some (← alloc (.set t frozen)))
  | none => pure none

/-- A failure for operands an operator does not take. -/
def unsupportedOperands (sym : String) (a b : Obj) : Run α := do
  -- shifting the printing function right reads as the older print statement
  let hint := match sym, a with
    | ">>", .builtin "print" => ". Did you mean \"print(<message>, file=<output_stream>)\"?"
    | _, _ => ""
  typeFail ("unsupported operand type(s) for " ++ sym ++ ": '" ++ (← typeOf a) ++ "' and '" ++
    (← typeOf b) ++ "'" ++ hint)

/-- The symbol of an operator. -/
def opSymbol : BinOp → String
  | .add => "+"
  | .sub => "-"
  | .mul => "*"
  | .div => "/"
  | .floorDiv => "//"
  | .mod => "%"
  | .pow => "**"
  | .matMul => "@"
  | .bitOr => "|"
  | .bitXor => "^"
  | .bitAnd => "&"
  | .shiftLeft => "<<"
  | .shiftRight => ">>"

/-- The failure of an operator between two objects it does not take, in the runtime's words:
a sequence joins only its own class and repeats only by an integer. -/
def operandFault (op : BinOp) (a b : Obj) : Run α := do
  let h ← heap
  let seqName (o : Obj) : Option String := match o with
    | .scalar (.str _) _ => some "str"
    | .tuple .. => some "tuple"
    | .ref r => match h.cell r with
      | .list _ => some "list"
      | _ => none
    | _ => none
  let isIndex (o : Obj) : Bool := match o with
    | .scalar (.float _) _ => false
    | o => o.int?.isSome
  match op with
  | .add => match seqName a with
    | some n => typeFail ("can only concatenate " ++ n ++ " (not \"" ++ typeName h b ++ "\") to " ++ n)
    | none => unsupportedOperands "+" a b
  | .mul =>
    if (seqName a).isSome && !isIndex b then
      typeFail ("can't multiply sequence by non-int of type '" ++ typeName h b ++ "'")
    else if (seqName b).isSome && !isIndex a then
      typeFail ("can't multiply sequence by non-int of type '" ++ typeName h a ++ "'")
    else unsupportedOperands "*" a b
  | .pow => unsupportedOperands "** or pow()" a b
  | op => unsupportedOperands (opSymbol op) a b

/-- A binary operator on two scalar objects; a type failure without text is told in the
runtime's words. -/
def scalarOp (op : BinOp) (a b : Obj) (v w : Value) : Run Obj := do
  match scalarBinary op v w with
  | .ok r => scalar r
  | .error (.runtime .typeError) => operandFault op a b
  | .error e => failWith e

/-- Items repeated a number of times given by an object. -/
def repeated (xs : List Obj) (n : Obj) : Run (List Obj) := do
  let fault : Run (List Obj) := do
    typeFail ("can't multiply sequence by non-int of type '" ++ (← typeOf n) ++ "'")
  match n with
  | .scalar v _ => match repeatCount v xs.length with
    | .ok k => pure (repeatList xs k)
    | .error (.runtime .typeError) => fault
    | .error e => failWith e
  | _ => fault

/-- The state of the older format as its conversions take arguments: the object the next
conversion takes when there is one argument, the items of a tuple, how many there are (or
`-1` for one argument), the place of the next, and the mapping that keys name. -/
structure Printf where
  current : Obj
  items : List Obj
  count : Int
  next : Int
  mapping : Option Obj

/-- The next argument of the older format. -/
def Printf.take (st : Printf) : Run (Obj × Printf) :=
  if st.next < st.count then
    let o := if st.count < 0 then st.current else st.items.getD st.next.toNat noneObj
    pure (o, { st with next := st.next + 1 })
  else typeFail "not enough arguments for format string"

/-- An amount of a conversion, from the format or from the next argument: its value and
whether it was negative. -/
def Printf.amount (st : Printf) : Option Format.Amount → Run (Option Int × Printf)
  | none => pure (none, st)
  | some (.given n) => pure (some n, st)
  | some .fromArgument => do
    let (o, st) ← st.take
    match o with
    | .scalar (.float _) _ => typeFail "* wants int"
    | _ => match o.int? with
      | some i => pure (some i, st)
      | none => typeFail "* wants int"

/-- The text of a converted argument before its layout. -/
def converted (text : Obj → Bool → Run String) (c : Format.Conversion) (precision : Option Nat)
    (v : Obj) : Run String := do
  let t := c.type
  if t == 's' then text v false
  else if t == 'r' then text v true
  else if t == 'a' then do pure (asciiEscaped (← text v true))
  else if "diu".toList.contains t then
    match v with
    | .scalar (.float x) _ => do
      let i ← lift (truncated (.float x))
      let _ ← lift (intText i)
      pure (c.integerText precision i)
    | _ => match v.int? with
      | some i => do
        let _ ← lift (intText i)
        pure (c.integerText precision i)
      | none => typeFail ("%" ++ String.singleton t ++
          " format: a real number is required, not " ++ (← typeOf v))
  else if "oxX".toList.contains t then
    match v with
    | .scalar (.float _) _ =>
      typeFail ("%" ++ String.singleton t ++ " format: an integer is required, not float")
    | _ => match v.int? with
      | some i => pure (c.integerText precision i)
      | none => typeFail ("%" ++ String.singleton t ++
          " format: an integer is required, not " ++ (← typeOf v))
  else if "eEfFgG".toList.contains t then
    match v with
    | .scalar (.float x) _ => pure (c.realText precision x)
    | _ => match v.int? with
      | some i => do pure (c.realText precision (← lift (toFloat i)))
      | none => typeFail ("must be real number, not " ++ (← typeOf v))
  else if t == 'c' then
    match v with
    | .scalar (.str s) _ =>
      if s.length == 1 then pure s else typeFail "%c requires int or char"
    | _ => match v.int? with
      | some i => match Format.charOf? i with
        | some ch => pure (String.singleton ch)
        | none =>
          if 0 ≤ i && i < 0x110000 then throw unsupported
          else failWith (.runtimeText .overflowError "%c arg not in range(0x110000)")
      | none => typeFail "%c requires int or char"
  else
    failWith (.runtimeText .valueError ("unsupported format character '" ++
      String.singleton t ++ "' (0x" ++ Value.hex 2 t.toNat ++ ") at index " ++ toString c.place))

/-- One conversion of the older format: its key, width, precision and argument, taken in
that order, then its text laid out. -/
def convertOne (text : Obj → Bool → Run String) (c : Format.Conversion) (st : Printf) :
    Run (String × Printf) := do
  let st ← match c.key with
    | none => pure st
    | some k => match st.mapping with
      | none => typeFail "format requires a mapping"
      | some m => do
        let v ← item m (← str k)
        pure { st with current := v, count := -1, next := -2 }
  let (width, st) ← st.amount c.width
  let c := if width.any (· < 0) then { c with left := true } else c
  let width := width.map Int.natAbs
  let (precision, st) ← st.amount c.precision
  let precision := precision.map Int.toNat
  let (v, st) ← st.take
  let shown ← converted text c precision v
  pure (c.layout width precision shown, st)

/-- Write the pieces of an older format. -/
def printfPieces (text : Obj → Bool → Run String) :
    List Format.Piece → Printf → Run (String × Printf)
  | [], st => pure ("", st)
  | .text s :: rest, st => do
    let (out, st) ← printfPieces text rest st
    pure (s ++ out, st)
  | .conversion c :: rest, st => do
    let (s, st) ← convertOne text c st
    let (out, st) ← printfPieces text rest st
    pure (s ++ out, st)
  | .fault :: _, _ => failWith (.runtimeText .valueError "incomplete format")

/-- Whether an object can give values under keys to the older format: anything with items
by key that is not a tuple or a string. -/
def isMapping (o : Obj) : Run Bool := do
  match o with
  | .range .. => pure true
  | .ref a => match ← cell a with
    | .list _ | .dict _ => pure true
    | _ => pure false
  | _ => pure false

/-- The text of a builtin object as `str` writes it, or as `repr` does. -/
def plainText (o : Obj) (useRepr : Bool) : Run String := if useRepr then repr o else strOf o

/-- A string's older format applied to an argument, with objects written by `text`. -/
def printf (text : Obj → Bool → Run String) (fmt : String) (arg : Obj) : Run Obj := do
  let mapping := if ← isMapping arg then some arg else none
  let st : Printf := match arg with
    | .tuple xs _ => ⟨arg, xs, xs.length, 0, mapping⟩
    | _ => ⟨arg, [], -1, -2, mapping⟩
  let pieces := Format.Piece.ofFormat fmt
  let (out, st) ← printfPieces text pieces st
  if st.next < st.count && st.mapping.isNone then
    typeFail "not all arguments converted during string formatting"
  -- a lone `%s` that leaves a string as it is gives the string itself
  if let [.conversion c] := pieces then
    if c.type == 's' && c.key.isNone && !c.plus && !c.blank then
      let single := match arg with
        | .tuple [x] _ => some x
        | .tuple _ _ => none
        | x => some x
      if let some x@(.scalar (.str t) _) := single then
        if t == out then return x
  str out

/-- A span of time made at run time, refused past the limit of days. -/
def span (us : Int) : Run Obj := do
  if Span.fits us then pure (.duration us (← fresh))
  else failWith (.runtimeText .overflowError (Span.overflowText us))

/-- A time made at run time, refused outside the years of the calendar. -/
def timeAt (w : Int) (offset : Option Int) : Run Obj := do
  if DateTime.inRange w then scalar (.time ⟨w, offset⟩)
  else failWith (.runtimeText .overflowError "date value out of range")

/-- A float as an exact fraction whose denominator is a power of two; a NaN or an infinity
has none. -/
def floatRatio (x : Float) : Run (Int × Int) := do
  match exactOfFloat? x with
  | some (m, e) => if e ≥ 0 then pure (m * 2 ^ e.toNat, 1) else pure (m, 2 ^ (-e).toNat)
  | none =>
    if x.isNaN then failWith (.runtimeText .valueError "cannot convert NaN to integer ratio")
    else failWith (.runtimeText .overflowError "cannot convert Infinity to integer ratio")

/-- A span of time divided by a nonzero number, to the nearest microsecond. -/
def spanDivide (us n d : Int) : Run Obj := do
  if n == 0 then failWith (.runtimeText .zeroDivisionError "integer division or modulo by zero")
  else span (Span.divideNearest (us * d) n)

/-- An operator between spans of time, times and numbers, when it takes its operands: sums
and differences of spans and of times with spans, the span between two times, a span
scaled by a number or divided by one, and the quotient and remainder of two spans. -/
def timeBinary? (op : BinOp) (a b : Obj) : Run (Option Obj) := do
  match op, a, b with
  | .add, .duration x _, .duration y _ => some <$> span (x + y)
  | .sub, .duration x _, .duration y _ => some <$> span (x - y)
  | .add, .scalar (.time t) _, .duration y _ => some <$> timeAt (t.wall + y) t.offset
  | .add, .duration y _, .scalar (.time t) _ => some <$> timeAt (t.wall + y) t.offset
  | .sub, .scalar (.time t) _, .duration y _ => some <$> timeAt (t.wall - y) t.offset
  | .sub, .scalar (.time t) _, .scalar (.time u) _ =>
    if t.offset.isSome != u.offset.isSome then
      typeFail "can't subtract offset-naive and offset-aware datetimes"
    else some <$> span (t.utcWall - u.utcWall)
  | .mul, .duration x _, .scalar v _ | .mul, .scalar v _, .duration x _ =>
    match v with
    | .float f => do
      let (n, d) ← floatRatio f
      some <$> span (Span.divideNearest (x * n) d)
    | v => match intOf? v with
      | some k => some <$> span (x * k)
      | none => pure none
  | .div, .duration x _, .duration y _ =>
    if y == 0 then failWith (.runtimeText .zeroDivisionError "division by zero")
    else some <$> float (← lift (trueDivide x y))
  | .div, .duration x _, .scalar v _ =>
    match v with
    | .float f => do
      let (n, d) ← floatRatio f
      some <$> spanDivide x n d
    | v => match intOf? v with
      | some k => some <$> spanDivide x k 1
      | none => pure none
  | .floorDiv, .duration x _, .duration y _ =>
    if y == 0 then failWith (.runtimeText .zeroDivisionError "integer division or modulo by zero")
    else some <$> int (Int.fdiv x y)
  | .floorDiv, .duration x _, .scalar v _ =>
    match v with
    | .float _ => pure none
    | v => match intOf? v with
      | some k =>
        if k == 0 then
          failWith (.runtimeText .zeroDivisionError "integer division or modulo by zero")
        else some <$> span (Int.fdiv x k)
      | none => pure none
  | .mod, .duration x _, .duration y _ =>
    if y == 0 then failWith (.runtimeText .zeroDivisionError "integer modulo by zero")
    else some <$> span (Int.fmod x y)
  | _, _, _ => pure none

/-- A binary operator on two objects other than spans of time. -/
def plainBinary (op : BinOp) (a b : Obj) : Run Obj := do
  match a, b with
  | .scalar (.str s) _, _ =>
    if op == .mod then printf plainText s b
    else match b with
      | .scalar (.str w) _ =>
        -- joining the empty string gives the other operand itself
        if op == .add && s.isEmpty then pure b
        else if op == .add && w.isEmpty then pure a
        else scalarOp op a b (.str s) (.str w)
      | .scalar w _ =>
        -- a string repeated once is itself
        if op == .mul && intOf? w == some 1 then pure a else scalarOp op a b (.str s) w
      | .tuple xs _ => if op == .mul then tuple (← repeated xs a) else operandFault op a b
      | .ref y => do
        match ← cell y with
        | .list xs =>
          if op == .mul then list (← repeated xs.toList a) else operandFault op a b
        | _ => operandFault op a b
      | _ => operandFault op a b
  | .scalar v _, .scalar w _ =>
    match v, w with
    | _, .str _ => if op == .mul && intOf? v == some 1 then pure b else scalarOp op a b v w
    | _, _ => scalarOp op a b v w
  -- a tuple joined with the empty tuple, or repeated once, is itself
  | .tuple xs _, .tuple ys _ =>
    if op == .add then
      if ys.isEmpty then pure a else if xs.isEmpty then pure b else tuple (xs ++ ys)
    else operandFault op a b
  | .tuple xs _, .scalar _ _ =>
    if op == .mul then do
      let r ← repeated xs b
      if r.length == xs.length then pure a else tuple r
    else operandFault op a b
  | .scalar _ _, .tuple ys _ =>
    if op == .mul then do
      let r ← repeated ys a
      if r.length == ys.length then pure b else tuple r
    else operandFault op a b
  | .ref x, .ref y => do
    match ← cell x, ← cell y with
    | .list xs, .list ys =>
      if op == .add then list (xs.toList ++ ys.toList) else operandFault op a b
    | .set xs frozen, .set ys _ =>
      match ← setBinary op x xs frozen y ys with
      | some r => pure r
      | none => operandFault op a b
    | .dict es, .dict fs =>
      if op == .bitOr then do
        let mut out := es
        for (k, v) in fs do
          match ← lift ((← heap).keyIndex out k) with
          | some j => out := out.modify j fun (k', _) => (k', v)
          | none => out := out.push (k, v)
        alloc (.dict out)
      else operandFault op a b
    | _, _ => operandFault op a b
  | .ref x, .scalar _ _ => do
    match ← cell x with
    | .list xs => if op == .mul then list (← repeated xs.toList b) else operandFault op a b
    | _ => operandFault op a b
  | .scalar _ _, .ref y => do
    match ← cell y with
    | .list ys => if op == .mul then list (← repeated ys.toList a) else operandFault op a b
    | _ => operandFault op a b
  | _, _ => operandFault op a b

/-- A binary operator on two objects. -/
def binary (op : BinOp) (a b : Obj) : Run Obj := do
  match ← timeBinary? op a b with
  | some r => pure r
  | none => plainBinary op a b

/-- A unary operator on an object. -/
def unary (op : UnaryOp) (a : Obj) : Run Obj := do
  match op with
  | .not => pure (bool !(truthy (← heap) a))
  | _ =>
    let sym := match op with
      | .neg => "-"
      | .pos => "+"
      | _ => "~"
    let fault : Run Obj := do
      typeFail ("bad operand type for unary " ++ sym ++ ": '" ++ (← typeOf a) ++ "'")
    match a with
    -- plus leaves an integer or a float itself
    | .scalar (.int _) _ | .scalar (.float _) _ =>
      if op == .pos then pure a
      else match a with
        | .scalar v _ => match scalarUnary op v with
          | .ok r => scalar r
          | .error (.runtime .typeError) => fault
          | .error e => failWith e
        | _ => fault
    | .scalar v _ => match scalarUnary op v with
      | .ok r => scalar r
      | .error (.runtime .typeError) => fault
      | .error e => failWith e
    | .duration us _ => match op with
      | .neg => span (-us)
      | .pos => span us
      | _ => fault
    | _ => fault

/-- Whether a container holds an object: a part of a string, an item of a list or tuple, a
key of a dict, a member of a set, a number of a range. -/
def contains (container o : Obj) : Run Bool := do
  let h ← heap
  match container with
  | .scalar (.str s) _ => match o with
    | .scalar (.str p) _ =>
      pure (Text.findIn p.toList s.toList 0 s.length).isSome
    | _ => typeFail ("'in <string>' requires string as left operand, not " ++ typeName h o)
  | .tuple xs _ => do pure (← lift (findItem h depth xs o 0)).isSome
  | .range a b s _ =>
    let n? : Option Int := match o with
      | .scalar (.float x) _ => match exactOfFloat? x with
        | some (m, e) => if e ≥ 0 then some (m * 2 ^ e.toNat) else none
        | none => none
      | _ => o.int?
    match n? with
    | some n =>
      let len := rangeLength a b s
      pure (len > 0 && (if s > 0 then a ≤ n && n < b else b < n && n ≤ a) && (n - a) % s == 0)
    | none => pure false
  | .ref r => match h.cell r with
    | .list xs => do pure (← lift (findItem h depth xs.toList o 0)).isSome
    | .dict es => do pure (← lift (h.keyIndex es o)).isSome
    | .set t _ => lift (h.setHas t o)
    | .view k d => match h.cell d, k with
      | .dict es, .keys => do pure (← lift (h.keyIndex es o)).isSome
      | .dict es, .values => do pure (← lift (findItem h depth (es.toList.map (·.2)) o 0)).isSome
      | .dict es, .items => match o with
        | .tuple [key, v] _ => do
          match ← lift (h.keyIndex es key) with
          | some j =>
            let found := (es.getD j (key, v)).2
            pure (found.identical v || (← lift (equal h depth found v)))
          | none => pure false
        | _ => pure false
      | _, _ => pure false
    | _ => typeFail ("argument of type '" ++ typeName h container ++ "' is not iterable")
  | _ => typeFail ("argument of type '" ++ typeName h container ++ "' is not iterable")

/-- The kind and dict of a view of a dict's keys or entries, which acts as a set. -/
def setView? (o : Obj) : Run (Option (ViewKind × Nat)) := do
  match o with
  | .ref a => match ← cell a with
    | .view .values _ => pure none
    | .view k d => pure (some (k, d))
    | _ => pure none
  | _ => pure none

/-- A relation between two objects, other than membership in an iterator. -/
def relate (r : Rel) (a b : Obj) : Run Bool := do
  let h ← heap
  match r with
  | .cmp .eq => lift (equal h depth a b)
  | .ne => do pure !(← lift (equal h depth a b))
  | .cmp op => lift (order h depth op a b)
  | .isSame => pure (a.identical b)
  | .notSame => pure !(a.identical b)
  | .isIn => contains b a
  | .notIn => do pure !(← contains b a)

/-- An unknown type letter of a specification. -/
def unknownCode (t : Char) (cls : String) : Run α :=
  failWith (.runtimeText .valueError ("Unknown format code '" ++ String.singleton t ++
    "' for object of type '" ++ cls ++ "'"))

/-- An object written by a format specification: numbers and strings by the specification,
a time by its pattern of directives, anything else only with the empty one. -/
def formatWith (o : Obj) (spec : String) : Run String := do
  match o with
  | .scalar (.float x) _ =>
    if spec.isEmpty then strOf o
    else do
      let sp ← lift (Format.Spec.parse spec none '>' "float")
      match sp.type with
      | none => lift (sp.real x)
      | some t => if Format.realTypes.contains t then lift (sp.real x) else unknownCode t "float"
  | .scalar (.str s) _ =>
    if spec.isEmpty then pure s
    else do
      let sp ← lift (Format.Spec.parse spec (some 's') '<' "str")
      match sp.type with
      | none | some 's' => lift (sp.text s)
      | some t => unknownCode t "str"
  | .scalar v _ =>
    match v with
    | .int _ | .bool _ | .status _ =>
      if spec.isEmpty then strOf o
      else match intOf? v with
        | some i => do
          let cls ← typeOf o
          let sp ← lift (Format.Spec.parse spec (some 'd') '>' cls)
          match sp.type with
          | none => do
            let _ ← lift (intText i)
            lift (sp.integer i)
          | some t =>
            if Format.integerTypes.contains t then do
              if t == 'd' || t == 'n' then discard <| lift (intText i)
              lift (sp.integer i)
            else if Format.realTypes.contains t then do lift (sp.real (← lift (toFloat i)))
            else unknownCode t cls
        | none => strOf o
    | .time t => if spec.isEmpty then strOf o else pure (t.strftime spec)
    | _ =>
      if spec.isEmpty then strOf o
      else typeFail ("unsupported format string passed to " ++ (← typeOf o) ++ ".__format__")
  | _ =>
    if spec.isEmpty then strOf o
    else typeFail ("unsupported format string passed to " ++ (← typeOf o) ++ ".__format__")

/-- Writers of builtin objects alone. -/
def plainWriters : Writers := ⟨plainText, formatWith⟩

/-- The text of an object by a conversion letter of a field: `s`, `r` or `a`. -/
def convertBy (w : Writers) (conv : Option Char) (o : Obj) : Run Obj := do
  match conv with
  | none => pure o
  | some 's' => str (← w.text o false)
  | some 'r' => str (← w.text o true)
  | some 'a' => str (asciiEscaped (← w.text o true))
  | some c => failWith (.runtimeText .valueError ("Unknown conversion specifier " ++ String.singleton c))

/-- A format failure with the runtime's text. -/
def formatFault (msg : String) : Run α := failWith (.runtimeText .valueError msg)

/-- The literal text of a template up to its next field: braces doubled stand for one; the
text, and the rest after the opening brace of a field when one follows. -/
def literalPart : Nat → List Char → Run (List Char × Option (List Char))
  | 0, _ => throw unsupported
  | _, [] => pure ([], none)
  | fuel + 1, c :: rest =>
    if c == '\x7b' then
      match rest with
      | '\x7b' :: more => do
        let (t, r) ← literalPart fuel more
        pure (c :: t, r)
      | [] => formatFault "Single '\x7b' encountered in format string"
      | _ => pure ([], some rest)
    else if c == '\x7d' then
      match rest with
      | '\x7d' :: more => do
        let (t, r) ← literalPart fuel more
        pure (c :: t, r)
      | _ => formatFault "Single '\x7d' encountered in format string"
    else do
      let (t, r) ← literalPart fuel rest
      pure (c :: t, r)

/-- The name of a field up to the character that ends it, skipping over a bracketed key. -/
def fieldName : Nat → List Char → Run (List Char × Option Char × List Char)
  | 0, _ => throw unsupported
  | _, [] => pure ([], none, [])
  | fuel + 1, c :: rest =>
    if c == '\x7b' then formatFault "unexpected '\x7b' in field name"
    else if c == '[' then do
      let key := rest.takeWhile (· != ']')
      let (n, e, r) ← fieldName fuel (rest.drop key.length)
      pure (c :: key ++ n, e, r)
    else if c == '\x7d' || c == ':' || c == '!' then pure ([], some c, rest)
    else do
      let (n, e, r) ← fieldName fuel rest
      pure (c :: n, e, r)

/-- A specification up to the brace that closes its field: the text, whether it holds
fields of its own, and the rest. -/
def specPart : Nat → Nat → List Char → Run (List Char × Bool × List Char)
  | 0, _, _ => throw unsupported
  | _, _, [] => formatFault "unmatched '\x7b' in format spec"
  | fuel + 1, level, c :: rest =>
    if c == '\x7b' then do
      let (s, _, r) ← specPart fuel (level + 1) rest
      pure (c :: s, true, r)
    else if c == '\x7d' then
      if level == 0 then pure ([], false, rest)
      else do
        let (s, n, r) ← specPart fuel (level - 1) rest
        pure (c :: s, n, r)
    else do
      let (s, n, r) ← specPart fuel level rest
      pure (c :: s, n, r)

/-- A field of a template: its name, its conversion, its specification, whether that holds
fields, and the rest of the template. -/
def fieldOf (cs : List Char) :
    Run (List Char × Option Char × List Char × Bool × List Char) := do
  let (name, ender, rest) ← fieldName (cs.length + 1) cs
  match ender with
  | some '\x7d' => pure (name, none, [], false, rest)
  | some '!' => match rest with
    | [] => formatFault "end of string while looking for conversion specifier"
    | c :: more => match more with
      | '\x7d' :: after => pure (name, some c, [], false, after)
      | ':' :: after => do
        let (spec, nested, r) ← specPart (after.length + 1) 0 after
        pure (name, some c, spec, nested, r)
      | [] => formatFault "unmatched '\x7b' in format spec"
      | _ => formatFault "expected ':' after conversion specifier"
  | some ':' => do
    let (spec, nested, r) ← specPart (rest.length + 1) 0 rest
    pure (name, none, spec, nested, r)
  | _ => formatFault "expected '\x7d' before end of string"

/-- How the fields of a template are numbered: not yet known, automatically from a count,
or by hand. -/
inductive Numbering where
  | unknown
  | auto (next : Nat)
  | manual

/-- The first part of a field's name, up to a dot or a bracket, and the rest. -/
def nameHead (cs : List Char) : List Char × List Char :=
  let h := cs.takeWhile fun c => c != '.' && c != '['
  (h, cs.drop h.length)

/-- Follow the attributes and items a field's name names after its first part. -/
def followName : Nat → Obj → List Char → Run Obj
  | 0, _, _ => throw unsupported
  | _, o, [] => pure o
  | fuel + 1, o, '.' :: rest => do
    let a := rest.takeWhile fun c => c != '.' && c != '['
    if a.isEmpty then formatFault "Empty attribute in format string"
    let o ← attr o (String.ofList a)
    followName fuel o (rest.drop a.length)
  | fuel + 1, o, '[' :: rest => do
    let k := rest.takeWhile (· != ']')
    match rest.drop k.length with
    | ']' :: after => do
      if k.isEmpty then formatFault "Empty attribute in format string"
      let key ← if k.all Char.isDigit then int (String.ofList k).toNat! else str (String.ofList k)
      let o ← item o key
      match after with
      | [] => pure o
      | '.' :: _ | '[' :: _ => followName fuel o after
      | _ => formatFault "Only '.' or '[' may follow ']' in format field specifier"
    | _ => formatFault "Missing ']' in format string"
  | _, _, _ => formatFault "Only '.' or '[' may follow ']' in format field specifier"

/-- Where the fields of a template find their objects: among positional and keyword
arguments, or as the items of a mapping looked up by the fields' names. -/
inductive FieldSource where
  | args (args : List Obj) (kwargs : List (String × Obj))
  | mapping (m : Obj)

/-- The object a field's name names in its source. -/
def fieldObject (name : List Char) (src : FieldSource) (numbering : Numbering) :
    Run (Obj × Numbering) := do
  let (head, rest) := nameHead name
  let toAuto := "cannot switch from manual field specification to automatic field numbering"
  let toManual := "cannot switch from automatic field numbering to manual field specification"
  let picked : Run (Option Nat × Numbering) :=
    if head.isEmpty then
      match numbering with
      | .manual => formatFault toAuto
      | .auto n => pure (some n, Numbering.auto (n + 1))
      | .unknown => pure (some 0, Numbering.auto 1)
    else if head.all Char.isDigit then
      match numbering with
      | .auto _ => formatFault toManual
      | _ => pure (some (String.ofList head).toNat!, Numbering.manual)
    else pure (none, numbering)
  let (index, numbering) ← picked
  let o ← match src, index with
    | .args args _, some i => match args[i]? with
      | some o => pure o
      | none => failWith (.runtimeText .indexError ("Replacement index " ++ toString i ++
          " out of range for positional args tuple"))
    | .args _ kwargs, none => match bound? kwargs (String.ofList head) with
      | some o => pure o
      | none => keyMissing (← str (String.ofList head))
    | .mapping _, some _ => formatFault "Format string contains positional fields"
    | .mapping m, none => do item m (← str (String.ofList head))
  let o ← followName (rest.length + 1) o rest
  pure (o, numbering)

/-- A template with its fields replaced, at a depth of nesting that specifications may
still go into. -/
def template (w : Writers) : Nat → Nat → List Char → FieldSource → Numbering →
    Run (String × Numbering)
  | 0, _, _, _, _ => throw unsupported
  | fuel + 1, level, cs, src, numbering => do
    let (text, rest) ← literalPart (cs.length + 1) cs
    match rest with
    | none => pure (String.ofList text, numbering)
    | some rest => do
      let (name, conv, spec, nested, rest) ← fieldOf rest
      let (o, numbering) ← fieldObject name src numbering
      let o ← convertBy w conv o
      let (spec, numbering) ← if nested then
          if level == 0 then formatFault "Max string recursion exceeded"
          else template w fuel (level - 1) spec src numbering
        else pure (String.ofList spec, numbering)
      let shown ← w.format o spec
      let (more, numbering) ← template w fuel level rest src numbering
      pure (String.ofList text ++ shown ++ more, numbering)

/-- A string's `format` method: its fields replaced by the arguments' texts. -/
def formatFields (w : Writers) (s : String) (args : List Obj) (kwargs : List (String × Obj)) :
    Run Obj := do
  let (out, _) ← template w (s.length + 2) 2 s.toList (.args args kwargs) .unknown
  str out

/-- A string's `format_map` method: its fields replaced by the texts of a mapping's items
under their names. -/
def formatMapped (w : Writers) (s : String) (args : List Obj) (kwargs : List (String × Obj)) :
    Run Obj := do
  if !kwargs.isEmpty then typeFail "str.format_map() takes no keyword arguments"
  match args with
  | [m] => do
    let (out, _) ← template w (s.length + 2) 2 s.toList (.mapping m) .unknown
    str out
  | _ => typeFail ("str.format_map() takes exactly one argument (" ++ toString args.length ++
      " given)")

end Run

end Storefront.Script
