import Storefront.Operation.Script.Classes

/-!
# Items and attributes

A subscript reads an item of a list, tuple, string or range by its position (negative
positions count from the end) or a dict's value by its key. A slice reads the items between
two bounds with a step: bounds left out mean the ends in the direction of the step, and
bounds past the ends are clamped. Lists and dicts change their items in place.

An attribute of an object is one of its class's methods, a field of a record, or a fact of
the object (a number's parts, a status's name and value, a time's fields, an exception's
arguments).
-/

namespace Storefront.Script

/-- The integer an object stands for as an index: integers, booleans and statuses. -/
def Obj.int? : Obj → Option Int
  | .scalar v _ => intOf? v
  | _ => none

/-- The position an index names in a sequence of a length, counting negative indices from
the end. -/
def position? (n : Nat) (i : Int) : Option Nat :=
  let j := if i < 0 then i + n else i
  if 0 ≤ j && j < n then some j.toNat else none

/-- The bounds of a slice over a sequence of a length: a bound left out is the end the step
starts from or runs to, and a bound is clamped to the sequence, or to one before its start
when the step runs backwards. -/
def adjustBounds (n : Nat) (lo hi : Option Int) (step : Int) : Int × Int :=
  let len : Int := n
  if step > 0 then
    let clamp (b : Int) : Int := if b < 0 then max (b + len) 0 else min b len
    ((lo.map clamp).getD 0, (hi.map clamp).getD len)
  else
    let clamp (b : Int) : Int :=
      if b < 0 then (if b + len < 0 then -1 else b + len) else if b ≥ len then len - 1 else b
    ((lo.map clamp).getD (len - 1), (hi.map clamp).getD (-1))

/-- How many positions a slice selects from its adjusted bounds. -/
def sliceCount (a b step : Int) : Nat :=
  if step > 0 then (if b > a then ((b - a + step - 1) / step).toNat else 0)
  else if step < 0 then (if a > b then ((a - b - step - 1) / (-step)).toNat else 0)
  else 0

/-- The positions a slice selects, in order. -/
def slicePositions (n : Nat) (lo hi : Option Int) (step : Int) : List Nat :=
  let (a, b) := adjustBounds n lo hi step
  (List.range (sliceCount a b step)).map fun (k : Nat) => (a + (k : Int) * step).toNat

/-- The refusal of a subscript on an object that takes none; a class is named itself. -/
def notSubscriptable (h : Heap) (o : Obj) : String :=
  let named (c : String) := "type '" ++ c ++ "' is not subscriptable"
  match o with
  | .cls c => named c
  | .ref a => match h.userClass? a with
    | some k => named k.name
    | none => "'" ++ typeName h o ++ "' object is not subscriptable"
  | _ => "'" ++ typeName h o ++ "' object is not subscriptable"

/-- A missing attribute of an object; a class is named itself. -/
def missingAttribute (h : Heap) (o : Obj) (name : String) : Failure :=
  let named (c : String) : Failure := .runtimeText .attributeError
    ("type object '" ++ c ++ "' has no attribute '" ++ name ++ "'")
  match o with
  | .cls c => named c
  | _ => .runtimeText .attributeError
      ("'" ++ typeName h o ++ "' object has no attribute '" ++ name ++ "'")

/-- The items at some positions of an array. -/
def pick (xs : Array α) [Inhabited α] (ps : List Nat) : List α := ps.map fun p => xs.getD p default

namespace Run

/-- The name of an object's class. -/
def typeOf (o : Obj) : Run String := do pure (typeName (← heap) o)

/-- The text of an object as `repr` writes it. -/
def repr (o : Obj) : Run String := do lift ((← heap).repr o)

/-- The text of an object as `str` writes it. -/
def strOf (o : Obj) : Run String := do lift ((← heap).str o)

/-- A failure for a missing key: a `KeyError` raised with the key, whose text is the key as
it reads back. -/
def keyMissing (k : Obj) : Run α := do
  let text ← repr k
  let a ← place (.exception "KeyError" [k] [])
  failWith (.thrown (.runtimeText .keyError text) a)

/-- A one-character string. -/
def char (c : Char) : Run Obj := str (String.singleton c)

/-- The items of a list, a tuple, or a string's characters, as they are now. -/
def sequence? (o : Obj) : Run (Option (List Obj)) := do
  match o with
  | .tuple xs _ => pure (some xs)
  | .ref a => match ← cell a with
    | .list xs => pure (some xs.toList)
    | _ => pure none
  | _ => pure none

/-- An index of a subscript, or a type failure naming the class indexed. -/
def indexOf (kind : String) (key : Obj) : Run Int := do
  match key.int? with
  | some i => pure i
  | none =>
    if kind == "string" then typeFail ("string indices must be integers, not '" ++ (← typeOf key) ++ "'")
    else typeFail (kind ++ " indices must be integers or slices, not " ++ (← typeOf key))

/-- The item of an object under a key that is not a slice. -/
def item (o key : Obj) : Run Obj := do
  let h ← heap
  match o with
  | .ref a => match h.cell a with
    | .list xs => do
      let i ← indexOf "list" key
      match position? xs.size i with
      | some j => pure (xs.getD j default)
      | none => failWith (.runtimeText .indexError "list index out of range")
    | .dict es => do
      match ← lift (h.keyIndex es key) with
      | some j => pure (es.getD j default).2
      | none => keyMissing key
    | _ => typeFail (notSubscriptable h o)
  | .tuple xs _ => do
    let i ← indexOf "tuple" key
    match position? xs.length i with
    | some j => pure (xs.getD j default)
    | none => failWith (.runtimeText .indexError "tuple index out of range")
  | .scalar (.str s) _ => do
    let i ← indexOf "string" key
    let cs := s.toList
    match position? cs.length i with
    | some j => char (cs.getD j ' ')
    | none => failWith (.runtimeText .indexError "string index out of range")
  | .bytes bs _ => do
    let i ← indexOf "byte" key
    match position? bs.length i with
    | some j => int (bs.getD j 0).toNat
    | none => failWith (.runtimeText .indexError "index out of range")
  | .range a b st _ => do
    let i ← indexOf "range" key
    match position? (rangeLength a b st) i with
    | some j => int (a + j * st)
    | none => failWith (.runtimeText .indexError "range object index out of range")
  | _ => typeFail (notSubscriptable h o)

/-- A bound of a slice: none, or an integer. -/
def boundOf (o : Option Obj) : Run (Option Int) := do
  match o with
  | none => pure none
  | some (.scalar .none _) => pure none
  | some x => match x.int? with
    | some i => pure (some i)
    | none => typeFail "slice indices must be integers or None or have an __index__ method"

/-- A bound of a search in a list or tuple: left out, or an integer; `None` is refused. -/
def searchBoundOf (o : Option Obj) : Run (Option Int) := do
  match o with
  | none => pure none
  | some x => match x.int? with
    | some i => pure (some i)
    | none => typeFail "slice indices must be integers or have an __index__ method"

/-- The step of a slice: one when left out; zero is refused. -/
def stepOf (o : Option Obj) : Run Int := do
  match ← boundOf o with
  | none => pure 1
  | some 0 => failWith (.runtimeText .valueError "slice step cannot be zero")
  | some s => pure s

/-- The items of an object between the bounds of a slice. Only lists, tuples, strings and
ranges take slices; the step is read before the bounds. A slice of a tuple or string that
takes all of it in order is the object itself. -/
def slice (o : Obj) (lo hi step : Option Obj) : Run Obj := do
  let h ← heap
  let refused : Option String := match o with
    | .ref a => match h.cell a with
      | .list _ => none
      | .dict _ => some "unhashable type: 'slice'"
      | _ => some (notSubscriptable h o)
    | .tuple .. | .scalar (.str _) _ | .bytes .. | .range .. => none
    | _ => some (notSubscriptable h o)
  if let some msg := refused then typeFail msg
  -- the step is read first, then the bounds
  let st ← stepOf step
  let lo ← boundOf lo
  let hi ← boundOf hi
  match o with
  | .ref a => match h.cell a with
    | .list xs => list (pick xs (slicePositions xs.size lo hi st))
    | .dict _ => typeFail "unhashable type: 'slice'"
    | _ => typeFail (notSubscriptable h o)
  | .tuple xs _ =>
    let ps := slicePositions xs.length lo hi st
    if st == 1 && ps.length == xs.length then pure o else tuple (pick xs.toArray ps)
  | .scalar (.str s) _ =>
    let cs := s.toList
    let ps := slicePositions cs.length lo hi st
    if st == 1 && ps.length == cs.length then pure o
    else str (String.ofList (pick cs.toArray ps))
  | .bytes bs _ =>
    let ps := slicePositions bs.length lo hi st
    if st == 1 && ps.length == bs.length then pure o else bytes (pick bs.toArray ps)
  | .range a b s _ =>
    let (i, j) := adjustBounds (rangeLength a b s) lo hi st
    pure (.range (a + i * s) (a + j * s) (s * st) (← fresh))
  | _ => typeFail (notSubscriptable h o)

/-- Set the item of a list by position or of a dict by key. -/
def setItem (o key v : Obj) : Run Unit := do
  let h ← heap
  match o with
  | .ref a => match h.cell a with
    | .list xs => do
      let i ← indexOf "list" key
      match position? xs.size i with
      | some j => setCell a (.list (xs.set! j v))
      | none => failWith (.runtimeText .indexError "list assignment index out of range")
    | .dict es => do
      match ← lift (h.keyIndex es key) with
      | some j => setCell a (.dict (es.modify j fun (k, _) => (k, v)))
      | none => setCell a (.dict (es.push (key, v)))
    | _ => typeFail ("'" ++ typeName h o ++ "' object does not support item assignment")
  | _ => typeFail ("'" ++ typeName h o ++ "' object does not support item assignment")

/-- Replace the items of a list between the bounds of a slice by other items; a slice with a
step other than one takes exactly as many items as it selects. -/
def setSlice (o : Obj) (lo hi step : Option Obj) (items : List Obj) : Run Unit := do
  let lo ← boundOf lo
  let hi ← boundOf hi
  let st ← stepOf step
  let h ← heap
  match o with
  | .ref a => match h.cell a with
    | .list xs =>
      if st == 1 then
        let (i, j) := adjustBounds xs.size lo hi 1
        let j := max i j
        let ys := xs.toList
        setCell a (.list (ys.take i.toNat ++ items ++ ys.drop j.toNat).toArray)
      else
        let ps := slicePositions xs.size lo hi st
        if ps.length != items.length then
          failWith (.runtimeText .valueError ("attempt to assign sequence of size " ++
            toString items.length ++ " to extended slice of size " ++ toString ps.length))
        else
          setCell a (.list ((ps.zip items).foldl (fun acc (p, x) => acc.set! p x) xs))
    | _ => typeFail ("'" ++ typeName h o ++ "' object does not support item assignment")
  | _ => typeFail ("'" ++ typeName h o ++ "' object does not support item assignment")

/-- Remove the item of a list by position or the entry of a dict by key. -/
def deleteItem (o key : Obj) : Run Unit := do
  let h ← heap
  match o with
  | .ref a => match h.cell a with
    | .list xs => do
      let i ← indexOf "list" key
      match position? xs.size i with
      | some j => setCell a (.list (xs.eraseIdxIfInBounds j))
      | none => failWith (.runtimeText .indexError "list assignment index out of range")
    | .dict es => do
      match ← lift (h.keyIndex es key) with
      | some j => setCell a (.dict (es.eraseIdxIfInBounds j))
      | none => keyMissing key
    | _ => typeFail ("'" ++ typeName h o ++ "' object doesn't support item deletion")
  | _ => typeFail ("'" ++ typeName h o ++ "' object doesn't support item deletion")

/-- Remove the items of a list between the bounds of a slice. -/
def deleteSlice (o : Obj) (lo hi step : Option Obj) : Run Unit := do
  let lo ← boundOf lo
  let hi ← boundOf hi
  let st ← stepOf step
  let h ← heap
  match o with
  | .ref a => match h.cell a with
    | .list xs =>
      let ps := slicePositions xs.size lo hi st
      let keep := (List.range xs.size).filter fun p => !ps.contains p
      setCell a (.list (pick xs keep).toArray)
    | _ => typeFail ("'" ++ typeName h o ++ "' object doesn't support item deletion")
  | _ => typeFail ("'" ++ typeName h o ++ "' object doesn't support item deletion")

end Run

/-- The methods of strings. -/
def strMethods : List String :=
  ["capitalize", "casefold", "center", "count", "encode", "endswith", "expandtabs", "find",
    "format", "format_map", "index", "isalnum", "isalpha", "isascii", "isdecimal", "isdigit",
    "isidentifier", "islower", "isnumeric", "isprintable", "isspace", "istitle", "isupper",
    "join", "ljust", "lower", "lstrip", "maketrans", "partition", "removeprefix",
    "removesuffix", "replace", "rfind", "rindex", "rjust", "rpartition", "rsplit", "rstrip",
    "split", "splitlines", "startswith", "strip", "swapcase", "title", "translate", "upper",
    "zfill"]

/-- The methods of lists. -/
def listMethods : List String :=
  ["append", "clear", "copy", "count", "extend", "index", "insert", "pop", "remove",
    "reverse", "sort"]

/-- The methods of dicts. -/
def dictMethods : List String :=
  ["clear", "copy", "fromkeys", "get", "items", "keys", "pop", "popitem", "setdefault",
    "update", "values"]

/-- The methods of sets. -/
def setMethods : List String :=
  ["add", "clear", "copy", "difference", "difference_update", "discard", "intersection",
    "intersection_update", "isdisjoint", "issubset", "issuperset", "pop", "remove",
    "symmetric_difference", "symmetric_difference_update", "union", "update"]

/-- The methods of frozen sets: those of sets that do not change them. -/
def frozenSetMethods : List String :=
  ["copy", "difference", "intersection", "isdisjoint", "issubset", "issuperset",
    "symmetric_difference", "union"]

/-- The methods of integers. -/
def intMethods : List String :=
  ["as_integer_ratio", "bit_count", "bit_length", "conjugate", "to_bytes"]

/-- The methods of floats. -/
def floatMethods : List String := ["as_integer_ratio", "conjugate", "fromhex", "hex", "is_integer"]

/-- The methods of times. -/
def timeMethods : List String :=
  ["isoformat", "weekday", "isoweekday", "timestamp", "replace", "strftime", "utcoffset", "tzname",
    "toordinal", "ctime", "astimezone"]

/-- The methods of spans of time. -/
def spanMethods : List String := ["total_seconds"]

/-- The methods an object's class has. -/
def methodsOf (h : Heap) (o : Obj) : List String :=
  match o with
  | .scalar (.str _) _ => strMethods
  | .scalar (.int _) _ | .scalar (.bool _) _ | .scalar (.status _) _ => intMethods
  | .scalar (.float _) _ => floatMethods
  | .scalar (.time _) _ => timeMethods
  | .duration .. => spanMethods
  | .tuple .. => ["count", "index"]
  | .range .. => ["count", "index"]
  | .ref a => match h.cell a with
    | .list _ => listMethods
    | .dict _ => dictMethods
    | .set _ frozen => if frozen then frozenSetMethods else setMethods
    | .view k _ => if k == .values then [] else ["isdisjoint"]
    | .exception .. => ["with_traceback"]
    | _ => []
  | _ => []

/-- The methods of a builtin class, by the class's name. -/
def classMethods (c : String) : List String :=
  match c with
  | "str" => strMethods
  | "int" | "bool" => intMethods
  | "float" => floatMethods
  | "list" => listMethods
  | "dict" => dictMethods
  | "set" => setMethods
  | "frozenset" => frozenSetMethods
  | "tuple" | "range" => ["count", "index"]
  | "datetime" => timeMethods
  | "timedelta" => spanMethods
  | _ => []

/-- A missing attribute. -/
def noAttribute (cls name : String) : Failure :=
  .runtimeText .attributeError ("'" ++ cls ++ "' object has no attribute '" ++ name ++ "'")

namespace Run

/-- The attributes every exception keeps apart from the ones set on it. -/
def exceptionSlots : List String :=
  ["args", "__cause__", "__context__", "__suppress_context__", "__traceback__"]

/-- An attribute every exception has, by its class and arguments: its arguments; the
exceptions it was raised from and while handling, and whether the latter is hidden, as they
are before a `raise` sets them; a service error's status; and the values some classes read
off their arguments. -/
def exceptionAttr? (c : String) (args : List Obj) (name : String) : Run (Option Obj) := do
  match name with
  | "args" => some <$> tuple args
  | "__cause__" | "__context__" | "__traceback__" => pure (some noneObj)
  | "__suppress_context__" => pure (some (bool false))
  | "status" => match serviceErrors.lookup c with
    | some code => some <$> int code
    | none => pure none
  | "value" => pure (if c == "StopIteration" then some (args.headD noneObj) else none)
  | "code" =>
    if c == "SystemExit" then match args with
      | [] => pure (some noneObj)
      | [x] => pure (some x)
      | xs => some <$> tuple xs
    else pure none
  | "errno" | "strerror" | "filename" | "filename2" =>
    if isSubclass c "OSError" then
      match args, name with
      | x :: _ :: _, "errno" => pure (some x)
      | _ :: y :: _, "strerror" => pure (some y)
      | _ :: _ :: z :: _, "filename" => pure (some z)
      | _, _ => pure (some noneObj)
    else pure none
  | _ => pure none

/-- The attribute of an object under a name. -/
def attr (o : Obj) (name : String) : Run Obj := do
  let h ← heap
  if (methodsOf h o).contains name then pure (.method o name (← fresh))
  else if name == "__class__" then pure (.cls (shortTypeName h o))
  else
    let missing : Run Obj := failWith (missingAttribute h o name)
    match o with
    | .scalar v _ => match v, name with
      | .float x, "real" => float x
      | .float _, "imag" => float 0.0
      | .status s, "name" => str s.name
      | .status s, "value" => int s.code
      | .time t, "year" => int t.year
      | .time t, "month" => int t.month
      | .time t, "day" => int t.day
      | .time t, "hour" => int t.hour
      | .time t, "minute" => int t.minute
      | .time t, "second" => int t.second
      | .time t, "microsecond" => int t.microsecond
      | .time t, "tzinfo" => match t.offset with
        | some off => pure (.zone off)
        | none => pure noneObj
      | .time _, "fold" => int 0
      | v, n => match intOf? v with
        | some i =>
          if n == "real" || n == "numerator" then int i
          else if n == "imag" then int 0
          else if n == "denominator" then int 1
          else missing
        | none => missing
    | .ref a => match h.cell a with
      | .record _ fs => match bound? fs name with
        | some x => pure x
        | none => missing
      | .func fn => match name with
        | "__name__" => str fn.name
        | "__qualname__" => str fn.qualname
        | "__module__" => str bodyModule
        | "__doc__" => pure noneObj
        | _ => missing
      | .exception c args attrs => match bound? attrs name with
        | some x => pure x
        | none => match ← exceptionAttr? c args name with
          | some x => pure x
          | none => missing
      | _ => missing
    | .duration us _ => match name with
      | "days" => int (Span.days us)
      | "seconds" => int (Span.seconds us)
      | "microseconds" => int (Span.micros us)
      | _ => missing
    | .cls c =>
      if name == "__name__" || name == "__qualname__" then str c
      else if (classMethods c).contains name then pure (.method o name (← fresh))
      else match c, name with
        | "timezone", "utc" => pure (.zone 0)
        | "timezone", "min" => pure (.zone (60000000 - microsPerDay))
        | "timezone", "max" => pure (.zone (microsPerDay - 60000000))
        | "timedelta", "max" => pure (.duration ((Span.maxDays + 1) * microsPerDay - 1) (← fresh))
        | "timedelta", "min" => pure (.duration (-Span.maxDays * microsPerDay) (← fresh))
        | "timedelta", "resolution" | "datetime", "resolution" => pure (.duration 1 (← fresh))
        | "datetime", "min" => scalar (.time ⟨0, none⟩)
        | "datetime", "max" => scalar (.time ⟨DateTime.wallEnd - 1, none⟩)
        | _, _ => missing
    | .builtin b => if name == "__name__" then str b else missing
    | _ => missing

end Run

end Storefront.Script
