import Storefront.Operation.Script.Library
import Storefront.Operation.Script.Check
import Storefront.Store.Sort

/-!
# Running bodies

Expressions are evaluated and statements run on a machine of objects. Every function here
takes fuel, one unit per step into a subexpression, a statement, a call or an iteration of a
loop; the fuel a body gets is far more than any body the service is given needs, and a body
that runs out of it is refused as one that does not end.

Constants are folded before they are used, as the service's runtime compiles them: an
operator or subscript on constants, a tuple of constants, within the limits the runtime keeps
(integers of at most 128 bits, sequences of at most 256 items, strings of at most 4096
characters). A folded constant is, like a literal, one object for all its equal occurrences.

A block of statements ends normally, by a `return`, or by a `break` or `continue` of the loop
around it. A failure raised in a guarded block is caught by the first handler whose class it
belongs to; the `finally` block runs whatever the outcome, and its own return or break wins.
An exception raised while another is handled keeps that one as its context, and one raised
`from` another keeps it as its cause. A `with` block runs between its managers' `__enter__`
and `__exit__` hooks, and an exit hook's true answer swallows the failure that ended it. A
`match` runs the first case whose pattern matches its subject and whose guard holds: values
compare by equality (`None`, `True` and `False` by identity), sequence patterns take lists,
tuples and ranges but not strings, mapping patterns take dicts, and class patterns take
instances, whose attributes `__match_args__` names for positional sub-patterns.

Objects of the body's classes take part through their hooks: operators try the left
operand's hook, then the right one's reflected hook, and a hook that gives `NotImplemented`
passes the operation on; comparisons reach the hooks of such objects inside tuples, lists
and dicts too, so that sorting, `min`, `max` and membership use them; `str`, `repr`, `format`
and the string formats write them through `__str__`, `__repr__` and `__format__`.

List, set and dict comprehensions run at once in a scope of their own; generator expressions
and the builtins `map`, `filter`, `zip`, `enumerate` and `reversed` make iterators that
compute an item only when it is asked for.
-/

-- powers of naturals and integers are the core ones, whatever else is in scope
attribute [local instance (1100)] instPowNat

namespace Storefront.Script

/-- How a block of statements ends: it runs off its end, returns a value, or breaks or
continues the innermost loop. -/
inductive Flow where
  | normal
  | ret (o : Obj)
  | brk
  | cont
deriving Inhabited

/-- A body that runs out of fuel. -/
def outOfFuel : Failure := .malformed "body did not finish"

/-- The most bits of an integer constant that folding makes. -/
def foldBits : Nat := 128

/-- The most items of a tuple constant that folding makes by repetition. -/
def foldItems : Nat := 256

/-- The most characters of a string constant that folding makes by repetition. -/
def foldChars : Nat := 4096

/-- The length of a constant sequence. -/
def constLength : Value → Option Nat
  | .str s => some s.length
  | .tuple xs => some xs.length
  | _ => none

/-- Whether a binary operator on constants is folded: a product, power or shift too large,
or a string formatted by `%`, stays for the runtime. -/
def folds (op : BinOp) (a b : Value) : Bool :=
  let bits (v : Value) : Nat := match intOf? v with
    | some i => if i == 0 then 0 else Nat.log2 i.natAbs + 1
    | none => 0
  match op with
  | .mul =>
    match constLength a, constLength b, intOf? a, intOf? b with
    | some n, _, _, some k => k ≤ 0 || n * k.toNat ≤ (if a matches .str _ then foldChars else foldItems)
    | _, some n, some k, _ => k ≤ 0 || n * k.toNat ≤ (if b matches .str _ then foldChars else foldItems)
    | _, _, some x, some y => x == 0 || y == 0 || bits a + bits b ≤ foldBits
    | _, _, _, _ => true
  | .pow =>
    match intOf? a, intOf? b with
    | some x, some y => y < 0 || x == 0 || x.natAbs == 1 || bits a * y.toNat ≤ foldBits
    | _, _ => true
  | .shiftLeft =>
    match intOf? a, intOf? b with
    | some x, some y => y < 0 || x == 0 || (y ≤ foldBits && bits a + y.toNat ≤ foldBits)
    | _, _ => true
  | .mod => !(a matches .str _)
  | _ => true

/-- A binary operator on constant tuples and strings that folding makes. -/
def foldSequences (op : BinOp) (a b : Value) : Option Value :=
  match op, a, b with
  | .add, .tuple xs, .tuple ys => some (.tuple (xs ++ ys))
  | .mul, .tuple xs, n => (intOf? n).map fun k => .tuple (repeatList xs k)
  | .mul, n, .tuple xs => (intOf? n).map fun k => .tuple (repeatList xs k)
  | _, _, _ => none

/-- The item of a constant under a constant key, when folding takes it. -/
def foldItem (a k : Value) : Option Value :=
  match a, intOf? k with
  | .tuple xs, some i => (position? xs.length i).bind fun j => xs[j]?
  | .str s, some i => (position? s.length i).bind fun j => (s.toList[j]?).map fun c => .str (String.singleton c)
  | _, _ => none

/-- Whether a constant is one folding makes: numbers, strings, none, booleans and tuples of
them. -/
def foldable : Value → Bool
  | .list _ | .dict _ | .record .. | .time _ | .status _ => false
  | _ => true

/-- The value an expression of constants folds to. -/
def constValue? : Nat → Expr → Option Value
  | 0, _ => none
  | fuel + 1, e =>
    match e with
    | .lit v => some v
    | .tuple items =>
      if items.any (· matches .star _) then none
      else do
        let vs ← items.mapM (constValue? fuel)
        pure (.tuple vs)
    | .unary op a => do
      let v ← constValue? fuel a
      if !foldable v then none
      match v with
      | .tuple _ => if op == .not then some (.bool (!v.truthy)) else none
      | .str _ => if op == .not then some (.bool (!v.truthy)) else none
      | _ => match scalarUnary op v with
        | .ok r => some r
        | .error _ => none
    | .binary op a b => do
      let x ← constValue? fuel a
      let y ← constValue? fuel b
      if !foldable x || !foldable y || !folds op x y then none
      match foldSequences op x y with
      | some r => some r
      | none =>
        if x matches .tuple _ then none
        else if y matches .tuple _ then none
        else match scalarBinary op x y with
          | .ok r => some r
          | .error _ => none
    | .index a k => do
      let x ← constValue? fuel a
      let y ← constValue? fuel k
      foldItem x y
    | _ => none

/-- The items of a set display of constants, which an iterable place makes a constant. -/
def constItems? : Expr → Option (List Expr)
  | .set items => if items.all fun e => (constValue? 64 e).isSome then some items else none
  | _ => none

/-- A constant as an object of a unit of code: the one object of its value when it has one
(small integers and strings, name-like strings, none, booleans, the empty tuple), the
interned object of a preinterned character, else one object for all its equal occurrences
in the unit. -/
def constObj (unit : Nat) : Value → Obj
  | .tuple xs =>
    if xs.isEmpty then .tuple [] .shared
    else .tuple (xs.attach.map fun ⟨x, _⟩ => constObj unit x) (.const unit (constKey (.tuple xs)))
  | v =>
    match v with
    | .str s => match s.toList with
      | [c] => if preinternedChars.contains c then .scalar v .interned else .scalar v .shared
      | _ =>
        if sharedScalar v || internedText s then .scalar v .shared
        else .scalar v (.const unit (constKey v))
    | _ => if sharedScalar v then .scalar v .shared else .scalar v (.const unit (constKey v))

/-- The builtin classes whose one positional sub-pattern matches the subject itself. -/
def selfMatchingClasses : List String :=
  ["bool", "bytearray", "bytes", "dict", "float", "frozenset", "int", "list", "set", "str",
    "tuple"]

/-- The items of a subject that a sequence pattern takes: those of a list, a tuple or a
range; a string is not a sequence to a pattern. -/
def Run.sequenceItems? (o : Obj) : Run (Option (List Obj)) := do
  match o with
  | .tuple xs _ => pure (some xs)
  | .range a b s _ =>
    some <$> (List.range (rangeLength a b s)).mapM fun (i : Nat) => Run.int (a + (i : Int) * s)
  | .ref x => match ← Run.cell x with
    | .list xs => pure (some xs.toList)
    | _ => pure none
  | _ => pure none

/-- The most calls of functions of the body that may be running at once. -/
def callLimit : Nat := 980

/-- The depth the reading of a function's names when it is made follows, more than any
body's nesting. -/
def analysisFuel : Nat := 100000

/-- The most items a generator function's body may yield. -/
def yieldLimit : Nat := 100000

/-- The name a comprehension's code has. -/
def CompKind.codeName : CompKind → String
  | .list => "<listcomp>"
  | .set => "<setcomp>"
  | .dict => "<dictcomp>"
  | .gen => "<genexpr>"

/-- A call of a function of the body: the function and its scope in the heap. -/
structure Activation where
  fn : Func
  scope : Nat

/-- The frame a generator expression's steps run in. -/
def Gen.frame (g : Gen) : Frame := { scope := some g.scope, unit := g.unit }

namespace Run

/-- The iterator of an object: a new iterator for a list, tuple, string, range, dict (over
its keys) or set, and an iterator itself. -/
def iterOf (o : Obj) : Run Obj := do
  let h ← heap
  match o with
  | .tuple .. | .range .. | .scalar (.str _) _ | .bytes .. => alloc (.iter (.seq o 0))
  | .ref a => match h.cell a with
    | .list _ => alloc (.iter (.seq o 0))
    | .dict es => alloc (.iter (.dictWalk a .keys 0 es.size))
    | .set t _ => alloc (.iter (.setWalk a 0 t.used))
    | .view k d => match h.cell d with
      | .dict es => alloc (.iter (.dictWalk d k 0 es.size))
      | _ => alloc (.iter (.items []))
    | .iter _ => pure o
    | _ => typeFail ("'" ++ typeName h o ++ "' object is not iterable")
  | _ => typeFail ("'" ++ typeName h o ++ "' object is not iterable")

/-- The items of an object that holds them all already, read at once. -/
def itemsNow? (o : Obj) : Run (Option (List Obj)) := do
  match o with
  | .tuple xs _ => pure (some xs)
  | .scalar (.str s) _ => do pure (some (← s.toList.mapM char))
  | .bytes bs _ => do pure (some (← bs.mapM fun b => int b.toNat))
  | .range a b s _ =>
    let n := rangeLength a b s
    if n > maxChars then throw (.runtime (.other "MemoryError"))
    else do pure (some (← (List.range n).mapM fun (k : Nat) => int (a + (k : Int) * s)))
  | .ref a => match ← cell a with
    | .list xs => pure (some xs.toList)
    | .dict es => pure (some (es.toList.map (·.1)))
    | .set t _ => pure (some t.members)
    | .view k d => match (← heap).viewItems k d with
      | some xs => some <$> xs.mapM fun x => match x with
        | .tuple ys _ => tuple ys
        | x => pure x
      | none => pure none
    | _ => pure none
  | _ => pure none

/-- The item at a position of a sequence an iterator reads, as the sequence is now. -/
def seqItem (src : Obj) (pos : Nat) : Run (Option Obj) := do
  match src with
  | .tuple xs _ => pure xs[pos]?
  | .scalar (.str s) _ => match s.toList[pos]? with
    | some c => some <$> char c
    | none => pure none
  | .range a b s _ => if pos < rangeLength a b s then some <$> int (a + pos * s) else pure none
  | .bytes bs _ => match bs[pos]? with
    | some b => some <$> int b.toNat
    | none => pure none
  | .ref a => match ← cell a with
    | .list xs => pure xs[pos]?
    | _ => pure none
  | _ => pure none

/-- Run a step in a frame, and put the running frame back after it, whatever its outcome;
the frame the step ended in is given back too. -/
def within (f : Frame) (step : Run α) : Run (α × Frame) := do
  let saved ← frame
  setFrame f
  let r ← tryCatch step fun e => do
    setFrame saved
    throw e
  let after ← frame
  setFrame saved
  pure (r, after)

/-- A failure while a failure is handled, for a bare `raise`. -/
def current : Run Failure := do
  match (← get).handling with
  | f :: _ => pure f
  | [] => failWith (.runtimeText .runtimeError "No active exception to reraise")

/-- The failure a raised object makes, with the failure that caused it. -/
def raised (o : Obj) (cause : Option Failure) : Run Failure := do
  match o with
  | .cls c =>
    if isExceptionClass c then do
      let f ← lift (failureOfExc (← heap) c [] cause)
      pure (.thrown f (← place (.exception c [] [])))
    else typeFail "exceptions must derive from BaseException"
  | .ref a => match ← cell a with
    | .exception c args _ => do
      let f ← lift (failureOfExc (← heap) c args cause)
      pure (.thrown f a)
    | _ => typeFail "exceptions must derive from BaseException"
  | _ => typeFail "exceptions must derive from BaseException"

/-- The cause a `raise ... from` names: none, or the failure of an exception. -/
def causeOf (o : Obj) : Run (Option Failure) := do
  match o with
  | .scalar .none _ => pure none
  | .cls _ | .ref _ => do
    let f ← tryCatch (raised o none) fun _ =>
      typeFail "exception causes must derive from BaseException"
    pure (some f)
  | _ => typeFail "exception causes must derive from BaseException"

/-- The place of the object a failure was raised as. -/
def objectAt? : Failure → Option Nat
  | .raised _ _ a | .thrown _ a => some a
  | _ => none

/-- Set an attribute of the exception object at an address, of a class of the runtime or of
the body. -/
def setExcAttr (a : Nat) (name : String) (v : Obj) : Run Unit :=
  modifyCell a fun c => match c with
    | .exception k args attrs => .exception k args (bindName attrs name v)
    | .inst k attrs => .inst k (bindName attrs name v)
    | c => c

/-- Tie a raised exception to the exceptions around it: the one being handled becomes its
context, unless it is that one; a `from` clause (`given`) makes its exception the cause,
`None` for none, and hides the context. -/
def chain (f : Failure) (given : Bool) (cause : Option Failure) : Run Unit := do
  let some a := objectAt? f | return
  if let some h := (← get).handling.head? then
    if let some c := objectAt? h then
      if c != a then setExcAttr a "__context__" (.ref c)
  if given then
    let causeObj := match cause.bind objectAt? with
      | some c => Obj.ref c
      | none => noneObj
    setExcAttr a "__cause__" causeObj
    setExcAttr a "__suppress_context__" (bool true)

/-- Whether a handler's classes catch a failure. -/
def catches (f : Failure) (classes : List String) : Bool :=
  classes.any (isSubclass f.name ·)

/-- Set the attribute of an object: a field of a record whose class is not frozen, or any
attribute of an exception, whose arguments become a tuple of the items given. -/
def setAttr (o : Obj) (name : String) (v : Obj) : Run Unit := do
  let h ← heap
  match o with
  | .ref a => match h.cell a with
    | .exception c args attrs =>
      if name == "args" then
        match ← itemsNow? v with
        | some xs => setCell a (.exception c xs attrs)
        | none => throw unsupported
      else setCell a (.exception c args (bindName attrs name v))
    | .record c fs =>
      if c.frozen then
        failWith (.runtimeText (.other "FrozenInstanceError") ("cannot assign to field '" ++ name ++ "'"))
      else if fs.any (·.1 == name) then setCell a (.record c (bindName fs name v))
      else throw unsupported
    | _ => failWith (noAttribute (typeName h o) name)
  | _ => failWith (noAttribute (typeName h o) name)

/-- Add an item to a list in place. -/
def append (a : Nat) (x : Obj) : Run Unit :=
  modifyCell a fun c => match c with
    | .list xs => .list (xs.push x)
    | c => c

/-- Add the key and value to a dict in place, or replace the value of an equal key. -/
def putEntry (a : Nat) (k v : Obj) : Run Unit := do
  let es ← match ← cell a with
    | .dict es => pure es
    | _ => pure #[]
  match ← lift ((← heap).keyIndex es k) with
  | some j => modifyCell a fun c => match c with
    | .dict es => .dict (es.modify j fun (k', _) => (k', v))
    | c => c
  | none => modifyCell a fun c => match c with
    | .dict es => .dict (es.push (k, v))
    | c => c

/-- Add a member to a set in place when it is not one already. -/
def putMember (a : Nat) (x : Obj) : Run Unit := do
  match ← cell a with
  | .set t frozen => setCell a (.set (← lift ((← heap).setAdd t x)) frozen)
  | _ => pure ()

/-- The pair a dict is built from: a sequence of exactly two items. -/
def pairOf (i : Nat) (items : Option (List Obj)) : Run (Obj × Obj) := do
  match items with
  | some [k, v] => pure (k, v)
  | some xs => failWith (.runtimeText .valueError ("dictionary update sequence element #" ++
      toString i ++ " has length " ++ toString xs.length ++ "; 2 is required"))
  | none => typeFail ("cannot convert dictionary update sequence element #" ++ toString i ++
      " to a sequence")

/-- The name a call's failures give the object called: a function or class of the body by
its module and qualified name, a builtin by its name, a method by its class and name. -/
def functionText (f : Obj) : Run String := do
  let h ← heap
  let ofRef (o : Obj) : String := match o with
    | .ref a => match h.cell a with
      | .func fn => bodyModule ++ "." ++ fn.qualname ++ "()"
      | .cls k => bodyModule ++ "." ++ k.qualname ++ "()"
      | _ => typeName h o ++ "()"
    | o => typeName h o ++ "()"
  match f with
  | .builtin b => pure (b ++ "()")
  | .cls c => pure (c ++ "()")
  | .bound _ g _ => pure (ofRef g)
  | .method (.cls c) m _ => pure (c ++ "." ++ m ++ "()")
  | .method r m _ => pure (typeName h r ++ "." ++ m ++ "()")
  | o => pure (ofRef o)

/-- The keyword arguments of a call with the entries of a mapping spread into them: string
keys only, none given twice; `callee` names the object called. -/
def spreadKeywords (callee : Obj) (kwargs : List (String × Obj)) (m : Obj) :
    Run (List (String × Obj)) := do
  match m with
  | .ref a => match ← cell a with
    | .dict es => do
      let mut out := kwargs
      for (k, v) in es do
        match k with
        | .scalar (.str s) _ =>
          if out.any (·.1 == s) then
            typeFail ((← functionText callee) ++ " got multiple values for keyword argument '" ++
              s ++ "'")
          out := out ++ [(s, v)]
        | _ => typeFail "keywords must be strings"
      pure out
    | _ => typeFail ((← functionText callee) ++ " argument after ** must be a mapping, not " ++
        (← typeOf m))
  | _ => typeFail ((← functionText callee) ++ " argument after ** must be a mapping, not " ++
      (← typeOf m))

/-- A new scope in the heap, by address. -/
def allocScope (s : Scope) : Run Nat := do
  match ← alloc (.scope s) with
  | .ref a => pure a
  | _ => pure 0

/-- A new scope for a comprehension: its own names are the targets of its `for` clauses;
the names it binds by `:=` belong to the scope around it. -/
def compScope (item : Expr) (clauses : List Clause) : Run Nat := do
  let targets := clauses.flatMap fun c => match c with
    | .forIn t _ => Expr.targetNames analysisFuel t
    | .cond _ => []
  let walrus := (item :: clauses.flatMap Clause.parts).flatMap (Expr.walrusNames analysisFuel)
  allocScope {
    kind := .comprehension, locals := targets.eraseDups, nonlocals := walrus.eraseDups,
    parent := ← enclosing }

/-- Keep an item yielded by the running generator function. -/
def yieldItem (x : Obj) : Run Unit := do
  let m ← get
  match m.yielded with
  | items :: rest =>
    if items.length ≥ yieldLimit then throw unsupported
    set { m with yielded := (x :: items) :: rest }
  | [] => throw unsupported

/-- The name of an attribute given as an object: it must be a string. -/
def attrName (o : Obj) : Run String := do
  match o with
  | .scalar (.str s) _ => pure s
  | _ => typeFail ("attribute name must be string, not '" ++ (← typeOf o) ++ "'")

/-- Names written as the runtime lists them in a message: quoted, the last two joined by
"and", a comma before the "and" when there are more. -/
def quotedNames (ns : List String) : String :=
  let qs := ns.map fun n => "'" ++ n ++ "'"
  match qs with
  | [] => ""
  | [a] => a
  | [a, b] => a ++ " and " ++ b
  | _ => ", ".intercalate qs.dropLast ++ ", and " ++ qs.getLastD ""

/-- "s" for a count other than one. -/
def plural (n : Nat) : String := if n == 1 then "" else "s"

/-- Arguments bound to the parameters of a function, as the runtime binds them: positional
arguments fill the parameters that take them in order, the extra ones gathered or refused;
keywords then fill parameters by name (never those only by position), unknown ones gathered
or refused; defaults fill the rest, and a parameter left without a value is missing. A
keyword is checked before the count of positional arguments, and that before the missing
ones. Each refusal names the function by its qualified name. The bindings come in the order
of the parameters. -/
def bindSignature (qualname : String) (params : List (String × ParamRole × Option Obj))
    (args : List Obj) (kwargs : List (String × Obj)) : Run (List (String × Obj)) := do
  let positional := params.filter fun (_, r, _) => r == .positionalOnly || r == .plain
  let gather := params.find? fun (_, r, _) => r == .gather
  let gatherKw := params.find? fun (_, r, _) => r == .gatherKeywords
  let mut filled : List (String × Obj) :=
    (positional.zip args).map fun ((p, _, _), a) => (p, a)
  let mut extraKw : List (String × Obj) := []
  for (k, v) in kwargs do
    match params.find? fun (p, r, _) => p == k && (r == .plain || r == .keywordOnly) with
    | some _ =>
      if filled.any (·.1 == k) then
        typeFail (qualname ++ "() got multiple values for argument '" ++ k ++ "'")
      filled := filled ++ [(k, v)]
    | none =>
      if gatherKw.isSome then extraKw := extraKw ++ [(k, v)]
      else if params.any fun (p, r, _) => p == k && r == .positionalOnly then
        typeFail (qualname ++ "() got some positional-only arguments passed as keyword " ++
          "arguments: '" ++ k ++ "'")
      else typeFail (qualname ++ "() got an unexpected keyword argument '" ++ k ++ "'")
  let given := args.length
  if given > positional.length && gather.isNone then
    let defaults := (positional.filter fun (_, _, d) => d.isSome).length
    let count := positional.length
    let takes := if defaults > 0 then "from " ++ toString (count - defaults) ++ " to " ++ toString count
      else toString count
    let many := defaults > 0 || count != 1
    let kwGiven := (params.filter fun (p, r, _) => r == .keywordOnly && filled.any (·.1 == p)).length
    let kwText := if kwGiven > 0 then
        " positional argument" ++ plural given ++ " (and " ++ toString kwGiven ++
          " keyword-only argument" ++ plural kwGiven ++ ")"
      else ""
    typeFail (qualname ++ "() takes " ++ takes ++ " positional argument" ++
      (if many then "s" else "") ++ " but " ++ toString given ++ kwText ++
      (if given == 1 && kwGiven == 0 then " was" else " were") ++ " given")
  let missing := positional.filterMap fun (p, _, d) =>
    if d.isNone && !filled.any (·.1 == p) then some p else none
  if !missing.isEmpty then
    typeFail (qualname ++ "() missing " ++ toString missing.length ++
      " required positional argument" ++ plural missing.length ++ ": " ++ quotedNames missing)
  let missingKw := params.filterMap fun (p, r, d) =>
    if r == .keywordOnly && d.isNone && !filled.any (·.1 == p) then some p else none
  if !missingKw.isEmpty then
    typeFail (qualname ++ "() missing " ++ toString missingKw.length ++
      " required keyword-only argument" ++ plural missingKw.length ++ ": " ++ quotedNames missingKw)
  let mut out : List (String × Obj) := []
  for (p, r, d) in params do
    match r with
    | .gather => out := out ++ [(p, ← tuple (args.drop positional.length))]
    | .gatherKeywords => do
      let entries ← extraKw.mapM fun (k, v) => do pure (← str k, v)
      out := out ++ [(p, ← alloc (.dict entries.toArray))]
    | _ => match bound? filled p, d with
      | some v, _ => out := out ++ [(p, v)]
      | none, some v => out := out ++ [(p, v)]
      | none, none => pure ()
  pure out

/-- Unpack items into targets, one of which may be starred to take the items between those
before it and those after it. -/
def unpackCounts (targets : List Expr) (n : Nat) : Run (Option Nat) := do
  match targets.findIdx? (· matches .star _) with
  | none =>
    if n > targets.length then
      failWith (.runtimeText .valueError ("too many values to unpack (expected " ++
        toString targets.length ++ ")"))
    else if n < targets.length then
      failWith (.runtimeText .valueError ("not enough values to unpack (expected " ++
        toString targets.length ++ ", got " ++ toString n ++ ")"))
    else pure none
  | some i =>
    if n + 1 < targets.length then
      failWith (.runtimeText .valueError ("not enough values to unpack (expected at least " ++
        toString (targets.length - 1) ++ ", got " ++ toString n ++ ")"))
    else pure (some i)

end Run

/-- The hooks an operator looks for on its left operand, and reflected on its right one. -/
def BinOp.hooks : BinOp → String × String
  | .add => ("__add__", "__radd__")
  | .sub => ("__sub__", "__rsub__")
  | .mul => ("__mul__", "__rmul__")
  | .div => ("__truediv__", "__rtruediv__")
  | .floorDiv => ("__floordiv__", "__rfloordiv__")
  | .mod => ("__mod__", "__rmod__")
  | .pow => ("__pow__", "__rpow__")
  | .matMul => ("__matmul__", "__rmatmul__")
  | .bitOr => ("__or__", "__ror__")
  | .bitXor => ("__xor__", "__rxor__")
  | .bitAnd => ("__and__", "__rand__")
  | .shiftLeft => ("__lshift__", "__rlshift__")
  | .shiftRight => ("__rshift__", "__rrshift__")

/-- The hooks a comparison looks for on its left operand, and reflected on its right one. -/
def Rel.hooks? : Rel → Option (String × String)
  | .cmp .eq => some ("__eq__", "__eq__")
  | .ne => some ("__ne__", "__ne__")
  | .cmp .lt => some ("__lt__", "__gt__")
  | .cmp .le => some ("__le__", "__ge__")
  | .cmp .gt => some ("__gt__", "__lt__")
  | .cmp .ge => some ("__ge__", "__le__")
  | _ => none

/-- The failure of a strict walk of iterators whose argument at a place (from zero) ended
before the ones in front of it, or gave an item after the first ended. -/
def zipMismatch (i : Nat) (longer : Bool) : Failure :=
  .runtimeText .valueError ("zip() argument " ++ toString (i + 1) ++ " is " ++
    (if longer then "longer" else "shorter") ++ " than argument" ++
    (if i == 1 then " " else "s 1-") ++ toString i)

/-- The hash of an object whose class's hook gives an integer: the integer when it fits in
a signed word (minus one taken as minus two), else the integer's own hash. -/
def hookHash (i : Int) : Int :=
  if -(2 ^ (63 : Nat)) ≤ i && i < 2 ^ (63 : Nat) then fixHash i else intHash i

/-- How deep inside tuples, lists and dicts comparisons look for objects of classes of the
body. -/
def hookDepth : Nat := 16

/-- Whether comparing an object may call code of the body: it is an object of a class of the
body, or a tuple, list or dict holding one, looked for to a depth. -/
def Heap.mayCallHooks (h : Heap) : Nat → Obj → Bool
  | 0, _ => false
  | fuel + 1, o => match o with
    | .tuple xs _ => xs.any (h.mayCallHooks fuel)
    | .ref a => match h.cell a with
      | .inst .. => true
      | .list xs => xs.any (h.mayCallHooks fuel)
      | .dict es => es.any fun (_, v) => h.mayCallHooks fuel v
      | _ => false
    | _ => false

/-- The items of two tuples, or of two lists. -/
def sequencePair? (h : Heap) (a b : Obj) : Option (List Obj × List Obj) :=
  match a, b with
  | .tuple xs _, .tuple ys _ => some (xs, ys)
  | .ref x, .ref y => match h.cell x, h.cell y with
    | .list xs, .list ys => some (xs.toList, ys.toList)
    | _, _ => none
  | _, _ => none

/-- The hook of a unary operator. -/
def UnaryOp.hook? : UnaryOp → Option String
  | .neg => some "__neg__"
  | .pos => some "__pos__"
  | .invert => some "__invert__"
  | .not => none

mutual

/-- The object an expression evaluates to. -/
def eval : Nat → Expr → Run Obj
  | 0, _ => throw outOfFuel
  | n + 1, e => do
    match constValue? 64 e with
    | some v => pure (constObj (← Run.frame).unit v)
    | none =>
    match e with
    | .lit v => pure (constObj (← Run.frame).unit v)
    | .bytesLit bs =>
      if bs.length ≤ 1 then pure (.bytes bs .shared)
      else pure (.bytes bs (.const (← Run.frame).unit ("bytes " ++ Text.bytesRepr bs)))
    | .var x => Run.lookup x
    | .list items => do Run.list (← evalItems n items)
    | .tuple items => do Run.tuple (← evalItems n items)
    | .set items => do
      if items.length > 2 && items.all fun e => (constValue? 64 e).isSome then
        -- the constants make a frozen set, poured into a new set
        let frozen ← Run.constSet (← evalItems n items)
        Run.alloc (.set (← Run.lift ((← Run.heap).setOf (.table frozen none))) false)
      else
        -- the items before the first spread one are evaluated before any is added
        let big := items.length > 30
        let lead := if big then [] else items.takeWhile fun e => !(e matches .star _)
        let xs ← evalItems n lead
        let h ← Run.heap
        let t ← Run.lift (xs.foldlM (fun (acc : SetTable Obj) x => h.setAdd acc x) SetTable.empty)
        Run.alloc (.set (← fillSet n (items.drop lead.length) t) false)
    | .dict entries => do
      let d ← Run.alloc (.dict #[])
      evalEntries n d entries
      pure d
    | .star _ => throw unsupported
    | .unary op a => do unaryOp n op (← eval n a)
    | .binary op a b => do
      let x ← eval n a
      let y ← eval n b
      binaryOp n op x y
    | .conj a b => do
      let x ← eval n a
      if ← truth n x then eval n b else pure x
    | .disj a b => do
      let x ← eval n a
      if ← truth n x then pure x else eval n b
    | .compare first rels rest => do evalCompare n (← eval n first) rels rest
    | .cond test yes no => do
      if ← truth n (← eval n test) then eval n yes else eval n no
    | .index target key => do
      let t ← eval n target
      match key with
      | .slice lo hi st => do
        let lo ← evalOpt n lo
        let hi ← evalOpt n hi
        let st ← evalOpt n st
        Run.slice t lo hi st
      | .tuple items =>
        if items.any (· matches .slice ..) then do
          -- a tuple holding a slice keys nothing: the slice cannot be hashed, and no
          -- sequence is indexed by a tuple
          for e in items do
            match e with
            | .slice lo hi st => do
              discard <| evalOpt n lo
              discard <| evalOpt n hi
              discard <| evalOpt n st
            | e => discard <| eval n e
          match t with
          | .ref a => match ← Run.cell a with
            | .dict _ => Run.typeFail "unhashable type: 'slice'"
            | _ => itemOf n t (← Run.tuple [])
          | _ => itemOf n t (← Run.tuple [])
        else do itemOf n t (← eval n key)
      | _ => do itemOf n t (← eval n key)
    | .slice .. => throw unsupported
    | .attr target name => do
      let o ← eval n target
      match o, name with
      | .cls c, "status" => match serviceErrors.lookup c with
        | some code => Run.int code
        | none => getAttr n o name
      | _, _ => getAttr n o name
    | .call fn args => do
      let f ← eval n fn
      let (as, ks) ← evalArgs n f args
      call n f as ks
    | .joined parts => do
      -- a formatted string of one field is that field's text as it is
      if let [p@(.formatted ..)] := parts then return ← eval n p
      let mut out := ""
      for p in parts do
        out := out ++ (← textOf n (← eval n p) false)
      Run.str out
    | .formatted value conv spec => do
      let o ← eval n value
      let s ← match spec with
        | none => pure ""
        | some sp => do textOf n (← eval n sp) false
      -- a string written as it is, with no conversion or with `!s`, is itself
      if let .scalar (.str _) _ := o then
        if s.isEmpty && (conv.isNone || conv == some 's') then return o
      let v ← convertOf n conv o
      if let .scalar (.str _) _ := v then
        if s.isEmpty then return v
      Run.str (← formatOf n v s)
    | .comp kind item clauses _ => comprehension n kind item clauses
    | .lambda params body _ => do
      let ps ← evalDefaults n params
      let f ← Run.frame
      let locals := (params.map Param.name ++ Expr.walrusNames analysisFuel body).eraseDups
      let fn : Func := {
        name := "<lambda>", qualname := f.qualPrefix ++ "<lambda>", params := ps,
        code := .expr body, locals, globalNames := [], nonlocals := [],
        parent := ← Run.enclosing, unit := f.unit, generator := Expr.yields analysisFuel body }
      Run.alloc (.func fn)
    | .walrus x value => do
      let v ← eval n value
      Run.store x v
      pure v
    | .await a => do
      let o ← eval n a
      Run.typeFail ("object " ++ (← Run.typeOf o) ++ " can't be used in 'await' expression")
    | .yield e => do
      let v ← match e with
        | some e => eval n e
        | none => pure noneObj
      Run.yieldItem v
      pure noneObj
    | .yieldFrom e => do
      let items ← drain n (← eval n e)
      for x in items do Run.yieldItem x
      pure noneObj

/-- The parameters of a function with the objects of their defaults, evaluated where it is
made, in the order they are written. -/
def evalDefaults : Nat → List Param → Run (List (String × ParamRole × Option Obj))
  | 0, _ => throw outOfFuel
  | _ + 1, [] => pure []
  | n + 1, p :: rest => do
    let v ← match p.default with
      | none => pure none
      | some e => some <$> eval n e
    pure ((p.name, p.role, v) :: (← evalDefaults n rest))

/-- An optional expression's object. -/
def evalOpt : Nat → Option Expr → Run (Option Obj)
  | 0, _ => throw outOfFuel
  | _ + 1, none => pure none
  | n + 1, some e => some <$> eval n e

/-- The frozen set constant a display of constants is made into where it is iterated. -/
def frozenConst : Nat → List Expr → Run Obj
  | 0, _ => throw outOfFuel
  | n + 1, items => do Run.alloc (.set (← Run.constSet (← evalItems n items)) true)

/-- An iterable of a loop or comprehension: a set display of constants is a frozen set
constant. -/
def evalIterable : Nat → Expr → Run Obj
  | 0, _ => throw outOfFuel
  | n + 1, e => match constItems? e with
    | some items => frozenConst n items
    | none => eval n e

/-- The items of a set display after its first ones added to a table in order, spread
iterables giving all their members. -/
def fillSet : Nat → List Expr → SetTable Obj → Run (SetTable Obj)
  | 0, _, _ => throw outOfFuel
  | _ + 1, [], t => pure t
  | n + 1, .star e :: rest, t => do
    let src ← sourceOf n (← eval n e)
    fillSet n rest (← Run.lift ((← Run.heap).setUpdate t none src))
  | n + 1, e :: rest, t => do
    let x ← eval n e
    fillSet n rest (← Run.lift ((← Run.heap).setAdd t x))

/-- The items of a display, with iterables spread where they stand. -/
def evalItems : Nat → List Expr → Run (List Obj)
  | 0, _ => throw outOfFuel
  | _ + 1, [] => pure []
  | n + 1, .star e :: rest => do
    let xs ← drain n (← eval n e)
    pure (xs ++ (← evalItems n rest))
  | n + 1, e :: rest => do
    let x ← eval n e
    pure (x :: (← evalItems n rest))

/-- The entries of a dict display put into a dict, with mappings spread where they stand. -/
def evalEntries : Nat → Obj → List (Option Expr × Expr) → Run Unit
  | 0, _, _ => throw outOfFuel
  | _ + 1, _, [] => pure ()
  | n + 1, d, (some k, v) :: rest => do
    let key ← eval n k
    let value ← eval n v
    match d with
    | .ref a => Run.putEntry a key value
    | _ => pure ()
    evalEntries n d rest
  | n + 1, d, (none, m) :: rest => do
    let src ← eval n m
    match src with
    | .ref b => match ← Run.cell b with
      | .dict es => match d with
        | .ref a => for (k, v) in es do Run.putEntry a k v
        | _ => pure ()
      | _ => Run.typeFail ("'" ++ (← Run.typeOf src) ++ "' object is not a mapping")
    | _ => Run.typeFail ("'" ++ (← Run.typeOf src) ++ "' object is not a mapping")
    evalEntries n d rest

/-- The positional and keyword arguments of a call of an object, which the call's failures
name. -/
def evalArgs : Nat → Obj → List (ArgKind × Expr) → Run (List Obj × List (String × Obj))
  | 0, _, _ => throw outOfFuel
  | _ + 1, _, [] => pure ([], [])
  | n + 1, f, (k, e) :: rest => do
    let twice (name : String) : Run Unit := do
      Run.typeFail ((← Run.functionText f) ++ " got multiple values for keyword argument '" ++
        name ++ "'")
    match k with
    | .positional => do
      let x ← eval n e
      let (as, ks) ← evalArgs n f rest
      pure (x :: as, ks)
    | .spread => do
      let o ← eval n e
      let t ← Run.typeOf o
      let xs ← tryCatch (drain n o) fun err => match err with
        | .runtimeText .typeError m =>
          if m == "'" ++ t ++ "' object is not iterable" then do
            Run.typeFail ((← Run.functionText f) ++ " argument after * must be an iterable, not " ++ t)
          else throw err
        | err => throw err
      let (as, ks) ← evalArgs n f rest
      pure (xs ++ as, ks)
    | .keyword name => do
      let x ← eval n e
      let (as, ks) ← evalArgs n f rest
      if ks.any (·.1 == name) then twice name
      pure (as, (name, x) :: ks)
    | .spreadMap => do
      let m ← eval n e
      let ks0 ← Run.spreadKeywords f [] m
      let (as, ks) ← evalArgs n f rest
      for (name, _) in ks0 do
        if ks.any (·.1 == name) then twice name
      pure (as, ks0 ++ ks)

/-- A chain of comparisons from its left operand: false at the first that fails. -/
def evalCompare : Nat → Obj → List Rel → List Expr → Run Obj
  | 0, _, _, _ => throw outOfFuel
  | n + 1, left, r :: rels, e :: rest => do
    let right ← eval n e
    if ← relation n r left right then
      if rels.isEmpty then pure (Run.bool true) else evalCompare n right rels rest
    else pure (Run.bool false)
  | _ + 1, _, _, _ => pure (Run.bool true)

/-- A relation of two objects: identity, membership, or a comparison. -/
def relation : Nat → Rel → Obj → Obj → Run Bool
  | 0, _, _, _ => throw outOfFuel
  | n + 1, r, a, b => do
    match r with
    | .isSame => pure (a.identical b)
    | .notSame => pure !(a.identical b)
    | .isIn => membership n a b
    | .notIn => do pure !(← membership n a b)
    | r => compareObjs n r a b

/-- Whether a container holds an object: through its `__contains__` hook; by walking the
items of an object of a class of the body or of an iterator; item by item, each item's own
equality asked first, in a tuple or list when objects of classes of the body take part; and
as builtin containers find their members otherwise. -/
def membership : Nat → Obj → Obj → Run Bool
  | 0, _, _ => throw outOfFuel
  | n + 1, x, container => do
    if let some r ← callHook n container "__contains__" [x] then return ← truth n r
    if (← Run.instance? container).isSome then return ← findIn n (← iterOf n container) x
    let h ← Run.heap
    let isIter := match container with
      | .ref c => match h.cell c with
        | .iter _ => true
        | _ => false
      | _ => false
    if isIter then return ← findIn n container x
    let items := match container with
      | .tuple xs _ => some xs
      | .ref c => match h.cell c with
        | .list xs => some xs.toList
        | _ => none
      | _ => none
    match items with
    | some xs =>
      if h.mayCallHooks hookDepth x || xs.any (h.mayCallHooks hookDepth) then
        xs.anyM fun item => do
          if item.identical x then pure true else compareObjs n (.cmp .eq) item x
      else Run.contains container x
    | none => Run.contains container x

/-- Whether an iterator gives an object, taking its items up to it. -/
def findIn : Nat → Obj → Obj → Run Bool
  | 0, _, _ => throw outOfFuel
  | n + 1, it, o => do
    match ← next n it with
    | none => pure false
    | some x =>
      if x.identical o || (← compareObjs n (.cmp .eq) x o) then pure true
      else findIn n it o

/-- A comparison by `==`, `!=` or an order operator: through the hooks of objects of classes
of the body, and item by item for tuples, lists and dicts that hold such objects, as the
runtime compares its containers; other objects as builtin objects compare. -/
def compareObjs : Nat → Rel → Obj → Obj → Run Bool
  | 0, _, _, _ => throw outOfFuel
  | n + 1, r, a, b => do
    if let some t ← hookRelation? n r a b then return t
    let h ← Run.heap
    if !(h.mayCallHooks hookDepth a || h.mayCallHooks hookDepth b) then return ← Run.relate r a b
    let equality := r == .cmp .eq || r == .ne
    match sequencePair? h a b with
    | some (xs, ys) =>
      if equality && xs.length != ys.length then pure (r == .ne)
      else compareItems n r xs ys
    | none => match a, b with
      | .ref x, .ref y => match h.cell x, h.cell y with
        | .dict es, .dict fs =>
          if equality then do
            let same ← if es.size != fs.size then pure false else sameEntries n es.toList fs
            pure (if r == .ne then !same else same)
          else Run.relate r a b
        | _, _ => Run.relate r a b
      | _, _ => Run.relate r a b

/-- Sequences compared by a relation: by the first pair of items that are neither the same
object nor equal, else by their lengths. -/
def compareItems : Nat → Rel → List Obj → List Obj → Run Bool
  | 0, _, _, _ => throw outOfFuel
  | n + 1, r, x :: xs, y :: ys => do
    if x.identical y || (← compareObjs n (.cmp .eq) x y) then compareItems n r xs ys
    else match r with
      | .cmp .eq => pure false
      | .ne => pure true
      | r => compareObjs n r x y
  | _ + 1, r, xs, ys =>
    let ord := compare xs.length ys.length
    pure (match r with
      | .cmp op => op.holds ord
      | .ne => ord != .eq
      | _ => false)

/-- Whether every entry of a dict has an entry under its key among the other dict's entries,
with the same value or an equal one. -/
def sameEntries : Nat → List (Obj × Obj) → Array (Obj × Obj) → Run Bool
  | 0, _, _ => throw outOfFuel
  | _ + 1, [], _ => pure true
  | n + 1, (k, v) :: es, fs => do
    match ← Run.lift (findEntry (← Run.heap) depth fs.toList k 0) with
    | some i =>
      let w := (fs.getD i (k, v)).2
      if v.identical w || (← compareObjs n (.cmp .eq) v w) then sameEntries n es fs
      else pure false
    | none => pure false

/-- Call an object with arguments. -/
def call : Nat → Obj → List Obj → List (String × Obj) → Run Obj
  | 0, _, _, _ => throw outOfFuel
  | n + 1, f, args, kwargs => do
    match f with
    | .builtin name => callBuiltin n name args kwargs
    | .cls name => callClass n name args kwargs
    | .method recv name _ => callMethod n recv name args kwargs
    | .bound self fn _ => call n fn (self :: args) kwargs
    | .ref a => match ← Run.cell a with
      | .func fn => callFunc n fn args kwargs
      | .cls k => instantiate n f k args kwargs
      | .inst .. => match ← Run.hook? f "__call__" with
        | some (c, g) => call n (← Run.bindTo f c g) args kwargs
        | none => Run.typeFail ("'" ++ (← Run.typeOf f) ++ "' object is not callable")
      | _ => Run.typeFail ("'" ++ (← Run.typeOf f) ++ "' object is not callable")
    | _ => Run.typeFail ("'" ++ (← Run.typeOf f) ++ "' object is not callable")

/-- Call a function of the body: its arguments bound in a new scope, and its code run there;
a generator function gives a generator, which runs the code when first asked for an item. -/
def callFunc : Nat → Func → List Obj → List (String × Obj) → Run Obj
  | 0, _, _, _ => throw outOfFuel
  | n + 1, fn, args, kwargs => do
    let vars ← Run.bindSignature fn.qualname fn.params args kwargs
    let sc ← Run.allocScope {
      kind := .function, vars, locals := fn.locals,
      globalNames := fn.globalNames, nonlocals := fn.nonlocals, parent := fn.parent }
    if fn.generator then Run.alloc (.iter (.paused fn sc)) else runFunc n ⟨fn, sc⟩

/-- Run a function's code in its scope, within the limit of calls running at once: the
value of a `lambda`'s expression, or what a `def`'s statements return (none when they run
off their end). -/
def runFunc : Nat → Activation → Run Obj
  | 0, _ => throw outOfFuel
  | n + 1, ⟨fn, sc⟩ => do
    let m ← get
    if m.calls ≥ callLimit then
      Run.failWith (.runtimeText .recursionError "maximum recursion depth exceeded")
    set { m with calls := m.calls + 1 }
    let method := match fn.owner, fn.params.head? with
      | some c, some (p, _, _) => some (c, p)
      | _, _ => none
    let frame : Frame := { scope := some sc, unit := fn.unit,
                           qualPrefix := fn.qualname ++ ".<locals>.", method }
    let step : Run Obj := match fn.code with
      | .expr e => eval n e
      | .block ss => do
        match ← exec n ss with
        | .ret o => pure o
        | _ => pure noneObj
    let r ← tryCatch (Run.within frame step) fun e => do
      modify fun m => { m with calls := m.calls - 1 }
      throw e
    modify fun m => { m with calls := m.calls - 1 }
    pure r.1

/-- Run a generator function's body to its end, keeping what it yields: the items in order,
and the failure that ended it, if any; a stop of iteration raised inside it becomes a
runtime error. -/
def runGenerator : Nat → Activation → Run (List Obj × Option Failure)
  | 0, _ => throw outOfFuel
  | n + 1, act => do
    modify fun m => { m with yielded := [] :: m.yielded }
    let outcome : Option Failure ← tryCatch (do discard <| runFunc n act; pure none)
      fun e => pure (some e)
    let m ← get
    let items := (m.yielded.headD []).reverse
    set { m with yielded := m.yielded.drop 1 }
    let ending := outcome.map fun e =>
      if e.runtimeKind? == some .stopIteration then
        .runtimeText .runtimeError "generator raised StopIteration"
      else e
    match ending with
    | some e => if catchable e then pure (items, some e) else throw e
    | none => pure (items, none)

/-- The key of an item for sorting and extremes: the item, or what the key function gives. -/
def keyOf : Nat → Option Obj → Obj → Run Obj
  | 0, _, _ => throw outOfFuel
  | _ + 1, none, x => pure x
  | _ + 1, some (.scalar .none _), x => pure x
  | n + 1, some f, x => call n f [x] []

/-- The keys of items. -/
def keysOf : Nat → Option Obj → List Obj → Run (List Obj)
  | 0, _, _ => throw outOfFuel
  | _ + 1, _, [] => pure []
  | n + 1, key, x :: xs => do
    let k ← keyOf n key x
    pure (k :: (← keysOf n key xs))

/-- Items sorted stably by their keys, largest first when reversed with equal items kept in
their order. -/
def sortItems : Nat → Option Obj → Bool → List Obj → Run (List Obj)
  | 0, _, _, _ => throw outOfFuel
  | n + 1, key, rev, items => do
    let keys ← keysOf n key items
    let pairs := keys.zip items
    let pairs := if rev then pairs.reverse else pairs
    let h ← Run.heap
    let sorted ← if keys.any (h.mayCallHooks hookDepth) then
        Sorting.sortBy (fun (a b : Obj × Obj) => compareObjs n (.cmp .lt) a.1 b.1) pairs
      else Run.lift (Sorting.sortBy (fun (a b : Obj × Obj) => order h depth .lt a.1 b.1) pairs)
    let sorted := if rev then sorted.reverse else sorted
    pure (sorted.map (·.2))

/-- The first of the largest (or smallest) items by their keys. -/
def extreme : Nat → Option Obj → CmpOp → Obj × Obj → List Obj → Run Obj
  | 0, _, _, _, _ => throw outOfFuel
  | _ + 1, _, _, (best, _), [] => pure best
  | n + 1, key, op, (best, bestKey), x :: xs => do
    let k ← keyOf n key x
    if ← compareObjs n (.cmp op) k bestKey then extreme n key op (x, k) xs
    else extreme n key op (best, bestKey) xs

/-- `any` or `all` of an iterator's items, taken until the answer is known. -/
def anyAll : Nat → Bool → Obj → Run Bool
  | 0, _, _ => throw outOfFuel
  | n + 1, wanted, it => do
    match ← next n it with
    | none => pure !wanted
    | some x => if (← truth n x) == wanted then pure wanted else anyAll n wanted it

/-- A builtin function called with arguments. -/
def callBuiltin : Nat → String → List Obj → List (String × Obj) → Run Obj
  | 0, _, _, _ => throw outOfFuel
  | n + 1, name, args, kwargs => do
    match name with
    | "iter" => do
      if !kwargs.isEmpty then Run.typeFail "iter() takes no keyword arguments"
      match args with
      | [] => Run.typeFail "iter expected at least 1 argument, got 0"
      | [o] => iterOf n o
      | [_, _] => throw unsupported
      | _ => Run.typeFail ("iter expected at most 2 arguments, got " ++ toString args.length)
    | "next" => do
      if !kwargs.isEmpty then Run.typeFail "next() takes no keyword arguments"
      let (it, d) ← match args with
        | [it] => pure (it, none)
        | [it, d] => pure (it, some d)
        | _ => Run.typeFail ("next expected at least 1 argument, got " ++ toString args.length)
      let h ← Run.heap
      let isIter := match it with
        | .ref a => match h.cell a with
          | .iter _ => true
          | _ => false
        | _ => false
      if !isIter then Run.typeFail ("'" ++ (← Run.typeOf it) ++ "' object is not an iterator")
      match ← next n it with
      | some x => pure x
      | none => match d with
        | some d => pure d
        | none => Run.raise .stopIteration
    | "sorted" => do
      -- the iterable is counted first, then the keywords are read as the list's sort reads them
      let ps ← Run.bindArgs .counted "sorted" "sorted" ["iterable"] 1 args []
      let ks ← Run.bindArgs (.named 0 0) "sort" "sort" ["key", "reverse"] 0 [] kwargs
      let items ← drain n (Run.req ps 0)
      let rev ← match ks.getD 1 none with
        | some r => Run.flagArg r
        | none => pure false
      Run.list (← sortItems n (ks.getD 0 none) rev items)
    | "min" | "max" => do
      if args.isEmpty then Run.typeFail (name ++ " expected at least 1 argument, got 0")
      for (k, _) in kwargs do
        if k != "key" && k != "default" then
          Run.typeFail ("'" ++ k ++ "' is an invalid keyword argument for " ++ name ++ "()")
      let key := bound? kwargs "key"
      let dflt := bound? kwargs "default"
      let items ← match args with
        | [] => Run.typeFail (name ++ " expected at least 1 argument, got 0")
        | [o] => drain n o
        | xs => do
          if dflt.isSome then
            Run.typeFail ("Cannot specify a default for " ++ name ++ "() with multiple positional arguments")
          pure xs
      match items with
      | [] => match dflt with
        | some d => pure d
        | none => Run.failWith (.runtimeText .valueError (name ++ "() arg is an empty sequence"))
      | x :: xs => do
        let k ← keyOf n key x
        extreme n key (if name == "max" then .gt else .lt) (x, k) xs
    | "sum" => do
      let ps ← Run.bindArgs (.named 1 2) "sum" "sum" ["iterable", "start"] 1 args kwargs
      let start ← match ps.getD 1 none with
        | none => Run.int 0
        | some s => match s with
          | .scalar (.str _) _ => Run.typeFail "sum() can't sum strings [use ''.join(seq) instead]"
          | s => pure s
      let items ← drain n (Run.req ps 0)
      if items.isEmpty then
        -- a start that fits a machine word is summed as a number, which makes a new object
        match start with
        | .scalar (.int i) _ => if -2 ^ (63 : Nat) ≤ i && i < 2 ^ (63 : Nat) then return ← Run.int i
        | .scalar (.float x) _ => return ← Run.float x
        | _ => pure ()
      items.foldlM (fun acc x => binaryOp n .add acc x) start
    | "any" | "all" => do
      let ps ← Run.bindArgs .single name name ["iterable"] 1 args kwargs
      let it ← iterOf n (Run.req ps 0)
      pure (Run.bool (← anyAll n (name == "any") it))
    | "repr" => do
      let ps ← Run.bindArgs .single "repr" "repr" ["obj"] 1 args kwargs
      Run.str (← textOf n (Run.req ps 0) true)
    | "ascii" => do
      let ps ← Run.bindArgs .single "ascii" "ascii" ["obj"] 1 args kwargs
      Run.str (asciiEscaped (← textOf n (Run.req ps 0) true))
    | "format" => do
      let ps ← Run.bindArgs .counted "format" "format" ["value", "format_spec"] 1 args kwargs
      let spec ← match ps.getD 1 none with
        | none => pure ""
        | some (.scalar (.str s) _) => pure s
        | some x => Run.typeFail ("format() argument 2 must be str, not " ++ (← Run.argClassText x))
      Run.str (← formatOf n (Run.req ps 0) spec)
    | "abs" => do
      let hooked ← match args, kwargs with
        | [o], [] => callHook n o "__abs__" []
        | _, _ => pure none
      match hooked with
      | some r => pure r
      | none => (← Run.simpleBuiltin name args kwargs).getDM (throw unsupported)
    | "hash" => do
      let hooked ← match args, kwargs with
        | [o], [] => Run.hook? o "__hash__"
        | _, _ => pure none
      match hooked, args with
      | some (_, .scalar .none _), [o] =>
        Run.typeFail ("unhashable type: '" ++ (← Run.typeOf o) ++ "'")
      | some (c, f), [o] => do
        let r ← call n (← Run.bindTo o c f) [] []
        match r.int? with
        | some i => Run.int (hookHash i)
        | none => Run.typeFail "__hash__ method should return an integer"
      | _, _ => (← Run.simpleBuiltin name args kwargs).getDM (throw unsupported)
    | "len" => do
      let ps ← Run.bindArgs .single "len" "len" ["obj"] 1 args kwargs
      match ← callHook n (Run.req ps 0) "__len__" [] with
      | some r => do
        let k ← Run.intArg r
        if k < 0 then Run.failWith (.runtimeText .valueError "__len__() should return >= 0")
        pure r
      | none => Run.int (← Run.lengthOf (Run.req ps 0))
    | "getattr" => do
      if !kwargs.isEmpty then Run.typeFail "getattr() takes no keyword arguments"
      match args with
      | [o, nm] => getAttr n o (← Run.attrName nm)
      | [o, nm, d] => do
        let x ← Run.attrName nm
        tryCatch (getAttr n o x) fun f =>
          if f.runtimeKind? == some .attributeError then pure d else throw f
      | _ => Run.typeFail ("getattr expected at least 2 arguments, got " ++ toString args.length)
    | "hasattr" => do
      let ps ← Run.bindArgs .counted "hasattr" "hasattr" ["obj", "name"] 2 args kwargs
      let x ← Run.attrName (Run.req ps 1)
      tryCatch (do discard <| getAttr n (Run.req ps 0) x; pure (Run.bool true)) fun f =>
        if f.runtimeKind? == some .attributeError then pure (Run.bool false) else throw f
    | "setattr" => do
      if !kwargs.isEmpty then Run.typeFail "setattr() takes no keyword arguments"
      match args with
      | [o, nm, v] => do
        setAttr n o (← Run.attrName nm) v
        pure noneObj
      | _ => Run.typeFail ("setattr expected 3 arguments, got " ++ toString args.length)
    | "delattr" => do
      if !kwargs.isEmpty then Run.typeFail "delattr() takes no keyword arguments"
      match args with
      | [o, nm] => do
        delAttr n o (← Run.attrName nm)
        pure noneObj
      | _ => Run.typeFail ("delattr expected 2 arguments, got " ++ toString args.length)
    | "vars" => do
      if !kwargs.isEmpty then Run.typeFail "vars() takes no keyword arguments"
      match args with
      | [o] => match ← Run.instance? o with
        | some _ => getAttr n o "__dict__"
        | none => throw unsupported
      | [] => throw unsupported
      | _ => Run.typeFail ("vars expected at most 1 argument, got " ++ toString args.length)
    | "property.setter" => do
      match args with
      | [.ref p, f] => match ← Run.cell p with
        | .wrapper .property g _ => Run.alloc (.wrapper .property g (some f))
        | _ => throw unsupported
      | _ => throw unsupported
    | "BaseException.__init__" => do
      match args with
      | self@(.ref a) :: rest => do
        let t ← Run.tuple rest
        Run.modifyCell a fun c => match c with
          | .inst k attrs => .inst k (bindName attrs "args" t)
          | c => c
        pure noneObj
      | _ => throw unsupported
    | "object.__init__" => do
      match args with
      | [_] => pure noneObj
      | _ => Run.typeFail "object.__init__() takes exactly one argument (the instance to initialize)"
    | "math.prod" => do
      let ps ← Run.bindArgs (.named 1 1) "prod" "prod" ["iterable", "start"] 1 args kwargs
      if args.length > 1 then Run.typeFail ("prod() takes exactly 1 positional argument (" ++
        toString args.length ++ " given)")
      let items ← drain n (Run.req ps 0)
      let start ← match ps.getD 1 none with
        | some s => pure s
        | none => Run.int 1
      items.foldlM (fun acc x => binaryOp n .mul acc x) start
    | "math.fsum" => do
      if !kwargs.isEmpty then Run.typeFail "math.fsum() takes no keyword arguments"
      match args with
      | [it] => do
        let items ← drain n it
        let mut total : FloatSum := {}
        for x in items do
          total ← Run.lift (total.add (← Run.realArg x))
        Run.float (← Run.lift total.total)
      | _ => Run.typeFail ("math.fsum() takes exactly one argument (" ++
          toString args.length ++ " given)")
    | "math.dist" => do
      if !kwargs.isEmpty then Run.typeFail "math.dist() takes no keyword arguments"
      match args with
      | [p, q] => do
        let ps ← drain n p
        let qs ← drain n q
        if ps.length != qs.length then
          Run.failWith (.runtimeText .valueError
            "both points must have the same number of dimensions")
        let ds ← (ps.zip qs).mapM fun (a, b) => do
          let x ← Run.realArg a
          let y ← Run.realArg b
          pure (x - y).abs
        Run.float (vectorNorm ds)
      | _ => Run.typeFail ("dist expected 2 arguments, got " ++ toString args.length)
    | _ =>
      if name.startsWith "math." then Run.mathCall (name.drop 5).toString args kwargs
      else match ← Run.simpleBuiltin name args kwargs with
        | some o => pure o
        | none => throw unsupported

/-- A builtin class called with arguments: a new object of the class. -/
def callClass : Nat → String → List Obj → List (String × Obj) → Run Obj
  | 0, _, _, _ => throw outOfFuel
  | n + 1, name, args, kwargs => do
    match name with
    | "object" => do
      if !args.isEmpty || !kwargs.isEmpty then Run.typeFail "object() takes no arguments"
      Run.alloc .bare
    | "list" => do
      let ps ← Run.bindArgs .counted "list" "list" ["iterable"] 0 args kwargs
      match ps.getD 0 none with
      | none => Run.list []
      | some o => Run.list (← drain n o)
    | "tuple" => do
      let ps ← Run.bindArgs .counted "tuple" "tuple" ["iterable"] 0 args kwargs
      match ps.getD 0 none with
      | none => Run.tuple []
      | some (.tuple xs o) => pure (.tuple xs o)
      | some o => Run.tuple (← drain n o)
    | "set" | "frozenset" => do
      let frozen := name == "frozenset"
      let ps ← Run.bindArgs .counted name name ["iterable"] 0 args kwargs
      match ps.getD 0 none with
      | none => Run.alloc (.set SetTable.empty frozen)
      | some o => do
        let given ← match o with
          | .ref a => do pure (match ← Run.cell a with
            | .set _ true => frozen
            | _ => false)
          | _ => pure false
        if given then pure o
        else do
          let src ← sourceOf n o
          Run.alloc (.set (← Run.lift ((← Run.heap).setOf src)) frozen)
    | "dict" => do
      let d ← Run.alloc (.dict #[])
      match args with
      | [] => pure ()
      | [src] => updateDict n d src
      | _ => Run.typeFail ("dict expected at most 1 argument, got " ++ toString args.length)
      match d with
      | .ref a => for (k, v) in kwargs do
          Run.putEntry a (← Run.str k) v
      | _ => pure ()
      pure d
    | "enumerate" => do
      if args.isEmpty && kwargs.isEmpty then
        Run.typeFail "enumerate() missing required argument 'iterable'"
      let ps ← Run.bindArgs (.named 0 2) "enumerate" "enumerate" ["iterable", "start"] 1 args kwargs
      let it ← iterOf n (Run.req ps 0)
      let start ← Run.intArgOr (ps.getD 1 none) 0
      Run.alloc (.iter (.enumerate it start))
    | "zip" => do
      for (k, _) in kwargs do
        if k != "strict" then Run.typeFail ("'" ++ k ++ "' is an invalid keyword argument for zip()")
      let strict ← match bound? kwargs "strict" with
        | some v => truth n v
        | none => pure false
      let its ← args.mapM (iterOf n)
      Run.alloc (.iter (.zip its strict))
    | "map" => do
      if !kwargs.isEmpty then Run.typeFail "map() takes no keyword arguments"
      match args with
      | f :: srcs@(_ :: _) => do
        let its ← srcs.mapM (iterOf n)
        Run.alloc (.iter (.map f its))
      | _ => Run.typeFail "map() must have at least two arguments."
    | "filter" => do
      if !kwargs.isEmpty then Run.typeFail "filter() takes no keyword arguments"
      match args with
      | [f, src] => do
        let it ← iterOf n src
        Run.alloc (.iter (.filter f it))
      | _ => Run.typeFail ("filter expected 2 arguments, got " ++ toString args.length)
    | "reversed" => do
      let ps ← Run.bindArgs .counted "reversed" "reversed" ["sequence"] 1 args kwargs
      let o := Run.req ps 0
      match o with
      | .ref a => match ← Run.cell a with
        | .list xs => Run.alloc (.iter (.rev o xs.size))
        | .dict es => Run.alloc (.iter (.dictBack a .keys es.size es.size))
        | .view k d => match ← Run.cell d with
          | .dict es => Run.alloc (.iter (.dictBack d k es.size es.size))
          | _ => Run.alloc (.iter (.items []))
        | _ => Run.typeFail ("'" ++ (← Run.typeOf o) ++ "' object is not reversible")
      | .tuple .. | .range .. | .scalar (.str _) _ => do
        match ← Run.itemsNow? o with
        | some xs => Run.alloc (.iter (.items xs.reverse))
        | none => throw unsupported
      | _ => Run.typeFail ("'" ++ (← Run.typeOf o) ++ "' object is not reversible")
    | "str" => do
      match args, kwargs with
      | [o], [] => match o with
        | .scalar (.str _) _ => pure o
        | .scalar (.int _) _ => do pure (.scalar (.str (← textOf n o false)) (← Run.fresh))
        | .scalar .none _ | .scalar (.bool _) _ => do
          pure (.scalar (.str (← textOf n o false)) .shared)
        | _ => do Run.str (← textOf n o false)
      | _, _ => (← Run.simpleClass name args kwargs).getDM (throw unsupported)
    | "bool" => do
      match args, kwargs with
      | [o], [] => pure (Run.bool (← truth n o))
      | _, _ => (← Run.simpleClass name args kwargs).getDM (throw unsupported)
    | "super" => do
      if !kwargs.isEmpty then Run.typeFail "super() takes no keyword arguments"
      match args with
      | [] => match (← Run.frame).method with
        | some (c, selfName) => do pure (.proxy (.ref c) (← Run.lookup selfName) (← Run.fresh))
        | none => Run.failWith (.runtimeText .runtimeError "super(): no arguments")
      | [cls, self] => do pure (.proxy cls self (← Run.fresh))
      | _ => throw unsupported
    | "staticmethod" | "classmethod" => do
      match args, kwargs with
      | [f], [] =>
        Run.alloc (.wrapper (if name == "staticmethod" then .staticMethod else .classMethod) f none)
      | _, [] => Run.typeFail (name ++ " expected 1 argument, got " ++ toString args.length)
      | _, _ => Run.typeFail (name ++ "() takes no keyword arguments")
    | "property" => do
      let ps ← Run.bindArgs (.named 0 4) "property" "property" ["fget", "fset", "fdel", "doc"] 0
        args kwargs
      let getter := (ps.getD 0 none).getD noneObj
      Run.alloc (.wrapper .property getter (ps.getD 1 none))
    | _ => match ← Run.simpleClass name args kwargs with
      | some o => pure o
      | none => match ← Run.timeClass? name args kwargs with
        | some o => pure o
        | none => throw unsupported

/-- Put the entries of a mapping, or the pairs of an iterable, into a dict. -/
def updateDict : Nat → Obj → Obj → Run Unit
  | 0, _, _ => throw outOfFuel
  | n + 1, d, src => do
    let a := match d with
      | .ref a => a
      | _ => 0
    match src with
    | .ref b => match ← Run.cell b with
      | .dict es => do
        for (k, v) in es do Run.putEntry a k v
        return
      | _ => pure ()
    | _ => pure ()
    let items ← drain n src
    let mut i := 0
    for x in items do
      let parts ← match x with
        | .scalar (.str _) _ => Run.itemsNow? x
        | _ => do
          match ← Run.itemsNow? x with
          | some ps => pure (some ps)
          | none => match x with
            | .ref c => match ← Run.cell c with
              | .iter _ => some <$> drain n x
              | _ => pure none
            | _ => pure none
      let (k, v) ← Run.pairOf i parts
      Run.putEntry a k v
      i := i + 1

/-- A method of an object called with arguments. -/
def callMethod : Nat → Obj → String → List Obj → List (String × Obj) → Run Obj
  | 0, _, _, _, _ => throw outOfFuel
  | n + 1, recv, name, args, kwargs => do
    match recv with
    | .scalar (.str s) _ =>
      if name == "join" then do
        let ps ← Run.bindArgs .single "join" "str.join" ["iterable"] 1 args kwargs
        let it ← tryCatch (iterOf n (Run.req ps 0)) fun e =>
          if e.runtimeKind? == some .typeError then Run.typeFail "can only join an iterable"
          else throw e
        let items ← drain n it
        let mut parts : List String := []
        let mut i := 0
        for x in items do
          match x with
          | .scalar (.str t) _ => parts := parts ++ [t]
          | _ => Run.typeFail ("sequence item " ++ toString i ++ ": expected str instance, " ++
              (← Run.typeOf x) ++ " found")
          i := i + 1
        -- a single string joins to itself
        if let [x@(.scalar (.str _) _)] := items then return x
        let out := s.intercalate parts
        if out.length > maxChars then throw (.runtime (.other "MemoryError"))
        Run.str out
      else if name == "format" then Run.formatFields (writers n) s args kwargs
      else if name == "format_map" then Run.formatMapped (writers n) s args kwargs
      else Run.strMethod recv s name args kwargs
    | .scalar v _ => Run.scalarMethod v name args kwargs
    | .duration us _ => Run.spanMethod us name args kwargs
    | .tuple xs _ => Run.sequenceMethod xs "tuple" name args kwargs
    | .range a b s _ =>
      if rangeLength a b s > 100000 then throw unsupported
      else do
        match ← Run.itemsNow? recv with
        | some xs => Run.sequenceMethod xs "range" name args kwargs
        | none => throw unsupported
    | .ref a => match ← Run.cell a with
      | .list _ =>
        if name == "extend" then do
          let ps ← Run.bindArgs .single "extend" "list.extend" ["iterable"] 1 args kwargs
          let items ← drain n (Run.req ps 0)
          for x in items do Run.append a x
          pure noneObj
        else if name == "sort" then do
          if !args.isEmpty then Run.typeFail "sort() takes no positional arguments"
          let ps ← Run.bindArgs (.named 0 0) "sort" "sort" ["key", "reverse"] 0 [] kwargs
          let xs ← match ← Run.cell a with
            | .list xs => pure xs.toList
            | _ => pure []
          let rev ← match ps.getD 1 none with
            | some r => Run.flagArg r
            | none => pure false
          let sorted ← sortItems n (ps.getD 0 none) rev xs
          Run.setCell a (.list sorted.toArray)
          pure noneObj
        else if name == "append" then do
          let ps ← Run.bindArgs .single "append" "list.append" ["object"] 1 args kwargs
          Run.append a (Run.req ps 0)
          pure noneObj
        else Run.listMethod a name args kwargs
      | .dict _ =>
        if name == "update" then do
          match args with
          | [] => pure ()
          | [src] => updateDict n recv src
          | _ => Run.typeFail ("update expected at most 1 argument, got " ++ toString args.length)
          for (k, v) in kwargs do Run.putEntry a (← Run.str k) v
          pure noneObj
        else if name == "fromkeys" then fromKeys n args kwargs
        else Run.dictMethod a name args kwargs
      | .view _ _ =>
        if name == "isdisjoint" then do
          let ps ← Run.bindArgs .single "isdisjoint" ((← Run.typeOf recv) ++ ".isdisjoint") ["other"] 1 args kwargs
          viewDisjoint n recv (Run.req ps 0)
        else throw unsupported
      | .set _ _ =>
        if !kwargs.isEmpty then Run.typeFail (name ++ "() takes no keyword arguments")
        if ["union", "intersection", "difference", "symmetric_difference", "update",
            "intersection_update", "difference_update", "symmetric_difference_update",
            "issubset", "issuperset", "isdisjoint"].contains name then do
          let others ← args.mapM (sourceOf n)
          Run.setMethod a name [] others
        else Run.setMethod a name args []
      | .exception .. =>
        if name == "with_traceback" then do
          if !kwargs.isEmpty then
            Run.typeFail "BaseException.with_traceback() takes no keyword arguments"
          if args.length != 1 then
            Run.typeFail ("BaseException.with_traceback() takes exactly one argument (" ++
              toString args.length ++ " given)")
          pure recv
        else throw unsupported
      | _ => throw unsupported
    | .cls c =>
      if c == "dict" && name == "fromkeys" then fromKeys n args kwargs
      else if c == "float" && name == "fromhex" then Run.floatFromHex args kwargs
      else if c == "str" && name == "maketrans" then Run.translationTable args kwargs
      else match args with
        | self :: rest =>
          let t := typeName (← Run.heap) self
          if (methodsOf (← Run.heap) self).contains name && subclassOf t c then
            callMethod n self name rest kwargs
          else Run.typeFail ("descriptor '" ++ name ++ "' for '" ++ c ++
            "' objects doesn't apply to a '" ++ t ++ "' object")
        | [] => Run.typeFail ("unbound method " ++ c ++ "." ++ name ++ "() needs an argument")
    | _ => throw unsupported

/-- A new dict with the items of an iterable as keys, all with one value. -/
def fromKeys : Nat → List Obj → List (String × Obj) → Run Obj
  | 0, _, _ => throw outOfFuel
  | n + 1, args, kwargs => do
    let ps ← Run.bindArgs .counted "fromkeys" "dict.fromkeys" ["iterable", "value"] 1 args kwargs
    let keys ← drain n (Run.req ps 0)
    let d ← Run.alloc (.dict #[])
    let v := (ps.getD 1 none).getD noneObj
    match d with
    | .ref a => for k in keys do Run.putEntry a k v
    | _ => pure ()
    pure d

/-- The members an iterable offers a set: a set's table, a dict's keys, or its items. -/
def sourceOf : Nat → Obj → Run Source
  | 0, _ => throw outOfFuel
  | n + 1, o => do
    match o with
    | .ref a => match ← Run.cell a with
      | .set t _ => pure (.table t (some a))
      | .dict es => pure (.keys (es.toList.map (·.1)))
      | _ => pure (.items (← drain n o))
    | _ => pure (.items (← drain n o))

/-- The items an object is unpacked into for targets: all of them when a target is starred,
and otherwise no more than one past the targets, enough to tell that there are too many.
An object that cannot be iterated cannot be unpacked. -/
def unpackItems : Nat → List Expr → Obj → Run (List Obj)
  | 0, _, _ => throw outOfFuel
  | n + 1, ts, o => do
    match ← Run.itemsNow? o with
    | some xs => pure xs
    | none => do
      let t ← Run.typeOf o
      let it ← tryCatch (iterOf n o) fun e => match e with
        | .runtimeText .typeError m =>
          if m == "'" ++ t ++ "' object is not iterable" then
            Run.typeFail ("cannot unpack non-iterable " ++ t ++ " object")
          else throw e
        | e => throw e
      if ts.any (· matches .star _) then pure (← drainFrom n it #[]).toList
      else pure (← takeFrom n it (ts.length + 1) #[]).toList

/-- Up to a number of items more from an iterator. -/
def takeFrom : Nat → Obj → Nat → Array Obj → Run (Array Obj)
  | 0, _, _, _ => throw outOfFuel
  | n + 1, it, k, acc => do
    if k == 0 then pure acc
    else match ← next n it with
      | none => pure acc
      | some x => takeFrom n it (k - 1) (acc.push x)

/-- All the items of an iterable, in order. -/
def drain : Nat → Obj → Run (List Obj)
  | 0, _ => throw outOfFuel
  | n + 1, o => do
    match ← Run.itemsNow? o with
    | some xs => pure xs
    | none => do
      let it ← iterOf n o
      let items ← drainFrom n it #[]
      pure items.toList

/-- The remaining items of an iterator after some already taken. -/
def drainFrom : Nat → Obj → Array Obj → Run (Array Obj)
  | 0, _, _ => throw outOfFuel
  | n + 1, it, acc => do
    match ← next n it with
    | none => pure acc
    | some x => drainFrom n it (acc.push x)

/-- The next item of an iterator, or none when it has no more. -/
def next : Nat → Obj → Run (Option Obj)
  | 0, _ => throw outOfFuel
  | n + 1, it => do
    if let some (c, f) ← Run.hook? it "__next__" then
      return ← tryCatch (some <$> call n (← Run.bindTo it c f) [] []) fun e =>
        if e.runtimeKind? == some .stopIteration then pure none else throw e
    let a ← match it with
      | .ref a => pure a
      | _ => Run.typeFail ("'" ++ (← Run.typeOf it) ++ "' object is not an iterator")
    let st ← match ← Run.cell a with
      | .iter st => pure st
      | _ => Run.typeFail ("'" ++ (← Run.typeOf it) ++ "' object is not an iterator")
    let finish : Run (Option Obj) := do
      Run.setCell a (.iter .exhausted)
      pure none
    match st with
    | .exhausted => pure none
    | .seq src pos => do
      if (← Run.instance? src).isSome then
        let got ← tryCatch (some <$> itemOf n src (← Run.int pos)) fun e =>
          let k := e.runtimeKind?
          if k == some .indexError || k == some .stopIteration then pure none else throw e
        match got with
        | some x => do
          Run.setCell a (.iter (.seq src (pos + 1)))
          return some x
        | none => return ← finish
      match ← Run.seqItem src pos with
      | some x => do
        Run.setCell a (.iter (.seq src (pos + 1)))
        pure (some x)
      | none => finish
    | .items xs => match xs with
      | x :: rest => do
        Run.setCell a (.iter (.items rest))
        pure (some x)
      | [] => finish
    | .dictWalk d k pos size => do
      match ← Run.cell d with
      | .dict es =>
        if es.size != size then
          Run.failWith (.runtimeText .runtimeError "dictionary changed size during iteration")
        else match es[pos]? with
          | some (key, v) => do
            Run.setCell a (.iter (.dictWalk d k (pos + 1) size))
            match k with
            | .keys => pure (some key)
            | .values => pure (some v)
            | .items => some <$> Run.tuple [key, v]
          | none => finish
      | _ => finish
    | .dictBack d k left size => do
      match ← Run.cell d with
      | .dict es =>
        if es.size != size then
          Run.failWith (.runtimeText .runtimeError "dictionary changed size during iteration")
        else if left == 0 then finish
        else match es[left - 1]? with
          | some (key, v) => do
            Run.setCell a (.iter (.dictBack d k (left - 1) size))
            match k with
            | .keys => pure (some key)
            | .values => pure (some v)
            | .items => some <$> Run.tuple [key, v]
          | none => finish
      | _ => finish
    | .setWalk s slot size => do
      match ← Run.cell s with
      | .set t _ =>
        if t.used != size then
          Run.failWith (.runtimeText .runtimeError "Set changed size during iteration")
        else match t.memberAfter slot with
          | some (i, x) => do
            Run.setCell a (.iter (.setWalk s (i + 1) size))
            pure (some x)
          | none => finish
      | _ => finish
    | .rev src left =>
      if left == 0 then finish
      else do
        match ← Run.seqItem src (left - 1) with
        | some x => do
          Run.setCell a (.iter (.rev src (left - 1)))
          pure (some x)
        | none => finish
    | .enumerate src k => do
      match ← next n src with
      | some x => do
        Run.setCell a (.iter (.enumerate src (k + 1)))
        some <$> Run.tuple [← Run.int k, x]
      | none => finish
    | .zip srcs strict => do
      let items ← if strict then strictNext n srcs else nextAll n srcs
      match items with
      | some xs => if xs.isEmpty then finish else some <$> Run.tuple xs
      | none => finish
    | .map f srcs => do
      match ← nextAll n srcs with
      | some xs => if xs.isEmpty then finish else some <$> call n f xs []
      | none => finish
    | .filter f src => do
      match ← next n src with
      | some x => do
        let keep ← match f with
          | .scalar .none _ => truth n x
          | f => do truth n (← call n f [x] [])
        if keep then pure (some x) else next n it
      | none => finish
    | .gen g => do
      let (x, g) ← genAdvance n g
      match x with
      | some x => do
        Run.setCell a (.iter (.gen g))
        pure (some x)
      | none => finish
    | .paused fn sc => do
      Run.setCell a (.iter .exhausted)
      let (items, ending) ← runGenerator n ⟨fn, sc⟩
      Run.setCell a (.iter (.yielded items ending))
      next n it
    | .yielded xs ending => match xs with
      | x :: rest => do
        Run.setCell a (.iter (.yielded rest ending))
        pure (some x)
      | [] => do
        discard finish
        match ending with
        | some e => Run.failWith e
        | none => pure none

/-- The next items of several iterators, or none when one of them has no more. -/
def nextAll : Nat → List Obj → Run (Option (List Obj))
  | 0, _ => throw outOfFuel
  | _ + 1, [] => pure (some [])
  | n + 1, it :: its => do
    match ← next n it with
    | none => pure none
    | some x => match ← nextAll n its with
      | some xs => pure (some (x :: xs))
      | none => pure none

/-- The next items of iterators walked strictly together: none when the first is exhausted
and so are all the others, a value failure when one ends before or after the first. -/
def strictNext : Nat → List Obj → Run (Option (List Obj))
  | 0, _ => throw outOfFuel
  | n + 1, srcs => do
    let mut items : Array Obj := #[]
    for (it, i) in srcs.zipIdx do
      match ← next n it with
      | some x => items := items.push x
      | none =>
        if i > 0 then throw (zipMismatch i false)
        for (other, j) in srcs.zipIdx do
          if j > 0 then
            if (← next n other).isSome then throw (zipMismatch j true)
        return none
    pure (some items.toList)

/-- Evaluate an expression in a generator expression's scope. -/
def genStep : Nat → Gen → Expr → Run Obj
  | 0, _, _ => throw outOfFuel
  | n + 1, g, e => do pure (← Run.within g.frame (eval n e)).1

/-- Bind a generator expression's target in its scope. -/
def genBind : Nat → Gen → Expr → Obj → Run Unit
  | 0, _, _, _ => throw outOfFuel
  | n + 1, g, target, o => do discard <| Run.within g.frame (assign n target o)

/-- The next item of a generator expression: the innermost loop takes its next item and the
clauses after it run, loops ending give way to the loop around them. -/
def genAdvance : Nat → Gen → Run (Option Obj × Gen)
  | 0, _ => throw outOfFuel
  | n + 1, g => do
    match g.frames with
    | [] => pure (none, g)
    | (i, it) :: outer => do
      match ← next n it with
      | none => genAdvance n { g with frames := outer }
      | some x => do
        let target := match g.clauses[i]? with
          | some (.forIn t _) => t
          | _ => .var "_"
        genBind n g target x
        genClauses n g (i + 1)

/-- The clauses of a generator expression from one on. -/
def genClauses : Nat → Gen → Nat → Run (Option Obj × Gen)
  | 0, _, _ => throw outOfFuel
  | n + 1, g, j => do
    match g.clauses[j]? with
    | none => do
      let x ← genStep n g g.item
      pure (some x, g)
    | some (.cond test) => do
      let t ← genStep n g test
      if ← truth n t then genClauses n g (j + 1) else genAdvance n g
    | some (.forIn _ source) => do
      let src ← match constItems? source with
        | some items => frozenConst n items
        | none => genStep n g source
      let it ← iterOf n src
      genAdvance n { g with frames := (j, it) :: g.frames }

/-- A comprehension: a list, set or dict made at once in a scope of its own, or a generator
whose first iterable is taken at once. -/
def comprehension : Nat → CompKind → Expr → List Clause → Run Obj
  | 0, _, _, _ => throw outOfFuel
  | n + 1, kind, item, clauses => do
    match clauses with
    | .forIn target source :: rest => do
      let src ← evalIterable n source
      let it ← iterOf n src
      let sc ← Run.compScope item clauses
      let f ← Run.frame
      if kind == .gen then
        Run.alloc (.iter (.gen { item, clauses, scope := sc, unit := f.unit, frames := [(0, it)] }))
      else
        let acc ← Run.alloc (match kind with
          | .set => .set SetTable.empty false
          | .dict => .dict #[]
          | _ => .list #[])
        let frame : Frame := { scope := some sc, unit := f.unit,
                               qualPrefix := f.qualPrefix ++ kind.codeName ++ "." }
        pure (← Run.within frame (compFor n kind item target rest it acc)).1
    | _ => throw unsupported

/-- One `for` clause of a comprehension over its iterator, the clauses after it run for each
item. -/
def compFor : Nat → CompKind → Expr → Expr → List Clause → Obj → Obj → Run Obj
  | 0, _, _, _, _, _, _ => throw outOfFuel
  | n + 1, kind, item, target, rest, it, acc => do
    match ← next n it with
    | none => pure acc
    | some x => do
      assign n target x
      compRest n kind item rest acc
      compFor n kind item target rest it acc

/-- The clauses of a comprehension after a `for` clause, then its item added. -/
def compRest : Nat → CompKind → Expr → List Clause → Obj → Run Unit
  | 0, _, _, _, _ => throw outOfFuel
  | n + 1, kind, item, clauses, acc => do
    match clauses with
    | [] => do
      let a := match acc with
        | .ref a => a
        | _ => 0
      match kind, item with
      | .dict, .tuple [k, v] => do
        let key ← eval n k
        let value ← eval n v
        Run.putEntry a key value
      | .set, _ => Run.putMember a (← eval n item)
      | _, _ => Run.append a (← eval n item)
    | .cond test :: more => do
      if ← truth n (← eval n test) then compRest n kind item more acc
    | .forIn target source :: more => do
      let it ← iterOf n (← evalIterable n source)
      let _ ← compFor n kind item target more it acc

/-- Bind an object to a target: a name, an item, an attribute, or several targets that the
object's items are unpacked into. -/
def assign : Nat → Expr → Obj → Run Unit
  | 0, _, _ => throw outOfFuel
  | n + 1, target, o => do
    match target with
    | .var x => Run.store x o
    | .tuple ts | .list ts => do
      let items ← unpackItems n ts o
      match ← Run.unpackCounts ts items.length with
      | none => assignAll n ts items
      | some i => do
        let before := items.take i
        let afterCount := ts.length - i - 1
        let middle := (items.drop i).take (items.length - i - afterCount)
        let after := items.drop (items.length - afterCount)
        assignAll n (ts.take i) before
        match ts[i]? with
        | some (.star t) => assign n t (← Run.list middle)
        | _ => throw unsupported
        assignAll n (ts.drop (i + 1)) after
    | .index t k => do
      let obj ← eval n t
      match k with
      | .slice lo hi st => do
        let lo ← evalOpt n lo
        let hi ← evalOpt n hi
        let st ← evalOpt n st
        let items ← drain n o
        Run.setSlice obj lo hi st items
      | _ => setItemOf n obj (← eval n k) o
    | .attr t name => do setAttr n (← eval n t) name o
    | _ => Run.failWith (.runtime .syntaxError)

/-- Bind objects to targets pairwise. -/
def assignAll : Nat → List Expr → List Obj → Run Unit
  | 0, _, _ => throw outOfFuel
  | n + 1, t :: ts, o :: os => do
    assign n t o
    assignAll n ts os
  | _ + 1, _, _ => pure ()

/-- Remove a target's binding: a name, an item or slice, or each of several targets. -/
def delete : Nat → Expr → Run Unit
  | 0, _ => throw outOfFuel
  | n + 1, target => do
    match target with
    | .var x => Run.unbind x
    | .tuple ts | .list ts => for t in ts do delete n t
    | .index t k => do
      let obj ← eval n t
      match k with
      | .slice lo hi st => do
        let lo ← evalOpt n lo
        let hi ← evalOpt n hi
        let st ← evalOpt n st
        Run.deleteSlice obj lo hi st
      | _ => deleteItemOf n obj (← eval n k)
    | .attr t name => do delAttr n (← eval n t) name
    | _ => throw unsupported

/-- An operator that changes its left operand in place when that is a list, set or dict,
and otherwise makes a new object. -/
def inPlace : Nat → BinOp → Obj → Obj → Run Obj
  | 0, _, _, _ => throw outOfFuel
  | n + 1, op, a, b => do
    if let some r ← callHook n a ("__i" ++ (op.hooks.1.drop 2).toString) [b] then return r
    match a with
    | .ref x => match ← Run.cell x with
      | .list xs =>
        if op == .add then do
          let items ← drain n b
          for y in items do Run.append x y
          pure a
        else if op == .mul then do
          match b with
          | .scalar _ _ => do
            Run.setCell x (.list (← Run.repeated xs.toList b).toArray)
            pure a
          | _ => binaryOp n op a b
        else binaryOp n op a b
      | .set t false => do
        match b with
        | .ref y => match ← Run.cell y with
          | .set u _ => do
            let h ← Run.heap
            let other : Source := .table u (some y)
            let changed ← match op with
              | .bitOr => do pure (some (← Run.lift (h.setUpdate t (some x) other)))
              | .bitAnd => do
                let r ← Run.lift (h.setIntersection t (some x) other)
                pure (some { r with finger := t.finger })
              | .sub => do pure (some (← Run.lift (h.setSubtract t (some x) other)))
              | .bitXor => do pure (some (← Run.lift (h.setToggle t (some x) other)))
              | _ => pure none
            match changed with
            | some r => do
              Run.setCell x (.set r false)
              pure a
            | none => binaryOp n op a b
          | _ => binaryOp n op a b
        | _ => binaryOp n op a b
      | .dict _ =>
        if op == .bitOr then do
          updateDict n a b
          pure a
        else binaryOp n op a b
      | _ => binaryOp n op a b
    | _ => binaryOp n op a b

/-- Call an object's hook of a name with arguments, when its class has one. -/
def callHook : Nat → Obj → String → List Obj → Run (Option Obj)
  | 0, _, _, _ => throw outOfFuel
  | n + 1, o, name, args => do
    match ← Run.hook? o name with
    | some (c, f) => some <$> call n (← Run.bindTo o c f) args []
    | none => pure none

/-- A binary operator: the left operand's hook, else the right operand's reflected hook, for
objects of classes of the body, a hook that gives `NotImplemented` passing the operation on;
else the operator on builtin objects, a string's format writing such objects through their
hooks. -/
def binaryOp : Nat → BinOp → Obj → Obj → Run Obj
  | 0, _, _, _ => throw outOfFuel
  | n + 1, op, x, y => do
    match ← callHook n x op.hooks.1 [y] with
    | some .notImplemented | none => pure ()
    | some r => return r
    match ← callHook n y op.hooks.2 [x] with
    | some .notImplemented | none => pure ()
    | some r => return r
    if let some r ← viewBinary n op x y then return r
    match op, x with
    | .mod, .scalar (.str s) _ => Run.printf (textOf n) s y
    | _, _ => Run.binary op x y

/-- A set operator with a view of a dict's keys or entries as an operand. A union, a
difference or a symmetric difference makes a set of the left operand (of a keys view, from
its dict) and changes it by the right one; an intersection keeps the items of the smaller
side that the other holds. -/
def viewBinary : Nat → BinOp → Obj → Obj → Run (Option Obj)
  | 0, _, _, _ => throw outOfFuel
  | n + 1, op, x, y => do
    if !(op == .bitAnd || op == .bitOr || op == .sub || op == .bitXor) then return none
    let vx ← Run.setView? x
    let vy ← Run.setView? y
    if vx.isNone && vy.isNone then return none
    let h ← Run.heap
    let madeSet (src : Source) : Run (SetTable Obj) := Run.lift (h.setOf src)
    let own (o : Obj) : Run Source := do
      match ← Run.setView? o with
      | some (.keys, d) => sourceOf n (.ref d)
      | _ => sourceOf n o
    if op == .bitAnd then do
      let (self, other) := if vx.isSome then (x, y) else (y, x)
      let lenSelf ← Run.lengthOf self
      let otherSet ← match other with
        | .ref b => do pure (match ← Run.cell b with
          | .set t false => some (t, b)
          | _ => none)
        | _ => pure none
      match otherSet with
      | some (t, b) =>
        if lenSelf ≤ t.used then do
          let r ← Run.lift (h.setIntersection t (some b) (.items (← drain n self)))
          return some (← Run.alloc (.set r false))
      | none => pure ()
      let (self, other) ← do
        if (← Run.setView? other).isSome && (← Run.lengthOf other) > lenSelf then
          pure (other, self)
        else pure (self, other)
      let mut r : SetTable Obj := SetTable.empty
      for k in ← drain n other do
        if ← Run.contains self k then r ← Run.lift ((← Run.heap).setAdd r k)
      return some (← Run.alloc (.set r false))
    let left ← madeSet (← own x)
    let right ← sourceOf n y
    let r ← match op with
      | .bitOr => Run.lift (h.setUpdate left none right)
      | .sub => Run.lift (h.setSubtract left none right)
      | _ => Run.lift (h.setToggle left none right)
    some <$> Run.alloc (.set r false)

/-- Whether a view of a dict's keys or entries and an iterable hold no item in common,
walking the smaller of the two when the other is a set or a view. -/
def viewDisjoint : Nat → Obj → Obj → Run Obj
  | 0, _, _ => throw outOfFuel
  | n + 1, self, other => do
    if self.identical other then return Run.bool ((← Run.lengthOf self) == 0)
    let setLike ← match other with
      | .ref b => do pure (match ← Run.cell b with
        | .set .. => true
        | .view .keys _ | .view .items _ => true
        | _ => false)
      | _ => pure false
    let (self, other) ← do
      if setLike && (← Run.lengthOf other) > (← Run.lengthOf self) then pure (other, self)
      else pure (self, other)
    for k in ← drain n other do
      if ← Run.contains self k then return Run.bool false
    pure (Run.bool true)

/-- A unary operator: `not` by truth, the others through an object's hook or on builtin
objects. -/
def unaryOp : Nat → UnaryOp → Obj → Run Obj
  | 0, _, _ => throw outOfFuel
  | n + 1, op, x => do
    if op == .not then pure (Run.bool !(← truth n x))
    else match op.hook? with
      | some name => match ← callHook n x name [] with
        | some r => pure r
        | none => Run.unary op x
      | none => Run.unary op x

/-- Truth as a condition: an object of a class of the body through its `__bool__` hook, else
its `__len__` hook, else true; builtin objects as the runtime sees them. -/
def truth : Nat → Obj → Run Bool
  | 0, _ => throw outOfFuel
  | n + 1, o => do
    match ← callHook n o "__bool__" [] with
    | some r => match r with
      | .scalar (.bool b) _ => pure b
      | _ => Run.typeFail ("__bool__ should return bool, returned " ++ (← Run.typeOf r))
    | none => match ← callHook n o "__len__" [] with
      | some r => do pure ((← Run.intArg r) != 0)
      | none => pure (truthy (← Run.heap) o)

/-- A comparison through hooks, when one operand is an object of a class of the body: the
left operand's hook, else the right operand's reflected one; `==` and `!=` fall back to
identity. None leaves the comparison to builtin objects. -/
def hookRelation? : Nat → Rel → Obj → Obj → Run (Option Bool)
  | 0, _, _, _ => throw outOfFuel
  | n + 1, r, a, b => do
    match r.hooks? with
    | none => pure none
    | some (name, reflected) =>
      if (← Run.instance? a).isNone && (← Run.instance? b).isNone then return none
      if let some t ← compareHook? n a name b then return some t
      if let some t ← compareHook? n b reflected a then return some t
      if r == .ne then pure (some !(a.identical b))
      else if r == .cmp .eq then pure (some (a.identical b))
      else pure none

/-- What one operand's comparison hook answers: none when its class has no such hook or the
hook gives `NotImplemented`, leaving the comparison to the other operand. `__ne__` falls
back to the negation of `__eq__`, as the runtime's base class does. -/
def compareHook? : Nat → Obj → String → Obj → Run (Option Bool)
  | 0, _, _, _ => throw outOfFuel
  | n + 1, o, name, other => do
    match ← callHook n o name [other] with
    | some .notImplemented => pure none
    | some x => some <$> truth n x
    | none =>
      if name != "__ne__" then return none
      match ← callHook n o "__eq__" [other] with
      | some .notImplemented => pure none
      | some x => do pure (some !(← truth n x))
      | none => pure none

/-- The item of an object under a key: through the `__getitem__` hook of an object of a
class of the body, else as builtin objects give it. -/
def itemOf : Nat → Obj → Obj → Run Obj
  | 0, _, _ => throw outOfFuel
  | n + 1, o, key => do
    match ← callHook n o "__getitem__" [key] with
    | some r => pure r
    | none => Run.item o key

/-- Set the item of an object under a key, through the `__setitem__` hook when it has one. -/
def setItemOf : Nat → Obj → Obj → Obj → Run Unit
  | 0, _, _, _ => throw outOfFuel
  | n + 1, o, key, v => do
    match ← callHook n o "__setitem__" [key, v] with
    | some _ => pure ()
    | none => Run.setItem o key v

/-- Remove the item of an object under a key, through the `__delitem__` hook when it has
one. -/
def deleteItemOf : Nat → Obj → Obj → Run Unit
  | 0, _, _ => throw outOfFuel
  | n + 1, o, key => do
    match ← callHook n o "__delitem__" [key] with
    | some _ => pure ()
    | none => Run.deleteItem o key

/-- The iterator of an object: an object of a class of the body through its `__iter__` hook,
or else one that reads its `__getitem__` hook at 0, 1, 2, ... until an index or iteration
failure; builtin objects as the runtime makes theirs. -/
def iterOf : Nat → Obj → Run Obj
  | 0, _ => throw outOfFuel
  | n + 1, o => do
    match ← callHook n o "__iter__" [] with
    | some it => pure it
    | none =>
      -- without `__iter__`, an object with `__getitem__` is read at 0, 1, 2, ...
      if (← Run.hook? o "__getitem__").isSome then Run.alloc (.iter (.seq o 0))
      else Run.iterOf o

/-- The text of an object as `str` writes it, or as `repr` does: an object of a class of the
body through its `__str__` or `__repr__` hook (`str` falls back to `__repr__`), an exception
of such a class by its arguments; builtin objects as the runtime writes them. -/
def textOf : Nat → Obj → Bool → Run String
  | 0, _, _ => throw outOfFuel
  | n + 1, o, useRepr => do
    match ← Run.instance? o with
    | some (_, k, attrs) =>
      let names := if useRepr then ["__repr__"] else ["__str__", "__repr__"]
      let found ← names.findSomeM? fun nm => Run.hook? o nm
      match found with
      | some (c, f) => do
        let r ← call n (← Run.bindTo o c f) [] []
        match r with
        | .scalar (.str s) _ => pure s
        | _ => Run.typeFail ((if useRepr then "__repr__" else "__str__") ++
            " returned non-string (type " ++ (← Run.typeOf r) ++ ")")
      | none =>
        if (Heap.exceptionBase? k).isSome then
          let args := match bound? attrs "args" with
            | some (.tuple xs _) => xs
            | _ => []
          if useRepr then do
            let inner ← match args with
              | [x] => Run.repr x
              | xs => do pure (", ".intercalate (← xs.mapM Run.repr))
            pure (k.name ++ "(" ++ inner ++ ")")
          else match args with
            | [] => pure ""
            | [x] => textOf n x false
            | xs => Run.repr (.tuple xs .shared)
        else Run.repr o
    | none =>
      let h ← Run.heap
      let container := match o with
        | .tuple .. => true
        | .ref a => match h.cell a with
          | .list _ | .dict _ | .set .. => true
          | _ => false
        | _ => false
      if container then reprDeep n [] o else Run.plainText o useRepr

/-- The text of an object as `repr` writes it, the objects of classes of the body inside
containers written through their hooks. A list, dict or set met again inside itself is
written `[...]`, `{...}` or `set(...)`. -/
def reprDeep : Nat → List Nat → Obj → Run String
  | 0, _, _ => throw outOfFuel
  | n + 1, seen, o => do
    match o with
    | .tuple [x] _ => do pure ("(" ++ (← reprDeep n seen x) ++ ",)")
    | .tuple xs _ => do pure ("(" ++ ", ".intercalate (← xs.mapM (reprDeep n seen)) ++ ")")
    | .ref a => match ← Run.cell a with
      | .list xs =>
        if seen.contains a then pure "[...]"
        else do pure ("[" ++ ", ".intercalate (← xs.toList.mapM (reprDeep n (a :: seen))) ++ "]")
      | .dict es =>
        if seen.contains a then pure "\x7b...\x7d"
        else do
          let parts ← es.toList.mapM fun (k, v) => do
            pure ((← reprDeep n (a :: seen) k) ++ ": " ++ (← reprDeep n (a :: seen) v))
          pure ("\x7b" ++ ", ".intercalate parts ++ "\x7d")
      | .set t frozen =>
        let name := if frozen then "frozenset" else "set"
        if t.used == 0 then pure (name ++ "()")
        else if seen.contains a then pure (name ++ "(...)")
        else do
          let body := "\x7b" ++ ", ".intercalate (← t.members.mapM (reprDeep n (a :: seen))) ++ "\x7d"
          pure (if frozen then name ++ "(" ++ body ++ ")" else body)
      | .inst .. => textOf n o true
      | _ => Run.repr o
    | _ => Run.repr o

/-- The text of a field of a formatted string by its conversion letter. -/
def convertOf : Nat → Option Char → Obj → Run Obj
  | 0, _, _ => throw outOfFuel
  | n + 1, conv, o => Run.convertBy (writers n) conv o

/-- An object written by a format specification: an object of a class of the body through
its `__format__` hook, which must give a string; with the empty specification, any object
as `str` writes it. -/
def formatOf : Nat → Obj → String → Run String
  | 0, _, _ => throw outOfFuel
  | n + 1, o, spec => do
    match ← callHook n o "__format__" [← Run.str spec] with
    | some (.scalar (.str s) _) => pure s
    | some r => Run.typeFail ("__format__ must return a str, not " ++ (← Run.typeOf r))
    | none => if spec.isEmpty then textOf n o false else Run.formatWith o spec

/-- Writers of objects through the hooks of the body's classes. -/
def writers : Nat → Writers
  | 0 => ⟨fun _ _ => throw outOfFuel, fun _ _ => throw outOfFuel⟩
  | n + 1 => ⟨textOf n, formatOf n⟩

/-- The attribute of an object. For an object of a class of the body: a property of its
class is read through its getter, else the object's own attribute, else its class's bound
to it. For a class of the body: its attributes along its order. For what `super()` gives:
the attributes of the classes after the one it names, bound to its object. Builtin objects
have the attributes the runtime gives them. -/
def getAttr : Nat → Obj → String → Run Obj
  | 0, _, _ => throw outOfFuel
  | n + 1, o, name => do
    let h ← Run.heap
    match o with
    | .ref a => match h.cell a with
      | .inst c attrs => do
        match ← Run.property? o name with
        | some (getter, _) => call n getter [o] []
        | none => match bound? attrs name with
          | some v => pure v
          | none => match h.userClass? c with
            | some k => match h.classAttr? k name with
              | some v => Run.bindTo o (.ref c) v
              | none => match name with
                | "__class__" => pure (.ref c)
                | "__dict__" => do
                  let own := if (Heap.exceptionBase? k).isSome then
                      attrs.filter fun (x, _) => !Run.exceptionSlots.contains x
                    else attrs
                  let es ← own.mapM fun (x, v) => do pure (← Run.str x, v)
                  Run.alloc (.dict es.toArray)
                | _ => match Heap.exceptionBase? k with
                  | some base => do
                    let args := match bound? attrs "args" with
                      | some (.tuple xs _) => xs
                      | _ => []
                    match ← Run.exceptionAttr? base args name with
                    | some v => pure v
                    | none => Run.failWith (noAttribute k.name name)
                  | none => Run.failWith (noAttribute k.name name)
            | none => Run.failWith (noAttribute "object" name)
      | .cls k => match name with
        | "__name__" => Run.str k.name
        | "__qualname__" => Run.str k.qualname
        | "__bases__" => Run.tuple k.bases
        | "__mro__" => Run.tuple (o :: k.mro)
        | "__class__" => pure (.cls "type")
        | _ => match h.classAttr? k name with
          | some v => Run.classBind o v
          | none => Run.failWith (.runtimeText .attributeError
              ("type object '" ++ k.name ++ "' has no attribute '" ++ name ++ "'"))
      | .wrapper .property g _ =>
        if name == "setter" then pure (.bound o (.builtin "property.setter") (← Run.fresh))
        else if name == "fget" then pure g
        else Run.attr o name
      | _ => Run.attr o name
    | .proxy start self _ => do
      let order := h.lookupOrder (h.classObj self)
      let after := (order.dropWhile fun b => !b.identical start).drop 1
      let found := after.findSome? fun b => match b with
        | .ref c => (h.userClass? c).bind fun k => bound? k.attrs name
        | _ => none
      match found with
      | some v => Run.bindTo self (h.classObj self) v
      | none =>
        if name == "__init__" then
          let exc := after.any fun b => match b with
            | .cls c => isExceptionClass c
            | _ => false
          pure (.bound self (.builtin (if exc then "BaseException.__init__" else "object.__init__"))
            (← Run.fresh))
        else Run.failWith (noAttribute "super" name)
    | .module m => Run.moduleAttr m name
    | _ => Run.attr o name

/-- Set an attribute of an object: through the setter of a property of its class, else among
an object's own attributes or a class's attributes; builtin objects as the runtime allows. -/
def setAttr : Nat → Obj → String → Obj → Run Unit
  | 0, _, _, _ => throw outOfFuel
  | n + 1, o, name, v => do
    match ← Run.instance? o with
    | some (_, k, _) =>
      match ← Run.property? o name with
      | some (_, some setter) => discard <| call n setter [o, v] []
      | some (_, none) => Run.failWith (.runtimeText .attributeError
          ("property '" ++ name ++ "' of '" ++ k.qualname ++ "' object has no setter"))
      | none => match o with
        | .ref a => Run.modifyCell a fun c => match c with
          | .inst c attrs => .inst c (bindName attrs name v)
          | c => c
        | _ => pure ()
    | none => match o with
      | .ref a => match ← Run.cell a with
        | .cls k => Run.setCell a (.cls { k with attrs := bindName k.attrs name v })
        | _ => Run.setAttr o name v
      | _ => Run.setAttr o name v

/-- Remove an attribute of an object of a class of the body, or of such a class. -/
def delAttr : Nat → Obj → String → Run Unit
  | 0, _, _ => throw outOfFuel
  | _ + 1, o, name => do
    match o with
    | .ref a => match ← Run.cell a with
      | .inst c attrs =>
        if (bound? attrs name).isSome then Run.setCell a (.inst c (attrs.filter (·.1 != name)))
        else Run.failWith (noAttribute (← Run.typeOf o) name)
      | .cls k =>
        if (bound? k.attrs name).isSome then
          Run.setCell a (.cls { k with attrs := k.attrs.filter (·.1 != name) })
        else Run.failWith (.runtimeText .attributeError name)
      | _ => throw unsupported
    | _ => throw unsupported

/-- A new object of a class of the body. An exception keeps its arguments. `__init__`, found
along the class's order, is called on the new object with the arguments and must give none;
a class with no `__init__` takes no arguments, an exception no keywords. -/
def instantiate : Nat → Obj → UserClass → List Obj → List (String × Obj) → Run Obj
  | 0, _, _, _, _ => throw outOfFuel
  | n + 1, cls, k, args, kwargs => do
    let a := match cls with
      | .ref a => a
      | _ => 0
    let h ← Run.heap
    let isExc := (Heap.exceptionBase? k).isSome
    let attrs ← if isExc then do pure [("args", ← Run.tuple args)] else pure []
    let o ← Run.alloc (.inst a attrs)
    match h.classAttr? k "__init__" with
    | some init => do
      let r ← call n (← Run.bindTo o (.ref a) init) args kwargs
      match r with
      | .scalar .none _ => pure o
      | r => Run.typeFail ("__init__() should return None, not '" ++ (← Run.typeOf r) ++ "'")
    | none =>
      if isExc then
        if !kwargs.isEmpty then Run.typeFail (k.name ++ "() takes no keyword arguments")
        pure o
      else if !args.isEmpty || !kwargs.isEmpty then Run.typeFail (k.name ++ "() takes no arguments")
      else pure o

/-- The failure a raised object makes: an exception of a class of the body (a class is first
made into one without arguments) keeps its class's name, its text and itself; builtin
exceptions as the runtime makes them. -/
def raiseObj : Nat → Obj → Option Failure → Run Failure
  | 0, _, _ => throw outOfFuel
  | n + 1, o, cause => do
    let notException : Run Failure := Run.typeFail "exceptions must derive from BaseException"
    match o with
    | .ref a => match ← Run.cell a with
      | .cls k =>
        if (Heap.exceptionBase? k).isSome then raiseObj n (← instantiate n o k [] []) cause
        else notException
      | .inst c _ => match ← Run.cell c with
        | .cls k =>
          if (Heap.exceptionBase? k).isSome then do pure (.raised k.name (← textOf n o false) a)
          else notException
        | _ => notException
      | _ => Run.raised o cause
    | _ => Run.raised o cause

/-- The cause a `raise ... from` names: none, or the failure of an exception. -/
def causeOf : Nat → Obj → Run (Option Failure)
  | 0, _ => throw outOfFuel
  | n + 1, o => do
    match ← Run.instance? o with
    | some _ => some <$> raiseObj n o none
    | none => match o with
      | .ref a => match ← Run.cell a with
        | .cls _ => some <$> raiseObj n o none
        | _ => Run.causeOf o
      | _ => Run.causeOf o

/-- An object passed through decorators, the one written last first. -/
def decorate : Nat → List Obj → Obj → Run Obj
  | 0, _, _ => throw outOfFuel
  | _ + 1, [], o => pure o
  | n + 1, d :: ds, o => do call n d [← decorate n ds o] []

/-- Run statements in order until one ends the block otherwise than normally. -/
def exec : Nat → List Stmt → Run Flow
  | 0, _ => throw outOfFuel
  | _ + 1, [] => pure .normal
  | n + 1, s :: rest => do
    match ← execStmt n s with
    | .normal => exec n rest
    | flow => pure flow

/-- Run a `while` loop from its test. -/
def whileLoop : Nat → Expr → List Stmt → List Stmt → Run Flow
  | 0, _, _, _ => throw outOfFuel
  | n + 1, test, body, orElse => do
    if ← truth n (← eval n test) then
      match ← exec n body with
      | .brk => pure .normal
      | .ret o => pure (.ret o)
      | _ => whileLoop n test body orElse
    else exec n orElse

/-- Run a `for` loop over its iterator. -/
def forLoop : Nat → Expr → Obj → List Stmt → List Stmt → Run Flow
  | 0, _, _, _, _ => throw outOfFuel
  | n + 1, target, it, body, orElse => do
    match ← next n it with
    | none => exec n orElse
    | some x => do
      assign n target x
      match ← exec n body with
      | .brk => pure .normal
      | .ret o => pure (.ret o)
      | _ => forLoop n target it body orElse

/-- The handler of a guarded block that catches a failure, with its name and body. -/
def handlerFor : Nat → Failure → List (Option Expr × Option String × List Stmt) →
    Run (Option (Option String × List Stmt))
  | 0, _, _ => throw outOfFuel
  | _ + 1, _, [] => pure none
  | n + 1, f, (cls, name, body) :: rest => do
    match cls with
    | none => pure (some (name, body))
    | some e => do
      let c ← eval n e
      let classes ← Run.classObjs "catching" c
      for k in classes do
        if !(← Run.isExceptionObj k) then
          Run.typeFail "catching classes that do not inherit from BaseException is not allowed"
      if ← Run.catchesAny f classes then pure (some (name, body)) else handlerFor n f rest

/-- Run a handler's body for a failure, its name bound to the exception while it runs. -/
def runHandler : Nat → Failure → Option String → List Stmt → Run Flow
  | 0, _, _, _ => throw outOfFuel
  | n + 1, f, name, body => do
    let (f, obj) ← Run.caught f
    modify fun m => { m with handling := f :: m.handling }
    let pop : Run Unit := do
      modify fun m => { m with handling := m.handling.drop 1 }
      match name with
      | some x => tryCatch (Run.unbind x) fun _ => pure ()
      | none => pure ()
    match name with
    | some x => Run.store x obj
    | none => pure ()
    let flow ← tryCatch (exec n body) fun e => do
      pop
      throw e
    pop
    pure flow

/-- The outcome of a guarded block and its handlers, before its `finally` block: how it
ended, or the failure it passes on. -/
def guardedOutcome : Nat → List Stmt → List (Option Expr × Option String × List Stmt) →
    List Stmt → Run (Except Failure Flow)
  | 0, _, _, _ => throw outOfFuel
  | n + 1, body, handlers, orElse => do
    let first : Except Failure Flow ←
      tryCatch (Except.ok <$> exec n body) fun f => pure (Except.error f)
    match first with
    | .ok .normal => tryCatch (Except.ok <$> exec n orElse) fun g => pure (Except.error g)
    | .ok flow => pure (Except.ok flow)
    | .error f =>
      if !catchable f then pure (Except.error f)
      else
        let handled : Run (Except Failure Flow) := do
          match ← handlerFor n f handlers with
          | some (name, hbody) => Except.ok <$> runHandler n f name hbody
          | none => pure (Except.error f)
        tryCatch handled fun g => pure (Except.error g)

/-- A guarded block with its handlers, its `else` block and its `finally` block; a return,
break or continue of the `finally` block wins over the outcome before it. -/
def guarded : Nat → List Stmt → List (Option Expr × Option String × List Stmt) →
    List Stmt → List Stmt → Run Flow
  | 0, _, _, _, _ => throw outOfFuel
  | n + 1, body, handlers, orElse, final => do
    let outcome ← guardedOutcome n body handlers orElse
    let passOn : Run Flow := match outcome with
      | .ok flow => pure flow
      | .error f => Run.failWith f
    -- an operation bodies do not model ends the body at once
    let bypass := match outcome with
      | .error f => !catchable f
      | .ok _ => false
    if final.isEmpty || bypass then passOn
    else do
      let after ← exec n final
      match after with
      | .normal => passOn
      | flow => pure flow

/-- Run one statement. -/
def execStmt : Nat → Stmt → Run Flow
  | 0, _ => throw outOfFuel
  | n + 1, s => do
    match s with
    | .expr e => do
      let _ ← eval n e
      pure .normal
    | .assign targets value => do
      let v ← eval n value
      for t in targets do assign n t v
      pure .normal
    | .augAssign op target value => do
      match target with
      | .var x => do
        let cur ← Run.lookup x
        let v ← eval n value
        Run.store x (← inPlace n op cur v)
      | .attr t name => do
        let obj ← eval n t
        let cur ← getAttr n obj name
        let v ← eval n value
        setAttr n obj name (← inPlace n op cur v)
      | .index t k => do
        let obj ← eval n t
        match k with
        | .slice lo hi st => do
          let lo ← evalOpt n lo
          let hi ← evalOpt n hi
          let st ← evalOpt n st
          let cur ← Run.slice obj lo hi st
          let v ← eval n value
          let new ← inPlace n op cur v
          Run.setSlice obj lo hi st (← drain n new)
        | _ => do
          let key ← eval n k
          let cur ← itemOf n obj key
          let v ← eval n value
          setItemOf n obj key (← inPlace n op cur v)
      | _ => Run.failWith (.runtime .syntaxError)
      pure .normal
    | .annotated target annotation value => do
      let atTop := match ← Run.scopeKind with
        | none | some .classBody => true
        | _ => false
      match target with
      | .var _ => pure ()
      | .attr t _ => discard <| eval n t
      | .index t k => do
        discard <| eval n t
        match k with
        | .slice .. => pure ()
        | _ => discard <| eval n k
      | _ => pure ()
      if atTop then discard <| eval n annotation
      match value with
      | some v => do
        let o ← eval n v
        assign n target o
      | none => pure ()
      pure .normal
    | .pass => pure .normal
    | .brk => pure .brk
    | .cont => pure .cont
    | .ret value => do
      match value with
      | none => pure (.ret noneObj)
      | some e => do pure (.ret (← eval n e))
    | .raise exc cause => do
      match exc with
      | none => Run.failWith (← Run.current)
      | some e => do
        let o ← eval n e
        let (given, c) ← match cause with
          | none => pure (false, none)
          | some ce => do pure (true, ← causeOf n (← eval n ce))
        let f ← raiseObj n o c
        Run.chain f given c
        Run.failWith f
    | .assert test msg => do
      if ← truth n (← eval n test) then pure .normal
      else
        let exc ← match msg with
          | none => pure (.cls "AssertionError")
          | some m => do Run.alloc (.exception "AssertionError" [← eval n m] [])
        let f ← Run.raised exc none
        Run.chain f false none
        Run.failWith f
    | .delete targets => do
      for t in targets do delete n t
      pure .normal
    | .global _ | .nonlocal _ => pure .normal
    | .funcDef name decorators params returns body => do
      let decs ← evalItems n decorators
      let ps ← evalDefaults n params
      for e in params.filterMap Param.hint do discard <| eval n e
      match returns with
      | some r => discard <| eval n r
      | none => pure ()
      let f ← Run.frame
      let fn : Func := {
        name, qualname := f.qualPrefix ++ name, params := ps, code := .block body,
        locals := scopeLocals analysisFuel (params.map Param.name) body,
        globalNames := (bindings analysisFuel body).2, nonlocals := nonlocalNames analysisFuel body,
        parent := ← Run.enclosing, unit := f.unit, generator := blockYields analysisFuel body }
      Run.store name (← decorate n decs (← Run.alloc (.func fn)))
      pure .normal
    | .classDef name decorators bases body => do
      let decs ← evalItems n decorators
      let (bs, kws) ← evalArgs n (.builtin "__build_class__") bases
      if !kws.isEmpty then throw unsupported
      let f ← Run.frame
      let qual := f.qualPrefix ++ name
      let sc ← Run.allocScope {
        kind := .classBody,
        vars := [("__module__", ← Run.lookupGlobal "__name__"), ("__qualname__", ← Run.str qual)],
        globalNames := (bindings analysisFuel body).2, nonlocals := nonlocalNames analysisFuel body,
        parent := ← Run.enclosing }
      let frame : Frame := { scope := some sc, unit := f.unit, qualPrefix := qual ++ "." }
      discard <| Run.within frame (exec n body)
      let cls ← Run.makeClass name qual bs (← Run.scopeAt sc).vars
      Run.store name (← decorate n decs cls)
      pure .normal
    | .importModules items => do
      for (m, asName) in items do
        let mod ← Run.importModule m
        match asName with
        | some x => Run.store x mod
        | none => Run.store (m.headD "") (.module (m.headD ""))
      pure .normal
    | .importFrom m items => do
      let mod ← Run.importModule m
      for (x, asName) in items do
        let o ← tryCatch (getAttr n mod x) fun _ =>
          Run.failWith (.runtimeText (.other "ImportError") ("cannot import name '" ++ x ++
            "' from '" ++ ".".intercalate m ++ "'"))
        Run.store (asName.getD x) o
      pure .normal
    | .branch test body orElse => do
      if ← truth n (← eval n test) then exec n body else exec n orElse
    | .loop test body orElse => whileLoop n test body orElse
    | .forEach target source body orElse => do
      let it ← iterOf n (← evalIterable n source)
      forLoop n target it body orElse
    | .unsupported => throw unsupported
    | .guarded body handlers orElse final => guarded n body handlers orElse final
    | .managed items body => managed n items body
    | .matching subject cases => do matchCases n (← eval n subject) cases

/-- Run the first case whose pattern matches the subject and whose guard then holds. The
names a pattern binds are bound before its guard is read, and stay bound when it fails. -/
def matchCases : Nat → Obj → List (Pattern × Option Expr × List Stmt) → Run Flow
  | 0, _, _ => throw outOfFuel
  | _ + 1, _, [] => pure .normal
  | n + 1, subject, (p, guard, body) :: rest => do
    match ← matchPattern n subject p [] with
    | none => matchCases n subject rest
    | some bound => do
      for (x, v) in bound do Run.store x v
      let pass ← match guard with
        | none => pure true
        | some g => do truth n (← eval n g)
      if pass then exec n body else matchCases n subject rest

/-- Match an object against a pattern after the names bound so far: all the names bound
once it matches, or none when it does not. -/
def matchPattern : Nat → Obj → Pattern → List (String × Obj) →
    Run (Option (List (String × Obj)))
  | 0, _, _, _ => throw outOfFuel
  | n + 1, o, p, bound => do
    match p with
    | .wildcard => pure (some bound)
    | .capture x => pure (some (bound ++ [(x, o)]))
    | .capturing q x => do
      match ← matchPattern n o q bound with
      | some b => pure (some (b ++ [(x, o)]))
      | none => pure none
    | .value e byIdentity => do
      let v ← eval n e
      let hit ← if byIdentity then pure (o.identical v) else relation n (.cmp .eq) o v
      pure (if hit then some bound else none)
    | .alternatives ps => matchFirst n o ps bound
    | .sequence front star back => do
      match ← Run.sequenceItems? o with
      | none => pure none
      | some items =>
        let k := front.length + back.length
        let fits := if star.isSome then items.length ≥ k else items.length == k
        if !fits then pure none
        else
          let middle := (items.drop front.length).take (items.length - k)
          let tail := items.drop (items.length - back.length)
          match ← matchEach n (front.zip (items.take front.length)) bound with
          | none => pure none
          | some b => do
            let b ← match star with
              | some (some x) => do pure (b ++ [(x, ← Run.list middle)])
              | _ => pure b
            matchEach n (back.zip tail) b
    | .mapping entries rest => do
      let es? ← match o with
        | .ref a => do pure (match ← Run.cell a with
          | .dict es => some es
          | _ => none)
        | _ => pure none
      match es? with
      | none => pure none
      | some es =>
        if es.size < entries.length then pure none
        else
          let keys ← entries.mapM fun (k, _) => eval n k
          let h ← Run.heap
          let found ← keys.mapM fun k => do
            pure ((← Run.lift (h.keyIndex es k)).map fun j => (es.getD j default).2)
          match found.mapM id with
          | none => pure none
          | some values =>
            match ← matchEach n ((entries.map (·.2)).zip values) bound with
            | none => pure none
            | some b => match rest with
              | none => pure (some b)
              | some x => do
                let mut left := es
                for k in keys do
                  if let some j ← Run.lift ((← Run.heap).keyIndex left k) then
                    left := left.eraseIdxIfInBounds j
                pure (some (b ++ [(x, ← Run.alloc (.dict left))]))
    | .instance c positional named => do
      let cls ← eval n c
      let h ← Run.heap
      let isClass := match cls with
        | .cls _ => true
        | .ref a => (h.userClass? a).isSome
        | _ => false
      if !isClass then Run.typeFail "called match pattern must be a type"
      if !h.isInstance o cls then return none
      let name := h.className cls
      let given := positional.length
      let refuse (allowed : Nat) : Run Unit :=
        Run.typeFail (name ++ "() accepts " ++ toString allowed ++ " positional sub-pattern" ++
          (if allowed == 1 then "" else "s") ++ " (" ++ toString given ++ " given)")
      -- the subject itself for a builtin class, else the attributes `__match_args__` names
      let (selfMatch, names) ← match cls with
        | .cls b => do
          if selfMatchingClasses.contains b then
            if given > 1 then refuse 1
            pure (given == 1, ([] : List String))
          else
            if given > 0 then refuse 0
            pure (false, [])
        | .ref a => do
          if given == 0 then pure (false, [])
          else match (h.userClass? a).bind (h.classAttr? · "__match_args__") with
            | none => do refuse 0; pure (false, [])
            | some (.tuple xs _) => do
              if given > xs.length then refuse xs.length
              let names ← (xs.take given).mapM fun x => match x with
                | .scalar (.str t) _ => pure t
                | x => do Run.typeFail ("__match_args__ elements must be strings (got " ++
                    (← Run.typeOf x) ++ ")")
              pure (false, names)
            | some m => do
              Run.typeFail (name ++ ".__match_args__ must be a tuple (got " ++
                (← Run.typeOf m) ++ ")")
        | _ => pure (false, [])
      match ← attrsOf n o name (names ++ named.map (·.1)) [] [] with
      | none => pure none
      | some values =>
        let subjects := (if selfMatch then [o] else []) ++ values
        matchEach n ((positional ++ named.map (·.2)).zip subjects) bound

/-- Match objects against patterns in turn. -/
def matchEach : Nat → List (Pattern × Obj) → List (String × Obj) →
    Run (Option (List (String × Obj)))
  | 0, _, _ => throw outOfFuel
  | _ + 1, [], bound => pure (some bound)
  | n + 1, (p, o) :: rest, bound => do
    match ← matchPattern n o p bound with
    | some b => matchEach n rest b
    | none => pure none

/-- Match an object against alternatives: the first that matches. -/
def matchFirst : Nat → Obj → List Pattern → List (String × Obj) →
    Run (Option (List (String × Obj)))
  | 0, _, _, _ => throw outOfFuel
  | _ + 1, _, [], _ => pure none
  | n + 1, o, p :: rest, bound => do
    match ← matchPattern n o p bound with
    | some b => pure (some b)
    | none => matchFirst n o rest bound

/-- The attributes of an object under names, in turn, for a class pattern: a name met twice
is refused, and none when the object lacks one. -/
def attrsOf : Nat → Obj → String → List String → List String → List Obj →
    Run (Option (List Obj))
  | 0, _, _, _, _, _ => throw outOfFuel
  | _ + 1, _, _, [], _, acc => pure (some acc)
  | n + 1, o, cname, a :: rest, seen, acc => do
    if seen.contains a then
      Run.typeFail (cname ++ "() got multiple sub-patterns for attribute '" ++ a ++ "'")
    let got ← tryCatch (some <$> getAttr n o a) fun f =>
      if f.runtimeKind? == some .attributeError then pure none else throw f
    match got with
    | none => pure none
    | some v => attrsOf n o cname rest (a :: seen) (acc ++ [v])

/-- Run a block inside context managers, the first outermost. A manager's `__enter__` gives
the value bound to its target; its `__exit__` runs after the block with the class and the
exception that ended it, or three `None`s when none did, and a true answer swallows the
exception. -/
def managed : Nat → List (Expr × Option Expr) → List Stmt → Run Flow
  | 0, _, _ => throw outOfFuel
  | n + 1, [], body => exec n body
  | n + 1, (e, target) :: rest, body => do
    let mgr ← eval n e
    let refused (missed : String) : Run Unit := do
      Run.typeFail ("'" ++ (← Run.typeOf mgr) ++
        "' object does not support the context manager protocol" ++ missed)
    let some (c, enter) ← Run.hook? mgr "__enter__" | do refused ""; throw unsupported
    let some (d, exit) ← Run.hook? mgr "__exit__" | do
      refused " (missed __exit__ method)"; throw unsupported
    let exitFn ← Run.bindTo mgr d exit
    let entered ← call n (← Run.bindTo mgr c enter) [] []
    let outcome ← tryCatch (do
        if let some t := target then assign n t entered
        pure (Except.ok (← managed n rest body)))
      fun f => if catchable f then pure (Except.error f) else throw f
    match outcome with
    | .ok flow => do
      discard <| call n exitFn [noneObj, noneObj, noneObj] []
      pure flow
    | .error f => do
      let (f, obj) ← Run.caught f
      -- the exception is being handled while `__exit__` runs
      modify fun m => { m with handling := f :: m.handling }
      let answer ← tryCatch (call n exitFn [(← Run.heap).classObj obj, obj, noneObj] [])
        fun err => do
          modify fun m => { m with handling := m.handling.drop 1 }
          throw err
      modify fun m => { m with handling := m.handling.drop 1 }
      if ← truth n answer then pure .normal else throw f

end

end Storefront.Script
