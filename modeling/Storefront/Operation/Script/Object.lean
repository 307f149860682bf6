import Storefront.Operation.Script.Arith
import Storefront.Operation.Script.SetTable
import Storefront.Time.Duration
import Storefront.Text.Encoding

/-!
# Objects of running bodies

A running body works on objects. Scalars, tuples and ranges are values that cannot change;
lists, dicts, sets, records, functions, iterators, views of dicts, exceptions and the classes
of the body and their objects live in a heap and are reached through their address, so that
two names can share one of them and a change through one is seen through the other. An
exception keeps its arguments and the attributes set on it, among them the exceptions it was
raised from or while handling.

Every object has an identity, which `is` compares. A scalar or tuple carries its `Origin`:
`shared` objects are one object per value (none, booleans, integers from -5 to 256, strings
of at most one character below U+0100, constant strings made only of name characters, the
empty tuple, statuses); a constant of a unit of code is one object for all its equal
occurrences in that unit; any other object made at run time is new. Heap objects are
identified by their address.

Equality compares values; inside containers an item is first compared by identity, so a
list holding a NaN equals itself. Order is defined on numbers, strings, times, and
element-wise on lists and on tuples. A dict finds a key by identity or equality, the way
equal numbers of different classes are one key.

The machine that runs a body holds the heap, the counter that numbers new objects, the
module's global names, and the frame of the code that runs.
-/

namespace Storefront.Script

/-- Where an object came from, which decides when two objects are one. -/
inductive Origin where
  /-- the one object of its value -/
  | shared
  /-- a constant of a unit of code, one object for all equal occurrences there -/
  | const (unit : Nat) (key : String)
  /-- made at run time -/
  | made (n : Nat)
  /-- the object the table of interned strings holds for a one-character string that it
  held before any body ran, apart from the character's own shared object -/
  | interned
deriving DecidableEq, Repr, Inhabited

/-- An object of a running body. -/
inductive Obj where
  /-- an immutable scalar: none, a boolean, a number, a string, a time or a status -/
  | scalar (v : Value) (o : Origin)
  | tuple (items : List Obj) (o : Origin)
  /-- an immutable string of bytes -/
  | bytes (data : List UInt8) (o : Origin)
  /-- an object in the heap -/
  | ref (addr : Nat)
  | range (start stop step : Int) (o : Origin)
  /-- a builtin function, by name -/
  | builtin (name : String)
  /-- a class, by name -/
  | cls (name : String)
  /-- a method of an object -/
  | method (recv : Obj) (name : String) (o : Origin)
  /-- a function of the body bound to the object it was read from -/
  | bound (self : Obj) (func : Obj) (o : Origin)
  /-- a module of the runtime's library, by name -/
  | module (name : String)
  /-- a span of time, in microseconds -/
  | duration (micros : Int) (o : Origin)
  /-- a fixed offset from UTC as a time zone, in microseconds -/
  | zone (offset : Int)
  /-- what `super()` gives: attributes of an object looked for in its class's order after a
  class -/
  | proxy (start : Obj) (self : Obj) (o : Origin)
  /-- the service an operation runs on -/
  | service
  /-- the answer of a hook that leaves an operation to the other operand -/
  | notImplemented
  /-- the one object written as three dots -/
  | ellipsis
deriving Inhabited

/-- How a function is kept as an attribute of a class: called without the object it is read
from, called with the object's class, or read as a property, through a getter and set
through a setter. -/
inductive WrapperKind where
  | staticMethod
  | classMethod
  | property
deriving DecidableEq, Repr, Inhabited

/-- What a function runs: the expression of a `lambda`, or the statements of a `def`. -/
inductive Code where
  | expr (e : Expr)
  | block (ss : List Stmt)

/-- A function made by the body: its name and qualified name, its parameters with the
objects of their defaults, its code, the own names of its scope, the names it declares
global or nonlocal, the scope of the function it was made in (none at the level of the
module, or of a class there), its unit of code, and whether it is a generator function. -/
structure Func where
  name : String
  qualname : String
  params : List (String × ParamRole × Option Obj)
  code : Code
  locals : List String
  globalNames : List String
  nonlocals : List String
  parent : Option Nat
  unit : Nat
  generator : Bool
  /-- the class whose body made the function, which `super()` in it starts after -/
  owner : Option Nat := none

/-- The kinds of scope: a function's (a `lambda` included), a comprehension's, and a class
body's, whose names the functions made in it do not see. -/
inductive ScopeKind where
  | function
  | comprehension
  | classBody
deriving DecidableEq, Repr, Inhabited

/-- The names of a running function, comprehension or class body, kept in the heap so that
the functions made in it read its names as they are when they run and may rebind those
they declare nonlocal. Its own names are fixed before it runs: those it binds anywhere, less
those it declares global or nonlocal; one of them read before it is bound is an unbound
local. -/
structure Scope where
  kind : ScopeKind
  vars : List (String × Obj) := []
  locals : List String := []
  globalNames : List String := []
  nonlocals : List String := []
  parent : Option Nat := none

/-- A class made by the body: its name and qualified name, its bases (classes of the body or
builtin classes), its attributes in the order they were bound, and the classes after it in
its order of lookup. -/
structure UserClass where
  name : String
  qualname : String
  bases : List Obj
  attrs : List (String × Obj)
  mro : List Obj

/-- A generator expression in progress: its item and clauses, its own scope, its unit of
code, and for each `for` clause entered, innermost first, the clause's position and its
iterator. -/
structure Gen where
  item : Expr
  clauses : List Clause
  scope : Nat
  unit : Nat
  frames : List (Nat × Obj)

/-- What a view of a dict shows of each entry: its key, its value, or the pair of both. -/
inductive ViewKind where
  | keys
  | values
  | items
deriving DecidableEq, Repr, Inhabited

/-- The name of the class of a view of a dict. -/
def ViewKind.className : ViewKind → String
  | .keys => "dict_keys"
  | .values => "dict_values"
  | .items => "dict_items"

/-- The name of the class of an iterator over a view of a dict. -/
def ViewKind.iterName : ViewKind → String
  | .keys => "dict_keyiterator"
  | .values => "dict_valueiterator"
  | .items => "dict_itemiterator"

/-- The name of the class of an iterator over a view of a dict from its end. -/
def ViewKind.backName : ViewKind → String
  | .keys => "dict_reversekeyiterator"
  | .values => "dict_reversevalueiterator"
  | .items => "dict_reverseitemiterator"

/-- The state of an iterator. -/
inductive Iter where
  /-- the items of a list, tuple, string or range by position, read as they are when asked -/
  | seq (src : Obj) (pos : Nat)
  /-- items fixed when the iterator was made -/
  | items (rest : List Obj)
  /-- the entries of the dict at an address from a position, read as the dict is now, with
  what is shown of each and the dict's size when the walk began -/
  | dictWalk (dict : Nat) (kind : ViewKind) (pos : Nat) (size : Nat)
  /-- the entries of the dict at an address from its end, with how many are left to read
  and the dict's size when the walk began -/
  | dictBack (dict : Nat) (kind : ViewKind) (left : Nat) (size : Nat)
  /-- the slots of the set at an address from a position, read as the set is now, with the
  set's size when the walk began -/
  | setWalk (set : Nat) (slot : Nat) (size : Nat)
  /-- a list from its end: how many items are left -/
  | rev (src : Obj) (left : Nat)
  | enumerate (src : Obj) (n : Int)
  /-- iterators walked together; a strict walk fails when they end at different places -/
  | zip (srcs : List Obj) (strict : Bool)
  | map (fn : Obj) (srcs : List Obj)
  | filter (fn : Obj) (src : Obj)
  | gen (g : Gen)
  /-- a generator function called, its body not yet run: the function and its scope -/
  | paused (fn : Func) (scope : Nat)
  /-- a generator function whose body has run: the items it yielded that are left, and the
  failure that ended it, raised once they are taken -/
  | yielded (rest : List Obj) (ending : Option Failure)
  | exhausted

/-- An object in the heap. -/
inductive Cell where
  | list (items : Array Obj)
  | dict (entries : Array (Obj × Obj))
  /-- a set, or a frozen set when it cannot change -/
  | set (t : SetTable Obj) (frozen : Bool)
  | record (cls : RecordClass) (fields : List (String × Obj))
  | func (f : Func)
  | iter (it : Iter)
  | scope (s : Scope)
  | cls (c : UserClass)
  /-- an object of a class of the body: its class and its attributes in order -/
  | inst (cls : Nat) (attrs : List (String × Obj))
  /-- a function kept in a class in a way other than as a method, with a property's setter -/
  | wrapper (kind : WrapperKind) (fn : Obj) (setter : Option Obj)
  /-- a view of the dict at an address, which follows the dict as it changes -/
  | view (kind : ViewKind) (dict : Nat)
  /-- an exception of a class of the runtime: its class, its arguments, and the attributes
  set on it (the exceptions it was raised from or while handling among them) -/
  | exception (cls : String) (args : List Obj) (attrs : List (String × Obj))
  /-- an object of the base class itself, which holds nothing and equals only itself -/
  | bare
deriving Inhabited

/-- The heap of a running body. -/
abbrev Heap := Array Cell

/-- The cell at an address. -/
def Heap.cell (h : Heap) (a : Nat) : Cell := h.getD a (.list #[])

/-- The value of a name in a list of bindings. -/
def bound? (vars : List (String × Obj)) (x : String) : Option Obj :=
  (vars.find? (·.1 == x)).map (·.2)

/-- Bindings with a name set: in place when it is bound, else added. -/
def bindName (vars : List (String × Obj)) (x : String) (o : Obj) : List (String × Obj) :=
  if vars.any (·.1 == x) then vars.map fun (k, w) => if k == x then (k, o) else (k, w)
  else vars ++ [(x, o)]

/-- The class of the body at an address. -/
def Heap.userClass? (h : Heap) (a : Nat) : Option UserClass :=
  match h.cell a with
  | .cls c => some c
  | _ => none

/-- An attribute of a class of the body, or of the classes after it in its order. -/
def Heap.classAttr? (h : Heap) (c : UserClass) (name : String) : Option Obj :=
  match bound? c.attrs name with
  | some o => some o
  | none => c.mro.findSome? fun b => match b with
    | .ref a => (h.userClass? a).bind fun k => bound? k.attrs name
    | _ => none

/-- A string that is its value's one object: short strings below U+0100. -/
def sharedText (s : String) : Bool :=
  match s.toList with
  | [] => true
  | [c] => c.toNat < 256
  | _ => false

/-- The one-character strings that the table of interned strings holds as objects of their
own, made when the runtime starts: a literal of one of them is that object, while the same
character made at run time (by `chr`, an index, a slice) is the character's shared object. -/
def preinternedChars : List Char := "BCLST_abcdefhijklmnopqrstvwxy".toList

/-- A constant string kept as the one object of its value: made only of ASCII letters,
digits and underscores. -/
def internedText (s : String) : Bool :=
  s.toList.all fun c => c.isAlphanum && c.toNat < 128 || c == '_'

/-- A scalar that is its value's one object. -/
def sharedScalar : Value → Bool
  | .none | .bool _ | .status _ => true
  | .int i => -5 ≤ i && i ≤ 256
  | .str s => sharedText s
  | _ => false

/-- The kind of a scalar, for telling apart values that compare equal. -/
def scalarKind : Value → Nat
  | .none => 0
  | .bool _ => 1
  | .int _ => 2
  | .float _ => 3
  | .str _ => 4
  | .time _ => 5
  | .status _ => 6
  | _ => 7

/-- The key of a constant among the constants of its unit: its kind and its text. -/
def constKey : Value → String
  | .float x => "f" ++ toString x.toBits
  | .tuple xs => "t(" ++ ",".intercalate (xs.map constKey) ++ ")"
  | v => toString (scalarKind v) ++ ":" ++ v.repr

/-- Two scalars that are one object by value: same kind, same value (a float by its bits). -/
def sameScalar : Value → Value → Bool
  | .none, .none => true
  | .bool a, .bool b => a == b
  | .int a, .int b => a == b
  | .float a, .float b => a.toBits == b.toBits
  | .str a, .str b => a == b
  | .status a, .status b => a == b
  | _, _ => false

/-- Whether two objects are one object. -/
def Obj.identical : Obj → Obj → Bool
  | .scalar v o, .scalar w p =>
    match o, p with
    | .shared, .shared => sameScalar v w
    | .const u k, .const u' k' => u == u' && k == k'
    | .made n, .made m => n == m
    | .interned, .interned => sameScalar v w
    | _, _ => false
  | .tuple xs o, .tuple ys p =>
    match o, p with
    | .shared, .shared => xs.isEmpty && ys.isEmpty
    | _, _ => o == p && o != .shared
  | .bytes xs o, .bytes ys p =>
    match o, p with
    | .shared, .shared => xs == ys
    | _, _ => o == p && o != .shared
  | .ref a, .ref b => a == b
  | .range _ _ _ o, .range _ _ _ p => o == p && o != .shared
  | .builtin a, .builtin b => a == b
  | .cls a, .cls b => a == b
  | .method _ _ o, .method _ _ p => o == p
  | .bound _ _ o, .bound _ _ p => o == p
  | .duration _ o, .duration _ p => o == p && o != .shared
  | .zone a, .zone b => a == b
  | .proxy _ _ o, .proxy _ _ p => o == p
  | .module a, .module b => a == b
  | .service, .service => true
  | .notImplemented, .notImplemented => true
  | .ellipsis, .ellipsis => true
  | _, _ => false

/-- The scalar value of an object, if it is a scalar. -/
def Obj.scalar? : Obj → Option Value
  | .scalar v _ => some v
  | _ => none

/-- The length of a range. -/
def rangeLength (start stop step : Int) : Nat :=
  if step > 0 then (if stop > start then ((stop - start + step - 1) / step).toNat else 0)
  else if step < 0 then (if start > stop then ((start - stop - step - 1) / (-step)).toNat else 0)
  else 0

/-- The class name of a record's class as the runtime shows it, with its module. -/
def qualifiedName (c : RecordClass) : String := c.moduleName ++ "." ++ c.name

/-- The name of an object's class as messages show it, with the module of a class of the
time library. -/
def typeName (h : Heap) : Obj → String
  | .scalar v _ => match v with
    | .none => "NoneType"
    | .bool _ => "bool"
    | .int _ => "int"
    | .float _ => "float"
    | .str _ => "str"
    | .time _ => "datetime.datetime"
    | .status _ => "TaskStatus"
    | _ => "object"
  | .tuple .. => "tuple"
  | .ref a => match h.cell a with
    | .list _ => "list"
    | .dict _ => "dict"
    | .set _ frozen => if frozen then "frozenset" else "set"
    | .record c _ => c.name
    | .func _ => "function"
    | .scope _ => "cell"
    | .cls _ => "type"
    | .inst c _ => match h.cell c with
      | .cls k => k.name
      | _ => "object"
    | .wrapper k _ _ => match k with
      | .staticMethod => "staticmethod"
      | .classMethod => "classmethod"
      | .property => "property"
    | .view k _ => k.className
    | .exception c _ _ => c
    | .bare => "object"
    | .iter it => match it with
      | .seq src _ => match src with
        | .scalar (.str _) _ => "str_ascii_iterator"
        | .tuple .. => "tuple_iterator"
        | .bytes .. => "bytes_iterator"
        | .range .. => "range_iterator"
        | .ref b => match h.cell b with
          | .inst .. => "iterator"
          | _ => "list_iterator"
        | _ => "list_iterator"
      | .items _ => "dict_keyiterator"
      | .dictWalk _ k _ _ => k.iterName
      | .dictBack _ k _ _ => k.backName
      | .setWalk .. => "set_iterator"
      | .rev .. => "list_reverseiterator"
      | .enumerate .. => "enumerate"
      | .zip .. => "zip"
      | .map .. => "map"
      | .filter .. => "filter"
      | .gen _ | .paused .. | .yielded .. => "generator"
      | .exhausted => "iterator"
  | .range .. => "range"
  | .bytes .. => "bytes"
  | .builtin _ => "builtin_function_or_method"
  | .cls _ => "type"
  | .method (.cls _) n _ =>
    if n == "fromkeys" || n == "fromhex" || n == "maketrans" then "builtin_function_or_method"
    else "method_descriptor"
  | .method .. => "builtin_function_or_method"
  | .bound .. => "method"
  | .module _ => "module"
  | .duration .. => "datetime.timedelta"
  | .zone _ => "datetime.timezone"
  | .proxy .. => "super"
  | .service => "Svc"
  | .notImplemented => "NotImplementedType"
  | .ellipsis => "ellipsis"

/-- The name of an object's class, as the class itself gives it. -/
def shortTypeName (h : Heap) (o : Obj) : String :=
  match o with
  | .scalar (.time _) _ => "datetime"
  | .duration .. => "timedelta"
  | .zone _ => "timezone"
  | o => typeName h o

/-- Truth as a condition: empty containers, zero and none are false. -/
def truthy (h : Heap) : Obj → Bool
  | .scalar v _ => v.truthy
  | .tuple xs _ => !xs.isEmpty
  | .bytes bs _ => !bs.isEmpty
  | .ref a => match h.cell a with
    | .list xs => !xs.isEmpty
    | .dict es => !es.isEmpty
    | .set t _ => t.used != 0
    | .view _ d => match h.cell d with
      | .dict es => !es.isEmpty
      | _ => false
    | _ => true
  | .range a b s _ => rangeLength a b s != 0
  | .duration us _ => us != 0
  | _ => true

/-- Whether an object can be a dict key or a set member: lists, dicts and sets cannot,
tuples when their items can, records only of a frozen class whose fields can, and objects of
a class of the body unless the class sets its hash to `None`. -/
def hashable (h : Heap) : Nat → Obj → Bool
  | 0, _ => false
  | fuel + 1, o => match o with
    | .tuple xs _ => xs.all (hashable h fuel)
    | .ref a => match h.cell a with
      | .list _ | .dict _ => false
      | .set _ frozen => frozen
      | .view k _ => k == .values
      | .record c fs => c.frozen && fs.all fun (_, x) => hashable h fuel x
      | .inst c _ => match (h.userClass? c).bind (h.classAttr? · "__hash__") with
        | some (.scalar .none _) => false
        | _ => true
      | _ => true
    | _ => true

/-- A failure when the depth of nested containers runs out. -/
def tooDeep : Failure := .runtime .recursionError

/-- What a view of the dict at an address shows, as the dict is now: its keys, its values,
or its entries as pairs. -/
def Heap.viewItems (h : Heap) (k : ViewKind) (d : Nat) : Option (List Obj) :=
  match h.cell d with
  | .dict es => some (es.toList.map fun (key, v) => match k with
    | .keys => key
    | .values => v
    | .items => .tuple [key, v] .shared)
  | _ => none

/-- The members of an object that compares as a set: a set, or a view of a dict's keys or
entries. -/
def Heap.setLike? (h : Heap) (a : Nat) : Option (List Obj) :=
  match h.cell a with
  | .set t _ => some t.members
  | .view .values _ => none
  | .view k d => h.viewItems k d
  | _ => none

mutual

/-- Equality of two objects as `==` sees it. -/
def equal (h : Heap) : Nat → Obj → Obj → Except Failure Bool
  | 0, _, _ => throw tooDeep
  | fuel + 1, a, b =>
    match a, b with
    | .scalar v _, .scalar w _ => pure (Value.same v w)
    | .tuple xs _, .tuple ys _ => equalItems h fuel xs ys
    | .bytes xs _, .bytes ys _ => pure (xs == ys)
    | .range a b s _, .range c d t _ =>
      let n := rangeLength a b s
      pure (n == rangeLength c d t && (n == 0 || (a == c && (n == 1 || s == t))))
    | .ref x, .ref y =>
      -- a container equals itself: its items are compared by identity first
      if x == y then pure true
      else match h.cell x, h.cell y with
        | .list xs, .list ys => equalItems h fuel xs.toList ys.toList
        | .dict es, .dict fs =>
          if es.size != fs.size then pure false else equalEntries h fuel es.toList fs
        | .set xs _, .set ys _ =>
          if xs.used != ys.used then pure false
          else containsAll h fuel xs.members ys.members.toArray
        | .record c fs, .record d gs =>
          if c != d then pure false else equalItems h fuel (fs.map (·.2)) (gs.map (·.2))
        | .view .., _ | _, .view .. =>
          match h.setLike? x, h.setLike? y with
          | some xs, some ys =>
            if xs.length != ys.length then pure false
            else containsAll h fuel xs ys.toArray
          | _, _ => pure false
        | _, _ => pure false
    | .builtin x, .builtin y => pure (x == y)
    | .cls x, .cls y => pure (x == y)
    -- methods are equal when bound to the same object
    | .bound s f _, .bound t g _ => pure (s.identical t && f.identical g)
    | .method s x _, .method t y _ => pure (s.identical t && x == y)
    | .duration x _, .duration y _ => pure (x == y)
    | .zone x, .zone y => pure (x == y)
    | x, y => pure (x.identical y)

/-- Items equal pairwise, each first compared by identity. -/
def equalItems (h : Heap) : Nat → List Obj → List Obj → Except Failure Bool
  | 0, _, _ => throw tooDeep
  | _ + 1, [], [] => pure true
  | fuel + 1, x :: xs, y :: ys => do
    if x.identical y || (← equal h fuel x y) then equalItems h fuel xs ys else pure false
  | _ + 1, _, _ => pure false

/-- Every entry has an equal entry under an equal key in the other dict. -/
def equalEntries (h : Heap) : Nat → List (Obj × Obj) → Array (Obj × Obj) → Except Failure Bool
  | 0, _, _ => throw tooDeep
  | _ + 1, [], _ => pure true
  | fuel + 1, (k, v) :: es, fs => do
    match ← findEntry h fuel fs.toList k 0 with
    | some i =>
      let w := (fs.getD i (k, v)).2
      if v.identical w || (← equal h fuel v w) then equalEntries h fuel es fs else pure false
    | none => pure false

/-- Every object is a member of the set's items. -/
def containsAll (h : Heap) : Nat → List Obj → Array Obj → Except Failure Bool
  | 0, _, _ => throw tooDeep
  | _ + 1, [], _ => pure true
  | fuel + 1, x :: xs, ys => do
    if (← findItem h fuel ys.toList x 0).isSome then containsAll h fuel xs ys else pure false

/-- The position of the entry whose key is the key or equal to it. -/
def findEntry (h : Heap) : Nat → List (Obj × Obj) → Obj → Nat → Except Failure (Option Nat)
  | 0, _, _, _ => throw tooDeep
  | _ + 1, [], _, _ => pure none
  | fuel + 1, (k, _) :: es, key, i => do
    if k.identical key || (← equal h fuel k key) then pure (some i)
    else findEntry h fuel es key (i + 1)

/-- The position of the item that is the object or equal to it. -/
def findItem (h : Heap) : Nat → List Obj → Obj → Nat → Except Failure (Option Nat)
  | 0, _, _, _ => throw tooDeep
  | _ + 1, [], _, _ => pure none
  | fuel + 1, x :: xs, key, i => do
    if x.identical key || (← equal h fuel x key) then pure (some i)
    else findItem h fuel xs key (i + 1)

end

/-- The depth of nesting that comparisons and texts follow. -/
def depth : Nat := 1000

/-- The failure of an object that cannot key a dict or be a member of a set. -/
def unhashable (h : Heap) (o : Obj) : Failure :=
  .runtimeText .typeError ("unhashable type: '" ++ typeName h o ++ "'")

/-- The position of a key in a dict's entries; an unhashable key is a type failure. -/
def Heap.keyIndex (h : Heap) (es : Array (Obj × Obj)) (k : Obj) : Except Failure (Option Nat) :=
  if !hashable h depth k then throw (unhashable h k) else findEntry h depth es.toList k 0

/-- The position of a member of a set; an unhashable object is a type failure. -/
def Heap.memberIndex (h : Heap) (xs : Array Obj) (k : Obj) : Except Failure (Option Nat) :=
  if !hashable h depth k then throw (unhashable h k) else findItem h depth xs.toList k 0

/-- Bytes in order: the first pair that differ decides, else the shorter is first. -/
def bytesOrder : List UInt8 → List UInt8 → Ordering
  | [], [] => .eq
  | [], _ :: _ => .lt
  | _ :: _, [] => .gt
  | x :: xs, y :: ys => if x == y then bytesOrder xs ys else compare x.toNat y.toNat

/-- The failure of an order operator between objects it does not order. -/
def orderFault (h : Heap) (op : CmpOp) (a b : Obj) : Failure :=
  match a, b with
  | .scalar (.time _) _, .scalar (.time _) _ =>
    .runtimeText .typeError "can't compare offset-naive and offset-aware datetimes"
  | _, _ => .runtimeText .typeError ("'" ++ op.symbol ++ "' not supported between instances of '" ++
    typeName h a ++ "' and '" ++ typeName h b ++ "'")

mutual

/-- A comparison by an order operator: numbers, strings and times by value, lists with
lists and tuples with tuples item by item, sets by inclusion; anything else is a type
failure. -/
def order (h : Heap) : Nat → CmpOp → Obj → Obj → Except Failure Bool
  | 0, _, _, _ => throw tooDeep
  | fuel + 1, op, a, b =>
    match a, b with
    | .scalar v _, .scalar w _ =>
      match Value.test op v w with
      | some t => pure t
      | none => throw (orderFault h op a b)
    | .tuple xs _, .tuple ys _ => orderItems h fuel op xs ys
    | .bytes xs _, .bytes ys _ => pure (op.holds (bytesOrder xs ys))
    | .duration x _, .duration y _ => pure (op.holds (compare x y))
    | .ref x, .ref y =>
      match h.cell x, h.cell y with
      | .list xs, .list ys => orderItems h fuel op xs.toList ys.toList
      | .set xs _, .set ys _ => do
        let sub ← containsAll h fuel xs.members ys.members.toArray
        let sup ← containsAll h fuel ys.members xs.members.toArray
        pure (match op with
          | .lt => sub && !sup
          | .le => sub
          | .gt => sup && !sub
          | .ge => sup
          | .eq => sub && sup)
      | _, _ => throw (orderFault h op a b)
    | _, _ => throw (orderFault h op a b)

/-- Sequences in order: the operator on the first pair of items that differ, else on the
lengths. -/
def orderItems (h : Heap) : Nat → CmpOp → List Obj → List Obj → Except Failure Bool
  | 0, _, _, _ => throw tooDeep
  | _ + 1, op, [], [] => pure (op.holds .eq)
  | _ + 1, op, [], _ :: _ => pure (op.holds .lt)
  | _ + 1, op, _ :: _, [] => pure (op.holds .gt)
  | fuel + 1, op, x :: xs, y :: ys => do
    if x.identical y || (← equal h fuel x y) then orderItems h fuel op xs ys
    else order h fuel op x y

end

/-- The name of a zone of a fixed offset: `UTC`, or `UTC` with the offset. -/
def zoneName (offset : Int) : String :=
  if offset == 0 then "UTC" else "UTC" ++ DateTime.offsetText offset

/-- The text of a zone of a fixed offset as `repr` writes it. -/
def zoneRepr (offset : Int) : String :=
  if offset == 0 then "datetime.timezone.utc"
  else "datetime.timezone(" ++ DateTime.spanText offset ++ ")"

/-- The module the body's code belongs to. -/
def bodyModule : String := "svc"

/-- The address an object of the heap is shown at; the runtime's own addresses are not
known, so this is a stand-in made from the object's place in the heap. -/
def addressText (a : Nat) : String := "0x7f" ++ Value.hex 10 (a * 16)

/-- The text of a class as the runtime shows it. -/
def classText (name : String) : String :=
  match RecordClass.ofName? name with
  | some c => "<class '" ++ qualifiedName c ++ "'>"
  | none =>
    if name == "TaskStatus" then "<enum 'TaskStatus'>"
    else if name == "datetime" || name == "timedelta" || name == "timezone" then
      "<class 'datetime." ++ name ++ "'>"
    else if name == "BadRequestError" || name == "InternalServerError" then
      "<class 'ecomm.error." ++ name ++ "'>"
    else "<class '" ++ name ++ "'>"

/-- The text of a scalar as `repr` writes it; an integer past the digit limit is refused. -/
def scalarRepr (v : Value) : Except Failure String :=
  match v with
  | .int i => intText i
  | v => pure v.repr

/-- The text of a scalar as `str` writes it. -/
def scalarStr (v : Value) : Except Failure String :=
  match v with
  | .int i => intText i
  | v => pure v.plain

mutual

/-- The text of an object as `repr` writes it. A list or dict met again inside itself is
written `[...]` or `{...}`. -/
def reprOf (h : Heap) : Nat → List Nat → Obj → Except Failure String
  | 0, _, _ => throw tooDeep
  | fuel + 1, seen, o =>
    match o with
    | .scalar v _ => scalarRepr v
    | .tuple [x] _ => do pure ("(" ++ (← reprOf h fuel seen x) ++ ",)")
    | .tuple xs _ => do pure ("(" ++ (← reprsOf h fuel seen xs) ++ ")")
    | .bytes bs _ => pure (Text.bytesRepr bs)
    | .ref a =>
      match h.cell a with
      | .list xs =>
        if seen.contains a then pure "[...]"
        else do pure ("[" ++ (← reprsOf h fuel (a :: seen) xs.toList) ++ "]")
      | .dict es =>
        if seen.contains a then pure "\x7b...\x7d"
        else do pure ("\x7b" ++ (← entriesOf h fuel (a :: seen) es.toList) ++ "\x7d")
      | .set t frozen =>
        let name := if frozen then "frozenset" else "set"
        if t.used == 0 then pure (name ++ "()")
        else if seen.contains a then pure (name ++ "(...)")
        else do
          let body := "\x7b" ++ (← reprsOf h fuel (a :: seen) t.members) ++ "\x7d"
          pure (if frozen then name ++ "(" ++ body ++ ")" else body)
      | .record c fs =>
        if seen.contains a then pure "..."
        else do pure (c.name ++ "(" ++ (← fieldsOf h fuel (a :: seen) fs) ++ ")")
      | .func f => pure ("<function " ++ f.qualname ++ " at " ++ addressText a ++ ">")
      | .iter _ => pure ("<" ++ typeName h o ++ " object at " ++ addressText a ++ ">")
      | .scope _ => pure ("<cell at " ++ addressText a ++ ">")
      | .cls c => pure ("<class '" ++ bodyModule ++ "." ++ c.qualname ++ "'>")
      | .inst c _ => match h.cell c with
        | .cls k => pure ("<" ++ bodyModule ++ "." ++ k.qualname ++ " object at " ++ addressText a ++ ">")
        | _ => pure ("<object at " ++ addressText a ++ ">")
      | .wrapper .. => pure ("<" ++ typeName h o ++ " object at " ++ addressText a ++ ">")
      | .view k d =>
        if seen.contains a then pure "..."
        else match h.viewItems k d with
          | some xs => do pure (k.className ++ "([" ++ (← reprsOf h fuel (a :: seen) xs) ++ "])")
          | none => pure (k.className ++ "([])")
      | .exception c [x] _ => do pure (c ++ "(" ++ (← reprOf h fuel seen x) ++ ")")
      | .exception c xs _ => do pure (c ++ "(" ++ (← reprsOf h fuel seen xs) ++ ")")
      | .bare => pure ("<object object at " ++ addressText a ++ ">")
    | .range a b s _ =>
      pure ("range(" ++ toString a ++ ", " ++ toString b ++
        (if s == 1 then "" else ", " ++ toString s) ++ ")")
    | .builtin n => pure ("<built-in function " ++ n ++ ">")
    | .cls n => pure (classText n)
    | .method (.cls c) n _ =>
      if n == "fromkeys" || n == "fromhex" || n == "maketrans" then
        pure ("<built-in method " ++ n ++ " of type object>")
      else pure ("<method '" ++ n ++ "' of '" ++ c ++ "' objects>")
    | .method r n _ => pure ("<built-in method " ++ n ++ " of " ++ typeName h r ++ " object>")
    | .bound self f _ => do
      let name := match f with
        | .ref b => match h.cell b with
          | .func fn => fn.qualname
          | _ => "?"
        | _ => "?"
      pure ("<bound method " ++ name ++ " of " ++ (← reprOf h fuel seen self) ++ ">")
    | .module m => pure ("<module '" ++ m ++ "' (built-in)>")
    | .duration us _ => pure (DateTime.spanText us)
    | .zone o => pure (zoneRepr o)
    | .proxy .. => pure "<super object>"
    | .service => pure "<svc.Svc object>"
    | .notImplemented => pure "NotImplemented"
    | .ellipsis => pure "Ellipsis"

/-- The texts of items separated by commas. -/
def reprsOf (h : Heap) : Nat → List Nat → List Obj → Except Failure String
  | 0, _, _ => throw tooDeep
  | _ + 1, _, [] => pure ""
  | fuel + 1, seen, [x] => reprOf h fuel seen x
  | fuel + 1, seen, x :: xs => do
    pure ((← reprOf h fuel seen x) ++ ", " ++ (← reprsOf h fuel seen xs))

/-- Dict entries as `key: value` separated by commas. -/
def entriesOf (h : Heap) : Nat → List Nat → List (Obj × Obj) → Except Failure String
  | 0, _, _ => throw tooDeep
  | _ + 1, _, [] => pure ""
  | fuel + 1, seen, [(k, v)] => do
    pure ((← reprOf h fuel seen k) ++ ": " ++ (← reprOf h fuel seen v))
  | fuel + 1, seen, (k, v) :: es => do
    pure ((← reprOf h fuel seen k) ++ ": " ++ (← reprOf h fuel seen v) ++ ", " ++
      (← entriesOf h fuel seen es))

/-- Record fields as `name=value` separated by commas. -/
def fieldsOf (h : Heap) : Nat → List Nat → List (String × Obj) → Except Failure String
  | 0, _, _ => throw tooDeep
  | _ + 1, _, [] => pure ""
  | fuel + 1, seen, [(k, v)] => do pure (k ++ "=" ++ (← reprOf h fuel seen v))
  | fuel + 1, seen, (k, v) :: fs => do
    pure (k ++ "=" ++ (← reprOf h fuel seen v) ++ ", " ++ (← fieldsOf h fuel seen fs))

end

/-- The text of an object as `repr` writes it. -/
def Heap.repr (h : Heap) (o : Obj) : Except Failure String := reprOf h depth [] o

/-- The message of a codec failure made from its five arguments: the encoding, the text or
bytes, the positions it failed from and before, and the reason. -/
def codecErrorText? (cls : String) (args : List Obj) : Option String :=
  match cls, args with
  | "UnicodeEncodeError",
    [.scalar (.str e) _, .scalar (.str t) _, .scalar (.int a) _, .scalar (.int b) _,
      .scalar (.str r) _] => some (Text.encodeFaultText e t a.toNat b.toNat r)
  | "UnicodeDecodeError",
    [.scalar (.str e) _, .bytes bs _, .scalar (.int a) _, .scalar (.int b) _,
      .scalar (.str r) _] => some (Text.decodeFaultText e bs a.toNat b.toNat r)
  | _, _ => none

/-- The text of an object as `str` writes it: a string itself, a scalar's plain text, an
exception's message, a span's clock text, a zone's name, and otherwise its `repr`. An
exception's message is nothing without arguments, its one argument's text (a key error shows
the key as it reads back), or its arguments as a tuple. -/
def Heap.str (h : Heap) (o : Obj) : Except Failure String :=
  match o with
  | .scalar v _ => scalarStr v
  | .duration us _ => pure (Span.text us)
  | .zone off => pure (zoneName off)
  | .ref a => match h.cell a with
    | .exception c args _ => match codecErrorText? c args, args with
      | some t, _ => pure t
      | none, [] => pure ""
      | none, [x] => if c == "KeyError" then h.repr x else match x with
        | .scalar v _ => scalarStr v
        | .duration us _ => pure (Span.text us)
        | .zone off => pure (zoneName off)
        | x => h.repr x
      | none, xs => h.repr (.tuple xs .shared)
    | _ => h.repr o
  | o => h.repr o

/-- A text with every character past ASCII written as an escape: `\x`, `\u` or `\U`
with two, four or eight hex digits, the fewest that hold its code point. -/
def asciiEscaped (s : String) : String :=
  String.join (s.toList.map fun c =>
    let n := Text.codePoint c
    if n < 128 then String.singleton c
    else if n < 256 then "\\x" ++ Value.hex 2 n
    else if n < 0x10000 then "\\u" ++ Value.hex 4 n
    else "\\U" ++ Value.hex 8 n)

/-- The `repr` of an object with every character outside ASCII escaped. -/
def Heap.ascii (h : Heap) (o : Obj) : Except Failure String := do
  pure (asciiEscaped (← h.repr o))

/-- Entries keyed by text: a key met again keeps its first place and takes the new value. -/
def mergeEntry (es : List (String × Value)) (k : String) (v : Value) : List (String × Value) :=
  if es.any (·.1 == k) then es.map fun (k', w) => if k' == k then (k', v) else (k', w)
  else es ++ [(k, v)]

mutual

/-- The value an object stands for in an answer: scalars, lists, tuples and records as they
are, dicts keyed by the text of their keys. Other objects have no value here. -/
def answerOf (h : Heap) : Nat → Obj → Except Failure Value
  | 0, _ => throw tooDeep
  | fuel + 1, o =>
    match o with
    | .scalar v _ => pure v
    | .tuple xs _ => do pure (.tuple (← answersOf h fuel xs))
    | .ref a =>
      match h.cell a with
      | .list xs => do pure (.list (← answersOf h fuel xs.toList))
      | .dict es => do
        let mut acc : List (String × Value) := []
        for (k, v) in es.toList do
          let key ← h.str k
          let value ← answerOf h fuel v
          acc := mergeEntry acc key value
        pure (.dict acc)
      | .record c fs => do
        let vs ← answersOf h fuel (fs.map (·.2))
        pure (.record c ((fs.map (·.1)).zip vs))
      | _ => throw unsupported
    | _ => throw unsupported

/-- The values of objects in order. -/
def answersOf (h : Heap) : Nat → List Obj → Except Failure (List Value)
  | 0, _ => throw tooDeep
  | _ + 1, [] => pure []
  | fuel + 1, x :: xs => do pure ((← answerOf h fuel x) :: (← answersOf h fuel xs))

end

/-- The frame of running code: the scope its names live in (none for the module's code), its
unit of code, and the start of the qualified names of the functions and classes made in
it. -/
structure Frame where
  scope : Option Nat := none
  unit : Nat := 0
  qualPrefix : String := ""
  /-- for a function made in a class's body: the class, and the name of its first parameter,
  which `super()` reads -/
  method : Option (Nat × String) := none
deriving Inhabited

/-- The machine that runs bodies: the heap, the count of objects made, the module's names,
the running frame, the failures being handled (innermost first), how many calls of
functions are running, and the strings the runtime held interned before the body's code
was made (which decides how often its constant sets are rebuilt). -/
structure Machine where
  heap : Heap := #[]
  made : Nat := 0
  globals : List (String × Obj) := []
  frame : Frame := {}
  handling : List Failure := []
  calls : Nat := 0
  interned : List String := []
  /-- the items yielded so far by the generator functions whose bodies run, innermost first,
  each latest first -/
  yielded : List (List Obj) := []
deriving Inhabited

/-- None. -/
def noneObj : Obj := .scalar .none .shared

/-- A step of a running body: it changes the machine and may fail, and the changes made
before a failure stay. -/
abbrev Run := EStateM Failure Machine

namespace Run

/-- Fail with a failure. -/
def failWith (f : Failure) : Run α := throw f

/-- Fail with a failure of the runtime of one kind. -/
def raise (k : FailureKind) : Run α := throw (.runtime k)

/-- Lift a computation that may fail. -/
def lift (x : Except Failure α) : Run α :=
  match x with
  | .ok a => pure a
  | .error f => throw f

/-- The heap. -/
def heap : Run Heap := do pure (← get).heap

/-- A new identity. -/
def fresh : Run Origin := do
  let m ← get
  set { m with made := m.made + 1 }
  pure (.made m.made)

/-- A scalar object made at run time: its value's one object when it has one. -/
def scalar (v : Value) : Run Obj := do
  if sharedScalar v then pure (.scalar v .shared) else pure (.scalar v (← fresh))

/-- An integer made at run time. -/
def int (i : Int) : Run Obj := scalar (.int i)

/-- A string made at run time. -/
def str (s : String) : Run Obj := scalar (.str s)

/-- A float made at run time. -/
def float (x : Float) : Run Obj := scalar (.float x)

/-- A boolean. -/
def bool (b : Bool) : Obj := .scalar (.bool b) .shared

/-- Bytes made at run time: no bytes and each single byte are one object each. -/
def bytes (bs : List UInt8) : Run Obj := do
  if bs.length ≤ 1 then pure (.bytes bs .shared) else pure (.bytes bs (← fresh))

/-- A tuple made at run time. -/
def tuple (xs : List Obj) : Run Obj := do
  if xs.isEmpty then pure (.tuple [] .shared) else pure (.tuple xs (← fresh))

/-- A new object in the heap. -/
def alloc (c : Cell) : Run Obj := do
  let m ← get
  set { m with heap := m.heap.push c }
  pure (.ref m.heap.size)

/-- A new cell in the heap, by its address. -/
def place (c : Cell) : Run Nat := do
  let m ← get
  set { m with heap := m.heap.push c }
  pure m.heap.size

/-- The cell at an address. -/
def cell (a : Nat) : Run Cell := do pure ((← get).heap.cell a)

/-- Change the cell at an address. -/
def modifyCell (a : Nat) (f : Cell → Cell) : Run Unit :=
  modify fun m => { m with heap := m.heap.modify a f }

/-- Replace the cell at an address. -/
def setCell (a : Nat) (c : Cell) : Run Unit := modifyCell a fun _ => c

/-- A new list. -/
def list (xs : List Obj) : Run Obj := alloc (.list xs.toArray)

/-- The unit of code that the keys of the service's maps count as constants of: a map key
read from a request is one object for all its occurrences. -/
def requestKeys : Nat := 1

/-- The object of a key of a map read from a request. -/
def keyObj (k : String) : Obj :=
  .scalar (.str k) (if sharedText k then .shared else .const requestKeys k)

/-- An object for a value of the service: lists, dicts and records in the heap, every
scalar its own object unless its value has one; the service's NaN and infinities are one
object each, as are the keys of its maps. -/
def ofValue : Nat → Value → Run Obj
  | 0, _ => failWith tooDeep
  | fuel + 1, v =>
    match v with
    | .list xs => do
      let os ← xs.mapM (ofValue fuel)
      list os
    | .tuple xs => do
      let os ← xs.mapM (ofValue fuel)
      tuple os
    | .dict es => do
      let os ← es.mapM fun (k, x) => do pure (keyObj k, ← ofValue fuel x)
      alloc (.dict os.toArray)
    | .record c fs => do
      let os ← fs.mapM fun (k, x) => do pure (k, ← ofValue fuel x)
      alloc (.record c os)
    | .float x => if x.isNaN || x.isInf then pure (.scalar v .shared) else scalar v
    | v => scalar v

/-- The frame of the running code. -/
def frame : Run Frame := do pure (← get).frame

/-- Replace the frame of the running code. -/
def setFrame (f : Frame) : Run Unit := modify fun m => { m with frame := f }

end Run

end Storefront.Script
