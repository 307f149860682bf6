import Storefront.Operation.Script.Scope

/-!
# Classes of bodies

A body may make classes of its own. A class keeps the attributes its body bound, in order,
and its order of lookup: the class itself, then the classes it inherits from, as the runtime
orders them (C3 linearization): every class comes before the classes it inherits from, and
bases keep their written order. An attribute is looked for along that order. The builtin
classes a class of the body may inherit from are `object` and the exception classes, so that
a body may raise and catch exceptions of its own classes.

An object of a class of the body keeps its own attributes in order; an exception also keeps
the arguments it was made with, under `args`.
-/

namespace Storefront.Script

/-- Whether an object is of a builtin class or of a class below it. -/
def instanceOf (h : Heap) (o : Obj) (c : String) : Bool :=
  let t := shortTypeName h o
  c == "object" || t == c ||
    (c == "int" && (t == "bool" || t == "TaskStatus")) ||
    (isExceptionClass t && isSubclass t c)

/-- Whether a builtin class is a class or below it. -/
def subclassOf (t c : String) : Bool :=
  c == "object" || t == c || (c == "int" && (t == "bool" || t == "TaskStatus")) ||
    (isExceptionClass t && isSubclass t c)

/-- The classes after a builtin class in its order of lookup: an exception class's chain of
bases, then `object`. -/
def builtinAncestors (c : String) : List Obj :=
  let rec up : Nat → String → List String
    | 0, _ => []
    | fuel + 1, c => match exceptionBases.lookup c with
      | some b => if b.isEmpty then [] else b :: up fuel b
      | none => []
  (up exceptionBases.length c).map Obj.cls ++ (if c == "object" then [] else [Obj.cls "object"])

/-- The merge of orders of lookup: again and again the first head of an order that stands in
no order's tail, taken out of them all; none when no head qualifies, so that the orders
cannot be kept together. -/
def mergeOrders : Nat → List (List Obj) → Option (List Obj)
  | 0, _ => none
  | fuel + 1, ls =>
    let ls := ls.filter fun l => !l.isEmpty
    if ls.isEmpty then some []
    else
      let good := ls.findSome? fun l => l.head?.filter fun x =>
        !ls.any fun l' => l'.tail.any (·.identical x)
      match good with
      | some x => do
        let rest ← mergeOrders fuel (ls.map fun l => l.filter fun y => !y.identical x)
        pure (x :: rest)
      | none => none

namespace Heap

/-- A class's order of lookup: the class, then the classes after it. -/
def lookupOrder (h : Heap) (o : Obj) : List Obj :=
  match o with
  | .cls c => .cls c :: builtinAncestors c
  | .ref a => match h.cell a with
    | .cls c => o :: c.mro
    | _ => []
  | _ => []

/-- The first builtin exception class in a class's order, when it is an exception class. -/
def exceptionBase? (c : UserClass) : Option String :=
  c.mro.findSome? fun b => match b with
    | .cls n => if isExceptionClass n then some n else none
    | _ => none

/-- The class of an object, as an object: a class of the body, or a builtin class by name. -/
def classObj (h : Heap) (o : Obj) : Obj :=
  match o with
  | .ref a => match h.cell a with
    | .inst c _ => .ref c
    | .cls _ => .cls "type"
    | _ => .cls (shortTypeName h o)
  | _ => .cls (shortTypeName h o)

/-- Whether a class is a class or comes after it in the class's order: for builtin classes,
by the tree of exceptions and `bool` below `int`. -/
def inheritsFrom (h : Heap) (sub cls : Obj) : Bool :=
  match sub, cls with
  | .cls s, .cls c => subclassOf s c
  | .ref _, _ => (h.lookupOrder sub).any (·.identical cls)
  | _, _ => false

/-- Whether an object is of a class or of a class after it in its order. -/
def isInstance (h : Heap) (o cls : Obj) : Bool :=
  match h.classObj o, cls with
  | .cls _, .cls c => instanceOf h o c
  | k, _ => h.inheritsFrom k cls

/-- The name of a class, as an object. -/
def className (h : Heap) (o : Obj) : String :=
  match o with
  | .cls c => c
  | .ref a => ((h.userClass? a).map (·.name)).getD "?"
  | _ => "?"

end Heap

namespace Run

/-- A new class of the body from its name, its qualified name, its bases and its attributes.
The bases must be classes (`object` and exception classes among the builtin ones), none given
twice, and their orders of lookup must merge; without bases a class inherits from `object`.
The functions among its attributes learn that they belong to it. A class that defines `__eq__`
and not `__hash__` gets a hash of `None`, so its objects cannot be hashed. -/
def makeClass (name qual : String) (bases : List Obj) (attrs : List (String × Obj)) : Run Obj := do
  let h ← heap
  for b in bases do
    match b with
    | .cls c => if c != "object" && !isExceptionClass c then throw unsupported
    | .ref a => if (h.userClass? a).isNone then throw unsupported
    | _ => throw unsupported
  let names := bases.map h.className
  match bases.findIdx? (fun b => (bases.filter (·.identical b)).length > 1) with
  | some i => typeFail ("duplicate base class " ++ names.getD i "")
  | none => pure ()
  let orders := bases.map (h.lookupOrder ·) ++ [bases]
  let given := if bases.isEmpty then [.cls "object"] else bases
  let mro ← match mergeOrders (h.size + orders.length + 8) (if bases.isEmpty then [given] else orders) with
    | some m => pure m
    | none => typeFail ("Cannot create a consistent method resolution order (MRO) for bases " ++
        ", ".intercalate names)
  -- a class that defines equality and no hash has none
  let attrs := if attrs.any (·.1 == "__eq__") && !attrs.any (·.1 == "__hash__")
    then attrs ++ [("__hash__", noneObj)] else attrs
  let c ← alloc (.cls { name, qualname := qual, bases := given, attrs, mro })
  match c with
  | .ref ca =>
    for (_, v) in attrs do
      match v with
      | .ref f => modifyCell f fun cell => match cell with
        | .func fn => .func { fn with owner := some ca }
        | cell => cell
      | _ => pure ()
  | _ => pure ()
  pure c

/-- An object of a class of the body: its class's address, the class, and its own
attributes. -/
def instance? (o : Obj) : Run (Option (Nat × UserClass × List (String × Obj))) := do
  match o with
  | .ref a => match ← cell a with
    | .inst c attrs => match ← cell c with
      | .cls k => pure (some (c, k, attrs))
      | _ => pure none
    | _ => pure none
  | _ => pure none

/-- The attribute of an object's class that a runtime hook of that name finds: only objects
of classes of the body have hooks. -/
def hook? (o : Obj) (name : String) : Run (Option (Obj × Obj)) := do
  match ← instance? o with
  | some (c, k, _) => pure ((← heap).classAttr? k name |>.map fun v => (.ref c, v))
  | none => pure none

/-- A class's attribute as an object of the class reads it: a function bound to the object, a
class method bound to the class, a static method's function, anything else as it is. -/
def bindTo (self cls v : Obj) : Run Obj := do
  match v with
  | .ref f => match ← cell f with
    | .func _ => pure (.bound self v (← fresh))
    | .wrapper .staticMethod fn _ => pure fn
    | .wrapper .classMethod fn _ => pure (.bound cls fn (← fresh))
    | _ => pure v
  | .builtin _ => pure (.bound self v (← fresh))
  | _ => pure v

/-- A class's attribute as the class itself reads it: a class method bound to the class, a
static method's function, anything else as it is. -/
def classBind (cls v : Obj) : Run Obj := do
  match v with
  | .ref f => match ← cell f with
    | .wrapper .staticMethod fn _ => pure fn
    | .wrapper .classMethod fn _ => pure (.bound cls fn (← fresh))
    | _ => pure v
  | _ => pure v

/-- The property of an object's class under a name, if the attribute is one: its getter and
setter. -/
def property? (o : Obj) (name : String) : Run (Option (Obj × Option Obj)) := do
  match ← hook? o name with
  | some (_, .ref p) => match ← cell p with
    | .wrapper .property getter setter => pure (some (getter, setter))
    | _ => pure none
  | _ => pure none

/-- The classes a class test or a handler names: a class, or a tuple of them. -/
def classObjs (fn : String) (o : Obj) : Run (List Obj) := do
  match o with
  | .cls _ => pure [o]
  | .ref a => match ← cell a with
    | .cls _ => pure [o]
    | _ => typeFail (fn ++ "() arg 2 must be a " ++ (if fn == "issubclass" then "class, a tuple of classes" else "type, a tuple of types") ++ ", or a union")
  | .tuple xs _ => do
    let parts ← xs.mapM (classObjs fn)
    pure parts.flatten
  | _ => typeFail (fn ++ "() arg 2 must be a " ++ (if fn == "issubclass" then "class, a tuple of classes" else "type, a tuple of types") ++ ", or a union")
termination_by sizeOf o
decreasing_by
  all_goals simp_wf
  all_goals (have hm := List.sizeOf_lt_of_mem ‹_ ∈ xs›; omega)

/-- Whether a class is an exception class: a builtin one, or one of the body that inherits
from one. -/
def isExceptionObj (c : Obj) : Run Bool := do
  match c with
  | .cls n => pure (isExceptionClass n)
  | .ref a => match ← cell a with
    | .cls k => pure (Heap.exceptionBase? k).isSome
    | _ => pure false
  | _ => pure false

/-- Whether a handler's classes catch a failure: an exception of a class of the body by its
class's order, any other failure by its class's name. -/
def catchesAny (f : Failure) (classes : List Obj) : Run Bool := do
  let h ← heap
  match f with
  | .raised _ _ a => pure (classes.any fun c => h.isInstance (.ref a) c)
  | _ => pure (classes.any fun c => match c with
    | .cls name => isSubclass f.name name
    | _ => false)

end Run

end Storefront.Script
