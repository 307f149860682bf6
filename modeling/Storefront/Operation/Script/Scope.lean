import Storefront.Operation.Script.Sets

/-!
# Names and exceptions of running bodies

Names live in scopes kept in the heap: one for each call of a function, each comprehension
and each class body, each knowing the scope around it. A name is read in the running scope
when it is one of its own, else in the scopes around it that are functions' or
comprehensions', then among the module's names, and last among the builtins; a name found
nowhere is unknown. A class body's names are seen only by its own code.

Exceptions form a tree of classes under `BaseException`; a handler catches a failure whose
class is its class or below it. A failure of the running body becomes an exception object
that a handler can bind, and a raised exception object becomes a failure: the service's
error classes keep their text in the answer, the runtime's classes do not.
-/

namespace Storefront.Script

/-- The exception classes with the class each one is made from. -/
def exceptionBases : List (String × String) :=
  [("BaseException", ""), ("Exception", "BaseException"), ("ArithmeticError", "Exception"),
    ("ZeroDivisionError", "ArithmeticError"), ("OverflowError", "ArithmeticError"),
    ("FloatingPointError", "ArithmeticError"), ("AssertionError", "Exception"),
    ("AttributeError", "Exception"), ("LookupError", "Exception"),
    ("IndexError", "LookupError"), ("KeyError", "LookupError"), ("NameError", "Exception"),
    ("UnboundLocalError", "NameError"), ("RuntimeError", "Exception"),
    ("RecursionError", "RuntimeError"), ("NotImplementedError", "RuntimeError"),
    ("StopIteration", "Exception"), ("TypeError", "Exception"), ("ValueError", "Exception"),
    ("UnicodeError", "ValueError"), ("UnicodeEncodeError", "UnicodeError"),
    ("UnicodeDecodeError", "UnicodeError"), ("OSError", "Exception"), ("TimeoutError", "OSError"),
    ("MemoryError", "Exception"), ("SyntaxError", "Exception"),
    ("IndentationError", "SyntaxError"), ("SystemExit", "BaseException"),
    ("KeyboardInterrupt", "BaseException"), ("GeneratorExit", "BaseException"),
    ("Error", "Exception"), ("ClientError", "Error"), ("ServerError", "Error"),
    ("BadRequestError", "ClientError"), ("InternalServerError", "ServerError")]

/-- The exception classes of the service that bodies see by name, with their statuses. -/
def serviceErrors : List (String × Nat) :=
  [("BadRequestError", 400), ("InternalServerError", 500)]

/-- The classes of the service's errors that bodies do not see by name. -/
def hiddenErrors : List String := ["Error", "ClientError", "ServerError"]

/-- Whether a class is an exception class. -/
def isExceptionClass (c : String) : Bool := exceptionBases.any (·.1 == c)

/-- Whether a class is a class or below a class in the tree of exceptions. -/
def isSubclass (c parent : String) : Bool :=
  let rec up : Nat → String → Bool
    | 0, _ => false
    | fuel + 1, c =>
      c == parent ||
        match exceptionBases.lookup c with
        | some b => !b.isEmpty && up fuel b
        | none => false
  up exceptionBases.length c

/-- The builtin functions. -/
def builtinFunctions : List String :=
  ["abs", "all", "any", "ascii", "bin", "callable", "chr", "divmod", "format", "getattr",
    "hasattr", "hash", "hex", "id", "isinstance", "issubclass", "iter", "len", "max", "min",
    "next", "oct", "ord", "pow", "print", "repr", "round", "sorted", "sum", "setattr",
    "delattr", "vars", "dir", "globals", "locals", "exec", "eval", "compile", "open",
    "input", "breakpoint", "aiter", "anext", "__import__"]

/-- The builtin classes other than exceptions. -/
def builtinClasses : List String :=
  ["bool", "int", "float", "str", "list", "tuple", "dict", "set", "frozenset", "range",
    "type", "object", "enumerate", "filter", "map", "reversed", "zip", "slice", "bytes",
    "bytearray", "complex", "memoryview", "property", "staticmethod", "classmethod", "super"]

/-- The object a builtin name stands for. -/
def builtinOf? (x : String) : Option Obj :=
  if x == "NotImplemented" then some .notImplemented
  else if x == "Ellipsis" then some .ellipsis
  else if builtinFunctions.contains x then some (.builtin x)
  else if builtinClasses.contains x then some (.cls x)
  else if isExceptionClass x && !hiddenErrors.contains x && !(serviceErrors.lookup x).isSome then
    some (.cls x)
  else none

/-- The module's names when a body's class is declared: the decorators and the service's
errors that it sees, and the module's name. -/
def moduleNames : List (String × Obj) :=
  [("__name__", Obj.scalar (.str "svc") (.const 0 "4:'svc'")), ("operation", .builtin "operation"),
    ("query", .builtin "query"), ("mutation", .builtin "mutation")] ++
    serviceErrors.map fun (c, _) => (c, Obj.cls c)

/-- An unknown name. -/
def unknownName (x : String) : Failure :=
  .runtimeText .nameError ("name '" ++ x ++ "' is not defined")

/-- A local name read before it is bound. -/
def unboundName (x : String) : Failure :=
  .runtimeText .unboundLocalError
    ("cannot access local variable '" ++ x ++ "' where it is not associated with a value")

/-- A name of a scope around the running code read before that scope binds it. -/
def unboundFree (x : String) : Failure :=
  .runtimeText .nameError ("cannot access free variable '" ++ x ++
    "' where it is not associated with a value in enclosing scope")

/-- A type failure with the runtime's text. -/
def typeFailure (msg : String) : Failure := .runtimeText .typeError msg

namespace Run

/-- Fail as a type failure with the runtime's text. -/
def typeFail (msg : String) : Run α := failWith (typeFailure msg)

/-- The object a name of the module or a builtin stands for. -/
def lookupGlobal (x : String) : Run Obj := do
  match bound? (← get).globals x with
  | some o => pure o
  | none => match builtinOf? x with
    | some o => pure o
    | none => failWith (unknownName x)

/-- Bind a name of the module. -/
def storeGlobal (x : String) (o : Obj) : Run Unit :=
  modify fun m => { m with globals := bindName m.globals x o }

/-- Remove a name of the module; one that is not bound is unknown. -/
def unbindGlobal (x : String) : Run Unit := do
  let m ← get
  if (bound? m.globals x).isSome then set { m with globals := m.globals.filter (·.1 != x) }
  else failWith (unknownName x)

/-- The scope at an address. -/
def scopeAt (a : Nat) : Run Scope := do
  match ← cell a with
  | .scope s => pure s
  | _ => pure { kind := .function }

/-- Change the scope at an address. -/
def modifyScope (a : Nat) (f : Scope → Scope) : Run Unit :=
  modifyCell a fun c => match c with
    | .scope s => .scope (f s)
    | c => c

/-- How many scopes a walk outward may pass: no more than the heap holds. -/
def scopeFuel : Run Nat := do pure ((← get).heap.size + 1)

/-- The object a name stands for, read in a scope (`own`) or, as a free name, in the scopes
around it: a name a scope declares global is the module's; a name of a class body is seen
only by the body's own code; a function's or comprehension's own name is read there, and
unbound it is an unbound local or free variable; past the last scope are the module's
names and the builtins. -/
def lookupIn : Nat → Bool → Option Nat → String → Run Obj
  | 0, _, _, x => lookupGlobal x
  | _ + 1, _, none, x => lookupGlobal x
  | fuel + 1, own, some a, x => do
    let s ← scopeAt a
    if s.globalNames.contains x then lookupGlobal x
    else if s.kind == .classBody then
      match own, bound? s.vars x with
      | true, some o => pure o
      | _, _ => lookupIn fuel false s.parent x
    else if s.locals.contains x then
      match bound? s.vars x with
      | some o => pure o
      | none => failWith (if own then unboundName x else unboundFree x)
    else lookupIn fuel false s.parent x

/-- Bind a name in a scope (`own`) or, for a name it declares nonlocal, in the scope around
it that owns the name; a name declared global, or bound at the level of the module, is the
module's. -/
def storeIn : Nat → Bool → Option Nat → String → Obj → Run Unit
  | 0, _, _, x, o => storeGlobal x o
  | _ + 1, _, none, x, o => storeGlobal x o
  | fuel + 1, own, some a, x, o => do
    let s ← scopeAt a
    if s.globalNames.contains x then storeGlobal x o
    else if (own && !s.nonlocals.contains x) ||
        (!own && s.kind != .classBody && s.locals.contains x) then
      modifyScope a fun s => { s with vars := bindName s.vars x o }
    else storeIn fuel false s.parent x o

/-- Remove the binding of a name where a store would bind it; a name that is not bound
fails as when it is read. -/
def unbindIn : Nat → Bool → Option Nat → String → Run Unit
  | 0, _, _, x => unbindGlobal x
  | _ + 1, _, none, x => unbindGlobal x
  | fuel + 1, own, some a, x => do
    let s ← scopeAt a
    if s.globalNames.contains x then unbindGlobal x
    else if (own && !s.nonlocals.contains x) ||
        (!own && s.kind != .classBody && s.locals.contains x) then
      if (bound? s.vars x).isSome then
        modifyScope a fun s => { s with vars := s.vars.filter (·.1 != x) }
      else failWith (if !own then unboundFree x
        else if s.kind == .classBody then unknownName x else unboundName x)
    else unbindIn fuel false s.parent x

/-- The object a name stands for where the running code reads it. -/
def lookup (x : String) : Run Obj := do lookupIn (← scopeFuel) true (← frame).scope x

/-- Bind a name where the running code's statements bind it. -/
def store (x : String) (o : Obj) : Run Unit := do storeIn (← scopeFuel) true (← frame).scope x o

/-- Remove the binding of a name where the running code's statements bind it. -/
def unbind (x : String) : Run Unit := do unbindIn (← scopeFuel) true (← frame).scope x

/-- The kind of the running code's scope; none for the module's code. -/
def scopeKind : Run (Option ScopeKind) := do
  match (← frame).scope with
  | some a => do pure (some (← scopeAt a).kind)
  | none => pure none

/-- The scope that the functions and comprehensions made by the running code see names
through: the running scope, or the one around it when that is a class body. -/
def enclosing : Run (Option Nat) := do
  match (← frame).scope with
  | some a => do
    let s ← scopeAt a
    pure (if s.kind == .classBody then s.parent else some a)
  | none => pure none

end Run

/-- The text an exception shows: nothing without arguments, its one argument's text (a key
error shows the key as it reads back), or the arguments as a tuple. -/
def excText (h : Heap) (cls : String) (args : List Obj) : Except Failure String :=
  match codecErrorText? cls args, args with
  | some t, _ => pure t
  | none, [] => pure ""
  | none, [x] => if cls == "KeyError" then h.repr x else h.str x
  | none, xs => h.repr (.tuple xs .shared)

/-- The failure a raised exception makes: a service error with its status and text, or a
failure of the runtime of its class. A failure of a server error keeps its cause. -/
def failureOfExc (h : Heap) (cls : String) (args : List Obj) (cause : Option Failure) :
    Except Failure Failure := do
  let text ← excText h cls args
  match serviceErrors.lookup cls with
  | some code => pure (.status code text (if code ≥ 500 then cause else none))
  | none => match FailureKind.ofName? cls with
    | some k => pure (.runtimeText k text)
    | none => pure (.runtimeText (.other cls) text)

/-- Whether a handler may catch a failure: a failure that stands for an operation bodies do
not model is never caught. -/
def catchable : Failure → Bool
  | .malformed _ => false
  | _ => true

/-- The exception object a failure is, for a handler to bind, and the failure as that object
raises it: a raised object is itself, and any other failure gets a new exception object of
its class and arguments, which it stays tied to when raised again. -/
def Run.caught (f : Failure) : Run (Failure × Obj) := do
  let args ← match f with
    | .runtimeText _ t => do pure [← Run.str t]
    | .runtimeArgs _ vs => vs.mapM (Run.ofValue depth)
    | .rejected _ m => do pure [← Run.str m]
    | .status _ m _ => do pure [← Run.str m]
    | .raised _ _ a | .thrown _ a => return (f, .ref a)
    | _ => pure []
  let a ← Run.place (.exception f.name args [])
  pure (.thrown f a, .ref a)

end Storefront.Script
