import Storefront.Http.Status
import Storefront.Failure

/-!
# Wrapping failures

Exception classes form a tree: the runtime's classes under `Exception` (a missing key or index
under `LookupError`, overflow and division by zero under `ArithmeticError`, an unbound local
under `NameError`), and the service's classes under `Error`, client statuses under `ClientError`
and server statuses under `ServerError`. Wrapping a failure with a class to catch and a class
to throw lets an instance of the thrown class or of `Error` pass unchanged, turns a caught
failure into the thrown class with the same arguments (the caught one becomes its cause),
and lets anything else pass.
-/

namespace Storefront.Http

/-- An exception class that wrapping can name. -/
inductive ErrorClass where
  | builtin (k : FailureKind)
  | base
  | client
  | server
  | status (code : Nat)
deriving DecidableEq, Repr

namespace ErrorClass

/-- The class name. -/
def name : ErrorClass → String
  | builtin k => k.name
  | base => "Error"
  | client => "ClientError"
  | server => "ServerError"
  | status c => ((ofCode? c).map (·.className)).getD "Error"

/-- The runtime classes that wrapping names: value, type, key and runtime failures, lookups
and the root class. -/
def namedKinds : List FailureKind :=
  [.valueError, .typeError, .keyError, .runtimeError, .exception, .lookupError]

/-- The class with a name, among the classes wrapping names: a runtime class of `namedKinds`,
`Error`, `ClientError`, `ServerError`, or a class of the registry. -/
def ofName? (s : String) : Option ErrorClass :=
  if s == "Error" then some base
  else if s == "ClientError" then some client
  else if s == "ServerError" then some server
  else match namedKinds.find? (·.name == s) with
    | some k => some (builtin k)
    | none => (ofClassName? s).map fun st => status st.code

/-- The class a class derives from; `Exception` is the root. -/
def parent? : ErrorClass → Option ErrorClass
  | builtin .exception => none
  | builtin .keyError => some (builtin .lookupError)
  | builtin .indexError => some (builtin .lookupError)
  | builtin .overflowError => some (builtin .arithmeticError)
  | builtin .zeroDivisionError => some (builtin .arithmeticError)
  | builtin .unboundLocalError => some (builtin .nameError)
  | builtin .jsonDecodeError => some (builtin .valueError)
  | builtin _ => some (builtin .exception)
  | base => some (builtin .exception)
  | client => some base
  | server => some base
  | status c => some (if c < 500 then client else server)

/-- The class and the classes it derives from, nearest first. -/
def lineage : Nat → ErrorClass → List ErrorClass
  | 0, c => [c]
  | n + 1, c => c :: match c.parent? with
    | some p => lineage n p
    | none => []

/-- An instance of the first class is an instance of the second. -/
def isA (a b : ErrorClass) : Bool := (lineage 5 a).contains b

end ErrorClass

/-- A raised failure: its class, its arguments and the class of its cause. -/
structure Raised (α : Type) where
  cls : ErrorClass
  args : List α
  cause : Option ErrorClass

/-- The failure that leaves a wrapped block: the thrown class (with the caught one as cause)
when the failure is caught and neither of the thrown class nor a service error; otherwise
`none`, the failure passing unchanged. -/
def wrap (e : Raised α) (caught : List ErrorClass) (thrown : ErrorClass) : Option (Raised α) :=
  if e.cls.isA thrown || e.cls.isA .base then none
  else if caught.any e.cls.isA then some ⟨thrown, e.args, some e.cls⟩
  else none

end Storefront.Http
