import Storefront.Http.Status
import Storefront.Value.Text
import Storefront.Text.CodePoint

/-!
# Failures

Why an operation of the service did not return a value. Service errors carry an HTTP status:
a class of the status registry, a bad page token, or a store query that failed; server errors
(5xx) may name the failure that caused them. The other failures are those of the service's
own checks (`rejected`, with the text the service gives) and those of the runtime
(`runtime`, a kind only).
-/

namespace Storefront

/-- A step of the path to the part of a value that a codec could not handle. -/
inductive PathStep where
  | field (name : String)
  | index (i : Nat)
deriving DecidableEq, Repr

/-- The kinds of failure outside the service's error registry. -/
inductive FailureKind where
  | typeError
  | valueError
  | overflowError
  | keyError
  | indexError
  | attributeError
  | runtimeError
  | timeoutError
  | lookupError
  | arithmeticError
  | zeroDivisionError
  | nameError
  | unboundLocalError
  | assertionError
  | jsonDecodeError
  | syntaxError
  | programmingError
  | operationalError
  | integrityError
  | exception
  | indentationError
  | recursionError
  | stopIteration
  | notImplementedError
  /-- another class of the runtime, by its name -/
  | other (name : String)
deriving DecidableEq, Repr

namespace FailureKind

/-- The name of a kind. -/
def name : FailureKind → String
  | typeError => "TypeError"
  | valueError => "ValueError"
  | overflowError => "OverflowError"
  | keyError => "KeyError"
  | indexError => "IndexError"
  | attributeError => "AttributeError"
  | runtimeError => "RuntimeError"
  | timeoutError => "TimeoutError"
  | lookupError => "LookupError"
  | arithmeticError => "ArithmeticError"
  | zeroDivisionError => "ZeroDivisionError"
  | nameError => "NameError"
  | unboundLocalError => "UnboundLocalError"
  | assertionError => "AssertionError"
  | jsonDecodeError => "JSONDecodeError"
  | syntaxError => "SyntaxError"
  | programmingError => "ProgrammingError"
  | operationalError => "OperationalError"
  | integrityError => "IntegrityError"
  | exception => "Exception"
  | indentationError => "IndentationError"
  | recursionError => "RecursionError"
  | stopIteration => "StopIteration"
  | notImplementedError => "NotImplementedError"
  | other n => n

/-- Every kind. -/
def all : List FailureKind :=
  [typeError, valueError, overflowError, keyError, indexError, attributeError, runtimeError,
    timeoutError, lookupError, arithmeticError, zeroDivisionError, nameError, unboundLocalError,
    assertionError, jsonDecodeError, syntaxError, programmingError, operationalError,
    integrityError, exception, indentationError, recursionError, stopIteration,
    notImplementedError]

/-- The kind with a name. -/
def ofName? (s : String) : Option FailureKind := all.find? (·.name == s)

end FailureKind

/-- Why an operation failed. -/
inductive Failure where
  /-- a value could not be written as JSON; the path to the part that failed, if known -/
  | encode (path : Option (List PathStep))
  /-- JSON could not be read as a value; the path to the part that failed, if known -/
  | decode (path : Option (List PathStep))
  /-- a failure with the service's own text -/
  | rejected (kind : FailureKind) (message : String)
  /-- a failure of the runtime, known by kind only -/
  | runtime (kind : FailureKind)
  /-- a failure of the runtime with the runtime's own text, which answers leave out but a
  failure made from it quotes -/
  | runtimeText (kind : FailureKind) (text : String)
  /-- a failure of the runtime raised with arguments other than one text, which answers leave
  out but a failure made from it quotes -/
  | runtimeArgs (kind : FailureKind) (args : List Value)
  /-- an error of the status registry, with its text and the failure that caused it -/
  | status (code : Nat) (message : String) (cause : Option Failure)
  /-- a page token that does not decode -/
  | invalidCursor (token : Value)
  /-- a store query that failed while its records were read -/
  | storeQuery (operation : Value) (recordId : Value) (cause : Option Failure)
  /-- a stored record that could not be read -/
  | record (recordId : Value) (message : String)
  /-- a request that does not say what to do -/
  | malformed (message : String)
  /-- an exception of a class that a running body made, raised by it: the class's name, the
  exception's text, and the exception's place in the body's heap -/
  | raised (cls : String) (text : String) (payload : Nat)
  /-- an exception of a class of the runtime that a running body raised as an object: the
  failure it stands for, and the object's place in the body's heap -/
  | thrown (failure : Failure) (payload : Nat)
deriving Inhabited

namespace Failure

/-- A type failure with the service's text. -/
def typeError (msg : String) : Failure := rejected .typeError msg

/-- A value failure with the service's text. -/
def valueError (msg : String) : Failure := rejected .valueError msg

/-- A registry error by code, without cause. -/
def ofStatus (code : Nat) (msg : String) : Failure := status code msg none

def badRequest (msg : String) : Failure := ofStatus 400 msg
def notFound (msg : String) : Failure := ofStatus 404 msg
def conflict (msg : String) : Failure := ofStatus 409 msg

/-- The class name of a failure. -/
def name : Failure → String
  | encode _ => "EncodeError"
  | decode _ => "DecodeError"
  | rejected k _ => k.name
  | runtime k => k.name
  | runtimeText k _ => k.name
  | runtimeArgs k _ => k.name
  | status code _ _ => ((Http.ofCode? code).map (·.className)).getD "Error"
  | invalidCursor _ => "InvalidCursorError"
  | storeQuery .. => "StoreQueryError"
  | record .. => "RecordError"
  | malformed _ => "DriverError"
  | raised c _ _ => c
  | thrown f _ => f.name

/-- The HTTP status of a service error. -/
def httpStatus? : Failure → Option Nat
  | status code _ _ => some code
  | invalidCursor _ => some 400
  | storeQuery .. => some 500
  | thrown f _ => f.httpStatus?
  | _ => none

/-- The kind of a failure of the runtime, also when an exception object was raised for it. -/
def runtimeKind? : Failure → Option FailureKind
  | runtime k | runtimeText k _ | runtimeArgs k _ => some k
  | thrown f _ => f.runtimeKind?
  | _ => none

/-- A failure without the exception object raised for it. -/
def plain : Failure → Failure
  | thrown f _ => f.plain
  | f => f

/-- A server error: a service error of a 5xx status. -/
def isServer (f : Failure) : Bool := match f.httpStatus? with | some c => decide (c ≥ 500) | none => false

/-- The text of an exception raised with arguments: empty without any, the one argument's
text (a missing key shows the key as it reads back), else the arguments as a tuple reads
back. -/
def argsMessage (k : FailureKind) : List Value → String
  | [] => ""
  | [v] => if k == .keyError then v.repr else v.plain
  | vs => (Value.tuple vs).repr

/-- The text of a store query failure; a record id of none names no record. -/
def storeQueryMessage (operation : Value) (recordId : Value) : String :=
  match recordId with
  | .none => operation.plain ++ ": failed to retrieve records matching query"
  | id => operation.plain ++ ": failed to retrieve record " ++ id.plain ++ " matching query"

/-- The failure of writing a text as UTF-8, when it holds a lone surrogate: the codec, the
text, and the positions of the first run of surrogates. -/
def unencodable? (s : String) : Option Failure :=
  (Text.surrogateRun? s).map fun (i, j) =>
    .runtimeArgs (.other "UnicodeEncodeError")
      [.str "utf-8", .str s, .int i, .int j, .str "surrogates not allowed"]

end Failure

end Storefront
