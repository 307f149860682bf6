import Storefront.Value.Basic

/-!
# Type hints

A hint names what a value should be: a class, the literal none, a list of some hint, a union
of hints, or a hint with notes attached. Unions are kept flat and without repeats, and a
union of one member is that member; inside a union the literal none stands for the class of
none. Two hints are the same hint when `key` agrees: union members count as a set.
-/

namespace Storefront

/-- The classes that hints and values refer to. -/
inductive Kind where
  | str
  | int
  | bool
  | noneType
  | float
  | bytes
  | list
  | dict
  | tuple
  | datetime
  | taskStatus
  | record (cls : RecordClass)
deriving DecidableEq, Repr, Inhabited

namespace Kind

/-- The class name. -/
def name : Kind → String
  | str => "str"
  | int => "int"
  | bool => "bool"
  | noneType => "NoneType"
  | float => "float"
  | bytes => "bytes"
  | list => "list"
  | dict => "dict"
  | tuple => "tuple"
  | datetime => "datetime"
  | taskStatus => "TaskStatus"
  | record c => c.name

/-- The class written as a type inside other type text. -/
def typeText : Kind → String
  | datetime => "datetime.datetime"
  | taskStatus => "ecomm.fulfillment.TaskStatus"
  | noneType => "NoneType"
  | record c => c.name
  | k => k.name

end Kind

/-- The class of a value. -/
def Value.kind : Value → Kind
  | .none => .noneType
  | .bool _ => .bool
  | .int _ => .int
  | .float _ => .float
  | .str _ => .str
  | .time _ => .datetime
  | .status _ => .taskStatus
  | .list _ => .list
  | .tuple _ => .tuple
  | .dict _ => .dict
  | .record c _ => .record c

/-- A type hint. -/
inductive Hint where
  | cls (k : Kind)
  | noneLit
  | listOf (item : Hint)
  | union (members : List Hint)
  | annotated (base : Hint) (notes : Nat)
deriving Inhabited

namespace Hint

mutual

/-- A text that two hints share exactly when they are the same hint. -/
def key : Hint → String
  | cls k => k.name
  | noneLit => "None"
  | listOf h => "list[" ++ key h ++ "]"
  | union hs => "Union[" ++ ",".intercalate ((keys hs).mergeSort (· ≤ ·)) ++ "]"
  | annotated h n => "Annotated[" ++ key h ++ "," ++ toString n ++ "]"

/-- The keys of a list of hints. -/
def keys : List Hint → List String
  | [] => []
  | h :: hs => key h :: keys hs

end

/-- The hint as a union member: the literal none becomes the class of none. -/
def asMember : Hint → Hint
  | noneLit => cls .noneType
  | h => h

/-- The members a hint contributes to a union. -/
def members : Hint → List Hint
  | union hs => hs
  | h => [asMember h]

/-- Keep the first of each group of the same hints. -/
def dedup : List Hint → List Hint → List Hint
  | [], _ => []
  | h :: hs, seen =>
    if seen.any (·.key == h.key) then dedup hs seen else h :: dedup hs (h :: seen)

/-- The union of hints: flattened, repeats dropped, a single member standing for itself. -/
def unionOf (hs : List Hint) : Hint :=
  match dedup (hs.flatMap members) [] with
  | [h] => h
  | ms => union ms

/-- The hint or none. -/
def optionalOf (h : Hint) : Hint := unionOf [h, noneLit]

/-- The hint with one more note attached; notes on notes stay one layer. -/
def annotate : Hint → Hint
  | annotated h n => annotated h (n + 1)
  | noneLit => annotated (cls .noneType) 1
  | h => annotated h 1

/-- The hint without its notes. -/
def strip : Hint → Hint
  | annotated h _ => h
  | h => h

mutual

/-- A hint admits none: the class of none, or a union with such a member. -/
def optional : Hint → Bool
  | annotated h _ => optionalBase h
  | h => optionalBase h

/-- `optional` for a hint without notes. -/
def optionalBase : Hint → Bool
  | cls .noneType => true
  | union hs => anyOptional hs
  | _ => false

/-- Some member admits none. -/
def anyOptional : List Hint → Bool
  | [] => false
  | h :: hs => optional h || anyOptional hs

end

mutual

/-- The text of a hint as written inside another hint. -/
def inner : Hint → String
  | cls k => k.typeText
  | noneLit => "None"
  | listOf h => "list[" ++ inner h ++ "]"
  | union hs => " | ".intercalate (inners hs)
  | annotated h n => "typing.Annotated[" ++ inner h ++ String.join (List.replicate n ", 'note'") ++ "]"

/-- `inner` of each hint. -/
def inners : List Hint → List String
  | [] => []
  | h :: hs => inner h :: inners hs

end

/-- The text of a hint on its own: a class as `<class 'name'>`. -/
def text : Hint → String
  | cls k => "<class '" ++ k.typeText ++ "'>"
  | noneLit => "None"
  | h => inner h

end Hint

end Storefront
