/-!
# JSON documents

A document as read from text: object members keep the order in which they were written, and
a number remembers whether it was written as an integer or with a fraction or exponent.
-/

namespace Storefront

/-- A JSON document. -/
inductive Json where
  | null
  | bool (b : Bool)
  | int (i : Int)
  | float (x : Float)
  | str (s : String)
  | arr (items : List Json)
  | obj (members : List (String × Json))
deriving Inhabited

namespace Json

/-- The member of an object under a key. -/
def get? : Json → String → Option Json
  | .obj ms, k => (ms.find? (·.1 == k)).map (·.2)
  | _, _ => none

/-- The member of an object under a key, or null. -/
def getD (j : Json) (k : String) : Json := (j.get? k).getD .null

/-- The text held by a string. -/
def str? : Json → Option String
  | .str s => some s
  | _ => none

/-- The integer held by an integer. -/
def int? : Json → Option Int
  | .int i => some i
  | _ => none

/-- The items of an array. -/
def arr? : Json → Option (List Json)
  | .arr xs => some xs
  | _ => none

/-- The members of an object. -/
def obj? : Json → Option (List (String × Json))
  | .obj ms => some ms
  | _ => none

/-- The key is present in an object. -/
def has (j : Json) (k : String) : Bool := (j.get? k).isSome

/-- Set a member: an existing key keeps its place and takes the new value, a new key goes last. -/
def setMember (ms : List (String × Json)) (k : String) (v : Json) : List (String × Json) :=
  if ms.any (·.1 == k) then ms.map fun m => if m.1 == k then (k, v) else m else ms ++ [(k, v)]

/-- The name of the class a parsed document's top level reads as. -/
def className : Json → String
  | .null => "NoneType"
  | .bool _ => "bool"
  | .int _ => "int"
  | .float _ => "float"
  | .str _ => "str"
  | .arr _ => "list"
  | .obj _ => "dict"

end Json

end Storefront
