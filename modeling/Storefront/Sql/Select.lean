import Storefront.Sql.Expression
import Storefront.Query
import Storefront.Codec.Transcode

/-!
# Select statements

The statement that runs a query against the table of documents: the collection and each
predicate compare a document field (read by `json_extract` at its path) with a parameter,
resuming after a record expands to a lexicographic comparison of the order-by fields, then
the ordering and the limit. Paths must be dotted identifiers; parameter values are written
by the codec of their class, so a value of a class without a codec is refused.
-/

namespace Storefront

namespace Sql

/-- The name of the table that holds all documents. -/
def table : String := "documents"

/-- A character that may start an identifier. -/
def identStart (c : Char) : Bool := c.isAlpha || c == '_'

/-- A character that may continue an identifier. -/
def identChar (c : Char) : Bool := identStart c || c.isDigit

/-- A dotted path of ASCII identifiers. -/
def validPath (p : String) : Bool :=
  (p.toList.splitOn '.').all fun
    | c :: cs => identStart c && cs.all identChar
    | [] => false

/-- The field of a document at a path; a path that is not text cannot be matched at all. -/
def field (path : Value) : Except Failure String :=
  match path with
  | .str p =>
    if validPath p then pure ("json_extract(document, '$." ++ p ++ "')")
    else throw (Failure.valueError ("invalid document path: " ++ p))
  | _ => throw (.runtime .typeError)

/-- A parameter holding a value as its class's codec writes it. -/
def encodedParam (v : Value) : CodecM Param := do
  let c ← Codec.get (.cls v.kind)
  let j ← Codec.encode c v
  pure (Param.ofClass (Value.ofJson j) v.kind)

/-- Run a step that may fail in the codec monad. -/
def liftExcept (x : Except Failure α) : CodecM α :=
  match x with
  | .ok a => pure a
  | .error e => throw e

/-- A predicate as a condition. -/
def predicate (p : Predicate) : CodecM (List Fragment) := do
  let f ← liftExcept (field p.path)
  let op := if p.op == .eq then "=" else p.op.symbol
  let v ← encodedParam p.value
  pure [.text (f ++ " " ++ op ++ " "), .param v]

/-- `(p1, p2, …) > (v1, v2, …)` expanded: the first field greater, or equal and the rest
greater. Empty paths have no first element. -/
def startAfter : List Value → List Value → CodecM (List Fragment)
  | [], _ => throw (.runtime .indexError)
  | _ :: _, [] => throw (.runtime .indexError)
  | [p], v :: _ => do
    let f ← liftExcept (field p)
    let x ← encodedParam v
    pure [.text (f ++ " > "), .param x]
  | p :: ps, v :: vs => do
    let f ← liftExcept (field p)
    let x ← encodedParam v
    let rest ← startAfter ps vs
    pure ([.text "(", .text (f ++ " > "), .param x, .text (" OR (" ++ f ++ " = "), .param x,
      .text " AND "] ++ rest ++ [.text "))"])

/-- Conditions joined by `AND`. -/
def conjunction (cs : List (List Fragment)) : List Fragment :=
  match cs with
  | [] => []
  | c :: rest => c ++ rest.flatMap fun d => Fragment.text " AND " :: d

/-- The statement that runs a query. -/
def selectStatement (q : Query) : CodecM Expression := do
  let coll : List Fragment := [.text "collection = ", .param (Param.ofValue (.str q.collection))]
  let preds ← q.predicates.mapM predicate
  let resume ← match q.startAfter with
    | some vs => do let e ← startAfter q.orderBy vs; pure [e]
    | none => pure []
  let conds := conjunction (coll :: preds ++ resume)
  let order ← if q.orderBy.isEmpty then pure [] else do
    let fs ← liftExcept (q.orderBy.mapM field)
    pure [Fragment.text " ORDER BY ", .text (", ".intercalate fs)]
  let lim := match q.limit with
    | some n => [Fragment.text " LIMIT ", .param (Param.ofValue n)]
    | none => []
  pure ⟨[Fragment.text ("SELECT id, document FROM " ++ table ++ " WHERE ")] ++ conds ++ order ++ lim ++
    [Fragment.text ";"]⟩

end Sql

end Storefront
