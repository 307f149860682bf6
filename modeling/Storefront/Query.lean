import Storefront.Value.Text
import Storefront.Value.Compare
import Storefront.Failure

/-!
# Queries

A query on a collection holds, in this order of stages, predicates on document paths
(equalities first, then ranges), paths to order by, the order-by values of a record to resume
after, and a limit. Each clause method returns a new query; a clause of an earlier stage than
one already applied is refused, and so are an unknown operator, resume values that do not
match the order-by paths one for one, and a limit below one. A refused clause leaves the
query as it was.
-/

namespace Storefront

/-- A condition on the field at a dotted document path. The path is whatever the caller gave;
only reading a field needs it to be text. -/
structure Predicate where
  path : Value
  op : CmpOp
  value : Value

namespace Predicate

/-- A predicate with an operator given by its symbol. An operator that is no symbol is refused
with its text; one that cannot be looked up at all (a list or a map) fails as a type failure. -/
def make (path op value : Value) : Except Failure Predicate :=
  match op with
  | .str s => match CmpOp.ofSymbol? s with
    | some o => pure ⟨path, o, value⟩
    | none => throw (Failure.valueError ("unsupported operator: " ++ s))
  | op =>
    if op.hashable then throw (Failure.valueError ("unsupported operator: " ++ op.plain))
    else throw (.runtime .typeError)

/-- The text of a predicate: path, operator and the value as it reads back. -/
def text (p : Predicate) : String := p.path.plain ++ " " ++ p.op.symbol ++ " " ++ p.value.repr

end Predicate

/-- The stages of a query, in the order their clauses must come. -/
inductive Clause where
  | equality
  | range
  | orderBy
  | startAfter
  | limit
deriving DecidableEq, Repr

/-- The rank of a stage. -/
def Clause.rank : Clause → Nat
  | .equality => 0
  | .range => 1
  | .orderBy => 2
  | .startAfter => 3
  | .limit => 4

/-- A query on a collection. `stage` is the rank of the last clause applied. -/
structure Query where
  collection : String
  predicates : List Predicate := []
  orderBy : List Value := []
  startAfter : Option (List Value) := none
  limit : Option Value := none
  stage : Nat := 0

namespace Query

/-- The refusal of a clause that comes too late. -/
def outOfOrder : Failure := Failure.valueError "query clauses must be applied in stage order"

/-- Move to a stage, unless an earlier one is asked for after a later one. -/
def advance (q : Query) (c : Clause) (next : Query) : Except Failure Query :=
  if c.rank < q.stage then throw outOfOrder else pure { next with stage := c.rank }

/-- Add a predicate: an equality is of the first stage, any other comparison of the second. -/
def filter (q : Query) (path op value : Value) : Except Failure Query := do
  let p ← Predicate.make path op value
  q.advance (if p.op == .eq then .equality else .range) { q with predicates := q.predicates ++ [p] }

/-- Add paths to order by. -/
def orderedBy (q : Query) (paths : List Value) : Except Failure Query :=
  q.advance .orderBy { q with orderBy := q.orderBy ++ paths }

/-- Resume after the record with these order-by values, one for each order-by path. -/
def after (q : Query) (values : List Value) : Except Failure Query :=
  if values.length != q.orderBy.length then
    throw (Failure.valueError "start after values must correspond to order by paths")
  else q.advance .startAfter { q with startAfter := some values }

/-- Return at most this many records. A limit below one is refused; one that does not compare
with one fails as a type failure. -/
def limited (q : Query) (n : Value) : Except Failure Query :=
  match Value.test .lt n (.int 1) with
  | some true => throw (Failure.valueError "limit must be positive")
  | some false => q.advance .limit { q with limit := some n }
  | none => throw (.runtime .typeError)

/-- The order-by paths joined by commas; every path must be text. -/
def orderText : List Value → Except Failure String
  | [] => pure ""
  | [.str p] => pure p
  | .str p :: ps => do pure (p ++ ", " ++ (← orderText ps))
  | _ => throw (.runtime .typeError)

/-- The text of a query: its collection, then each clause that is present. -/
def text (q : Query) : Except Failure String := do
  let order ← if q.orderBy.isEmpty then pure [] else do pure ["ORDER BY " ++ (← orderText q.orderBy)]
  let clauses := ["FROM " ++ q.collection] ++
    (if q.predicates.isEmpty then [] else ["WHERE " ++ " AND ".intercalate (q.predicates.map Predicate.text)]) ++
    order ++
    (match q.startAfter with
      | some vs => ["START AFTER " ++ (Value.tuple vs).repr]
      | none => []) ++
    (match q.limit with
      | some n => ["LIMIT " ++ n.plain]
      | none => [])
  pure (" ".intercalate clauses)

end Query

end Storefront
