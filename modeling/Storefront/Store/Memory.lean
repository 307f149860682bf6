import Storefront.Store.Sort
import Storefront.Query
import Storefront.Record
import Storefront.Value.Convert

/-!
# The memory store

Records kept as values, by collection and id, in the order they were created. A query keeps
the records on which every predicate holds (a missing or none field never matches), sorts
them by their order-by values when there are order-by paths (and then keeps those strictly
after the resume values), and keeps at most the limit. Comparisons of values that do not
compare fail the query as a type failure.
-/

namespace Storefront

/-- What a query yields: records in order, then possibly a failure that ends it. -/
structure Stream where
  records : List Value
  failure : Option Failure := none

/-- A store's collections: each a list of records by id, in creation order. An id is any
value that can key a map. -/
structure MemoryStore where
  collections : List (String × List (Value × Value)) := []

namespace MemoryStore

/-- The records of a collection. -/
def records (s : MemoryStore) (coll : String) : List (Value × Value) :=
  ((s.collections.find? (·.1 == coll)).map (·.2)).getD []

/-- The store with a collection's records replaced. -/
def withRecords (s : MemoryStore) (coll : String) (rs : List (Value × Value)) : MemoryStore :=
  if s.collections.any (·.1 == coll) then
    ⟨s.collections.map fun c => if c.1 == coll then (coll, rs) else c⟩
  else ⟨s.collections ++ [(coll, rs)]⟩

/-- The record under an id: ids are equal as values are, so `2` and `2.0` are one key; an
id that cannot key a map is a type failure. -/
def find? (rs : List (Value × Value)) (id : Value) : Except Failure (Option Value) :=
  match id.unhashablePart with
  | some c => throw (.runtimeText .typeError ("unhashable type: '" ++ c ++ "'"))
  | none => pure ((rs.find? fun r => Value.alike r.1 id).map (·.2))

/-- Add a record; an id already in the collection is a conflict. -/
def create (s : MemoryStore) (coll : String) (id record : Value) : Except Failure MemoryStore := do
  let rs := s.records coll
  if (← find? rs id).isSome then throw (Failure.conflict ("record already exists: " ++ id.plain))
  else pure (s.withRecords coll (rs ++ [(id, record)]))

/-- A record by id. -/
def read (s : MemoryStore) (coll : String) (id : Value) : Except Failure Value := do
  match ← find? (s.records coll) id with
  | some v => pure v
  | none => throw (Failure.notFound ("record not found: " ++ id.plain))

/-- Replace fields of a record, building it again; it keeps its place and its first id. -/
def update (s : MemoryStore) (coll : String) (id : Value) (changes : List (String × Value)) :
    Except Failure MemoryStore := do
  let rs := s.records coll
  match ← find? rs id with
  | none => throw (Failure.notFound ("record not found: " ++ id.plain))
  | some v =>
    let v' ← v.replaceFields changes
    pure (s.withRecords coll (rs.map fun r => if Value.alike r.1 id then (r.1, v') else r))

/-- Remove every record. -/
def clear (_ : MemoryStore) : MemoryStore := {}

/-- A comparison that must be defined. -/
def compare (op : CmpOp) (a b : Value) : Except Failure Bool :=
  match Value.test op a b with
  | some r => pure r
  | none => throw (.runtime .typeError)

/-- A predicate holds on a record: its field is present, not none, and compares. -/
def holds (r : Value) (p : Predicate) : Except Failure Bool := do
  let v ← r.atValuePath p.path
  if v.isNone then pure false else compare p.op v p.value

/-- Every predicate holds, tested in order until one does not. -/
def matchesAll (r : Value) : List Predicate → Except Failure Bool
  | [] => pure true
  | p :: ps => do
    if ← holds r p then matchesAll r ps else pure false

/-- The sort key of a record: its values at the order-by paths. -/
def sortKey (paths : List Value) (r : Value) : Except Failure Value := do
  pure (.tuple (← paths.mapM r.atValuePath))

/-- The records a query selects, in order. -/
def select (s : MemoryStore) (q : Query) : Except Failure (List Value) := do
  let rs ← (s.records q.collection).map (·.2) |>.filterM fun r => matchesAll r q.predicates
  let rs ← if q.orderBy.isEmpty then pure rs else do
    let keyed ← rs.mapM fun r => do pure ((← sortKey q.orderBy r), r)
    let sorted ← Sorting.sortBy (fun a b => compare .lt a.1 b.1) keyed
    let kept ← match q.startAfter with
      | some vs => sorted.filterM fun (k, _) => compare .gt k (.tuple vs)
      | none => pure sorted
    pure (kept.map (·.2))
  match q.limit with
  | some n => match intOf? n with
    | some k => pure (rs.take k.toNat)
    | none => throw (.runtime .typeError)
  | none => pure rs

/-- What a query yields: the selected records, or nothing and the failure. -/
def query (s : MemoryStore) (q : Query) : Stream :=
  match s.select q with
  | .ok rs => ⟨rs, none⟩
  | .error e => ⟨[], some e⟩

end MemoryStore

end Storefront
