import Storefront.Store.Memory
import Storefront.Store.Sort
import Storefront.Store.Document
import Storefront.Sql.Select

/-!
# The table store

Records kept as JSON documents in one table of rows (collection, id, document), as a SQL
database keeps them. A query runs its select statement: rows of the collection in id order,
kept when every predicate and the resume condition are true under SQL's three-valued logic,
sorted by the order-by fields, cut at the limit. A field is read from a document by its
dotted path: JSON null, a missing member and a path through a non-object are SQL NULL,
booleans are the integers 1 and 0, arrays and objects their JSON text. Values compare as SQL
values do: NULL with anything is unknown, numbers below text, numbers by value, text by code
point. Each selected document is decoded by the codec of the record type; a document that
does not decode ends the query with a record failure.
-/

-- powers of naturals and integers are the core ones, whatever else is in scope
attribute [local instance (1100)] instPowNat

namespace Storefront

/-- A SQL value. -/
inductive SqlValue where
  | null
  | int (i : Int)
  | real (x : Float)
  | text (s : String)

namespace SqlValue

/-- Integers that a SQL integer holds: 64 signed bits. -/
def fits (i : Int) : Bool := -(2 ^ (63 : Nat)) ≤ i && i < 2 ^ (63 : Nat)

/-- The SQL value of a JSON member. -/
def ofJson : Json → SqlValue
  | .null => .null
  | .bool b => .int (if b then 1 else 0)
  | .int i => if fits i then .int i else .real (Float.ofInt i)
  | .float x => .real x
  | .str s => .text s
  | j => .text j.render

/-- The SQL value a parameter binds to; a NaN binds as NULL, a text is bound as UTF-8 (so a
lone surrogate cannot be), and a value of another class cannot be bound. -/
def bind : Value → Except Failure SqlValue
  | .none => pure .null
  | .bool b => pure (.int (if b then 1 else 0))
  | .int i => if fits i then pure (.int i) else throw (.runtime .overflowError)
  | .status s => pure (.int s.code)
  | .float x => pure (if x.isNaN then .null else .real x)
  | .str s => match Failure.unencodable? s with
    | some f => throw f
    | none => pure (.text s)
  | _ => throw (.runtime .programmingError)

/-- How the database writes a real as text: fifteen significant digits, positional from
`1e-4` up to `1e15`, an integral value or a one-digit mantissa with `.0`. -/
def realLayout : Decimal.Layout :=
  { plainFrom := -4, plainBelow := 15, pointZero := true, expPlus := true, expWidth := 2,
    nan := "NULL", inf := "Inf", mantPoint := true, precision := some 15 }

/-- The text a value becomes in a column of text affinity; NULL stays NULL. -/
def affineText : SqlValue → Option String
  | .null => none
  | .int i => some (toString i)
  | .real x => some (realLayout.float x)
  | .text s => some s

/-- The number a numeric SQL value holds. -/
def num? : SqlValue → Option Num
  | .int i => some (.exact i)
  | .real x => some (.real x)
  | _ => none

/-- How two SQL values compare: NULL first, then numbers, then text. -/
def order (a b : SqlValue) : Ordering :=
  match a, b with
  | .null, .null => .eq
  | .null, _ => .lt
  | _, .null => .gt
  | .text x, .text y => Text.compareText x y
  | .text _, _ => .gt
  | _, .text _ => .lt
  | x, y => match x.num?, y.num? with
    | some m, some n => (m.order? n).getD .eq
    | _, _ => .eq

/-- A comparison under three-valued logic: unknown when either side is NULL. -/
def test (op : CmpOp) (a b : SqlValue) : Option Bool :=
  match a, b with
  | .null, _ | _, .null => none
  | _, _ => some (op.holds (order a b))

end SqlValue

/-- Three-valued conjunction. -/
def and3 : Option Bool → Option Bool → Option Bool
  | some false, _ | _, some false => some false
  | some true, some true => some true
  | _, _ => none

/-- Three-valued disjunction. -/
def or3 : Option Bool → Option Bool → Option Bool
  | some true, _ | _, some true => some true
  | some false, some false => some false
  | _, _ => none

/-- The SQL value of a document node: JSON null is NULL, booleans the integers 1 and 0, an
integer that 64 bits hold an integer and any other number a real, a string the text its
escapes stand for, an array or object its text. -/
def DocNode.sqlValue : DocNode → SqlValue
  | .null => .null
  | .bool b => .int (if b then 1 else 0)
  | .num t true =>
    let i := DocNode.intOf t
    if SqlValue.fits i then .int i else .real (DocNode.realOf t)
  | .num t false => .real (DocNode.realOf t)
  | .str raw => .text (DocNode.unescape raw.toList [])
  | d => .text d.render

/-- The value at a dotted path of a document; NULL where the path finds nothing. -/
def DocNode.field (doc : DocNode) (path : String) : SqlValue :=
  match doc.atPath? path with
  | some d => d.sqlValue
  | none => .null

/-- A row of the table. -/
structure Row where
  collection : String
  id : String
  document : String
deriving Inhabited

/-- The table of documents, rows in the order they were added. -/
structure TableStore where
  rows : List Row := []

namespace TableStore

/-- The row of a record. -/
def find? (s : TableStore) (coll id : String) : Option Row :=
  s.rows.find? fun r => r.collection == coll && r.id == id

/-- The text an id is kept under: the id column has text affinity, so a bound number is
kept as its text. A NULL id has no text. -/
def idText (id : Value) : Except Failure (Option String) := do
  pure (← SqlValue.bind id).affineText

/-- Add a record as the document its class's codec writes; an id already in the collection
is a conflict, and so is a NULL id, which the id column refuses. -/
def create (s : TableStore) (coll : String) (id record : Value) : CodecM TableStore := do
  let c ← Codec.get (.cls record.kind)
  let doc ← Codec.dumps c record
  let conflict := Failure.conflict ("record already exists: " ++ id.plain)
  match ← Sql.liftExcept (idText id) with
  | none => throw conflict
  | some key =>
    if (s.find? coll key).isSome then throw conflict
    pure ⟨s.rows ++ [⟨coll, key, doc⟩]⟩

/-- The row under an id; a NULL id names none. -/
def findValue? (s : TableStore) (coll : String) (id : Value) : Except Failure (Option Row) := do
  match ← idText id with
  | none => pure none
  | some key => pure (s.find? coll key)

/-- Add a row with a document as it is given, replacing any row of that id. -/
def insertRaw (s : TableStore) (coll id doc : String) : TableStore :=
  if (s.find? coll id).isSome then
    ⟨s.rows.map fun r => if r.collection == coll && r.id == id then ⟨coll, id, doc⟩ else r⟩
  else ⟨s.rows ++ [⟨coll, id, doc⟩]⟩

/-- A document decoded by a codec; one that does not decode is a record failure naming
an id. -/
def decodeRow (c : Codec) (r : Row) (id : Value) : CodecM Value :=
  tryCatch (Codec.loads c r.document) fun e =>
    match e with
    | .decode _ => throw (Failure.record id ("could not decode record: " ++ id.plain))
    | e => throw e

/-- A record by id, decoded as a hint's type; a failure to decode names the id asked for. -/
def read (s : TableStore) (coll : String) (id : Value) (h : Hint) : CodecM Value := do
  match ← Sql.liftExcept (s.findValue? coll id) with
  | none => throw (Failure.notFound ("record not found: " ++ id.plain))
  | some r => do
    let c ← Codec.get h
    decodeRow c r id

/-- One change to a parsed document: a none value removes the field, another value is
written by its class's codec and set. A document that is not an object has no fields: a
removal from an array is refused for its extra argument and from a scalar for a missing
method, and setting a field of any of them is refused, after the value was written. -/
def change (doc : Json) (k : String) (v : Value) : CodecM Json :=
  if v.isNone then
    match doc with
    | .obj ms => pure (.obj (ms.filter (·.1 != k)))
    | .arr _ => throw (.runtimeText .typeError "pop expected at most 1 argument, got 2")
    | d => throw (.runtimeText .attributeError
        ("'" ++ d.className ++ "' object has no attribute 'pop'"))
  else do
    let c ← Codec.get (.cls v.kind)
    let j ← Codec.encode c v
    match doc with
    | .obj ms => pure (.obj (Json.setMember ms k j))
    | .arr _ => throw (.runtimeText .typeError "list indices must be integers or slices, not str")
    | d => throw (.runtimeText .typeError
        ("'" ++ d.className ++ "' object does not support item assignment"))

/-- Set top-level fields of a document to their values as their classes' codecs write them;
a none value removes the field. A document that is not JSON fails to decode, with the point
where reading stopped; an integer of too many digits fails to convert. -/
def update (s : TableStore) (coll : String) (id : Value) (changes : List (String × Value)) :
    CodecM TableStore := do
  match ← Sql.liftExcept (s.findValue? coll id) with
  | none => throw (Failure.notFound ("record not found: " ++ id.plain))
  | some r =>
    let doc ← match Json.parse r.document with
      | .ok doc => pure doc
      | .error e@(.fault _ _) =>
        throw (.runtimeText .jsonDecodeError (e.describe r.document.toList))
      | .error e@(.tooManyDigits _) =>
        throw (.runtimeText .valueError (e.describe r.document.toList))
    let doc ← changes.foldlM (fun doc (k, v) => change doc k v) doc
    pure (s.insertRaw coll r.id doc.render)

/-- The document of a row as the path functions read it; one that does not read fails them. -/
def parsed (r : Row) : Except Failure DocNode :=
  match DocNode.read? r.document with
  | some d => pure d
  | none => throw (.runtime .operationalError)

/-- `(p1, …) > (v1, …)` under three-valued logic: the first field greater, or equal and the
rest greater. -/
def after (doc : DocNode) : List String → List SqlValue → Option Bool
  | [p], v :: _ => SqlValue.test .gt (doc.field p) v
  | p :: ps, v :: vs =>
    let x := doc.field p
    or3 (SqlValue.test .gt x v) (and3 (SqlValue.test .eq x v) (after doc ps vs))
  | _, _ => some false

/-- The condition of a query on a document: every predicate, then the resume condition. -/
def condition (doc : DocNode) (preds : List (Predicate × SqlValue))
    (resume : Option (List SqlValue)) (paths : List String) : Option Bool :=
  let base := preds.foldl
    (fun acc (p, v) => and3 acc (SqlValue.test p.op (doc.field p.path.plain) v)) (some true)
  match resume with
  | some vs => and3 base (after doc paths vs)
  | none => base

/-- How many rows a bound limit lets through: an integer, or a float that holds an integer
exactly, counts; a negative count sets no bound. Any other value is a mismatch of data types,
which the database reports as a broken constraint. -/
def limitCount (n : Value) : Except Failure (Option Nat) := do
  let k ← match n with
    | .float x => match exactOfFloat? x with
      | some (m, e) =>
        if e ≥ 0 then pure (m * 2 ^ e.toNat)
        else if m % 2 ^ (-e).toNat == 0 then pure (m / 2 ^ (-e).toNat)
        else throw (.runtime .integrityError)
      | none => throw (.runtime .integrityError)
    | v => match intOf? v with
      | some i => pure i
      | none => throw (.runtime .integrityError)
  pure (if k < 0 then none else some k.toNat)

/-- Order rows by the fields at the order-by paths. -/
def rowLess (paths : List String) (a b : DocNode) : Bool :=
  let rec go : List String → Bool
    | [] => false
    | p :: ps => match SqlValue.order (a.field p) (b.field p) with
      | .lt => true
      | .gt => false
      | .eq => go ps
  go paths

/-- Rows a scan has produced, and the failure that stopped it, if any. -/
structure Scan where
  rows : List Row
  failure : Option Failure := none

/-- Whether a row is selected; its document is read only when a condition needs a field. -/
def selects (preds : List (Predicate × SqlValue)) (resume : Option (List SqlValue))
    (paths : List String) (r : Row) : Except Failure Bool := do
  if preds.isEmpty && resume.isNone then pure true
  else
    let doc ← parsed r
    pure (condition doc preds resume paths == some true)

/-- Scan rows in order without sorting, stopping once `bound` rows are selected or a row
fails. -/
def scanFirst (preds : List (Predicate × SqlValue)) (resume : Option (List SqlValue))
    (paths : List String) : List Row → Option Nat → List Row → Scan
  | [], _, acc => ⟨acc.reverse, none⟩
  | r :: rs, bound, acc =>
    if bound == some acc.length then ⟨acc.reverse, none⟩ else
    match selects preds resume paths r with
    | .error e => ⟨acc.reverse, some e⟩
    | .ok true => scanFirst preds resume paths rs bound (r :: acc)
    | .ok false => scanFirst preds resume paths rs bound acc

/-- The rows a query selects, in order, and the failure that stops the statement. A limit
that is not an integer fails first and a zero limit reads no row. Without order-by paths the
rows come in id order and reading stops at the limit; with them every row is read and every
selected row's sort fields are read before the first row comes out. -/
def selectRows (s : TableStore) (q : Query) (preds : List (Predicate × SqlValue))
    (resume : Option (List SqlValue)) : Scan :=
  let rows := (s.rows.filter (·.collection == q.collection)).mergeSort fun a b => a.id ≤ b.id
  let paths := q.orderBy.map Value.plain
  let bound : Except Failure (Option Nat) := match q.limit with
    | some n => limitCount n
    | none => pure none
  match bound with
  | .error e => ⟨[], some e⟩
  | .ok (some 0) => ⟨[], none⟩
  | .ok bound =>
    if q.orderBy.isEmpty then scanFirst preds resume paths rows bound []
    else
      let kept : Except Failure (List (Row × DocNode)) := rows.filterMapM fun r => do
        if ← selects preds resume paths r then
          let doc ← parsed r
          pure (some (r, doc))
        else pure none
      match kept with
      | .error e => ⟨[], some e⟩
      | .ok kept =>
        let sorted := match Sorting.sortBy (fun a b => (pure (rowLess paths a.2 b.2) : Except Failure Bool)) kept with
          | .ok xs => xs
          | .error _ => kept
        let out := match bound with
          | some k => sorted.take k
          | none => sorted
        ⟨out.map (·.1), none⟩

/-- Rows are fetched in chunks of this many. -/
def chunkSize : Nat := 64

/-- The rows a reader receives of a scan. Each fetched row is handed over only after the next
one is produced, and rows come in whole chunks: a failure while producing row `m` (counted
from zero) is met while fetching row `m - 1`, so only the chunks before that row's chunk
arrive. -/
def delivered (sc : Scan) : List Row :=
  match sc.failure with
  | none => sc.rows
  | some _ =>
    let m := sc.rows.length
    if m == 0 then [] else sc.rows.take (chunkSize * ((m - 1) / chunkSize))

/-- Decode rows in turn, stopping at the first that does not decode; after the last, the
failure that ended the rows, if any. -/
def decodeRows (c : Codec) (last : Option Failure) : List Row → CodecM Stream
  | [] => pure ⟨[], last⟩
  | r :: rs => do
    let v? ← tryCatch (do let v ← decodeRow c r (.str r.id); pure (Except.ok v)) fun e => pure (.error e)
    match v? with
    | .error e => pure ⟨[], some e⟩
    | .ok v => do
      let rest ← decodeRows c last rs
      pure ⟨v :: rest.records, rest.failure⟩

/-- What a query yields, records decoded as a hint's type. The statement is built and bound
first, so its refusals end the query before any row. -/
def query (s : TableStore) (q : Query) (h : Hint) : CodecM Stream := do
  let attemptRows : CodecM Stream := do
    let c ← Codec.get h
    let _ ← Sql.selectStatement q
    let preds ← q.predicates.mapM fun p => do
      let prm ← Sql.encodedParam p.value
      let v ← Sql.liftExcept (SqlValue.bind prm.value)
      pure (p, v)
    let resume ← match q.startAfter with
      | some vs => do
        let bound ← vs.mapM fun v => do
          let prm ← Sql.encodedParam v
          Sql.liftExcept (SqlValue.bind prm.value)
        pure (some bound)
      | none => pure none
    let sc := s.selectRows q preds resume
    decodeRows c sc.failure (delivered sc)
  tryCatch attemptRows fun e => pure ⟨[], some e⟩

end TableStore

end Storefront
