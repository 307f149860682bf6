import Storefront.Store.Memory
import Storefront.Store.Table

/-!
# Stores

A store keeps records in memory or in a table of documents. It can be told to make its next
query fail after yielding some records (with a record failure naming an id, or a runtime
failure), or to stall its next query; the later of the two instructions wins. It counts the
queries it has run to completion or failure. Creating, reading and updating go straight to
the backend. A query of the table waits for the table's worker, so it gives way to a clock
that has already run out; a query in memory never waits.
-/

namespace Storefront

/-- Where a store keeps its records. -/
inductive Backend where
  | memory (m : MemoryStore)
  | table (t : TableStore)

/-- A failure planned for the next query: after how many records (any value that compares
with a count), and the record it names. -/
structure PlannedFailure where
  after : Value
  recordId : Value

/-- The failure a plan raises. -/
def PlannedFailure.failure (p : PlannedFailure) : Failure :=
  match p.recordId with
  | .none => .runtimeText .runtimeError "connection reset"
  | id => .record id ("could not retrieve record: " ++ id.plain)

/-- What the next query is told to do. -/
inductive NextQuery where
  | normal
  | fail (p : PlannedFailure)
  | stall

/-- A store with its instruction for the next query and its count of queries run. -/
structure Store where
  backend : Backend
  next : NextQuery := .normal
  closed : Nat := 0

/-- What a query does: whether it stalls before its records, whether it waits for a worker at
all, and what it yields. -/
structure Outcome where
  stalls : Bool
  waits : Bool
  stream : Stream

namespace Store

/-- An empty store of a kind. -/
def empty (inTable : Bool) : Store :=
  { backend := if inTable then .table {} else .memory {} }

/-- Add a record. -/
def create (s : Store) (coll : String) (id record : Value) : CodecM Store :=
  match s.backend with
  | .memory m => do
    match m.create coll id record with
    | .ok m' => pure { s with backend := .memory m' }
    | .error e => throw e
  | .table t => do
    let t' ← t.create coll id record
    pure { s with backend := .table t' }

/-- A record by id, as a hint's type. -/
def read (s : Store) (coll : String) (id : Value) (h : Hint) : CodecM Value :=
  match s.backend with
  | .memory m => match m.read coll id with
    | .ok v => pure v
    | .error e => throw e
  | .table t => t.read coll id h

/-- Change top-level fields of a record. -/
def update (s : Store) (coll : String) (id : Value) (changes : List (String × Value)) :
    CodecM Store :=
  match s.backend with
  | .memory m => do
    match m.update coll id changes with
    | .ok m' => pure { s with backend := .memory m' }
    | .error e => throw e
  | .table t => do
    let t' ← t.update coll id changes
    pure { s with backend := .table t' }

/-- Empty a store kept in memory; a table store has no such operation. -/
def clear (s : Store) : Except Failure Store :=
  match s.backend with
  | .memory m => pure { s with backend := .memory m.clear }
  | .table _ => throw (.runtime .attributeError)

/-- Put a document's text in a table store as it is; a memory store has no such operation. -/
def insertDocument (s : Store) (coll id doc : String) : Except Failure Store :=
  match s.backend with
  | .table t => pure { s with backend := .table (t.insertRaw coll id doc) }
  | .memory _ => throw (.runtime .attributeError)

/-- How many of some records a plan lets through, and the failure that stops them: before
each record the count so far is compared with the plan's; once it reaches it, the plan's
failure, and a count that does not compare is a type failure. Records that run out first
leave no failure here. -/
def planCut (p : PlannedFailure) : Nat → List Value → Option (Nat × Failure)
  | _, [] => none
  | n, _ :: rest => match Value.test .ge (.int n) p.after with
    | some true => some (n, p.failure)
    | some false => planCut p (n + 1) rest
    | none => some (n, .runtime .typeError)

/-- A planned failure applied to what a query yields: the records it lets through and its
failure; if the records end before, the backend's own failure, if any, else the plan's. -/
def applyPlan (p : PlannedFailure) (st : Stream) : Stream :=
  match planCut p 0 st.records with
  | some (n, e) => ⟨st.records.take n, some e⟩
  | none => match st.failure with
    | some e => ⟨st.records, some e⟩
    | none => ⟨st.records, some p.failure⟩

/-- Run a query: the instruction is used up and the count goes up by one. -/
def query (s : Store) (q : Query) (h : Hint) : CodecM (Outcome × Store) := do
  let (st, waits) ← match s.backend with
    | .memory m => pure (m.query q, false)
    | .table t => do pure (← t.query q h, true)
  let (st, stalls) := match s.next with
    | .fail p => (applyPlan p st, false)
    | .stall => (st, true)
    | .normal => (st, false)
  pure (⟨stalls, waits, st⟩, { s with next := .normal, closed := s.closed + 1 })

end Store

end Storefront
