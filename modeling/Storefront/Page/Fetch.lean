import Storefront.Service.World
import Storefront.Query.Build
import Storefront.Page.Size

/-!
# Fetching pages

A page holds the records a limited query yields, and the token of its last record when the
page is full (there may be more). Any failure while the records are read becomes a store
query failure of the operation, naming the record it carries, if any; a query that stalls
longer than the timeout is a gateway timeout. `fetchPage` clamps the requested size, reads
the page token (an empty token is the first page; a bad one is refused before the store is
asked), builds the query and runs it.
-/

namespace Storefront

/-- A page of records and the token of the next page. -/
structure Page where
  items : List Value
  cursor : Option String

/-- The seconds a worker takes at least to hand back the rows of a query. -/
def workerRoundTrip : Float := 0.001

/-- A query that waits for a worker outlasts a timeout shorter than the worker's round trip,
or one that is not a number, since such a clock has run out before any wait ends. -/
def waitOutlasts (timeout : Value) : Bool :=
  match timeout with
  | .float x => x.isNaN || x < workerRoundTrip
  | _ => false

/-- A stalled query outlasts a timeout below thirty seconds, or one that is not a number. -/
def stallOutlasts (timeout : Value) : Bool :=
  match timeout with
  | .none => false
  | .float x => x.isNaN || x < 30
  | t => (Value.test .lt t (.int 30)).getD false

/-- The position of a record in a collection's order: its timestamp in Unix nanoseconds and
its id's text. -/
def recordCursor (c : Collection) (r : Value) : Except Failure Cursor := do
  let t ← (r.atPath c.timestamp).inUtc
  match t with
  | .time u => match u.toNanos? with
    | some n => pure ⟨n, (r.atPath c.id).plain⟩
    | none => throw (.runtime .overflowError)
  | _ => throw (.runtime .attributeError)

/-- The record a failure names. -/
def Failure.recordId : Failure → Value
  | .record id _ => id
  | .storeQuery _ id _ => id
  | _ => .none

/-- Run a query for a page of a collection. -/
def execute (q : Query) (h : Hint) (c : Collection) (operation : Value) (timeout : Value) :
    ServiceM Page := do
  let out ← ServiceM.withStore fun s => s.query q h
  if (out.stalls && stallOutlasts timeout) || (out.waits && waitOutlasts timeout) then
    throw (.status 504 (operation.plain ++ ": query timed out") (some (.runtime .timeoutError)))
  match out.stream.failure with
  | some e => throw (.storeQuery operation e.recordId (some e))
  | none =>
    let items := out.stream.records
    match q.limit with
    | some n =>
      match Value.test .ge (.int items.length) n with
      | some true => match items.getLast? with
        | some last => do
          let p ← ServiceM.pure? (recordCursor c last)
          pure ⟨items, some p.token⟩
        | none => throw (.runtime .indexError)
      | some false => pure ⟨items, none⟩
      | none => throw (.runtime .typeError)
    | none => pure ⟨items, none⟩

/-- The hint of a collection's records. -/
def Collection.hint (c : Collection) : Hint :=
  match c.record with
  | some r => .cls (.record r)
  | none => .cls .dict

/-- The position a page token stands for: none for no token or an empty one. -/
def positionOfToken (token : Value) : Except Failure (Option Cursor) :=
  match token with
  | .none => pure none
  | .str "" => pure none
  | .str t => do let c ← Cursor.ofToken t; pure (some c)
  | v => if v.truthy then throw (.runtime .attributeError) else pure none

/-- Fetch a page of a collection's records that match the filters. -/
def fetchPage (c : Collection) (filters : List (String × Value)) (limit token : Value)
    (operation : Value) (default maximum timeout : Value) : ServiceM Page := do
  let (size, notes) ← ServiceM.pure? (clampPageSize limit default maximum)
  ServiceM.log notes
  let position ← ServiceM.pure? (positionOfToken token)
  let q ← ServiceM.pure? (buildQuery c filters (position.map Cursor.position) size)
  execute q c.hint c operation timeout

end Storefront
