import Storefront.Query
import Storefront.Page.Cursor
import Storefront.Value.Convert

/-!
# Building listing queries

A collection names its records' sort timestamp and id paths and maps each equality filter to
a document path. `buildQuery` runs the stages in order: an equality predicate for each filter
(in the collection's order) whose value is truthy, `>=` the start time and `<` the end time
(both in UTC), order by timestamp then id, resume after a page position, and the limit.
-/

namespace Storefront

/-- A collection of records that can be listed. -/
structure Collection where
  name : String
  record : Option RecordClass := none
  timestamp : String := "submission_time"
  id : String := "id"
  equality : List (String × String) := []

namespace Collection

/-- Orders, filtered by the orderer's names. -/
def orders : Collection :=
  { name := "orders", record := some .order,
    equality := [("family_name", "ordered_by.family_name"), ("given_name", "ordered_by.given_name")] }

/-- Fulfilment tasks, filtered by order, order item and product. -/
def tasks : Collection :=
  { name := "tasks", record := some .task,
    equality := [("order_id", "order_id"), ("order_item_id", "order_item_id"),
      ("product_code", "product_code")] }

end Collection

/-- A timestamp value in UTC; a value that is not a timestamp has no such attribute. -/
def Value.inUtc : Value → Except Failure Value
  | .time t => match t.asUtc with
    | some u => pure (.time u)
    | Option.none => throw (.runtime .overflowError)
  | _ => throw (.runtime .attributeError)

/-- The UTC reading some nanoseconds after the epoch stand for, cut to the microsecond toward
the past. An integer, a boolean or a status counts as its integer; a float is divided with
floor rounding as a float and then taken as whole microseconds. A reading outside the
calendar overflows, NaN is a value failure, and any other value is a type failure. -/
def Value.fromNanos (v : Value) : Except Failure DateTime := do
  let micros ← match v with
    | .float x => truncate (floatDivmod x 1000.0).1
    | v => match intOf? v with
      | some n => pure (Int.fdiv n 1000)
      | Option.none => throw (.runtime .typeError)
  let w := DateTime.epochWall + micros
  if DateTime.inRange w then pure ⟨w, some 0⟩ else throw (.runtime .overflowError)

/-- A position to resume after as a listing request may give it: nanoseconds since the epoch
and an id, of any class. -/
structure Position where
  nanos : Value
  id : Value

/-- The position of a page token. -/
def Cursor.position (c : Cursor) : Position := ⟨.int c.timestamp, .str c.id⟩

/-- The values a position resumes after: its time in UTC and its id. -/
def Position.resumeValues (p : Position) : Except Failure (List Value) := do
  pure [.time (← p.nanos.fromNanos), p.id]

/-- One equality filter: a predicate when its value is truthy. -/
def equalityStep (filters : List (String × Value)) (q : Query) (entry : String × String) :
    Except Failure Query :=
  match Value.lookup filters entry.1 with
  | some v => if v.truthy then q.filter (.str entry.2) (.str "==") v else pure q
  | none => pure q

/-- The equality stage: one predicate per filter with a truthy value. -/
def equalityStage (c : Collection) (filters : List (String × Value)) (q : Query) :
    Except Failure Query :=
  c.equality.foldlM (equalityStep filters) q

/-- The time range stage: from the start time on, before the end time. -/
def timeRangeStage (c : Collection) (filters : List (String × Value)) (q : Query) :
    Except Failure Query := do
  let start := (Value.lookup filters "start_time").getD .none
  let stop := (Value.lookup filters "end_time").getD .none
  let q ← if start.isNone then pure q else do q.filter (.str c.timestamp) (.str ">=") (← start.inUtc)
  if stop.isNone then pure q else do q.filter (.str c.timestamp) (.str "<") (← stop.inUtc)

/-- The query for a page of a collection. -/
def buildQuery (c : Collection) (filters : List (String × Value)) (cursor : Option Position)
    (limit : Value) : Except Failure Query := do
  let q ← equalityStage c filters { collection := c.name }
  let q ← timeRangeStage c filters q
  let q ← q.orderedBy [.str c.timestamp, .str c.id]
  let q ← match cursor with
    | some p => do q.after (← p.resumeValues)
    | none => pure q
  q.limited limit

end Storefront
