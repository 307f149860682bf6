import Storefront.Wire.Queries
import Storefront.Wire.Service
import Storefront.Service.Resources

/-!
# Sessions

A session runs steps one after another on one world: a store (in memory or in a table), the
settings, a fixed clock and a counter of new ids. Each step is answered with its result or its
failure, with the log lines it wrote. A step that asks for the cursor `$last` gets the token of
the most recent page answered in the session: none once a last page has been seen, or before
any page. A task's new status and reason are taken as plain JSON values, so a tagged status
object is not a status.
-/

namespace Storefront.Wire

open Service

/-- A step's answer, and the token of the next page when the step answered a page. -/
structure StepAnswer where
  answer : Answer
  page : Option (Option String) := none

/-- The answer of a step that has nothing to report. -/
def okAnswer : StepAnswer := ⟨[("ok", .bool true)], none⟩

/-- A value of a step's request. -/
def stepValue (r : Request) (k : String) : ServiceM Value := ServiceM.codec (r.value k)

/-- A time filter: text is read as a timestamp, anything else as a value. -/
def stepTime (r : Request) (k : String) : ServiceM Value :=
  match r.opt k with
  | .str s => ServiceM.codec do let t ← timeOf (.str s); pure (Value.time t)
  | j => ServiceM.codec (valueOf j)

/-- A page token: `$last` stands for the token of the most recent page. -/
def stepToken (last : Option String) (r : Request) : ServiceM Value :=
  match r.opt "cursor" with
  | .str "$last" => pure (match last with
    | some t => .str t
    | none => .none)
  | j => ServiceM.codec (valueOf j)

/-- The ids of records, as they are shown. -/
def idsJson (items : List Value) : Json := .arr (items.map fun r => render (r.atPath "id"))

/-- The token of a page in an answer. -/
def tokenJson (t : Option String) : Json :=
  match t with
  | some s => .str s
  | none => .null

/-- A page in an answer: its records, or only their ids, and the token of the next page. -/
def pageAnswer (idsOnly : Bool) (p : Page) : StepAnswer :=
  let items := if idsOnly then ("ids", idsJson p.items) else ("items", .arr (renderItems p.items))
  ⟨[items, ("cursor", tokenJson p.cursor)], some p.cursor⟩

/-- Follow page tokens from the first page until a page has none, gathering the ids. -/
def paginate (fetch : Value → ServiceM Page) : Nat → Value → List Json → ServiceM (List Json)
  | 0, _, acc => pure acc
  | fuel + 1, token, acc => do
    let p ← fetch token
    let acc := acc ++ p.items.map fun r => render (r.atPath "id")
    match p.cursor with
    | some t => paginate fetch fuel (.str t) acc
    | none => pure acc

/-- The most pages a walk through a collection follows. -/
def pageFuel : Nat := 100000

/-- A page of orders as a step asks for it. -/
def ordersPage (r : Request) (token : Value) : ServiceM Page := do
  let family ← stepValue r "family_name"
  let given ← stepValue r "given_name"
  let start ← stepTime r "start_time"
  let stop ← stepTime r "end_time"
  let limit ← stepValue r "limit"
  getOrders family given start stop limit token

/-- A page of tasks as a step asks for it. -/
def tasksPage (r : Request) (token : Value) : ServiceM Page := do
  let orderId ← stepValue r "order_id"
  let itemId ← stepValue r "order_item_id"
  let product ← stepValue r "product_code"
  let start ← stepTime r "start_time"
  let stop ← stepTime r "end_time"
  let limit ← stepValue r "limit"
  getTasks orderId itemId product start stop limit token

/-- A query of a collection made by clauses in turn. -/
def queryOf (name : String) (ops : List Json) : ServiceM Query :=
  ops.foldlM (fun q j => ServiceM.codec (clauseOf q j)) { collection := name }

/-- Store work whose failures are raised as they are. -/
def storeStep (f : Store → Except Failure Store) : ServiceM Unit := do
  let w ← get
  let s ← ServiceM.pure? (f w.store)
  set { w with store := s }

/-- A time of a step, as extended ISO text. -/
def clockOf (j : Json) : ServiceM DateTime := ServiceM.codec (timeOf j)

/-- The operation name a raw query step reports in its failures, `op` unless given. -/
def operationOf (r : Request) : Value :=
  match member? r "operation" with
  | some j => Value.ofJson j
  | none => .str "op"

/-- One step of a session. -/
def step (last : Option String) (r : Request) : ServiceM StepAnswer := do
  match ← ServiceM.codec (r.text "op") with
  | "post_order" => do
    postOrder (← stepValue r "record")
    pure okAnswer
  | "get_order" => do
    let v ← getOrder (← stepValue r "id")
    pure ⟨[("value", render v)], none⟩
  | "get_orders" => do
    let p ← ordersPage r (← stepToken last r)
    pure (pageAnswer (r.flag "ids_only") p)
  | "paginate_orders" => do
    let ids ← paginate (ordersPage r) pageFuel .none []
    pure ⟨[("ids", .arr ids)], none⟩
  | "post_task" => do
    postTask (← stepValue r "record")
    pure okAnswer
  | "save_all_tasks" => do
    saveAll (← stepValue r "records")
    pure okAnswer
  | "get_task" => do
    let v ← getTask (← stepValue r "id")
    pure ⟨[("value", render v)], none⟩
  | "get_tasks" => do
    let p ← tasksPage r (← stepToken last r)
    pure (pageAnswer (r.flag "ids_only") p)
  | "paginate_tasks" => do
    let ids ← paginate (tasksPage r) pageFuel .none []
    pure ⟨[("ids", .arr ids)], none⟩
  | "patch_task" => do
    match r.opt "now" with
    | .null => pure ()
    | j => do
      let t ← clockOf j
      modify fun w => { w with now := t }
    let id ← stepValue r "id"
    patchTask id (Value.ofJson (r.opt "status")) (Value.ofJson (r.opt "reason_code"))
    pure okAnswer
  | "fulfill" => do
    let order ← getOrder (← stepValue r "order_id")
    let catalog ← match r.opt "catalog" with
      | .obj ms => ServiceM.codec (catalogOf ms)
      | _ => pure Catalog.standard
    let ids ← fulfill order catalog
    pure ⟨[("ids", .arr (renderItems ids))], none⟩
  | "fail_next_query" => do
    let after := ((member? r "after").map Value.ofJson).getD (.int 0)
    let plan : PlannedFailure := ⟨after, Value.ofJson (r.opt "record_id")⟩
    modify fun w => { w with store := { w.store with next := .fail plan } }
    pure okAnswer
  | "slow_next_query" => do
    modify fun w => { w with store := { w.store with next := .stall } }
    pure okAnswer
  | "closed_count" => do
    let w ← get
    pure ⟨[("closed", .int w.store.closed)], none⟩
  | "clear" => do
    storeStep Store.clear
    pure okAnswer
  | "store_create" => do
    let coll ← ServiceM.codec (r.text "collection")
    let id ← stepValue r "id"
    let v ← stepValue r "record"
    ServiceM.withStore fun s => do
      let s ← s.create coll id v
      pure ((), s)
    pure okAnswer
  | "store_read" => do
    let coll ← ServiceM.codec (r.text "collection")
    let id ← stepValue r "id"
    let h ← ServiceM.codec (hintOf (r.opt "type"))
    let w ← get
    let v ← ServiceM.codec (w.store.read coll id h)
    pure ⟨[("value", render v)], none⟩
  | "store_update" => do
    let coll ← ServiceM.codec (r.text "collection")
    let id ← stepValue r "id"
    let changes ← ServiceM.codec do entriesOf (← r.obj "changes")
    ServiceM.withStore fun s => do
      let s ← s.update coll id changes
      pure ((), s)
    pure okAnswer
  | "store_query" => do
    let coll ← ServiceM.codec (r.text "collection")
    let h ← ServiceM.codec (hintOf (r.opt "type"))
    let q ← queryOf coll (← ServiceM.codec (r.arr "ops"))
    let out ← ServiceM.withStore fun s => s.query q h
    match out.stream.failure with
    | some e => throw e
    | none => pure ⟨[("items", .arr (renderItems out.stream.records))], none⟩
  | "execute" => do
    let c ← ServiceM.codec (collectionOf (← ServiceM.codec (r.need "collection")))
    let q ← queryOf c.name (← ServiceM.codec (r.arr "ops"))
    let p ← execute q c.hint c (operationOf r) .none
    pure (pageAnswer true p)
  | "fetch_page" => do
    let c ← ServiceM.codec (collectionOf (← ServiceM.codec (r.need "collection")))
    let filters ← ServiceM.codec do filtersOf (← r.obj "filters")
    let limit := Value.ofJson (r.opt "limit")
    let default := ((member? r "default").map Value.ofJson).getD defaultPageSize
    let maximum := ((member? r "maximum").map Value.ofJson).getD maxPageSize
    let p ← fetchPage c filters limit (← stepToken last r) (operationOf r) default maximum .none
    pure (pageAnswer true p)
  | "sql_insert" => do
    let coll ← ServiceM.codec (r.text "collection")
    let id ← ServiceM.codec (r.text "id")
    let doc ← ServiceM.codec (r.text "document")
    storeStep fun s => s.insertDocument coll id doc
    pure okAnswer
  | op => throw (.malformed ("unknown step " ++ op))

/-- An entry of a session's answer: the step's fields, and its log lines when there are any. -/
def entryJson (fields : List (String × Json)) (notes : List Note) : Json :=
  .obj (if notes.isEmpty then fields else fields ++ [("logs", notesJson notes)])

/-- Run steps in turn, each starting with no log lines; the entries and the world after. -/
def runSteps : List Json → Option String → World → List Json × World
  | [], _, w => ([], w)
  | j :: js, last, w =>
    let act : ServiceM StepAnswer := match j with
      | .obj ms => step last ms
      | _ => throw (.malformed "a step must be an object")
    let (entry, last, w) := match act.run { w with notes := [] } with
      | .ok a w' => (entryJson a.answer w'.notes, a.page.getD last, w')
      | .error e w' => (entryJson e.toJson w'.notes, last, w')
    let (rest, w) := runSteps js last w
    (entry :: rest, w)

/-- A session: a store of a kind, settings, a clock, and the answers of its steps. The codec
registry is shared with the requests around it. -/
def sessionAnswer (r : Request) : CodecM Answer := do
  let inTable ← match ← r.text "store" with
    | "memory" => pure false
    | "sqlite" => pure true
    | k => throw (.malformed ("unknown store " ++ k))
  let settings ← match member? r "settings" with
    | some (.obj ms) => do lift (Settings.ofFields (← entriesOf ms))
    | _ => pure {}
  let now ← match r.opt "now" with
    | .null => pure standardNow
    | j => timeOf j
  let steps ← r.arr "steps"
  let w : World := { registry := ← get, store := Store.empty inTable, settings, now }
  let (entries, w) := runSteps steps none w
  set w.registry
  pure [("steps", .arr entries)]

end Storefront.Wire
