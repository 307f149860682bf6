import Storefront.Page.Fetch
import Storefront.Service.Catalog
import Storefront.Service.Pii

/-!
# Orders and tasks

The service's operations on orders and fulfilment tasks. Listing clamps the page size to the
settings, filters by the collection's equality filters and a time range, and pages by token.
Storing requires an id and a submission time and keeps times in UTC; a store failure that is
not a service error becomes an internal server error with the same text. Patching a task
sets its status and reason, and its completion time when the status is completed. Every
operation logs the server errors it raises under its full name.
-/

-- powers of naturals and integers are the core ones, whatever else is in scope
attribute [local instance (1100)] instPowNat

namespace Storefront.Service

open ServiceM

/-- Run an operation: a server error it raises is logged with the operation's full name. -/
def operation (name : String) (act : ServiceM α) : ServiceM α :=
  tryCatch act fun e => do
    if e.isServer then log [⟨.error, "operation failed: " ++ name⟩]
    throw e

/-- The text a failure was raised with. -/
def Failure.argsText : Failure → String
  | .rejected _ m | .record _ m | .malformed m | .status _ m _ | .runtimeText _ m
  | .raised _ m _ => m
  | .invalidCursor t => "invalid page token: " ++ t.plain
  | .storeQuery op rid _ => Failure.storeQueryMessage op rid
  | .runtimeArgs k args => Failure.argsMessage k args
  | .thrown f _ => Failure.argsText f
  | _ => ""

/-- Run store work so that a failure other than a service error becomes an internal server
error with its text, caused by it. -/
def internal (act : ServiceM α) : ServiceM α :=
  tryCatch act fun e =>
    if e.httpStatus?.isSome then throw e else throw (.status 500 (Failure.argsText e) (some e))

/-- A field of a record. -/
def field (v : Value) (name : String) : ServiceM Value := pure? (v.attr name)

/-- The record with a field set. -/
def Value.setField (v : Value) (name : String) (x : Value) : Value :=
  match v with
  | .record c fs => .record c (fs.map fun f => if f.1 == name then (name, x) else f)
  | v => v

/-- A personal value written to logs must be text when it is given, and text that has
UTF-8 bytes to hash. -/
def hashable (v : Value) : Except Failure Unit :=
  if v.truthy then
    match v with
    | .str s => discard (piiHash s)
    | _ => throw (.runtime .attributeError)
  else pure ()

/-- A page of orders. -/
def getOrders (family given start stop limit cursor : Value) : ServiceM Page :=
  operation "ecomm.orders.OrdersResource.get" do
    pure? (hashable family)
    pure? (hashable given)
    let s := (← get).settings
    fetchPage Collection.orders [("family_name", family), ("given_name", given),
      ("start_time", start), ("end_time", stop)] limit cursor (.str "get orders")
      s.defaultPageSize s.maxPageSize s.queryTimeout

/-- Store a new order. -/
def postOrder (order : Value) : ServiceM Unit :=
  operation "ecomm.orders.OrdersResource.post" do
    let id ← field order "id"
    let ok ← if id.truthy then do
        let t ← field order "submission_time"
        pure !t.isNone
      else pure false
    if !ok then throw (Failure.badRequest "order requires id and submission_time")
    let t ← pure? (← field order "submission_time").inUtc
    let order := Value.setField order "submission_time" t
    internal (withStore fun s => do
      let s ← s.create Collection.orders.name id order
      pure ((), s))

/-- An order by id. -/
def getOrder (id : Value) : ServiceM Value :=
  operation "ecomm.orders.OrderResource.get" do
    internal do
      let w ← get
      codec (w.store.read Collection.orders.name id Collection.orders.hint)

/-- A page of tasks. -/
def getTasks (orderId itemId product start stop limit cursor : Value) : ServiceM Page :=
  operation "ecomm.fulfillment.TasksResource.get" do
    let s := (← get).settings
    fetchPage Collection.tasks [("order_id", orderId), ("order_item_id", itemId),
      ("product_code", product), ("start_time", start), ("end_time", stop)] limit cursor
      (.str "get tasks") s.defaultPageSize s.maxPageSize s.queryTimeout

/-- Store one task, its times in UTC. -/
def saveTask (task : Value) : ServiceM Unit := do
  let id ← field task "id"
  let ok ← if id.truthy then do
      let t ← field task "submission_time"
      pure !t.isNone
    else pure false
  if !ok then throw (Failure.badRequest "task requires id and submission_time")
  let t ← pure? (← field task "submission_time").inUtc
  let task := Value.setField task "submission_time" t
  let done ← field task "completion_time"
  let task ← if done.isNone then pure task else do
    let d ← pure? done.inUtc
    pure (Value.setField task "completion_time" d)
  internal (withStore fun s => do
    let s ← s.create Collection.tasks.name id task
    pure ((), s))

/-- Store a new task. -/
def postTask (task : Value) : ServiceM Unit :=
  operation "ecomm.fulfillment.TasksResource.post" (saveTask task)

/-- Store new tasks in turn, stopping at the first that fails. -/
def saveAll (tasks : Value) : ServiceM Unit :=
  operation "ecomm.fulfillment.TasksResource.save_all" do
    let ts ← pure? tasks.iterate
    ts.forM saveTask

/-- A task by id. -/
def getTask (id : Value) : ServiceM Value :=
  operation "ecomm.fulfillment.TaskResource.get" do
    internal do
      let w ← get
      codec (w.store.read Collection.tasks.name id Collection.tasks.hint)

/-- The status a value stands for: a status, or a number equal to a status's code. -/
def statusOfValue (v : Value) : Except Failure TaskStatus :=
  let found := match v with
    | .status s => some s
    | .int i => TaskStatus.ofCode? i
    | .bool b => TaskStatus.ofCode? (if b then 1 else 0)
    | .float x => match exactOfFloat? x with
      | some (m, e) => if e ≥ 0 then TaskStatus.ofCode? (m * 2 ^ e.toNat)
          else if m % 2 ^ (-e).toNat == 0 then TaskStatus.ofCode? (m / 2 ^ (-e).toNat) else none
      | none => none
    | _ => none
  match found with
  | some s => pure s
  | none => throw (Failure.runtime .valueError)

/-- Set a task's status and reason; a completed task also gets the clock's time. -/
def patchTask (id status reason : Value) : ServiceM Unit :=
  operation "ecomm.fulfillment.TaskResource.patch" do
    if status.isNone then throw (Failure.badRequest "status is required")
    let s ← pure? (statusOfValue status)
    let w ← get
    let changes := [("status", Value.status s), ("reason_code", reason)] ++
      (if Value.same status (.status .completed) then [("completion_time", Value.time w.utcNow)] else [])
    internal (withStore fun st => do
      let st ← st.update Collection.tasks.name id changes
      pure ((), st))

/-- The tasks of an order from a catalog, with fresh ids; the warnings are logged. -/
def tasksForOrder (catalog : Catalog) (order : Value) : ServiceM (List Value) := do
  let w ← get
  let (notes, made) := catalog.tasksFor order w.utcNow w.nextId
  log notes
  let (tasks, next) ← pure? made
  modify fun w => { w with nextId := next }
  pure tasks

/-- Make the tasks of an order read before and store them; the new tasks' ids. -/
def fulfill (order : Value) (catalog : Catalog) : ServiceM (List Value) := do
  let tasks ← tasksForOrder catalog order
  saveAll (.list tasks)
  pure (tasks.map fun t => t.atPath "id")

end Storefront.Service
