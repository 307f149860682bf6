import Storefront.Wire.Queries
import Storefront.Settings
import Storefront.Http.Wrap
import Storefront.Service.Catalog
import Storefront.Service.Pii

/-!
# Service pieces in requests

Requests for settings, personal-value hashes, wrapped failures, the service's special errors,
and the tasks of an order. The clock of the service stands at 2024-01-01T00:00:00 UTC unless
a request sets it, and new ids are numbered from one within each request.
-/

namespace Storefront.Wire

/-- The clock reading the service uses unless told otherwise. -/
def standardNow : DateTime := ⟨(Calendar.ordinal 2024 1 1 - 1 : Nat) * microsPerDay, some 0⟩

/-- Settings in an answer: the database and page sizes as plain JSON, the timeout rendered. -/
def settingsJson (s : Settings) : Except Failure Json := do
  pure (.obj [("database", ← plain s.database),
    ("default_page_size", ← plain s.defaultPageSize),
    ("max_page_size", ← plain s.maxPageSize), ("query_timeout", render s.queryTimeout),
    ("store", .str s.storeKind)])

/-- Settings from an environment or from named fields. -/
def settingsAnswer (r : Request) : CodecM Answer := do
  let s ← match member? r "environ" with
    | some (.obj env) => do
      lift (Settings.ofEnviron (env.map fun (k, j) => (k, Value.ofJson j)))
    | _ => do
      let fields ← entriesOf (← r.obj "fields")
      lift (Settings.ofFields fields)
  pure [("settings", ← lift (settingsJson s))]

/-- The hash of a personal value. -/
def piiAnswer (r : Request) : CodecM Answer := do
  match ← r.value "value" with
  | .str s => do pure [("hash", .str (← lift (piiHash s)))]
  | _ => throw (.runtime .attributeError)

/-- An exception class by name; a name that is no such class is a missing attribute named by
it, and a name that is not text is a type failure. -/
def errorClassOf (j : Json) : CodecM Http.ErrorClass :=
  match j with
  | .str s => liftOpt (Http.ErrorClass.ofName? s) (.rejected .attributeError s)
  | _ => throw (.runtime .typeError)

/-- A failure raised inside a wrapped block, and what leaves the block. -/
def wrapAnswer (r : Request) : CodecM Answer := do
  let raised ← errorClassOf (← r.need "raise")
  let args := (← r.arr "args").map Value.ofJson
  let caught ← match r.opt "catch" with
    | .null => pure [Http.ErrorClass.builtin .exception]
    | .arr xs => xs.mapM errorClassOf
    | j => do let c ← errorClassOf j; pure [c]
  let thrown ← match r.opt "throw" with
    | .null => pure (Http.ErrorClass.status 500)
    | j => errorClassOf j
  let e : Http.Raised Value := ⟨raised, args, none⟩
  let (out, same) := match Http.wrap e caught thrown with
    | some w => (w, false)
    | none => (e, true)
  pure [("raised", .str out.cls.name), ("same", .bool same), ("args", .arr (renderItems out.args)),
    ("cause", match out.cause with
      | some c => .str c.name
      | none => .null),
    ("is_error", .bool (out.cls.isA .base))]

/-- One of the service's special errors, with its base class. -/
def specialAnswer (r : Request) : CodecM Answer := do
  let (f, base) ← match ← r.text "kind" with
    | "InvalidCursorError" =>
      pure (Failure.invalidCursor (Value.ofJson (r.opt "token")), "BadRequestError")
    | "StoreQueryError" =>
      pure (Failure.storeQuery (Value.ofJson (r.opt "operation"))
        (Value.ofJson (r.opt "record_id")) none, "InternalServerError")
    | "RecordError" => do
      let id := Value.ofJson (r.opt "record_id")
      let msg := Value.ofJson (r.opt "message")
      let text := if msg.truthy then msg.plain else "could not retrieve record: " ++ id.plain
      pure (Failure.record id text, "Exception")
    | k => throw (.malformed ("unknown error kind " ++ k))
  pure [("value", .obj (f.toJson ++ [("base", .str base)]))]

/-- A catalog as a request gives it: templates by product, each a task code, a status number
and an optional reason. The code and the reason are taken as they are; a template without a
code or a status is a missing key. -/
def catalogOf (ms : List (String × Json)) : CodecM Catalog := do
  let entries ← ms.mapM fun (product, j) => do
    let ts ← match j with
      | .arr ts => pure ts
      | _ => throw (.malformed "templates must be an array")
    let tmpls ← ts.mapM fun t => match t with
      | .obj fs => do
        let code ← liftOpt (member? fs "task_code") (.runtime .keyError)
        let status ← statusOf (← liftOpt (member? fs "status") (.runtime .keyError))
        let reason := Value.ofJson ((member? fs "reason_code").getD .null)
        lift (RecordClass.taskTemplate.make
          [("task_code", Value.ofJson code), ("status", Value.status status),
            ("reason_code", reason)])
      | _ => throw (.malformed "a template must be an object")
    pure (product, tmpls)
  pure ⟨entries⟩

/-- The tasks of an order from a catalog, with the warnings, and the templates of the
products asked about. A failure keeps the warnings given before it. -/
def tasksAnswer (r : Request) : CodecM Answer := do
  let catalog ← match member? r "catalog" with
    | some (.obj ms) => catalogOf ms
    | _ => pure Catalog.standard
  let order ← r.value "order"
  let (notes, made) := catalog.tasksFor order standardNow 1
  let tasks ← match made with
    | .ok (tasks, _) => pure tasks
    | .error e =>
      if notes.isEmpty then throw e
      else return e.toJson ++ [("logs", notesJson notes)]
  let lookup ← match member? r "lookup" with
    | some (.arr ps) => do
      let found ← lift (ps.mapM fun p => catalog.templatesOf (Value.ofJson p))
      pure [("lookup", Json.arr (found.map fun ts => .arr (renderItems ts)))]
    | _ => pure []
  pure ([("tasks", .arr (renderItems tasks)), ("logs", notesJson notes)] ++ lookup)

end Storefront.Wire
