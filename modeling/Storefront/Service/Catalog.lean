import Storefront.Record
import Storefront.Value.Text
import Storefront.Log

/-!
# The task catalog

A catalog maps product codes to task templates (task code, status and reason). The tasks of
an order are, for each of its items in order and each template of the item's product in
order, a new task with a fresh id and the one clock reading, tied to the order, the item and
its product, and taking the template's code, status and reason. An item whose product has no
templates is reported with a warning.
-/

namespace Storefront

/-- A field of a record; anything else has no attributes. -/
def Value.attr (v : Value) (name : String) : Except Failure Value :=
  match v with
  | .record _ fs => match Value.lookup fs name with
    | some x => pure x
    | Option.none => throw (.runtime .attributeError)
  | _ => throw (.runtime .attributeError)

/-- The values a loop goes through: a sequence's items, a text's characters, a map's keys;
other values cannot be looped over. -/
def Value.iterate : Value → Except Failure (List Value)
  | .list xs | .tuple xs => pure xs
  | .str s => pure (s.toList.map fun c => .str (String.singleton c))
  | .dict es => pure (es.map fun e => .str e.1)
  | _ => throw (.runtime .typeError)

/-- The values a loop goes through, a false value standing for none at all. -/
def Value.items (v : Value) : Except Failure (List Value) :=
  if v.truthy then v.iterate else pure []

/-- The text of a random-style id of a number: 32 lowercase hexadecimal digits in groups of
8, 4, 4, 4 and 12. -/
def uuidText (n : Nat) : String :=
  let h := (Value.hex 32 n).toList
  let part (a b : Nat) := String.ofList ((h.drop a).take (b - a))
  part 0 8 ++ "-" ++ part 8 12 ++ "-" ++ part 12 16 ++ "-" ++ part 16 20 ++ "-" ++ part 20 32

/-- Task templates by product code. -/
structure Catalog where
  entries : List (String × List Value)

namespace Catalog

/-- A template: task code, status and reason. -/
def template (taskCode : String) (status : TaskStatus) (reason : Option String) : Value :=
  .record .taskTemplate [("task_code", .str taskCode), ("status", .status status),
    ("reason_code", match reason with
      | some r => .str r
      | none => .none)]

/-- The service's catalog: a gold yoyo is manufactured and then shipped, a plastic one is
offered an upgrade by customer service. -/
def standard : Catalog :=
  ⟨[("gold_yoyo", [template "manufacture" .waitingService none,
      template "ship" .waitingTask (some "wait_for_manufacture")]),
    ("plastic_yoyo", [template "upsell_to_gold" .waitingCs (some "no_stock")])]⟩

/-- The templates of a product; none for an unknown product. A product code that cannot be
looked up at all (a list or a map) is a type failure. -/
def templatesOf (c : Catalog) (product : Value) : Except Failure (List Value) :=
  match product with
  | .str p => pure (((c.entries.find? (·.1 == p)).map (·.2)).getD [])
  | v => if v.hashable then pure [] else throw (.runtime .typeError)

/-- The task of a template for an item of an order. -/
def task (order item tmpl : Value) (id : String) (now : DateTime) : Except Failure Value := do
  let args := [("id", Value.str id), ("submission_time", .time now),
    ("order_id", ← order.attr "id"), ("order_item_id", ← item.attr "id"),
    ("product_code", ← item.attr "product_code"), ("task_code", ← tmpl.attr "task_code"),
    ("status", ← tmpl.attr "status"), ("reason_code", ← tmpl.attr "reason_code")]
  RecordClass.task.make args

/-- The tasks of the templates of one item, ids numbered from `next`. -/
def itemTasks (order item : Value) (now : DateTime) :
    List Value → Nat → Except Failure (List Value × Nat)
  | [], next => pure ([], next)
  | t :: ts, next => do
    let x ← task order item t (uuidText next) now
    let (xs, next') ← itemTasks order item now ts (next + 1)
    pure (x :: xs, next')

/-- The tasks of one item of an order, ids numbered from `next`, and the warning when its
product has no templates; a failure after the warning keeps it. -/
def itemStep (c : Catalog) (order item : Value) (now : DateTime) (next : Nat) :
    List Note × Except Failure (List Value × Nat) :=
  let found : Except Failure (List Value × List Note) := do
    let product ← item.attr "product_code"
    let tmpls ← c.templatesOf product
    if tmpls.isEmpty then
      let id ← order.attr "id"
      pure (tmpls, [Note.warn ("no fulfillment tasks for product " ++ product.plain ++
        " (order=" ++ id.plain ++ ")")])
    else pure (tmpls, [])
  match found with
  | .error e => ([], .error e)
  | .ok (tmpls, notes) => (notes, itemTasks order item now tmpls next)

/-- The tasks of some items of an order, ids numbered from `next`, and the warnings given
until the first failure, if any. -/
def itemsSteps (c : Catalog) (order : Value) (now : DateTime) :
    List Value → Nat → List Note × Except Failure (List Value × Nat)
  | [], next => ([], .ok ([], next))
  | item :: rest, next =>
    match c.itemStep order item now next with
    | (notes, .error e) => (notes, .error e)
    | (notes, .ok (tasks, next)) =>
      let (more, r) := c.itemsSteps order now rest next
      (notes ++ more, r.map fun (ts, n) => (tasks ++ ts, n))

/-- The tasks of an order's items with the next unused id number, and the warnings for items
without templates, those given before a failure included. -/
def tasksFor (c : Catalog) (order : Value) (now : DateTime) (next : Nat) :
    List Note × Except Failure (List Value × Nat) :=
  match (do (← order.attr "order_items").items : Except Failure (List Value)) with
  | .error e => ([], .error e)
  | .ok items => c.itemsSteps order now items next

end Catalog

end Storefront
