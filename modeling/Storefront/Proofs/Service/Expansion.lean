import Storefront.Proofs.Record.Keyword
import Storefront.Proofs.Page.Token

/-!
# Expanding an order into tasks

For an order whose fields have their declared types and a catalog whose templates are task
templates, the tasks made for the order are exactly the catalog's expansion: for each item in
order and each template of its product in order, one task tied to the order, the item and the
product, with the template's code, status and reason, the one clock reading, no completion time
and no parameters. Ids are drawn in turn from a counter, and they are pairwise distinct while
the counter stays within the 128 bits an id prints. Each item whose product has no templates
is reported by exactly one warning, in the order of the items.
-/

namespace Storefront

/-! ## Values of a declared type -/

/-- A value of a hint's type: a value of a plain class is of that class, a record holds its
class's fields in declaration order, each of its own hint, a list holds items of its item
hint, a union admits what one of its members admits, and notes change nothing. -/
inductive Typed : Hint → Value → Prop
  | plain {v : Value} : (∀ c fs, v ≠ .record c fs) → Typed (.cls v.kind) v
  | record {c : RecordClass} {fs : List (String × Value)} :
      fs.map Prod.fst = c.fieldNames →
      (∀ f ∈ c.fields, ∀ x, Value.lookup fs f.name = some x → Typed f.hint x) →
      Typed (.cls (.record c)) (.record c fs)
  | noneLit : Typed .noneLit .none
  | list {h : Hint} {xs : List Value} : (∀ x ∈ xs, Typed h x) → Typed (.listOf h) (.list xs)
  | member {hs : List Hint} {h : Hint} {v : Value} : h ∈ hs → Typed h v → Typed (.union hs) v
  | annotated {h : Hint} {n : Nat} {v : Value} : Typed h v → Typed (.annotated h n) v

namespace Typed

variable {v : Value}

theorem kind_eq {k : Kind} (typed : Typed (.cls k) v) : v.kind = k := by
  generalize hint : Hint.cls k = h at typed
  cases typed with
  | plain _ => cases hint; rfl
  | record _ _ => cases hint; rfl
  | noneLit => cases hint
  | list _ => cases hint
  | member _ _ => cases hint
  | annotated _ => cases hint

theorem record_inv {c : RecordClass} (typed : Typed (.cls (.record c)) v) :
    ∃ fs, v = .record c fs ∧ fs.map Prod.fst = c.fieldNames ∧
      ∀ f ∈ c.fields, ∀ x, Value.lookup fs f.name = some x → Typed f.hint x := by
  generalize hint : Hint.cls (.record c) = h at typed
  cases typed with
  | plain notRecord =>
    -- only a record is of a record class
    cases v <;> simp only [Value.kind, Hint.cls.injEq, reduceCtorEq] at hint
    cases hint
    exact absurd rfl (notRecord _ _)
  | record names fields => cases hint; exact ⟨_, rfl, names, fields⟩
  | noneLit => cases hint
  | list _ => cases hint
  | member _ _ => cases hint
  | annotated _ => cases hint

theorem list_inv {h : Hint} (typed : Typed (.listOf h) v) :
    ∃ xs, v = .list xs ∧ ∀ x ∈ xs, Typed h x := by
  generalize hint : Hint.listOf h = h' at typed
  cases typed with
  | list items => cases hint; exact ⟨_, rfl, items⟩
  | plain _ => cases hint
  | record _ _ => cases hint
  | noneLit => cases hint
  | member _ _ => cases hint
  | annotated _ => cases hint

theorem union_inv {hs : List Hint} (typed : Typed (.union hs) v) : ∃ h ∈ hs, Typed h v := by
  generalize hint : Hint.union hs = h' at typed
  cases typed with
  | member listed typed => cases hint; exact ⟨_, listed, typed⟩
  | plain _ => cases hint
  | record _ _ => cases hint
  | noneLit => cases hint
  | list _ => cases hint
  | annotated _ => cases hint

theorem of_kind {k : Kind} (kind : v.kind = k) (notRecord : ∀ c fs, v ≠ .record c fs) :
    Typed (.cls k) v :=
  kind ▸ .plain notRecord

theorem none_member {hs : List Hint} (listed : .cls .noneType ∈ hs) : Typed (.union hs) .none :=
  .member listed (.of_kind rfl (by simp))

theorem str_inv (typed : Typed (.cls .str) v) : ∃ s, v = .str s := by
  have kind := typed.kind_eq
  cases v <;> simp only [Value.kind, reduceCtorEq] at kind
  exact ⟨_, rfl⟩

/-- A value that may be none or a list: none, or a list of items of the item hint. -/
theorem optional_list_inv {h : Hint} (typed : Typed (.union [.listOf h, .cls .noneType]) v) :
    v = .none ∨ ∃ xs, v = .list xs ∧ ∀ x ∈ xs, Typed h x := by
  obtain ⟨h', listed, typed⟩ := typed.union_inv
  simp only [List.mem_cons, List.not_mem_nil, or_false] at listed
  rcases listed with rfl | rfl
  · exact .inr typed.list_inv
  · have kind := typed.kind_eq
    cases v <;> simp only [Value.kind, reduceCtorEq] at kind
    exact .inl rfl

end Typed

/-! ## Reading the fields of a record -/

theorem lookup_some_of_mem {fs : List (String × Value)} {n : String} (named : n ∈ fs.map Prod.fst) :
    ∃ x, Value.lookup fs n = some x := by
  obtain ⟨a, member, rfl⟩ := List.mem_map.mp named
  obtain ⟨b, found⟩ := Option.isSome_iff_exists.mp
    (List.find?_isSome.mpr ⟨a, member, by simp⟩ : (fs.find? (·.1 == a.1)).isSome)
  exact ⟨b.2, by simp [Value.lookup, found]⟩

theorem atPath_record {c : RecordClass} {fs : List (String × Value)} {n : String} {x : Value}
    (found : Value.lookup fs n = some x) (plain : (n.toList.splitOn '.').map String.ofList = [n]) :
    (Value.record c fs).atPath n = x := by
  rw [Value.atPath, plain]
  simp [Value.atPath.step, found]

/-- The attributes of a value read by name. -/
def Readable (v : Value) (names : List String) : Prop := ∀ n ∈ names, v.attr n = .ok (v.atPath n)

/-- A declared field of a record of its class is read as its value. -/
theorem Typed.attr_declared {c : RecordClass} {v : Value} (typed : Typed (.cls (.record c)) v)
    {f : Field} (declared : f ∈ c.fields)
    (plain : (f.name.toList.splitOn '.').map String.ofList = [f.name]) :
    v.attr f.name = .ok (v.atPath f.name) ∧ Typed f.hint (v.atPath f.name) := by
  obtain ⟨fs, rfl, names, fields⟩ := typed.record_inv
  have named : f.name ∈ fs.map Prod.fst := by
    rw [names, RecordClass.fieldNames]
    exact List.mem_map.mpr ⟨f, declared, rfl⟩
  obtain ⟨x, found⟩ := lookup_some_of_mem named
  rw [atPath_record found plain]
  exact ⟨by simp [Value.attr, found], fields f declared x found⟩

theorem Typed.readable {c : RecordClass} {v : Value} (typed : Typed (.cls (.record c)) v)
    {names : List String} (declared : ∀ n ∈ names, n ∈ c.fieldNames)
    (plain : ∀ n ∈ names, (n.toList.splitOn '.').map String.ofList = [n]) : Readable v names := by
  intro n listed
  obtain ⟨f, member, rfl⟩ := List.mem_map.mp (declared n listed)
  exact (typed.attr_declared member (plain f.name listed)).1

/-- The items of an order; none stands for no items. -/
def orderItems (order : Value) : List Value :=
  match order.atPath "order_items" with
  | .list xs => xs
  | _ => []

/-! ## Ids -/

namespace Catalog

open Cursor

theorem hexValue_zeros (k : Nat) (ds : List Nat) : hexValue (List.replicate k 0 ++ ds) = hexValue ds := by
  induction k with
  | zero => rfl
  | succ k ih => rw [List.replicate_succ, List.cons_append, hexValue_cons, ih, zero_mul, zero_add]

theorem forall₂_digitChar {es : List Nat} (small : ∀ d ∈ es, d < 16) :
    List.Forall₂ HexDigit (es.map Nat.digitChar) es := by
  induction es with
  | nil => exact .nil
  | cons d es ih =>
    exact .cons ⟨small d (by simp), .inl rfl⟩ (ih fun e member => small e (by simp [member]))

/-- A padded hexadecimal numeral is read back as its number. -/
theorem hex_digits (w n : Nat) :
    ∃ es, (Value.hex w n).toList = es.map Nat.digitChar ∧ (∀ d ∈ es, d < 16) ∧ hexValue es = n := by
  obtain ⟨ds, digits, small, -, -, value⟩ := toDigits_hex n
  refine ⟨List.replicate (w - (Nat.toDigits 16 n).length) 0 ++ ds, ?_, ?_, ?_⟩
  · simp [Value.hex, digits, List.map_replicate, Nat.digitChar]
  · intro d member
    rcases List.mem_append.mp member with zero | digit
    · rw [List.eq_of_mem_replicate zero]
      omega
    · exact small d digit
  · rw [hexValue_zeros, value]

theorem hex_injective {w n m : Nat} (same : (Value.hex w n).toList = (Value.hex w m).toList) :
    n = m := by
  obtain ⟨es, chars, small, value⟩ := hex_digits w n
  obtain ⟨es', chars', small', value'⟩ := hex_digits w m
  have read : hexDigitsValue? (Value.hex w n).toList = some n :=
    hexDigitsValue?_eq_some_iff.2 ⟨es, chars ▸ forall₂_digitChar small, value.symm⟩
  have read' : hexDigitsValue? (Value.hex w n).toList = some m := by
    rw [same]
    exact hexDigitsValue?_eq_some_iff.2 ⟨es', chars' ▸ forall₂_digitChar small', value'.symm⟩
  rw [read] at read'
  exact Option.some.inj read'

theorem dash_not_mem_hex (w n : Nat) : '-' ∉ (Value.hex w n).toList := by
  obtain ⟨es, chars, small, -⟩ := hex_digits w n
  rw [chars]
  intro member
  obtain ⟨d, listed, dash⟩ := List.mem_map.mp member
  exact (HexDigit.ne ⟨small d listed, .inl rfl⟩).2.1 dash

theorem hex_length {n : Nat} (bounded : n < 2 ^ 128) : (Value.hex 32 n).toList.length = 32 := by
  have digits : (Nat.toDigits 16 n).length ≤ 32 :=
    Nat.toDigits_length 16 n 32 (by norm_num) (by norm_num at bounded ⊢; omega)
  simp only [Value.hex, String.toList_ofList, List.length_append, List.length_replicate]
  omega

theorem take_drop_append {α : Type} (l : List α) (i a b : Nat) :
    (l.drop i).take a ++ (l.drop (i + a)).take b = (l.drop i).take (a + b) := by
  rw [List.take_add, List.drop_drop]

/-- Without its dashes, an id is the first 32 digits of its numeral. -/
theorem uuidText_dashless (n : Nat) :
    (uuidText n).toList.filter (· != '-') = (Value.hex 32 n).toList.take 32 := by
  have kept : ∀ i k, (((Value.hex 32 n).toList.drop i).take k).filter (· != '-') =
      ((Value.hex 32 n).toList.drop i).take k := fun i k => by
    rw [List.filter_eq_self]
    intro c member
    have : c ≠ '-' := fun dash =>
      dash_not_mem_hex 32 n (List.mem_of_mem_drop (List.mem_of_mem_take (dash ▸ member)))
    simpa using this
  have dashGone : ("-".toList).filter (· != '-') = [] := by decide
  -- the five groups put back together are the first 32 digits
  have whole := take_drop_append (Value.hex 32 n).toList
  have last : ((Value.hex 32 n).toList.drop 16).take 4 ++ ((Value.hex 32 n).toList.drop 20).take 12 =
      ((Value.hex 32 n).toList.drop 16).take 16 := whole 16 4 12
  have fourth : ((Value.hex 32 n).toList.drop 12).take 4 ++ ((Value.hex 32 n).toList.drop 16).take 16 =
      ((Value.hex 32 n).toList.drop 12).take 20 := whole 12 4 16
  have third : ((Value.hex 32 n).toList.drop 8).take 4 ++ ((Value.hex 32 n).toList.drop 12).take 20 =
      ((Value.hex 32 n).toList.drop 8).take 24 := whole 8 4 20
  have first : ((Value.hex 32 n).toList.drop 0).take 8 ++ ((Value.hex 32 n).toList.drop 8).take 24 =
      ((Value.hex 32 n).toList.drop 0).take 32 := whole 0 8 24
  simp only [uuidText, String.toList_append, String.toList_ofList, List.filter_append, kept,
    dashGone, List.nil_append, List.append_assoc, Nat.reduceSub]
  rw [last, fourth, third, first, List.drop_zero]

/-- Ids of numbers below 2^128 are distinct. -/
theorem uuidText_injective {n m : Nat} (small : n < 2 ^ 128) (small' : m < 2 ^ 128)
    (same : uuidText n = uuidText m) : n = m := by
  have dashless := uuidText_dashless n
  rw [same, uuidText_dashless m, List.take_of_length_le (hex_length small').le,
    List.take_of_length_le (hex_length small).le] at dashless
  exact hex_injective dashless.symm

/-! ## The expansion of an order -/

/-- Every template a catalog lists is a task template. -/
def WellTyped (c : Catalog) : Prop :=
  ∀ e ∈ c.entries, ∀ t ∈ e.2, Typed (.cls (.record .taskTemplate)) t

/-- The templates a catalog lists for an item's product code; a code it does not list has
none. -/
def templatesOfItem (c : Catalog) (item : Value) : List Value :=
  match item.atPath "product_code" with
  | .str code => ((c.entries.find? (·.1 == code)).map (·.2)).getD []
  | _ => []

/-- Each item with each template of its product: items in order, and for each its templates
in order. -/
def expand (c : Catalog) (items : List Value) : List (Value × Value) :=
  items.flatMap fun item => (c.templatesOfItem item).map (item, ·)

/-- The task of a template for an item of an order, with the id of number `n` and the clock
reading `now`. -/
def madeTask (order : Value) (now : DateTime) : (Value × Value) × Nat → Value
  | ((item, tmpl), n) => .record .task [("id", .str (uuidText n)), ("submission_time", .time now),
      ("completion_time", .none), ("order_id", order.atPath "id"), ("order_item_id", item.atPath "id"),
      ("product_code", item.atPath "product_code"), ("task_code", tmpl.atPath "task_code"),
      ("status", tmpl.atPath "status"), ("reason_code", tmpl.atPath "reason_code"),
      ("parameters", .none)]

/-- The warning for an item of an order whose product has no templates. -/
def noTasksWarning (order item : Value) : Note :=
  Note.warn ("no fulfillment tasks for product " ++ (item.atPath "product_code").plain ++
    " (order=" ++ (order.atPath "id").plain ++ ")")

/-- One warning for each item whose product has no templates, in the order of the items. -/
def warnings (c : Catalog) (order : Value) (items : List Value) : List Note :=
  items.filterMap fun item =>
    if c.templatesOfItem item = [] then some (noTasksWarning order item) else none

variable {c : Catalog} {order item : Value} {now : DateTime}

theorem task_eq {tmpl : Value} (n : Nat) (orderRead : Readable order ["id"])
    (itemRead : Readable item ["id", "product_code"])
    (tmplRead : Readable tmpl ["task_code", "status", "reason_code"]) :
    task order item tmpl (uuidText n) now = .ok (madeTask order now ((item, tmpl), n)) := by
  have args : task order item tmpl (uuidText n) now = RecordClass.task.make
      [("id", .str (uuidText n)), ("submission_time", .time now), ("order_id", order.atPath "id"),
       ("order_item_id", item.atPath "id"), ("product_code", item.atPath "product_code"),
       ("task_code", tmpl.atPath "task_code"), ("status", tmpl.atPath "status"),
       ("reason_code", tmpl.atPath "reason_code")] := by
    rw [task, orderRead "id" (by simp), itemRead "id" (by simp), itemRead "product_code" (by simp),
      tmplRead "task_code" (by simp), tmplRead "status" (by simp), tmplRead "reason_code" (by simp)]
    rfl
  rw [args, RecordClass.make_keywordOnly rfl, keywordInit_given (by simp)
    (by simp [RecordClass.fields, RecordClass.req, RecordClass.optStr])
    (by simp [RecordClass.fields, RecordClass.req, RecordClass.optStr, Field.required,
      Hint.optional, Hint.optionalBase, Hint.optionalOf, Hint.unionOf, Hint.dedup, Hint.members,
      Hint.asMember, Hint.key, Hint.anyOptional, Kind.name, RecordClass.name])]
  rfl

theorem itemTasks_eq (orderRead : Readable order ["id"])
    (itemRead : Readable item ["id", "product_code"]) :
    ∀ (ts : List Value) (next : Nat), (∀ t ∈ ts, Readable t ["task_code", "status", "reason_code"]) →
      itemTasks order item now ts next =
        .ok (((ts.map (item, ·)).zipIdx next).map (madeTask order now), next + ts.length)
  | [], next, _ => rfl
  | t :: ts, next, read => by
    rw [itemTasks, task_eq next orderRead itemRead (read t (by simp)),
      itemTasks_eq orderRead itemRead ts (next + 1) fun t' member => read t' (by simp [member])]
    simp only [bind, Except.bind, pure, Except.pure, List.map_cons, List.zipIdx_cons,
      List.length_cons]
    rw [Nat.add_comm ts.length 1, Nat.add_assoc]

theorem mem_templatesOfItem {t : Value} (listed : t ∈ c.templatesOfItem item) :
    ∃ e ∈ c.entries, t ∈ e.2 := by
  unfold templatesOfItem at listed
  split at listed
  · rename_i code _
    cases found : c.entries.find? (·.1 == code) with
    | none =>
      rw [found] at listed
      simp at listed
    | some e =>
      rw [found] at listed
      exact ⟨e, List.mem_of_find?_eq_some found, listed⟩
  · simp at listed

/-- The templates of a well-typed catalog are task templates, whose fields can be read. -/
theorem WellTyped.readable (typed : c.WellTyped) {t : Value} (listed : t ∈ c.templatesOfItem item) :
    Readable t ["task_code", "status", "reason_code"] := by
  obtain ⟨e, entry, member⟩ := mem_templatesOfItem listed
  refine (typed e entry t member).readable
    (by simp [RecordClass.fieldNames, RecordClass.fields, RecordClass.req]) ?_
  simp only [List.mem_cons, List.not_mem_nil, or_false]
  rintro n (rfl | rfl | rfl) <;> rfl

/-- One item: its tasks, numbered from `next`, and the warning when its product has no
templates. -/
theorem itemStep_eq (catalogTyped : c.WellTyped) (orderRead : Readable order ["id"])
    (itemTyped : Typed (.cls (.record .orderItem)) item) (next : Nat) :
    c.itemStep order item now next =
      ((if c.templatesOfItem item = [] then [noTasksWarning order item] else []),
        .ok ((((c.templatesOfItem item).map (item, ·)).zipIdx next).map (madeTask order now),
          next + (c.templatesOfItem item).length)) := by
  obtain ⟨productRead, productTyped⟩ := itemTyped.attr_declared (f := RecordClass.req "product_code" .str)
    (by simp [RecordClass.fields]) rfl
  obtain ⟨code, isCode⟩ := productTyped.str_inv
  simp only [RecordClass.req] at productRead isCode
  have itemRead : Readable item ["id", "product_code"] :=
    itemTyped.readable (by simp [RecordClass.fieldNames, RecordClass.fields, RecordClass.req]) (by
      simp only [List.mem_cons, List.not_mem_nil, or_false]
      rintro n (rfl | rfl) <;> rfl)
  have listed : c.templatesOf (item.atPath "product_code") = .ok (c.templatesOfItem item) := by
    rw [templatesOfItem, isCode]
    rfl
  have made : itemTasks order item now (c.templatesOfItem item) next = _ :=
    itemTasks_eq orderRead itemRead (c.templatesOfItem item) next
      fun t member => catalogTyped.readable member
  unfold itemStep
  simp only [productRead, bind, Except.bind, listed]
  by_cases empty : c.templatesOfItem item = []
  · simp only [empty, List.isEmpty_nil, if_true, orderRead "id" (by simp)]
    rw [empty] at made
    simp only [noTasksWarning, List.map_nil]
    rfl
  · have filled : (c.templatesOfItem item).isEmpty = false := List.isEmpty_eq_false_iff.mpr empty
    simp only [filled, Bool.false_eq_true, if_false, pure, Except.pure, made, empty]

/-- The items of an order in turn: the tasks of each, numbered on from the last, and the
warnings of all. -/
theorem itemsSteps_eq (catalogTyped : c.WellTyped) (orderRead : Readable order ["id"]) :
    ∀ (items : List Value) (next : Nat), (∀ item ∈ items, Typed (.cls (.record .orderItem)) item) →
      c.itemsSteps order now items next =
        (c.warnings order items,
          .ok (((c.expand items).zipIdx next).map (madeTask order now), next + (c.expand items).length))
  | [], next, _ => rfl
  | item :: rest, next, typed => by
    rw [itemsSteps, itemStep_eq catalogTyped orderRead (typed item (by simp)) next]
    simp only []
    rw [itemsSteps_eq catalogTyped orderRead rest _ fun i member => typed i (by simp [member])]
    by_cases empty : c.templatesOfItem item = []
    · simp [warnings, expand, empty, Except.map]
    · simp [warnings, expand, empty, Except.map, List.zipIdx_append, Nat.add_assoc]

theorem tasksFor_eq (catalogTyped : c.WellTyped) (orderTyped : Typed (.cls (.record .order)) order)
    (next : Nat) :
    c.tasksFor order now next =
      (c.warnings order (orderItems order),
        .ok (((c.expand (orderItems order)).zipIdx next).map (madeTask order now),
          next + (c.expand (orderItems order)).length)) := by
  have orderRead : Readable order ["id"] :=
    orderTyped.readable (by simp [RecordClass.fieldNames, RecordClass.fields, RecordClass.req]) (by
      simp only [List.mem_cons, List.not_mem_nil, or_false]
      rintro n rfl
      rfl)
  obtain ⟨itemsRead, itemsTyped⟩ := orderTyped.attr_declared
    (f := ⟨"order_items", Hint.optionalOf (.listOf (.cls (.record .orderItem))), none⟩)
    (by simp [RecordClass.fields]) rfl
  have optional : Hint.optionalOf (.listOf (.cls (.record .orderItem))) =
      .union [.listOf (.cls (.record .orderItem)), .cls .noneType] := rfl
  rw [optional] at itemsTyped
  unfold tasksFor
  simp only at itemsRead
  rw [itemsRead]
  rcases itemsTyped.optional_list_inv with absent | ⟨xs, listed, typed⟩
  · rw [absent]
    have none : orderItems order = [] := by rw [orderItems, absent]
    rw [none]
    rfl
  · rw [listed]
    have items : orderItems order = xs := by rw [orderItems, listed]
    have iterated : (Value.list xs).items = .ok xs := by cases xs <;> rfl
    simp only [bind, Except.bind, iterated]
    rw [items, itemsSteps_eq catalogTyped orderRead xs next typed]

theorem madeTask_id (p : (Value × Value) × Nat) :
    (madeTask order now p).atPath "id" = .str (uuidText p.2) := by
  obtain ⟨⟨item, tmpl⟩, n⟩ := p
  rfl

/-- The ids of tasks numbered in turn from `next` are distinct while the numbers stay below
2^128. -/
theorem ids_nodup (pairs : List (Value × Value)) (next : Nat) (bounded : next + pairs.length ≤ 2 ^ 128) :
    (((pairs.zipIdx next).map (madeTask order now)).map (·.atPath "id")).Nodup := by
  have numbers : (pairs.zipIdx next).map Prod.snd = List.range' next pairs.length := by
    rw [List.zipIdx_eq_zip_range', List.map_snd_zip (by simp)]
  have ids : ((pairs.zipIdx next).map (madeTask order now)).map (·.atPath "id") =
      (List.range' next pairs.length).map fun n => Value.str (uuidText n) := by
    rw [← numbers, List.map_map, List.map_map]
    exact List.map_congr_left fun p _ => madeTask_id p
  rw [ids]
  refine List.Nodup.map_on ?_ List.nodup_range'
  intro n member m member' same
  rw [List.mem_range'_1] at member member'
  exact uuidText_injective (by omega) (by omega) (Value.str.inj same)

theorem optionalOf_str : Hint.optionalOf (.cls .str) = .union [.cls .str, .cls .noneType] := rfl

theorem template_typed (code : String) (status : TaskStatus) (reason : Option String) :
    Typed (.cls (.record .taskTemplate)) (template code status reason) := by
  refine .record rfl ?_
  intro f member x found
  simp only [RecordClass.fields, RecordClass.req, List.mem_cons, List.not_mem_nil, or_false] at member
  rcases member with rfl | rfl | rfl
  · obtain rfl := Option.some.inj found
    exact .of_kind rfl (by simp)
  · obtain rfl := Option.some.inj found
    exact .of_kind rfl (by simp)
  · obtain rfl := Option.some.inj found
    rw [optionalOf_str]
    cases reason with
    | some r => exact .member (h := .cls .str) (by simp) (.of_kind rfl (by simp))
    | none => exact .none_member (by simp)

/-- The service's catalog lists task templates only. -/
theorem standard_wellTyped : standard.WellTyped := by
  intro e entry t member
  simp only [standard, List.mem_cons, List.not_mem_nil, or_false] at entry
  rcases entry with rfl | rfl <;> simp only [List.mem_cons, List.not_mem_nil, or_false] at member
  · rcases member with rfl | rfl <;> exact template_typed _ _ _
  · rw [member]
    exact template_typed _ _ _

end Catalog

/-- The tasks made for an order whose fields have their declared types, from a catalog whose
templates are task templates, with the clock reading `now` and ids drawn from `next` on: for
each item in order and each template of its product in order, one task of the order, the item,
its product and the template, with the clock reading, no completion time and no parameters;
as many as the items' templates together; with distinct ids while the numbers drawn stay
within 128 bits; and one warning for each item whose product has no templates. -/
theorem tasks_for_order_expands_catalog (c : Catalog) (order : Value) (now : DateTime) (next : Nat)
    (orderTyped : Typed (.cls (.record .order)) order) (catalogTyped : c.WellTyped) :
    let tasks := ((c.expand (orderItems order)).zipIdx next).map (Catalog.madeTask order now)
    c.tasksFor order now next =
        (c.warnings order (orderItems order), .ok (tasks, next + tasks.length)) ∧
      tasks.length = ((orderItems order).map fun item => (c.templatesOfItem item).length).sum ∧
      (next + tasks.length ≤ 2 ^ 128 → (tasks.map (·.atPath "id")).Nodup) := by
  intro tasks
  have counted : tasks.length = (c.expand (orderItems order)).length := by
    simp [tasks]
  refine ⟨?_, ?_, fun bounded => Catalog.ids_nodup _ next (counted ▸ bounded)⟩
  · rw [Catalog.tasksFor_eq catalogTyped orderTyped next, counted]
  · rw [counted, Catalog.expand, List.length_flatMap]
    simp


/-- An order of a gold yoyo and of a product the service's catalog does not list: the yoyo's
two tasks, numbered 0 and 1, and one warning for the other item. -/
theorem gold_yoyo_and_unlisted_product :
    let gold := Value.record .orderItem [("id", .str "i1"), ("product_code", .str "gold_yoyo"),
      ("quantity", .int 1), ("unit_price", .none)]
    let kite := Value.record .orderItem [("id", .str "i2"), ("product_code", .str "kite"),
      ("quantity", .int 1), ("unit_price", .none)]
    let order := Value.record .order [("id", .str "o"), ("submission_time", .time ⟨0, some 0⟩),
      ("ordered_by", .none), ("delivery_address", .none), ("order_items", .list [gold, kite])]
    Typed (.cls (.record .order)) order ∧ Catalog.standard.WellTyped ∧
      Catalog.standard.tasksFor order ⟨0, some 0⟩ 0 =
        ([Catalog.noTasksWarning order kite],
          .ok ([Catalog.madeTask order ⟨0, some 0⟩
                ((gold, Catalog.template "manufacture" .waitingService none), 0),
              Catalog.madeTask order ⟨0, some 0⟩
                ((gold, Catalog.template "ship" .waitingTask (some "wait_for_manufacture")), 1)], 2)) := by
  intro gold kite order
  have item_typed : ∀ i p, Typed (.cls (.record .orderItem)) (Value.record .orderItem
      [("id", .str i), ("product_code", .str p), ("quantity", .int 1), ("unit_price", .none)]) := by
    intro i p
    refine .record rfl ?_
    intro f member x found
    simp only [RecordClass.fields, RecordClass.req, List.mem_cons, List.not_mem_nil,
      or_false] at member
    rcases member with rfl | rfl | rfl | rfl <;> obtain rfl := Option.some.inj found
    · exact .of_kind rfl (by simp)
    · exact .of_kind rfl (by simp)
    · exact .of_kind rfl (by simp)
    · show Typed (.union [.cls (.record .money), .cls .noneType]) _
      exact .none_member (by simp)
  have order_typed : Typed (.cls (.record .order)) order := by
    refine .record rfl ?_
    intro f member x found
    simp only [RecordClass.fields, RecordClass.req, List.mem_cons, List.not_mem_nil,
      or_false] at member
    rcases member with rfl | rfl | rfl | rfl | rfl <;> obtain rfl := Option.some.inj found
    · exact .of_kind rfl (by simp)
    · exact .of_kind rfl (by simp)
    · show Typed (.union [.cls (.record .person), .cls .noneType]) _
      exact .none_member (by simp)
    · show Typed (.union [.cls (.record .postalAddress), .cls .noneType]) _
      exact .none_member (by simp)
    · show Typed (.union [.listOf (.cls (.record .orderItem)), .cls .noneType]) _
      refine .member (h := .listOf (.cls (.record .orderItem))) (by simp) (.list ?_)
      intro x listed
      simp only [List.mem_cons, List.not_mem_nil, or_false] at listed
      rcases listed with rfl | rfl
      · exact item_typed "i1" "gold_yoyo"
      · exact item_typed "i2" "kite"
  refine ⟨order_typed, Catalog.standard_wellTyped, ?_⟩
  rw [(tasks_for_order_expands_catalog Catalog.standard order ⟨0, some 0⟩ 0 order_typed
    Catalog.standard_wellTyped).1]
  rfl

end Storefront
