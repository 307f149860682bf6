import Storefront.Proofs.Page.Interleave
import Storefront.Service.Resources
import Mathlib

/-!
# What the resources write

Posting an order or saving a task checks its argument and then creates one record in the store;
patching a task works out its changes at the clock's reading and then updates one record. On a
world over the memory store each of them makes exactly one write: it succeeds with the store
holding what the write gives, or it fails and leaves the store as it was.

Below are the facts this rests on: what a record reads after a field is set or after it is
rebuilt with changes, when the memory store takes an id, how the service's wrappers run, and
what each operation checks before it writes.
-/

namespace Storefront

/-! ## Fields of records -/

namespace Value

@[simp] theorem lookup_nil (k : String) : lookup [] k = Option.none := rfl

@[simp] theorem lookup_cons (f : String × Value) (fs : List (String × Value)) (k : String) :
    lookup (f :: fs) k = if f.1 = k then some f.2 else lookup fs k := by
  by_cases named : f.1 = k <;> simp [lookup, named]

theorem lookup_setField (fs : List (String × Value)) (name k : String) (x : Value) :
    lookup (fs.map fun f => if f.1 == name then (name, x) else f) k =
      if k = name then (lookup fs k).map fun _ => x else lookup fs k := by
  induction fs with
  | nil => simp
  | cons f fs ih =>
    simp only [beq_iff_eq] at ih ⊢
    by_cases set : f.1 = name <;> by_cases named : k = name
    · simp [set, named]
    · simp [set, Ne.symm named, ih, named]
    · subst named
      simp [set, ih]
    · simp [set, named, ih]

theorem lookup_append (l₁ l₂ : List (String × Value)) (k : String) :
    lookup (l₁ ++ l₂) k = (lookup l₁ k).or (lookup l₂ k) := by
  induction l₁ with
  | nil => rfl
  | cons f l₁ ih => by_cases named : f.1 = k <;> simp [named, ih]

theorem lookup_filter {p : String × Value → Bool} (fs : List (String × Value)) {k : String}
    (keeps : ∀ f : String × Value, f.1 = k → p f = true) :
    lookup (fs.filter p) k = lookup fs k := by
  induction fs with
  | nil => rfl
  | cons f fs ih =>
    by_cases named : f.1 = k
    · simp [keeps f named, named]
    · by_cases kept : p f <;> simp [kept, named, ih]

theorem lookup_eq_none_iff {fs : List (String × Value)} {k : String} :
    lookup fs k = Option.none ↔ ∀ f ∈ fs, f.1 ≠ k := by
  simp [lookup, List.find?_eq_none]

end Value

namespace Service

theorem attr_setField (v : Value) (name k : String) (x : Value) :
    (Value.setField v name x).attr k =
      if k = name then (v.attr k).map fun _ => x else v.attr k := by
  cases v with
  | record c fs =>
    simp only [Value.setField, Value.attr, Value.lookup_setField]
    by_cases named : k = name <;> cases Value.lookup fs k <;> simp [named] <;> rfl
  | _ => split <;> rfl

end Service

namespace RecordClass

/-- The fields of a record built field by field, read by a declared name. -/
theorem lookup_built {fs : List Field} {g : Field → Value} {k : String} {x : Value}
    (declared : ∃ f ∈ fs, f.name = k) (given : ∀ f ∈ fs, f.name = k → g f = x) :
    Value.lookup (fs.map fun f => (f.name, g f)) k = some x := by
  induction fs with
  | nil => simp at declared
  | cons f fs ih =>
    by_cases named : f.name = k
    · simp [named, given f (by simp) named]
    · obtain ⟨f', mem, named'⟩ := declared
      have later : f' ∈ fs := by
        rcases List.mem_cons.mp mem with rfl | later
        · exact absurd named' named
        · exact later
      simp only [List.map_cons, Value.lookup_cons, named, if_false]
      exact ih ⟨f', later, named'⟩ fun f'' mem'' => given f'' (List.mem_cons_of_mem f mem'')

/-- A class's hook hands back the fields it was given when it returns: Money only checks them. -/
theorem postInit_eq_ok {c : RecordClass} {vs vs' : List (String × Value)}
    (ran : c.postInit vs = .ok vs') : vs' = vs := by
  unfold postInit at ran
  split at ran
  · cases checked : checkMoney vs with
    | error e => simp [checked, bind, Except.bind] at ran
    | ok u =>
      simp only [checked, bind, Except.bind, pure, Except.pure, Except.ok.injEq] at ran
      exact ran.symm
  · cases ran
    rfl

/-- A record built by a keyword constructor had only declared names among its arguments, and
its hook returned on the fields they give. -/
theorem keywordInit_eq_ok {fs : List Field}
    {post : List (String × Value) → Except Failure (List (String × Value))}
    {args vs : List (String × Value)} (made : keywordInit fs post args = .ok vs) :
    args.find? (fun a => !(fs.any (·.name == a.1))) = none ∧ post (fieldValues fs args) = .ok vs := by
  unfold keywordInit at made
  split_ifs at made with clash
  · simp [throw, throwThe, MonadExceptOf.throw, bind, Except.bind] at made
  cases unknown : args.find? (fun a => !(fs.any (·.name == a.1))) with
  | some a => simp [unknown] at made
  | none =>
    simp only [unknown] at made
    split_ifs at made
    · simp [bind, Except.bind, throw, throwThe, MonadExceptOf.throw] at made
    · exact ⟨rfl, made⟩

/-- A record that a constructor built had only declared names among its arguments, and holds
each declared field's argument, default or none. -/
theorem make_eq_ok {c : RecordClass} {args : List (String × Value)} {r : Value}
    (made : c.make args = .ok r) :
    args.find? (fun a => !(c.fields.any (·.name == a.1))) = none ∧
      r = .record c (fieldValues c.fields args) := by
  unfold make at made
  split_ifs at made
  · cases built : keywordInit c.fields c.postInit args with
    | error e => simp [built, bind, Except.bind] at made
    | ok vs =>
      simp only [built, bind, Except.bind, pure, Except.pure, Except.ok.injEq] at made
      obtain ⟨known, ran⟩ := keywordInit_eq_ok built
      exact ⟨known, by rw [← made, postInit_eq_ok ran]⟩
  · cases unknown : args.find? (fun a => !(c.fields.any (·.name == a.1))) with
    | some a => simp [unknown, bind, Except.bind, throw, throwThe, MonadExceptOf.throw] at made
    | none =>
      simp only [unknown] at made
      split_ifs at made
      · simp [bind, Except.bind, throw, throwThe, MonadExceptOf.throw] at made
      · simp only [bind, Except.bind, pure, Except.pure, Except.ok.injEq] at made
        exact ⟨rfl, made.symm⟩

theorem attr_make {c : RecordClass} {args : List (String × Value)} {r : Value}
    (made : c.make args = .ok r) {k : String} {x : Value} (given : Value.lookup args k = some x) :
    r.attr k = .ok x := by
  obtain ⟨known, built⟩ := make_eq_ok made
  have declared : ∃ f ∈ c.fields, f.name = k := by
    obtain ⟨a, found⟩ := Option.map_eq_some_iff.mp given
    have named : a.1 = k := by simpa using List.find?_some found.1
    have listed := List.find?_eq_none.mp known a (List.mem_of_find?_eq_some found.1)
    simp only [Bool.not_eq_eq_eq_not, Bool.not_true, List.any_eq_false, beq_iff_eq] at listed
    simpa [named] using listed
  subst built
  simp only [Value.attr, fieldValues]
  rw [lookup_built declared fun f _ named => by
    show (Value.lookup args f.name).getD _ = x
    rw [named, given]
    rfl]
  rfl

end RecordClass

/-- A record rebuilt with changes reads each changed field as changed, and every other field
as before. -/
theorem Value.attr_replaceFields {v v' : Value} {changes : List (String × Value)}
    (rebuilt : v.replaceFields changes = .ok v') {k : String} {x : Value}
    (given : Value.lookup changes k = some x ∨
      (Value.lookup changes k = Option.none ∧ v.attr k = .ok x)) :
    v'.attr k = .ok x := by
  cases v with
  | record c fs =>
    apply RecordClass.attr_make rebuilt
    rw [Value.lookup_append]
    rcases given with changed | ⟨unchanged, kept⟩
    · simp [changed]
    · have others : ∀ f : String × Value, f.1 = k → (!changes.any (·.1 == f.1)) = true := by
        intro f named
        simpa [named] using Value.lookup_eq_none_iff.1 unchanged
      rw [unchanged, Value.lookup_filter fs others]
      simp only [Value.attr] at kept
      split at kept
      · next found => simpa [found] using kept
      · cases kept
  | _ => cases rebuilt

theorem Value.alike_str_iff {k : Value} {s : String} :
    Value.alike k (.str s) = true ↔ k = .str s := by
  cases k <;> simp [Value.alike, Value.bothNaN, Value.same, Value.num?]

/-- A key the memory store takes in a collection holding some records: it can key a map and
is equal to none of their keys. -/
def MemoryStore.NewKey (rs : List (Value × Value)) (id : Value) : Prop :=
  id.unhashablePart = none ∧ ∀ e ∈ rs, Value.alike e.1 id = false

theorem MemoryStore.create_eq_ok_iff {m m' : MemoryStore} {coll : String} {id record : Value} :
    m.create coll id record = .ok m' ↔
      NewKey (m.records coll) id ∧
        m' = m.withRecords coll (m.records coll ++ [(id, record)]) := by
  unfold create find?
  cases hashable : id.unhashablePart with
  | some c => simp [NewKey, hashable]
  | none =>
    cases found : (m.records coll).find? (fun r => Value.alike r.1 id) with
    | some e =>
      have equal : Value.alike e.1 id = true := by
        simpa using List.find?_some found
      simp only [found, bind, Except.bind, pure, Except.pure, Option.map_some,
        Option.isSome_some, if_true, throw, throwThe, MonadExceptOf.throw, reduceCtorEq, false_iff,
        not_and]
      exact fun ⟨_, fresh⟩ =>
        absurd (fresh e (List.mem_of_find?_eq_some found)) (by simp [equal])
    | none =>
      have fresh : ∀ e ∈ m.records coll, Value.alike e.1 id = false := by
        simpa using List.find?_eq_none.mp found
      simp only [found, bind, Except.bind, Option.map_none, Option.isSome_none,
        Bool.false_eq_true, if_false, pure, Except.pure, Except.ok.injEq]
      exact ⟨fun made => ⟨⟨hashable, fresh⟩, made.symm⟩,
        fun ⟨_, built⟩ => built.symm⟩

/-- A text id already in a collection is a conflict. -/
theorem MemoryStore.create_str_conflict {m : MemoryStore} {coll s : String} {record : Value}
    (stored : ∃ r, (Value.str s, r) ∈ m.records coll) :
    m.create coll (.str s) record = .error (Failure.conflict ("record already exists: " ++ s)) := by
  obtain ⟨r, mem⟩ := stored
  obtain ⟨e, found⟩ := Option.isSome_iff_exists.mp
    (List.find?_isSome.mpr ⟨_, mem, Value.alike_str_iff.2 rfl⟩ :
      ((m.records coll).find? fun r => Value.alike r.1 (.str s)).isSome)
  simp [create, find?, Value.unhashablePart, found, bind, Except.bind, pure, Except.pure, throw,
    throwThe, MonadExceptOf.throw, Value.plain]

theorem MemoryStore.update_eq_ok {m m' : MemoryStore} {coll : String} {id : Value}
    {changes : List (String × Value)} (updated : m.update coll id changes = .ok m') :
    ∃ e ∈ m.records coll, Value.alike e.1 id = true ∧
      ∃ v', e.2.replaceFields changes = .ok v' ∧
      m' = m.withRecords coll ((m.records coll).map fun r =>
        if Value.alike r.1 id then (r.1, v') else r) := by
  unfold update find? at updated
  cases hashable : id.unhashablePart with
  | some c => simp [hashable, bind, Except.bind, throw, throwThe, MonadExceptOf.throw] at updated
  | none =>
    cases found : (m.records coll).find? (fun r => Value.alike r.1 id) with
    | none =>
      simp [hashable, found, bind, Except.bind, pure, Except.pure, throw, throwThe,
        MonadExceptOf.throw] at updated
    | some e =>
      have equal : Value.alike e.1 id = true := by
        simpa using List.find?_some found
      cases rebuilt : e.2.replaceFields changes with
      | error _ => simp [hashable, found, rebuilt, bind, Except.bind, pure, Except.pure] at updated
      | ok v' =>
        simp [hashable, found, rebuilt, bind, Except.bind, pure, Except.pure] at updated
        exact ⟨e, List.mem_of_find?_eq_some found, equal, v', rebuilt, updated.symm⟩

/-! ## Running the service's wrappers -/

namespace ServiceM

variable {α β : Type}

theorem pure?_bind (x : Except Failure α) (f : α → Except Failure β) :
    pure? (x >>= f) = pure? x >>= fun a => pure? (f a) := by
  cases x <;> rfl

theorem pure?_pure (a : α) : pure? (pure a : Except Failure α) = pure a := rfl

theorem pure?_throw (e : Failure) : pure? (throw e : Except Failure α) = throw e := rfl

theorem tryCatch_run (x : ServiceM α) (handle : Failure → ServiceM α) (w : World) :
    tryCatch x handle w = match x w with
      | .ok a w' => .ok a w'
      | .error e w' => handle e w' := by
  show EStateM.tryCatch x handle w = _
  unfold EStateM.tryCatch
  cases x w <;> rfl

theorem withStore_run_error {f : Store → CodecM (α × Store)} {w : World} {e : Failure}
    (ran : f w.store w.registry = .error e w.registry) : ServiceM.withStore f w = .error e w := by
  simp only [ServiceM.withStore, bind, EStateM.bind, get, getThe, MonadStateOf.get, EStateM.get,
    ServiceM.codec, ran]

end ServiceM

theorem Store.with_backend {s : Store} {m : MemoryStore} (mem : s.backend = .memory m) :
    { s with backend := .memory m } = s := by
  cases s
  cases mem
  rfl

namespace Service

open ServiceM

variable {α : Type}

theorem operation_run (name : String) (act : ServiceM α) (w : World) :
    operation name act w = match act w with
      | .ok a w' => .ok a w'
      | .error e w' => .error e (if e.isServer then
          { w' with notes := w'.notes ++ [⟨.error, "operation failed: " ++ name⟩] }
        else w') := by
  unfold operation
  rw [tryCatch_run]
  cases act w with
  | ok a w' => rfl
  | error e w' => by_cases server : e.isServer <;> simp [server] <;> rfl

theorem internal_run (act : ServiceM α) (w : World) :
    internal act w = match act w with
      | .ok a w' => .ok a w'
      | .error e w' =>
        .error (if e.httpStatus?.isSome then e
          else .status 500 (Failure.argsText e) (some e)) w' := by
  unfold internal
  rw [tryCatch_run]
  cases act w with
  | ok a w' => rfl
  | error e w' => by_cases known : e.httpStatus?.isSome <;> simp [known] <;> rfl

/-- The world after an action, whether it succeeds or fails. -/
def after (act : ServiceM α) (w : World) : World :=
  match act w with
  | .ok _ w' => w'
  | .error _ w' => w'

theorem after_of_ok {act : ServiceM α} {w w' : World} {a : α} (ran : act w = .ok a w') :
    after act w = w' := by
  simp only [after, ran]

theorem after_of_error {act : ServiceM α} {w w' : World} {e : Failure}
    (ran : act w = .error e w') : after act w = w' := by
  simp only [after, ran]

theorem after_of_run {act act' : ServiceM α} {w w' : World} (ran : act w = act' w') :
    after act w = after act' w' := by
  simp only [after, ran]

/-- Logging a failure changes no store. -/
theorem after_operation_store (name : String) (act : ServiceM α) (w : World) :
    (after (operation name act) w).store = (after act w).store := by
  unfold after
  rw [operation_run]
  cases act w with
  | ok a w' => rfl
  | error e w' => by_cases server : e.isServer <;> simp [server]

theorem operation_ok_iff {name : String} {act : ServiceM α} {w w' : World} {a : α} :
    operation name act w = .ok a w' ↔ act w = .ok a w' := by
  rw [operation_run]
  cases act w <;> simp

/-! ## One write to the memory store -/

/-- Run on a world whose store is in memory, an action makes a write: when the write gives a
memory store the action succeeds with the store holding it, and when the write fails so does
the action, leaving the store as it was. -/
def Writes (act : ServiceM Unit) (w : World) : Except Failure MemoryStore → Prop
  | .ok m' => ∃ w', act w = .ok () w' ∧ w'.store = { w.store with backend := .memory m' }
  | .error _ => ∃ e w', act w = .error e w' ∧ w'.store = w.store

namespace Writes

variable {act : ServiceM Unit} {w : World} {m : MemoryStore} {write : Except Failure MemoryStore}

theorem after_ok {m' : MemoryStore} (writes : Writes act w (.ok m')) :
    (after act w).store = { w.store with backend := .memory m' } := by
  obtain ⟨w', ran, stored⟩ := writes
  rw [after_of_ok ran, stored]

theorem after_error {e : Failure} (writes : Writes act w (.error e)) :
    (after act w).store = w.store := by
  obtain ⟨e, w', ran, kept⟩ := writes
  rw [after_of_error ran, kept]

/-- After a write the store is in memory: as it was, or as the write gives it. -/
theorem after_memory (mem : w.store.backend = .memory m) (writes : Writes act w write) :
    ∃ m', (after act w).store.backend = .memory m' ∧ (m' = m ∨ write = .ok m') := by
  cases write with
  | ok m' => exact ⟨m', by rw [writes.after_ok], .inr rfl⟩
  | error e => exact ⟨m, by rw [writes.after_error, mem], .inl rfl⟩

/-- A failed write leaves the store as it was. -/
theorem failure_keeps (writes : Writes act w write) {e : Failure} {w' : World}
    (failed : act w = .error e w') : w'.store = w.store := by
  cases write with
  | ok m' =>
    obtain ⟨w'', ran, -⟩ := writes
    rw [ran] at failed
    cases failed
  | error _ =>
    obtain ⟨e', w'', ran, kept⟩ := writes
    rw [ran] at failed
    cases failed
    exact kept

theorem of_run {act' : ServiceM Unit} (ran : act w = act' w) (writes : Writes act' w write) :
    Writes act w write := by
  cases write <;> simpa only [Writes, ran] using writes

theorem operation (name : String) (writes : Writes act w write) :
    Writes (Service.operation name act) w write := by
  cases write with
  | ok m' =>
    obtain ⟨w', ran, stored⟩ := writes
    exact ⟨w', by rw [operation_run, ran], stored⟩
  | error _ =>
    obtain ⟨e, w', ran, kept⟩ := writes
    refine ⟨e, _, by rw [operation_run, ran], ?_⟩
    split <;> exact kept

/-- A check that fails is a failed write; one that passes goes on to the write it leads to. -/
theorem pure?_bind {β : Type} {x : Except Failure β} {f : β → ServiceM Unit}
    {g : β → Except Failure MemoryStore} (each : ∀ a, x = .ok a → Writes (f a) w (g a)) :
    Writes (pure? x >>= f) w (x >>= g) := by
  cases x with
  | error e => exact ⟨e, w, rfl, rfl⟩
  | ok a =>
    show Writes _ w (g a)
    have ran : (pure? (.ok a) >>= f) w = f a w := bind_run_ok (pure?_run_ok a w)
    have each := each a rfl
    generalize g a = write at each ⊢
    cases write with
    | ok m' =>
      obtain ⟨w', made, stored⟩ := each
      exact ⟨w', ran.trans made, stored⟩
    | error _ =>
      obtain ⟨e, w', failed, kept⟩ := each
      exact ⟨e, w', ran.trans failed, kept⟩

/-- Store work that changes a store in memory as a write to it does, as an internal step. -/
theorem store {op : Store → CodecM Store}
    (ran : ∀ r, op w.store r = match write with
      | .ok m' => .ok { w.store with backend := .memory m' } r
      | .error e => .error e r) :
    Writes (internal (withStore fun s => do
      let s ← op s
      pure ((), s))) w write := by
  cases write with
  | ok m' =>
    refine ⟨{ w with store := { w.store with backend := .memory m' } }, ?_, rfl⟩
    rw [internal_run, withStore_run (s := { w.store with backend := .memory m' })]
    simp only [bind, EStateM.bind, ran, pure, EStateM.pure]
  | error e =>
    rw [Writes, internal_run, withStore_run_error (e := e) (by simp only [bind, EStateM.bind, ran])]
    exact ⟨_, w, rfl, rfl⟩

theorem create (mem : w.store.backend = .memory m) (coll : String) (id record : Value) :
    Writes (internal (withStore fun s => do
      let s ← s.create coll id record
      pure ((), s))) w (m.create coll id record) :=
  store fun r => by
    simp only [Store.create, mem]
    cases m.create coll id record <;> rfl

theorem update (mem : w.store.backend = .memory m) (coll : String) (id : Value)
    (changes : List (String × Value)) :
    Writes (internal (withStore fun s => do
      let s ← s.update coll id changes
      pure ((), s))) w (m.update coll id changes) :=
  store fun r => by
    simp only [Store.update, mem]
    cases m.update coll id changes <;> rfl

end Writes

/-! ## What each operation checks -/

/-- The key and the record a resource stores an argument as: its id, which must be true, and
the argument with its submission time, which must be given, in UTC. -/
def submission (message : String) (v : Value) : Except Failure (Value × Value) := do
  let id ← v.attr "id"
  let ok ← if id.truthy then do
      let t ← v.attr "submission_time"
      pure !t.isNone
    else pure false
  if !ok then throw (Failure.badRequest message)
  let t ← (← v.attr "submission_time").inUtc
  pure (id, Value.setField v "submission_time" t)

/-- The key and the record an order is stored as. -/
def orderEntry (order : Value) : Except Failure (Value × Value) :=
  submission "order requires id and submission_time" order

/-- The key and the record a task is stored as: its completion time, when it has one, is kept
in UTC too. -/
def taskEntry (task : Value) : Except Failure (Value × Value) := do
  let (id, record) ← submission "task requires id and submission_time" task
  let done ← record.attr "completion_time"
  if done.isNone then pure (id, record) else do
    let d ← done.inUtc
    pure (id, Value.setField record "completion_time" d)

theorem postOrder_eq (order : Value) :
    postOrder order = operation "ecomm.orders.OrdersResource.post" (do
      let (id, record) ← pure? (orderEntry order)
      internal (withStore fun s => do
        let s ← s.create "orders" id record
        pure ((), s))) := by
  unfold postOrder orderEntry submission field
  simp only [pure?_bind, pure?_pure, pure?_throw, apply_ite pure?, bind_assoc, pure_bind,
    ← Sorting.ite_bind_same]
  rfl

theorem saveTask_eq (task : Value) :
    saveTask task = (do
      let (id, record) ← pure? (taskEntry task)
      internal (withStore fun s => do
        let s ← s.create "tasks" id record
        pure ((), s))) := by
  unfold saveTask taskEntry submission field
  simp only [pure?_bind, pure?_pure, pure?_throw, apply_ite pure?, bind_assoc, pure_bind,
    ← Sorting.ite_bind_same]
  rfl

/-- An argument a resource stores under a key as a record: the key is its id, a true value, and
the record is the argument with its submission time in UTC. -/
structure Submitted (v id record : Value) : Prop where
  keyed : v.attr "id" = .ok id
  present : id.truthy
  inUtc : ∃ t u, v.attr "submission_time" = .ok (.time t) ∧ t.asUtc = some u ∧
    record = Value.setField v "submission_time" (.time u)

theorem submission_eq_ok_iff {message : String} {v id record : Value} :
    submission message v = .ok (id, record) ↔ Submitted v id record := by
  constructor
  · intro ran
    unfold submission at ran
    cases keyed : v.attr "id" with
    | error e => simp [keyed] at ran
    | ok id' =>
      cases sub : v.attr "submission_time" with
      | error e => cases truthy : id'.truthy <;> simp [keyed, sub, truthy] at ran
      | ok t =>
        cases truthy : id'.truthy
        · simp [keyed, sub, truthy] at ran
        · cases t with
          | time t =>
            cases utc : t.asUtc with
            | none => simp [keyed, sub, truthy, Value.inUtc, Value.isNone, utc] at ran
            | some u =>
              simp [keyed, sub, truthy, Value.inUtc, Value.isNone, utc] at ran
              obtain ⟨rfl, rfl⟩ := ran
              exact ⟨keyed, truthy, t, u, sub, utc, rfl⟩
          | _ => simp [keyed, sub, truthy, Value.inUtc, Value.isNone] at ran
  · rintro ⟨keyed, present, t, u, sub, utc, rfl⟩
    simp [submission, keyed, present, sub, utc, Value.inUtc, Value.isNone]

/-- A task a resource stores under a key as a record: submitted as any argument is, and with
its completion time, when it has one, in UTC. -/
def TaskSubmitted (v id record : Value) : Prop :=
  ∃ r, Submitted v id r ∧
    (v.attr "completion_time" = .ok .none ∧ record = r ∨
      ∃ d u, v.attr "completion_time" = .ok (.time d) ∧ d.asUtc = some u ∧
        record = Value.setField r "completion_time" (.time u))

theorem Submitted.attr_eq {v id record : Value} (submitted : Submitted v id record) {k : String}
    (other : k ≠ "submission_time") : record.attr k = v.attr k := by
  obtain ⟨t, u, -, -, rfl⟩ := submitted.inUtc
  rw [attr_setField, if_neg other]

theorem taskEntry_eq_ok_iff {v id record : Value} :
    taskEntry v = .ok (id, record) ↔ TaskSubmitted v id record := by
  unfold taskEntry
  constructor
  · intro ran
    cases entry : submission "task requires id and submission_time" v with
    | error e => simp [entry] at ran
    | ok e =>
      obtain ⟨id₀, r⟩ := e
      have submitted := submission_eq_ok_iff.1 entry
      simp only [entry, bind, Except.bind,
        submitted.attr_eq (k := "completion_time") (by decide)] at ran
      cases done : v.attr "completion_time" with
      | error e => simp [done] at ran
      | ok c =>
        cases c with
        | none =>
          simp [done, Value.isNone] at ran
          obtain ⟨rfl, rfl⟩ := ran
          exact ⟨r, submitted, .inl ⟨done, rfl⟩⟩
        | time d =>
          cases utc : d.asUtc with
          | none => simp [done, Value.isNone, Value.inUtc, utc] at ran
          | some u =>
            simp [done, Value.isNone, Value.inUtc, utc] at ran
            obtain ⟨rfl, rfl⟩ := ran
            exact ⟨r, submitted, .inr ⟨d, u, done, utc, rfl⟩⟩
        | _ => simp [done, Value.isNone, Value.inUtc] at ran
  · rintro ⟨r, submitted, ⟨done, rfl⟩ | ⟨d, u, done, utc, rfl⟩⟩
    · simp [submission_eq_ok_iff.2 submitted,
        submitted.attr_eq (k := "completion_time") (by decide),
        done, Value.isNone]
    · simp [submission_eq_ok_iff.2 submitted,
        submitted.attr_eq (k := "completion_time") (by decide),
        done, utc, Value.isNone, Value.inUtc]

/-! ## What each operation writes -/

variable {w : World} {m : MemoryStore}

theorem postOrder_writes (mem : w.store.backend = .memory m) (order : Value) :
    Writes (postOrder order) w
      (orderEntry order >>= fun (id, record) => m.create "orders" id record) := by
  rw [postOrder_eq]
  exact (Writes.pure?_bind fun (id, record) _ => Writes.create mem "orders" id record).operation _

theorem saveTask_writes (mem : w.store.backend = .memory m) (task : Value) :
    Writes (saveTask task) w
      (taskEntry task >>= fun (id, record) => m.create "tasks" id record) := by
  rw [saveTask_eq]
  exact Writes.pure?_bind fun (id, record) _ => Writes.create mem "tasks" id record

theorem postTask_writes (mem : w.store.backend = .memory m) (task : Value) :
    Writes (postTask task) w
      (taskEntry task >>= fun (id, record) => m.create "tasks" id record) :=
  (saveTask_writes mem task).operation _

/-- The changes a patch makes to a task at a reading of the clock: its status, which must be
given and stand for a status, its reason, and the reading as its completion time when the status
is completed. -/
def patchChanges (status reason : Value) (now : DateTime) :
    Except Failure (List (String × Value)) := do
  if status.isNone then throw (Failure.badRequest "status is required")
  let s ← statusOfValue status
  pure ([("status", Value.status s), ("reason_code", reason)] ++
    (if Value.same status (.status .completed) then [("completion_time", Value.time now)] else []))

theorem patchTask_writes (mem : w.store.backend = .memory m) (id status reason : Value) :
    Writes (patchTask id status reason) w
      (patchChanges status reason w.utcNow >>= m.update "tasks" id) := by
  apply Writes.operation
  by_cases absent : status.isNone
  · simp only [patchChanges, absent, if_true]
    exact ⟨_, w, rfl, rfl⟩
  · cases given : statusOfValue status with
    | error e =>
      simp only [patchChanges, absent, given]
      exact ⟨e, w, rfl, rfl⟩
    | ok s =>
      simp only [patchChanges, absent, given]
      refine Writes.of_run ?_ (Writes.update mem "tasks" id _)
      simp only [Bool.false_eq_true, if_false]
      rw [ServiceM.bind_run_ok (ServiceM.pure?_run_ok s w)]
      rfl

/-- Posting an order under a text id the store holds is a conflict, and changes nothing. -/
theorem postOrder_conflict {w : World} {m : MemoryStore} (mem : w.store.backend = .memory m)
    {s : String} {order record : Value} (stored : ∃ r, (Value.str s, r) ∈ m.records "orders")
    (submitted : Submitted order (.str s) record) :
    postOrder order w = .error (Failure.conflict ("record already exists: " ++ s)) w := by
  have entry : orderEntry order = .ok (.str s, record) := submission_eq_ok_iff.2 submitted
  have refused : ServiceM.withStore (fun st => do
      let st ← st.create "orders" (.str s) record
      pure ((), st)) w = .error (Failure.conflict ("record already exists: " ++ s)) w :=
    ServiceM.withStore_run_error (by
      simp only [Store.create, mem, MemoryStore.create_str_conflict stored, bind, EStateM.bind,
        throw, throwThe, MonadExceptOf.throw, EStateM.throw])
  rw [postOrder_eq, operation_run, entry, ServiceM.bind_run_ok (ServiceM.pure?_run_ok _ w)]
  simp only [internal_run, refused]
  rfl

end Service

end Storefront
