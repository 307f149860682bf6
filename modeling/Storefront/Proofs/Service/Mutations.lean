import Storefront.Proofs.Service.Writes

/-!
# The store over runs of the resources

Starting from an empty memory store, any run of the resources' writes — posting orders and
tasks, saving lists of tasks, patching tasks, each of which may fail — keeps the store as the
resources mean to keep it. Every record is kept under its own id, a true value, with its
submission time in UTC, and a task's completion time is none or in UTC. A write only adds
orders at the end of the stored ones. A write that fails leaves the store as it was, except
that saving a list keeps the tasks saved before the first one the store refuses.

The invariant is carried by one step lemma, one case for each kind of write, and a run lemma
that follows it along the list of writes.
-/

namespace Storefront

namespace Service

/-! ## What the store keeps -/

/-- A reading in UTC: a timestamp whose offset is zero. -/
def UtcTime (v : Value) : Prop := ∃ u : DateTime, v = .time u ∧ u.offset = some 0

/-- A record as the resources keep it under a key: the key is its id, a true value, and its
submission time is in UTC. -/
structure KeptAs (key record : Value) : Prop where
  keyed : record.attr "id" = .ok key
  present : key.truthy
  submitted : ∃ t, record.attr "submission_time" = .ok t ∧ UtcTime t

/-- A task's completion time is none or in UTC. -/
def Completed (record : Value) : Prop :=
  record.attr "completion_time" = .ok .none ∨
    ∃ t, record.attr "completion_time" = .ok t ∧ UtcTime t

theorem utcTime_of_asUtc {t u : DateTime} (utc : t.asUtc = some u) : UtcTime (.time u) :=
  ⟨u, rfl, by rw [(DateTime.asUtc_eq_some_iff.1 utc).2]⟩

theorem Submitted.kept {v id record : Value} (submitted : Submitted v id record) :
    KeptAs id record := by
  obtain ⟨t, u, sub, utc, rfl⟩ := submitted.inUtc
  refine ⟨?_, submitted.present, .time u, ?_, utcTime_of_asUtc utc⟩
  · rw [attr_setField, if_neg (by decide)]
    exact submitted.keyed
  · rw [attr_setField, if_pos rfl, sub]
    rfl

theorem TaskSubmitted.kept {v id record : Value} (task : TaskSubmitted v id record) :
    KeptAs id record ∧ Completed record := by
  obtain ⟨r, submitted, ⟨done, rfl⟩ | ⟨d, u, done, utc, rfl⟩⟩ := task
  · exact ⟨submitted.kept, .inl (by rw [submitted.attr_eq (by decide), done])⟩
  · have kept := submitted.kept
    refine ⟨⟨?_, kept.present, ?_⟩, .inr ⟨.time u, ?_, utcTime_of_asUtc utc⟩⟩
    · rw [attr_setField, if_neg (by decide)]
      exact kept.keyed
    · rw [attr_setField, if_neg (by decide)]
      exact kept.submitted
    · rw [attr_setField, if_pos rfl, submitted.attr_eq (by decide), done]
      rfl

/-- The store as the resources keep it: orders and tasks under their own true ids with their
submission times in UTC, tasks with their completion times none or in UTC, and nothing else. -/
structure StoreKept (m : MemoryStore) : Prop where
  orders : ∀ e ∈ m.records "orders", KeptAs e.1 e.2
  tasks : ∀ e ∈ m.records "tasks", KeptAs e.1 e.2 ∧ Completed e.2
  others : ∀ coll, coll ≠ "orders" → coll ≠ "tasks" → m.records coll = []

namespace StoreKept

variable {m m' : MemoryStore}

theorem empty : StoreKept {} where
  orders _ absent := nomatch absent
  tasks _ absent := nomatch absent
  others _ _ _ := rfl

theorem addOrder (kept : StoreKept m) {id record : Value}
    (created : m.create "orders" id record = .ok m') (order : KeptAs id record) :
    StoreKept m' := by
  have records := MemoryStore.records_create created
  refine ⟨fun e mem => ?_, fun e mem => ?_, fun coll other _ => ?_⟩
  · rw [records, if_pos rfl] at mem
    rcases List.mem_append.mp mem with old | new
    · exact kept.orders e old
    · rw [List.mem_singleton.mp new]
      exact order
  · rw [records, if_neg (by decide)] at mem
    exact kept.tasks e mem
  · rw [records, if_neg other]
    exact kept.others coll other ‹_›

theorem addTasks (kept : StoreKept m) {entries : List (Value × Value)}
    (records : ∀ coll, m'.records coll = m.records coll ++ if coll = "tasks" then entries else [])
    (tasks : ∀ e ∈ entries, KeptAs e.1 e.2 ∧ Completed e.2) : StoreKept m' := by
  refine ⟨fun e mem => ?_, fun e mem => ?_, fun coll other other' => ?_⟩
  · rw [records, if_neg (by decide), List.append_nil] at mem
    exact kept.orders e mem
  · rw [records, if_pos rfl] at mem
    rcases List.mem_append.mp mem with old | new
    · exact kept.tasks e old
    · exact tasks e new
  · rw [records, if_neg other', List.append_nil]
    exact kept.others coll other other'

theorem addTask (kept : StoreKept m) {id record : Value}
    (created : m.create "tasks" id record = .ok m') (task : KeptAs id record ∧ Completed record) :
    StoreKept m' := by
  have records : ∀ coll, m'.records coll =
      m.records coll ++ if coll = "tasks" then [(id, record)] else [] := by
    intro coll
    rw [MemoryStore.records_create created]
    by_cases named : coll = "tasks" <;> simp [named]
  exact kept.addTasks records fun e mem => by
    rw [List.mem_singleton.mp mem]
    exact task

/-- Patching a task by its text id with changes that leave its id and submission time alone,
and set its completion time, if at all, in UTC. -/
theorem patchTask (kept : StoreKept m) {s : String} {changes : List (String × Value)}
    (updated : m.update "tasks" (.str s) changes = .ok m')
    (keeps : Value.lookup changes "id" = Option.none ∧
      Value.lookup changes "submission_time" = Option.none)
    (completes : Value.lookup changes "completion_time" = Option.none ∨
      ∃ t, Value.lookup changes "completion_time" = some t ∧ UtcTime t) : StoreKept m' := by
  obtain ⟨e₀, mem₀, equal₀, v', rebuilt, rfl⟩ := MemoryStore.update_eq_ok updated
  have key₀ : e₀.1 = .str s := Value.alike_str_iff.1 equal₀
  obtain ⟨old, done⟩ := kept.tasks e₀ mem₀
  -- the rebuilt record reads the changes first, and its other fields as before
  have reads {k : String} {x : Value} (unchanged : Value.lookup changes k = Option.none)
      (was : e₀.2.attr k = .ok x) : v'.attr k = .ok x :=
    Value.attr_replaceFields rebuilt (.inr ⟨unchanged, was⟩)
  have patched : KeptAs (.str s) v' ∧ Completed v' := by
    obtain ⟨t, sub, utc⟩ := old.submitted
    refine ⟨⟨?_, key₀ ▸ old.present, t, reads keeps.2 sub, utc⟩, ?_⟩
    · exact reads keeps.1 (key₀ ▸ old.keyed)
    rcases completes with unchanged | ⟨t', changed, utc'⟩
    · rcases done with cleared | ⟨t', was, utc'⟩
      · exact .inl (reads unchanged cleared)
      · exact .inr ⟨t', reads unchanged was, utc'⟩
    · exact .inr ⟨t', Value.attr_replaceFields rebuilt (.inl changed), utc'⟩
  refine ⟨fun e mem => ?_, fun e mem => ?_, fun coll other other' => ?_⟩
  · rw [MemoryStore.records_withRecords, if_neg (by decide)] at mem
    exact kept.orders e mem
  · rw [MemoryStore.records_withRecords, if_pos rfl] at mem
    obtain ⟨e', mem', rfl⟩ := List.mem_map.mp mem
    by_cases hit : Value.alike e'.1 (.str s)
    · rw [if_pos hit, Value.alike_str_iff.1 hit]
      exact patched
    · rw [if_neg hit]
      exact kept.tasks e' mem'
  · rw [MemoryStore.records_withRecords, if_neg other']
    exact kept.others coll other other'

end StoreKept

/-! ## Saving tasks in turn -/

/-- Entries whose keys the memory store takes in turn after some records: each key is new
among the keys before it. -/
def FreshKeys : List (Value × Value) → List (Value × Value) → Prop
  | _, [] => True
  | rs, e :: es => MemoryStore.NewKey rs e.1 ∧ FreshKeys (rs ++ [e]) es

/-- What saving tasks in turn does to a world over the memory store `m`: the first `k` tasks are
stored as `entries`, each as the resource stores a task and under a key new among the keys
before it; the task after them, if there is one, cannot be stored; the store then holds the
tasks of `m` followed by `entries`; and the save succeeds exactly when every task was stored. -/
structure SavesInTurn (act : ServiceM Unit) (w : World) (m : MemoryStore) (tasks : List Value)
    (k : Nat) (entries : List (Value × Value)) : Prop where
  bounded : k ≤ tasks.length
  stored : List.Forall₂ (fun t e => TaskSubmitted t e.1 e.2) (tasks.take k) entries
  fresh : FreshKeys (m.records "tasks") entries
  refused : ∀ t ∈ tasks[k]?, ∀ id record, TaskSubmitted t id record →
    ¬ MemoryStore.NewKey (m.records "tasks" ++ entries) id
  holds : ∃ m', (after act w).store = { w.store with backend := .memory m' } ∧
    ∀ coll, m'.records coll = m.records coll ++ if coll = "tasks" then entries else []
  succeeds : (∃ w', act w = .ok () w') ↔ k = tasks.length

namespace SavesInTurn

variable {act act' : ServiceM Unit} {w w₁ : World} {m : MemoryStore} {tasks : List Value}
  {k : Nat} {entries : List (Value × Value)}

theorem of_run (ran : act w = act' w) (saves : SavesInTurn act' w m tasks k entries) :
    SavesInTurn act w m tasks k entries :=
  { saves with
    holds := by rw [after_of_run ran]; exact saves.holds
    succeeds := by simp only [ran]; exact saves.succeeds }

theorem operation (name : String) (saves : SavesInTurn act w m tasks k entries) :
    SavesInTurn (Service.operation name act) w m tasks k entries :=
  { saves with
    holds := by rw [after_operation_store]; exact saves.holds
    succeeds := by simp only [operation_ok_iff]; exact saves.succeeds }

/-- Saving no tasks stores nothing and succeeds. -/
theorem nil (mem : w.store.backend = .memory m) :
    SavesInTurn (([] : List Value).forM saveTask) w m [] 0 [] := by
  refine ⟨le_rfl, .nil, trivial, by simp, ⟨m, ?_, by simp⟩,
    ⟨fun _ => rfl, fun _ => ⟨w, rfl⟩⟩⟩
  rw [Store.with_backend mem]
  rfl

/-- Saving stops at a first task the store refuses, having stored nothing. -/
theorem first_refused {t : Value} {rest : List Value} {e : Failure}
    (mem : w.store.backend = .memory m) (failed : (t :: rest).forM saveTask w = .error e w₁)
    (kept : w₁.store = w.store)
    (refused : ∀ id record, TaskSubmitted t id record →
      ¬ MemoryStore.NewKey (m.records "tasks") id) :
    SavesInTurn ((t :: rest).forM saveTask) w m (t :: rest) 0 [] := by
  refine ⟨by simp, .nil, trivial, ?_, ⟨m, ?_, by simp⟩, by simp [failed]⟩
  · intro t' found
    cases Option.some.inj found
    simpa using refused
  · rw [after_of_error failed, kept, Store.with_backend mem]

/-- A first task stored under a new key, then the rest saved from there, is the whole list
saved with that task's entry first. -/
theorem first_saved {t id record : Value} {rest : List Value} {m₁ : MemoryStore}
    (entry : taskEntry t = .ok (id, record)) (created : m.create "tasks" id record = .ok m₁)
    (saved : saveTask t w = .ok () w₁)
    (stored : w₁.store = { w.store with backend := .memory m₁ })
    (saves : SavesInTurn (rest.forM saveTask) w₁ m₁ rest k entries) :
    SavesInTurn ((t :: rest).forM saveTask) w m (t :: rest) (k + 1) ((id, record) :: entries) := by
  obtain ⟨new, rfl⟩ := MemoryStore.create_eq_ok_iff.1 created
  have ran : (t :: rest).forM saveTask w = rest.forM saveTask w₁ := ServiceM.bind_run_ok saved
  have tasks₁ : (m.withRecords "tasks" (m.records "tasks" ++ [(id, record)])).records "tasks" =
      m.records "tasks" ++ [(id, record)] := by
    rw [MemoryStore.records_withRecords, if_pos rfl]
  refine ⟨by simp [saves.bounded], ?_, ?_, ?_, ?_, ?_⟩
  · exact .cons (taskEntry_eq_ok_iff.1 entry) saves.stored
  · exact ⟨new, tasks₁ ▸ saves.fresh⟩
  · intro t' found
    simpa [tasks₁] using saves.refused t' found
  · obtain ⟨m', held, records⟩ := saves.holds
    refine ⟨m', ?_, fun coll => ?_⟩
    · rw [after_of_run ran, held, stored]
    · rw [records, MemoryStore.records_withRecords]
      by_cases named : coll = "tasks" <;> simp [named]
  · rw [ran, saves.succeeds, List.length_cons]
    omega

end SavesInTurn

/-- Saving tasks in turn, by induction on the list: a task refused stops the saving, a task
stored is followed by the rest saved from the store it leaves. -/
theorem forM_saveTask_saves (tasks : List Value) :
    ∀ {w : World} {m : MemoryStore}, w.store.backend = .memory m →
      ∃ k entries, SavesInTurn (tasks.forM saveTask) w m tasks k entries := by
  induction tasks with
  | nil => exact fun mem => ⟨0, [], .nil mem⟩
  | cons t rest ih =>
    intro w m mem
    have writes := saveTask_writes mem t
    cases entry : taskEntry t with
    | error e =>
      rw [entry] at writes
      obtain ⟨e', w₁, failed, kept⟩ := writes
      refine ⟨0, [], .first_refused mem (ServiceM.bind_run_error failed) kept
        fun id record task => ?_⟩
      rw [taskEntry_eq_ok_iff.2 task] at entry
      cases entry
    | ok e =>
      obtain ⟨id, record⟩ := e
      rw [entry] at writes
      change Writes (saveTask t) w (m.create "tasks" id record) at writes
      cases created : m.create "tasks" id record with
      | error e =>
        rw [created] at writes
        obtain ⟨e', w₁, failed, kept⟩ := writes
        refine ⟨0, [], .first_refused mem (ServiceM.bind_run_error failed) kept
          fun id' record' task new => ?_⟩
        rw [taskEntry_eq_ok_iff.2 task] at entry
        cases entry
        rw [MemoryStore.create_eq_ok_iff.2 ⟨new, rfl⟩] at created
        cases created
      | ok m₁ =>
        rw [created] at writes
        obtain ⟨w₁, saved, stored⟩ := writes
        obtain ⟨k, entries, saves⟩ := ih (show w₁.store.backend = _ by rw [stored])
        exact ⟨k + 1, _, .first_saved entry created saved stored saves⟩

theorem saveAll_saves {w : World} {m : MemoryStore} (mem : w.store.backend = .memory m)
    {tasks : Value} {ts : List Value} (items : tasks.iterate = .ok ts) :
    ∃ k entries, SavesInTurn (saveAll tasks) w m ts k entries := by
  obtain ⟨k, entries, saves⟩ := forM_saveTask_saves ts mem
  have ran : (ServiceM.pure? tasks.iterate >>= fun ts => ts.forM saveTask) w =
      ts.forM saveTask w := by
    rw [items]
    exact ServiceM.bind_run_ok (ServiceM.pure?_run_ok ts w)
  exact ⟨k, entries, (saves.of_run ran).operation _⟩

/-! ## Runs of mutations -/

/-- The operations of the resources that write the store: posting an order or a task, saving
tasks in turn, and patching a task, found by its text id, at a reading of a clock in UTC. -/
inductive Mutation where
  | postOrder (order : Value)
  | postTask (task : Value)
  | saveAll (tasks : Value)
  | patchTask (id : String) (status reason : Value) (now : DateTime) (utc : now.offset = some 0)

namespace Mutation

/-- The operation a mutation runs. -/
def act : Mutation → ServiceM Unit
  | postOrder order => Service.postOrder order
  | postTask task => Service.postTask task
  | saveAll tasks => Service.saveAll tasks
  | patchTask id status reason now _ => fun w =>
    Service.patchTask (.str id) status reason { w with now := now }

/-- The world after a mutation, whether it succeeds or fails. -/
def apply (w : World) (op : Mutation) : World := after op.act w

end Mutation

/-- The world after mutations in turn. -/
def runMutations (w : World) (ops : List Mutation) : World := ops.foldl Mutation.apply w

theorem tasks_kept : ∀ {tasks : List Value} {entries : List (Value × Value)},
    List.Forall₂ (fun t e => TaskSubmitted t e.1 e.2) tasks entries →
      ∀ e ∈ entries, KeptAs e.1 e.2 ∧ Completed e.2
  | _, _, .nil => fun _ absent => nomatch absent
  | _, _, .cons task rest => fun e mem =>
    (List.mem_cons.mp mem).elim (fun first => first ▸ task.kept) (tasks_kept rest e)

/-- The clock read in UTC is in UTC when the clock keeps UTC. -/
theorem utcNow_utc {w : World} (clock : w.now.offset = some 0) : UtcTime (.time w.utcNow) := by
  refine ⟨_, rfl, ?_⟩
  unfold World.utcNow
  cases utc : w.now.asUtc with
  | none => exact clock
  | some u => exact (DateTime.asUtc_eq_some_iff.1 utc).2 ▸ rfl

/-- A patch's changes leave a task's id and submission time alone, and set its completion time,
if at all, to the clock's reading. -/
theorem patchChanges_keeps {status reason : Value} {now : DateTime}
    {changes : List (String × Value)} (made : patchChanges status reason now = .ok changes) :
    Value.lookup changes "id" = Option.none ∧
      Value.lookup changes "submission_time" = Option.none ∧
      (Value.lookup changes "completion_time" = Option.none ∨
        Value.lookup changes "completion_time" = some (.time now)) := by
  unfold patchChanges at made
  by_cases absent : status.isNone
  · simp [absent] at made
  · cases given : statusOfValue status with
    | error e => simp [absent, given] at made
    | ok s =>
      simp only [absent, given, Bool.false_eq_true, if_false] at made
      cases made
      by_cases completed : Value.same status (.status .completed) <;> simp [completed]

/-- A write that checks an entry and then creates it gives a store only from an entry that
passed its checks, created in the store. -/
theorem created_of_checked {entry : Except Failure (Value × Value)} {m m' : MemoryStore}
    {coll : String} (written : (entry >>= fun (id, record) => m.create coll id record) = .ok m') :
    ∃ id record, entry = .ok (id, record) ∧ m.create coll id record = .ok m' := by
  cases entry with
  | error e => cases written
  | ok e => exact ⟨e.1, e.2, rfl, written⟩

/-- One mutation keeps the store as the resources keep it, and only adds orders at the end. -/
theorem StoreKept.mutate {w : World} {m : MemoryStore} (mem : w.store.backend = .memory m)
    (kept : StoreKept m) (op : Mutation) :
    ∃ m', (Mutation.apply w op).store.backend = .memory m' ∧ StoreKept m' ∧
      m.records "orders" <+: m'.records "orders" := by
  cases op with
  | postOrder order =>
    obtain ⟨m', held, rfl | written⟩ := (postOrder_writes mem order).after_memory mem
    · exact ⟨_, held, kept, List.prefix_rfl⟩
    · obtain ⟨id, record, entry, created⟩ := created_of_checked written
      refine ⟨m', held, kept.addOrder created (submission_eq_ok_iff.1 entry).kept, ?_⟩
      rw [MemoryStore.records_create created, if_pos rfl]
      exact List.prefix_append _ _
  | postTask task =>
    obtain ⟨m', held, rfl | written⟩ := (postTask_writes mem task).after_memory mem
    · exact ⟨_, held, kept, List.prefix_rfl⟩
    · obtain ⟨id, record, entry, created⟩ := created_of_checked written
      refine ⟨m', held, kept.addTask created (taskEntry_eq_ok_iff.1 entry).kept, ?_⟩
      -- a plain rewrite: whether rfl knows prefixes depends on which of Mathlib is loaded
      rewrite [MemoryStore.records_create created, if_neg (by decide)]
      exact List.prefix_rfl
  | saveAll tasks =>
    cases items : tasks.iterate with
    | error e =>
      -- a value that cannot be looped over stores nothing
      have refused : Writes (saveAll tasks) w (.error e) := by
        refine Writes.operation _ ?_
        rw [items]
        exact ⟨e, w, rfl, rfl⟩
      exact ⟨m, by rw [Mutation.apply, Mutation.act, refused.after_error, mem], kept,
        List.prefix_rfl⟩
    | ok ts =>
      obtain ⟨k, entries, saves⟩ := saveAll_saves mem items
      obtain ⟨m', held, records⟩ := saves.holds
      refine ⟨m', by rw [Mutation.apply, Mutation.act, held], ?_, ?_⟩
      · exact kept.addTasks records (tasks_kept saves.stored)
      · rewrite [records, if_neg (by decide), List.append_nil]
        exact List.prefix_rfl
  | patchTask id status reason now clock =>
    -- the patch runs with the clock reading the mutation gives
    have writes : Writes (Mutation.act (.patchTask id status reason now clock)) w
        (patchChanges status reason ({ w with now := now } : World).utcNow >>=
          m.update "tasks" (.str id)) :=
      patchTask_writes (w := { w with now := now }) mem (.str id) status reason
    obtain ⟨m', held, rfl | written⟩ := writes.after_memory mem
    · exact ⟨_, held, kept, List.prefix_rfl⟩
    · cases changed : patchChanges status reason ({ w with now := now } : World).utcNow with
      | error e =>
        rw [changed] at written
        cases written
      | ok changes =>
        rw [changed] at written
        change m.update "tasks" (.str id) changes = .ok m' at written
        obtain ⟨noId, noSubmission, completes⟩ := patchChanges_keeps changed
        refine ⟨m', held, kept.patchTask written ⟨noId, noSubmission⟩ ?_, ?_⟩
        · exact completes.imp_right fun set =>
            ⟨_, set, utcNow_utc (w := { w with now := now }) clock⟩
        · rewrite [MemoryStore.records_update_of_ne written (by decide)]
          exact List.prefix_rfl

/-- Mutations in turn keep the store as the resources keep it, and only add orders at the
end. -/
theorem StoreKept.run (ops : List Mutation) :
    ∀ {w : World} {m : MemoryStore}, w.store.backend = .memory m → StoreKept m →
      ∃ m', (runMutations w ops).store.backend = .memory m' ∧ StoreKept m' ∧
        m.records "orders" <+: m'.records "orders" := by
  induction ops with
  | nil => exact fun mem kept => ⟨_, mem, kept, List.prefix_rfl⟩
  | cons op ops ih =>
    intro w m mem kept
    obtain ⟨m₁, mem₁, kept₁, grown₁⟩ := kept.mutate mem op
    obtain ⟨m', mem', kept', grown'⟩ := ih mem₁ kept₁
    exact ⟨m', mem', kept', grown₁.trans grown'⟩

/-- Over any run of the resources' mutations from an empty memory store: every stored record is
kept under its own true id with its submission time in UTC, a task's completion time is none or
in UTC, and the store holds nothing else; from then on the stored orders only grow at the end;
posting an order again under a text id the store holds is a conflict that changes nothing;
posting an order or a task and patching a task either succeed or leave the store as it was; and
saving tasks in turn stores, each as the resource stores a task, exactly the tasks before the
first the store refuses. -/
theorem store_kept_over_resource_runs (w : World) (ops : List Mutation) :
    let reached := runMutations { w with store := { w.store with backend := .memory {} } } ops
    ∃ m, reached.store.backend = .memory m ∧ StoreKept m ∧
      (∀ more : List Mutation, ∃ m', (runMutations reached more).store.backend = .memory m' ∧
        m.records "orders" <+: m'.records "orders") ∧
      (∀ (s : String) (order record : Value), (∃ r, (Value.str s, r) ∈ m.records "orders") →
        Submitted order (.str s) record →
        postOrder order reached =
          .error (Failure.conflict ("record already exists: " ++ s)) reached) ∧
      (∀ order e w', postOrder order reached = .error e w' → w'.store = reached.store) ∧
      (∀ task e w', postTask task reached = .error e w' → w'.store = reached.store) ∧
      (∀ id status reason e w', patchTask id status reason reached = .error e w' →
        w'.store = reached.store) ∧
      (∀ tasks : List Value,
        ∃ k entries, SavesInTurn (saveAll (.list tasks)) reached m tasks k entries) := by
  intro reached
  obtain ⟨m, mem, kept, -⟩ := StoreKept.run ops
    (w := { w with store := { w.store with backend := .memory {} } }) rfl StoreKept.empty
  refine ⟨m, mem, kept, fun more => ?_, fun s order record stored submitted =>
    postOrder_conflict mem stored submitted, fun order _ _ failed =>
    (postOrder_writes mem order).failure_keeps failed, fun task _ _ failed =>
    (postTask_writes mem task).failure_keeps failed, fun id status reason _ _ failed =>
    (patchTask_writes mem id status reason).failure_keeps failed, fun tasks =>
    saveAll_saves mem rfl⟩
  obtain ⟨m', mem', -, grown⟩ := StoreKept.run more mem kept
  exact ⟨m', mem', grown⟩

end Service

end Storefront
