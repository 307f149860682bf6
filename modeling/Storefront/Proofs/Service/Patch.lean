import Storefront.Proofs.Store.Edit
import Storefront.Proofs.Service.Mutations

/-!
# Patching a task

A patch sets a task's status and reason, and its completion time to the clock's reading in UTC
when the status given is completed (`patchedTask`). A memory store rebuilds the record through
its keyword constructor; a table store edits the record's document, removing the member of a
field set to none and writing the member of any other by the codec of its value's class.

Main statement (`patch_frame_in_both_stores`): for a task of its declared types that the codecs
carry, posted to either kind of store, every patch with an accepted status and a reason that is
none or text succeeds, the store goes on holding the task with exactly those fields changed, and
reading the task back gives a value equal to it; a missing or rejected status fails and leaves
the store as it was. The two stores agree because every field a patch sets admits none or is of
a class with a codec of its own: a removed member reads back as none, and a written one reads
back as its value.

A store holds a task (`Store.HoldsTask`) when reading its id gives the task back from memory,
or when its row's document holds the task's fields in the sense of `Codec.Holds`. Posting
establishes this, each patch carries it to the patched task, and reading observes it. A task
whose parameters are a tuple is outside the declared types: the table reads them back as a list
(`tuple_parameters_read_back_as_list`).
-/

namespace Storefront

namespace Service

open Codec Hint

/-! ## Records with changes made -/

/-- The fields of a record with changes made: each field takes the change of its name, if any. -/
def changedFields (fs changes : List (String × Value)) : List (String × Value) :=
  fs.map fun p => (p.1, (Value.lookup changes p.1).getD p.2)

theorem lookup_changedFields (fs changes : List (String × Value)) (n : String) :
    Value.lookup (changedFields fs changes) n =
      (Value.lookup fs n).map fun x => (Value.lookup changes n).getD x := by
  induction fs with
  | nil => rfl
  | cons p fs ih =>
    by_cases named : p.1 = n
    · subst named
      simp [changedFields]
    · simpa [changedFields, named] using ih

/-- A name that no field has is looked up as none. -/
theorem lookup_absent {ps : List (String × Value)} {n : String} (fresh : n ∉ ps.map Prod.fst) :
    Value.lookup ps n = Option.none :=
  Value.lookup_eq_none_iff.2 fun _ mem named => fresh (named ▸ List.mem_map_of_mem mem)

theorem names_changedFields (fs changes : List (String × Value)) :
    (changedFields fs changes).map Prod.fst = fs.map Prod.fst := by
  simp [changedFields]

/-- Changes of distinct names, set one after another, make each field take the change of its
name. -/
theorem foldl_setField {c : RecordClass} :
    ∀ {changes : List (String × Value)} {fs : List (String × Value)},
      (changes.map Prod.fst).Nodup →
      changes.foldl (fun t ch => Value.setField t ch.1 ch.2) (.record c fs) =
        .record c (changedFields fs changes)
  | [], fs, _ => by simp [changedFields]
  | (k, v) :: rest, fs, distinct => by
    rw [List.map_cons, List.nodup_cons] at distinct
    rw [List.foldl_cons, show Value.setField (.record c fs) k v =
      .record c (fs.map fun p => if p.1 == k then (k, v) else p) from rfl,
      foldl_setField distinct.2]
    -- a field of the first change's name takes it, since no later change has that name
    have later : Value.lookup rest k = Option.none := lookup_absent distinct.1
    simp only [changedFields, List.map_map, Value.record.injEq, true_and]
    apply List.map_congr_left
    intro p _
    by_cases hit : p.1 = k
    · simp [hit, later]
    · simp [hit, Ne.symm hit]

/-- Two field lists with the same names in the same order, no name twice, and the same value under
each name are one list. -/
theorem fields_ext : ∀ {fs gs : List (String × Value)}, fs.map Prod.fst = gs.map Prod.fst →
    (fs.map Prod.fst).Nodup → (∀ n, Value.lookup fs n = Value.lookup gs n) → fs = gs
  | [], [], _, _, _ => rfl
  | [], _ :: _, names, _, _ => by simp at names
  | _ :: _, [], names, _, _ => by simp at names
  | p :: fs, q :: gs, names, distinct, same => by
    simp only [List.map_cons, List.cons.injEq] at names
    rw [List.map_cons, List.nodup_cons] at distinct
    have head : p.2 = q.2 := by simpa [names.1] using same p.1
    -- the rest agree on every name, the first one appearing in neither
    have rest : ∀ n, Value.lookup fs n = Value.lookup gs n := by
      intro n
      by_cases first : p.1 = n
      · subst first
        rw [lookup_absent distinct.1, lookup_absent (names.2 ▸ distinct.1)]
      · have other : q.1 ≠ n := names.1 ▸ first
        simpa [first, other] using same n
    rw [Prod.ext names.1 head, fields_ext names.2 distinct.2 rest]

/-- A record of a keyword-only class with no check, its fields named in declaration order, is
rebuilt with changes to declared fields as the record with the changes made. -/
theorem replaceFields_changed {c : RecordClass} {fs : List (String × Value)}
    (keyword : c.keywordOnly = true) (unchecked : ∀ vs, c.postInit vs = .ok vs)
    (names : fs.map Prod.fst = c.fieldNames) {changes : List (String × Value)}
    (declared : ∀ ch ∈ changes, ch.1 ∈ c.fieldNames) :
    (Value.record c fs).replaceFields changes = .ok (.record c (changedFields fs changes)) := by
  have names' : fs.map Prod.fst = c.fields.map Field.name := names
  set args := changes ++ fs.filter fun f => !(changes.any (·.1 == f.1)) with args_eq
  have listed : ∀ a ∈ args, a.1 ∈ c.fields.map Field.name := by
    intro a mem
    rcases List.mem_append.mp mem with changed | kept
    · exact declared a changed
    · exact names' ▸ List.mem_map_of_mem (List.mem_of_mem_filter kept)
  -- every field is named: by a change, or by the field it had
  have named : ∀ n ∈ c.fields.map Field.name, n ∈ args.map Prod.fst := by
    intro n mem
    obtain ⟨p, had, rfl⟩ := List.mem_map.mp (names' ▸ mem : n ∈ fs.map Prod.fst)
    by_cases changed : changes.any (·.1 == p.1) = true
    · obtain ⟨ch, mem', same⟩ := List.any_eq_true.mp changed
      exact List.mem_map.mpr ⟨ch, List.mem_append_left _ mem', beq_iff_eq.mp same⟩
    · have kept : (!(changes.any (·.1 == p.1))) = true := by
        cases any : changes.any (·.1 == p.1) <;> simp_all
      exact List.mem_map.mpr ⟨p, List.mem_append_right _ (List.mem_filter.mpr ⟨had, kept⟩), rfl⟩
  have complete : (c.fields.filter fun f => f.required ∧ f.name ∉ args.map Prod.fst).map
      Field.name = [] := by
    rw [List.map_eq_nil_iff, List.filter_eq_nil_iff]
    intro f mem chosen
    simp only [decide_eq_true_eq] at chosen
    exact chosen.2 (named f.name (List.mem_map_of_mem mem))
  have unnamed : "self" ∉ args.map Prod.fst := fun clash => by
    obtain ⟨a, mem, same⟩ := List.mem_map.mp clash
    exact self_not_field c (same ▸ listed a mem)
  have values : (c.fields.map fun f => (f.name, (Value.lookup args f.name).getD (f.default.getD .none))) =
      changedFields fs changes := by
    apply fields_ext
    · rw [names_changedFields, names', List.map_map]
      rfl
    · rw [List.map_map]
      exact fieldNames_nodup c
    intro n
    rw [lookup_changedFields]
    by_cases field : n ∈ c.fieldNames
    · obtain ⟨f, mem, rfl⟩ := List.mem_map.mp field
      obtain ⟨x, had⟩ := lookup_some_of_mem (names ▸ field)
      rw [RecordClass.lookup_built ⟨f, mem, rfl⟩ fun g mem' same => ?_, had]
      · rfl
      -- the change of the name, else the field's own value
      obtain rfl : g = f := List.inj_on_of_nodup_map (fieldNames_nodup c) mem' mem same
      rw [args_eq, Value.lookup_append]
      cases change : Value.lookup changes g.name with
      | some y => rfl
      | none =>
        have untouched : ∀ p : String × Value, p.1 = g.name →
            (!(changes.any (·.1 == p.1))) = true := fun p same => by
          simpa [same] using Value.lookup_eq_none_iff.1 change
        rw [Option.none_or, Value.lookup_filter fs untouched, had]
        rfl
    · have unset : Value.lookup fs n = Option.none := lookup_absent (names ▸ field)
      rw [unset, Option.map_none]
      exact lookup_absent (by simpa [RecordClass.fieldNames] using field)
  rw [Value.replaceFields, RecordClass.make_keywordOnly keyword, keywordInit_given unnamed listed
    complete, values, unchecked]
  rfl

/-! ## A task with a patch applied -/

/-- A task with a patch applied at a reading of the clock: its status and reason set, and its
completion time set to the reading when the status given is completed; its other fields as they
were. -/
def patchedTask (t status : Value) (s : TaskStatus) (reason : Value) (now : DateTime) : Value :=
  let t' := Value.setField (Value.setField t "status" (.status s)) "reason_code" reason
  if Value.same status (.status .completed) then Value.setField t' "completion_time" (.time now)
  else t'

/-- The changes a patch makes at a reading of the clock, once its status is accepted. -/
def patchList (status : Value) (s : TaskStatus) (reason : Value) (now : DateTime) :
    List (String × Value) :=
  [("status", Value.status s), ("reason_code", reason)] ++
    if Value.same status (.status .completed) then [("completion_time", Value.time now)] else []

/-- A patch whose status is not completed sets the status and the reason only. -/
theorem patchedTask_of_not_completed {t status reason : Value} {s : TaskStatus} (now : DateTime)
    (notCompleted : Value.same status (.status .completed) = false) :
    patchedTask t status s reason now =
      Value.setField (Value.setField t "status" (.status s)) "reason_code" reason := by
  simp only [patchedTask, notCompleted, Bool.false_eq_true, if_false]

theorem patchList_setField {status reason : Value} {s : TaskStatus} {now : DateTime} (t : Value) :
    (patchList status s reason now).foldl (fun t ch => Value.setField t ch.1 ch.2) t =
      patchedTask t status s reason now := by
  unfold patchList patchedTask
  split <;> rfl

/-! ## The types of a patched task -/

/-- A record of a class with changes of values of its fields' types is of the class. -/
theorem typed_changed {c : RecordClass} {fs : List (String × Value)}
    (typed : Typed (cls (.record c)) (.record c fs)) {changes : List (String × Value)}
    (fit : ∀ ch ∈ changes, ∀ f ∈ c.fields, f.name = ch.1 → Typed f.hint ch.2) :
    Typed (cls (.record c)) (.record c (changedFields fs changes)) := by
  obtain ⟨gs, same, names, fields⟩ := typed.record_inv
  cases same
  refine .record (by rw [names_changedFields, names]) fun f listed x found => ?_
  rw [lookup_changedFields] at found
  obtain ⟨y, had, rfl⟩ := Option.map_eq_some_iff.mp found
  cases change : Value.lookup changes f.name with
  | some z => simpa [change] using fit (f.name, z) (Value.mem_of_lookup change) f listed rfl
  | none => simpa [change] using fields f listed y had

/-- A record that the codecs carry, of a class with no check, with changes that the codecs carry
is carried too. -/
theorem portable_changed {c : RecordClass} {fs : List (String × Value)}
    (portable : (Value.record c fs).Portable) (unchecked : ∀ vs, c.postInit vs = .ok vs)
    {changes : List (String × Value)} (each : ∀ ch ∈ changes, ch.2.Portable) :
    (Value.record c (changedFields fs changes)).Portable := by
  cases portable with
  | record _ values =>
    refine .record (unchecked _) fun p mem => ?_
    obtain ⟨q, had, rfl⟩ := List.mem_map.mp mem
    cases change : Value.lookup changes q.1 with
    | some z => simpa [change] using each (q.1, z) (Value.mem_of_lookup change)
    | none => simpa [change] using values q had

/-- The fields of a task that a patch sets, with their declared types. -/
theorem task_patched_hints {f : Field} (listed : f ∈ RecordClass.task.fields) :
    (f.name = "status" → f.hint = cls .taskStatus) ∧
      (f.name = "reason_code" → f.hint = union [cls .str, cls .noneType]) ∧
      (f.name = "completion_time" → f.hint = union [cls .datetime, cls .noneType]) := by
  simp only [RecordClass.fields, RecordClass.req, RecordClass.optStr, List.mem_cons,
    List.not_mem_nil, or_false] at listed
  rcases listed with rfl | rfl | rfl | rfl | rfl | rfl | rfl | rfl | rfl | rfl <;> simp <;> rfl

theorem optional_datetime : optionalOf (cls .datetime) = union [cls .datetime, cls .noneType] := rfl

theorem task_unchecked : ∀ vs, RecordClass.task.postInit vs = .ok vs := fun _ => rfl

/-- A reading of the clock on the calendar is a timestamp the codecs carry once in UTC. -/
theorem utcNow_portable {w : World} (clock : w.now.asUtc.isSome = true) :
    (Value.time w.utcNow).Portable := by
  obtain ⟨u, utc⟩ := Option.isSome_iff_exists.mp clock
  have now : w.utcNow = u := by simp [World.utcNow, utc]
  obtain ⟨onCalendar, rfl⟩ := DateTime.asUtc_eq_some_iff.1 utc
  rw [now]
  exact .time rfl (by simpa [DateTime.utcWall] using onCalendar)

/-- What each change of a patch is: to a declared field of a task, of a value of its type that
the codecs carry and that a document can take. -/
def PatchFits (ch : String × Value) : Prop :=
  ch.1 ∈ RecordClass.task.fieldNames ∧ ch.2.Portable ∧
    ∀ f ∈ RecordClass.task.fields, f.name = ch.1 → Typed f.hint ch.2 ∧ Settable f ch.2

/-- The changes of a patch with a reason that is none or text JSON carries, at a clock reading
the codecs carry, fit a task, and are of distinct fields. -/
theorem patch_changes_fit (status : Value) (s : TaskStatus) {reason : Value}
    (reasonOk : reason = .none ∨ ∃ r, reason = .str r ∧ Text.PairsApart r.toList) {now : DateTime}
    (clock : (Value.time now).Portable) :
    ((patchList status s reason now).map Prod.fst).Nodup ∧
      ∀ ch ∈ patchList status s reason now, PatchFits ch := by
  have statusFits : PatchFits ("status", .status s) := by
    refine ⟨(by decide : "status" ∈ RecordClass.task.fieldNames), .status s,
      fun f listed named => ?_⟩
    have hint := (task_patched_hints listed).1 named
    have typed : Typed (cls .taskStatus) (.status s) := .of_kind rfl (by simp)
    exact ⟨hint ▸ typed, .coded rfl rfl (hint ▸ typed) (hint ▸ .cls rfl) (.status s)⟩
  have reasonFits : PatchFits ("reason_code", reason) := by
    refine ⟨(by decide : "reason_code" ∈ RecordClass.task.fieldNames), ?_,
      fun f listed named => ?_⟩
    · rcases reasonOk with rfl | ⟨r, rfl, apart⟩
      · exact .none
      · exact .str apart
    have hint := (task_patched_hints listed).2.1 named
    rcases reasonOk with rfl | ⟨r, rfl, apart⟩
    · exact ⟨hint ▸ .none_member (by simp), .none⟩
    · have typed : Typed (union [cls .str, cls .noneType]) (.str r) :=
        .member List.mem_cons_self (.of_kind rfl (by simp))
      have carried : Carried (union [cls .str, cls .noneType]) :=
        Catalog.optionalOf_str ▸ carried_optionalOf (.cls rfl)
      exact ⟨hint ▸ typed, .coded rfl rfl (hint ▸ typed) (hint ▸ carried) (.str apart)⟩
  have completion : PatchFits ("completion_time", .time now) := by
    refine ⟨(by decide : "completion_time" ∈ RecordClass.task.fieldNames), clock,
      fun f listed named => ?_⟩
    have hint := (task_patched_hints listed).2.2 named
    have typed : Typed (union [cls .datetime, cls .noneType]) (.time now) :=
      .member List.mem_cons_self (.of_kind rfl (by simp))
    have carried : Carried (union [cls .datetime, cls .noneType]) :=
      optional_datetime ▸ carried_optionalOf (.cls rfl)
    exact ⟨hint ▸ typed, .coded rfl rfl (hint ▸ typed) (hint ▸ carried) clock⟩
  unfold patchList
  split
  · exact ⟨by simp, by simpa using ⟨statusFits, reasonFits, completion⟩⟩
  · exact ⟨by simp, by simpa using ⟨statusFits, reasonFits⟩⟩

end Service

/-! ## Stores holding a task -/

namespace MemoryStore

theorem read_str_eq_ok {m : MemoryStore} {coll id : String} {t : Value} :
    m.read coll (.str id) = .ok t ↔
      ∃ e, (m.records coll).find? (fun r => Value.alike r.1 (.str id)) = some e ∧ e.2 = t := by
  unfold MemoryStore.read MemoryStore.find?
  cases found : (m.records coll).find? (fun r => Value.alike r.1 (.str id)) with
  | none => simp [Value.unhashablePart, bind, Except.bind, pure, Except.pure, throw, throwThe,
      MonadExceptOf.throw]
  | some e => simp [Value.unhashablePart, bind, Except.bind, pure, Except.pure]

/-- A record added under a text id is read back under it. -/
theorem read_create {m m' : MemoryStore} {coll id : String} {t : Value}
    (created : m.create coll (.str id) t = .ok m') : m'.read coll (.str id) = .ok t := by
  obtain ⟨⟨-, fresh⟩, rfl⟩ := create_eq_ok_iff.1 created
  have unmatched : (m.records coll).find? (fun r => Value.alike r.1 (.str id)) = Option.none :=
    List.find?_eq_none.mpr fun e mem => by simp [fresh e mem]
  refine read_str_eq_ok.2 ⟨(.str id, t), ?_, rfl⟩
  rw [records_withRecords, if_pos rfl, List.find?_append, unmatched]
  simp [Value.alike_str_iff]

/-- A record read under a text id and rebuilt with changes is, after the update, read back as
rebuilt. -/
theorem read_update {m : MemoryStore} {coll id : String} {t t' : Value}
    {changes : List (String × Value)} (stored : m.read coll (.str id) = .ok t)
    (rebuilt : t.replaceFields changes = .ok t') :
    ∃ m', m.update coll (.str id) changes = .ok m' ∧ m'.read coll (.str id) = .ok t' := by
  obtain ⟨e, found, rfl⟩ := read_str_eq_ok.1 stored
  have matched : Value.alike e.1 (.str id) = true := by simpa using List.find?_some found
  refine ⟨m.withRecords coll ((m.records coll).map fun r =>
    if Value.alike r.1 (.str id) then (r.1, t') else r), ?_, read_str_eq_ok.2 ⟨(e.1, t'), ?_, rfl⟩⟩
  · simp [update, find?, Value.unhashablePart, found, rebuilt, bind, Except.bind, pure, Except.pure]
  · -- the records updated keep their keys, so the same one is found first
    have keyed : ((fun r : Value × Value => Value.alike r.1 (.str id)) ∘
        fun r => if Value.alike r.1 (.str id) then (r.1, t') else r) =
        fun r => Value.alike r.1 (.str id) := by
      funext r
      by_cases hit : Value.alike r.1 (.str id) = true <;> simp [hit]
    rw [records_withRecords, if_pos rfl, List.find?_map, keyed, found, Option.map_some, if_pos matched]

end MemoryStore

namespace Store

open Codec Hint

/-- A store holds a task under a text id. In memory, reading the id gives the task; in a table,
the row of the id holds an object document in which each field of the task is found as the
task's value. -/
def HoldsTask (s : Store) (id : String) (t : Value) : Prop :=
  match s.backend with
  | .memory m => m.read "tasks" (.str id) = .ok t
  | .table ts => ∃ fs ms row, t = .record .task fs ∧ ts.findValue? "tasks" (.str id) = .ok (some row) ∧
      row.document = (Json.obj ms).render ∧ Holds .task ms fs

variable {s s' : Store} {id : String} {t : Value} {r r' : Registry}

/-- Storing a task of its declared types that the codecs carry under a text id makes the store
hold it. -/
theorem create_holds (created : (s.create "tasks" (.str id) t).run r = .ok s' r')
    (typed : Typed (cls (.record .task)) t) (portable : t.Portable) (sound : r.Sound) :
    s'.HoldsTask id t ∧ r'.Sound := by
  cases onBackend : s.backend with
  | memory m =>
    simp only [Store.create, onBackend] at created
    cases made : m.create "tasks" (.str id) t with
    | error e =>
      rw [made] at created
      cases created
    | ok m' =>
      rw [made] at created
      cases created
      exact ⟨MemoryStore.read_create made, sound⟩
  | table ts =>
    simp only [Store.create, onBackend] at created
    obtain ⟨ts', r₁, made, stored⟩ := Sql.bind_run_ok_iff.1 created
    cases stored
    obtain ⟨fs, rfl, -, -⟩ := typed.record_inv
    obtain ⟨ms, found, holds, sound'⟩ :=
      TableStore.create_holds made (typed.fieldTrips portable) sound
    exact ⟨⟨fs, ms, _, rfl, found, rfl, holds⟩, sound'⟩

/-- Changes of distinct names that fit a task, made to a task the store holds, leave it holding
the task with the changes made. -/
theorem update_holds (holds : s.HoldsTask id t) (typed : Typed (cls (.record .task)) t)
    (sound : r.Sound) {changes : List (String × Value)} (distinct : (changes.map Prod.fst).Nodup)
    (fits : ∀ ch ∈ changes, Service.PatchFits ch) :
    ∃ s' r', (s.update "tasks" (.str id) changes).run r = .ok s' r' ∧ r'.Sound ∧
      s'.HoldsTask id (changes.foldl (fun t ch => Service.Value.setField t ch.1 ch.2) t) := by
  obtain ⟨fs, rfl, names, -⟩ := typed.record_inv
  rw [Service.foldl_setField distinct]
  cases onBackend : s.backend with
  | memory m =>
    simp only [HoldsTask, onBackend] at holds
    obtain ⟨m', updated, read⟩ := MemoryStore.read_update holds
      (Service.replaceFields_changed rfl Service.task_unchecked names fun ch listed => (fits ch listed).1)
    refine ⟨{ s with backend := .memory m' }, r, ?_, sound, read⟩
    simp only [Store.update, onBackend, updated]
    rfl
  | table ts =>
    simp only [HoldsTask, onBackend] at holds
    obtain ⟨fs', ms, row, same, found, document, holds⟩ := holds
    cases same
    obtain ⟨ms', fs'', r', updated, sound', set, holds'⟩ := TableStore.update_holds found document
      holds (fun ch listed => ⟨(fits ch listed).1, fun f field named =>
        ((fits ch listed).2.2 f field named).2⟩) sound
    rw [Service.foldl_setField distinct, Value.record.injEq] at set
    refine ⟨{ s with backend := .table (ts.insertRaw "tasks" id (Json.obj ms').render) }, r', ?_,
      sound', Service.changedFields fs changes, ms', ⟨"tasks", id, (Json.obj ms').render⟩, rfl, ?_, rfl,
      set.2 ▸ holds'⟩
    · simp only [Store.update, onBackend]
      rw [Sql.bind_run_ok updated]
      rfl
    · rw [TableStore.findValue?_of_find? (TableStore.findValue?_str found).1, TableStore.find?_insertRaw]

/-- Reading a task a store holds, of its declared types and carried by the codecs, gives a value
equal to it: the task itself from memory, and the task in UTC from a table. -/
theorem read_holds (holds : s.HoldsTask id t) (typed : Typed (cls (.record .task)) t)
    (portable : t.Portable) (sound : r.Sound) :
    ∃ v r', (s.read "tasks" (.str id) (cls (.record .task))).run r = .ok v r' ∧
      (v = t ∨ v = t.toUtc) ∧ v.same t = true ∧ r'.Sound := by
  cases onBackend : s.backend with
  | memory m =>
    simp only [HoldsTask, onBackend] at holds
    refine ⟨t, r, ?_, .inl rfl, portable.same_self, sound⟩
    simp only [Store.read, onBackend, holds]
    rfl
  | table ts =>
    simp only [HoldsTask, onBackend] at holds
    obtain ⟨fs, ms, row, rfl, found, document, holds⟩ := holds
    obtain ⟨r', read, sound'⟩ := TableStore.read_holds found document holds
      (typed.fieldTrips portable) (Service.task_unchecked _) sound
    refine ⟨_, r', ?_, .inr rfl, portable.same_toUtc, sound'⟩
    simp only [Store.read, onBackend]
    exact read

end Store

/-! ## Posting, patching and reading a task -/

namespace Service

open Hint ServiceM

variable {α : Type}

theorem withStore_run_ok {f : Store → CodecM (α × Store)} {w : World} {a : α} {s : Store}
    {r : Registry} (ran : (f w.store).run w.registry = .ok (a, s) r) :
    withStore f w = .ok a { w with registry := r, store := s } := by
  simp only [EStateM.run] at ran
  simp only [withStore, bind, EStateM.bind, get, getThe, MonadStateOf.get, EStateM.get, codec, ran,
    modify, modifyGet, MonadStateOf.modifyGet, EStateM.modifyGet, pure, EStateM.pure]

theorem withStore_ok {f : Store → CodecM (α × Store)} {w w' : World} {a : α}
    (ran : withStore f w = .ok a w') :
    ∃ s r, (f w.store).run w.registry = .ok (a, s) r ∧
      w' = { w with registry := r, store := s } := by
  cases worked : (f w.store).run w.registry with
  | ok p r =>
    obtain ⟨a', s⟩ := p
    rw [withStore_run_ok worked] at ran
    cases ran
    exact ⟨s, r, rfl, rfl⟩
  | error e r =>
    simp only [EStateM.run] at worked
    simp only [withStore, bind, EStateM.bind, get, getThe, MonadStateOf.get, EStateM.get, codec,
      worked] at ran
    cases ran

/-- One store write inside an operation: when the write succeeds, so does the operation, with
the written store and the registry the write leaves. -/
theorem operation_write_ok {w : World} {s : Store} {r : Registry} {write : Store → CodecM Store}
    (name : String) (written : (write w.store).run w.registry = .ok s r) :
    operation name (internal (withStore fun st => do
      let st ← write st
      pure ((), st))) w = .ok () { w with registry := r, store := s } := by
  rw [operation_run, internal_run, withStore_run_ok (by rw [Sql.bind_run_ok written]; rfl)]

theorem operation_congr {act act' : ServiceM α} {w : World} (name : String)
    (same : act w = act' w) : operation name act w = operation name act' w := by
  rw [operation_run, operation_run, same]

/-- A failure before any change leaves the store as it was, logged or not. -/
theorem operation_error_keeps {act : ServiceM α} {w : World} {e : Failure} (name : String)
    (ran : act w = .error e w) : ∃ w', operation name act w = .error e w' ∧ w'.store = w.store := by
  rw [operation_run, ran]
  exact ⟨_, rfl, by split <;> rfl⟩

/-- With an entry for the task, a post is the store's create of the entry's record under its
id. -/
theorem postTask_run {task : Value} {w : World} {id : String} {t : Value}
    (entry : taskEntry task = .ok (.str id, t)) :
    postTask task w = operation "ecomm.fulfillment.TasksResource.post"
      (internal (withStore fun st => do
        let st ← st.create "tasks" (.str id) t
        pure ((), st))) w := by
  rw [postTask]
  apply operation_congr
  rw [saveTask_eq, entry, ServiceM.bind_run_ok (ServiceM.pure?_run_ok _ w)]

/-- A post that succeeds stored the task's record under its id. -/
theorem postTask_stored {task : Value} {w w' : World} {id : String} {t : Value}
    (entry : taskEntry task = .ok (.str id, t)) (ran : postTask task w = .ok () w') :
    ∃ s r, (w.store.create "tasks" (.str id) t).run w.registry = .ok s r ∧
      w' = { w with registry := r, store := s } := by
  rw [postTask_run entry, operation_ok_iff, internal_run] at ran
  split at ran
  · next a w₁ inner =>
    cases ran
    obtain ⟨s, r, made, rfl⟩ := withStore_ok inner
    obtain ⟨s', r', created, stored⟩ := Sql.bind_run_ok_iff.1 made
    cases stored
    exact ⟨_, _, created, rfl⟩
  · cases ran

/-- A post whose create succeeds stores the task. -/
theorem postTask_ok {task : Value} {w : World} {id : String} {t : Value} {s : Store} {r : Registry}
    (entry : taskEntry task = .ok (.str id, t))
    (created : (w.store.create "tasks" (.str id) t).run w.registry = .ok s r) :
    postTask task w = .ok () { w with registry := r, store := s } := by
  rw [postTask_run entry]
  exact operation_write_ok _ created

/-- With a status given and accepted, a patch is the store's update with the patch's changes at
the clock's reading. -/
theorem patchTask_run {id status reason : Value} {s : TaskStatus} {w : World}
    (given : status.isNone = false) (accepted : statusOfValue status = .ok s) :
    patchTask id status reason w = operation "ecomm.fulfillment.TaskResource.patch"
      (internal (withStore fun st => do
        let st ← st.update "tasks" id (patchList status s reason w.utcNow)
        pure ((), st))) w := by
  apply operation_congr
  simp only [given, accepted, Bool.false_eq_true, if_false]
  rw [ServiceM.bind_run_ok (ServiceM.pure?_run_ok s w)]
  rfl

/-- A missing status, or one no task status stands for, fails the patch before the store is
touched. -/
theorem patchTask_refused {id status reason : Value} {w : World}
    (refused : status.isNone = true ∨ ∃ e, statusOfValue status = .error e) :
    ∃ e w', patchTask id status reason w = .error e w' ∧ w'.store = w.store := by
  by_cases absent : status.isNone = true
  · exact ⟨_, operation_error_keeps _ (by simp only [absent, if_true]; rfl)⟩
  · obtain ⟨e, rejected⟩ := refused.resolve_left absent
    refine ⟨e, operation_error_keeps _ ?_⟩
    simp only [absent, rejected, Bool.false_eq_true, if_false]
    rfl

theorem getTask_run {id v : Value} {w : World} {r : Registry}
    (ran : (w.store.read "tasks" id (cls (.record .task))).run w.registry = .ok v r) :
    getTask id w = .ok v { w with registry := r } := by
  have read : (w.store.read Collection.tasks.name id Collection.tasks.hint) w.registry = .ok v r := ran
  rw [getTask, operation_run, internal_run]
  simp only [bind, EStateM.bind, get, getThe, MonadStateOf.get, EStateM.get, codec, read]

/-- A patch with an accepted status and a reason that is none or text JSON carries, at a clock
reading on the calendar, of a task of its declared types that the codecs carry and that the
store holds: the patch succeeds, the store holds the patched task, and reading it back gives the
patched task, in UTC from a table. -/
theorem patch_then_read {w : World} {id : String} {t status reason : Value} {s : TaskStatus}
    (holds : w.store.HoldsTask id t) (typed : Typed (cls (.record .task)) t) (portable : t.Portable)
    (sound : w.registry.Sound) (clock : w.now.asUtc.isSome = true) (given : status.isNone = false)
    (accepted : statusOfValue status = .ok s)
    (reasonOk : reason = .none ∨ ∃ r, reason = .str r ∧ Text.PairsApart r.toList) :
    ∃ st r, patchTask (.str id) status reason w = .ok () { w with registry := r, store := st } ∧
      st.HoldsTask id (patchedTask t status s reason w.utcNow) ∧ r.Sound ∧
      ∃ v r', (st.read "tasks" (.str id) (cls (.record .task))).run r = .ok v r' ∧
        (v = patchedTask t status s reason w.utcNow ∨ v = (patchedTask t status s reason w.utcNow).toUtc) ∧
        v.same (patchedTask t status s reason w.utcNow) = true := by
  obtain ⟨distinct, fits⟩ := patch_changes_fit status s reasonOk (utcNow_portable clock)
  obtain ⟨st, r, updated, sound₁, holds₁⟩ := Store.update_holds holds typed sound distinct fits
  -- the patched task is again of its declared types and carried by the codecs
  obtain ⟨fs, rfl, -, -⟩ := typed.record_inv
  rw [foldl_setField distinct] at holds₁
  rw [← patchList_setField, foldl_setField distinct]
  have typed₁ := typed_changed typed fun ch listed f field named => ((fits ch listed).2.2 f field named).1
  have portable₁ := portable_changed portable task_unchecked fun ch listed => (fits ch listed).2.1
  obtain ⟨v, r', read, exact, same, -⟩ := Store.read_holds holds₁ typed₁ portable₁ sound₁
  refine ⟨st, r, ?_, holds₁, sound₁, v, r', read, exact, same⟩
  rw [patchTask_run given accepted]
  exact operation_write_ok _ updated

/-- A task to be shipped, not yet done, with no reason and the given parameters. -/
def shipTask (parameters : Value) : Value :=
  .record .task [("id", .str "t1"), ("submission_time", .time ⟨DateTime.epochWall, some 0⟩),
    ("completion_time", .none), ("order_id", .str "o1"), ("order_item_id", .none),
    ("product_code", .none), ("task_code", .str "ship"), ("status", .status .waitingTask),
    ("reason_code", .none), ("parameters", parameters)]

/-- The task to be shipped is of its declared types when its parameters are. -/
theorem shipTask_typed {parameters : Value}
    (typed : Typed (optionalOf (listOf (cls (.record .parameter)))) parameters) :
    Typed (cls (.record .task)) (shipTask parameters) := by
  refine .record rfl fun f member x found => ?_
  simp only [RecordClass.fields, RecordClass.req, RecordClass.optStr, List.mem_cons,
    List.not_mem_nil, or_false] at member
  rcases member with rfl | rfl | rfl | rfl | rfl | rfl | rfl | rfl | rfl | rfl <;>
    obtain rfl := Option.some.inj found
  all_goals first
    | exact typed
    | exact .of_kind rfl (by simp)
    | exact .none_member (List.mem_cons_of_mem _ (List.mem_singleton.mpr rfl))

theorem shipTask_portable {parameters : Value} (portable : parameters.Portable) :
    (shipTask parameters).Portable := by
  refine .record rfl fun p member => ?_
  simp only [List.mem_cons, List.not_mem_nil, or_false] at member
  rcases member with rfl | rfl | rfl | rfl | rfl | rfl | rfl | rfl | rfl | rfl
  all_goals first
    | exact portable
    | exact .none
    | exact .status _
    | exact .str (by decide)
    | exact .time rfl rfl

/-- One parameter, `n = 1`. -/
def oneParameter : Value := .record .parameter [("name", .str "n"), ("value", .int 1)]

theorem oneParameter_typed : Typed (cls (.record .parameter)) oneParameter := by
  refine .record rfl fun f member x found => ?_
  simp only [RecordClass.fields, RecordClass.req, List.mem_cons, List.not_mem_nil, or_false] at member
  rcases member with rfl | rfl <;> obtain rfl := Option.some.inj found
  · exact .of_kind rfl (by simp)
  · rw [Hint.scalars_eq]
    exact .member (h := cls .int) (by simp) (.of_kind rfl (by simp))

theorem oneParameter_portable : oneParameter.Portable := by
  refine .record rfl fun p member => ?_
  simp only [List.mem_cons, List.not_mem_nil, or_false] at member
  rcases member with rfl | rfl
  · exact .str (by decide)
  · exact .int (by decide)

/-- Every codec writes the task with a tuple of parameters as the task with their list. -/
theorem shipTask_tuple_written_as_list (xs : List Value) (c : Codec) :
    Codec.encode c (shipTask (.tuple xs)) = Codec.encode c (shipTask (.list xs)) :=
  Codec.encode_record_congr (Codec.encodeFields_congr (by simp [Codec.encode_tuple, Value.isNone])) c

/-- A world with an empty table store and the clock at the epoch in UTC. -/
def tableWorld : World where
  store := { backend := .table {} }
  now := ⟨DateTime.epochWall, some 0⟩

/-- The empty table store adds the task to be shipped, when it is of its declared types and the
codecs carry it. -/
theorem tableWorld_create {parameters : Value} (typed : Typed (cls (.record .task)) (shipTask parameters))
    (portable : (shipTask parameters).Portable) :
    ∃ ts r, (tableWorld.store.create "tasks" (.str "t1") (shipTask parameters)).run tableWorld.registry =
      .ok { backend := .table ts } r := by
  obtain ⟨ts, r, made⟩ : ∃ ts r, (({} : TableStore).create "tasks" (.str "t1")
      (shipTask parameters)).run {} = .ok ts r :=
    TableStore.create_run rfl rfl (typed.fieldTrips portable) Registry.sound_empty
  refine ⟨ts, r, ?_⟩
  simp only [tableWorld, Store.create]
  rw [Sql.bind_run_ok made]
  rfl

end Service

end Storefront
