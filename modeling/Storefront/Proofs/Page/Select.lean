import Storefront.Proofs.Page.Order
import Storefront.Proofs.Sort.Whole
import Storefront.Page.Fetch
import Mathlib.Data.List.Sort

/-!
# What a listing selects

A listing asks its store for the records that pass the filters, sorted by key, strictly after
the position it resumes from, and at most a page of them. Here the query `buildQuery` makes is
computed, and the memory store's answer to it is shown to be the first records of the sorted
listing past the position, for a collection whose records carry aware timestamps and distinct
id texts. The order used is `Collection.keyOf`; which records pass is `Collection.admits`.
-/

namespace Storefront

namespace Collection

/-- The key a collection lists a record by: the UTC wall clock of its timestamp and its id. -/
def keyOf (c : Collection) (r : Value) : ListingKey where
  instant := match r.atPath c.timestamp with
    | .time t => t.utcWall
    | _ => 0
  id := match r.atPath c.id with
    | .str x => x
    | _ => ""

/-- A record a collection can list: an aware timestamp and an id text. -/
def Listable (c : Collection) (r : Value) : Prop :=
  ∃ t x, r.atPath c.timestamp = .time t ∧ t.offset.isSome ∧ r.atPath c.id = .str x

end Collection

/-- A time bound among the filters, none when absent. -/
def timeBound (filters : List (String × Value)) (name : String) : Value :=
  (Value.lookup filters name).getD .none

/-- A time bound a listing can read in UTC: absent, or a timestamp whose UTC reading is on the
calendar. -/
def BoundReadable (v : Value) : Prop :=
  v = .none ∨ ∃ t u, v = .time t ∧ t.asUtc = some u

/-- An equality filter passes a record when its value is not truthy, or when the record has the
field, not none, and it equals the value. -/
def equalityAdmits (filters : List (String × Value)) (r : Value) (e : String × String) : Bool :=
  match Value.lookup filters e.1 with
  | some v => !v.truthy || (!(r.atPath e.2).isNone && (r.atPath e.2).same v)
  | none => true

namespace Collection

/-- The records a listing keeps: every equality filter passes them, and their timestamp is at
or after the start and before the end, as instants. -/
def admits (c : Collection) (filters : List (String × Value)) (r : Value) : Bool :=
  c.equality.all (equalityAdmits filters r) &&
    (match timeBound filters "start_time" with
      | .time t => decide (t.utcWall ≤ (c.keyOf r).instant)
      | _ => true) &&
    (match timeBound filters "end_time" with
      | .time t => decide ((c.keyOf r).instant < t.utcWall)
      | _ => true)

end Collection

/-- Whether an instant is on the side of a time bound an operator asks for; an absent bound
passes every instant. -/
def boundAdmits (op : CmpOp) (instant : Int) : Value → Bool
  | .time t => op.holds (compare instant t.utcWall)
  | _ => true

/-- The predicate an equality filter asks for, when its value is truthy. -/
def equalityPredicate? (filters : List (String × Value)) (e : String × String) :
    Option Predicate :=
  match Value.lookup filters e.1 with
  | some v => if v.truthy then some ⟨.str e.2, .eq, v⟩ else none
  | none => none

/-- The predicate a time bound asks for: the bound in UTC against the record's timestamp. -/
def boundPredicate? (c : Collection) (op : CmpOp) (v : Value) : Option Predicate :=
  match v with
  | .time t => t.asUtc.map fun u => ⟨.str c.timestamp, op, .time u⟩
  | _ => none

/-- The wall clock of UTC a page token resumes from: its nanoseconds cut to microseconds. -/
def Cursor.resumeWall (cur : Cursor) : Int := DateTime.epochWall + Int.fdiv cur.timestamp 1000

/-- The values a page token resumes after, as the query holds them. -/
def Cursor.resumeValues (cur : Cursor) : List Value :=
  [.time ⟨cur.resumeWall, some 0⟩, .str cur.id]

/-- The query a listing asks of its store. -/
def listingQuery (c : Collection) (filters : List (String × Value)) (position : Option Cursor)
    (k : Int) : Query where
  collection := c.name
  predicates := c.equality.filterMap (equalityPredicate? filters) ++
    (boundPredicate? c .ge (timeBound filters "start_time")).toList ++
    (boundPredicate? c .lt (timeBound filters "end_time")).toList
  orderBy := [.str c.timestamp, .str c.id]
  startAfter := position.map Cursor.resumeValues
  limit := some (.int k)
  stage := Clause.limit.rank

@[simp] theorem except_pure_eq_ok {ε α : Type} (a : α) : (pure a : Except ε α) = .ok a := rfl

@[simp] theorem except_throw_eq_error {ε α : Type} (e : ε) :
    (throw e : Except ε α) = .error e := rfl

@[simp] theorem except_error_bind {ε α β : Type} (e : ε) (f : α → Except ε β) :
    (Except.error e >>= f) = .error e := rfl

@[simp] theorem except_ok_bind {ε α β : Type} (a : α) (f : α → Except ε β) :
    (Except.ok a >>= f) = f a := rfl

/-- The records a listing resumes with: all at first, then those whose key comes after the
position of the page token. -/
def resumesPast (c : Collection) (position : Option Cursor) (r : Value) : Bool :=
  match position with
  | none => true
  | some cur => ListingKey.before ⟨cur.resumeWall, cur.id⟩ (c.keyOf r)

/-- The tuple the store sorts a record of a listing by. -/
def keyTuple (c : Collection) (r : Value) : Value := .tuple [r.atPath c.timestamp, r.atPath c.id]

section Build

variable {c : Collection} {filters : List (String × Value)}

theorem filter_equality (q : Query) (path : String) (v : Value) (fresh : q.stage = 0) :
    q.filter (.str path) (.str "==") v =
      .ok { q with predicates := q.predicates ++ [⟨.str path, .eq, v⟩] } := by
  cases q
  subst fresh
  rfl

theorem equalityStep_eq (q : Query) (fresh : q.stage = 0) (e : String × String) :
    equalityStep filters q e =
      .ok { q with predicates := q.predicates ++ (equalityPredicate? filters e).toList } := by
  unfold equalityStep equalityPredicate?
  cases Value.lookup filters e.1 with
  | none => simp
  | some v =>
    by_cases truthy : v.truthy
    · simp [truthy, filter_equality q e.2 v fresh]
    · simp [truthy]

theorem equalityStage_eq (q : Query) (fresh : q.stage = 0) :
    equalityStage c filters q =
      .ok { q with predicates := q.predicates ++ c.equality.filterMap (equalityPredicate? filters) } := by
  unfold equalityStage
  generalize c.equality = es
  induction es generalizing q with
  | nil => simp
  | cons e es ih =>
    rw [List.foldlM_cons, equalityStep_eq q fresh e, except_ok_bind]
    have rest := ih { q with predicates := q.predicates ++ (equalityPredicate? filters e).toList } fresh
    rw [rest]
    cases found : equalityPredicate? filters e <;> simp [found]

/-- A time bound adds its predicate, if any, in the range stage. -/
theorem rangeStep_eq (q : Query) {v : Value} (readable : BoundReadable v) (symbol : String)
    {op : CmpOp} (named : CmpOp.ofSymbol? symbol = some op) (range : op ≠ .eq)
    (early : q.stage ≤ 1) :
    (if v.isNone then pure q else do q.filter (.str c.timestamp) (.str symbol) (← v.inUtc)) =
      Except.ok { q with
        predicates := q.predicates ++ (boundPredicate? c op v).toList
        stage := if v.isNone then q.stage else Clause.range.rank } := by
  rcases readable with rfl | ⟨t, u, rfl, utc⟩
  · simp [boundPredicate?, Value.isNone]
  · have notFirst : ¬ (Clause.range.rank < q.stage) := by simp [Clause.rank]; omega
    simp [Value.isNone, Value.inUtc, utc, Query.filter, Predicate.make, named, range,
      Query.advance, notFirst, boundPredicate?]

theorem timeRangeStage_eq (q : Query) (fresh : q.stage = 0)
    (startReadable : BoundReadable (timeBound filters "start_time"))
    (stopReadable : BoundReadable (timeBound filters "end_time")) :
    ∃ n ≤ 1, timeRangeStage c filters q = .ok { q with
      predicates := q.predicates ++ (boundPredicate? c .ge (timeBound filters "start_time")).toList ++
        (boundPredicate? c .lt (timeBound filters "end_time")).toList
      stage := n } := by
  unfold timeRangeStage
  dsimp only
  simp only [← bind_assoc, Sorting.ite_bind_same]
  rw [rangeStep_eq (c := c) (v := (Value.lookup filters "start_time").getD .none) q startReadable ">=" rfl (by decide) (by omega), except_ok_bind]
  rw [rangeStep_eq (c := c) (v := (Value.lookup filters "end_time").getD .none) _ stopReadable "<" rfl (by decide) (by split <;> simp [fresh, Clause.rank])]
  refine ⟨_, ?_, rfl⟩
  split
  · split <;> simp [fresh, Clause.rank]
  · simp [Clause.rank]

theorem Value.test_int (op : CmpOp) (a b : Int) :
    Value.test op (.int a) (.int b) = some (op.holds (compare a b)) := by
  cases op <;> simp [Value.test, Value.same, Value.num?, Num.holds, Num.order?]

theorem fromNanos_int {n : Int} (onCalendar : DateTime.inRange (DateTime.epochWall + Int.fdiv n 1000)) :
    Value.fromNanos (.int n) = .ok ⟨DateTime.epochWall + Int.fdiv n 1000, some 0⟩ := by
  simp [Value.fromNanos, intOf?, onCalendar]

/-- The query of a listing: its filters' predicates, the order by timestamp and id, the
position it resumes after, and the page size. -/
theorem buildQuery_eq (startReadable : BoundReadable (timeBound filters "start_time"))
    (stopReadable : BoundReadable (timeBound filters "end_time")) (position : Option Cursor)
    (onCalendar : ∀ cur ∈ position, DateTime.inRange cur.resumeWall) {k : Int} (positive : 1 ≤ k) :
    buildQuery c filters (position.map Cursor.position) (.int k) =
      .ok (listingQuery c filters position k) := by
  unfold buildQuery
  rw [equalityStage_eq { collection := c.name } rfl, except_ok_bind]
  obtain ⟨n, early, ranged⟩ := @timeRangeStage_eq c filters
    { collection := c.name, predicates := [] ++ c.equality.filterMap (equalityPredicate? filters) }
    rfl startReadable stopReadable
  rw [ranged, except_ok_bind]
  have inOrder : ¬ 2 < n := by omega
  have atLeastOne : CmpOp.lt.holds (compare k 1) = false := by
    simp [CmpOp.holds, Int.compare_eq_lt]
    omega
  cases position with
  | none =>
    simp [Query.orderedBy, Query.advance, Query.limited, Clause.rank, Value.test_int, inOrder,
      atLeastOne, listingQuery]
  | some cur =>
    have resumes := fromNanos_int (onCalendar cur rfl)
    simp [Query.orderedBy, Query.advance, Query.after, Query.limited, Clause.rank, Value.test_int,
      inOrder, atLeastOne, listingQuery, Cursor.position, Position.resumeValues, resumes]
    rfl

/-- A time bound that is a timestamp off the calendar in UTC cannot be read. -/
theorem inUtc_unreadable {v : Value} (domain : v = .none ∨ ∃ t, v = .time t)
    (unreadable : ¬ BoundReadable v) : v.isNone = false ∧ ∃ e, v.inUtc = .error e := by
  rcases domain with rfl | ⟨t, rfl⟩
  · exact absurd (.inl rfl) unreadable
  · cases utc : t.asUtc with
    | none => exact ⟨rfl, .runtime .overflowError, by simp [Value.inUtc, utc]⟩
    | some u => exact absurd (.inr ⟨t, u, rfl, utc⟩) unreadable

theorem timeRangeStage_unreadable (q : Query) (fresh : q.stage = 0)
    (startDomain : timeBound filters "start_time" = .none ∨ ∃ t, timeBound filters "start_time" = .time t)
    (stopDomain : timeBound filters "end_time" = .none ∨ ∃ t, timeBound filters "end_time" = .time t)
    (unreadable : ¬ (BoundReadable (timeBound filters "start_time") ∧
      BoundReadable (timeBound filters "end_time"))) :
    ∃ e, timeRangeStage c filters q = .error e := by
  unfold timeRangeStage
  dsimp only
  simp only [← bind_assoc, Sorting.ite_bind_same]
  by_cases startReadable : BoundReadable (timeBound filters "start_time")
  · have stopUnreadable : ¬ BoundReadable (timeBound filters "end_time") :=
      fun stopReadable => unreadable ⟨startReadable, stopReadable⟩
    obtain ⟨notNone, e, failed⟩ := inUtc_unreadable stopDomain stopUnreadable
    rw [rangeStep_eq (c := c) (v := (Value.lookup filters "start_time").getD .none) q
      startReadable ">=" rfl (by decide) (by omega), except_ok_bind]
    exact ⟨e, by simp [timeBound] at notNone failed; simp [notNone, failed]⟩
  · obtain ⟨notNone, e, failed⟩ := inUtc_unreadable startDomain startReadable
    exact ⟨e, by simp [timeBound] at notNone failed; simp [notNone, failed]⟩

/-- A listing whose time bounds cannot be read in UTC builds no query. -/
theorem buildQuery_unreadable
    (startDomain : timeBound filters "start_time" = .none ∨ ∃ t, timeBound filters "start_time" = .time t)
    (stopDomain : timeBound filters "end_time" = .none ∨ ∃ t, timeBound filters "end_time" = .time t)
    (unreadable : ¬ (BoundReadable (timeBound filters "start_time") ∧
      BoundReadable (timeBound filters "end_time")))
    (position : Option Position) (size : Value) :
    ∃ e, buildQuery c filters position size = .error e := by
  obtain ⟨e, failed⟩ := timeRangeStage_unreadable (c := c)
    { collection := c.name, predicates := [] ++ c.equality.filterMap (equalityPredicate? filters) }
    rfl startDomain stopDomain unreadable
  refine ⟨e, ?_⟩
  unfold buildQuery
  rw [equalityStage_eq { collection := c.name } rfl, except_ok_bind, failed, except_error_bind]

end Build

section Match

variable {c : Collection} {filters : List (String × Value)}

theorem DateTime.asUtc_eq_some_iff {t u : DateTime} :
    t.asUtc = some u ↔ DateTime.inRange t.utcWall ∧ u = ⟨t.utcWall, some 0⟩ := by
  unfold DateTime.asUtc
  dsimp only
  split
  · rename_i onCalendar
    simp only [Option.some.injEq, onCalendar, true_and]
    exact eq_comm
  · rename_i offCalendar
    simp [offCalendar]

theorem Collection.keyOf_eq {r : Value} {t : DateTime} {x : String}
    (time : r.atPath c.timestamp = .time t) (id : r.atPath c.id = .str x) :
    c.keyOf r = ⟨t.utcWall, x⟩ := by
  simp [Collection.keyOf, time, id]

theorem CmpOp.lt_holds_compare (a b : Int) : CmpOp.lt.holds (compare a b) = decide (a < b) := by
  by_cases less : a < b
  · simp [CmpOp.holds, Int.compare_eq_lt.mpr less, less]
  · have notLt : compare a b ≠ .lt := fun h => less (Int.compare_eq_lt.mp h)
    simp [CmpOp.holds, notLt, less]

theorem CmpOp.ge_holds_compare (a b : Int) : CmpOp.ge.holds (compare a b) = decide (b ≤ a) := by
  have lt := CmpOp.lt_holds_compare a b
  simp only [CmpOp.holds] at lt ⊢
  rw [bne, lt]
  by_cases less : a < b <;> simp [less]
  omega

theorem holds_equality (r : Value) (path : String) (v : Value) :
    MemoryStore.holds r ⟨.str path, .eq, v⟩ =
      .ok (!(r.atPath path).isNone && (r.atPath path).same v) := by
  cases absent : (r.atPath path).isNone <;>
    simp [MemoryStore.holds, Value.atValuePath, MemoryStore.compare, Value.test, absent]

theorem holds_bound {r : Value} (listable : c.Listable r) {op : CmpOp} (range : op ≠ .eq)
    {u : DateTime} (aware : u.offset = some 0) :
    MemoryStore.holds r ⟨.str c.timestamp, op, .time u⟩ =
      .ok (op.holds (compare (c.keyOf r).instant u.utcWall)) := by
  obtain ⟨t, x, time, tAware, id⟩ := listable
  rw [Collection.keyOf_eq time id]
  obtain ⟨o, offset⟩ := Option.isSome_iff_exists.mp tAware
  cases op <;> first
    | exact absurd rfl range
    | simp [MemoryStore.holds, Value.atValuePath, MemoryStore.compare, Value.test, Value.isNone,
        DateTime.comparable, DateTime.cmp, time, offset, aware]

theorem matchesAll_single {r : Value} {p : Predicate} {h : Bool}
    (held : MemoryStore.holds r p = .ok h) : MemoryStore.matchesAll r [p] = .ok h := by
  cases h <;> simp [MemoryStore.matchesAll, held]

theorem matchesAll_append {r : Value} {ps qs : List Predicate} {a b : Bool}
    (first : MemoryStore.matchesAll r ps = .ok a) (second : MemoryStore.matchesAll r qs = .ok b) :
    MemoryStore.matchesAll r (ps ++ qs) = .ok (a && b) := by
  induction ps generalizing a with
  | nil =>
    cases first
    simpa using second
  | cons p ps ih =>
    simp only [List.cons_append, MemoryStore.matchesAll] at first ⊢
    cases held : MemoryStore.holds r p with
    | error e => simp [held] at first
    | ok h =>
      cases h
      · simp only [held, except_ok_bind, Bool.false_eq_true, if_false] at first ⊢
        cases first
        rfl
      · simp only [held, except_ok_bind, if_true] at first ⊢
        exact ih first

theorem matchesAll_equality (r : Value) (e : String × String) :
    MemoryStore.matchesAll r (equalityPredicate? filters e).toList =
      .ok (equalityAdmits filters r e) := by
  unfold equalityPredicate? equalityAdmits
  cases Value.lookup filters e.1 with
  | none => rfl
  | some v =>
    by_cases truthy : v.truthy
    · simpa [truthy] using matchesAll_single (holds_equality r e.2 v)
    · simp [truthy]
      rfl

theorem matchesAll_equalities (r : Value) :
    ∀ es : List (String × String), MemoryStore.matchesAll r (es.filterMap (equalityPredicate? filters)) =
      .ok (es.all (equalityAdmits filters r))
  | [] => rfl
  | e :: es => by
    have rest := matchesAll_equalities r es
    have both := matchesAll_append (@matchesAll_equality filters r e) rest
    cases found : equalityPredicate? filters e <;> simpa [found, List.filterMap_cons] using both

theorem matchesAll_bound {r : Value} (listable : c.Listable r) (op : CmpOp) (range : op ≠ .eq)
    {v : Value} (readable : BoundReadable v) :
    MemoryStore.matchesAll r (boundPredicate? c op v).toList =
      .ok (boundAdmits op (c.keyOf r).instant v) := by
  rcases readable with rfl | ⟨t, u, rfl, utc⟩
  · rfl
  · have inUtc := (DateTime.asUtc_eq_some_iff.1 utc).2
    have held := holds_bound listable range (u := u) (by rw [inUtc])
    simp only [boundPredicate?, utc, Option.map_some, Option.toList_some]
    rw [matchesAll_single held, inUtc]
    simp [DateTime.utcWall, boundAdmits]

/-- A listable record passes the listing's predicates exactly when the filters admit it. -/
theorem matchesAll_listing {r : Value} (listable : c.Listable r)
    (startReadable : BoundReadable (timeBound filters "start_time"))
    (stopReadable : BoundReadable (timeBound filters "end_time")) (position : Option Cursor)
    (k : Int) :
    MemoryStore.matchesAll r (listingQuery c filters position k).predicates =
      .ok (c.admits filters r) := by
  have equalities := @matchesAll_equalities filters r c.equality
  have start := matchesAll_bound listable .ge (by decide) startReadable
  have stop := matchesAll_bound listable .lt (by decide) stopReadable
  rw [listingQuery, matchesAll_append (matchesAll_append equalities start) stop, Collection.admits]
  congr 2
  · rcases startReadable with bound | ⟨t, u, bound, -⟩ <;>
      simp [bound, boundAdmits, CmpOp.ge_holds_compare]
  · rcases stopReadable with bound | ⟨t, u, bound, -⟩ <;>
      simp [bound, boundAdmits, CmpOp.lt_holds_compare]

end Match

section Answer

variable {c : Collection} {filters : List (String × Value)}

theorem filterAuxM_ok {ε α : Type} (p : α → Except ε Bool) (f : α → Bool) :
    ∀ (l acc : List α), (∀ x ∈ l, p x = .ok (f x)) →
      List.filterAuxM p l acc = .ok ((l.filter f).reverse ++ acc)
  | [], acc, _ => rfl
  | x :: l, acc, decided => by
    simp only [List.filterAuxM, decided x (by simp), except_ok_bind]
    rw [filterAuxM_ok p f l _ (fun y mem => decided y (List.mem_cons_of_mem x mem))]
    cases fx : f x <;> simp [fx]

theorem filterM_ok {ε α : Type} {p : α → Except ε Bool} (f : α → Bool) {l : List α}
    (decided : ∀ x ∈ l, p x = .ok (f x)) : l.filterM p = .ok (l.filter f) := by
  rw [List.filterM, filterAuxM_ok p f l [] decided]
  simp

theorem sortKey_listing (r : Value) :
    MemoryStore.sortKey [.str c.timestamp, .str c.id] r = .ok (keyTuple c r) := rfl

/-- The store's test on the key tuples of two listable records is the order of their keys. -/
theorem compare_keyTuple {op : CmpOp} (range : op ≠ .eq) {r r' : Value} (listable : c.Listable r)
    (listable' : c.Listable r') :
    MemoryStore.compare op (keyTuple c r) (keyTuple c r') =
      .ok (op.holds ((c.keyOf r).order (c.keyOf r'))) := by
  obtain ⟨t, x, time, aware, id⟩ := listable
  obtain ⟨t', x', time', aware', id'⟩ := listable'
  simp [MemoryStore.compare, keyTuple, time, id, time', id', Value.test_time_id range aware aware',
    Collection.keyOf_eq time id, Collection.keyOf_eq time' id']

theorem compare_resume {cur : Cursor} {r : Value} (listable : c.Listable r) :
    MemoryStore.compare .gt (keyTuple c r) (.tuple cur.resumeValues) =
      .ok (resumesPast c (some cur) r) := by
  obtain ⟨t, x, time, aware, id⟩ := listable
  have resumeAware : (DateTime.mk cur.resumeWall (some 0)).offset.isSome := rfl
  simp [MemoryStore.compare, keyTuple, time, id, Cursor.resumeValues, resumesPast,
    Value.test_time_id (by decide : CmpOp.gt ≠ .eq) aware resumeAware, ListingKey.gt_holds_order,
    Collection.keyOf_eq time id, DateTime.utcWall]

/-- The memory store answers a listing query with the first records, up to the page size, of
the sorted listing past the page token's position. -/
theorem select_listing {m : MemoryStore}
    (listable : ∀ r ∈ (m.records c.name).map (·.2), c.Listable r)
    (startReadable : BoundReadable (timeBound filters "start_time"))
    (stopReadable : BoundReadable (timeBound filters "end_time")) (position : Option Cursor)
    (k : Int) {S : List Value}
    (perm : S.Perm (((m.records c.name).map (·.2)).filter (c.admits filters)))
    (ascending : S.Pairwise fun a b => (c.keyOf a).before (c.keyOf b)) :
    m.select (listingQuery c filters position k) =
      .ok ((S.filter (resumesPast c position)).take k.toNat) := by
  generalize admitted : ((m.records c.name).map (·.2)).filter (c.admits filters) = M at perm
  have matched : ((m.records (listingQuery c filters position k).collection).map (·.2)).filterM
      (fun r => MemoryStore.matchesAll r (listingQuery c filters position k).predicates) = .ok M := by
    rw [← admitted]
    exact filterM_ok _ fun r mem => matchesAll_listing (listable r mem) startReadable stopReadable
      position k
  have listableM : ∀ r ∈ M, c.Listable r := by
    rw [← admitted]
    exact fun r mem => listable r (List.mem_of_mem_filter mem)
  -- the store sorts the records paired with their key tuples
  have keyed : ∀ e ∈ M.map (fun r => (keyTuple c r, r)), e.1 = keyTuple c e.2 ∧ c.Listable e.2 := by
    intro e mem
    obtain ⟨r, inM, rfl⟩ := List.mem_map.mp mem
    exact ⟨rfl, listableM r inM⟩
  have decides : Sorting.Decides (fun a b => MemoryStore.compare .lt a.1 b.1)
      (fun a b => (c.keyOf a.2).before (c.keyOf b.2)) (· ∈ M.map fun r => (keyTuple c r, r)) := by
    intro a b memA memB
    obtain ⟨keyA, listableA⟩ := keyed a memA
    obtain ⟨keyB, listableB⟩ := keyed b memB
    show MemoryStore.compare .lt a.1 b.1 = pure ((c.keyOf a.2).before (c.keyOf b.2))
    rw [keyA, keyB, compare_keyTuple (by decide) listableA listableB, ListingKey.lt_holds_order]
    rfl
  obtain ⟨ys, sorts, permYs, sortedYs⟩ :=
    Sorting.sortBy_sorted (ListingKey.strictWeakOrder_comap fun e : Value × Value => c.keyOf e.2)
      decides
  have inYs : ∀ e ∈ ys, e.1 = keyTuple c e.2 ∧ c.Listable e.2 :=
    fun e mem => keyed e (permYs.subset mem)
  -- sorted records of distinct keys are the one ascending order of them
  have permS : (ys.map (·.2)).Perm S := by
    have := permYs.map (·.2)
    simp only [List.map_map, Function.comp_def, List.map_id'] at this
    exact this.trans perm.symm
  have distinct : ((ys.map (·.2)).map c.keyOf).Nodup :=
    (permS.map c.keyOf).nodup_iff.mpr (List.pairwise_map.mpr (ascending.imp fun earlier same =>
      by rw [same, ListingKey.before_self] at earlier; cases earlier))
  have ysIsS : ys.map (·.2) = S :=
    permS.eq_of_pairwise (fun a b _ _ ab ba => by
      have := ListingKey.before_trans ab ba
      rw [ListingKey.before_self] at this
      cases this) (List.pairwise_map.mpr (ListingKey.ascending_of_sorted sortedYs
        (by simpa [List.map_map, Function.comp_def] using distinct))) ascending
  unfold MemoryStore.select
  rw [matched, except_ok_bind]
  dsimp only [listingQuery]
  simp only [List.isEmpty_cons, Bool.false_eq_true, if_false]
  have keyedM : M.mapM (fun r => do
      let key ← MemoryStore.sortKey [.str c.timestamp, .str c.id] r
      pure (key, r)) = .ok (M.map fun r => (keyTuple c r, r)) := by
    simp only [sortKey_listing, except_ok_bind]
    exact List.mapM_pure
  rw [keyedM, except_ok_bind, sorts, pure_bind, ← ysIsS]
  cases position with
  | none =>
    have everything : resumesPast c none = fun _ => true := rfl
    simp [intOf?, everything]
  | some cur =>
    have resumed := filterM_ok
      (p := fun e : Value × Value => MemoryStore.compare .gt e.1 (.tuple cur.resumeValues))
      (fun e : Value × Value => resumesPast c (some cur) e.2) fun e mem => by
        obtain ⟨key, listableE⟩ := inYs e mem
        rw [key, compare_resume listableE]
    simp [resumed, intOf?, List.filter_map, Function.comp_def]

end Answer

end Storefront
