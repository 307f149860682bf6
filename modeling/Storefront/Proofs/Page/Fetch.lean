import Storefront.Proofs.Page.Select
import Storefront.Proofs.Page.Token
import Storefront.Proofs.Time.Nanos
import Mathlib

/-!
# One page of a listing

A page of a listing held by the memory store, fetched in the service's world: the page size the
request is given, the records left past the page token, and the page served from them, with
the token of its last record when it is full. Fetching leaves the store's records as they are
and its instruction for the next query normal.
-/

namespace Storefront

namespace ServiceM

variable {α β : Type}

theorem bind_run_ok {x : ServiceM α} {f : α → ServiceM β} {w w' : World} {a : α}
    (ran : x w = .ok a w') : (x >>= f) w = f a w' := by
  show EStateM.bind x f w = _
  simp only [EStateM.bind, ran]

theorem bind_run_error {x : ServiceM α} {f : α → ServiceM β} {w w' : World} {e : Failure}
    (ran : x w = .error e w') : (x >>= f) w = .error e w' := by
  show EStateM.bind x f w = _
  simp only [EStateM.bind, ran]

theorem pure?_run_ok (a : α) (w : World) : ServiceM.pure? (.ok a) w = .ok a w := rfl

theorem pure?_run_error (e : Failure) (w : World) :
    (ServiceM.pure? (.error e) : ServiceM α) w = .error e w := rfl

theorem log_run (ns : List Note) (w : World) :
    ServiceM.log ns w = .ok () { w with notes := w.notes ++ ns } := rfl

theorem withStore_run {f : Store → CodecM (α × Store)} {w : World} {a : α} {s : Store}
    (ran : f w.store w.registry = .ok (a, s) w.registry) :
    ServiceM.withStore f w = .ok a { w with store := s } := by
  simp only [ServiceM.withStore, bind, EStateM.bind, get, getThe, MonadStateOf.get, EStateM.get,
    ServiceM.codec, ran, modify, modifyGet, MonadStateOf.modifyGet, EStateM.modifyGet, pure,
    EStateM.pure]

end ServiceM

/-- A store in memory, told nothing for its next query. -/
def Store.Plain (s : Store) (m : MemoryStore) : Prop := s.backend = .memory m ∧ s.next = .normal

theorem Store.query_plain {s : Store} {m : MemoryStore} (plain : s.Plain m) (q : Query) (h : Hint)
    (registry : Registry) :
    s.query q h registry =
      .ok (⟨false, false, m.query q⟩, { s with next := .normal, closed := s.closed + 1 }) registry := by
  simp only [Store.query, plain.1, plain.2]
  rfl

/-- The page size a request is given: the default for a missing request or one below one, the
maximum for one above it, and the request otherwise. -/
def pageSize (limit : Value) (default maximum : Int) : Int :=
  match limit with
  | .int k => if k < 1 then default else if maximum < k then maximum else k
  | _ => default

theorem CmpOp.gt_holds_compare (a b : Int) : CmpOp.gt.holds (compare a b) = decide (b < a) := by
  by_cases greater : b < a
  · simp [CmpOp.holds, Int.compare_eq_gt.mpr greater, greater]
  · have notGt : compare a b ≠ .gt := fun h => greater (Int.compare_eq_gt.mp h)
    simp [CmpOp.holds, notGt, greater]

theorem clampPageSize_eq {limit : Value} (request : limit = .none ∨ ∃ k : Int, limit = .int k)
    {d M : Int} :
    ∃ notes, clampPageSize limit (.int d) (.int M) = .ok (.int (pageSize limit d M), notes) := by
  rcases request with rfl | ⟨k, rfl⟩
  · simp [clampPageSize, Value.isNone, pageSize]
  · have lowTest := Value.test_int .lt k 1
    have highTest := Value.test_int .gt k M
    rw [CmpOp.lt_holds_compare] at lowTest
    rw [CmpOp.gt_holds_compare] at highTest
    by_cases low : k < 1 <;> by_cases high : M < k <;>
      simp [clampPageSize, compareValues, Value.isNone, lowTest, highTest, low, high, pageSize]

/-- The page served from the records left past a page token: up to `s` of them, and when there
are `s`, the token of the last one. -/
def servedPage (c : Collection) (s : Nat) (rest : List Value) : ServiceM Page :=
  if rest.length < s then pure ⟨rest, none⟩
  else do
    let last ← ServiceM.pure? (recordCursor c (rest.getD (s - 1) .none))
    pure ⟨rest.take s, some last.token⟩

theorem servedPage_short {c : Collection} {s : Nat} {rest : List Value} (short : rest.length < s)
    (w : World) : servedPage c s rest w = .ok ⟨rest, none⟩ w := by
  simp only [servedPage, short, if_true]
  rfl

theorem servedPage_full {c : Collection} {s : Nat} {rest : List Value}
    (full : ¬ rest.length < s) (w : World) :
    servedPage c s rest w = match recordCursor c (rest.getD (s - 1) .none) with
      | .ok cur => .ok ⟨rest.take s, some cur.token⟩ w
      | .error e => .error e w := by
  simp only [servedPage, full, if_false]
  cases recordCursor c (rest.getD (s - 1) .none) <;> rfl

/-- The world after a query of a plain store: the store counts it and is told nothing. -/
def World.queried (w : World) : World :=
  { w with store := { w.store with next := .normal, closed := w.store.closed + 1 } }

theorem World.queried_plain {w : World} {m : MemoryStore} (plain : w.store.Plain m) :
    w.queried.store.Plain m := ⟨plain.1, rfl⟩

theorem getLast?_take_full {rest : List Value} {s : Nat} (positive : 0 < s)
    (full : s ≤ rest.length) : (rest.take s).getLast? = some (rest.getD (s - 1) .none) := by
  rw [List.getLast?_eq_getElem?, List.length_take, Nat.min_eq_left full, List.getElem?_take]
  simp [show s - 1 < s by omega, List.getD_eq_getElem?_getD, List.getElem?_eq_getElem (show s - 1 < rest.length by omega)]

/-- A page query to a plain store serves the page of the records it selects. -/
theorem execute_plain {w : World} {m : MemoryStore} (plain : w.store.Plain m) {q : Query}
    {k : Int} (positive : 1 ≤ k) (limited : q.limit = some (.int k)) {rest : List Value}
    (selects : m.select q = .ok (rest.take k.toNat)) (c : Collection) (h : Hint)
    (operation timeout : Value) :
    execute q h c operation timeout w = servedPage c k.toNat rest w.queried := by
  unfold execute
  rw [ServiceM.bind_run_ok (ServiceM.withStore_run (Store.query_plain plain q h w.registry))]
  unfold servedPage
  by_cases short : rest.length < k.toNat
  · rw [List.take_of_length_le (by omega)] at selects
    have notFull := Value.test_int .ge rest.length k
    rw [CmpOp.ge_holds_compare, decide_eq_false (by omega)] at notFull
    simp [MemoryStore.query, selects, limited, notFull, short]
    rfl
  · have length : (rest.take k.toNat).length = k.toNat := List.length_take_of_le (by omega)
    have last := getLast?_take_full (show 0 < k.toNat by omega) (by omega : k.toNat ≤ rest.length)
    generalize rest.take k.toNat = items at selects length last ⊢
    have full := Value.test_int .ge items.length k
    rw [CmpOp.ge_holds_compare, decide_eq_true (by omega)] at full
    simp only [MemoryStore.query, selects, limited, full, last, short, if_false, Bool.false_and,
      Bool.or_self, Bool.false_eq_true]
    rfl

theorem pageSize_pos (limit : Value) {d M : Int} (positive : 1 ≤ d) (bounded : d ≤ M) :
    1 ≤ pageSize limit d M := by
  unfold pageSize
  split
  · split
    · exact positive
    · split <;> omega
  · exact positive

section Fetch

variable {c : Collection} {filters : List (String × Value)}

/-- Fetching a page of a listing kept by a plain memory store serves the page of the sorted
records past the page token; the store stays plain. -/
theorem fetchPage_plain {w : World} {m : MemoryStore} (plain : w.store.Plain m)
    (listable : ∀ r ∈ (m.records c.name).map (·.2), c.Listable r)
    (startReadable : BoundReadable (timeBound filters "start_time"))
    (stopReadable : BoundReadable (timeBound filters "end_time")) {limit : Value}
    (request : limit = .none ∨ ∃ k : Int, limit = .int k) {d M : Int} (positive : 1 ≤ d)
    (bounded : d ≤ M) {token : Value} {position : Option Cursor}
    (reads : positionOfToken token = .ok position)
    (onCalendar : ∀ cur ∈ position, DateTime.inRange cur.resumeWall) {S : List Value}
    (perm : S.Perm (((m.records c.name).map (·.2)).filter (c.admits filters)))
    (ascending : S.Pairwise fun a b => (c.keyOf a).before (c.keyOf b)) (operation timeout : Value) :
    ∃ w', w'.store.Plain m ∧ fetchPage c filters limit token operation (.int d) (.int M) timeout w =
      servedPage c (pageSize limit d M).toNat (S.filter (resumesPast c position)) w' := by
  obtain ⟨notes, clamp⟩ := clampPageSize_eq (d := d) (M := M) request
  have sized := pageSize_pos limit positive bounded
  refine ⟨{ w with notes := w.notes ++ notes }.queried, ⟨plain.1, rfl⟩, ?_⟩
  unfold fetchPage
  rw [clamp, ServiceM.bind_run_ok (ServiceM.pure?_run_ok _ _)]
  dsimp only
  rw [ServiceM.bind_run_ok (ServiceM.log_run notes w), reads,
    ServiceM.bind_run_ok (ServiceM.pure?_run_ok _ _),
    buildQuery_eq startReadable stopReadable position onCalendar sized,
    ServiceM.bind_run_ok (ServiceM.pure?_run_ok _ _)]
  exact execute_plain (w := { w with notes := w.notes ++ notes }) plain sized rfl
    (select_listing listable startReadable stopReadable position _ perm ascending) c c.hint
    operation timeout

/-- A page is fetched only for a page token that reads. -/
theorem fetchPage_reads {limit : Value} (request : limit = .none ∨ ∃ k : Int, limit = .int k)
    {d M : Int} {token operation timeout : Value} {w w' : World} {p : Page}
    (fetched : fetchPage c filters limit token operation (.int d) (.int M) timeout w = .ok p w') :
    ∃ position, positionOfToken token = .ok position := by
  obtain ⟨notes, clamp⟩ := clampPageSize_eq (d := d) (M := M) request
  unfold fetchPage at fetched
  rw [clamp, ServiceM.bind_run_ok (ServiceM.pure?_run_ok _ _)] at fetched
  dsimp only at fetched
  rw [ServiceM.bind_run_ok (ServiceM.log_run notes w)] at fetched
  cases reads : positionOfToken token with
  | ok position => exact ⟨position, rfl⟩
  | error e =>
    rw [reads, ServiceM.bind_run_error (ServiceM.pure?_run_error e _)] at fetched
    cases fetched

/-- A page is fetched only when the listing's time bounds can be read in UTC. -/
theorem fetchPage_readable {limit : Value} (request : limit = .none ∨ ∃ k : Int, limit = .int k)
    (startDomain : timeBound filters "start_time" = .none ∨ ∃ t, timeBound filters "start_time" = .time t)
    (stopDomain : timeBound filters "end_time" = .none ∨ ∃ t, timeBound filters "end_time" = .time t)
    {d M : Int} {token operation timeout : Value} {w w' : World} {p : Page}
    (fetched : fetchPage c filters limit token operation (.int d) (.int M) timeout w = .ok p w') :
    BoundReadable (timeBound filters "start_time") ∧ BoundReadable (timeBound filters "end_time") := by
  by_contra unreadable
  obtain ⟨notes, clamp⟩ := clampPageSize_eq (d := d) (M := M) request
  obtain ⟨position, reads⟩ := fetchPage_reads request fetched
  obtain ⟨e, failed⟩ := buildQuery_unreadable (c := c) startDomain stopDomain unreadable
    (position.map Cursor.position) (.int (pageSize limit d M))
  unfold fetchPage at fetched
  rw [clamp, ServiceM.bind_run_ok (ServiceM.pure?_run_ok _ _)] at fetched
  dsimp only at fetched
  rw [ServiceM.bind_run_ok (ServiceM.log_run notes w), reads,
    ServiceM.bind_run_ok (ServiceM.pure?_run_ok _ _), failed,
    ServiceM.bind_run_error (ServiceM.pure?_run_error e _)] at fetched
  cases fetched

end Fetch

/-! ## Page tokens of records -/

/-- A record whose page token reads back: its timestamp, in Unix nanoseconds, fits in 64 bits,
and its id has no comma. -/
def Collection.TokenSafe (c : Collection) (r : Value) : Prop :=
  ∃ t n, r.atPath c.timestamp = .time t ∧ t.toNanos? = some n ∧ Cursor.least ≤ n ∧
    n ≤ Cursor.greatest ∧ ',' ∉ (c.keyOf r).id.toList

section Tokens

variable {c : Collection}

/-- The position of a record is its timestamp in nanoseconds and its id. -/
theorem recordCursor_listable {r : Value} {t : DateTime} {x : String}
    (time : r.atPath c.timestamp = .time t) (id : r.atPath c.id = .str x) :
    recordCursor c r = match t.toNanos? with
      | some n => .ok ⟨n, x⟩
      | none => .error (.runtime .overflowError) := by
  unfold recordCursor
  cases utc : t.asUtc with
  | none =>
    have noNanos : t.toNanos? = none := by simp [DateTime.toNanos?_eq, utc]
    simp [time, Value.inUtc, utc, noNanos]
  | some u =>
    obtain ⟨onCalendar, rfl⟩ := DateTime.asUtc_eq_some_iff.1 utc
    have again : (DateTime.mk t.utcWall (some 0)).toNanos? = t.toNanos? := by
      have same : (DateTime.mk t.utcWall (some 0)).utcWall = t.utcWall := by simp [DateTime.utcWall]
      obtain ⟨n, nanos⟩ : ∃ n, t.toNanos? = some n :=
        ⟨_, DateTime.toNanos?_eq_some_iff.2 ⟨onCalendar, rfl⟩⟩
      rw [nanos, DateTime.toNanos?_eq_some_iff, same]
      exact ⟨onCalendar, (DateTime.toNanos?_eq_some_iff.1 nanos).2⟩
    cases nanos : t.toNanos? <;>
      simp [time, Value.inUtc, utc, again, nanos, Value.plain, id]

/-- A page token resumes from the UTC wall clock of the record it was written for. -/
theorem resumeWall_of_toNanos {t : DateTime} {n : Int} (nanos : t.toNanos? = some n) (x : String) :
    (Cursor.mk n x).resumeWall = t.utcWall ∧ DateTime.inRange (Cursor.mk n x).resumeWall := by
  obtain ⟨onCalendar, rfl⟩ := DateTime.toNanos?_eq_some_iff.1 nanos
  have wall : (Cursor.mk ((t.utcWall - DateTime.epochWall) * 1000) x).resumeWall = t.utcWall := by
    simp [Cursor.resumeWall, Int.mul_fdiv_cancel]
  refine ⟨wall, ?_⟩
  rw [wall]
  exact onCalendar

theorem positionOfToken_token {cur : Cursor} {position : Option Cursor} :
    positionOfToken (.str cur.token) = .ok position ↔
      position = some cur ∧ Cursor.least ≤ cur.timestamp ∧ cur.timestamp ≤ Cursor.greatest ∧
        ',' ∉ cur.id.toList := by
  have nonempty : cur.token ≠ "" := by
    intro empty
    have := congrArg String.toList empty
    rw [Cursor.token_toList] at this
    simp at this
  have reading : positionOfToken (.str cur.token) = (Cursor.ofToken cur.token).map some := by
    simp only [positionOfToken]
    cases Cursor.ofToken cur.token <;> rfl
  rw [reading]
  constructor
  · intro read
    cases decoded : Cursor.ofToken cur.token with
    | error e => simp [decoded, Except.map] at read
    | ok c' =>
      simp [decoded, Except.map] at read
      obtain ⟨same, low, high, noComma⟩ :=
        Cursor.ofToken?_token_eq_some (Cursor.ofToken_eq_ok_iff.1 decoded)
      exact ⟨by rw [← read, same], low, high, noComma⟩
  · rintro ⟨rfl, low, high, noComma⟩
    rw [Cursor.ofToken_eq_ok_iff.2 ((Cursor.ofToken?_token cur low high).mpr noComma)]
    rfl

end Tokens

end Storefront
