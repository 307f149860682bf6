import Storefront.Proofs.Page.Fetch
import Storefront.Proofs.Service.Writes
import Storefront.Proofs.Sql.Statement

/-!
# Running one page query

A page query is answered by the store in one step: the backend yields its records (the memory
store from the sorted listing, the table store from the rows its statement selects), the plan
for the query may cut them short or stall, and the store counts the query as closed. This
module bounds what a limited query yields, shows that the store always answers, and reads off
the three ends of `execute` without a time limit: a failure, a short page and a full page.
-/

namespace Storefront

theorem except_bind_eq_ok_iff {ε α β : Type} {x : Except ε α} {f : α → Except ε β} {b : β} :
    (x >>= f) = .ok b ↔ ∃ a, x = .ok a ∧ f a = .ok b := by
  cases x <;> simp

theorem MemoryStore.select_length_le {s : MemoryStore} {q : Query} {rs : List Value}
    (selected : s.select q = .ok rs) {n : Value} {k : Int} (limited : q.limit = some n)
    (count : intOf? n = some k) : rs.length ≤ k.toNat := by
  unfold MemoryStore.select at selected
  obtain ⟨kept, -, selected⟩ := except_bind_eq_ok_iff.1 selected
  simp only [limited, count] at selected
  -- each branch ends by cutting what it kept to the limit
  split at selected
  · simp only [except_bind_eq_ok_iff, except_pure_eq_ok, Except.ok.injEq] at selected
    obtain ⟨xs, -, rfl⟩ := selected
    exact List.length_take_le _ _
  · split at selected <;>
      simp only [except_bind_eq_ok_iff, except_pure_eq_ok, Except.ok.injEq] at selected
    · obtain ⟨-, -, -, -, -, -, -, -, xs, -, rfl⟩ := selected
      exact List.length_take_le _ _
    · obtain ⟨-, -, -, -, -, -, xs, -, rfl⟩ := selected
      exact List.length_take_le _ _

/-- What a memory store yields for a limited query is at most the limit. -/
theorem MemoryStore.query_length_le (s : MemoryStore) {q : Query} {n : Value} {k : Int}
    (limited : q.limit = some n) (count : intOf? n = some k) :
    (s.query q).records.length ≤ k.toNat := by
  unfold MemoryStore.query
  cases selected : s.select q with
  | ok rs => exact MemoryStore.select_length_le selected limited count
  | error e => simp

namespace Codec

theorem tryCatch_run {α : Type} (x : CodecM α) (handle : Failure → CodecM α) (r : Registry) :
    (tryCatch x handle).run r = match x.run r with
      | .ok a r' => .ok a r'
      | .error e r' => (handle e).run r' := by
  show EStateM.tryCatch x handle r = _
  unfold EStateM.tryCatch
  simp only [EStateM.run]
  cases x r <;> rfl

end Codec

namespace TableStore

theorem limitCount_intOf {n : Value} {k : Int} (count : intOf? n = some k) :
    limitCount n = .ok (if k < 0 then none else some k.toNat) := by
  cases n <;> simp_all [limitCount, intOf?]

theorem scanFirst_length_le (preds : List (Predicate × SqlValue)) (resume : Option (List SqlValue))
    (paths : List String) (k : Nat) :
    ∀ (rows acc : List Row), acc.length ≤ k →
      (scanFirst preds resume paths rows (some k) acc).rows.length ≤ k := by
  intro rows
  induction rows with
  | nil => intro acc fits; simpa [scanFirst] using fits
  | cons r rs ih =>
    intro acc fits
    unfold scanFirst
    by_cases full : acc.length = k
    · simp [full]
    · have room : acc.length + 1 ≤ k := by omega
      have notFull : (some k == some acc.length) = false := by simp; omega
      rw [if_neg (by simp [notFull])]
      split
      · simpa using fits
      · exact ih (r :: acc) (by simpa using room)
      · exact ih acc fits

/-- A limited statement gives at most its limit of rows. -/
theorem selectRows_length_le (s : TableStore) {q : Query} (preds : List (Predicate × SqlValue))
    (resume : Option (List SqlValue)) {n : Value} {k : Int} (limited : q.limit = some n)
    (count : intOf? n = some k) (nonneg : 0 ≤ k) :
    (s.selectRows q preds resume).rows.length ≤ k.toNat := by
  unfold selectRows
  simp only [limited, limitCount_intOf count, show ¬ k < 0 by omega, if_false]
  split
  · simp
  · simp
  · rename_i bound _ _ same
    cases same
    dsimp only
    split
    · exact scanFirst_length_le preds resume _ k.toNat _ [] (by simp)
    · split
      · simp
      · simp only [List.length_map]
        exact List.length_take_le _ _

theorem delivered_length_le (sc : Scan) : (delivered sc).length ≤ sc.rows.length := by
  unfold delivered
  split
  · exact le_rfl
  · dsimp only
    split
    · simp
    · exact List.length_take_le' _ _

/-- Decoding stops at the first row that does not decode: no more records than rows. -/
theorem decodeRows_length_le (c : Codec) (last : Option Failure) :
    ∀ (rows : List Row) {r r' : Registry} {st : Stream},
      (decodeRows c last rows).run r = .ok st r' → st.records.length ≤ rows.length := by
  intro rows
  induction rows with
  | nil =>
    intro r r' st ran
    cases ran
    simp
  | cons row rows ih =>
    intro r r' st ran
    unfold decodeRows at ran
    obtain ⟨decoded, r₁, -, ran⟩ := Sql.bind_run_ok_iff.1 ran
    split at ran
    · cases ran
      simp
    · obtain ⟨rest, r₂, restRan, ran⟩ := Sql.bind_run_ok_iff.1 ran
      cases ran
      simpa using ih restRan

/-- A limited query of the table yields at most its limit of records. -/
theorem query_length_le (s : TableStore) {q : Query} (h : Hint) {n : Value} {k : Int}
    (limited : q.limit = some n) (count : intOf? n = some k) (nonneg : 0 ≤ k) {r r' : Registry}
    {st : Stream} (ran : (s.query q h).run r = .ok st r') : st.records.length ≤ k.toNat := by
  unfold TableStore.query at ran
  rw [Codec.tryCatch_run] at ran
  split at ran
  · rename_i attempted
    cases ran
    obtain ⟨codec, r₁, -, attempted⟩ := Sql.bind_run_ok_iff.1 attempted
    obtain ⟨-, r₂, -, attempted⟩ := Sql.bind_run_ok_iff.1 attempted
    obtain ⟨preds, r₃, -, attempted⟩ := Sql.bind_run_ok_iff.1 attempted
    -- whatever the resume values, the records come from the delivered rows
    have finish : ∀ resume r₄, (decodeRows codec (s.selectRows q preds resume).failure
        (delivered (s.selectRows q preds resume))).run r₄ = .ok st r' →
        st.records.length ≤ k.toNat := fun resume r₄ decoded =>
      calc st.records.length
          ≤ (delivered (s.selectRows q preds resume)).length := decodeRows_length_le _ _ _ decoded
        _ ≤ (s.selectRows q preds resume).rows.length := delivered_length_le _
        _ ≤ k.toNat := selectRows_length_le s preds resume limited count nonneg
    split at attempted
    · obtain ⟨-, r₄, -, attempted⟩ := Sql.bind_run_ok_iff.1 attempted
      obtain ⟨resume, r₅, -, attempted⟩ := Sql.bind_run_ok_iff.1 attempted
      exact finish resume r₅ attempted
    · obtain ⟨resume, r₄, -, attempted⟩ := Sql.bind_run_ok_iff.1 attempted
      exact finish resume r₄ attempted
  · cases ran
    simp

end TableStore

theorem TableStore.query_ok (s : TableStore) (q : Query) (h : Hint) (r : Registry) :
    ∃ st r', (s.query q h).run r = .ok st r' := by
  unfold TableStore.query
  rw [Codec.tryCatch_run]
  split
  · exact ⟨_, _, rfl⟩
  · exact ⟨_, _, rfl⟩

namespace Store

theorem applyPlan_length_le (p : PlannedFailure) (st : Stream) :
    (applyPlan p st).records.length ≤ st.records.length := by
  unfold applyPlan
  split
  · exact List.length_take_le' _ _
  · split <;> exact le_rfl

/-- A store answers every query: the backend is left as it was, the instruction for the next
query is used up and the count of queries goes up by one. -/
theorem query_ok (s : Store) (q : Query) (h : Hint) (r : Registry) :
    ∃ out r', (s.query q h).run r =
      .ok (out, { s with next := .normal, closed := s.closed + 1 }) r' := by
  unfold Store.query
  cases backend : s.backend with
  | memory m => exact ⟨_, _, rfl⟩
  | table t =>
    obtain ⟨st, r₁, answered⟩ := TableStore.query_ok t q h r
    refine ⟨?out, r₁, ?ran⟩
    case ran =>
      simp only [bind, EStateM.bind, EStateM.run] at answered ⊢
      rw [answered]
      rfl

/-- A limited query yields at most its limit of records, from either backend and whatever the
plan for it. -/
theorem query_length_le (s : Store) {q : Query} (h : Hint) {n : Value} {k : Int}
    (limited : q.limit = some n) (count : intOf? n = some k) (nonneg : 0 ≤ k) {r r' : Registry}
    {out : Outcome} {s' : Store} (ran : (s.query q h).run r = .ok (out, s') r') :
    out.stream.records.length ≤ k.toNat := by
  unfold Store.query at ran
  cases backend : s.backend with
  | memory m =>
    simp only [backend] at ran
    obtain ⟨answer, r₁, first, ran⟩ := Sql.bind_run_ok_iff.1 ran
    cases first
    cases ran
    have fits := MemoryStore.query_length_le m limited count
    -- the plan for the query only cuts what the backend yields
    split
    · exact (applyPlan_length_le _ _).trans fits
    · exact fits
    · exact fits
  | table t =>
    simp only [backend] at ran
    obtain ⟨st, r₁, answered, ran⟩ := Sql.bind_run_ok_iff.1 ran
    obtain ⟨answer, r₂, first, ran⟩ := Sql.bind_run_ok_iff.1 ran
    cases first
    cases ran
    have fits := TableStore.query_length_le _ h limited count nonneg answered
    split
    · exact (applyPlan_length_le _ _).trans fits
    · exact fits
    · exact fits

end Store

theorem ServiceM.withStore_query {w : World} {q : Query} {h : Hint} {out : Outcome} {s' : Store}
    {r' : Registry} (ran : (w.store.query q h).run w.registry = .ok (out, s') r') :
    ServiceM.withStore (fun s => s.query q h) w = .ok out { w with store := s', registry := r' } := by
  simp only [EStateM.run] at ran
  simp only [ServiceM.withStore, bind, EStateM.bind, get, getThe, MonadStateOf.get, EStateM.get,
    ServiceM.codec, ran, modify, modifyGet, MonadStateOf.modifyGet, EStateM.modifyGet, pure,
    EStateM.pure]

namespace ServiceM

theorem throw_run {α : Type} (e : Failure) (w : World) : (throw e : ServiceM α) w = .error e w := rfl

/-- A bind goes through exactly when its first step does and then the rest from there. -/
theorem bind_run_ok_iff {α β : Type} {x : ServiceM α} {f : α → ServiceM β} {w w' : World} {b : β} :
    (x >>= f) w = .ok b w' ↔ ∃ a w₁, x w = .ok a w₁ ∧ f a w₁ = .ok b w' := by
  constructor
  · intro ran
    cases first : x w with
    | ok a w₁ => exact ⟨a, w₁, rfl, by rwa [bind_run_ok first] at ran⟩
    | error e w₁ => rw [bind_run_error first] at ran; cases ran
  · rintro ⟨a, w₁, first, rest⟩
    rwa [bind_run_ok first]

end ServiceM

section Execute

variable {w : World} {q : Query} {h : Hint} {out : Outcome} {s' : Store} {r' : Registry}

/-- Work that leaves the world as it is, whether it succeeds or fails. -/
def Stays {α : Type} (act : ServiceM α) : Prop := ∀ w, Service.after act w = w

namespace Stays

variable {α β : Type}

theorem pure (a : α) : Stays (Pure.pure a : ServiceM α) := fun _ => rfl

theorem throw (e : Failure) : Stays (MonadExcept.throw e : ServiceM α) := fun _ => rfl

theorem pure? (x : Except Failure α) : Stays (ServiceM.pure? x) := by
  intro w
  cases x <;> rfl

theorem bind {x : ServiceM α} {f : α → ServiceM β} (first : Stays x) (rest : ∀ a, Stays (f a)) :
    Stays (x >>= f) := by
  intro w
  cases ran : x w with
  | ok a w' =>
    rw [Service.after_of_run (ServiceM.bind_run_ok ran), rest a w', ← first w,
      Service.after_of_ok ran]
  | error e w' =>
    rw [Service.after_of_run (ServiceM.bind_run_error ran), ← first w, Service.after_of_error ran]
    rfl

theorem after {act : ServiceM α} (stays : Stays act) (w : World) : Service.after act w = w :=
  stays w

end Stays

/-- After a page query the world holds the store and registry the query left, whatever the
query's end: nothing else changes and nothing is logged. -/
theorem execute_world (ran : (w.store.query q h).run w.registry = .ok (out, s') r')
    (c : Collection) (op timeout : Value) :
    Service.after (execute q h c op timeout) w = { w with store := s', registry := r' } := by
  unfold execute
  rw [Service.after_of_run (ServiceM.bind_run_ok (ServiceM.withStore_query ran))]
  -- past the store's answer every step only reads: a time-out, then the page or its failure
  apply Stays.after
  dsimp only
  split
  on_goal 1 => refine Stays.bind (Stays.throw _) fun _ => ?_
  all_goals
    split
    · exact Stays.throw _
    · split
      · split
        · split
          · exact Stays.bind (Stays.pure? _) fun _ => Stays.pure _
          · exact Stays.throw _
        · exact Stays.pure _
        · exact Stays.throw _
      · exact Stays.pure _

/-- A page holds exactly the records the store's query yielded. -/
theorem execute_items (ran : (w.store.query q h).run w.registry = .ok (out, s') r')
    {c : Collection} {op timeout : Value} {p : Page} {w' : World}
    (served : execute q h c op timeout w = .ok p w') : p.items = out.stream.records := by
  unfold execute at served
  rw [ServiceM.bind_run_ok (ServiceM.withStore_query ran)] at served
  dsimp only at served
  split at served
  · rw [ServiceM.bind_run_error (ServiceM.throw_run _ _)] at served
    cases served
  cases failure : out.stream.failure with
  | some e =>
    simp only [failure] at served
    cases served
  | none =>
    simp only [failure] at served
    cases limited : q.limit with
    | none =>
      simp only [limited] at served
      cases served
      rfl
    | some n =>
      simp only [limited] at served
      cases full : Value.test .ge (.int out.stream.records.length) n with
      | none =>
        simp only [full] at served
        cases served
      | some b =>
        cases b
        · simp only [full] at served
          cases served
          rfl
        · cases last : out.stream.records.getLast? with
          | none =>
            simp only [full, last] at served
            cases served
          | some r =>
            simp only [full, last] at served
            obtain ⟨cur, w₂, -, served⟩ := ServiceM.bind_run_ok_iff.1 served
            cases served
            rfl

/-- Whether a store's answer outlasts a page's time limit: a stalled query a stall outlasts, or
a query that waits for a worker a wait outlasts. -/
def Outcome.outlasts (out : Outcome) (timeout : Value) : Bool :=
  out.stalls && stallOutlasts timeout || out.waits && waitOutlasts timeout

@[simp] theorem Outcome.outlasts_none (out : Outcome) : out.outlasts .none = false := by
  simp [Outcome.outlasts, stallOutlasts, waitOutlasts]

/-- A query that outlasts the time limit fails the page as a gateway timeout, caused by the
runtime's timeout. -/
theorem execute_timedOut (ran : (w.store.query q h).run w.registry = .ok (out, s') r')
    {timeout : Value} (late : out.outlasts timeout = true) (c : Collection) (op : Value) :
    execute q h c op timeout w =
      .error (.status 504 (op.plain ++ ": query timed out") (some (.runtime .timeoutError)))
        { w with store := s', registry := r' } := by
  unfold Outcome.outlasts at late
  unfold execute
  rw [ServiceM.bind_run_ok (ServiceM.withStore_query ran)]
  simp only [late, if_true]
  rfl

/-- A query that fails after some records, within the time limit, fails the page as a store
query failure of the operation, naming the record the failure names and caused by it. -/
theorem execute_failed (ran : (w.store.query q h).run w.registry = .ok (out, s') r')
    {timeout : Value} (inTime : out.outlasts timeout = false) {e : Failure}
    (failed : out.stream.failure = some e) (c : Collection) (op : Value) :
    execute q h c op timeout w =
      .error (.storeQuery op e.recordId (some e)) { w with store := s', registry := r' } := by
  unfold Outcome.outlasts at inTime
  unfold execute
  rw [ServiceM.bind_run_ok (ServiceM.withStore_query ran)]
  simp only [inTime, Bool.false_eq_true, if_false, failed]
  rfl

/-- A query that completes within the time limit short of its limit gives a page of all its
records and no token. -/
theorem execute_short (ran : (w.store.query q h).run w.registry = .ok (out, s') r')
    {timeout : Value} (inTime : out.outlasts timeout = false)
    (completed : out.stream.failure = none) {k : Int} (limited : q.limit = some (.int k))
    (short : out.stream.records.length < k) (c : Collection) (op : Value) :
    execute q h c op timeout w =
      .ok ⟨out.stream.records, none⟩ { w with store := s', registry := r' } := by
  have notFull := Value.test_int .ge out.stream.records.length k
  rw [CmpOp.ge_holds_compare, decide_eq_false (by omega)] at notFull
  unfold Outcome.outlasts at inTime
  unfold execute
  rw [ServiceM.bind_run_ok (ServiceM.withStore_query ran)]
  simp only [inTime, Bool.false_eq_true, if_false, completed, limited, notFull]
  rfl

/-- The last of the records a query completes with when it reaches its limit of one or more. -/
theorem exists_last_of_full {records : List Value} {k : Int} (positive : 1 ≤ k)
    (full : k ≤ records.length) : ∃ last, records.getLast? = some last := by
  cases isLast : records.getLast? with
  | none =>
    rw [List.getLast?_eq_none_iff] at isLast
    rw [isLast, List.length_nil] at full
    omega
  | some last => exact ⟨last, rfl⟩

/-- A query that completes within the time limit with its limit of records gives a page of all
of them and the token of the last, when that record has a position; when it has none, the page
fails as the position does. -/
theorem execute_full (ran : (w.store.query q h).run w.registry = .ok (out, s') r')
    {timeout : Value} (inTime : out.outlasts timeout = false)
    (completed : out.stream.failure = none) {k : Int} (positive : 1 ≤ k)
    (limited : q.limit = some (.int k)) (full : k ≤ out.stream.records.length) (c : Collection)
    (op : Value) :
    ∃ last, out.stream.records.getLast? = some last ∧
      execute q h c op timeout w = match recordCursor c last with
        | .ok cur => .ok ⟨out.stream.records, some cur.token⟩ { w with store := s', registry := r' }
        | .error e => .error e { w with store := s', registry := r' } := by
  have reached := Value.test_int .ge out.stream.records.length k
  rw [CmpOp.ge_holds_compare, decide_eq_true (by omega)] at reached
  obtain ⟨last, isLast⟩ := exists_last_of_full positive full
  refine ⟨last, isLast, ?_⟩
  unfold Outcome.outlasts at inTime
  unfold execute
  rw [ServiceM.bind_run_ok (ServiceM.withStore_query ran)]
  simp only [inTime, completed, limited, reached, isLast, Bool.false_eq_true, if_false]
  cases recordCursor c last <;> rfl

/-- How a page query with a limit of one or more can fail: it outlasts the time limit, the store
fails, or the last record of a full page has no position. -/
theorem execute_refused (ran : (w.store.query q h).run w.registry = .ok (out, s') r')
    {k : Int} (positive : 1 ≤ k) (limited : q.limit = some (.int k)) {c : Collection}
    {op timeout : Value} {f : Failure} {w' : World}
    (refused : execute q h c op timeout w = .error f w') :
    (out.outlasts timeout = true ∧
        f = .status 504 (op.plain ++ ": query timed out") (some (.runtime .timeoutError))) ∨
      (∃ e, out.stream.failure = some e ∧ f = .storeQuery op e.recordId (some e)) ∨
      ∃ last, out.stream.records.getLast? = some last ∧ recordCursor c last = .error f := by
  cases late : out.outlasts timeout
  case true =>
    rw [execute_timedOut ran late] at refused
    cases refused
    exact .inl ⟨rfl, rfl⟩
  case false =>
    cases failure : out.stream.failure with
    | some e =>
      rw [execute_failed ran late failure] at refused
      cases refused
      exact .inr (.inl ⟨e, rfl, rfl⟩)
    | none =>
      -- a completed query fails only for the position of the last record of a full page
      by_cases short : out.stream.records.length < k
      · rw [execute_short ran late failure limited short] at refused
        cases refused
      · obtain ⟨last, isLast, served⟩ :=
          execute_full ran late failure positive limited (by omega) c op
        rw [served] at refused
        cases cursor : recordCursor c last with
        | ok cur =>
          rw [cursor] at refused
          cases refused
        | error e =>
          rw [cursor] at refused
          cases refused
          exact .inr (.inr ⟨last, isLast, cursor⟩)

end Execute

section Fetch

variable {c : Collection} {filters : List (String × Value)} {limit token op default maximum timeout : Value}

/-- Fetching a page once its size is clamped: the warnings are logged, then the page token is
read, the query built and run; the first of these to fail fails the page. -/
theorem fetchPage_run {size : Value} {notes : List Note}
    (clamp : clampPageSize limit default maximum = .ok (size, notes)) (w : World) :
    fetchPage c filters limit token op default maximum timeout w =
      match positionOfToken token with
      | .error e => .error e { w with notes := w.notes ++ notes }
      | .ok position => match buildQuery c filters (position.map Cursor.position) size with
        | .error e => .error e { w with notes := w.notes ++ notes }
        | .ok q => execute q c.hint c op timeout { w with notes := w.notes ++ notes } := by
  unfold fetchPage
  rw [clamp, ServiceM.bind_run_ok (ServiceM.pure?_run_ok _ _)]
  dsimp only
  rw [ServiceM.bind_run_ok (ServiceM.log_run notes w)]
  cases positionOfToken token with
  | error e => rfl
  | ok position =>
    rw [ServiceM.bind_run_ok (ServiceM.pure?_run_ok _ _)]
    dsimp only
    cases buildQuery c filters (position.map Cursor.position) size with
    | error e => rfl
    | ok q => rw [ServiceM.bind_run_ok (ServiceM.pure?_run_ok _ _)]

end Fetch

end Storefront
