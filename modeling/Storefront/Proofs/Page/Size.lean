import Storefront.Proofs.Page.Execute
import Storefront.Proofs.Query.Listing

/-!
# Page sizes within the settings

The settings are checked when made: the default page size is at least one and the largest is
not below it. For settings whose page sizes are whole numbers (all that the environment gives)
the clamp of a missing or whole request lies from one to the largest, keeps the request exactly
when it already does, and logs one warning exactly when it does not. Such a size is never
refused as a limit, and the listings of orders and tasks log exactly that warning and serve
pages of at most the largest size.

A largest size that is not a number, such as NaN, passes the checks and bounds nothing.
-/

namespace Storefront

/-! ## Comparing whole numbers -/

theorem Value.num?_of_intOf? {a : Value} {i : Int} (int : intOf? a = some i) :
    a.num? = some (.exact i) := by
  cases a <;> simp_all [intOf?, Value.num?]

/-- Values that stand for whole numbers compare as those numbers. -/
theorem Value.test_intOf {a b : Value} {i j : Int} (ha : intOf? a = some i)
    (hb : intOf? b = some j) (op : CmpOp) : Value.test op a b = some (op.holds (compare i j)) := by
  have na := Value.num?_of_intOf? ha
  have nb := Value.num?_of_intOf? hb
  cases a <;> simp only [intOf?, reduceCtorEq] at ha <;> cases b <;>
    simp only [intOf?, reduceCtorEq] at hb <;> cases op <;>
    simp_all [Value.test, Value.same, Num.holds, Num.order?]

theorem Value.same_intOf {a b : Value} {i j : Int} (ha : intOf? a = some i)
    (hb : intOf? b = some j) : Value.same a b = decide (i = j) := by
  have tested := Value.test_intOf ha hb .eq
  simp only [Value.test, Option.some.injEq] at tested
  rw [tested]
  by_cases same : i = j <;> simp [CmpOp.holds, same]

theorem Value.same_none_of_intOf {a : Value} {i : Int} (ha : intOf? a = some i) :
    Value.same a .none = false := by
  cases a <;> simp_all [intOf?, Value.same, Value.num?]

theorem Value.isNone_of_intOf {a : Value} {i : Int} (ha : intOf? a = some i) :
    a.isNone = false := by
  cases a <;> simp_all [intOf?, Value.isNone]

theorem CmpOp.le_holds_compare (a b : Int) : CmpOp.le.holds (compare a b) = decide (a ≤ b) := by
  have gt := CmpOp.gt_holds_compare a b
  simp only [CmpOp.holds] at gt ⊢
  rw [bne, gt]
  by_cases greater : b < a <;> simp [greater]
  omega

theorem compareValues_intOf {a b : Value} {i j : Int} (ha : intOf? a = some i)
    (hb : intOf? b = some j) (op : CmpOp) :
    compareValues op a b = .ok (op.holds (compare i j)) := by
  simp [compareValues, Value.test_intOf ha hb]

/-! ## The checks of the settings -/

namespace Settings

/-- Settings whose page sizes are whole numbers. -/
def WholePages (s : Settings) : Prop :=
  ∃ d M, intOf? s.defaultPageSize = some d ∧ intOf? s.maxPageSize = some M

theorem check_intOf {a b : Value} {i j : Int} (ha : intOf? a = some i) (hb : intOf? b = some j)
    (op : CmpOp) : check op a b = .ok (op.holds (compare i j)) := by
  simp [check, Value.test_intOf ha hb]

/-- Settings that pass their checks are returned as they are. -/
theorem validate_self {s s' : Settings} (valid : s.validate = .ok s') : s' = s := by
  unfold validate at valid
  -- every way through the checks ends in a refusal or in the settings themselves
  obtain ⟨low, -, valid⟩ := except_bind_eq_ok_iff.1 valid
  cases low <;> simp only [Bool.false_eq_true, if_false, if_true] at valid
  case false =>
    obtain ⟨inverted, -, valid⟩ := except_bind_eq_ok_iff.1 valid
    cases inverted <;> simp only [Bool.false_eq_true, if_false, if_true] at valid
    case false =>
      split at valid
      · obtain ⟨late, -, valid⟩ := except_bind_eq_ok_iff.1 valid
        cases late <;> simp at valid
        exact valid.symm
      · exact (Except.ok.inj valid).symm
    case true => simp at valid
  case true => simp at valid

/-- Whole page sizes that pass the checks run from one to the largest. -/
theorem validate_pages {s s' : Settings} (valid : s.validate = .ok s') {d M : Int}
    (hd : intOf? s.defaultPageSize = some d) (hM : intOf? s.maxPageSize = some M) :
    1 ≤ d ∧ d ≤ M := by
  have one : intOf? (.int 1) = some 1 := rfl
  have low := check_intOf hd one .lt
  have inverted := check_intOf hM hd .lt
  rw [CmpOp.lt_holds_compare] at low inverted
  by_contra outside
  unfold validate at valid
  by_cases below : d < 1
  · simp [low, below] at valid
  · simp [low, inverted, below, show M < d by omega] at valid

end Settings

theorem toInt_int {v v' : Value} (converted : toInt v = .ok v') : ∃ i, v' = .int i := by
  unfold toInt at converted
  split at converted
  · obtain ⟨i, -, converted⟩ := except_bind_eq_ok_iff.1 converted
    exact ⟨i, (Except.ok.inj converted).symm⟩
  all_goals
    split at converted
    · exact ⟨_, (Except.ok.inj converted).symm⟩
    · cases converted

namespace Settings

/-- Settings read from the environment pass their checks and have whole page sizes. -/
theorem ofEnviron_wholePages {env : List (String × Value)} {s : Settings}
    (read : ofEnviron env = .ok s) : s.validate = .ok s ∧ s.WholePages := by
  -- a page size is the converted variable when it is set, and its default when not
  have whole : ∀ (x : Option Value) (n : Int) (v : Value),
      (x.map toInt).getD (pure (.int n)) = .ok v → ∃ i, v = .int i := by
    intro x n v converted
    cases x with
    | none => exact ⟨n, (Except.ok.inj converted).symm⟩
    | some x => exact toInt_int converted
  unfold ofEnviron at read
  obtain ⟨d, readD, read⟩ := except_bind_eq_ok_iff.1 read
  obtain ⟨M, readM, read⟩ := except_bind_eq_ok_iff.1 read
  obtain ⟨t, -, read⟩ := except_bind_eq_ok_iff.1 read
  obtain rfl := validate_self read
  obtain ⟨d, rfl⟩ := whole _ _ _ readD
  obtain ⟨M, rfl⟩ := whole _ _ _ readM
  exact ⟨read, d, M, rfl, rfl⟩

/-- The page sizes of settings that are made, directly or from the environment, and are whole
numbers run from one to the largest. -/
theorem pages_of_made {s : Settings}
    (made : (s.validate = .ok s ∧ s.WholePages) ∨ ∃ env, ofEnviron env = .ok s) :
    ∃ d M, intOf? s.defaultPageSize = some d ∧ intOf? s.maxPageSize = some M ∧ 1 ≤ d ∧ d ≤ M := by
  obtain ⟨valid, d, M, hd, hM⟩ : s.validate = .ok s ∧ s.WholePages := by
    rcases made with direct | ⟨env, read⟩
    · exact direct
    · exact ofEnviron_wholePages read
  exact ⟨d, M, hd, hM, validate_pages valid hd hM⟩

end Settings

/-! ## The clamp -/

/-- A page size from one to the largest, compared as the runtime compares numbers. -/
def WithinPages (v maximum : Value) : Prop :=
  Value.test .le (.int 1) v = some true ∧ Value.test .le v maximum = some true

theorem withinPages_intOf {v maximum : Value} {k M : Int} (hv : intOf? v = some k)
    (hM : intOf? maximum = some M) : WithinPages v maximum ↔ 1 ≤ k ∧ k ≤ M := by
  have one : intOf? (.int 1) = some 1 := rfl
  simp only [WithinPages, Value.test_intOf one hv, Value.test_intOf hv hM, Option.some.injEq,
    CmpOp.holds, bne_iff_ne, ne_eq, compare_gt_iff_gt, not_lt]

theorem not_withinPages_none (maximum : Value) : ¬ WithinPages .none maximum := by
  simp [WithinPages, Value.test, Value.num?]

/-- What the clamp of a request gives: a size within the pages, the request itself exactly when
it is within them, and one warning exactly when it is not. -/
structure ClampedSize (limit maximum s : Value) (notes : List Note) : Prop where
  within : WithinPages s maximum
  kept : Value.same s limit = true ↔ WithinPages limit maximum
  warned : (notes = [] ∧ WithinPages limit maximum) ∨
    (∃ text, notes = [Note.warn text]) ∧ ¬ WithinPages limit maximum

theorem clampPageSize_clamped {limit default maximum : Value} {d M : Int}
    (request : limit = .none ∨ ∃ k, intOf? limit = some k) (hd : intOf? default = some d)
    (hM : intOf? maximum = some M) (positive : 1 ≤ d) (bounded : d ≤ M) :
    ∃ s notes, clampPageSize limit default maximum = .ok (s, notes) ∧
      ClampedSize limit maximum s notes ∧ ∃ k, intOf? s = some k := by
  have defaultWithin : WithinPages default maximum :=
    (withinPages_intOf hd hM).mpr ⟨positive, bounded⟩
  rcases request with rfl | ⟨k, hk⟩
  case inl =>
    refine ⟨default, _, rfl, ⟨defaultWithin, ?_, .inr ⟨⟨_, rfl⟩, not_withinPages_none _⟩⟩, d, hd⟩
    simp [not_withinPages_none, Value.same_none_of_intOf hd]
  case inr =>
    have one : intOf? (.int 1) = some 1 := rfl
    have limitWithin := withinPages_intOf hk hM
    have low := compareValues_intOf hk one .lt
    have high := compareValues_intOf hk hM .gt
    rw [CmpOp.lt_holds_compare] at low
    rw [CmpOp.gt_holds_compare] at high
    -- the three branches of the clamp: below one, above the largest, and kept
    by_cases below : k < 1
    · obtain ⟨text, clamp⟩ : ∃ text,
          clampPageSize limit default maximum = .ok (default, [Note.warn text]) :=
        ⟨_, by simp [clampPageSize, Value.isNone_of_intOf hk, low, below]; rfl⟩
      refine ⟨default, _, clamp, ⟨defaultWithin, ?_, .inr ⟨⟨text, rfl⟩, ?_⟩⟩, d, hd⟩
      · simp [Value.same_intOf hd hk, limitWithin]
        omega
      · simp [limitWithin]
        omega
    by_cases above : M < k
    · obtain ⟨text, clamp⟩ : ∃ text,
          clampPageSize limit default maximum = .ok (maximum, [Note.warn text]) :=
        ⟨_, by simp [clampPageSize, Value.isNone_of_intOf hk, low, high, below, above]; rfl⟩
      refine ⟨maximum, _, clamp, ⟨(withinPages_intOf hM hM).mpr ⟨by omega, le_rfl⟩, ?_,
        .inr ⟨⟨text, rfl⟩, ?_⟩⟩, M, hM⟩
      · simp [Value.same_intOf hM hk, limitWithin]
        omega
      · simp [limitWithin]
        omega
    · have clamp : clampPageSize limit default maximum = .ok (limit, []) := by
        simp [clampPageSize, Value.isNone_of_intOf hk, low, high, below, above]
      have within : WithinPages limit maximum := limitWithin.mpr ⟨by omega, by omega⟩
      refine ⟨limit, [], clamp, ⟨within, ?_, .inl ⟨rfl, within⟩⟩, k, hk⟩
      simp [Value.same_intOf hk hk, within]

/-! ## The limit of the query -/

theorem Query.limited_limit {q q' : Query} {n : Value} (limited : q.limited n = .ok q') :
    q'.limit = some n := by
  unfold Query.limited Query.advance at limited
  split at limited
  · cases limited
  · split at limited
    · cases limited
    · cases limited
      rfl
  · cases limited

/-- A query that is built holds the limit it was built with. -/
theorem buildQuery_limit {c : Collection} {filters : List (String × Value)}
    {position : Option Position} {size : Value} {q : Query}
    (built : buildQuery c filters position size = .ok q) : q.limit = some size := by
  unfold buildQuery at built
  obtain ⟨q₁, -, built⟩ := except_bind_eq_ok_iff.1 built
  obtain ⟨q₂, -, built⟩ := except_bind_eq_ok_iff.1 built
  obtain ⟨q₃, -, built⟩ := except_bind_eq_ok_iff.1 built
  -- the limit comes last, after resuming from the position if there is one
  split at built
  · obtain ⟨values, -, built⟩ := except_bind_eq_ok_iff.1 built
    obtain ⟨q₄, -, built⟩ := except_bind_eq_ok_iff.1 built
    exact Query.limited_limit built
  · exact Query.limited_limit built

/-- A size of one or more is never refused for the limit. -/
theorem limited_admitted (q : Query) {size : Value} {k : Int} (hk : intOf? size = some k)
    (positive : 1 ≤ k) : q.limited size ≠ .error limitRefused := by
  have one : intOf? (.int 1) = some 1 := rfl
  have notBelow := Value.test_intOf hk one .lt
  rw [CmpOp.lt_holds_compare, decide_eq_false (by omega)] at notBelow
  unfold Query.limited Query.advance
  simp only [notBelow]
  split
  · simp [limitRefused, Query.outOfOrder, Failure.valueError]
  · simp

/-- Every position a page token reads as is on the calendar. -/
theorem positionOfToken_onCalendar {token : Value} {position : Option Cursor}
    (read : positionOfToken token = .ok position) :
    ∀ cur ∈ position, DateTime.inRange cur.resumeWall := by
  intro cur mem
  unfold positionOfToken at read
  split at read
  · cases read; cases mem
  · cases read; cases mem
  · obtain ⟨cur', decoded, read⟩ := except_bind_eq_ok_iff.1 read
    cases read
    cases mem
    obtain ⟨-, -, -, -, -, low, high, -⟩ :=
      Cursor.ofToken?_eq_some_iff.1 (Cursor.ofToken_eq_ok_iff.1 decoded)
    exact DateTime.inRange_of_int64 low high
  · split at read
    · cases read
    · cases read; cases mem

/-- From a position on the calendar, a query built with a size of one or more is not refused for
its limit: it fails, if at all, for a bound it cannot read. -/
theorem buildQuery_size_admitted (c : Collection) (filters : List (String × Value))
    {position : Option Cursor} (onCalendar : ∀ cur ∈ position, DateTime.inRange cur.resumeWall)
    {size : Value} {k : Int} (hk : intOf? size = some k) (positive : 1 ≤ k) :
    buildQuery c filters (position.map Cursor.position) size ≠ .error limitRefused := by
  by_cases startReadable : BoundReadable (timeBound filters "start_time")
  · by_cases stopReadable : BoundReadable (timeBound filters "end_time")
    · obtain ⟨q, -, limited⟩ :=
        buildQuery_eq_limited (c := c) startReadable stopReadable position onCalendar size
      rw [limited]
      exact limited_admitted q hk positive
    · obtain ⟨given, kind, refused⟩ := unreadable_refused stopReadable
      rw [buildQuery_stop_refused startReadable given refused]
      simp [limitRefused, Failure.valueError]
  · obtain ⟨given, kind, refused⟩ := unreadable_refused startReadable
    rw [buildQuery_start_refused given refused]
    simp [limitRefused, Failure.valueError]

/-! ## Listing runs -/

namespace Service

/-- An operation adds to what its work logs at most the error of a server failure. -/
theorem after_operation_notes {α : Type} (name : String) (act : ServiceM α) (w : World) :
    ∃ extra, (after (operation name act) w).notes = (after act w).notes ++ extra ∧
      ∀ n ∈ extra, n.level = .error := by
  unfold after
  rw [operation_run]
  cases act w with
  | ok a w' => exact ⟨[], by simp, by simp⟩
  | error e w' =>
    by_cases server : e.isServer
    · exact ⟨[⟨.error, "operation failed: " ++ name⟩], by simp [server], by simp⟩
    · exact ⟨[], by simp [server], by simp⟩

end Service

section Fetch

variable {c : Collection} {filters : List (String × Value)}
  {limit token op default maximum timeout : Value} {size : Value} {notes : List Note}

/-- Fetching a page logs the warnings of its size and nothing else, whatever its end. -/
theorem fetchPage_notes (clamp : clampPageSize limit default maximum = .ok (size, notes))
    (w : World) :
    (Service.after (fetchPage c filters limit token op default maximum timeout) w).notes =
      w.notes ++ notes := by
  have run : fetchPage c filters limit token op default maximum timeout w = _ :=
    fetchPage_run clamp w
  cases read : positionOfToken token with
  | error e =>
    rw [read] at run
    rw [Service.after_of_error run]
  | ok position =>
    cases built : buildQuery c filters (position.map Cursor.position) size with
    | error e =>
      rw [read] at run
      dsimp only at run
      rw [built] at run
      rw [Service.after_of_error run]
    | ok q =>
      rw [read] at run
      dsimp only at run
      rw [built] at run
      dsimp only at run
      obtain ⟨out, r', ran⟩ := Store.query_ok w.store q c.hint w.registry
      rw [Service.after_of_run run, execute_world (w := { w with notes := w.notes ++ notes }) ran]

/-- A page fetched with a whole size of its clamp holds at most that many records. -/
theorem fetchPage_items_le (clamp : clampPageSize limit default maximum = .ok (size, notes))
    {k : Int} (hk : intOf? size = some k) (nonneg : 0 ≤ k) {w w' : World} {p : Page}
    (served : fetchPage c filters limit token op default maximum timeout w = .ok p w') :
    p.items.length ≤ k.toNat := by
  rw [fetchPage_run clamp] at served
  cases read : positionOfToken token with
  | error e =>
    rw [read] at served
    cases served
  | ok position =>
    rw [read] at served
    dsimp only at served
    cases built : buildQuery c filters (position.map Cursor.position) size with
    | error e =>
      rw [built] at served
      cases served
    | ok q =>
      rw [built] at served
      dsimp only at served
      obtain ⟨out, r', ran⟩ := Store.query_ok w.store q c.hint w.registry
      rw [execute_items (w := { w with notes := w.notes ++ notes }) ran served]
      exact Store.query_length_le _ _ (buildQuery_limit built) hk nonneg ran

end Fetch

/-- A listing run from a world logs the warnings of its page size and, when it fails as the
server, one error; a page it serves holds at most the largest page size of the settings. -/
structure SizedRun (act : ServiceM Page) (w : World) (notes : List Note) : Prop where
  logged : ∃ extra, (Service.after act w).notes = w.notes ++ notes ++ extra ∧
    ∀ n ∈ extra, n.level = .error
  bounded : ∀ p w', act w = .ok p w' →
    Value.test .le (.int p.items.length) w.settings.maxPageSize = some true

/-- An operation whose work runs as a fetch of a page clamped within the settings is a sized
run. -/
theorem SizedRun.of_fetch {w : World} {name : String} {act : ServiceM Page} {c : Collection}
    {filters : List (String × Value)} {limit token op timeout size : Value} {notes : List Note}
    (runs : act w = fetchPage c filters limit token op w.settings.defaultPageSize
      w.settings.maxPageSize timeout w)
    (clamp : clampPageSize limit w.settings.defaultPageSize w.settings.maxPageSize =
      .ok (size, notes))
    {k M : Int} (hk : intOf? size = some k) (hM : intOf? w.settings.maxPageSize = some M)
    (positive : 1 ≤ k) (bounded : k ≤ M) : SizedRun (Service.operation name act) w notes := by
  constructor
  case logged =>
    obtain ⟨extra, logged, errors⟩ := Service.after_operation_notes name act w
    refine ⟨extra, ?_, errors⟩
    rw [logged, Service.after_of_run runs, fetchPage_notes clamp]
  case bounded =>
    intro p w' served
    rw [Service.operation_ok_iff, runs] at served
    have fits := fetchPage_items_le clamp hk (by omega) served
    have length : intOf? (.int p.items.length) = some p.items.length := rfl
    rw [Value.test_intOf length hM, CmpOp.le_holds_compare, decide_eq_true (by omega)]

/-! ## The page size of a listing -/

/-- For settings made directly or from the environment, with whole page sizes, and a missing or
whole request: the clamp gives a size from one to the largest, keeps the request exactly when it
is within those bounds and warns once exactly when it is not; from any page token that size is
never refused as a limit; and the listings of tasks and of orders (when their name filters can
be hashed) log exactly that warning, besides the error of a server failure, and serve pages of
at most the largest size. -/
theorem listing_page_size_within_settings {w : World}
    (made : (w.settings.validate = .ok w.settings ∧ w.settings.WholePages) ∨
      ∃ env, Settings.ofEnviron env = .ok w.settings)
    {limit : Value} (request : limit = .none ∨ ∃ k : Int, limit = .int k) :
    ∃ s notes, clampPageSize limit w.settings.defaultPageSize w.settings.maxPageSize =
        .ok (s, notes) ∧
      ClampedSize limit w.settings.maxPageSize s notes ∧
      (∀ c filters token position, positionOfToken token = .ok position →
        buildQuery c filters (position.map Cursor.position) s ≠ .error limitRefused) ∧
      (∀ orderId itemId product start stop token,
        SizedRun (Service.getTasks orderId itemId product start stop limit token) w notes) ∧
      (∀ family given start stop token, Service.hashable family = .ok () →
        Service.hashable given = .ok () →
        SizedRun (Service.getOrders family given start stop limit token) w notes) := by
  obtain ⟨d, M, hd, hM, positive, bounded⟩ := Settings.pages_of_made made
  have whole : limit = .none ∨ ∃ k, intOf? limit = some k := by
    rcases request with none | ⟨k, rfl⟩
    · exact .inl none
    · exact .inr ⟨k, rfl⟩
  obtain ⟨s, notes, clamp, clamped, k, hk⟩ := clampPageSize_clamped whole hd hM positive bounded
  have range := (withinPages_intOf hk hM).mp clamped.within
  refine ⟨s, notes, clamp, clamped, ?admitted, ?tasks, ?orders⟩
  case admitted =>
    intro c filters token position read
    exact buildQuery_size_admitted c filters (positionOfToken_onCalendar read) hk range.1
  case tasks =>
    intro orderId itemId product start stop token
    exact SizedRun.of_fetch rfl clamp hk hM range.1 range.2
  case orders =>
    intro family given start stop token hashedFamily hashedGiven
    -- names that hash let the listing through to the fetch
    exact SizedRun.of_fetch (by rw [hashedFamily, hashedGiven]; rfl) clamp hk hM range.1 range.2

/-- With the default settings a request of zero pages is warned about once, and the listing of
tasks logs that warning. -/
theorem tasks_listing_zero_limit_warned :
    ((World.ofTasks []).settings.validate = .ok (World.ofTasks []).settings ∧
      (World.ofTasks []).settings.WholePages) ∧
    ∃ s notes, clampPageSize (.int 0) (.int 20) (.int 100) = .ok (s, notes) ∧
      ClampedSize (.int 0) (.int 100) s notes ∧
      SizedRun (Service.getTasks .none .none .none .none .none (.int 0) .none) (World.ofTasks [])
        notes := by
  have made : (World.ofTasks []).settings.validate = .ok (World.ofTasks []).settings ∧
      (World.ofTasks []).settings.WholePages := ⟨rfl, 20, 100, rfl, rfl⟩
  obtain ⟨s, notes, clamp, clamped, -, tasks, -⟩ :=
    listing_page_size_within_settings (.inl made) (.inr ⟨0, rfl⟩)
  exact ⟨made, s, notes, clamp, clamped, tasks .none .none .none .none .none .none⟩

/-- A largest page size of NaN passes the checks of the settings, and a request of 500 is kept
as it is, with no warning: no comparison with NaN holds, so that size is not within the
largest. -/
theorem nan_maximum_keeps_oversized_request :
    ({ maxPageSize := .float (0.0 / 0.0) } : Settings).validate =
        .ok { maxPageSize := .float (0.0 / 0.0) } ∧
      clampPageSize (.int 500) (.int 20) (.float (0.0 / 0.0)) = .ok (.int 500, []) ∧
      ¬ WithinPages (.int 500) (.float (0.0 / 0.0)) := by
  refine ⟨rfl, rfl, ?_⟩
  unfold WithinPages
  decide

end Storefront
