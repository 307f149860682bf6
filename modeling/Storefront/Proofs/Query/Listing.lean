import Storefront.Proofs.Time.Nanos

/-!
# The query of a listing

`buildQuery` runs its five stages on a new query, each adding clauses of a rank no lower than
the last, so no stage is ever refused for coming too late. What it does refuse is a time bound
that cannot be read in UTC: a timestamp whose UTC reading leaves the calendar (an overflow) or a
bound that is not a timestamp at all, the start bound first. Past the bounds, a limit below one
is refused, and any other limit gives the listing's query (`listingQuery`): the truthy equality
filters in the collection's order, the time bounds in UTC, order by timestamp and id, the
position of the page token, and the limit.
-/

namespace Storefront

/-- The refusal of a limit below one. -/
def limitRefused : Failure := Failure.valueError "limit must be positive"

theorem limited_below {q : Query} {k : Int} (below : k < 1) :
    q.limited (.int k) = .error limitRefused := by
  have refused : CmpOp.lt.holds (compare k 1) = true := by
    rw [CmpOp.lt_holds_compare]
    exact decide_eq_true below
  simp [Query.limited, Value.test_int, refused, limitRefused]

/-- A bound that cannot be read in UTC is given, and reading it fails as the runtime fails. -/
theorem unreadable_refused {v : Value} (unreadable : ¬ BoundReadable v) :
    v.isNone = false ∧ ∃ kind, v.inUtc = .error (.runtime kind) := by
  cases v with
  | none => exact absurd (.inl rfl) unreadable
  | time t =>
    cases utc : t.asUtc with
    | none => exact ⟨rfl, .overflowError, by simp [Value.inUtc, utc]⟩
    | some u => exact absurd (.inr ⟨t, u, rfl, utc⟩) unreadable
  | _ => exact ⟨rfl, .attributeError, rfl⟩

section Stages

variable {c : Collection} {filters : List (String × Value)}

/-- A given time bound whose UTC reading fails stops the range stage with that failure. -/
theorem rangeStep_refused (q : Query) {v : Value} {e : Failure} (given : v.isNone = false)
    (refused : v.inUtc = .error e) (symbol : String) :
    (if v.isNone then pure q else do q.filter (.str c.timestamp) (.str symbol) (← v.inUtc)) =
      (Except.error e : Except Failure Query) := by
  simp [given, refused]

/-- With both bounds readable and a page token of 64 bits, every stage before the limit goes
through, to a query that a limit may still be added to. -/
theorem buildQuery_eq_limited (startReadable : BoundReadable (timeBound filters "start_time"))
    (stopReadable : BoundReadable (timeBound filters "end_time")) (position : Option Cursor)
    (onCalendar : ∀ cur ∈ position, DateTime.inRange cur.resumeWall) (size : Value) :
    ∃ q : Query, q.stage ≤ Clause.limit.rank ∧
      buildQuery c filters (position.map Cursor.position) size = q.limited size := by
  unfold buildQuery
  rw [equalityStage_eq { collection := c.name } rfl, except_ok_bind]
  obtain ⟨n, early, ranged⟩ := @timeRangeStage_eq c filters
    { collection := c.name, predicates := [] ++ c.equality.filterMap (equalityPredicate? filters) }
    rfl startReadable stopReadable
  rw [ranged, except_ok_bind]
  have inOrder : ¬ Clause.orderBy.rank < n := by simp [Clause.rank]; omega
  simp only [Query.orderedBy, Query.advance, inOrder, if_false, except_pure_eq_ok, except_ok_bind]
  cases position with
  | none => exact ⟨_, by simp [Clause.rank], rfl⟩
  | some cur =>
    have resumes := fromNanos_int (onCalendar cur rfl)
    simp only [Option.map_some, Cursor.position, Position.resumeValues, resumes, except_ok_bind,
      except_pure_eq_ok, Query.after, Query.advance]
    refine ⟨?_, ?stage, ?built⟩
    case built =>
      simp only [Clause.rank, List.length_cons, List.length_append]
      rfl
    case stage => simp [Clause.rank]

/-- A given start bound whose UTC reading fails stops the range stage with that failure. -/
theorem timeRangeStage_start_refused (q : Query) {e : Failure}
    (given : (timeBound filters "start_time").isNone = false)
    (refused : (timeBound filters "start_time").inUtc = .error e) :
    timeRangeStage c filters q = .error e := by
  unfold timeRangeStage
  unfold timeBound at given refused
  simp [given, refused]

/-- Past a readable start bound, a given end bound whose UTC reading fails stops the range stage
with that failure. -/
theorem timeRangeStage_stop_refused (q : Query) (fresh : q.stage = 0) {e : Failure}
    (startReadable : BoundReadable (timeBound filters "start_time"))
    (given : (timeBound filters "end_time").isNone = false)
    (refused : (timeBound filters "end_time").inUtc = .error e) :
    timeRangeStage c filters q = .error e := by
  unfold timeRangeStage
  dsimp only
  simp only [← bind_assoc, Sorting.ite_bind_same]
  rw [rangeStep_eq (c := c) (v := (Value.lookup filters "start_time").getD .none) q startReadable
    ">=" rfl (by decide) (by omega), except_ok_bind]
  exact rangeStep_refused (c := c) (v := (Value.lookup filters "end_time").getD .none) _ given
    refused "<"

/-- A given start bound that cannot be read in UTC is refused, whatever the rest. -/
theorem buildQuery_start_refused {e : Failure}
    (given : (timeBound filters "start_time").isNone = false)
    (refused : (timeBound filters "start_time").inUtc = .error e) (position : Option Position)
    (size : Value) : buildQuery c filters position size = .error e := by
  unfold buildQuery
  rw [equalityStage_eq { collection := c.name } rfl, except_ok_bind,
    timeRangeStage_start_refused _ given refused, except_error_bind]

/-- Past a readable start bound, a given end bound that cannot be read in UTC is refused. -/
theorem buildQuery_stop_refused {e : Failure}
    (startReadable : BoundReadable (timeBound filters "start_time"))
    (given : (timeBound filters "end_time").isNone = false)
    (refused : (timeBound filters "end_time").inUtc = .error e) (position : Option Position)
    (size : Value) : buildQuery c filters position size = .error e := by
  unfold buildQuery
  rw [equalityStage_eq { collection := c.name } rfl, except_ok_bind,
    timeRangeStage_stop_refused _ rfl startReadable given refused, except_error_bind]

end Stages

/-- What `buildQuery` does for every collection, every filters, every page token of 64 bits
and every integer limit. It is never refused for its stage order. A given start bound, then a
given end bound, that cannot be read in UTC makes it fail as that reading fails. With both
bounds readable it is refused for the limit exactly when the limit is below one, and otherwise
returns the listing's query. -/
theorem buildQuery_stages_spec (c : Collection) (filters : List (String × Value))
    (cursor : Option Cursor)
    (int64 : ∀ cur ∈ cursor, Cursor.least ≤ cur.timestamp ∧ cur.timestamp ≤ Cursor.greatest)
    (k : Int) :
    buildQuery c filters (cursor.map Cursor.position) (.int k) ≠ .error Query.outOfOrder ∧
    (∀ e, (timeBound filters "start_time").isNone = false →
      (timeBound filters "start_time").inUtc = .error e →
      buildQuery c filters (cursor.map Cursor.position) (.int k) = .error e) ∧
    (∀ e, BoundReadable (timeBound filters "start_time") →
      (timeBound filters "end_time").isNone = false →
      (timeBound filters "end_time").inUtc = .error e →
      buildQuery c filters (cursor.map Cursor.position) (.int k) = .error e) ∧
    (BoundReadable (timeBound filters "start_time") → BoundReadable (timeBound filters "end_time") →
      (buildQuery c filters (cursor.map Cursor.position) (.int k) =
          .error (Failure.valueError "limit must be positive") ↔ k < 1) ∧
      (1 ≤ k → buildQuery c filters (cursor.map Cursor.position) (.int k) =
          .ok (listingQuery c filters cursor k))) := by
  have onCalendar : ∀ cur ∈ cursor, DateTime.inRange cur.resumeWall := fun cur mem =>
    DateTime.inRange_of_int64 (int64 cur mem).1 (int64 cur mem).2
  -- with readable bounds only the limit can be refused
  have readable : BoundReadable (timeBound filters "start_time") →
      BoundReadable (timeBound filters "end_time") →
      (buildQuery c filters (cursor.map Cursor.position) (.int k) = .error limitRefused ↔ k < 1) ∧
      (1 ≤ k → buildQuery c filters (cursor.map Cursor.position) (.int k) =
        .ok (listingQuery c filters cursor k)) := by
    intro startReadable stopReadable
    have built := fun positive : 1 ≤ k =>
      buildQuery_eq (c := c) startReadable stopReadable cursor onCalendar positive
    refine ⟨⟨fun refused => ?_, fun below => ?_⟩, built⟩
    · by_contra notBelow
      rw [built (by omega)] at refused
      cases refused
    · obtain ⟨q, -, limited⟩ := buildQuery_eq_limited startReadable stopReadable cursor onCalendar
        (.int k)
      rw [limited, limited_below below]
  refine ⟨?_, fun e given refused => buildQuery_start_refused given refused _ _,
    fun e startReadable given refused => buildQuery_stop_refused startReadable given refused _ _,
    readable⟩
  intro outOfOrder
  by_cases startReadable : BoundReadable (timeBound filters "start_time")
  · by_cases stopReadable : BoundReadable (timeBound filters "end_time")
    · by_cases below : k < 1
      · rw [((readable startReadable stopReadable).1.mpr below)] at outOfOrder
        simp [limitRefused, Query.outOfOrder, Failure.valueError] at outOfOrder
      · rw [(readable startReadable stopReadable).2 (by omega)] at outOfOrder
        cases outOfOrder
    · obtain ⟨given, kind, refused⟩ := unreadable_refused stopReadable
      rw [buildQuery_stop_refused startReadable given refused] at outOfOrder
      simp [Query.outOfOrder, Failure.valueError] at outOfOrder
  · obtain ⟨given, kind, refused⟩ := unreadable_refused startReadable
    rw [buildQuery_start_refused given refused] at outOfOrder
    simp [Query.outOfOrder, Failure.valueError] at outOfOrder


/-- A listing of the tasks of one order, resuming after a token just before the epoch, asks for
the order's tasks after that token's position, a hundred at most. -/
theorem listing_query_after_token :
    (∀ cur ∈ some (⟨-255, "y"⟩ : Cursor), Cursor.least ≤ cur.timestamp ∧
      cur.timestamp ≤ Cursor.greatest) ∧
    buildQuery Collection.tasks [("order_id", .str "o1")] (some (Cursor.position ⟨-255, "y"⟩))
        (.int 100) =
      .ok (listingQuery Collection.tasks [("order_id", .str "o1")] (some ⟨-255, "y"⟩) 100) := by
  have int64 : ∀ cur ∈ some (⟨-255, "y"⟩ : Cursor), Cursor.least ≤ cur.timestamp ∧
      cur.timestamp ≤ Cursor.greatest := by
    simp [Cursor.least, Cursor.greatest]
  have noBound : ∀ name, name ≠ "order_id" →
      timeBound [("order_id", .str "o1")] name = .none := by
    intro name other
    simp [timeBound, Value.lookup, Ne.symm other]
  exact ⟨int64, ((buildQuery_stages_spec Collection.tasks _ _ int64 100).2.2.2
    (.inl (noBound _ (by decide))) (.inl (noBound _ (by decide)))).2 (by decide)⟩

/-- A start bound at the first hour of the calendar an hour east of UTC has no UTC reading, so
even a limit of zero is refused for the overflow and not for the limit. -/
theorem listing_bound_off_calendar_overflows :
    buildQuery Collection.orders [("start_time", .time ⟨0, some 3600000000⟩)] none (.int 0) =
      .error (.runtime .overflowError) :=
  buildQuery_start_refused rfl (by simp [timeBound, Value.lookup, Value.inUtc, DateTime.asUtc,
    DateTime.utcWall, DateTime.inRange]) none (.int 0)

end Storefront
