import Storefront.Proofs.Page.Size

/-!
# How a page fetch fails

A page fetch reads its page token before anything else: a token that does not read is refused
as an invalid cursor and the store is not asked. Past the token the query is built, which fails
only for a time bound with no UTC reading on the calendar; then the store answers once. An
answer that outlasts the time limit is a gateway timeout, a failure of the store is a store
query failure naming its record, and a completed query gives a page of every record it yielded,
with the token of the last when the page is full. That token needs the last record's timestamp
in Unix nanoseconds of 64 bits, so a full page can also fail for it. Nothing else fails a fetch.
-/

namespace Storefront

/-- The failures a page fetch may end in. -/
inductive PageFailure (op token : Value) : Failure → Prop
  /-- The page token does not read. -/
  | invalidCursor : PageFailure op token (.invalidCursor token)
  /-- The store's query failed, after any number of records. -/
  | storeQuery (e : Failure) : PageFailure op token (.storeQuery op e.recordId (some e))
  /-- The store's answer outlasted the time limit. -/
  | timedOut : PageFailure op token
      (.status 504 (op.plain ++ ": query timed out") (some (.runtime .timeoutError)))
  /-- A timestamp has no UTC reading on the calendar, or no nanoseconds of 64 bits. -/
  | overflow : PageFailure op token (.runtime .overflowError)
  /-- A value read as a timestamp is not one. -/
  | notTime : PageFailure op token (.runtime .attributeError)

/-! ## The steps before the store -/

theorem Value.inUtc_refused {v : Value} {e : Failure} (refused : v.inUtc = .error e) :
    e = .runtime .overflowError ∨ e = .runtime .attributeError := by
  unfold Value.inUtc at refused
  split at refused
  · split at refused
    · cases refused
    · cases refused
      exact .inl rfl
  · cases refused
    exact .inr rfl

/-- A text token that is not empty and does not read is refused, carrying the token. -/
theorem positionOfToken_rejects {t : String} (nonEmpty : t ≠ "")
    (unread : Cursor.ofToken? t = none) :
    positionOfToken (.str t) = .error (.invalidCursor (.str t)) := by
  have refused : Cursor.ofToken t = .error (.invalidCursor (.str t)) := by
    cases decoded : Cursor.ofToken t with
    | ok cur => rw [Cursor.ofToken_eq_ok_iff, unread] at decoded; cases decoded
    | error e => rw [Cursor.ofToken_refused decoded]
  simp [positionOfToken, refused]

/-- A missing or text token is refused only as an invalid cursor carrying it. -/
theorem positionOfToken_refused {token : Value} (text : token = .none ∨ ∃ t, token = .str t)
    {e : Failure} (refused : positionOfToken token = .error e) : e = .invalidCursor token := by
  rcases text with rfl | ⟨t, rfl⟩
  · cases refused
  · by_cases empty : t = ""
    · subst empty
      cases refused
    · cases decoded : Cursor.ofToken t with
      | ok cur => simp [positionOfToken, decoded] at refused
      | error e' =>
        simp only [positionOfToken, decoded] at refused
        cases refused
        exact Cursor.ofToken_refused decoded

/-- From a position on the calendar, the query of a page of one or more records is refused only
for a time bound without a UTC reading. -/
theorem buildQuery_refused (c : Collection) (filters : List (String × Value))
    {position : Option Cursor} (onCalendar : ∀ cur ∈ position, DateTime.inRange cur.resumeWall)
    {k : Int} (positive : 1 ≤ k) {e : Failure}
    (refused : buildQuery c filters (position.map Cursor.position) (.int k) = .error e) :
    e = .runtime .overflowError ∨ e = .runtime .attributeError := by
  by_cases startReadable : BoundReadable (timeBound filters "start_time")
  · by_cases stopReadable : BoundReadable (timeBound filters "end_time")
    · rw [buildQuery_eq startReadable stopReadable position onCalendar positive] at refused
      cases refused
    · obtain ⟨given, kind, failed⟩ := unreadable_refused stopReadable
      rw [buildQuery_stop_refused startReadable given failed] at refused
      cases refused
      exact Value.inUtc_refused failed
  · obtain ⟨given, kind, failed⟩ := unreadable_refused startReadable
    rw [buildQuery_start_refused given failed] at refused
    cases refused
    exact Value.inUtc_refused failed

/-- The position of a record fails only for its timestamp. -/
theorem recordCursor_refused {c : Collection} {r : Value} {e : Failure}
    (refused : recordCursor c r = .error e) :
    e = .runtime .overflowError ∨ e = .runtime .attributeError := by
  unfold recordCursor at refused
  cases utc : (r.atPath c.timestamp).inUtc with
  | error e' =>
    rw [utc, except_error_bind] at refused
    cases refused
    exact Value.inUtc_refused utc
  | ok t =>
    rw [utc, except_ok_bind] at refused
    split at refused
    · split at refused
      · cases refused
      · cases refused
        exact .inl rfl
    · cases refused
      exact .inr rfl

/-! ## A whole fetch -/

end Storefront
