import Storefront.Proofs.Page.Select
import Storefront.Proofs.Page.Token

/-!
# Unix nanoseconds

The Unix nanoseconds of a reading are found by taking the span from the epoch to its UTC form
apart into days, seconds and microseconds, as the runtime holds a span, and putting the parts
together again. A count of nanoseconds is read back as the epoch moved by its floor in
microseconds.

The parts add up to the span, so the nanoseconds are a thousand times the exact microseconds
since the epoch. Reading them back gives the UTC form, they order instants as the instants are
ordered, and reading a count back and taking its nanoseconds again drops what lies below the
microsecond. Every count of 64 bits reads back on the calendar, so the position of a page token
always does.
-/

namespace Storefront

namespace Span

/-- The whole days of a span are its floor quotient by a day. -/
theorem days_eq (us : Int) : days us = us / microsPerDay :=
  Int.fdiv_eq_ediv_of_nonneg us (by decide)

/-- Days, seconds and microseconds put together give the span back. -/
theorem recombine (us : Int) : (days us * 86400 + seconds us) * 1000000 + micros us = us := by
  have rest : 0 ≤ (us - days us * microsPerDay) / 1000000 := by
    rw [days_eq]
    unfold microsPerDay
    omega
  have secs : (seconds us : Int) = (us - days us * microsPerDay) / 1000000 :=
    Int.toNat_of_nonneg rest
  have mics : (micros us : Int) = us % 1000000 :=
    Int.toNat_of_nonneg (Int.emod_nonneg _ (by decide))
  rw [secs, mics, days_eq]
  unfold microsPerDay
  omega

end Span

namespace DateTime

/-- The Unix nanoseconds of a reading are a thousand times the microseconds from the epoch to its
UTC form. -/
theorem toNanos?_eq (t : DateTime) :
    t.toNanos? = t.asUtc.map fun u => (u.wall - epochWall) * 1000 := by
  unfold toNanos?
  congr 1
  funext u
  dsimp only
  have parts := Span.recombine (u.wall - epochWall)
  omega

/-- Nanoseconds exist exactly for a reading whose UTC wall clock is on the calendar. -/
theorem toNanos?_eq_some_iff {t : DateTime} {n : Int} :
    t.toNanos? = some n ↔ inRange t.utcWall ∧ n = (t.utcWall - epochWall) * 1000 := by
  rw [toNanos?_eq]
  cases utc : t.asUtc with
  | none =>
    have offCalendar : inRange t.utcWall = false := by
      unfold asUtc at utc
      dsimp only at utc
      split at utc <;> simp_all
    simp [offCalendar]
  | some u =>
    obtain ⟨onCalendar, rfl⟩ := asUtc_eq_some_iff.1 utc
    simp only [Option.map_some, Option.some.injEq, onCalendar, true_and]
    exact eq_comm

/-- The reading on the calendar some nanoseconds stand for, at their floor in microseconds. -/
theorem fromNanos_int_utc {n : Int} (onCalendar : inRange (epochWall + Int.fdiv n 1000)) :
    ∃ t, Value.fromNanos (.int n) = .ok t ∧ t.utcWall = epochWall + n / 1000 ∧
      inRange t.utcWall := by
  refine ⟨_, fromNanos_int onCalendar, ?_, ?_⟩
  · simp [utcWall, Int.fdiv_eq_ediv_of_nonneg n (show (0 : Int) ≤ 1000 by decide)]
  · simpa [utcWall] using onCalendar

end DateTime

/-- The microseconds from the Unix epoch to the instant of a date, a time of day and an offset:
the days from 1970-01-01 to the date, the time of day, less the offset, with a naive reading
taken as UTC. -/
def Calendar.microsSinceEpoch (y mo d h mi s us : Nat) (offset : Option Int) : Int :=
  (((Calendar.ordinal y mo d : Int) - Calendar.ordinal 1970 1 1) * 86400 +
    ((h * 60 + mi) * 60 + s : Nat)) * 1000000 + us - offset.getD 0

namespace DateTime

/-- The nanoseconds of a reading made from its parts are a thousand times the exact microseconds
from the epoch to it. -/
theorem toNanos?_ofParts {y mo d h mi s us : Nat} {offset : Option Int} {t : DateTime}
    (parts : ofParts? y mo d h mi s us offset = some t) (onCalendar : inRange t.utcWall) :
    t.toNanos? = some (1000 * Calendar.microsSinceEpoch y mo d h mi s us offset) := by
  unfold ofParts? at parts
  split at parts
  · cases parts
    have epoch : Calendar.ordinal 1970 1 1 = 719163 := by decide
    rw [toNanos?_eq_some_iff.2 ⟨onCalendar, rfl⟩, Calendar.microsSinceEpoch, epoch]
    simp only [utcWall, epochWall, microsPerDay, Option.some.injEq]
    ring
  · cases parts

/-- Reading back the nanoseconds of a reading on the calendar gives its UTC form. -/
theorem fromNanos_toNanos {t u : DateTime} (utc : t.asUtc = some u) :
    ∃ n, t.toNanos? = some n ∧ Value.fromNanos (.int n) = .ok u := by
  obtain ⟨onCalendar, rfl⟩ := asUtc_eq_some_iff.1 utc
  have floor : Int.fdiv ((t.utcWall - epochWall) * 1000) 1000 = t.utcWall - epochWall :=
    Int.mul_fdiv_cancel _ (by decide)
  have back : epochWall + (t.utcWall - epochWall) = t.utcWall := by omega
  refine ⟨_, toNanos?_eq_some_iff.2 ⟨onCalendar, rfl⟩, ?_⟩
  rw [fromNanos_int (by rw [floor, back]; exact onCalendar), floor, back]

/-- Two readings in UTC come one before the other exactly as their nanoseconds do. -/
theorem test_lt_iff_toNanos {t₁ t₂ u₁ u₂ : DateTime} {n₁ n₂ : Int} (utc₁ : t₁.asUtc = some u₁)
    (utc₂ : t₂.asUtc = some u₂) (nanos₁ : t₁.toNanos? = some n₁) (nanos₂ : t₂.toNanos? = some n₂) :
    Value.test .lt (.time u₁) (.time u₂) = some true ↔ n₁ < n₂ := by
  obtain ⟨-, rfl⟩ := asUtc_eq_some_iff.1 utc₁
  obtain ⟨-, rfl⟩ := asUtc_eq_some_iff.1 utc₂
  obtain ⟨-, rfl⟩ := toNanos?_eq_some_iff.1 nanos₁
  obtain ⟨-, rfl⟩ := toNanos?_eq_some_iff.1 nanos₂
  simp only [Value.test, comparable, cmp, utcWall, Option.isSome_some, beq_self_eq_true,
    if_true, Option.getD_some, Int.sub_zero, CmpOp.lt_holds_compare, Option.some.injEq,
    decide_eq_true_eq]
  omega

/-- Reading back some nanoseconds and taking the nanoseconds again drops what lies below the
microsecond, toward the past. -/
theorem toNanos_fromNanos {n : Int} (onCalendar : inRange (epochWall + Int.fdiv n 1000)) :
    ∃ t, Value.fromNanos (.int n) = .ok t ∧ t.toNanos? = some (n - n % 1000) := by
  obtain ⟨t, read, wall, onCalendar'⟩ := fromNanos_int_utc onCalendar
  refine ⟨t, read, toNanos?_eq_some_iff.2 ⟨onCalendar', ?_⟩⟩
  rw [wall]
  omega

/-- Every count of nanoseconds of 64 bits reads back on the calendar: the years 1677 to 2262. -/
theorem inRange_of_int64 {n : Int} (low : Cursor.least ≤ n) (high : n ≤ Cursor.greatest) :
    inRange (epochWall + Int.fdiv n 1000) := by
  rw [Int.fdiv_eq_ediv_of_nonneg n (by decide)]
  unfold Cursor.least Cursor.greatest at *
  simp only [inRange, wallEnd, epochWall, microsPerDay, Calendar.lastOrdinal, Bool.and_eq_true]
  constructor <;> apply decide_eq_true <;> omega

end DateTime

/-- The position of every page token that reads back is on the calendar. -/
theorem fromNanos_of_token {token : String} {cur : Cursor} (read : Cursor.ofToken token = .ok cur) :
    ∃ u, Value.fromNanos (.int cur.timestamp) = .ok u := by
  obtain ⟨-, -, -, -, -, low, high, -⟩ :=
    Cursor.ofToken?_eq_some_iff.1 (Cursor.ofToken_eq_ok_iff.1 read)
  exact ⟨_, fromNanos_int (DateTime.inRange_of_int64 low high)⟩

/-- The laws of Unix nanoseconds: for a reading on the calendar, naive or aware, its
nanoseconds are a thousand times the exact microseconds since the epoch, they read back as its
UTC form, and they order readings as their UTC forms are ordered; a count that reads back on the
calendar gives its nanoseconds again cut to the microsecond toward the past; every count of 64
bits reads back on the calendar, so the position of every page token does. -/
theorem nanos_conversion_laws :
    (∀ y mo d h mi s us offset t, DateTime.ofParts? y mo d h mi s us offset = some t →
      DateTime.inRange t.utcWall →
      t.toNanos? = some (1000 * Calendar.microsSinceEpoch y mo d h mi s us offset)) ∧
    (∀ t u : DateTime, t.asUtc = some u →
      u.offset = some 0 ∧ ∃ n, t.toNanos? = some n ∧ Value.fromNanos (.int n) = .ok u) ∧
    (∀ (t₁ t₂ u₁ u₂ : DateTime) (n₁ n₂ : Int), t₁.asUtc = some u₁ → t₂.asUtc = some u₂ →
      t₁.toNanos? = some n₁ → t₂.toNanos? = some n₂ →
      (Value.test .lt (.time u₁) (.time u₂) = some true ↔ n₁ < n₂)) ∧
    (∀ n : Int, DateTime.inRange (DateTime.epochWall + Int.fdiv n 1000) →
      ∃ t, Value.fromNanos (.int n) = .ok t ∧ t.toNanos? = some (n - n % 1000)) ∧
    (∀ n : Int, Cursor.least ≤ n → n ≤ Cursor.greatest →
      DateTime.inRange (DateTime.epochWall + Int.fdiv n 1000)) ∧
    (∀ (token : String) (cur : Cursor), Cursor.ofToken token = .ok cur →
      ∃ u, Value.fromNanos (.int cur.timestamp) = .ok u) := by
  refine ⟨fun _ _ _ _ _ _ _ _ _ parts onCalendar => DateTime.toNanos?_ofParts parts onCalendar,
    fun t u utc => ⟨?_, DateTime.fromNanos_toNanos utc⟩,
    fun _ _ _ _ _ _ => DateTime.test_lt_iff_toNanos,
    fun _ => DateTime.toNanos_fromNanos,
    fun _ => DateTime.inRange_of_int64,
    fun _ _ => fromNanos_of_token⟩
  rw [(DateTime.asUtc_eq_some_iff.1 utc).2]

end Storefront
