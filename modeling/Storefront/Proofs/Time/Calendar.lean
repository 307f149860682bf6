import Storefront.Time.Calendar
import Mathlib.Tactic.Set

/-!
# Dates of an ordinal

`ofOrdinal` counts off whole cycles of 400, 100, 4 and 1 years and then month lengths; every
day of the years 1 to 9999 it turns into a valid date whose ordinal is that day again. The
arithmetic of a cycle is stated once (`daysBeforeYear_cycles`, `isLeap_cycles`), and the months
are counted off by one induction over their lengths.

A valid date's ordinal grows with the date taken as year, then month, then day: a day ends no
later than its month and a month no later than its year. So later days have later dates
(`ofOrdinal_before`).
-/

-- sums of naturals start from the core zero, whatever else is in scope
attribute [local instance (1100)] Zero.ofOfNat0

namespace Storefront.Calendar

/-- The lengths of the months of a year, January first. -/
def monthLengths (y : Nat) : List Nat := (List.range 12).map fun i => daysInMonth y (i + 1)

theorem monthLengths_eq (y : Nat) : monthLengths y =
    [31, if isLeap y then 29 else 28, 31, 30, 31, 30, 31, 31, 30, 31, 30, 31] := rfl

theorem daysBeforeMonth_eq {y m : Nat} (small : m ≤ 13) :
    daysBeforeMonth y m = ((monthLengths y).take (m - 1)).sum := by
  rw [daysBeforeMonth, monthLengths, ← List.map_take, List.take_range, Nat.min_eq_left (by omega)]

theorem getElem_monthLengths {y j : Nat} (small : j < (monthLengths y).length) :
    (monthLengths y)[j] = daysInMonth y (j + 1) := by
  simp [monthLengths]

theorem sum_monthLengths (y : Nat) : (monthLengths y).sum = if isLeap y then 366 else 365 := by
  rw [monthLengths_eq]
  cases isLeap y <;> rfl

/-- Counting off month lengths from month `m` lands in month `m + j` on its day `d`. -/
theorem monthDay_go (lengths : List Nat) (m n : Nat) (inside : n < lengths.sum) :
    ∃ j, ∃ small : j < lengths.length, monthDay.go lengths m n = (m + j, n + 1 - (lengths.take j).sum) ∧
      (lengths.take j).sum ≤ n ∧ n < (lengths.take j).sum + lengths[j] := by
  induction lengths generalizing m n with
  | nil => simp at inside
  | cons len rest ih =>
    unfold monthDay.go
    split
    · exact ⟨0, by simp, by simp, by simp, by simpa⟩
    · rename_i late
      obtain ⟨j, small, go, before, within⟩ := ih (m + 1) (n - len) (by simp at inside; omega)
      refine ⟨j + 1, by simpa using small, ?_, ?_, ?_⟩
      · rw [go]
        simp only [List.take_succ_cons, List.sum_cons]
        congr 1 <;> omega
      · simp only [List.take_succ_cons, List.sum_cons]
        omega
      · simp only [List.take_succ_cons, List.sum_cons, List.getElem_cons_succ]
        omega

theorem monthDay_spec (y n : Nat) (inside : n < if isLeap y then 366 else 365) :
    ∃ m d, monthDay (isLeap y) n = (m, d) ∧
      1 ≤ m ∧ m ≤ 12 ∧ 1 ≤ d ∧ d ≤ daysInMonth y m ∧ daysBeforeMonth y m + d = n + 1 := by
  obtain ⟨j, small, go, before, within⟩ := monthDay_go (monthLengths y) 1 n (by rwa [sum_monthLengths])
  have twelve : (monthLengths y).length = 12 := rfl
  refine ⟨1 + j, _, by rw [monthDay, ← monthLengths_eq, go], ?_⟩
  rw [daysBeforeMonth_eq (by omega), Nat.add_sub_cancel_left, Nat.add_comm 1 j,
    ← getElem_monthLengths small]
  omega

theorem daysBeforeYear_cycles (q400 q100 q4 q1 : Nat) (h100 : q100 < 4) (h4 : q4 < 25) (h1 : q1 < 4) :
    daysBeforeYear (q400 * 400 + 1 + q100 * 100 + q4 * 4 + q1) =
      q400 * 146097 + q100 * 36524 + q4 * 1461 + q1 * 365 := by
  dsimp only [daysBeforeYear]
  omega

theorem isLeap_cycles (q400 q100 q4 q1 : Nat) (h100 : q100 < 4) (h4 : q4 < 25) (h1 : q1 < 4) :
    isLeap (q400 * 400 + 1 + q100 * 100 + q4 * 4 + q1) = (q1 == 3 && (q4 != 24 || q100 == 3)) := by
  rw [Bool.eq_iff_iff]
  simp only [isLeap, Bool.and_eq_true, beq_iff_eq, Bool.or_eq_true, bne_iff_ne, ne_eq]
  omega

theorem daysBeforeMonth_december {y : Nat} (leap : isLeap y = true) : daysBeforeMonth y 12 = 335 := by
  rw [daysBeforeMonth_eq (by omega), monthLengths_eq, leap]
  rfl

theorem ofOrdinal_spec {n : Nat} (low : 1 ≤ n) (high : n ≤ lastOrdinal) :
    ∃ y m d, ofOrdinal n = (y, m, d) ∧ valid y m d = true ∧ ordinal y m d = n := by
  unfold ofOrdinal
  dsimp only [days400, days100, days4]
  unfold lastOrdinal at high
  set q400 := (n - 1) / 146097
  set r1 := (n - 1) % 146097
  set q100 := r1 / 36524
  set r2 := r1 % 36524
  set q4 := r2 / 1461
  set r3 := r2 % 1461
  set q1 := r3 / 365
  set r := r3 % 365
  have cycles : n - 1 = q400 * 146097 + q100 * 36524 + q4 * 1461 + q1 * 365 + r := by omega
  have bounds : q100 ≤ 4 ∧ q4 < 25 ∧ q1 ≤ 4 ∧ r < 365 := by omega
  -- a fourth century or a fourth year of a cycle is only ever its last day
  have edges : (q100 = 4 → q4 = 0 ∧ q1 = 0 ∧ r = 0) ∧ (q1 = 4 → q100 < 4 ∧ q4 < 24 ∧ r = 0) := by
    omega
  clear_value q400 r1 q100 r2 q4 r3 q1 r
  split
  · rename_i edge
    simp only [Bool.or_eq_true, beq_iff_eq] at edge
    -- the last day of the year before, a leap year that ends a cycle of four years
    obtain ⟨c100, c4, small100, small4, leapCycle, year, day⟩ : ∃ c100 c4, c100 < 4 ∧ c4 < 25 ∧
        (c4 != 24 || c100 == 3) = true ∧
        q400 * 400 + 1 + q100 * 100 + q4 * 4 + q1 - 1 = q400 * 400 + 1 + c100 * 100 + c4 * 4 + 3 ∧
        n = q400 * 146097 + c100 * 36524 + c4 * 1461 + 1461 := by
      rcases edge with last | last
      · obtain ⟨centuries, years, rfl⟩ := edges.2 last
        refine ⟨q100, q4, centuries, by omega, ?_, by omega, by omega⟩
        simp only [bne_iff_ne, ne_eq, Bool.or_eq_true, beq_iff_eq]
        omega
      · obtain ⟨rfl, rfl, rfl⟩ := edges.1 last
        exact ⟨3, 24, by decide, by decide, rfl, by omega, by omega⟩
    have leap : isLeap (q400 * 400 + 1 + c100 * 100 + c4 * 4 + 3) = true := by
      rw [isLeap_cycles q400 c100 c4 3 small100 small4 (by decide), leapCycle]
      rfl
    rw [year]
    refine ⟨_, _, _, rfl, ?_, ?_⟩
    · simp only [valid, daysInMonth, Bool.and_eq_true, decide_eq_true_eq]
      omega
    · rw [ordinal, daysBeforeMonth_december leap,
        daysBeforeYear_cycles q400 c100 c4 3 small100 small4 (by decide)]
      omega
  · rename_i normal
    simp only [Bool.or_eq_true, beq_iff_eq, not_or] at normal
    rw [← isLeap_cycles q400 q100 q4 q1 (by omega) (by omega) (by omega)]
    obtain ⟨m, d, md, m_low, m_high, d_low, d_high, before⟩ :=
      monthDay_spec (q400 * 400 + 1 + q100 * 100 + q4 * 4 + q1) r (by split <;> omega)
    refine ⟨_, m, d, by rw [md], ?_, ?_⟩
    · simp only [valid, Bool.and_eq_true, decide_eq_true_eq]
      omega
    · rw [ordinal, daysBeforeYear_cycles q400 q100 q4 q1 (by omega) (by omega) (by omega)]
      omega

/-- The days of a year. -/
def yearLength (y : Nat) : Nat := if isLeap y then 366 else 365

theorem isLeap_iff {y : Nat} : isLeap y = true ↔ y % 4 = 0 ∧ (y % 100 ≠ 0 ∨ y % 400 = 0) := by
  simp only [isLeap, Bool.and_eq_true, beq_iff_eq, Bool.or_eq_true, bne_iff_ne, ne_eq]

theorem daysBeforeYear_succ {y : Nat} (pos : 1 ≤ y) :
    daysBeforeYear (y + 1) = daysBeforeYear y + yearLength y := by
  obtain ⟨p, rfl⟩ : ∃ p, y = p + 1 := ⟨y - 1, by omega⟩
  have next : daysBeforeYear (p + 1 + 1) =
      (p + 1) * 365 + (p + 1) / 4 - (p + 1) / 100 + (p + 1) / 400 := rfl
  have here : daysBeforeYear (p + 1) = p * 365 + p / 4 - p / 100 + p / 400 := rfl
  rw [next, here, yearLength]
  by_cases leap : isLeap (p + 1) = true
  · have := isLeap_iff.1 leap
    rw [if_pos leap]
    omega
  · have := mt isLeap_iff.2 leap
    rw [if_neg leap]
    omega

theorem daysBeforeYear_le_succ (y : Nat) : daysBeforeYear y ≤ daysBeforeYear (y + 1) := by
  cases y with
  | zero => exact Nat.zero_le _
  | succ y =>
    rw [daysBeforeYear_succ (y := y + 1) (by omega)]
    exact Nat.le_add_right _ _

theorem daysBeforeYear_mono {y y' : Nat} (le : y ≤ y') : daysBeforeYear y ≤ daysBeforeYear y' := by
  obtain ⟨k, rfl⟩ := Nat.exists_eq_add_of_le le
  induction k with
  | zero => exact Nat.le_refl _
  | succ k ih => exact Nat.le_trans (ih (by omega)) (daysBeforeYear_le_succ _)

theorem daysBeforeMonth_succ (y : Nat) {m : Nat} (low : 1 ≤ m) (high : m ≤ 12) :
    daysBeforeMonth y (m + 1) = daysBeforeMonth y m + daysInMonth y m := by
  rw [daysBeforeMonth_eq (by omega), daysBeforeMonth_eq (by omega), Nat.add_sub_cancel,
    show m = m - 1 + 1 by omega, List.take_add_one, Nat.add_sub_cancel, List.sum_append]
  rw [List.getElem?_eq_getElem (by simp [monthLengths]; omega), Option.toList_some,
    List.sum_singleton, getElem_monthLengths]

theorem daysBeforeMonth_mono (y : Nat) {m m' : Nat} (low : 1 ≤ m) (le : m ≤ m') (high : m' ≤ 13) :
    daysBeforeMonth y m ≤ daysBeforeMonth y m' := by
  obtain ⟨k, rfl⟩ := Nat.exists_eq_add_of_le le
  induction k with
  | zero => exact Nat.le_refl _
  | succ k ih =>
    rw [← Nat.add_assoc, daysBeforeMonth_succ y (by omega) (by omega)]
    exact Nat.le_add_right_of_le (ih (by omega) (by omega))

theorem daysBeforeMonth_thirteen (y : Nat) : daysBeforeMonth y 13 = yearLength y := by
  rw [daysBeforeMonth_eq (by omega), yearLength, ← sum_monthLengths]
  rfl

/-- A day of a month ends no later than the month does. -/
theorem day_within {y m d : Nat} (valid : valid y m d = true) :
    daysBeforeMonth y m + d ≤ daysBeforeMonth y (m + 1) := by
  simp only [Calendar.valid, Bool.and_eq_true, decide_eq_true_eq] at valid
  rw [daysBeforeMonth_succ y (by omega) (by omega)]
  omega

/-- Of two dates, the earlier one in the order of year, month and day has the smaller ordinal. -/
theorem ordinal_lt_ordinal {y m d y' m' d' : Nat} (valid : valid y m d = true)
    (valid' : Calendar.valid y' m' d' = true)
    (before : y < y' ∨ y = y' ∧ (m < m' ∨ m = m' ∧ d < d')) :
    ordinal y m d < ordinal y' m' d' := by
  have within := day_within valid
  simp only [Calendar.valid, Bool.and_eq_true, decide_eq_true_eq] at valid valid'
  unfold ordinal
  rcases before with earlierYear | ⟨rfl, earlierMonth | ⟨rfl, earlierDay⟩⟩
  · -- the whole year of the first date lies before the second's
    have yearEnd : daysBeforeMonth y (m + 1) ≤ yearLength y := by
      rw [← daysBeforeMonth_thirteen]
      exact daysBeforeMonth_mono y (by omega) (by omega) (by omega)
    have years := daysBeforeYear_mono (show y + 1 ≤ y' by omega)
    rw [daysBeforeYear_succ (by omega)] at years
    omega
  · have months := daysBeforeMonth_mono y (show 1 ≤ m + 1 by omega) (show m + 1 ≤ m' by omega)
      (by omega)
    omega
  · omega

/-- Later days of the calendar have later dates. -/
theorem ofOrdinal_before {n n' : Nat} (low : 1 ≤ n) (lt : n < n') (high : n' ≤ lastOrdinal) :
    (ofOrdinal n).1 < (ofOrdinal n').1 ∨ (ofOrdinal n).1 = (ofOrdinal n').1 ∧
      ((ofOrdinal n).2.1 < (ofOrdinal n').2.1 ∨ (ofOrdinal n).2.1 = (ofOrdinal n').2.1 ∧
        (ofOrdinal n).2.2 < (ofOrdinal n').2.2) := by
  obtain ⟨y, m, d, date, valid, ordinalOf⟩ := ofOrdinal_spec low (by omega)
  obtain ⟨y', m', d', date', valid', ordinalOf'⟩ := ofOrdinal_spec (by omega) high
  rw [date, date']
  dsimp only
  refine Decidable.byContradiction fun notBefore => ?_
  -- otherwise the second date is the first or comes before it
  have after : (y' < y ∨ y' = y ∧ (m' < m ∨ m' = m ∧ d' < d)) ∨ (y' = y ∧ m' = m ∧ d' = d) := by
    omega
  rcases after with earlier | ⟨rfl, rfl, rfl⟩
  · have := ordinal_lt_ordinal valid' valid earlier
    omega
  · omega

end Storefront.Calendar
