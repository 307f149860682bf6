/-!
# The proleptic Gregorian calendar

Days are counted by ordinal: 0001-01-01 is day 1. `ordinal` and `ofOrdinal` convert between
ordinals and dates of years 1 to 9999.
-/

-- sums of naturals start from the core zero, whatever else is in scope
attribute [local instance (1100)] Zero.ofOfNat0

namespace Storefront.Calendar

/-- A leap year: divisible by four, and by four hundred when divisible by a hundred. -/
def isLeap (y : Nat) : Bool := y % 4 == 0 && (y % 100 != 0 || y % 400 == 0)

/-- The number of days in a month of a year. -/
def daysInMonth (y m : Nat) : Nat :=
  match m with
  | 1 | 3 | 5 | 7 | 8 | 10 | 12 => 31
  | 4 | 6 | 9 | 11 => 30
  | 2 => if isLeap y then 29 else 28
  | _ => 0

/-- Days in the years before year `y`. -/
def daysBeforeYear (y : Nat) : Nat :=
  let p := y - 1
  p * 365 + p / 4 - p / 100 + p / 400

/-- Days in the months of year `y` before month `m`. -/
def daysBeforeMonth (y m : Nat) : Nat :=
  ((List.range (m - 1)).map fun i => daysInMonth y (i + 1)).sum

/-- The ordinal of a date. -/
def ordinal (y m d : Nat) : Nat := daysBeforeYear y + daysBeforeMonth y m + d

/-- A date is valid: year 1 to 9999, month 1 to 12, a day of that month. -/
def valid (y m d : Nat) : Bool :=
  1 ≤ y && y ≤ 9999 && 1 ≤ m && m ≤ 12 && 1 ≤ d && d ≤ daysInMonth y m

/-- The ordinal of 9999-12-31, the last day. -/
def lastOrdinal : Nat := 3652059

/-- Days in 400, 100 and 4 years. -/
def days400 : Nat := 146097
def days100 : Nat := 36524
def days4 : Nat := 1461

/-- The month and day of the `n`-th day (from 0) of a year. -/
def monthDay (leap : Bool) (n : Nat) : Nat × Nat :=
  let lengths := [31, if leap then 29 else 28, 31, 30, 31, 30, 31, 31, 30, 31, 30, 31]
  let rec go : List Nat → Nat → Nat → Nat × Nat
    | [], m, n => (m, n + 1)
    | len :: rest, m, n => if n < len then (m, n + 1) else go rest (m + 1) (n - len)
  go lengths 1 n

/-- The date of an ordinal (at least 1): whole cycles of 400, 100, 4 and 1 years first. -/
def ofOrdinal (n : Nat) : Nat × Nat × Nat :=
  let n := n - 1
  let n400 := n / days400
  let n := n % days400
  let n100 := n / days100
  let n := n % days100
  let n4 := n / days4
  let n := n % days4
  let n1 := n / 365
  let n := n % 365
  let year := n400 * 400 + 1 + n100 * 100 + n4 * 4 + n1
  if n1 == 4 || n100 == 4 then (year - 1, 12, 31)
  else
    let leap := n1 == 3 && (n4 != 24 || n100 == 3)
    let (m, d) := monthDay leap n
    (year, m, d)

theorem ofOrdinal_samples :
    ofOrdinal (ordinal 2000 2 29) = (2000, 2, 29) ∧ ofOrdinal (ordinal 1900 3 1) = (1900, 3, 1) ∧
    ofOrdinal (ordinal 9999 12 31) = (9999, 12, 31) ∧ ofOrdinal (ordinal 1 1 1) = (1, 1, 1) ∧
    ofOrdinal (ordinal 2024 12 31) = (2024, 12, 31) := by decide

end Storefront.Calendar
