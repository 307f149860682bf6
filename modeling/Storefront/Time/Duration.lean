import Storefront.Time.DateTime

/-!
# Spans of time

A span of time is a whole number of microseconds, which the runtime shows as days, seconds
and microseconds with the last two never negative, and holds to at most 999999999 days
either way. Its text is the hours, minutes and seconds of the last day, after the count of
whole days when there are any, and the microseconds when there are any.

A span made from counts of units takes each count's whole part exactly; a float count's
fraction is multiplied by its unit in floating point, whose whole part is exact again and
whose fraction is left over. The fractions left over are added up in floating point and
rounded to the nearest microsecond, halves to the even total. A span scaled by a float or
divided by a number is rounded to the nearest microsecond, halves to even, on the exact
value.
-/

-- powers of naturals and integers are the core ones, whatever else is in scope
attribute [local instance (1100)] instPowNat

namespace Storefront.Span

/-- The most days a span holds either way. -/
def maxDays : Int := 999999999

/-- Whether a span's days stay within the limit. -/
def fits (us : Int) : Bool := -maxDays ≤ days us && days us ≤ maxDays

/-- The text of a span beyond the limit, as the runtime refuses it: days past the range of
a C integer are refused before the limit is looked at. -/
def overflowText (us : Int) : String :=
  if days us ≥ 2 ^ (31 : Nat) || days us < -2 ^ (31 : Nat) then "Python int too large to convert to C int"
  else "days=" ++ toString (days us) ++ "; must have magnitude <= 999999999"

/-- The text of a span: `[D day[s], ]H:MM:SS[.ffffff]`. -/
def text (us : Int) : String :=
  let s := seconds us
  let clock := toString (s / 3600) ++ ":" ++ DateTime.pad 2 (s / 60 % 60) ++ ":" ++
    DateTime.pad 2 (s % 60)
  let d := days us
  let lead := if d == 0 then "" else
    toString d ++ " day" ++ (if d.natAbs == 1 then "" else "s") ++ ", "
  let frac := if micros us == 0 then "" else "." ++ DateTime.pad 6 (micros us)
  lead ++ clock ++ frac

/-- A quotient rounded to the nearest integer, halves to the even one; the divisor is not
zero. -/
def divideNearest (a b : Int) : Int :=
  -- the floor quotient leaves a remainder of the divisor's sign, a fraction in [0, 1)
  let q := Int.fdiv a b
  let twice := 2 * (a - q * b).natAbs
  if twice > b.natAbs || (twice == b.natAbs && q % 2 != 0) then q + 1 else q

/-- A float cut toward zero, as a float. -/
def truncFloat (x : Float) : Float := if x < 0.0 then -((-x).floor) else x.floor

end Storefront.Span
