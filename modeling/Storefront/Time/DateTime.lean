import Storefront.Time.Calendar

/-!
# Dates with a time of day

A `DateTime` is a wall-clock reading to the microsecond within the years 1 to 9999, either
naive or tied to UTC by a fixed offset. Conversions to UTC and to and from Unix nanoseconds
fail (`none`) when the result leaves those years.
-/

namespace Storefront

/-- Microseconds in a day. -/
def microsPerDay : Int := 86400000000

namespace Span

/-- The whole days of a span, rounded down. -/
def days (us : Int) : Int := Int.fdiv us microsPerDay

/-- The seconds of a span after its days. -/
def seconds (us : Int) : Nat := ((us - days us * microsPerDay) / 1000000).toNat

/-- The microseconds of a span after its seconds. -/
def micros (us : Int) : Nat := (us % 1000000).toNat

end Span

/-- A date and time of day, naive or with an offset from UTC. -/
structure DateTime where
  /-- microseconds since 0001-01-01T00:00:00 on the wall clock -/
  wall : Int
  /-- offset east of UTC in microseconds, or `none` for a naive reading -/
  offset : Option Int
deriving DecidableEq, Repr, Inhabited

namespace DateTime

/-- The first microsecond after 9999-12-31T23:59:59.999999. -/
def wallEnd : Int := (Calendar.lastOrdinal : Int) * microsPerDay

/-- A wall-clock reading lies within the years 1 to 9999. -/
def inRange (w : Int) : Bool := 0 ≤ w && w < wallEnd

/-- An offset is less than a day either way. -/
def validOffset (o : Int) : Bool := -microsPerDay < o && o < microsPerDay

/-- A reading from its parts, if they form a valid date and time of day. -/
def ofParts? (y mo d h mi s us : Nat) (offset : Option Int) : Option DateTime :=
  if Calendar.valid y mo d && h < 24 && mi < 60 && s < 60 && us < 1000000 &&
      (offset.all validOffset) then
    some ⟨((Calendar.ordinal y mo d : Int) - 1) * microsPerDay +
      ((h * 60 + mi) * 60 + s : Nat) * 1000000 + us, offset⟩
  else none

/-- The date: year, month and day. -/
def date (t : DateTime) : Nat × Nat × Nat :=
  Calendar.ofOrdinal ((t.wall / microsPerDay).toNat + 1)

/-- Microseconds since the start of the day. -/
def timeOfDay (t : DateTime) : Nat := (t.wall % microsPerDay).toNat

def year (t : DateTime) : Nat := t.date.1
def month (t : DateTime) : Nat := t.date.2.1
def day (t : DateTime) : Nat := t.date.2.2
def hour (t : DateTime) : Nat := t.timeOfDay / 3600000000
def minute (t : DateTime) : Nat := t.timeOfDay / 60000000 % 60
def second (t : DateTime) : Nat := t.timeOfDay / 1000000 % 60
def microsecond (t : DateTime) : Nat := t.timeOfDay % 1000000

/-- The wall clock of UTC at the same instant; a naive reading counts as UTC. -/
def utcWall (t : DateTime) : Int := t.wall - t.offset.getD 0

/-- The same instant in UTC, a naive reading taken as UTC; `none` past the calendar's ends. -/
def asUtc (t : DateTime) : Option DateTime :=
  let w := t.utcWall
  if inRange w then some ⟨w, some 0⟩ else none

/-- The wall clock of 1970-01-01T00:00:00. -/
def epochWall : Int := 719162 * microsPerDay

/-- Unix nanoseconds of a reading, a naive one taken as UTC: the span from the epoch to its UTC
form, as days, seconds and microseconds, put together again; `none` when the UTC form leaves the
calendar. -/
def toNanos? (t : DateTime) : Option Int :=
  (t.asUtc).map fun u =>
    let span := u.wall - epochWall
    (Span.days span * 86400 + Span.seconds span) * 1000000000 + Span.micros span * 1000

/-- The UTC reading of Unix nanoseconds, rounded down to the microsecond. -/
def ofNanos? (n : Int) : Option DateTime :=
  let w := epochWall + Int.fdiv n 1000
  if inRange w then some ⟨w, some 0⟩ else none

/-- Two readings are comparable by order when both are naive or both aware. -/
def comparable (a b : DateTime) : Bool := a.offset.isSome == b.offset.isSome

/-- Equality as instants; a naive and an aware reading are never equal. -/
def same (a b : DateTime) : Bool :=
  match a.offset, b.offset with
  | none, none => a.wall == b.wall
  | some _, some _ => a.utcWall == b.utcWall
  | _, _ => false

/-- Order of comparable readings: naive by wall clock, aware by instant. -/
def cmp (a b : DateTime) : Ordering := compare a.utcWall b.utcWall

/-- A number with at least `w` digits. -/
def pad (w n : Nat) : String :=
  let s := toString n
  String.ofList (List.replicate (w - s.length) '0') ++ s

/-- An offset as `+HH:MM`, with `:SS` and then `.ffffff` when those are not zero. -/
def offsetText (o : Int) : String :=
  let sign := if o < 0 then "-" else "+"
  let a := o.natAbs
  let hh := a / 3600000000
  let mm := a / 60000000 % 60
  let ss := a / 1000000 % 60
  let us := a % 1000000
  let base := sign ++ pad 2 hh ++ ":" ++ pad 2 mm
  if ss == 0 && us == 0 then base
  else if us == 0 then base ++ ":" ++ pad 2 ss
  else base ++ ":" ++ pad 2 ss ++ "." ++ pad 6 us

/-- ISO 8601 text: date, separator, time; the fraction when `fraction` is set or not zero,
then the offset of an aware reading. -/
def isoText (t : DateTime) (sep : String) (fraction : Bool) : String :=
  let (y, mo, d) := t.date
  let base := pad 4 y ++ "-" ++ pad 2 mo ++ "-" ++ pad 2 d ++ sep ++
    pad 2 t.hour ++ ":" ++ pad 2 t.minute ++ ":" ++ pad 2 t.second
  let frac := if fraction || t.microsecond != 0 then "." ++ pad 6 t.microsecond else ""
  base ++ frac ++ (t.offset.map offsetText).getD ""

/-- A span of microseconds as days, seconds and microseconds with the last two
non-negative, zero parts left out. -/
def spanText (us : Int) : String :=
  let days := Int.fdiv us microsPerDay
  let rest := us - days * microsPerDay
  let secs := rest / 1000000
  let micro := rest % 1000000
  let parts := (if days != 0 then ["days=" ++ toString days] else []) ++
    (if secs != 0 then ["seconds=" ++ toString secs] else []) ++
    (if micro != 0 then ["microseconds=" ++ toString micro] else [])
  "datetime.timedelta(" ++ (if parts.isEmpty then "0" else ", ".intercalate parts) ++ ")"

/-- The constructor-call text of a reading: date and time parts, the seconds and
microseconds only when not zero, then the zone. -/
def callText (t : DateTime) : String :=
  let (y, mo, d) := t.date
  let parts := [y, mo, d, t.hour, t.minute]
  let parts := if t.second != 0 || t.microsecond != 0 then parts ++ [t.second] else parts
  let parts := if t.microsecond != 0 then parts ++ [t.microsecond] else parts
  let zone := match t.offset with
    | none => ""
    | some 0 => ", tzinfo=datetime.timezone.utc"
    | some o => ", tzinfo=datetime.timezone(" ++ spanText o ++ ")"
  "datetime.datetime(" ++ ", ".intercalate (parts.map toString) ++ zone ++ ")"

end DateTime

end Storefront
