import Storefront.Time.DateTime
import Storefront.Text.Scan

/-!
# Reading dates and times

Two grammars:

- `DateTime.readBroad?` accepts the broad ISO 8601 forms that record documents may hold: a
  year alone, year and month, extended or basic dates, a space or `T` before the time,
  hours with optional minutes and seconds, a fraction after `.` or `,` of any length, and a
  zone `Z`, `±HH`, `±HHMM` or `±HH:MM`. A reading without a zone is UTC. The parts are
  matched with backtracking, the longest repetition and the left alternative first.
- `DateTime.readExtended?` reads the extended forms of a date with an optional time and offset
  in which timestamps are written: `YYYY-MM-DD` or `YYYYMMDD` (or an ISO week date), any one
  separator character, `HH[:MM[:SS[.fff…]]]` and `Z` or `±HH:MM[:SS[.ffffff]]`; a separator
  must be followed by a time, which is read over its UTF-8 bytes with a NUL character ending
  it. A reading without an offset is naive.
-/

-- powers of naturals and integers are the core ones, whatever else is in scope
attribute [local instance (1100)] instPowNat

namespace Storefront.DateTime

open Scan

/-- The value of a run of decimal digits. -/
def digitsNat (ds : List Char) : Nat := ds.foldl (fun n c => n * 10 + (c.toNat - '0'.toNat)) 0

/-- The zone of a broad reading. -/
inductive Zone where
  | utc
  | fixed (neg : Bool) (hours : List Char) (minutes : Option (List Char))

/-- The parts a broad reading captures; absent parts take their defaults. -/
structure BroadParts where
  year : List Char
  month : Option (List Char) := none
  day : Option (List Char) := none
  hour : Option (List Char) := none
  minute : Option (List Char) := none
  second : Option (List Char) := none
  fraction : Option (List Char) := none
  zone : Option Zone := none

/-- `Z`, or a sign, two hour digits, an optional colon and two optional minute digits. -/
def zoneScan : Scan Zone :=
  orElse (do let _ ← char 'Z'; Scan.pure Zone.utc)
    (do
      let s ← sat (fun c => c == '+' || c == '-')
      let hh ← digits 2
      let _ ← opt (char ':')
      let mm ← opt (digits 2)
      Scan.pure (Zone.fixed (s == '-') hh mm))

/-- Seconds with an optional fraction, after an optional colon. -/
def secondScan : Scan (List Char × Option (List Char)) := do
  let _ ← opt (char ':')
  let ss ← digits12
  let frac ← opt (do let _ ← sat (fun c => c == '.' || c == ','); digitsPlus)
  Scan.pure (ss, frac)

/-- The time after a date: separator, hour, optional minute, second and zone. -/
def timeScan (p : BroadParts) : Scan BroadParts := do
  let _ ← sat (fun c => c == ' ' || c == 'T')
  let hh ← digits 2
  let mm ← opt (do let _ ← opt (char ':'); digits 2)
  let sec ← opt secondScan
  let z ← opt zoneScan
  let ss := sec.map Prod.fst
  let frac := sec.bind Prod.snd
  Scan.pure { p with hour := some hh, minute := mm, second := ss, fraction := frac, zone := z }

/-- The day after a month, then an optional time. -/
def dayScan (p : BroadParts) : Scan BroadParts := do
  let dd ← orElse (do let _ ← char '-'; digits12) (digits 2)
  let p := { p with day := some dd }
  let t ← opt (timeScan p)
  Scan.pure (t.getD p)

/-- The month after a year, then an optional day. A two-digit month without a dash may not
end the text. -/
def monthScan (p : BroadParts) : Scan BroadParts := do
  let mm ← orElse (do let _ ← char '-'; digits12) (do let m ← digits 2; notAhead atEnd; Scan.pure m)
  let p := { p with month := some mm }
  let d ← opt (dayScan p)
  Scan.pure (d.getD p)

/-- A whole broad reading. -/
def broadScan : Scan BroadParts := do
  let y ← digits 4
  let p : BroadParts := { year := y }
  let m ← opt (monthScan p)
  Scan.pure (m.getD p)

/-- `c * 10^e` rounded to 28 significant digits, half to even, as digits and a power of ten. -/
def round28 (c : Nat) (e : Int) : Nat × Int :=
  let len := (toString c).length
  if len ≤ 28 then (c, e)
  else
    let k := len - 28
    let q := c / 10 ^ k
    let r := c % 10 ^ k
    let half := 5 * 10 ^ (k - 1)
    let q := if r > half || (r == half && q % 2 == 1) then q + 1 else q
    (q, e + k)

/-- Microseconds of a fraction: its decimal value times a million, the product rounded to
28 significant digits, then cut to a whole number. -/
def fractionMicros (ds : List Char) : Nat :=
  let rounded := round28 (digitsNat ds * 10 ^ (7 : Nat)) (-((ds.length : Int) + 1))
  if rounded.2 ≥ 0 then rounded.1 * 10 ^ rounded.2.toNat else rounded.1 / 10 ^ (-rounded.2).toNat

/-- The offset of a broad zone, in microseconds; the default is UTC. -/
def zoneOffset : Option Zone → Int
  | none | some .utc => 0
  | some (.fixed neg hh mm) =>
    let minutes : Int := digitsNat hh * 60 + (mm.map digitsNat).getD 0
    (if neg then -minutes else minutes) * 60000000

/-- A broad reading converted to UTC, if its parts form a valid date and time that stays
within the calendar. -/
def readBroad? (s : String) : Option DateTime := do
  let p ← firstComplete broadScan s.toList
  let off := zoneOffset p.zone
  let t ← ofParts? (digitsNat p.year) ((p.month.map digitsNat).getD 1) ((p.day.map digitsNat).getD 1)
    ((p.hour.map digitsNat).getD 0) ((p.minute.map digitsNat).getD 0)
    ((p.second.map digitsNat).getD 0) (fractionMicros (p.fraction.getD ['0'])) (some off)
  t.asUtc

/-- Exactly `n` ASCII digits at the front, and the rest. -/
def takeDigits (n : Nat) (cs : List Char) : Option (Nat × List Char) :=
  let ds := cs.take n
  if ds.length == n && ds.all Scan.isDigit then some (digitsNat ds, cs.drop n) else none

/-- Text is left over: something other than a NUL character, which ends the text. -/
def leftover : List Char → Bool
  | [] => false
  | c :: _ => c != '\x00'

/-- A fraction of a second from its first (at most six) digits, the rest of the digits
dropped, and whether text is left over. -/
def fraction (r : List Char) : Option (Nat × Bool) :=
  let n := min r.length 6
  if n == 0 then none else do
  let (f, rest) ← takeDigits n r
  pure (f * 10 ^ (6 - n), leftover (rest.dropWhile Scan.isDigit))

/-- The clock components `HH`, `MM`, `SS` in turn, with or without colons (as the first one
decides), then a fraction after `.` or `,`; the components read so far, the microseconds and
whether text is left over. -/
def clockComps : Nat → List Nat → Bool → List Char → Option (List Nat × Nat × Bool)
  | 0, vals, _, r => do let (us, more) ← fraction r; pure (vals, us, more)
  | left + 1, vals, colon, r => do
    let (v, r) ← takeDigits 2 r
    let vals := vals ++ [v]
    match r with
    | [] => pure (vals, 0, false)
    | c :: r' =>
      let colon := if vals.length == 1 then c == ':' else colon
      if r'.isEmpty then pure (vals, 0, c != '\x00')
      else if colon && c == ':' then clockComps left vals colon r'
      else if c == '.' || c == ',' then do let (us, more) ← fraction r'; pure (vals, us, more)
      else if !colon then clockComps left vals colon r
      else none

/-- Hours, minutes, seconds and microseconds of `HH[:MM[:SS[.fff…]]]` or its compact form,
and whether text is left over. -/
def clockParts (cs : List Char) : Option ((Nat × Nat × Nat × Nat) × Bool) := do
  let (vals, us, more) ← clockComps 3 [] false cs
  pure ((vals.getD 0 0, vals.getD 1 0, vals.getD 2 0, us), more)

/-- The date of an ISO week date; `none` for the year zero, which the calendar does not have,
and for a week or day that the year does not have. -/
def weekDate (y w d : Nat) : Option (Nat × Nat × Nat) :=
  let jan1 := Calendar.ordinal y 1 1
  let first := (jan1 + 6) % 7
  let weekOk := (1 ≤ w && w ≤ 52) ||
    (w == 53 && (first == 3 || (first == 2 && Calendar.isLeap y)))
  if y == 0 || !weekOk || d == 0 || d > 7 then none
  else
    let jan4 := Calendar.ordinal y 1 4
    let monday := jan4 - (jan4 + 6) % 7
    some (Calendar.ofOrdinal (monday + (w - 1) * 7 + d - 1))

/-- Where the date ends: after ten characters for an extended calendar date, eight for a
basic one, and by the week forms' own rules. -/
def dateLength (cs : List Char) : Nat :=
  match cs.drop 4 with
  | '-' :: 'W' :: rest =>
    match rest.drop 2 with
    | '-' :: _ :: d :: _ => if Scan.isDigit d then 8 else 10
    | '-' :: _ => 10
    | _ => 8
  | '-' :: _ => 10
  | 'W' :: rest =>
    let run := (rest.drop 2).takeWhile Scan.isDigit
    if run.length + 7 < 9 then run.length + 7 else if (run.length + 7) % 2 == 0 then 7 else 8
  | _ => 8

/-- The date of the date part. -/
def calendarPart (cs : List Char) : Option (Nat × Nat × Nat) := do
  let (y, r) ← takeDigits 4 cs
  let dash := r.head? == some '-'
  let r := if dash then r.drop 1 else r
  match r with
  | 'W' :: r =>
    let (w, r) ← takeDigits 2 r
    match r with
    | [] => weekDate y w 1
    | c :: r' =>
      if dash && c != '-' then none else
      let (d, _) ← takeDigits 1 (if dash then r' else r)
      weekDate y w d
  | _ =>
    let (m, r) ← takeDigits 2 r
    let r ← if dash then (match r with | '-' :: r => some r | _ => none) else some r
    let (d, _) ← takeDigits 2 r
    pure (y, m, d)

/-- The time part: clock, then an optional zone; the offset in microseconds. An offset of no
whole seconds is UTC, whatever its fraction. -/
def timePart (cs : List Char) : Option ((Nat × Nat × Nat × Nat) × Option Int) := do
  let clock := cs.takeWhile fun c => c != 'Z' && c != '+' && c != '-'
  let zone := cs.drop clock.length
  let (hms, more) ← clockParts clock
  match zone with
  | [] => if more then none else pure (hms, none)
  | 'Z' :: after => if leftover after then none else pure (hms, some 0)
  | s :: r =>
    let ((zh, zm, zs, zu), extra) ← clockParts r
    if extra then none else
    let secs : Nat := (zh * 60 + zm) * 60 + zs
    let mag : Int := if secs == 0 then 0 else (secs : Int) * 1000000 + zu
    pure (hms, some (if s == '-' then -mag else mag))

/-- A character once for each byte of its UTF-8 encoding. The time part is read byte by byte,
and only ASCII bytes mean anything there, so this is all of a character that matters. -/
def byteCopies (c : Char) : List Char := List.replicate c.utf8Size c

/-- A reading of the extended forms; naive without an offset. -/
def readExtended? (s : String) : Option DateTime := do
  let cs := s.toList
  if cs.length < 7 then none else
  let len := dateLength cs
  let (y, mo, d) ← calendarPart (cs.take len)
  match cs.drop len with
  | [] => ofParts? y mo d 0 0 0 0 none
  | _ :: rest =>
    if rest.isEmpty then none else
    let ((h, mi, sec, us), off) ← timePart (rest.flatMap byteCopies)
    ofParts? y mo d h mi sec us off

end Storefront.DateTime
