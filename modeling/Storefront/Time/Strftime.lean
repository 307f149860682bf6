import Storefront.Time.DateTime

/-!
# Writing a time by a pattern

A pattern is text in which `%` starts a directive: flags, a width, a modifier and a letter.
The runtime itself writes the microseconds (`%f`), the offset (`%z`, `+HHMM` with seconds
and microseconds when there are any) and the zone's name (`%Z`) of a directive with no flags
or width, and the C library writes the rest:

* a number is padded to its width, zeros or blanks by its kind; the flag `-` drops the
  padding, `_` pads with blanks, `0` with zeros, and a width of digits replaces the usual one;
* a name is padded with blanks only to a width given; `^` writes it in capitals, and `#`
  swaps `%p` to small letters and the names of days and months to capitals;
* `E` and `O` before a letter change nothing;
* a directive the library does not know is written as it stands, `%` and all.

The year, the century and the ISO year are not padded, as the C library does. Seconds
since the epoch (`%s`) read the wall clock as UTC.
-/

namespace Storefront.DateTime

/-- The names of the days of the week, Sunday first. -/
def dayNames : List String :=
  ["Sunday", "Monday", "Tuesday", "Wednesday", "Thursday", "Friday", "Saturday"]

/-- The names of the months, January first. -/
def monthNames : List String :=
  ["January", "February", "March", "April", "May", "June", "July", "August", "September",
    "October", "November", "December"]

/-- The day of the week, Sunday as zero. -/
def weekdayFromSunday (t : DateTime) : Nat :=
  -- the first day of the calendar is a Monday
  ((t.wall / microsPerDay % 7 + 1) % 7).toNat

/-- The day of the year, from zero. -/
def yearDay (t : DateTime) : Nat :=
  let (y, _, _) := t.date
  (t.wall / microsPerDay).toNat + 1 - Calendar.ordinal y 1 1

/-- Days from the Monday of the first ISO week of a year to a day of the year: the week that
holds the year's first Thursday. -/
def isoWeekDays (yday : Int) (wday : Nat) : Int :=
  yday - (yday - wday + 382) % 7 + 3

/-- The ISO year and the ISO week of a time. -/
def isoWeek (t : DateTime) : Int × Nat :=
  let y : Int := t.year
  let yday : Int := t.yearDay
  let wday := t.weekdayFromSunday
  let yearLength (y : Int) : Int := if Calendar.isLeap y.toNat then 366 else 365
  let days := isoWeekDays yday wday
  if days < 0 then
    (y - 1, (isoWeekDays (yday + yearLength (y - 1)) wday / 7).toNat + 1)
  else
    let d := isoWeekDays (yday - yearLength y) wday
    if 0 ≤ d then (y + 1, (d / 7).toNat + 1) else (y, (days / 7).toNat + 1)

/-- The flags and width of a directive. -/
structure Directive where
  /-- the padding asked for: `-`, `_` or `0` -/
  pad : Option Char := none
  /-- capitals asked for with `^` -/
  upper : Bool := false
  /-- the case swapped with `#` -/
  swap : Bool := false
  /-- the width asked for -/
  width : Option Nat := none
  /-- whether a modifier `E` or `O` was read -/
  modified : Bool := false

/-- Whether a directive is plain: no flags, no width and no modifier; the runtime writes
the plain directives of its own fields before the library sees the pattern. -/
def Directive.plain (d : Directive) : Bool :=
  d.pad.isNone && !d.upper && !d.swap && d.width.isNone && !d.modified

/-- Text padded on the left to a width with a character. -/
def padLeft (c : Char) (w : Nat) (s : String) : String :=
  String.ofList (List.replicate (w - s.length) c) ++ s

/-- A number as a directive writes it, with the usual width and padding of its kind. -/
def Directive.number (d : Directive) (width : Nat) (fill : Char) (n : Int) : String :=
  let digits := toString n.natAbs
  let sign := if n < 0 then "-" else ""
  let w := d.width.getD width
  match d.pad with
  | some '-' => padLeft ' ' (d.width.getD 0) (sign ++ digits)
  | some '_' => padLeft ' ' w (sign ++ digits)
  | some _ => sign ++ padLeft '0' (w - sign.length) digits
  | none =>
    if fill == '0' then sign ++ padLeft '0' (w - sign.length) digits
    else padLeft ' ' w (sign ++ digits)

/-- Text padded to the width a directive asks for: with zeros under the flag `0`, and with
blanks otherwise. -/
def Directive.padded (d : Directive) (s : String) : String :=
  match d.width, d.pad with
  | some w, some '0' => padLeft '0' w s
  | some w, _ => padLeft ' ' w s
  | none, _ => s

/-- A name as a directive writes it; `swapDown` tells that `#` writes it in small letters,
which wins over `^`. -/
def Directive.name (d : Directive) (swapDown : Bool) (s : String) : String :=
  let s := if d.swap && swapDown then s.toLower
    else if d.upper || d.swap then s.toUpper else s
  d.padded s

/-- The first three letters of a name. -/
def short (s : String) : String := String.ofList (s.toList.take 3)

/-- The offset as `%z` writes it: `+HHMM`, then seconds and microseconds when not zero; a
naive time writes nothing. -/
def offsetDigits (t : DateTime) : String :=
  match t.offset with
  | none => ""
  | some o =>
    let a := o.natAbs
    let base := (if o < 0 then "-" else "+") ++ pad 2 (a / 3600000000) ++ pad 2 (a / 60000000 % 60)
    let ss := a / 1000000 % 60
    let us := a % 1000000
    if ss == 0 && us == 0 then base
    else if us == 0 then base ++ pad 2 ss
    else base ++ pad 2 ss ++ "." ++ pad 6 us

/-- The name of a time's zone as `%Z` writes it: `UTC`, `UTC` with the offset, or nothing
for a naive time. -/
def zoneText (t : DateTime) : String :=
  match t.offset with
  | none => ""
  | some 0 => "UTC"
  | some o => "UTC" ++ offsetText o

/-- The text of a directive that stands for one field, or `none` when the letter is not
one. -/
def field (t : DateTime) (d : Directive) (c : Char) : Option String :=
  let hour12 := if t.hour % 12 == 0 then 12 else t.hour % 12
  let wday := t.weekdayFromSunday
  let day := dayNames.getD wday ""
  let month := monthNames.getD (t.month - 1) ""
  let yday := t.yearDay
  match c with
  | 'a' => some (d.name false (short day))
  | 'A' => some (d.name false day)
  | 'b' | 'h' => some (d.name false (short month))
  | 'B' => some (d.name false month)
  | 'p' => some (d.name true (if t.hour < 12 then "AM" else "PM"))
  | 'P' => some (d.padded (if t.hour < 12 then "am" else "pm"))
  | 'd' => some (d.number 2 '0' t.day)
  | 'e' => some (d.number 2 ' ' t.day)
  | 'm' => some (d.number 2 '0' t.month)
  | 'y' => some (d.number 2 '0' (t.year % 100))
  | 'Y' => some (d.number 1 '0' t.year)
  | 'C' => some (d.number 1 '0' (t.year / 100))
  | 'H' => some (d.number 2 '0' t.hour)
  | 'k' => some (d.number 2 ' ' t.hour)
  | 'I' => some (d.number 2 '0' hour12)
  | 'l' => some (d.number 2 ' ' hour12)
  | 'M' => some (d.number 2 '0' t.minute)
  | 'S' => some (d.number 2 '0' t.second)
  | 'j' => some (d.number 3 '0' (yday + 1))
  | 'w' => some (d.number 1 '0' wday)
  | 'u' => some (d.number 1 '0' (if wday == 0 then 7 else wday))
  | 'U' => some (d.number 2 '0' ((yday + 7 - wday) / 7))
  | 'W' => some (d.number 2 '0' ((yday + 7 - (wday + 6) % 7) / 7))
  | 'V' => some (d.number 2 '0' t.isoWeek.2)
  | 'G' => some (d.number 1 '0' t.isoWeek.1)
  | 'g' => some (d.number 2 '0' (t.isoWeek.1 % 100))
  | 's' => some (d.number 1 '0' (Int.fdiv (t.wall - epochWall) 1000000))
  | 'f' => if d.plain then some (pad 6 t.microsecond) else none
  -- the library reads no offset and no zone from the runtime's times
  | 'z' => some (if d.plain then offsetDigits t else "")
  | 'Z' => some (if d.plain then zoneText t else d.padded "")
  | 'n' => some (d.padded "\n")
  | 't' => some (d.padded "\t")
  | '%' => some (d.padded "%")
  | _ => none

/-- The text of a pattern of fields alone, with no flags. -/
def fields (t : DateTime) : List Char → String
  | '%' :: c :: cs => (field t {} c).getD "" ++ fields t cs
  | c :: cs => String.singleton c ++ fields t cs
  | [] => ""

/-- The pattern a directive stands for, when it stands for several fields. -/
def compound : Char → Option String
  | 'c' => some "%a %b %e %H:%M:%S %Y"
  | 'D' | 'x' => some "%m/%d/%y"
  | 'F' => some "%Y-%m-%d"
  | 'T' | 'X' => some "%H:%M:%S"
  | 'R' => some "%H:%M"
  | 'r' => some "%I:%M:%S %p"
  | _ => none

/-- The text of a directive, or `none` when the letter is not one. -/
def directive (t : DateTime) (d : Directive) (c : Char) : Option String :=
  match compound c with
  | some p =>
    let s := fields t p.toList
    some (if d.upper then s.toUpper else s)
  | none => field t d c

/-- Where a pattern is being read: in plain text, or in a directive after its `%`, with the
flags, width and modifier so far and the characters read since the `%`. -/
inductive Scan where
  | text
  | directive (d : Directive) (seen : List Char)

/-- The text of a pattern from a point of reading it; a directive left unknown or unfinished
is written as it stands, padded to its width. -/
def render (t : DateTime) : Scan → List Char → String
  | .text, [] => ""
  | .text, '%' :: cs => render t (.directive {} []) cs
  | .text, c :: cs => String.singleton c ++ render t .text cs
  | .directive d seen, [] => d.padded (String.ofList ('%' :: seen.reverse))
  | .directive d seen, c :: cs =>
    let flag := c == '-' || c == '_' || c == '0' || c == '^' || c == '#'
    if !d.modified && flag && d.width.isNone then
      let d := if c == '^' then { d with upper := true }
        else if c == '#' then { d with swap := true }
        else { d with pad := some c }
      render t (.directive d (c :: seen)) cs
    else if !d.modified && c.isDigit then
      let w := d.width.getD 0 * 10 + (c.toNat - '0'.toNat)
      render t (.directive { d with width := some w } (c :: seen)) cs
    else if !d.modified && (c == 'E' || c == 'O') then
      render t (.directive { d with modified := true } (c :: seen)) cs
    else
      let here := match directive t d c with
        | some s => s
        | none => d.padded (String.ofList ('%' :: (c :: seen).reverse))
      here ++ render t .text cs

/-- The text of a time written by a pattern. -/
def strftime (t : DateTime) (pattern : String) : String := render t .text pattern.toList

end Storefront.DateTime
