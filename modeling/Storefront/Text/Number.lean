import Storefront.Json.Parse

/-!
# Reading numbers from text

Integers and floats as settings are read: ASCII whitespace and other scripts' blanks around
the number are dropped, any Unicode decimal digit counts as its ASCII digit, and single underscores may stand between digits.
An integer is an optional sign and digits; a float is an optional sign and either a decimal
with optional point, fraction and exponent, or `inf`, `infinity` or `nan` in any case.

Floats are also read in the hexadecimal form with a binary exponent, rounded once to the
nearest float with `scaledFloat?`, which rounds any `m · 2^e` at the precision binary64 has
at that size.
-/

-- powers of naturals and integers are the core ones, whatever else is in scope
attribute [local instance (1100)] instPowNat

namespace Storefront.Text

/-- Code points of blank characters. -/
def blanks : List Nat :=
  [0x09, 0x0A, 0x0B, 0x0C, 0x0D, 0x1C, 0x1D, 0x1E, 0x1F, 0x20, 0x85, 0xA0, 0x1680, 0x2000,
    0x2001, 0x2002, 0x2003, 0x2004, 0x2005, 0x2006, 0x2007, 0x2008, 0x2009, 0x200A, 0x2028,
    0x2029, 0x202F, 0x205F, 0x3000]

/-- A blank character. -/
def isBlank (c : Char) : Bool := blanks.contains c.toNat

/-- Code points of the digit zero of each decimal digit block; each block holds ten digits
from zero to nine. -/
def digitZeros : List Nat :=
  [0x30, 0x660, 0x6F0, 0x7C0, 0x966, 0x9E6, 0xA66, 0xAE6, 0xB66, 0xBE6, 0xC66, 0xCE6, 0xD66,
    0xDE6, 0xE50, 0xED0, 0xF20, 0x1040, 0x1090, 0x17E0, 0x1810, 0x1946, 0x19D0, 0x1A80,
    0x1A90, 0x1B50, 0x1BB0, 0x1C40, 0x1C50, 0xA620, 0xA8D0, 0xA900, 0xA9D0, 0xA9F0, 0xAA50,
    0xABF0, 0xFF10, 0x104A0, 0x10D30, 0x11066, 0x110F0, 0x11136, 0x111D0, 0x112F0, 0x11450,
    0x114D0, 0x11650, 0x116C0, 0x11730, 0x118E0, 0x11950, 0x11C50, 0x11D50, 0x11DA0, 0x16A60,
    0x16AC0, 0x16B50, 0x1D7CE, 0x1D7D8, 0x1D7E2, 0x1D7EC, 0x1D7F6, 0x1E140, 0x1E2F0, 0x1E950,
    0x1FBF0]

/-- The value of a decimal digit of any script. -/
def decimalValue? (c : Char) : Option Nat :=
  let n := c.toNat
  (digitZeros.find? fun z => z ≤ n && n < z + 10).map (n - ·)

/-- ASCII whitespace: space, tab, line feed, vertical tab, form feed and carriage return. -/
def isAsciiSpace (c : Char) : Bool :=
  c == ' ' || c == '\t' || c == '\n' || c == '\x0b' || c == '\x0c' || c == '\r'

/-- The text with other scripts' digits as ASCII digits and their blanks as spaces, without
the ASCII whitespace at its ends. Characters below DEL stay as they are, so the ASCII
separators that count as blanks elsewhere are not dropped here. -/
def normalize (s : String) : List Char :=
  let cs := s.toList.map fun c =>
    if c.toNat < 127 then c else
    match decimalValue? c with
    | some d => Char.ofNat ('0'.toNat + d)
    | none => if isBlank c then ' ' else c
  ((cs.dropWhile isAsciiSpace).reverse.dropWhile isAsciiSpace).reverse

/-- A run of digits with single underscores between them: the digits and the rest. -/
def digitRun (cs : List Char) : Option (List Char × List Char) :=
  match cs with
  | c :: _ =>
    if Json.isDigit c then
      let rec go : List Char → List Char × List Char
        | d :: rest =>
          if Json.isDigit d then
            let (ds, r) := go rest
            (d :: ds, r)
          else if d == '_' then
            match rest with
            | e :: _ => if Json.isDigit e then go rest else ([], d :: rest)
            | [] => ([], [d])
          else ([], d :: rest)
        | [] => ([], [])
      some (go cs)
    else none
  | [] => none

/-- An optional sign: whether it is negative, and the rest. -/
def sign (cs : List Char) : Bool × List Char :=
  match cs with
  | '-' :: r => (true, r)
  | '+' :: r => (false, r)
  | r => (false, r)

/-- The integer a text holds; more than `Json.maxIntDigits` digits are refused. -/
def readInt? (s : String) : Option Int := do
  let (neg, body) := sign (normalize s)
  let (ds, rest) ← digitRun body
  if !rest.isEmpty || ds.length > Json.maxIntDigits then none
  let v : Int := Json.digitsValue ds
  pure (if neg then -v else v)

/-- The text in lowercase ASCII. -/
def asciiLower (cs : List Char) : List Char := cs.map Char.toLower

/-- The float a text holds, rounded to nearest. -/
def readFloat? (s : String) : Option Float := do
  let (neg, body) := sign (normalize s)
  let word := asciiLower body
  let magnitude ← if word == "inf".toList || word == "infinity".toList then some (1.0 / 0.0)
    else if word == "nan".toList then some (0.0 / 0.0)
    else do
      let (ip, rest) := (digitRun body).getD ([], body)
      let (fp, rest) ← match rest with
        | '.' :: r => some ((digitRun r).getD ([], r))
        | r => some ([], r)
      if ip.isEmpty && fp.isEmpty then none
      let (ex, rest) ← match rest with
        | e :: r =>
          if e == 'e' || e == 'E' then do
            let (eneg, eb) := sign r
            let (eds, er) ← digitRun eb
            let v : Int := Json.digitsValue eds
            some (if eneg then -v else v, er)
          else some (0, e :: r)
        | [] => some (0, [])
      if !rest.isEmpty then none
      some (Json.scientific (Json.digitsValue (ip ++ fp)) (ex - fp.length))
  pure (if neg then -magnitude else magnitude)

/-- The float nearest `m · 2^e`, ties to even, at the precision binary64 has at that size:
53 bits, fewer below the normal range. `none` when it rounds past the largest float. -/
def scaledFloat? (m : Nat) (e : Int) : Option Float :=
  let top : Int := (Nat.log2 m : Int) + e
  if m == 0 || top < -1076 then some 0.0
  else if top ≥ 1024 then none
  else
    let low : Int := max (top - 52) (-1074)
    let n : Nat :=
      if e ≥ low then m * 2 ^ (e - low).toNat
      else
        let d := 2 ^ (low - e).toNat
        let q := m / d
        let r := m % d
        if 2 * r > d then q + 1 else if 2 * r == d then q + q % 2 else q
    if n != 0 && (Nat.log2 n : Int) + low ≥ 1024 then none
    else some (Float.scaleB (Float.ofNat n) low)

/-- What a text reads as in the hexadecimal float form. -/
inductive HexFloat where
  | value (x : Float)
  | invalid
  | tooLarge

/-- An ASCII blank, the only blank the hexadecimal form allows around it. -/
def isAsciiBlank (c : Char) : Bool :=
  c == ' ' || c == '\t' || c == '\n' || c == '\r' || c.toNat == 0x0B || c.toNat == 0x0C

/-- The value of a hexadecimal digit. -/
def hexDigit? (c : Char) : Option Nat :=
  if '0' ≤ c && c ≤ '9' then some (c.toNat - '0'.toNat)
  else if 'a' ≤ c && c ≤ 'f' then some (c.toNat - 'a'.toNat + 10)
  else if 'A' ≤ c && c ≤ 'F' then some (c.toNat - 'A'.toNat + 10)
  else none

/-- The leading hexadecimal digits of a text, as their values, and the rest. -/
def hexRun : List Char → List Nat × List Char
  | c :: cs => match hexDigit? c with
    | some d => let (ds, r) := hexRun cs; (d :: ds, r)
    | none => ([], c :: cs)
  | [] => ([], [])

/-- The leading ASCII decimal digits of a text and the rest. -/
def asciiDigitRun (cs : List Char) : List Char × List Char :=
  (cs.takeWhile Char.isDigit, cs.dropWhile Char.isDigit)

/-- A text in the hexadecimal float form: ASCII blanks around an optional sign and either
`inf`, `infinity` or `nan` in any case, or an optional `0x`, hexadecimal digits with an
optional point (at least one digit in all), and an optional binary exponent `p` with an
optional sign and decimal digits. The value is rounded to nearest, ties to even. -/
def readHexFloat (s : String) : HexFloat :=
  let cs := (s.toList.dropWhile isAsciiBlank).reverse.dropWhile isAsciiBlank |>.reverse
  let (neg, body) := sign cs
  let signed (x : Float) : Float := if neg then -x else x
  let word := asciiLower body
  if word == "inf".toList || word == "infinity".toList then .value (signed (1.0 / 0.0))
  else if word == "nan".toList then .value (0.0 / 0.0)
  else
    let body := match body with
      | '0' :: x :: r => if x == 'x' || x == 'X' then r else body
      | _ => body
    let (ip, rest) := hexRun body
    let (fp, rest) := match rest with
      | '.' :: r => hexRun r
      | r => ([], r)
    if ip.isEmpty && fp.isEmpty then .invalid
    else
      let ex : Option Int := match rest with
        | [] => some 0
        | p :: r =>
          if p == 'p' || p == 'P' then
            let (eneg, eb) := sign r
            let (eds, er) := asciiDigitRun eb
            if eds.isEmpty || !er.isEmpty then none
            else
              let v : Int := Json.digitsValue eds
              some (if eneg then -v else v)
          else none
      match ex with
      | none => .invalid
      | some ex =>
        let m := (ip ++ fp).foldl (fun acc d => acc * 16 + d) 0
        match scaledFloat? m (ex - 4 * fp.length) with
        | some x => .value (signed x)
        | none => .tooLarge

end Storefront.Text
