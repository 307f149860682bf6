import Storefront.Decimal.Digits
import Storefront.Failure

/-!
# Format specifications

A format specification says how one value is written into a text:

    [[fill]align][sign][z][#][0][width][grouping][.precision][type]

`Spec.parse` reads it. Integers, floats and strings are then written by `Spec.integer`,
`Spec.real` and `Spec.text`. A number is laid out as padding, sign, base prefix, digits in
groups, point and the rest (fraction, exponent or percent); `=` alignment puts the padding
between the sign and the digits, and a fill of `0` there is spread over the digit groups so
that separators stand among the added zeros too.

The older conversion format (`%5.2f`) shares the number texts but lays them out by its own
rule: `Conversion` holds one parsed conversion and `Conversion.layout` writes a converted
text at its width.

Every refusal is a value failure, as the runtime gives it.
-/

-- powers of naturals and integers are the core ones, whatever else is in scope
attribute [local instance (1100)] instPowNat

namespace Storefront.Format

/-- A value failure with the runtime's text. -/
def refuse (msg : String) : Except Failure α := throw (.runtimeText .valueError msg)

/-- The refusal of a grouping character with a presentation type that does not group. -/
def groupingRefused (g t : Char) : Except Failure α :=
  refuse ("Cannot specify '" ++ String.singleton g ++ "' with " ++
    (if 32 < t.toNat && t.toNat < 128 then "'" ++ String.singleton t ++ "'"
     else "'\\x" ++ String.ofList (Nat.toDigits 16 t.toNat) ++ "'") ++ ".")

/-- A text padded on the left to a width. -/
def padLeft (fill : Char) (width : Nat) (s : List Char) : List Char :=
  List.replicate (width - s.length) fill ++ s

/-- A text padded on the right to a width. -/
def padRight (fill : Char) (width : Nat) (s : List Char) : List Char :=
  s ++ List.replicate (width - s.length) fill

theorem padLeft_length (fill : Char) (width : Nat) (s : List Char) :
    (padLeft fill width s).length = max width s.length := by
  simp only [padLeft, List.length_append, List.length_replicate]
  omega

theorem padRight_length (fill : Char) (width : Nat) (s : List Char) :
    (padRight fill width s).length = max width s.length := by
  simp only [padRight, List.length_append, List.length_replicate]
  omega

/-- A parsed format specification. -/
structure Spec where
  fill : Char := ' '
  /-- `<`, `>`, `^` or `=` -/
  align : Char
  /-- `+`, `-` or a blank; none when not given -/
  sign : Option Char := none
  /-- a negative zero is written without its sign -/
  noNegZero : Bool := false
  /-- the alternate form: base prefixes, a point that is always written -/
  alt : Bool := false
  width : Option Nat := none
  /-- `,` or `_` between groups of digits -/
  grouping : Option Char := none
  precision : Option Nat := none
  type : Option Char := none
deriving Repr

/-- The characters that align. -/
def isAlign (c : Char) : Bool := c == '<' || c == '>' || c == '^' || c == '='

/-- Decimal digits at the front of a text: their value, or none when there are none. -/
def numberAt (cs : List Char) : Option Nat × List Char :=
  let ds := cs.takeWhile Char.isDigit
  if ds.isEmpty then (none, cs)
  else (some (ds.foldl (fun n c => 10 * n + (c.toNat - '0'.toNat)) 0), cs.drop ds.length)

/-- A specification read from its text for a value of a class (`typeName`), with the type
and the alignment that class has by default: `d` and right for integers, no type and right
for floats, `s` and left for texts. A `0` before the width, when no fill is given, fills with
zeros and, for numbers with no alignment given, pads after the sign. More than one character
after the precision is refused as a whole, and groups only go with the decimal and float
types (`_` also with the other bases), the type given or the class's own. -/
def Spec.parse (text : String) (defaultType : Option Char) (defaultAlign : Char)
    (typeName : String) : Except Failure Spec := do
  let cs := text.toList
  let (fill, align, cs) := match cs with
    | f :: a :: rest => if isAlign a then (some f, some a, rest)
      else if isAlign f then (none, some f, a :: rest) else (none, none, cs)
    | [a] => if isAlign a then (none, some a, []) else (none, none, cs)
    | [] => (none, none, cs)
  let (sign, cs) := match cs with
    | c :: rest => if c == '+' || c == '-' || c == ' ' then (some c, rest) else (none, cs)
    | [] => (none, cs)
  let (noNegZero, cs) := match cs with
    | 'z' :: rest => (true, rest)
    | _ => (false, cs)
  let (alt, cs) := match cs with
    | '#' :: rest => (true, rest)
    | _ => (false, cs)
  let (zeroFill, cs) := match fill, cs with
    | none, '0' :: rest => (true, rest)
    | _, _ => (false, cs)
  let (width, cs) := numberAt cs
  let both := "Cannot specify both ',' and '_'."
  let (grouping, cs) ← match cs with
    | ',' :: '_' :: _ => refuse both
    | ',' :: rest => pure (some ',', rest)
    | '_' :: ',' :: _ => refuse both
    | '_' :: rest => pure (some '_', rest)
    | _ => pure (none, cs)
  let (precision, cs) ← match cs with
    | '.' :: rest =>
      match numberAt rest with
      | (some p, rest) => pure (some p, rest)
      | (none, _) => refuse "Format specifier missing precision"
    | _ => pure (none, cs)
  let type ← match cs with
    | [] => pure none
    | [t] => pure (some t)
    | _ => refuse ("Invalid format specifier '" ++ text ++ "' for object of type '" ++
        typeName ++ "'")
  if let some g := grouping then
    match type <|> defaultType with
    | none => pure ()
    | some t =>
      if !("defgEG%F".toList.contains t || (g == '_' && "boxX".toList.contains t)) then
        groupingRefused g t
  let fill := match fill with
    | some f => f
    | none => if zeroFill then '0' else ' '
  let align := match align with
    | some a => a
    | none => if zeroFill && fill == '0' && defaultAlign == '>' then '=' else defaultAlign
  pure { fill, align, sign, noNegZero, alt, width, grouping, precision, type }

/-- Digits in groups of `size` from the right, with `sep` between groups, and zeros added on
the left, separators among them, until the text is at least `minWidth` long. -/
def groupDigits (digits : List Char) (minWidth : Int) (sep : Option Char) (size : Nat) :
    List Char :=
  match sep with
  | none => padLeft '0' minWidth.toNat digits
  | some s =>
    let rec go : Nat → List Char → Nat → Int → Bool → List Char
      | 0, _, _, _, _ => []
      | fuel + 1, rest, remaining, minW, first =>
        let l : Nat := min size (max (max (remaining : Int) minW) 1).toNat
        let zeros := l - remaining
        let chars := min remaining l
        let piece := List.replicate zeros '0' ++ rest.drop (remaining - chars)
        let piece := if first then piece else piece ++ [s]
        let remaining' := remaining - chars
        let minW' := minW - l
        if remaining' = 0 && minW' ≤ 0 then piece
        else go fuel (rest.take remaining') remaining' (minW' - 1) false ++ piece
    go (digits.length + minWidth.toNat + 2) digits digits.length minWidth true

/-- A number laid out by a specification: `sign` is the sign the number has (`-` or none),
`pre` a base prefix, `digits` the integral digits, `point` whether a decimal point follows
them and `rest` what comes after it. -/
def Spec.layoutNumber (sp : Spec) (negative : Bool) (pre digits : List Char) (point : Bool)
    (rest : List Char) (groupSize : Nat := 3) : List Char :=
  let signText : List Char := match sp.sign with
    | some '+' => if negative then ['-'] else ['+']
    | some ' ' => if negative then ['-'] else [' ']
    | _ => if negative then ['-'] else []
  let width : Int := (sp.width.map (fun w => (w : Int))).getD (-1)
  let fixedLen : Int := signText.length + pre.length + (if point then 1 else 0) + rest.length
  let minWidth : Int := if sp.fill == '0' && sp.align == '=' then width - fixedLen else 0
  let grouped := if digits.isEmpty then [] else groupDigits digits minWidth sp.grouping groupSize
  let body := grouped ++ (if point then ['.'] else []) ++ rest
  let padding : Nat := (width - (fixedLen + grouped.length)).toNat
  let fillN (n : Nat) := List.replicate n sp.fill
  match sp.align with
  | '<' => signText ++ pre ++ body ++ fillN padding
  | '^' => fillN (padding / 2) ++ signText ++ pre ++ body ++ fillN (padding - padding / 2)
  | '=' => signText ++ pre ++ fillN padding ++ body
  | _ => fillN padding ++ signText ++ pre ++ body

/-- Digits of a natural number in a base up to sixteen, lowercase. -/
def natDigits (base : Nat) (n : Nat) : List Char :=
  (Nat.toDigits base n)

/-- The character of a code point below U+110000, a surrogate standing on the shelf of
characters that stand for surrogates. -/
def charOf? (n : Int) : Option Char :=
  if 0 ≤ n && n < 0x110000 then some (Text.charOfCode n.toNat) else none

/-- An integer written by a specification of an integer type: a character (`c`), binary,
octal, decimal or hexadecimal; the float types are for the caller. A precision, a
negative-zero switch, or a sign or alternate form with `c` is refused, and a code outside
the characters overflows. -/
def Spec.integer (sp : Spec) (i : Int) : Except Failure String := do
  if sp.precision.isSome then refuse "Precision not allowed in integer format specifier"
  if sp.noNegZero then
    refuse "Negative zero coercion (z) not allowed in integer format specifier"
  let t := sp.type.getD 'd'
  if t == 'c' then
    if sp.sign.isSome then refuse "Sign not allowed with integer format specifier 'c'"
    if sp.alt then refuse "Alternate form (#) not allowed with integer format specifier 'c'"
    if i < -2 ^ (63 : Nat) || i ≥ 2 ^ (63 : Nat) then
      throw (.runtimeText .overflowError "Python int too large to convert to C long")
    match charOf? i with
    | some c => pure (String.ofList (sp.layoutNumber false [] [] false [c]))
    | none => throw (.runtimeText .overflowError "%c arg not in range(0x110000)")
  else
    let (base, pre) : Nat × List Char := match t with
      | 'b' => (2, ['0', 'b'])
      | 'o' => (8, ['0', 'o'])
      | 'x' => (16, ['0', 'x'])
      | 'X' => (16, ['0', 'X'])
      | _ => (10, [])
    let digits := natDigits base i.natAbs
    let digits := if t == 'X' then digits.map Char.toUpper else digits
    let size := if base == 10 then 3 else 4
    let sp := if t == 'n' then { sp with grouping := none } else sp
    pure (String.ofList (sp.layoutNumber (i < 0) (if sp.alt then pre else []) digits false [] size))

/-- The parts of a number's text: the integral digits, whether a point follows, and the
rest. -/
def splitNumber (cs : List Char) : List Char × Bool × List Char :=
  let ds := cs.takeWhile Char.isDigit
  match cs.drop ds.length with
  | '.' :: rest => (ds, true, rest)
  | rest => (ds, false, rest)

/-- A float written by a specification of a float type, or of none: `e`, `f`, `g` and `%`
(a hundredfold value in `f` with a percent sign), upper case for `E`, `F` and `G`, and with
no type the shortest text, or `g` with a point kept when a precision is given. -/
def Spec.real (sp : Spec) (x : Float) : Except Failure String := do
  let t := sp.type
  let upper := t == some 'E' || t == some 'F' || t == some 'G'
  let (x, percent) := if t == some '%' then (x * 100.0, true) else (x, false)
  let p := sp.precision.getD 6
  let (form, addDot0) : Decimal.Form × Bool := match t with
    | some 'e' | some 'E' => (.exponent (p + 1), false)
    | some 'f' | some 'F' | some '%' => (.fixed p, false)
    | some 'g' | some 'G' | some 'n' => (.general p, false)
    | _ => match sp.precision with
      | some q => (.general q, true)
      | none => (.fewest, true)
  let (neg, body) := Decimal.formText x form sp.alt addDot0
  let body := if upper then body.toUpper else body
  let mantissa := body.toList.takeWhile fun c => c != 'e' && c != 'E'
  let neg := neg && !(sp.noNegZero && (mantissa.all fun c => c == '0' || c == '.'))
  let (digits, point, rest) := splitNumber body.toList
  let rest := if percent then rest ++ ['%'] else rest
  let sp := if t == some 'n' then { sp with grouping := none } else sp
  pure (String.ofList (sp.layoutNumber neg [] digits point rest))

/-- The float types. -/
def realTypes : List Char := "eEfFgGn%".toList

/-- The integer types. -/
def integerTypes : List Char := "bcdoxXn".toList

/-- A text written by a specification of type `s` or none: cut to the precision, then
aligned. A sign, a negative-zero switch, the alternate form or `=` alignment is refused, in
that order. -/
def Spec.text (sp : Spec) (s : String) : Except Failure String := do
  match sp.sign with
  | some ' ' => refuse "Space not allowed in string format specifier"
  | some _ => refuse "Sign not allowed in string format specifier"
  | none => pure ()
  if sp.noNegZero then
    refuse "Negative zero coercion (z) not allowed in string format specifier"
  if sp.alt then refuse "Alternate form (#) not allowed in string format specifier"
  if sp.align == '=' then refuse "'=' alignment not allowed in string format specifier"
  let cs := match sp.precision with
    | some p => s.toList.take p
    | none => s.toList
  let w := sp.width.getD 0
  let padding := w - cs.length
  let fillN (n : Nat) := List.replicate n sp.fill
  let out := match sp.align with
    | '>' => fillN padding ++ cs
    | '^' => fillN (padding / 2) ++ cs ++ fillN (padding - padding / 2)
    | _ => cs ++ fillN padding
  pure (String.ofList out)

/-- A width or precision of a conversion: a number, or taken from the next argument. -/
inductive Amount where
  | given (n : Nat)
  | fromArgument
deriving Repr, DecidableEq

/-- One conversion of the older format: a key naming a mapping's item, flags, width,
precision and the type letter. -/
structure Conversion where
  key : Option String := none
  left : Bool := false
  plus : Bool := false
  blank : Bool := false
  alt : Bool := false
  zero : Bool := false
  width : Option Amount := none
  precision : Option Amount := none
  type : Char
  /-- the place of the type letter in the format -/
  place : Nat := 0
deriving Repr

/-- A piece of an older format: text, a conversion, or a fault found at that point. -/
inductive Piece where
  | text (s : String)
  | conversion (c : Conversion)
  | fault
deriving Repr

/-- The flags of a conversion, then its width, precision, length letter and type. -/
def conversionBody (c : Conversion) : List Char → Option (Conversion × List Char)
  | cs =>
    let rec flags : Nat → Conversion → List Char → Conversion × List Char
      | 0, c, cs => (c, cs)
      | n + 1, c, x :: rest =>
        match x with
        | '-' => flags n { c with left := true } rest
        | '+' => flags n { c with plus := true } rest
        | ' ' => flags n { c with blank := true } rest
        | '#' => flags n { c with alt := true } rest
        | '0' => flags n { c with zero := true } rest
        | _ => (c, x :: rest)
      | _ + 1, c, [] => (c, [])
    let (c, cs) := flags cs.length c cs
    let (width, cs) := match cs with
      | '*' :: rest => (some Amount.fromArgument, rest)
      | _ => match numberAt cs with
        | (some n, rest) => (some (Amount.given n), rest)
        | (none, rest) => (none, rest)
    let (precision, cs) := match cs with
      | '.' :: '*' :: rest => (some Amount.fromArgument, rest)
      | '.' :: rest => match numberAt rest with
        | (some n, rest) => (some (Amount.given n), rest)
        | (none, rest) => (some (Amount.given 0), rest)
      | _ => (none, cs)
    let cs := match cs with
      | l :: rest => if l == 'h' || l == 'l' || l == 'L' then rest else cs
      | [] => cs
    match cs with
    | t :: rest => some ({ c with width, precision, type := t }, rest)
    | [] => none

/-- The key of a conversion after its opening parenthesis, up to the parenthesis that
balances it. -/
def keyText : Nat → Nat → List Char → Option (List Char × List Char)
  | 0, _, _ => none
  | _, _, [] => none
  | fuel + 1, depth, c :: rest =>
    if c == ')' then
      if depth == 0 then some ([], rest)
      else (keyText fuel (depth - 1) rest).map fun (k, r) => (c :: k, r)
    else if c == '(' then (keyText fuel (depth + 1) rest).map fun (k, r) => (c :: k, r)
    else (keyText fuel depth rest).map fun (k, r) => (c :: k, r)

/-- The pieces of an older format of a length, in order; reading stops at the first fault.
`%%` is a percent sign. A conversion knows where its type letter stands: just before what
is left after it. -/
def pieces (total : Nat) : Nat → List Char → List Piece
  | 0, _ => []
  | _, [] => []
  | fuel + 1, '%' :: '%' :: rest => .text "%" :: pieces total fuel rest
  | fuel + 1, '%' :: '(' :: rest =>
    match keyText rest.length 0 rest with
    | some (k, r) =>
      match conversionBody { type := 's', key := some (String.ofList k) } r with
      | some (c, r) => .conversion { c with place := total - r.length - 1 } :: pieces total fuel r
      | none => [.fault]
    | none => [.fault]
  | fuel + 1, '%' :: rest =>
    match conversionBody { type := 's' } rest with
    | some (c, r) => .conversion { c with place := total - r.length - 1 } :: pieces total fuel r
    | none => [.fault]
  | fuel + 1, cs =>
    let t := cs.takeWhile (· != '%')
    .text (String.ofList t) :: pieces total fuel (cs.drop t.length)

/-- The pieces of an older format's text. -/
def Piece.ofFormat (s : String) : List Piece := pieces s.length (s.length + 1) s.toList

/-- The types of a conversion that write numbers, with a sign. -/
def Conversion.numeric (c : Conversion) : Bool := "diuoxXeEfFgG".toList.contains c.type

/-- A converted text at a conversion's width. Numbers keep their sign in front of zero
padding, and so does a base prefix of the alternate form; other texts, a character apart,
are cut to the precision first and padded with blanks. -/
def Conversion.layout (c : Conversion) (width : Option Nat) (precision : Option Nat)
    (converted : String) : String :=
  let numeric := c.numeric
  let fill := if numeric && c.zero then '0' else ' '
  let cs := converted.toList
  let cs := if !numeric && c.type != 'c' then (match precision with
    | some p => cs.take p
    | none => cs) else cs
  let (signText, cs) : List Char × List Char :=
    if !numeric then ([], cs) else match cs with
      | '-' :: rest => (['-'], rest)
      | '+' :: rest => (['+'], rest)
      | _ => if c.plus then (['+'], cs) else if c.blank then ([' '], cs) else ([], cs)
  let (pre, cs) : List Char × List Char :=
    if numeric && c.alt && (c.type == 'x' || c.type == 'X' || c.type == 'o') then
      (cs.take 2, cs.drop 2)
    else ([], cs)
  let w := width.getD 0
  let used := signText.length + pre.length + cs.length
  let padding := w - used
  String.ofList <|
    if c.left then signText ++ pre ++ cs ++ List.replicate padding ' '
    else if fill == '0' then signText ++ pre ++ List.replicate padding '0' ++ cs
    else List.replicate padding ' ' ++ signText ++ pre ++ cs

/-- An integer as the older format's integer types write it before layout: decimal, octal
or hexadecimal, the base prefix only in the alternate form, zeros added up to the
precision. -/
def Conversion.integerText (c : Conversion) (precision : Option Nat) (i : Int) : String :=
  let (base, pre) : Nat × List Char := match c.type with
    | 'o' => (8, ['0', 'o'])
    | 'x' => (16, ['0', 'x'])
    | 'X' => (16, ['0', 'X'])
    | _ => (10, [])
  let digits := natDigits base i.natAbs
  let digits := padLeft '0' (precision.getD 0) digits
  let digits := if c.type == 'X' then digits.map Char.toUpper else digits
  String.ofList ((if i < 0 then ['-'] else []) ++ (if c.alt then pre else []) ++ digits)

/-- A float as the older format's float types write it before layout, its sign included. -/
def Conversion.realText (c : Conversion) (precision : Option Nat) (x : Float) : String :=
  let p := precision.getD 6
  let form : Decimal.Form := match c.type with
    | 'e' | 'E' => .exponent (p + 1)
    | 'f' | 'F' => .fixed p
    | _ => .general p
  let (neg, body) := Decimal.formText x form c.alt false
  let body := if c.type == 'E' || c.type == 'F' || c.type == 'G' then body.toUpper else body
  (if neg then "-" else "") ++ body

end Storefront.Format
