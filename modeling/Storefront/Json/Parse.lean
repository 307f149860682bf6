import Storefront.Json.Value
import Storefront.Text.CodePoint

/-!
# Reading JSON text

The grammar is strict JSON with three extra literals (`NaN`, `Infinity`, `-Infinity`).
Numbers without fraction or exponent are integers of any size up to 4300 digits; the others
round to the nearest binary64. A string may not hold a raw control character. Object keys
may repeat: the key keeps its first place and takes its last value. Blanks are space, tab,
line feed and carriage return; a byte order mark at the start is refused, and so is any text
after the document.

A text that does not read is refused at a point, with the reader's words for what it
expected there; `ReadError.describe` adds the line, column and offset of the point. An
integer with too many digits is refused apart, as the number conversion refuses it.
-/

namespace Storefront.Json

/-- JSON blank characters. -/
def isBlank (c : Char) : Bool := c == ' ' || c == '\t' || c == '\n' || c == '\r'

/-- Drop leading blanks. -/
def skipBlank (cs : List Char) : List Char := cs.dropWhile isBlank

/-- The value of one hexadecimal digit. -/
def hexDigit? (c : Char) : Option Nat :=
  if '0' ≤ c ∧ c ≤ '9' then some (c.toNat - '0'.toNat)
  else if 'a' ≤ c ∧ c ≤ 'f' then some (c.toNat - 'a'.toNat + 10)
  else if 'A' ≤ c ∧ c ≤ 'F' then some (c.toNat - 'A'.toNat + 10)
  else none

/-- The value of four hexadecimal digits. -/
def hex4? (a b c d : Char) : Option Nat := do
  let w ← hexDigit? a
  let x ← hexDigit? b
  let y ← hexDigit? c
  let z ← hexDigit? d
  pure (((w * 16 + x) * 16 + y) * 16 + z)

/-- The character of a code point; a lone surrogate is kept on the shelf of characters
that stand for surrogates. -/
def charOfCode (n : Nat) : Char := Text.charOfCode n

/-- Why a text does not read as JSON: the reader's words and the text from the point they
name, or an integer of too many digits (their count). -/
inductive ReadError where
  | fault (message : String) (rest : List Char)
  | tooManyDigits (count : Nat)

/-- The line, column and offset of the point where `rest` starts inside `text`: lines count
line feeds before it, from one; the column counts from the last line feed, from one. -/
def ReadError.place (text rest : List Char) : Nat × Nat × Nat :=
  let pos := text.length - rest.length
  let before := text.take pos
  let line := before.count '\n' + 1
  let col := match (before.reverse.findIdx? (· == '\n')) with
    | some k => k + 1
    | none => pos + 1
  (line, col, pos)

/-- The text of a refusal of a text, as the reader words it. -/
def ReadError.describe (text : List Char) : ReadError → String
  | .fault m rest =>
    let (line, col, pos) := ReadError.place text rest
    m ++ ": line " ++ toString line ++ " column " ++ toString col ++ " (char " ++ toString pos ++ ")"
  | .tooManyDigits n =>
    "Exceeds the limit (4300 digits) for integer string conversion: value has " ++
      toString n ++ " digits; use sys.set_int_max_str_digits() to increase the limit"

/-- The refusal of a string that does not end; `start` is the text from its opening quote. -/
def unterminated (start : List Char) : ReadError := .fault "Unterminated string starting at" start

/-- A `\u` escape that is not four hexadecimal digits; `pos` is the text from its `u`. -/
def badUnicode (pos : List Char) : ReadError := .fault "Invalid \\uXXXX escape" pos

/-- The body of a string after its opening quote (`start` is the text from the quote), up to
and without the closing quote. A high surrogate escape followed by a low one stands for one
character; any other surrogate escape stands for a lone surrogate. -/
def stringBody (start : List Char) : List Char → List Char → Except ReadError (String × List Char)
  | [], _ => .error (unterminated start)
  | '"' :: rest, acc => .ok (String.ofList acc.reverse, rest)
  | '\\' :: rest, acc =>
    match rest with
    | [] => .error (unterminated start)
    | 'u' :: r =>
      match r with
      | [] | [_] | [_, _] | [_, _, _] | [_, _, _, _] => .error (badUnicode ('u' :: r))
      | a :: b :: c :: d :: after =>
        match hex4? a b c d with
        | none => .error (badUnicode ('u' :: r))
        | some hi =>
          -- the escape stands alone unless a low surrogate escape follows a high one
          if 0xD800 ≤ hi ∧ hi ≤ 0xDBFF ∧ !(after.drop 6).isEmpty then
            match ha : after with
            | '\\' :: 'u' :: e :: f :: g :: h :: more =>
              match hex4? e f g h with
              | none => .error (badUnicode (after.drop 1))
              | some lo =>
                if 0xDC00 ≤ lo ∧ lo ≤ 0xDFFF then
                  stringBody start more (charOfCode (0x10000 + (hi - 0xD800) * 0x400 + (lo - 0xDC00)) :: acc)
                else stringBody start after (charOfCode hi :: acc)
            | _ => stringBody start after (charOfCode hi :: acc)
          else stringBody start after (charOfCode hi :: acc)
    | e :: r =>
      let esc : Option Char := match e with
        | '"' => some '"'
        | '\\' => some '\\'
        | '/' => some '/'
        | 'b' => some '\x08'
        | 'f' => some '\x0c'
        | 'n' => some '\n'
        | 'r' => some '\r'
        | 't' => some '\t'
        | _ => none
      match esc with
      | some x => stringBody start r (x :: acc)
      | none => .error (.fault "Invalid \\escape" ('\\' :: rest))
  | c :: rest, acc =>
    if c.toNat < 0x20 then .error (.fault "Invalid control character at" (c :: rest))
    else stringBody start rest (c :: acc)
termination_by cs => cs.length
decreasing_by all_goals (simp_all; try omega)

/-- ASCII decimal digit. -/
def isDigit (c : Char) : Bool := '0' ≤ c && c ≤ '9'

/-- The value of a run of decimal digits. -/
def digitsValue (ds : List Char) : Nat := ds.foldl (fun n c => n * 10 + (c.toNat - '0'.toNat)) 0

/-- The binary64 nearest to `m * 10^e`. -/
def scientific (m : Nat) (e : Int) : Float :=
  if m = 0 then 0.0
  else
    let len : Int := (toString m).length
    if len + e > 310 then 1.0 / 0.0
    else if len + e < -330 then 0.0
    else if e ≥ 0 then Float.ofScientific m false e.toNat
    else Float.ofScientific m true (-e).toNat

/-- The longest integer part: a single zero, or a non-zero digit and more digits. -/
def intPart : List Char → Option (List Char × List Char)
  | '0' :: rest => some (['0'], rest)
  | c :: rest => if isDigit c && c != '0' then
      some (c :: rest.takeWhile isDigit, rest.dropWhile isDigit) else none
  | [] => none

/-- A fraction: a point and at least one digit; absent otherwise. -/
def fracPart : List Char → List Char × List Char
  | '.' :: rest =>
    let ds := rest.takeWhile isDigit
    if ds.isEmpty then ([], '.' :: rest) else (ds, rest.dropWhile isDigit)
  | cs => ([], cs)

/-- An exponent: a mark, an optional sign and at least one digit; absent otherwise. -/
def expPart (cs : List Char) : Option Int × List Char :=
  match cs with
  | e :: rest =>
    if e == 'e' || e == 'E' then
      let (neg, body) := match rest with
        | '-' :: r => (true, r)
        | '+' :: r => (false, r)
        | r => (false, r)
      let ds := body.takeWhile isDigit
      if ds.isEmpty then (none, cs)
      else
        let v : Int := digitsValue ds
        (some (if neg then -v else v), body.dropWhile isDigit)
    else (none, cs)
  | [] => (none, cs)

/-- Integers longer than this many digits are refused. -/
def maxIntDigits : Nat := 4300

/-- A number: an optional minus, an integer part, then a fraction when a point is followed
by a digit, then an exponent when a mark is followed by digits (with an optional sign). It is
an integer when it has neither fraction nor exponent. `none` when no number starts here. -/
def number (cs : List Char) : Option (Except ReadError (Json × List Char)) := do
  let (neg, body) := match cs with
    | '-' :: r => (true, r)
    | r => (false, r)
  let (ip, rest) ← intPart body
  let (fp, rest) := fracPart rest
  let (ex, rest) := expPart rest
  if fp.isEmpty && ex.isNone then
    if ip.length > maxIntDigits then pure (.error (.tooManyDigits ip.length))
    else
      let v : Int := digitsValue ip
      pure (.ok (.int (if neg then -v else v), rest))
  else
    let m := digitsValue (ip ++ fp)
    let x := scientific m (ex.getD 0 - fp.length)
    pure (.ok (.float (if neg then -x else x), rest))

/-- The refusal of a point where a value should start. -/
def expectingValue (cs : List Char) : ReadError := .fault "Expecting value" cs

mutual

/-- One value after blanks have been skipped. -/
def value : Nat → List Char → Except ReadError (Json × List Char)
  | 0, cs => .error (expectingValue cs)
  | fuel + 1, cs =>
    match cs with
    | '{' :: rest =>
      match skipBlank rest with
      | '}' :: r => .ok (.obj [], r)
      | r => members fuel r []
    | '[' :: rest =>
      match skipBlank rest with
      | ']' :: r => .ok (.arr [], r)
      | r => items fuel r []
    | '"' :: rest => do
      let (s, r) ← stringBody cs rest []
      pure (.str s, r)
    | 'n' :: 'u' :: 'l' :: 'l' :: r => .ok (.null, r)
    | 't' :: 'r' :: 'u' :: 'e' :: r => .ok (.bool true, r)
    | 'f' :: 'a' :: 'l' :: 's' :: 'e' :: r => .ok (.bool false, r)
    | 'N' :: 'a' :: 'N' :: r => .ok (.float (0.0 / 0.0), r)
    | 'I' :: 'n' :: 'f' :: 'i' :: 'n' :: 'i' :: 't' :: 'y' :: r => .ok (.float (1.0 / 0.0), r)
    | '-' :: 'I' :: 'n' :: 'f' :: 'i' :: 'n' :: 'i' :: 't' :: 'y' :: r =>
      .ok (.float (-(1.0 / 0.0)), r)
    | _ => (number cs).getD (.error (expectingValue cs))

/-- Array items after the opening bracket, the first one next. -/
def items : Nat → List Char → List Json → Except ReadError (Json × List Char)
  | 0, cs, _ => .error (expectingValue cs)
  | fuel + 1, cs, acc => do
    let (v, rest) ← value fuel cs
    match skipBlank rest with
    | ']' :: r => pure (.arr (v :: acc).reverse, r)
    | ',' :: r => items fuel (skipBlank r) (v :: acc)
    | r => .error (.fault "Expecting ',' delimiter" r)

/-- Object members after the opening brace, the first key next. -/
def members : Nat → List Char → List (String × Json) → Except ReadError (Json × List Char)
  | 0, cs, _ => .error (expectingValue cs)
  | fuel + 1, cs, acc =>
    match cs with
    | '"' :: rest => do
      let (k, rest) ← stringBody cs rest []
      match skipBlank rest with
      | ':' :: rest => do
        let (v, rest) ← value fuel (skipBlank rest)
        let acc := setMember acc k v
        match skipBlank rest with
        | '}' :: r => pure (.obj acc, r)
        | ',' :: r => members fuel (skipBlank r) acc
        | r => .error (.fault "Expecting ',' delimiter" r)
      | r => .error (.fault "Expecting ':' delimiter" r)
    | _ => .error (.fault "Expecting property name enclosed in double quotes" cs)

end

/-- The document a text holds, or why it does not hold exactly one. -/
def parse (s : String) : Except ReadError Json :=
  let cs := s.toList
  match cs with
  | '\uFEFF' :: _ => .error (.fault "Unexpected UTF-8 BOM (decode using utf-8-sig)" cs)
  | _ => do
    let (j, rest) ← value (cs.length + 1) (skipBlank cs)
    match skipBlank rest with
    | [] => pure j
    | r => .error (.fault "Extra data" r)

/-- The document a text holds, if it holds exactly one. -/
def parse? (s : String) : Option Json :=
  match parse s with
  | .ok j => some j
  | .error _ => none

end Storefront.Json
