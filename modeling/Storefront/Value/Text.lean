import Storefront.Value.Basic
import Storefront.Decimal.Layout
import Storefront.Text.Printable
import Storefront.Text.CodePoint

/-!
# Value text

Two texts of a value. `repr` reads back as the value: strings quoted and escaped, timestamps
as constructor calls, statuses in angle brackets, records as their class applied to their
fields. `plain` is the plain text: a string as itself, a timestamp in ISO form with a space,
a status as its code, anything else as its `repr`.
-/

namespace Storefront

namespace Value

/-- Floats are written with the fewest digits that read back, positionally for leading-digit
exponents from -4 to 15, with `.0` on integral values. -/
def floatLayout : Decimal.Layout :=
  { plainFrom := -4, plainBelow := 16, pointZero := true, expPlus := true, expWidth := 2,
    nan := "nan", inf := "inf" }

/-- Lowercase hexadecimal digits of `n`, at least `w` of them. -/
def hex (w n : Nat) : String :=
  let ds := (Nat.toDigits 16 n)
  String.ofList (List.replicate (w - ds.length) '0' ++ ds)

/-- One character inside a quoted string: backslash, the quote and the usual controls by
short escapes, other non-printable characters (lone surrogates among them) by code. -/
def escapeIn (quote : Char) (c : Char) : String :=
  if c == '\\' then "\\\\"
  else if c == quote then "\\" ++ String.singleton c
  else if c == '\n' then "\\n"
  else if c == '\r' then "\\r"
  else if c == '\t' then "\\t"
  else if Text.isPrintable c then String.singleton c
  else
    let n := Text.codePoint c
    if n < 0x100 then "\\x" ++ hex 2 n
    else if n < 0x10000 then "\\u" ++ hex 4 n
    else "\\U" ++ hex 8 n

/-- A string in quotes: single quotes, or double quotes when the text holds a single quote
and no double quote. -/
def quoted (s : String) : String :=
  let q := if s.contains '\'' && !s.contains '"' then '"' else '\''
  String.singleton q ++ String.join (s.toList.map (escapeIn q)) ++ String.singleton q

/-- The text of a status in angle brackets. -/
def statusRepr (s : TaskStatus) : String :=
  "<TaskStatus." ++ s.name ++ ": " ++ toString s.code ++ ">"

mutual

/-- The text that reads back as the value. -/
def repr : Value → String
  | none => "None"
  | bool b => if b then "True" else "False"
  | int i => toString i
  | float x => floatLayout.float x
  | str s => quoted s
  | time t => t.callText
  | status s => statusRepr s
  | list xs => "[" ++ reprs xs ++ "]"
  | tuple [x] => "(" ++ repr x ++ ",)"
  | tuple xs => "(" ++ reprs xs ++ ")"
  | dict es => "\x7b" ++ entryReprs es ++ "\x7d"
  | record c fs => c.name ++ "(" ++ fieldReprs fs ++ ")"

/-- Items separated by commas. -/
def reprs : List Value → String
  | [] => ""
  | [x] => repr x
  | x :: xs => repr x ++ ", " ++ reprs xs

/-- Map entries as `'key': value`. -/
def entryReprs : List (String × Value) → String
  | [] => ""
  | [(k, v)] => quoted k ++ ": " ++ repr v
  | (k, v) :: es => quoted k ++ ": " ++ repr v ++ ", " ++ entryReprs es

/-- Record fields as `name=value`. -/
def fieldReprs : List (String × Value) → String
  | [] => ""
  | [(k, v)] => k ++ "=" ++ repr v
  | (k, v) :: es => k ++ "=" ++ repr v ++ ", " ++ fieldReprs es

end

/-- The plain text of a value. -/
def plain : Value → String
  | str s => s
  | time t => t.isoText " " false
  | status s => toString s.code
  | v => v.repr

end Value

end Storefront
