import Storefront.Json.Parse

/-!
# Documents as the table reads them

The table's path functions read a document with a stricter grammar than the service's
reader: there is no `NaN` or `Infinity`, an integer part has no leading zero, a point and an
exponent mark need digits on both sides, and blanks are space, tab, line feed and carriage
return. Arrays and objects nest at most two thousand deep. A document that does not read
makes every path function on it fail.

Each scalar keeps the text it was written with. Object keys are matched as written, escapes
included, and of repeated keys the first wins. An array or object read by path is its text
with blanks removed and every token as written, so `[1e2, "\/"]` reads as `[1e2,"\/"]`.
-/

namespace Storefront

/-- A node of a document as the table reads it: a number keeps its text and whether it is
an integer, a string the text between its quotes as written, an object its keys as written
and every member in order. -/
inductive DocNode where
  | null
  | bool (b : Bool)
  | num (text : String) (integral : Bool)
  | str (raw : String)
  | arr (items : List DocNode)
  | obj (members : List (String × DocNode))
deriving Inhabited

namespace DocNode

/-- Nesting deeper than this does not read. -/
def maxDepth : Nat := 2000

/-- The text of a string after its opening quote, as written, up to its closing quote; a
raw control character, a bad escape or a missing closing quote does not read. -/
def rawString : List Char → List Char → Option (String × List Char)
  | [], _ => none
  | '"' :: rest, acc => some (String.ofList acc.reverse, rest)
  | '\\' :: e :: rest, acc =>
    if e == '"' || e == '\\' || e == '/' || e == 'b' || e == 'f' || e == 'n' || e == 'r' ||
        e == 't' then rawString rest (e :: '\\' :: acc)
    else if e == 'u' then
      match rest with
      | a :: b :: c :: d :: _ =>
        if (Json.hex4? a b c d).isSome then rawString rest ('u' :: '\\' :: acc) else none
      | _ => none
    else none
  | c :: rest, acc => if c.toNat < 0x20 then none else rawString rest (c :: acc)

/-- Whether a character may end a number: a digit. -/
def endsNumber (c : Char) : Bool := Json.isDigit c

/-- The rest of a number after its first character: digits, at most one point, at most one
exponent mark with an optional sign and a digit after it, a point never after the mark.
`prev` is the character before, `dp` and `ex` whether a point or a mark was seen. -/
def numberTail (prev : Char) (dp ex : Bool) : List Char → List Char → Option (List Char × Bool × List Char)
  | c :: rest, acc =>
    if Json.isDigit c then numberTail c dp ex rest (c :: acc)
    else if c == '.' then
      if prev == '-' || dp then none else numberTail c true ex rest (c :: acc)
    else if c == 'e' || c == 'E' then
      if !endsNumber prev || ex then none else
        match rest with
        | s :: d :: more =>
          if (s == '+' || s == '-') && Json.isDigit d then numberTail d true true more (d :: s :: c :: acc)
          else if Json.isDigit s then numberTail s true true (d :: more) (s :: c :: acc)
          else none
        | [d] => if Json.isDigit d then numberTail d true true [] (d :: c :: acc) else none
        | [] => none
    else if endsNumber prev then some (acc.reverse, dp, c :: rest) else none
  | [], acc => if endsNumber prev then some (acc.reverse, dp, []) else none

/-- A number starting with a minus or a digit; a zero may not be followed by a digit. -/
def number (cs : List Char) : Option (DocNode × List Char) :=
  match cs with
  | c :: rest =>
    let digits := if c == '-' then rest else cs
    match digits with
    | '0' :: d :: _ => if Json.isDigit d then none else go c rest
    | _ => go c rest
  | [] => none
where
  go (c : Char) (rest : List Char) : Option (DocNode × List Char) := do
    let (text, dp, after) ← numberTail c false false rest [c]
    pure (.num (String.ofList text) !dp, after)

/-- Drop leading blanks. -/
def skip (cs : List Char) : List Char := Json.skipBlank cs

mutual

/-- One value, blanks before it skipped; `depth` counts the containers it is inside. -/
def value : Nat → Nat → List Char → Option (DocNode × List Char)
  | 0, _, _ => none
  | fuel + 1, depth, cs =>
    match skip cs with
    | '{' :: rest =>
      if depth + 1 > maxDepth then none else
      match skip rest with
      | '}' :: r => some (.obj [], r)
      | r => members fuel (depth + 1) r []
    | '[' :: rest =>
      if depth + 1 > maxDepth then none else
      match skip rest with
      | ']' :: r => some (.arr [], r)
      | r => items fuel (depth + 1) r []
    | '"' :: rest => do
      let (s, r) ← rawString rest []
      pure (.str s, r)
    | 'n' :: 'u' :: 'l' :: 'l' :: r => some (.null, r)
    | 't' :: 'r' :: 'u' :: 'e' :: r => some (.bool true, r)
    | 'f' :: 'a' :: 'l' :: 's' :: 'e' :: r => some (.bool false, r)
    | c :: r => if c == '-' || Json.isDigit c then number (c :: r) else none
    | [] => none

/-- Array items after the opening bracket, the next one first. -/
def items : Nat → Nat → List Char → List DocNode → Option (DocNode × List Char)
  | 0, _, _, _ => none
  | fuel + 1, depth, cs, acc => do
    let (v, rest) ← value fuel depth cs
    match skip rest with
    | ']' :: r => pure (.arr (v :: acc).reverse, r)
    | ',' :: r => items fuel depth r (v :: acc)
    | _ => none

/-- Object members after the opening brace, the next key first. -/
def members : Nat → Nat → List Char → List (String × DocNode) → Option (DocNode × List Char)
  | 0, _, _, _ => none
  | fuel + 1, depth, cs, acc =>
    match skip cs with
    | '"' :: rest => do
      let (k, rest) ← rawString rest []
      match skip rest with
      | ':' :: rest => do
        let (v, rest) ← value fuel depth rest
        match skip rest with
        | '}' :: r => pure (.obj ((k, v) :: acc).reverse, r)
        | ',' :: r => members fuel depth r ((k, v) :: acc)
        | _ => none
      | _ => none
    | _ => none

end

/-- The document a text holds, if it reads as exactly one value. -/
def read? (s : String) : Option DocNode :=
  let cs := s.toList
  match value (cs.length + 1) 0 cs with
  | some (d, rest) => if (skip rest).isEmpty then some d else none
  | none => none

mutual

/-- The text of a node with blanks removed, every token as written. -/
def render : DocNode → String
  | null => "null"
  | bool b => if b then "true" else "false"
  | num t _ => t
  | str raw => "\"" ++ raw ++ "\""
  | arr xs => "[" ++ renderItems xs ++ "]"
  | obj ms => "\x7b" ++ renderMembers ms ++ "\x7d"

/-- Items' texts joined by commas. -/
def renderItems : List DocNode → String
  | [] => ""
  | [x] => render x
  | x :: xs => render x ++ "," ++ renderItems xs

/-- Members' texts joined by commas. -/
def renderMembers : List (String × DocNode) → String
  | [] => ""
  | [(k, v)] => "\"" ++ k ++ "\":" ++ render v
  | (k, v) :: ms => "\"" ++ k ++ "\":" ++ render v ++ "," ++ renderMembers ms

end

/-- The member under a key as written; of repeated keys the first. -/
def member? (d : DocNode) (k : String) : Option DocNode :=
  match d with
  | obj ms => (ms.find? (·.1 == k)).map (·.2)
  | _ => none

/-- The node at a dotted path; a step through anything but an object finds nothing. -/
def atPath? (d : DocNode) (path : String) : Option DocNode :=
  (path.splitOn ".").foldl (fun n k => n.bind fun n => n.member? k) (some d)

/-- The text a string's escapes stand for. A `\u0000` escape ends the text; a surrogate pair
of escapes stands for one character, and a lone surrogate escape for the lone surrogate
(whose three bytes sort between U+D7FF and U+E000). -/
def unescape : List Char → List Char → String
  | [], acc => String.ofList acc.reverse
  | '\\' :: 'u' :: a :: b :: c :: d :: rest, acc =>
    match Json.hex4? a b c d with
    | some 0 => String.ofList acc.reverse
    | some v =>
      if 0xD800 ≤ v ∧ v ≤ 0xDBFF then
        match hr : rest with
        | '\\' :: 'u' :: e :: f :: g :: h :: more =>
          match Json.hex4? e f g h with
          | some lo =>
            if 0xDC00 ≤ lo ∧ lo ≤ 0xDFFF then
              unescape more (Json.charOfCode (0x10000 + (v - 0xD800) * 0x400 + (lo - 0xDC00)) :: acc)
            else unescape rest (Json.charOfCode v :: acc)
          | none => unescape rest (Json.charOfCode v :: acc)
        | _ => unescape rest (Json.charOfCode v :: acc)
      else unescape rest (Json.charOfCode v :: acc)
    | none => unescape rest acc
  | '\\' :: e :: rest, acc =>
    let c := match e with
      | 'b' => '\x08'
      | 'f' => '\x0c'
      | 'n' => '\n'
      | 'r' => '\r'
      | 't' => '\t'
      | x => x
    unescape rest (c :: acc)
  | c :: rest, acc => unescape rest (c :: acc)
termination_by cs => cs.length
decreasing_by all_goals (simp_all; try omega)

/-- The value of a number's text that is not an integer, rounded to the nearest binary64. -/
def realOf (t : String) : Float :=
  let (neg, body) := match t.toList with
    | '-' :: r => (true, r)
    | r => (false, r)
  let ip := body.takeWhile Json.isDigit
  let (fp, rest) := Json.fracPart (body.dropWhile Json.isDigit)
  let (ex, _) := Json.expPart rest
  let x := Json.scientific (Json.digitsValue (ip ++ fp)) (ex.getD 0 - fp.length)
  if neg then -x else x

/-- The value of an integer's text. -/
def intOf (t : String) : Int :=
  match t.toList with
  | '-' :: r => -(Json.digitsValue r : Int)
  | r => Json.digitsValue r

end DocNode

end Storefront
