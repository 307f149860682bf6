import Storefront.Text.Number
import Storefront.Text.CharClass
import Storefront.Text.NameClass

/-!
# Tokens of operation bodies

A body is read as logical lines of tokens. A token is a name (keywords among them), an
integer or float literal, a string literal, a formatted string, or an operator. A logical line
ends at a line break outside brackets and starts with the column of its first token; blank
lines and lines holding only a comment are skipped, a backslash before a line break joins two
lines, and `#` starts a comment that runs to the end of the line.

A string literal is single or double quoted, or tripled to span lines, with backslash
escapes; the prefix `r` keeps backslashes as they are. A bytes literal (prefix `b`) holds
only ASCII characters, and its escapes stand for bytes: `\x` and octal escapes for any
byte, while `\u`, `\U` and `\N` are no escapes there. A formatted string (prefix `f`) is cut
on its text as written: doubled braces stand for themselves, and a field in braces holds the
source of an expression, then an optional `=` that shows the source before the value, an
optional conversion `!r`, `!s` or `!a`, and an optional format specification after `:`,
which may hold fields of its own. Escapes are read only in the text between fields.

Operators are taken longest first. Integers may also be written in base sixteen, eight or
two. Every reader here is total: each takes fuel no smaller than the text it reads, and each
step consumes at least one character.
-/

-- powers of naturals and integers are the core ones, whatever else is in scope
attribute [local instance (1100)] instPowNat

namespace Storefront.Script

/-- A piece of a formatted string: text, or a field with the source of its expression, the
text shown before its value when it ends in `=`, its conversion letter and the pieces of its
format specification. -/
inductive Piece where
  | text (s : String)
  | field (source : String) (shown : Option String) (conv : Option Char) (spec : List Piece)
deriving Repr

/-- A token of a body. -/
inductive Token where
  | name (s : String)
  | int (n : Nat)
  | float (x : Float)
  | str (s : String)
  | bytes (data : List UInt8)
  | format (pieces : List Piece)
  | sym (s : String)

/-- A logical line: the column of its first token and its tokens. -/
structure Line where
  indent : Nat
  tokens : List Token

/-- A character that may start a name. -/
def nameStart (c : Char) : Bool := Text.isNameStart c

/-- A character that may continue a name. -/
def nameChar (c : Char) : Bool := Text.isNameContinue c

/-- An octal digit. -/
def isOctal (c : Char) : Bool := '0' ≤ c && c ≤ '7'

/-- The value of a hexadecimal digit. -/
def hexValue? (c : Char) : Option Nat :=
  if '0' ≤ c && c ≤ '9' then some (c.toNat - '0'.toNat)
  else if 'a' ≤ c && c ≤ 'f' then some (c.toNat - 'a'.toNat + 10)
  else if 'A' ≤ c && c ≤ 'F' then some (c.toNat - 'A'.toNat + 10)
  else none

/-- The value of exactly `n` hexadecimal digits at the front of a text, and the rest. -/
def hexDigits : Nat → List Char → Option (Nat × List Char)
  | 0, cs => some (0, cs)
  | _ + 1, [] => none
  | n + 1, c :: cs => do
    let d ← hexValue? c
    let (v, rest) ← hexDigits n cs
    pure (d * 16 ^ n + v, rest)

/-- The value of up to `n` octal digits at the front of a text, and the rest. -/
def octalDigits (acc : Nat) : Nat → List Char → Nat × List Char
  | 0, cs => (acc, cs)
  | _ + 1, [] => (acc, [])
  | n + 1, c :: cs =>
    if isOctal c then octalDigits (acc * 8 + (c.toNat - '0'.toNat)) n cs else (acc, c :: cs)

/-- A code point as a character; surrogates and values past the last code point are refused. -/
def codePoint? (n : Nat) : Option Char :=
  if n.isValidChar then some (Char.ofNat n) else none

/-- The characters an escape stands for, read after its backslash, and the rest. An unknown
escape keeps its backslash; a named character is not read. -/
def escape : List Char → Option (List Char × List Char)
  | [] => none
  | c :: rest =>
    match c with
    | '\n' => some ([], rest)
    | '\\' => some (['\\'], rest)
    | '\'' => some (['\''], rest)
    | '"' => some (['"'], rest)
    | 'n' => some (['\n'], rest)
    | 't' => some (['\t'], rest)
    | 'r' => some (['\r'], rest)
    | 'a' => some (['\x07'], rest)
    | 'b' => some (['\x08'], rest)
    | 'f' => some (['\x0c'], rest)
    | 'v' => some (['\x0b'], rest)
    | 'x' => do
      let (v, r) ← hexDigits 2 rest
      let ch ← codePoint? v
      pure ([ch], r)
    | 'u' => do
      let (v, r) ← hexDigits 4 rest
      let ch ← codePoint? v
      pure ([ch], r)
    | 'U' => do
      let (v, r) ← hexDigits 8 rest
      let ch ← codePoint? v
      pure ([ch], r)
    | c =>
      if isOctal c then
        let (v, r) := octalDigits (c.toNat - '0'.toNat) 2 rest
        (codePoint? v).map fun ch => ([ch], r)
      else if c == 'N' then none
      else some (['\\', c], rest)

/-- The bytes an escape in a bytes literal stands for, read after its backslash, and the
rest; an escape that is none there keeps its backslash. -/
def byteEscape : List Char → Option (List UInt8 × List Char)
  | [] => none
  | c :: rest =>
    let byte (ch : Char) : UInt8 := ch.toNat.toUInt8
    match c with
    | '\n' => some ([], rest)
    | '\\' => some ([92], rest)
    | '\'' => some ([39], rest)
    | '"' => some ([34], rest)
    | 'n' => some ([10], rest)
    | 't' => some ([9], rest)
    | 'r' => some ([13], rest)
    | 'a' => some ([7], rest)
    | 'b' => some ([8], rest)
    | 'f' => some ([12], rest)
    | 'v' => some ([11], rest)
    | 'x' => do
      let (v, r) ← hexDigits 2 rest
      pure ([v.toUInt8], r)
    | c =>
      if isOctal c then
        let (v, r) := octalDigits (c.toNat - '0'.toNat) 2 rest
        some ([(v % 256).toUInt8], r)
      else some ([92, byte c], rest)

/-- The bytes a bytes literal's body stands for, its escapes read; a character past ASCII
does not read. -/
def unescapeBytes : Nat → List Char → Option (List UInt8)
  | _, [] => some []
  | 0, _ :: _ => none
  | fuel + 1, '\\' :: rest => do
    let (e, r) ← byteEscape rest
    let more ← unescapeBytes fuel r
    pure (e ++ more)
  | fuel + 1, c :: rest =>
    if c.toNat < 128 then (unescapeBytes fuel rest).map (c.toNat.toUInt8 :: ·) else none

/-- The text a string's body stands for, its escapes read. -/
def unescape : Nat → List Char → Option (List Char)
  | _, [] => some []
  | 0, _ :: _ => none
  | fuel + 1, '\\' :: rest => do
    let (e, r) ← escape rest
    let more ← unescape fuel r
    pure (e ++ more)
  | fuel + 1, c :: rest => (unescape fuel rest).map (c :: ·)

/-- The body of a string literal as written, after its opening quote or quotes, up to the
closing ones, and the text after them. A backslash keeps the character after it in the body;
a line break ends a single-quoted literal without closing it. -/
def rawBody (q : Char) (triple : Bool) : Nat → List Char → Option (List Char × List Char)
  | 0, _ => none
  | _ + 1, [] => none
  | fuel + 1, c :: rest =>
    if c == q && (!triple || rest.take 2 == [q, q]) then
      some ([], if triple then rest.drop 2 else rest)
    else if c == '\n' && !triple then none
    else if c == '\\' then
      match rest with
      | d :: r => (rawBody q triple fuel r).map fun (s, r') => ('\\' :: d :: s, r')
      | [] => none
    else (rawBody q triple fuel rest).map fun (s, r) => (c :: s, r)

/-- The end of a quoted string inside a field's source, after its opening quote: the rest
after the closing quote. -/
def skipQuoted (q : Char) : Nat → List Char → Option (List Char × List Char)
  | 0, _ => none
  | _ + 1, [] => none
  | fuel + 1, c :: rest =>
    if c == q then some ([c], rest)
    else (skipQuoted q fuel rest).map fun (s, r) => (c :: s, r)

/-- The source of a formatted string's field: up to a `!` (not `!=`), `:`, `=` (not `==`),
or the closing brace, outside brackets and quotes. A backslash or `#` in the source, or a
bracket that does not match, does not read. -/
def fieldSource : Nat → List Char → List Char → Option (List Char × List Char)
  | 0, _, _ => none
  | _ + 1, _, [] => none
  | fuel + 1, stack, c :: rest =>
    if c == '\\' || c == '#' then none
    else if c == '\'' || c == '"' then do
      let (s, r) ← skipQuoted c fuel rest
      let (more, r') ← fieldSource fuel stack r
      pure (c :: s ++ more, r')
    else if c == '(' || c == '[' || c == '\x7b' then
      (fieldSource fuel (c :: stack) rest).map fun (s, r) => (c :: s, r)
    else if c == ')' || c == ']' || (c == '\x7d' && !stack.isEmpty) then
      match stack with
      | o :: more =>
        if (o == '(' && c == ')') || (o == '[' && c == ']') || (o == '\x7b' && c == '\x7d') then
          (fieldSource fuel more rest).map fun (s, r) => (c :: s, r)
        else none
      | [] => none
    else if stack.isEmpty then
      let next := rest.head?
      if (c == '!' || c == '=' || c == '<' || c == '>') && next == some '=' then
        (fieldSource fuel stack rest.tail).map fun (s, r) => (c :: '=' :: s, r)
      else if c == '!' || c == ':' || c == '\x7d' || c == '=' then some ([], c :: rest)
      else (fieldSource fuel stack rest).map fun (s, r) => (c :: s, r)
    else (fieldSource fuel stack rest).map fun (s, r) => (c :: s, r)

/-- A blank as the runtime's `isspace` on ASCII sees it. -/
def asciiBlank (c : Char) : Bool :=
  c == ' ' || c == '\t' || c == '\n' || c == '\r' || c == '\x0b' || c == '\x0c'

/-- A literal part of a formatted string: its escapes read unless the string is raw. -/
def literalPiece (raw : Bool) (acc : List Char) : Option (List Piece) :=
  if acc.isEmpty then some []
  else
    let cs := acc.reverse
    if raw then some [.text (String.ofList cs)]
    else (unescape (cs.length + 1) cs).map fun t => [.text (String.ofList t)]

/-- The pieces of a formatted string's text as written, at a nesting level: at level zero
the text runs to its end and doubled braces are literal; inside a format specification (level
one or two) it runs to the closing brace of its field, which is consumed. `acc` holds the
literal characters read so far, nearest first. -/
def fpieces (raw : Bool) : Nat → Nat → List Char → List Char → Option (List Piece × List Char)
  | 0, _, _, _ => none
  | _ + 1, level, [], acc =>
    if level == 0 then (literalPiece raw acc).map fun ps => (ps, []) else none
  | fuel + 1, level, '\\' :: 'N' :: '\x7b' :: rest, acc =>
    if raw then fpieces raw fuel level ('\x7b' :: rest) ('N' :: '\\' :: acc)
    else
      let name := rest.takeWhile (· != '\x7d')
      fpieces raw fuel level (rest.drop (name.length + 1))
        ('\x7d' :: name.reverse ++ '\x7b' :: 'N' :: '\\' :: acc)
  | fuel + 1, level, '\\' :: c :: rest, acc =>
    if c == '\x7b' || c == '\x7d' then fpieces raw fuel level (c :: rest) ('\\' :: acc)
    else fpieces raw fuel level rest (c :: '\\' :: acc)
  | fuel + 1, 0, '\x7b' :: '\x7b' :: rest, acc =>
    fpieces raw fuel 0 rest ('\x7b' :: acc)
  | fuel + 1, 0, '\x7d' :: '\x7d' :: rest, acc => fpieces raw fuel 0 rest ('\x7d' :: acc)
  | _ + 1, 0, '\x7d' :: _, _ => none
  | _ + 1, _, '\x7d' :: rest, acc => (literalPiece raw acc).map fun ps => (ps, rest)
  | fuel + 1, level, '\x7b' :: rest, acc => do
    let lit ← literalPiece raw acc
    let (src, r) ← fieldSource fuel [] rest
    if src.all asciiBlank then none
    -- a field ending in `=` shows its source, the sign and the blanks after it
    let (shown, r) := match r with
      | '=' :: r' =>
        let blanks := r'.takeWhile asciiBlank
        (some (String.ofList (src ++ '=' :: blanks)), r'.drop blanks.length)
      | r => (none, r)
    let (conv, r) ← match r with
      | '!' :: k :: r' => if k == 's' || k == 'r' || k == 'a' then some (some k, r') else none
      | r => some (none, r)
    let (spec, r) ← match r with
      | ':' :: r' => if level ≥ 2 then none else fpieces raw fuel (level + 1) r' []
      | '\x7d' :: r' => some ([], r')
      | _ => none
    let (more, r) ← fpieces raw fuel level r []
    pure (lit ++ .field (String.ofList src) shown conv spec :: more, r)
  | fuel + 1, level, c :: rest, acc => fpieces raw fuel level rest (c :: acc)

/-- The exponent of a float literal after its `e`: an optional sign and digits. -/
def exponentOf (cs : List Char) : Option (Int × List Char) := do
  let (neg, body) := Text.sign cs
  let (ds, rest) ← Text.digitRun body
  let v : Int := Json.digitsValue ds
  pure (if neg then -v else v, rest)

/-- The value of a digit in a base up to sixteen. -/
def digitIn (base : Nat) (c : Char) : Option Nat :=
  (hexValue? c).bind fun d => if d < base then some d else none

/-- Digits of a base, each but the first allowed one underscore before it: their value, how
many there were, and the rest. -/
def radixDigits (base : Nat) (acc count : Nat) : List Char → Nat × Nat × List Char
  | '_' :: c :: rest =>
    match digitIn base c with
    | some d => radixDigits base (acc * base + d) (count + 1) rest
    | none => (acc, count, '_' :: c :: rest)
  | c :: rest =>
    match digitIn base c with
    | some d => radixDigits base (acc * base + d) (count + 1) rest
    | none => (acc, count, c :: rest)
  | [] => (acc, count, [])

/-- An integer literal in base sixteen, eight or two after its prefix `0x`, `0o` or `0b`;
at least one digit, and no name character right after them. -/
def radixOf (base : Nat) (cs : List Char) : Option (Token × List Char) :=
  let (v, count, rest) := radixDigits base 0 0 cs
  if count == 0 || (rest.head?.map nameChar).getD false then none else some (.int v, rest)

/-- A number literal: digits with single underscores between them, then a fraction, an
exponent or both for a float; or an integer in base sixteen, eight or two. An integer of
several decimal digits may not start with zero unless all its digits are zero. -/
def numberOf (cs : List Char) : Option (Token × List Char) := do
  match cs with
  | '0' :: p :: rest =>
    if p == 'x' || p == 'X' then return ← radixOf 16 rest
    else if p == 'o' || p == 'O' then return ← radixOf 8 rest
    else if p == 'b' || p == 'B' then return ← radixOf 2 rest
  | _ => pure ()
  let (ip, rest) := (Text.digitRun cs).getD ([], cs)
  let float (fp : List Char) (e : Int) : Token :=
    .float (Json.scientific (Json.digitsValue (ip ++ fp)) (e - fp.length))
  let (tok, rest) ← match rest with
    | '.' :: r =>
      let (fp, r) := (Text.digitRun r).getD ([], r)
      match r with
      | e :: r' =>
        if e == 'e' || e == 'E' then do
          let (x, r'') ← exponentOf r'
          pure (float fp x, r'')
        else pure (float fp 0, e :: r')
      | [] => pure (float fp 0, [])
    | e :: r =>
      if e == 'e' || e == 'E' then do
        let (x, r') ← exponentOf r
        pure (float [] x, r')
      else if ip.length > 1 && ip.head? == some '0' && ip.any (· != '0') then none
      else pure (.int (Json.digitsValue ip), e :: r)
    | [] =>
      if ip.length > 1 && ip.head? == some '0' && ip.any (· != '0') then none
      else pure (.int (Json.digitsValue ip), [])
  -- a literal may not run into a name
  if (rest.head?.map nameChar).getD false then none else pure (tok, rest)

/-- The operators and punctuation, longest first. -/
def symbols : List String :=
  ["**=", "//=", "<<=", ">>=", "...",
    "**", "//", "<<", ">>", "==", "!=", "<=", ">=", "+=", "-=", "*=", "/=", "%=", "&=", "|=",
    "^=", "->", ":=", "@=",
    "(", ")", "[", "]", "\x7b", "\x7d", ",", ".", ":", ";", "+", "-", "*", "/", "%", "<", ">",
    "=", "&", "|", "^", "~", "@"]

/-- The bracket depth after a symbol: one deeper after an opening bracket, one shallower
after a closing one. -/
def depthAfter (depth : Nat) (s : String) : Nat :=
  if s == "(" || s == "[" || s == "\x7b" then depth + 1
  else if s == ")" || s == "]" || s == "\x7d" then depth - 1
  else depth

/-- The symbol at the front of a text, if one is there. -/
def symbolOf (cs : List Char) : Option String :=
  symbols.find? fun s => s.toList.isPrefixOf cs

/-- What a string literal's prefix asks for: backslashes kept as they are, a formatted
string, bytes. -/
structure LiteralKind where
  raw : Bool
  formatted : Bool
  bytes : Bool

/-- The string prefixes: raw, formatted, both, bytes, raw bytes, and the plain `u`. -/
def stringPrefix? (p : String) : Option LiteralKind :=
  match p.toLower with
  | "r" => some ⟨true, false, false⟩
  | "f" => some ⟨false, true, false⟩
  | "rf" | "fr" => some ⟨true, true, false⟩
  | "b" => some ⟨false, false, true⟩
  | "rb" | "br" => some ⟨true, false, true⟩
  | "u" => some ⟨false, false, false⟩
  | _ => none

/-- A string literal after its prefix, from the opening quote on. -/
def stringOf (kind : LiteralKind) (fuel : Nat) (q : Char) (rest : List Char) :
    Option (Token × List Char) := do
  let raw := kind.raw
  let triple := rest.take 2 == [q, q]
  let (body, r) ← rawBody q triple fuel (if triple then rest.drop 2 else rest)
  if kind.bytes then
    if raw then
      if body.all (·.toNat < 128) then pure (.bytes (body.map (·.toNat.toUInt8)), r) else none
    else do
      let bs ← unescapeBytes (body.length + 1) body
      pure (.bytes bs, r)
  else if kind.formatted then do
    let (ps, _) ← fpieces raw (body.length + 1) 0 body []
    pure (.format ps, r)
  else if raw then pure (.str (String.ofList body), r)
  else do
    let s ← unescape (body.length + 1) body
    pure (.str (String.ofList s), r)

/-- The column a run of blanks at the start of a line reaches: a tab moves to the next
multiple of eight, a form feed starts over. -/
def columnOf (col : Nat) : List Char → Nat × List Char
  | ' ' :: rest => columnOf (col + 1) rest
  | '\t' :: rest => columnOf ((col / 8 + 1) * 8) rest
  | '\x0c' :: rest => columnOf 0 rest
  | cs => (col, cs)

/-- The start of the next line that holds a token, and its column: blank lines and lines
holding only a comment are passed over. `extra` is added to the column of the first line. -/
def nextLine (extra : Nat) : Nat → List Char → Nat × List Char
  | 0, cs => (0, cs)
  | fuel + 1, cs =>
    let (col, rest) := columnOf 0 cs
    let rest := rest.dropWhile (· == '\r')
    match rest with
    | '\n' :: more => nextLine 0 fuel more
    | '#' :: more => match more.dropWhile (· != '\n') with
      | '\n' :: after => nextLine 0 fuel after
      | _ => (0, [])
    | [] => (0, [])
    | _ => (col + extra, rest)

/-- The tokens of a text with fuel for each character, at a bracket depth: a line break
outside brackets starts a new logical line, and the tokens of each line are gathered in
`line` (nearest first) before they join the finished lines. -/
def linesWithin : Nat → Nat → Nat → List Token → List Char → Option (List Line)
  | _, _, indent, line, [] => some (if line.isEmpty then [] else [⟨indent, line.reverse⟩])
  | 0, _, _, _, _ :: _ => none
  | fuel + 1, depth, indent, line, c :: rest =>
    if c == ' ' || c == '\t' || c == '\x0c' || c == '\r' then linesWithin fuel depth indent line rest
    else if c == '\\' then
      match rest.dropWhile (· == '\r') with
      | '\n' :: more => linesWithin fuel depth indent line more
      | _ => none
    else if c == '\n' then
      if depth > 0 then linesWithin fuel depth indent line rest
      else
        let (col, more) := nextLine 0 fuel rest
        (linesWithin fuel depth col [] more).map fun ls =>
          if line.isEmpty then ls else ⟨indent, line.reverse⟩ :: ls
    else if c == '#' then linesWithin fuel depth indent line (rest.dropWhile (· != '\n'))
    else if c == '\'' || c == '"' then do
      let (t, r) ← stringOf ⟨false, false, false⟩ fuel c rest
      linesWithin fuel depth indent (t :: line) r
    else if c.isDigit || (c == '.' && (rest.head?.map Char.isDigit).getD false) then do
      let (t, r) ← numberOf (c :: rest)
      linesWithin fuel depth indent (t :: line) r
    else if nameStart c then
      let n := c :: rest.takeWhile nameChar
      let r := rest.dropWhile nameChar
      match r, stringPrefix? (String.ofList n) with
      | q :: r', some kind =>
        if q == '\'' || q == '"' then do
          let (t, r'') ← stringOf kind fuel q r'
          linesWithin fuel depth indent (t :: line) r''
        else linesWithin fuel depth indent (.name (String.ofList n) :: line) r
      | _, _ => linesWithin fuel depth indent (.name (String.ofList n) :: line) r
    else match symbolOf (c :: rest) with
      | some s =>
        linesWithin fuel (depthAfter depth s) indent (.sym s :: line) ((c :: rest).drop s.length)
      | none => none

/-- The logical lines of a text whose first line stands `extra` columns further right. -/
def lines (extra : Nat) (s : String) : Option (List Line) :=
  let cs := s.toList
  let (col, rest) := nextLine extra (cs.length + 1) cs
  linesWithin (cs.length + 1) 0 col [] rest

/-- The tokens of a text on its own, its lines joined. -/
def tokens (s : String) : Option (List Token) :=
  (lines 0 ("(" ++ s ++ "\n)")).bind fun ls => match ls with
    | [l] => some ((l.tokens.drop 1).dropLast)
    | _ => none

end Storefront.Script
