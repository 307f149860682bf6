import Storefront.Text.CodePoint
import Storefront.Text.Number

/-!
# Texts as bytes

A text is written as bytes, and bytes are read back as a text, through an encoding: UTF-8
(also behind a byte order mark), ASCII, Latin-1, or UTF-16 or UTF-32 in either byte order,
or, with no order fixed, little-endian behind a byte order mark.

What an encoding cannot take is handed to an error mode: a lone surrogate in a UTF, or a
code point beyond ASCII or Latin-1, when writing; bytes that do not form a code point, when
reading. `strict` fails with the positions and the reason; `ignore` drops what it is given;
`replace` puts `?` (writing) or U+FFFD (reading) in its place; `backslashreplace` writes
escapes, and `xmlcharrefreplace` character references when writing; `surrogateescape`
carries the bytes 0x80 to 0xFF as the lone surrogates U+DC80 to U+DCFF, both ways; and
`surrogatepass` lets lone surrogates through a UTF. A mode of another name fails only when
a character or a byte needs it.

ASCII, Latin-1 and UTF-8 hand a whole run of characters they cannot write to the mode at
once, UTF-16 and UTF-32 one character at a time. Reading UTF-8 refuses the longest start of
a sequence that cannot be completed: a lead byte alone when the byte after it does not fit,
the lead and its fitting continuations when a later one does not, and all that is left when
the bytes end inside a sequence.
-/

-- powers of naturals and integers are the core ones, whatever else is in scope
attribute [local instance (1100)] instPowNat

namespace Storefront.Text

/-- The order of the bytes of a code unit wider than a byte. -/
inductive ByteOrder where
  | little
  | big
deriving DecidableEq, Repr

/-- An encoding. -/
inductive Encoding where
  | utf8
  /-- UTF-8 behind the byte order mark EF BB BF -/
  | utf8Marked
  | ascii
  | latin1
  /-- UTF-16 in a byte order, or, with none, little-endian behind a mark -/
  | utf16 (order : Option ByteOrder)
  /-- UTF-32 in a byte order, or, with none, little-endian behind a mark -/
  | utf32 (order : Option ByteOrder)
deriving DecidableEq, Repr

/-- What an encoding does with what it cannot take. -/
inductive ErrorMode where
  | strict
  | ignore
  | replace
  | backslashReplace
  | xmlCharRefReplace
  | surrogateEscape
  | surrogatePass
  /-- a mode of any other name, which fails when it is needed -/
  | other (name : String)
deriving DecidableEq, Repr

/-- Why a text could not be written or bytes read: the positions from `start` to before
`stop` that the encoding cannot take, with the reason; an error mode of a name no mode has;
or a mode that only writes, asked to read. -/
inductive CodecFault where
  | run (start stop : Nat) (reason : String)
  | unknownMode (name : String)
  | writingMode (name : String)
deriving DecidableEq, Repr

/-- An error mode by its name. -/
def ErrorMode.ofName : String → ErrorMode
  | "strict" => .strict
  | "ignore" => .ignore
  | "replace" => .replace
  | "backslashreplace" => .backslashReplace
  | "xmlcharrefreplace" => .xmlCharRefReplace
  | "surrogateescape" => .surrogateEscape
  | "surrogatepass" => .surrogatePass
  | name => .other name

/-- An encoding's name as it is looked up: ASCII letters and digits (letters in lower case)
and dots kept, and each run of other characters between kept ones made one underscore. -/
def encodingKey (s : String) : String :=
  let step (acc : List Char × Bool) (c : Char) : List Char × Bool :=
    if (c.isAlphanum && c.toNat < 128) || c == '.' then
      ((if acc.2 && !acc.1.isEmpty then '_' :: acc.1 else acc.1) |>.cons c.toLower, false)
    else (acc.1, true)
  String.ofList (s.toList.foldl step ([], false)).1.reverse

/-- The encodings by the names they are known by besides their own. -/
def encodingAliases : List (String × Encoding) :=
  [("u8", .utf8), ("utf", .utf8), ("utf8", .utf8), ("utf8_ucs2", .utf8), ("utf8_ucs4", .utf8),
    ("cp65001", .utf8),
    ("646", .ascii), ("ansi_x3.4_1968", .ascii), ("ansi_x3_4_1968", .ascii),
    ("ansi_x3.4_1986", .ascii), ("cp367", .ascii), ("csascii", .ascii), ("ibm367", .ascii),
    ("iso646_us", .ascii), ("iso_646.irv_1991", .ascii), ("iso_ir_6", .ascii), ("us", .ascii),
    ("us_ascii", .ascii),
    ("8859", .latin1), ("cp819", .latin1), ("csisolatin1", .latin1), ("ibm819", .latin1),
    ("iso8859", .latin1), ("iso8859_1", .latin1), ("iso_8859_1", .latin1),
    ("iso_8859_1_1987", .latin1), ("iso_ir_100", .latin1), ("l1", .latin1), ("latin", .latin1),
    ("latin1", .latin1),
    ("u16", .utf16 none), ("utf16", .utf16 none),
    ("unicodebigunmarked", .utf16 (some .big)), ("utf_16be", .utf16 (some .big)),
    ("unicodelittleunmarked", .utf16 (some .little)), ("utf_16le", .utf16 (some .little)),
    ("u32", .utf32 none), ("utf32", .utf32 none),
    ("utf_32be", .utf32 (some .big)), ("utf_32le", .utf32 (some .little))]

/-- The encodings by their own names. -/
def encodingNames : List (String × Encoding) :=
  [("utf_8", .utf8), ("utf_8_sig", .utf8Marked), ("ascii", .ascii), ("latin_1", .latin1),
    ("utf_16", .utf16 none), ("utf_16_le", .utf16 (some .little)),
    ("utf_16_be", .utf16 (some .big)), ("utf_32", .utf32 none),
    ("utf_32_le", .utf32 (some .little)), ("utf_32_be", .utf32 (some .big))]

namespace Encoding

/-- The encoding a name names: an alias of its key, or of its key with dots made
underscores, or the key as an encoding's own name. -/
def ofName? (s : String) : Option Encoding :=
  let k := encodingKey s
  match encodingAliases.lookup k with
  | some e => some e
  | none => match encodingAliases.lookup (k.replace "." "_") with
    | some e => some e
    | none => encodingNames.lookup k

/-- The name failures to write give the encoding. -/
def name : Encoding → String
  | utf8 | utf8Marked => "utf-8"
  | ascii => "ascii"
  | latin1 => "latin-1"
  | utf16 none => "utf-16"
  | utf16 (some .little) => "utf-16-le"
  | utf16 (some .big) => "utf-16-be"
  | utf32 none => "utf-32"
  | utf32 (some .little) => "utf-32-le"
  | utf32 (some .big) => "utf-32-be"

end Encoding

/-- The digits of a number in lowercase hexadecimal, at least `width` of them. -/
def hexPadded (width n : Nat) : List Char :=
  let digits := (Nat.toDigits 16 n)
  List.replicate (width - digits.length) '0' ++ digits

/-- The escape `backslashreplace` writes for a code point: `\x`, `\u` or `\U` and two, four
or eight hexadecimal digits. -/
def backslashEscape (n : Nat) : List Char :=
  if n < 0x100 then '\\' :: 'x' :: hexPadded 2 n
  else if n < 0x10000 then '\\' :: 'u' :: hexPadded 4 n
  else '\\' :: 'U' :: hexPadded 8 n

/-- The character reference `xmlcharrefreplace` writes for a code point. -/
def xmlReference (n : Nat) : List Char := '&' :: '#' :: (toString n).toList ++ [';']

/-- A code point's bytes in UTF-8, a lone surrogate written as any other code point. -/
def utf8Bytes (n : Nat) : List UInt8 :=
  if n < 0x80 then [n.toUInt8]
  else if n < 0x800 then [(0xC0 + n / 64).toUInt8, (0x80 + n % 64).toUInt8]
  else if n < 0x10000 then
    [(0xE0 + n / 4096).toUInt8, (0x80 + n / 64 % 64).toUInt8, (0x80 + n % 64).toUInt8]
  else
    [(0xF0 + n / 262144).toUInt8, (0x80 + n / 4096 % 64).toUInt8,
      (0x80 + n / 64 % 64).toUInt8, (0x80 + n % 64).toUInt8]

/-- A code unit's bytes, `width` of them, in a byte order. -/
def unitBytes (order : ByteOrder) (width n : Nat) : List UInt8 :=
  let low := (List.range width).map fun i => (n / 256 ^ i % 256).toUInt8
  match order with
  | .little => low
  | .big => low.reverse

/-- A code point's bytes in UTF-16: one unit, or above U+FFFF a pair of surrogates. -/
def utf16Bytes (order : ByteOrder) (n : Nat) : List UInt8 :=
  if n < 0x10000 then unitBytes order 2 n
  else
    let m := n - 0x10000
    unitBytes order 2 (0xD800 + m / 1024) ++ unitBytes order 2 (0xDC00 + m % 1024)

namespace Encoding

/-- The bytes of a code point as an encoding writes it. -/
def pointBytes : Encoding → Nat → List UInt8
  | utf8, n | utf8Marked, n => utf8Bytes n
  | ascii, n | latin1, n => [n.toUInt8]
  | utf16 o, n => utf16Bytes (o.getD .little) n
  | utf32 o, n => unitBytes (o.getD .little) 4 n

/-- The mark an encoding writes before a text. -/
def mark : Encoding → List UInt8
  | utf8Marked => [0xEF, 0xBB, 0xBF]
  | utf16 none => [0xFF, 0xFE]
  | utf32 none => [0xFF, 0xFE, 0, 0]
  | _ => []

/-- Whether an encoding writes a code point as it is. -/
def writes : Encoding → Nat → Bool
  | ascii, n => n < 128
  | latin1, n => n < 256
  | _, n => !isSurrogate n

/-- Why an encoding cannot write a code point it does not write. -/
def writeReason : Encoding → String
  | ascii => "ordinal not in range(128)"
  | latin1 => "ordinal not in range(256)"
  | _ => "surrogates not allowed"

/-- Whether an encoding hands a whole run of characters it cannot write to the error mode,
rather than one at a time. -/
def takesRuns : Encoding → Bool
  | utf16 _ | utf32 _ => false
  | _ => true

/-- What an error mode writes for a run of code points, from position `start`, that an
encoding cannot write. -/
def writeRun (enc : Encoding) (mode : ErrorMode) (start : Nat) (run : List Nat) :
    Except CodecFault (List UInt8) :=
  let fault := CodecFault.run start (start + run.length) enc.writeReason
  let spelled (cs : List Char) : List UInt8 := cs.flatMap fun c => enc.pointBytes c.toNat
  match mode with
  | .strict => .error fault
  | .ignore => .ok []
  | .replace => .ok (run.flatMap fun _ => enc.pointBytes '?'.toNat)
  | .backslashReplace => .ok (run.flatMap fun n => spelled (backslashEscape n))
  | .xmlCharRefReplace => .ok (run.flatMap fun n => spelled (xmlReference n))
  | .surrogateEscape => match enc with
    | utf16 _ | utf32 _ => .error fault
    | _ =>
      let carried := run.takeWhile fun n => 0xDC80 ≤ n && n ≤ 0xDCFF
      if carried.length == run.length then .ok (run.map fun n => (n - 0xDC00).toUInt8)
      else .error (.run (start + carried.length) (start + run.length) enc.writeReason)
  | .surrogatePass => match enc with
    | ascii | latin1 => .error fault
    | _ => .ok (run.flatMap enc.pointBytes)
  | .other name => .error (.unknownMode name)

/-- The bytes of code points from a position on, with `fuel` at least one more than their
count. -/
def writePoints (enc : Encoding) (mode : ErrorMode) : Nat → Nat → List Nat →
    Except CodecFault (List UInt8)
  | 0, _, _ => .ok []
  | _ + 1, _, [] => .ok []
  | fuel + 1, pos, n :: ns =>
    if enc.writes n then do
      let rest ← enc.writePoints mode fuel (pos + 1) ns
      pure (enc.pointBytes n ++ rest)
    else do
      let run := if enc.takesRuns then n :: ns.takeWhile (fun m => !enc.writes m) else [n]
      let out ← enc.writeRun mode pos run
      let rest ← enc.writePoints mode fuel (pos + run.length) ((n :: ns).drop run.length)
      pure (out ++ rest)

/-- A text's bytes in an encoding: its mark, then its code points. -/
def encode (enc : Encoding) (mode : ErrorMode) (s : String) : Except CodecFault (List UInt8) := do
  let points := s.toList.map codePoint
  let body ← enc.writePoints mode (points.length + 1) 0 points
  pure (enc.mark ++ body)

end Encoding

/-- What reading finds at a position: a code point and the position after its bytes, or
bytes it cannot read up to a position, with the reason. -/
inductive Reading where
  | point (n : Nat) (next : Nat)
  | bad (stop : Nat) (reason : String)

/-- The byte at a position, as a number; zero past the end. -/
def byteAt (bs : Array UInt8) (i : Nat) : Nat := (bs.getD i 0).toNat

/-- Whether the byte at a position lies in a range. -/
def byteIn (bs : Array UInt8) (i lo hi : Nat) : Bool := lo ≤ byteAt bs i && byteAt bs i ≤ hi

/-- A code unit of `width` bytes at a position, in a byte order. -/
def unitAt (order : ByteOrder) (width : Nat) (bs : Array UInt8) (i : Nat) : Nat :=
  (List.range width).foldl (fun acc k =>
    let b := match order with
      | .little => byteAt bs (i + width - 1 - k)
      | .big => byteAt bs (i + k)
    acc * 256 + b) 0

/-- Read UTF-8 at a position before the end. -/
def readUtf8 (bs : Array UInt8) (i : Nat) : Reading :=
  let n := bs.size
  let b0 := byteAt bs i
  let ended := Reading.bad n "unexpected end of data"
  let broken (k : Nat) := Reading.bad (i + k) "invalid continuation byte"
  let low (k : Nat) := byteAt bs (i + k) - 0x80
  if b0 < 0x80 then .point b0 (i + 1)
  else if 0xC2 ≤ b0 && b0 ≤ 0xDF then
    if i + 1 ≥ n then ended
    else if !byteIn bs (i + 1) 0x80 0xBF then broken 1
    else .point ((b0 - 0xC0) * 64 + low 1) (i + 2)
  else if 0xE0 ≤ b0 && b0 ≤ 0xEF then
    let (lo, hi) := if b0 == 0xE0 then (0xA0, 0xBF) else if b0 == 0xED then (0x80, 0x9F)
      else (0x80, 0xBF)
    if i + 1 ≥ n then ended
    else if !byteIn bs (i + 1) lo hi then broken 1
    else if i + 2 ≥ n then ended
    else if !byteIn bs (i + 2) 0x80 0xBF then broken 2
    else .point ((b0 - 0xE0) * 4096 + low 1 * 64 + low 2) (i + 3)
  else if 0xF0 ≤ b0 && b0 ≤ 0xF4 then
    let (lo, hi) := if b0 == 0xF0 then (0x90, 0xBF) else if b0 == 0xF4 then (0x80, 0x8F)
      else (0x80, 0xBF)
    if i + 1 ≥ n then ended
    else if !byteIn bs (i + 1) lo hi then broken 1
    else if i + 2 ≥ n then ended
    else if !byteIn bs (i + 2) 0x80 0xBF then broken 2
    else if i + 3 ≥ n then ended
    else if !byteIn bs (i + 3) 0x80 0xBF then broken 3
    else .point ((b0 - 0xF0) * 262144 + low 1 * 4096 + low 2 * 64 + low 3) (i + 4)
  else .bad (i + 1) "invalid start byte"

/-- Read UTF-16 in a byte order at a position before the end. -/
def readUtf16 (order : ByteOrder) (bs : Array UInt8) (i : Nat) : Reading :=
  let n := bs.size
  if i + 2 > n then .bad n "truncated data"
  else
    let u := unitAt order 2 bs i
    if !isSurrogate u then .point u (i + 2)
    else if u ≥ 0xDC00 then .bad (i + 2) "illegal encoding"
    else if i + 4 > n then .bad n "unexpected end of data"
    else
      let v := unitAt order 2 bs (i + 2)
      if 0xDC00 ≤ v && v ≤ 0xDFFF then .point (0x10000 + (u - 0xD800) * 1024 + (v - 0xDC00)) (i + 4)
      else .bad (i + 2) "illegal UTF-16 surrogate"

/-- Read UTF-32 in a byte order at a position before the end. -/
def readUtf32 (order : ByteOrder) (bs : Array UInt8) (i : Nat) : Reading :=
  let n := bs.size
  if i + 4 > n then .bad n "truncated data"
  else
    let u := unitAt order 4 bs i
    if u ≥ 0x110000 then .bad (i + 4) "code point not in range(0x110000)"
    else if isSurrogate u then
      .bad (i + 4) "code point in surrogate code point range(0xd800, 0xe000)"
    else .point u (i + 4)

namespace Encoding

/-- The byte order a UTF-16 or UTF-32 encoding reads bytes in, and where their text starts:
a fixed order from the start, or the order a mark gives, after it, and little-endian with
no mark. -/
def readOrder (enc : Encoding) (bs : Array UInt8) : ByteOrder × Nat :=
  let starts (m : List Nat) := m.length ≤ bs.size &&
    (m.zipIdx.all fun (b, k) => byteAt bs k == b)
  match enc with
  | utf16 (some o) | utf32 (some o) => (o, 0)
  | utf16 none =>
    if starts [0xFF, 0xFE] then (.little, 2) else if starts [0xFE, 0xFF] then (.big, 2)
    else (.little, 0)
  | utf32 none =>
    if starts [0xFF, 0xFE, 0, 0] then (.little, 4) else if starts [0, 0, 0xFE, 0xFF] then (.big, 4)
    else (.little, 0)
  | utf8Marked => (.little, if starts [0xEF, 0xBB, 0xBF] then 3 else 0)
  | _ => (.little, 0)

/-- The name failures to read give an encoding: a UTF-16 or UTF-32 encoding with no fixed
order is named by the order it reads in. -/
def readName (enc : Encoding) (bs : Array UInt8) : String :=
  match enc, (enc.readOrder bs).1 with
  | utf16 none, .little => "utf-16-le"
  | utf16 none, .big => "utf-16-be"
  | utf32 none, .little => "utf-32-le"
  | utf32 none, .big => "utf-32-be"
  | e, _ => e.name

/-- Read a code point at a position before the end, in a byte order. -/
def readAt (enc : Encoding) (order : ByteOrder) (bs : Array UInt8) (i : Nat) : Reading :=
  match enc with
  | utf8 | utf8Marked => readUtf8 bs i
  | ascii =>
    if byteAt bs i < 128 then .point (byteAt bs i) (i + 1)
    else .bad (i + 1) "ordinal not in range(128)"
  | latin1 => .point (byteAt bs i) (i + 1)
  | utf16 _ => readUtf16 order bs i
  | utf32 _ => readUtf32 order bs i

/-- The lone surrogate `surrogatepass` reads at a position, encoded as a UTF encodes code
points, and the position after it. -/
def passedSurrogate? (enc : Encoding) (order : ByteOrder) (bs : Array UInt8) (i : Nat) :
    Option (Nat × Nat) :=
  match enc with
  | utf8 | utf8Marked =>
    if i + 3 ≤ bs.size && byteAt bs i == 0xED && byteIn bs (i + 1) 0xA0 0xBF &&
        byteIn bs (i + 2) 0x80 0xBF then
      some (0xD000 + (byteAt bs (i + 1) - 0x80) * 64 + (byteAt bs (i + 2) - 0x80), i + 3)
    else none
  | utf16 _ =>
    if i + 2 ≤ bs.size && isSurrogate (unitAt order 2 bs i) then some (unitAt order 2 bs i, i + 2)
    else none
  | utf32 _ =>
    if i + 4 ≤ bs.size && isSurrogate (unitAt order 4 bs i) then some (unitAt order 4 bs i, i + 4)
    else none
  | _ => none

/-- What an error mode reads for bytes from `start` to before `stop` that an encoding cannot
read, and the position reading goes on from. -/
def readRun (enc : Encoding) (mode : ErrorMode) (order : ByteOrder) (bs : Array UInt8)
    (start stop : Nat) (reason : String) : Except CodecFault (List Nat × Nat) :=
  let fault := CodecFault.run start stop reason
  let bytes := (List.range (stop - start)).map fun k => byteAt bs (start + k)
  match mode with
  | .strict => .error fault
  | .ignore => .ok ([], stop)
  | .replace => .ok ([0xFFFD], stop)
  | .backslashReplace => .ok (bytes.flatMap fun b => (backslashEscape b).map Char.toNat, stop)
  | .surrogateEscape =>
    if bytes.all (· ≥ 128) then .ok (bytes.map (0xDC00 + ·), stop) else .error fault
  | .surrogatePass => match enc.passedSurrogate? order bs start with
    | some (n, next) => .ok ([n], next)
    | none => .error fault
  | .xmlCharRefReplace => .error (.writingMode "xmlcharrefreplace")
  | .other name => .error (.unknownMode name)

/-- The code points of bytes from a position on, in a byte order, with `fuel` at least one
more than the bytes left. -/
def readPoints (enc : Encoding) (mode : ErrorMode) (order : ByteOrder) (bs : Array UInt8) :
    Nat → Nat → Except CodecFault (List Nat)
  | 0, _ => .ok []
  | fuel + 1, i =>
    if i ≥ bs.size then .ok []
    else match enc.readAt order bs i with
      | .point n next => do
        let rest ← enc.readPoints mode order bs fuel (max next (i + 1))
        pure (n :: rest)
      | .bad stop reason => do
        let (out, next) ← enc.readRun mode order bs i stop reason
        let rest ← enc.readPoints mode order bs fuel (max next (i + 1))
        pure (out ++ rest)

/-- The text bytes hold in an encoding, read after the mark that starts them, if any. -/
def decode (enc : Encoding) (mode : ErrorMode) (bytes : List UInt8) :
    Except CodecFault String := do
  let bs := bytes.toArray
  let (order, start) := enc.readOrder bs
  -- UTF-8 behind a mark counts positions from after the mark
  let (bs, start) := if enc == utf8Marked then (bs.extract start bs.size, 0) else (bs, start)
  let points ← enc.readPoints mode order bs (bs.size + 1) start
  pure (String.ofList (points.map charOfCode))

end Encoding

/-- The text of a failure to write a text: the character, or the positions of the
characters, the encoding could not write, and why. -/
def encodeFaultText (encoding : String) (text : String) (start stop : Nat) (reason : String) :
    String :=
  if stop == start + 1 && start < text.length then
    let n := codePoint (text.toList.getD start ' ')
    "'" ++ encoding ++ "' codec can't encode character '" ++ String.ofList (backslashEscape n) ++
      "' in position " ++ toString start ++ ": " ++ reason
  else
    "'" ++ encoding ++ "' codec can't encode characters in position " ++ toString start ++
      "-" ++ toString (stop - 1) ++ ": " ++ reason

/-- The text of a failure to read bytes: the byte, or the positions of the bytes, the
encoding could not read, and why. -/
def decodeFaultText (encoding : String) (bytes : List UInt8) (start stop : Nat)
    (reason : String) : String :=
  if stop == start + 1 && start < bytes.length then
    "'" ++ encoding ++ "' codec can't decode byte 0x" ++
      String.ofList (hexPadded 2 (bytes.getD start 0).toNat) ++ " in position " ++
      toString start ++ ": " ++ reason
  else
    "'" ++ encoding ++ "' codec can't decode bytes in position " ++ toString start ++ "-" ++
      toString (stop - 1) ++ ": " ++ reason

/-- Bytes as the runtime writes them: `b` and a quote, `'` unless the bytes hold a `'` and no
`"`; the quote and backslash escaped, tab, newline and carriage return by their letters, and
other bytes outside printable ASCII as `\x` and two hexadecimal digits. -/
def bytesRepr (bs : List UInt8) : String :=
  let quote : Nat := if bs.contains 39 && !bs.contains 34 then 34 else 39
  let shown (b : UInt8) : List Char :=
    let n := b.toNat
    if n == quote || n == 92 then ['\\', Char.ofNat n]
    else if n == 9 then ['\\', 't']
    else if n == 10 then ['\\', 'n']
    else if n == 13 then ['\\', 'r']
    else if n < 32 || n ≥ 127 then '\\' :: 'x' :: hexPadded 2 n
    else [Char.ofNat n]
  "b" ++ String.singleton (Char.ofNat quote) ++ String.ofList (bs.flatMap shown) ++
    String.singleton (Char.ofNat quote)

/-- Bytes as hexadecimal digits, with a separator between groups of `group` bytes counted
from the end, or from the start when `group` is negative. -/
def bytesHex (bs : List UInt8) (sep : Option Char) (group : Int) : String :=
  let pairs := bs.map fun b => hexPadded 2 b.toNat
  match sep with
  | none => String.ofList pairs.flatten
  | some s =>
    let k := group.natAbs
    if k == 0 then String.ofList pairs.flatten
    else
      let n := pairs.length
      let cut (i : Nat) : Bool :=
        i > 0 && (if group > 0 then (n - i) % k == 0 else i % k == 0)
      String.ofList (pairs.zipIdx.flatMap fun (p, i) => if cut i then s :: p else p)

/-- The bytes hexadecimal digits in pairs spell, ASCII blanks allowed before each pair, or
the position of the first character that does not fit. -/
def readHexBytes (cs : List Char) : Except Nat (List UInt8) :=
  let rec go : Nat → List Char → Except Nat (List UInt8)
    | _, [] => .ok []
    | pos, c :: rest =>
      if isAsciiBlank c then go (pos + 1) rest
      else match hexDigit? c, rest with
        | some hi, d :: more => match hexDigit? d with
          | some lo => do
            let tail ← go (pos + 2) more
            pure ((hi * 16 + lo).toUInt8 :: tail)
          | none => .error (pos + 1)
        | some _, [] => .error (pos + 1)
        | none, _ => .error pos
  go 0 cs

end Storefront.Text
