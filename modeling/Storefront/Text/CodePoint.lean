/-!
# Code points of texts

The runtime's strings are sequences of code points, lone surrogates (U+D800 to U+DFFF)
included; a `String` holds only Unicode scalar values. A lone surrogate is therefore kept as
the character at the same place among the last 2048 code points (U+10F800 to U+10FFFF),
which no text of this program's inputs uses otherwise, and `codePoint` gives back the code
point the runtime sees.
-/

namespace Storefront.Text

/-- The first of the characters that stand for lone surrogates. -/
def surrogateShelf : Nat := 0x10F800

/-- Whether a code point is a surrogate. -/
def isSurrogate (n : Nat) : Bool := 0xD800 ≤ n && n ≤ 0xDFFF

/-- The character that holds a code point: a surrogate is moved to the shelf. -/
def charOfCode (n : Nat) : Char :=
  if isSurrogate n then Char.ofNat (surrogateShelf + (n - 0xD800))
  else if n < 0x110000 then Char.ofNat n
  else '�'

/-- The code point a character stands for: a character of the shelf is its surrogate. -/
def codePoint (c : Char) : Nat :=
  if surrogateShelf ≤ c.toNat then c.toNat - surrogateShelf + 0xD800 else c.toNat

/-- Whether a character stands for a lone surrogate. -/
def standsForSurrogate (c : Char) : Bool := surrogateShelf ≤ c.toNat

/-- The first run of lone surrogates in a text, which UTF-8 cannot encode: the position of
its first character and the position past its last. -/
def surrogateRun? (s : String) : Option (Nat × Nat) :=
  let cs := s.toList
  match cs.findIdx? standsForSurrogate with
  | some i => some (i, i + ((cs.drop i).takeWhile standsForSurrogate).length)
  | none => none

/-- Characters in order of the code points they stand for, the first that differ deciding. -/
def compareCodes : List Char → List Char → Ordering
  | [], [] => .eq
  | [], _ :: _ => .lt
  | _ :: _, [] => .gt
  | c :: cs, d :: ds => if c == d then compareCodes cs ds else compare (codePoint c) (codePoint d)

/-- Texts in order of their code points. -/
def compareText (a b : String) : Ordering := compareCodes a.toList b.toList

end Storefront.Text
