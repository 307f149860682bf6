import Storefront.Text.CharClass

/-!
# Searching and cutting texts

Texts are sequences of characters, and positions count characters. A search runs over a
window of the text given by a start and an end in the way of slice bounds: a negative bound
counts from the end, and bounds are clamped to the text. `find` gives the first position of
a part or none, `count` the number of occurrences that do not overlap (the empty part occurs
at every position), `replace` replaces occurrences from the left.

A text splits at a separator, or at runs of blanks when none is given; the number of cuts
may be limited, from the left or from the right. It also splits into lines at any of the line
breaks, and it loses the characters of a set at its ends by `strip`.
-/

namespace Storefront.Text

/-- A bound of a window over a text of length `n`: negative counts from the end, and the
result is clamped to `0..n`. -/
def clampBound (n : Nat) (b : Int) : Nat :=
  if b < 0 then (b + n).toNat else min b.toNat n

/-- The window of a text that a start and an end select: where it starts and where it
ends. The end may stand before the start. -/
def window (n : Nat) (start stop : Option Int) : Nat × Nat :=
  (clampBound n (start.getD 0), clampBound n (stop.getD n))

/-- Whether a part stands at the front of a text. -/
def startsWith (part cs : List Char) : Bool := part.isPrefixOf cs

/-- The first position of a part in a text, at or after a position. -/
def findFrom (part : List Char) : Nat → List Char → Nat → Option Nat
  | 0, _, _ => none
  | fuel + 1, cs, i =>
    if part.isPrefixOf cs then some i
    else match cs with
      | [] => none
      | _ :: rest => findFrom part fuel rest (i + 1)

/-- The first position of a part inside the window `[a, b)` of a text. -/
def findIn (part cs : List Char) (a b : Nat) : Option Nat :=
  if b < a || b - a < part.length then none
  else
    let w := (cs.take b).drop a
    (findFrom part (w.length + 1) w 0).map (· + a)

/-- The last position of a part inside the window `[a, b)` of a text. -/
def rfindIn (part cs : List Char) (a b : Nat) : Option Nat :=
  if b < a || b - a < part.length then none
  else
    let w := (cs.take b).drop a
    let positions := (List.range (w.length - part.length + 1)).filter fun i =>
      part.isPrefixOf (w.drop i)
    positions.getLast?.map (· + a)

/-- The positions of the occurrences of a non-empty part that do not overlap, from the
left. -/
def occurrences (part : List Char) : Nat → List Char → Nat → List Nat
  | 0, _, _ => []
  | fuel + 1, cs, i =>
    match findFrom part (cs.length + 1) cs 0 with
    | some j => (i + j) :: occurrences part fuel (cs.drop (j + part.length)) (i + j + part.length)
    | none => []

/-- How many times a part occurs in the window `[a, b)` without overlap; the empty part
occurs at every position of the window and after its end. -/
def countIn (part cs : List Char) (a b : Nat) : Nat :=
  if b < a || b - a < part.length then 0
  else if part.isEmpty then b - a + 1
  else
    let w := (cs.take b).drop a
    (occurrences part (w.length + 1) w 0).length

/-- A text with occurrences of a part replaced from the left, at most `limit` of them when a
limit is given. The empty part occurs before every character and at the end. -/
def replaceIn (cs old new : List Char) (limit : Option Nat) : List Char :=
  if old.isEmpty then
    let slots := cs.length + 1
    let n := min slots (limit.getD slots)
    let rec go : Nat → List Char → List Char
      | 0, rest => rest
      | k + 1, [] => new ++ go k []
      | k + 1, c :: rest => new ++ c :: go k rest
    go n cs
  else
    let rec each : Nat → Nat → List Char → List Char
      | 0, _, rest => rest
      | fuel + 1, left, rest =>
        if left == 0 then rest
        else match findFrom old (rest.length + 1) rest 0 with
          | some j => rest.take j ++ new ++ each fuel (left - 1) (rest.drop (j + old.length))
          | none => rest
    each (cs.length + 1) (limit.getD (cs.length + 1)) cs

/-- A text cut at every occurrence of a non-empty separator from the left, at most `limit`
cuts when a limit is given. -/
def splitOn (cs sep : List Char) (limit : Option Nat) : List (List Char) :=
  let rec go : Nat → Nat → List Char → List (List Char)
    | 0, _, rest => [rest]
    | fuel + 1, left, rest =>
      if left == 0 then [rest]
      else match findFrom sep (rest.length + 1) rest 0 with
        | some j => rest.take j :: go fuel (left - 1) (rest.drop (j + sep.length))
        | none => [rest]
  go (cs.length + 1) (limit.getD (cs.length + 1)) cs

/-- A text cut at every occurrence of a non-empty separator from the right, at most `limit`
cuts when a limit is given. -/
def rsplitOn (cs sep : List Char) (limit : Option Nat) : List (List Char) :=
  (splitOn cs.reverse sep.reverse limit).reverse.map List.reverse

/-- A blank as the text tests see it. -/
def isBlankChar (c : Char) : Bool := isWhitespace c

/-- The words of a text between runs of the characters a test calls blank, from the left;
after `limit` cuts the rest, its leading blanks dropped, is the last word. -/
def splitWordsBy (blank : Char → Bool) (cs : List Char) (limit : Option Nat) :
    List (List Char) :=
  let rec go : Nat → Nat → List Char → List (List Char)
    | 0, _, _ => []
    | fuel + 1, left, rest =>
      let rest := rest.dropWhile blank
      if rest.isEmpty then []
      else if left == 0 then [rest]
      else
        let w := rest.takeWhile (!blank ·)
        w :: go fuel (left - 1) (rest.drop w.length)
  go (cs.length + 1) (limit.getD (cs.length + 1)) cs

/-- The words of a text between runs of blanks, from the left. -/
def splitWords (cs : List Char) (limit : Option Nat) : List (List Char) :=
  splitWordsBy isBlankChar cs limit

/-- The words of a text between runs of the characters a test calls blank, from the
right. -/
def rsplitWordsBy (blank : Char → Bool) (cs : List Char) (limit : Option Nat) :
    List (List Char) :=
  (splitWordsBy blank cs.reverse limit).reverse.map List.reverse

/-- The words of a text between runs of blanks, from the right. -/
def rsplitWords (cs : List Char) (limit : Option Nat) : List (List Char) :=
  rsplitWordsBy isBlankChar cs limit

/-- The characters that break lines. -/
def isLineBreak (c : Char) : Bool :=
  c == '\n' || c == '\r' || c == '\x0b' || c == '\x0c' || c == '\x1c' || c == '\x1d' ||
    c == '\x1e' || c == '\x85' || c == '\u2028' || c == '\u2029'

/-- The lines of a text between the characters a test calls line breaks, each with its
break when `keep`; a carriage return followed by a line feed is one break. -/
def splitLinesBy (isBreak : Char → Bool) (cs : List Char) (keep : Bool) : List (List Char) :=
  let rec go : Nat → List Char → List (List Char)
    | 0, _ => []
    | fuel + 1, rest =>
      if rest.isEmpty then []
      else
        let line := rest.takeWhile (!isBreak ·)
        let after := rest.drop line.length
        let (brk, after) := match after with
          | '\r' :: '\n' :: more => (['\r', '\n'], more)
          | c :: more => ([c], more)
          | [] => ([], [])
        (if keep then line ++ brk else line) :: go fuel after
  go (cs.length + 1) cs

/-- The lines of a text, each with its line break when `keep`. -/
def splitLines (cs : List Char) (keep : Bool) : List (List Char) :=
  splitLinesBy isLineBreak cs keep

/-- A text without the characters a test picks at its start, its end or both. -/
def stripBy (p : Char → Bool) (front back : Bool) (cs : List Char) : List Char :=
  let cs := if front then cs.dropWhile p else cs
  if back then (cs.reverse.dropWhile p).reverse else cs

/-- A text cut at the first occurrence of a separator: before, the separator, after; or the
whole text and two empty ones. -/
def partitionAt (cs sep : List Char) : List Char × List Char × List Char :=
  match findFrom sep (cs.length + 1) cs 0 with
  | some j => (cs.take j, sep, cs.drop (j + sep.length))
  | none => (cs, [], [])

/-- A text cut at the last occurrence of a separator; or two empty texts and the whole. -/
def rpartitionAt (cs sep : List Char) : List Char × List Char × List Char :=
  match rfindIn sep cs 0 cs.length with
  | some j => (cs.take j, sep, cs.drop (j + sep.length))
  | none => ([], [], cs)

/-- Whether a part stands at the front of the window `[a, b)` of a text. -/
def startsIn (part cs : List Char) (a b : Nat) : Bool :=
  if b < a + part.length then false else part.isPrefixOf (cs.drop a)

/-- Whether a part stands at the end of the window `[a, b)` of a text. -/
def endsIn (part cs : List Char) (a b : Nat) : Bool :=
  if b < a + part.length then false else part.isPrefixOf (cs.drop (b - part.length))

end Storefront.Text
