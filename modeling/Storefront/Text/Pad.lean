/-!
# Padding texts

A text is padded to a width with a fill character on the left, on the right or on both
sides; a text already as wide is left as it is. Centring puts the odd character of padding on
the left when the width is odd and on the right when it is even. Zero-filling keeps a leading
sign in front of the zeros. Tabs expand to the next multiple of the tab size, counting columns
from the last line break.
-/

namespace Storefront.Text

/-- A text padded on the right to a width. -/
def leftJustify (cs : List Char) (width : Nat) (fill : Char) : List Char :=
  cs ++ List.replicate (width - cs.length) fill

/-- A text padded on the left to a width. -/
def rightJustify (cs : List Char) (width : Nat) (fill : Char) : List Char :=
  List.replicate (width - cs.length) fill ++ cs

/-- A text padded on both sides to a width. -/
def centre (cs : List Char) (width : Nat) (fill : Char) : List Char :=
  let margin := width - cs.length
  let left := margin / 2 + (if margin % 2 == 1 && width % 2 == 1 then 1 else 0)
  List.replicate left fill ++ cs ++ List.replicate (margin - left) fill

/-- A text padded with zeros on the left to a width, after its sign if it has one. -/
def zeroFill (cs : List Char) (width : Nat) : List Char :=
  let fill := List.replicate (width - cs.length) '0'
  match cs with
  | c :: rest => if c == '+' || c == '-' then c :: fill ++ rest else fill ++ cs
  | [] => fill

/-- A text with its tabs expanded to the next multiple of a tab size; a line break starts
the columns over. -/
def expandTabs (cs : List Char) (size : Int) : List Char :=
  let rec go : List Char → Nat → List Char
    | [], _ => []
    | c :: rest, col =>
      if c == '\t' then
        if size > 0 then
          let n := size.toNat - col % size.toNat
          List.replicate n ' ' ++ go rest (col + n)
        else go rest col
      else if c == '\n' || c == '\r' then c :: go rest 0
      else c :: go rest (col + 1)
  go cs 0

theorem leftJustify_length (cs : List Char) (width : Nat) (fill : Char) :
    (leftJustify cs width fill).length = max width cs.length := by
  simp only [leftJustify, List.length_append, List.length_replicate]
  omega

theorem rightJustify_length (cs : List Char) (width : Nat) (fill : Char) :
    (rightJustify cs width fill).length = max width cs.length := by
  simp only [rightJustify, List.length_append, List.length_replicate]
  omega

end Storefront.Text
