import Storefront.Decimal.Shortest

/-!
# Laying out a decimal as text

A `Layout` holds the decisions of one number format: which leading-digit exponents are written
positionally, whether an integral value keeps `.0`, the exponent's width and the texts of the
special values. `Layout.float` renders a binary64 value through `Binary.shortest`.
-/

-- powers of naturals and integers are the core ones, whatever else is in scope
attribute [local instance (1100)] instPowNat

namespace Storefront.Decimal

/-- The decisions of a float text format. -/
structure Layout where
  /-- leading-digit exponents `e` with `plainFrom ≤ e < plainBelow` are written positionally -/
  plainFrom : Int
  plainBelow : Int
  /-- an integral positional value is written with `.0` -/
  pointZero : Bool
  /-- a positive exponent is written with `+` -/
  expPlus : Bool
  /-- least number of exponent digits -/
  expWidth : Nat
  nan : String
  inf : String
  /-- a one-digit mantissa in exponent form is written with `.0` -/
  mantPoint : Bool := false
  /-- the most significant digits written; the shortest decimal is rounded to them -/
  precision : Option Nat := none

/-- `n` zeros. -/
def zeros (n : Nat) : String := String.ofList (List.replicate n '0')

/-- Decimal digits of a natural number, left-padded with zeros to `width`. -/
def padded (width n : Nat) : String :=
  let s := toString n
  zeros (width - s.length) ++ s

/-- The text of `d.digits * 10^d.exp` for non-negative digits. -/
def Layout.place (l : Layout) (d : Dec) : String :=
  let ds := toString d.digits
  let len : Int := ds.length
  let lead : Int := len - 1 + d.exp
  let point : Int := lead + 1
  if l.plainFrom ≤ lead ∧ lead < l.plainBelow then
    if point ≤ 0 then "0." ++ zeros (-point).toNat ++ ds
    else if point < len then
      String.ofList (ds.toList.take point.toNat) ++ "." ++ String.ofList (ds.toList.drop point.toNat)
    else ds ++ zeros (point - len).toNat ++ (if l.pointZero then ".0" else "")
  else
    let head := String.ofList (ds.toList.take 1)
    let tail := String.ofList (ds.toList.drop 1)
    let mant := if !tail.isEmpty then head ++ "." ++ tail
      else if l.mantPoint then head ++ ".0" else head
    let sign := if lead < 0 then "-" else if l.expPlus then "+" else ""
    mant ++ "e" ++ sign ++ padded l.expWidth lead.natAbs

/-- A decimal rounded to at most `n` significant digits, a half rounding away from zero. -/
def Dec.round (d : Dec) (n : Nat) : Dec :=
  let len := (toString d.digits).length
  if len ≤ n then d else
    let cut := 10 ^ (len - n)
    let q := d.digits / cut
    let up := if 2 * (d.digits % cut) ≥ cut then q + 1 else q
    Dec.trim up (d.exp + (len - n : Nat))

/-- The text of a binary64 value: special values first, then the sign and the shortest
decimal that reads back, rounded to the layout's precision. -/
def Layout.float (l : Layout) (x : Float) : String :=
  let b := x.toBits
  let neg := b >>> 63 == 1
  let e := (b >>> 52) &&& 0x7FF
  let f := b &&& 0xFFFFFFFFFFFFF
  if e == 0x7FF then
    if f != 0 then l.nan else if neg then "-" ++ l.inf else l.inf
  else
    let d := (Binary.ofBits b).shortest
    (if neg then "-" else "") ++ l.place (match l.precision with
      | some n => d.round n
      | none => d)

end Storefront.Decimal
