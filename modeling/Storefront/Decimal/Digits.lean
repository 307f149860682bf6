import Storefront.Decimal.Shortest

/-!
# Rounded digits of a binary64 value

A finite binary64 magnitude has an exact decimal value. `Binary.significant` rounds it to a
count of significant digits and `Binary.places` to a count of places after the point, both
on the exact value with a tie going to the even neighbour. Either gives a `Digits`: a digit
string without trailing zeros and the position of the decimal point.

`Digits.layout` writes such digits in one of four forms: with an exponent, with fixed
places, the general form that picks one of the two by the exponent, and the shortest form
with its own positional range. The rules follow the C library's `%e`, `%f` and `%g` with
two extra switches: `alt` keeps the point and trailing zeros, and `addDot0` writes an
integral positional value with `.0`.
-/

-- powers of naturals and integers are the core ones, whatever else is in scope
attribute [local instance (1100)] instPowNat

namespace Storefront.Decimal

/-- The quotient `num / den` rounded to the nearest integer, a tie going to the even one. -/
def roundHalfEven (num den : Nat) : Nat :=
  let q := num / den
  let r := num % den
  if 2 * r > den then q + 1 else if 2 * r == den then q + q % 2 else q

theorem roundHalfEven_exact (q den : Nat) (h : 0 < den) : roundHalfEven (q * den) den = q := by
  unfold roundHalfEven
  have h1 : q * den / den = q := Nat.mul_div_cancel q h
  have h2 : q * den % den = 0 := Nat.mul_mod_left q den
  simp [h1, h2]
  omega

/-- Digits of a decimal and where its point stands: the value is `0.d₁d₂… × 10^point`.
Trailing zeros are dropped; zero is the single digit `0` with its point after it, and a
value rounded away to nothing has no digits. -/
structure Digits where
  text : List Char
  point : Int
deriving Repr, DecidableEq

/-- A digit string without its trailing zeros. -/
def dropZeros (s : List Char) : List Char := (s.reverse.dropWhile (· == '0')).reverse

/-- The value rounded to a multiple of `10^g`, counted in those units. -/
def Binary.roundAt (x : Binary) (g : Int) : Nat :=
  roundHalfEven (x.m * 2 ^ x.q.toNat * 10 ^ (-g).toNat) (2 ^ (-x.q).toNat * 10 ^ g.toNat)

/-- The value rounded to `n` significant digits (at least one). A rounding that carries into
a new digit moves the point one place. -/
def Binary.significant (x : Binary) (n : Nat) : Digits :=
  if x.m = 0 then ⟨['0'], 1⟩ else
  let k := x.scale
  let u := x.roundAt (k - n)
  if u ≥ 10 ^ n then ⟨dropZeros (toString (u / 10)).toList, k + 1⟩
  else ⟨dropZeros (toString u).toList, k⟩

/-- The value rounded to `n` places after the point. -/
def Binary.places (x : Binary) (n : Nat) : Digits :=
  if x.m = 0 then ⟨['0'], 1⟩ else
  let u := x.roundAt (-(n : Int))
  if u = 0 then ⟨[], -(n : Int)⟩ else
  let s := (toString u).toList
  ⟨dropZeros s, (s.length : Int) - n⟩

/-- The fewest digits that read back as the value. -/
def Binary.fewest (x : Binary) : Digits :=
  if x.m = 0 then ⟨['0'], 1⟩ else
  let d := x.shortest
  let s := (toString d.digits).toList
  ⟨s, (s.length : Int) + d.exp⟩

/-- The forms a value is written in. -/
inductive Form where
  /-- one digit before the point and an exponent; the count is of all digits written -/
  | exponent (digits : Nat)
  /-- a count of places after the point -/
  | fixed (places : Nat)
  /-- that many significant digits, positional unless the exponent is below -4 or not below
  the count -/
  | general (digits : Nat)
  /-- the fewest digits that read back, positional for exponents from -4 to 15 -/
  | fewest
deriving Repr, DecidableEq

/-- The digits of a finite non-negative value that a form writes. -/
def Binary.digitsFor (x : Binary) : Form → Digits
  | .exponent n => x.significant n
  | .fixed n => x.places n
  | .general n => x.significant (max n 1)
  | .fewest => x.fewest

/-- An exponent with its sign and at least two digits. -/
def exponentText (e : Int) : String :=
  let ds := toString e.natAbs
  (if e < 0 then "-" else "+") ++ (if ds.length < 2 then "0" ++ ds else ds)

/-- `n` zeros. -/
def zeroChars (n : Int) : List Char := List.replicate n.toNat '0'

/-- Digits written in a form. Positional or exponent form is chosen first; the point then
stands after `point` digits, with zeros added on the left down to one digit before the point
and on the right up to the last place the form asks for. A point with nothing after it is
dropped unless `alt`; `addDot0` asks for a `.0` after an integral positional value. -/
def Digits.layout (d : Digits) (form : Form) (alt addDot0 : Bool) : String :=
  let len : Int := d.text.length
  let (useExp, last) : Bool × Int := match form with
    | .exponent n => (true, n)
    | .fixed n => (false, d.point + n)
    | .general n =>
      let n := max n 1
      (d.point ≤ -4 || d.point > (if addDot0 then (n : Int) - 1 else n), if alt then n else len)
    | .fewest => (d.point ≤ -4 || d.point > 16, len)
  let point := if useExp then 1 else d.point
  let last := if !useExp && addDot0 then max last (point + 1) else max last point
  let left : List Char := if point ≤ 0 then '0' :: '.' :: zeroChars (-point) else []
  let middle : List Char :=
    if 0 < point && point ≤ len then
      d.text.take point.toNat ++ '.' :: d.text.drop point.toNat
    else d.text
  let right : List Char :=
    if len < point then zeroChars (point - len) ++ '.' :: zeroChars (last - point)
    else zeroChars (last - len)
  let body := left ++ middle ++ right
  let body := if body.getLast? == some '.' && !alt then body.dropLast else body
  String.ofList body ++ (if useExp then "e" ++ exponentText (d.point - 1) else "")

/-- A binary64 value in a form: its sign apart, the text of its magnitude, and whether the
sign bit is set. Infinities and NaN are `inf` and `nan`, and NaN never has a sign. -/
def formText (x : Float) (form : Form) (alt addDot0 : Bool) : Bool × String :=
  let b := x.toBits
  let neg := b >>> 63 == 1
  let e := (b >>> 52) &&& 0x7FF
  let f := b &&& 0xFFFFFFFFFFFFF
  if e == 0x7FF then
    if f != 0 then (false, "nan") else (neg, "inf")
  else (neg, ((Binary.ofBits b).digitsFor form).layout form alt addDot0)

end Storefront.Decimal
