/-!
# Shortest decimal of a binary64 value

A finite binary64 magnitude is `m * 2^q`. The reals that round to it (to nearest, ties to
the even mantissa) form an interval; `Binary.readsBack` tests a decimal against it by exact
cross-multiplication. `Binary.shortest` searches the decimal grids `10^(k-n)` for
`n = 1, 2, …` digits, `k` being the least power of ten above the value: on each grid only the
value's two neighbours can lie in the interval, the first grid with a hit wins, of two hits
the nearer one, and an exact tie goes to the even digit string.
-/

-- powers of naturals and integers are the core ones, whatever else is in scope
attribute [local instance (1100)] instPowNat

namespace Storefront.Decimal

/-- A finite non-negative binary64 magnitude `m * 2^q`. `narrow` marks a power of two whose
neighbour below is half as far as the one above. -/
structure Binary where
  m : Nat
  q : Int
  narrow : Bool
deriving Repr, DecidableEq

/-- A decimal `digits * 10^exp`. -/
structure Dec where
  digits : Nat
  exp : Int
deriving Repr, DecidableEq

/-- The magnitude held by a bit pattern; the sign bit is ignored and the all-ones exponent
(infinities and NaN) is not a finite value, so callers test for it first. -/
def Binary.ofBits (b : UInt64) : Binary :=
  let e := ((b >>> 52) &&& 0x7FF).toNat
  let f := (b &&& 0xFFFFFFFFFFFFF).toNat
  if e == 0 then ⟨f, -1074, false⟩ else ⟨2 ^ (52 : Nat) + f, (e : Int) - 1075, f == 0 && e > 1⟩

/-- `a * 10^i` compared with `n * 2^j`, exactly. -/
def cmpScaled (a : Nat) (i : Int) (n : Nat) (j : Int) : Ordering :=
  compare (a * 10 ^ i.toNat * 2 ^ (-j).toNat) (n * 2 ^ j.toNat * 10 ^ (-i).toNat)

/-- The decimal lies among the reals that round to `x`: strictly between the halfway points
to the two neighbours, or on one of them when the mantissa is even. -/
def Binary.readsBack (x : Binary) (d : Dec) : Bool :=
  let lo := if x.narrow then 4 * x.m - 1 else 4 * x.m - 2
  let hi := 4 * x.m + 2
  let incl := x.m % 2 == 0
  let cl := cmpScaled d.digits d.exp lo (x.q - 2)
  let ch := cmpScaled d.digits d.exp hi (x.q - 2)
  (cl == .gt || (incl && cl == .eq)) && (ch == .lt || (incl && ch == .eq))

/-- The value lies below `10^k`. -/
def Binary.below (x : Binary) (k : Int) : Bool :=
  cmpScaled 1 k x.m x.q == .gt

/-- Raise an estimate of the scale until the value lies below `10^k`. -/
def Binary.raiseScale (x : Binary) : Nat → Int → Int
  | 0, k => k
  | fuel + 1, k => if x.below k then k else x.raiseScale fuel (k + 1)

/-- Lower a scale while the value still lies below the power of ten one step down. -/
def Binary.lowerScale (x : Binary) : Nat → Int → Int
  | 0, k => k
  | fuel + 1, k => if x.below (k - 1) then x.lowerScale fuel (k - 1) else k

/-- The least `k` with `m * 2^q < 10^k`, for a non-zero value: an estimate from the binary
length, corrected by exact comparisons. -/
def Binary.scale (x : Binary) : Int :=
  let est : Int := ((Nat.log2 x.m : Int) + x.q) * 30103 / 100000
  x.lowerScale 8 (x.raiseScale 8 est)

/-- The greatest `d` with `d * 10^g` not above the value. -/
def Binary.floorAt (x : Binary) (g : Int) : Nat :=
  (x.m * 2 ^ x.q.toNat * 10 ^ (-g).toNat) / (2 ^ (-x.q).toNat * 10 ^ g.toNat)

/-- Of the value's two neighbours on the grid `10^g`, the one that reads back; of two, the
nearer, and on an exact tie the one with the even last digit. -/
def Binary.hitAt (x : Binary) (g : Int) : Option Dec :=
  let lo := x.floorAt g
  let a : Dec := ⟨lo, g⟩
  let b : Dec := ⟨lo + 1, g⟩
  match x.readsBack a, x.readsBack b with
  | true, true =>
    match cmpScaled (2 * lo + 1) g x.m (x.q + 1) with
    | .gt => some a
    | .lt => some b
    | .eq => if lo % 2 == 0 then some a else some b
  | true, false => some a
  | false, true => some b
  | false, false => none

/-- Trailing zeros of the digits move into the exponent. -/
def Dec.trim (d : Nat) (e : Int) : Dec :=
  if h : d ≠ 0 ∧ d % 10 = 0 then Dec.trim (d / 10) (e + 1) else ⟨d, e⟩
termination_by d
decreasing_by exact Nat.div_lt_self (Nat.pos_of_ne_zero h.1) (by decide)

/-- The exact decimal value of `m * 2^q`. -/
def Binary.exact (x : Binary) : Dec :=
  if x.q ≥ 0 then ⟨x.m * 2 ^ x.q.toNat, 0⟩ else ⟨x.m * 5 ^ (-x.q).toNat, x.q⟩

/-- The decimal with the fewest digits that reads back as `x`, nearest of those. -/
def Binary.shortest (x : Binary) : Dec :=
  if x.m = 0 then ⟨0, 0⟩ else
  let k := x.scale
  let found := (List.range 17).findSome? fun n => x.hitAt (k - (n + 1 : Nat))
  match found with
  | some d => Dec.trim d.digits d.exp
  | none => let d := x.exact; Dec.trim d.digits d.exp

theorem trim_digits_pos (d : Nat) (e : Int) (h : d ≠ 0) : (Dec.trim d e).digits ≠ 0 := by
  induction d using Nat.strongRecOn generalizing e with
  | ind d ih =>
    rw [Dec.trim]
    split
    · next hz =>
      have hlt : d / 10 < d := Nat.div_lt_self (Nat.pos_of_ne_zero h) (by decide)
      have hpos : d / 10 ≠ 0 := by omega
      exact ih _ hlt _ hpos
    · exact h

end Storefront.Decimal
