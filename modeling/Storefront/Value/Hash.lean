import Storefront.Value.Compare
import Storefront.Digest.Sip
import Storefront.Text.CodePoint

/-!
# Hashes of values

The hash the runtime gives a value, which decides where a set keeps it and so the order a
set's members come out in. Hashes are signed 64-bit numbers, and minus one is never one.

A number hashes to its residue modulo the prime `2^61 - 1`, with its sign, where a power of
two in a float's denominator stands for its inverse modulo the prime; so equal numbers of
different classes hash alike, and a boolean or a status hashes as its integer. A string
hashes by SipHash-1-3 under the zero key (the runtime runs with a fixed hash seed of zero)
over its code points, each written in one, two or four little-endian bytes as the widest of
them needs; the empty string hashes to zero. A naive time hashes its ten bytes of year,
month, day, hour, minute, second and microsecond the same way; an aware time hashes as the
tuple of days, seconds and microseconds of its distance in UTC from the start of year 0. A
tuple folds its items' hashes by the xxHash rounds. `None` hashes by its address, of which
only the place within a page is fixed; the low bits it gives decide its place in any set
of up to 256 slots.
-/

-- powers of naturals and integers are the core ones, whatever else is in scope
attribute [local instance (1100)] instPowNat

namespace Storefront

/-- The prime modulus of number hashes. -/
def hashModulus : Nat := 2 ^ (61 : Nat) - 1

/-- A hash of minus one is taken as minus two. -/
def fixHash (h : Int) : Int := if h == -1 then -2 else h

/-- A 64-bit word read as a signed number. -/
def signedWord (w : UInt64) : Int :=
  if w.toNat ≥ 2 ^ (63 : Nat) then (w.toNat : Int) - 2 ^ (64 : Nat) else w.toNat

/-- The hash of an integer: its residue with its sign. -/
def intHash (i : Int) : Int :=
  let r : Int := (i.natAbs % hashModulus : Nat)
  fixHash (if i < 0 then -r else r)

/-- The hash of a float that is not NaN: the residue of its exact value, a power of two in
the denominator standing for its inverse modulo the prime. -/
def floatHash (x : Float) : Option Int :=
  if x.isNaN then none
  else if x.isInf then some (if x > 0.0 then 314159 else -314159)
  else match exactOfFloat? x with
    | some (m, e) =>
      let k := ((e % 61 + 61) % 61).toNat
      let r : Int := (m.natAbs * 2 ^ k % hashModulus : Nat)
      some (fixHash (if m < 0 then -r else r))
    | none => none

/-- The hash of a tuple from its items' hashes, in 64-bit words. -/
def tupleHash (hs : List Int) : Int :=
  let p1 : UInt64 := 11400714785074694791
  let p2 : UInt64 := 14029467366897019727
  let p5 : UInt64 := 2870177450012600261
  let acc := hs.foldl (fun (acc : UInt64) (h : Int) =>
    let lane := UInt64.ofInt h
    let acc := acc + lane * p2
    let acc := (acc <<< 31) ||| (acc >>> 33)
    acc * p1) p5
  let acc := acc + (UInt64.ofNat hs.length ^^^ (p5 ^^^ 3527539))
  if acc == 0xFFFFFFFFFFFFFFFF then 1546275796 else signedWord acc

/-- The little-endian bytes of a number in a width. -/
def leBytes (width n : Nat) : List UInt8 :=
  (List.range width).map fun i => (n / 256 ^ i % 256).toUInt8

/-- The hash of bytes: SipHash-1-3 under the zero key, and zero for no bytes. -/
def bytesHash (bs : List UInt8) : Int :=
  if bs.isEmpty then 0 else fixHash (signedWord (Digest.sipHash13 0 0 bs))

/-- The hash of a string, over its code points in the width the widest of them needs. -/
def textHash (s : String) : Int :=
  let cps := s.toList.map Text.codePoint
  let top := cps.foldl max 0
  let width := if top < 256 then 1 else if top < 65536 then 2 else 4
  bytesHash (cps.flatMap (leBytes width))

/-- The hash of a time: a naive one by its fields' bytes, an aware one as the tuple of days,
seconds and microseconds of its distance in UTC from the start of year 0. -/
def timeHash (t : DateTime) : Int :=
  match t.offset with
  | none =>
    let us := t.microsecond
    bytesHash ([t.year / 256, t.year % 256, t.month, t.day, t.hour, t.minute, t.second,
      us / 65536, us / 256 % 256, us % 256].map Nat.toUInt8)
  | some o =>
    let total := t.wall + microsPerDay - o
    let days := Int.fdiv total microsPerDay
    let rest := total - days * microsPerDay
    tupleHash [intHash days, intHash (rest / 1000000), intHash (rest % 1000000)]

/-- The hash of `None`: its address turned right by four bits, whose low byte is fixed. -/
def noneHash : Int := 0x7f2dee70a4f

/-- The hash of a scalar value; a NaN hashes by its address, which is not known, and
containers have none here. -/
def Value.hash? : Value → Option Int
  | .none => some noneHash
  | .bool b => some (if b then 1 else 0)
  | .int i => some (intHash i)
  | .float x => floatHash x
  | .str s => some (textHash s)
  | .time t => some (timeHash t)
  | .status s => some (intHash s.code)
  | _ => Option.none

end Storefront
