/-!
# SipHash-1-3

The keyed SipHash function with one compression round per eight-byte word and three
finalization rounds, which the runtime uses to hash strings and bytes. Four 64-bit words of
state start from the key mixed with fixed constants; each little-endian word of the message
is mixed in, then a last word holding the remaining bytes and the length modulo 256 in its
top byte, and the state is folded into one word.
-/

namespace Storefront.Digest

/-- Rotate a 64-bit word left. -/
def rotl64 (x : UInt64) (n : UInt64) : UInt64 := (x <<< n) ||| (x >>> (64 - n))

/-- The four words of state. -/
structure SipState where
  v0 : UInt64
  v1 : UInt64
  v2 : UInt64
  v3 : UInt64

/-- One round of additions, rotations and exclusive ors over the state. -/
def SipState.round (s : SipState) : SipState :=
  let v0 := s.v0 + s.v1
  let v2 := s.v2 + s.v3
  let v1 := rotl64 s.v1 13 ^^^ v0
  let v3 := rotl64 s.v3 16 ^^^ v2
  let v0 := rotl64 v0 32
  let v2 := v2 + v1
  let v0 := v0 + v3
  let v1 := rotl64 v1 17 ^^^ v2
  let v3 := rotl64 v3 21 ^^^ v0
  let v2 := rotl64 v2 32
  ⟨v0, v1, v2, v3⟩

/-- Mix in one word of the message: into the last word before the round, into the first
after it. -/
def SipState.absorb (s : SipState) (m : UInt64) : SipState :=
  let t := { s with v3 := s.v3 ^^^ m }.round
  { t with v0 := t.v0 ^^^ m }

/-- A little-endian word of up to eight bytes. -/
def leWord (bs : List UInt8) : UInt64 :=
  bs.foldr (fun b acc => (acc <<< 8) ||| b.toUInt64) 0

/-- The message's whole words, then the word of its remaining bytes with the length in its
top byte. -/
def sipWords (bs : List UInt8) (len : Nat) : List UInt64 :=
  if h : bs.length < 8 then [leWord bs ||| ((UInt64.ofNat len) <<< 56)]
  else leWord (bs.take 8) :: sipWords (bs.drop 8) len
termination_by bs.length
decreasing_by simp; omega

/-- SipHash-1-3 of a byte string under the key `(k0, k1)`. -/
def sipHash13 (k0 k1 : UInt64) (bs : List UInt8) : UInt64 :=
  let s : SipState := ⟨k0 ^^^ 0x736f6d6570736575, k1 ^^^ 0x646f72616e646f6d,
    k0 ^^^ 0x6c7967656e657261, k1 ^^^ 0x7465646279746573⟩
  let s := (sipWords bs bs.length).foldl SipState.absorb s
  let s := { s with v2 := s.v2 ^^^ 0xff }.round.round.round
  s.v0 ^^^ s.v1 ^^^ (s.v2 ^^^ s.v3)

end Storefront.Digest
