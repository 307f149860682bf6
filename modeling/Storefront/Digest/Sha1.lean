/-!
# SHA-1

The SHA-1 digest of a byte string: the message is padded to a whole number of 64-byte
blocks (a one bit, zeros, and the bit length in 64 bits), each block is expanded to eighty
words and mixed into five words of state, and the final state is the twenty-byte digest.
-/

-- powers of naturals and integers are the core ones, whatever else is in scope
attribute [local instance (1100)] instPowNat

namespace Storefront.Digest

/-- Rotate a word left. -/
def rotl (x : UInt32) (n : UInt32) : UInt32 := (x <<< n) ||| (x >>> (32 - n))

/-- The message followed by its padding: `0x80`, zeros up to 56 bytes modulo 64, then the
length in bits as eight bytes, most significant first. -/
def pad (msg : List UInt8) : List UInt8 :=
  let len := msg.length
  let zeros := (119 - len % 64) % 64
  let bits := len * 8
  msg ++ [0x80] ++ List.replicate zeros 0 ++
    ((List.range 8).reverse.map fun i => (bits / 2 ^ (8 * i) % 256).toUInt8)

/-- A big-endian word of four bytes. -/
def word (a b c d : UInt8) : UInt32 :=
  (a.toUInt32 <<< 24) ||| (b.toUInt32 <<< 16) ||| (c.toUInt32 <<< 8) ||| d.toUInt32

/-- Bytes as big-endian words, four at a time. -/
def words : List UInt8 → List UInt32
  | a :: b :: c :: d :: rest => word a b c d :: words rest
  | _ => []

/-- Split into blocks of sixteen words. -/
def blocks (ws : List UInt32) : List (List UInt32) :=
  if h : ws.length ≤ 16 then (if ws.isEmpty then [] else [ws])
  else ws.take 16 :: blocks (ws.drop 16)
termination_by ws.length
decreasing_by simp; omega

/-- The message schedule: sixteen words extended by `n` more. -/
def expand (w : Array UInt32) : Nat → Array UInt32
  | 0 => w
  | n + 1 =>
    let t := w.size
    let x := w.getD (t - 3) 0 ^^^ w.getD (t - 8) 0 ^^^ w.getD (t - 14) 0 ^^^ w.getD (t - 16) 0
    expand (w.push (rotl x 1)) n

/-- The mixing function and constant of a round. -/
def roundMix (t : Nat) (b c d : UInt32) : UInt32 × UInt32 :=
  if t < 20 then ((b &&& c) ||| ((~~~b) &&& d), 0x5A827999)
  else if t < 40 then (b ^^^ c ^^^ d, 0x6ED9EBA1)
  else if t < 60 then ((b &&& c) ||| (b &&& d) ||| (c &&& d), 0x8F1BBCDC)
  else (b ^^^ c ^^^ d, 0xCA62C1D6)

/-- The five working words. -/
structure State where
  a : UInt32
  b : UInt32
  c : UInt32
  d : UInt32
  e : UInt32

/-- The state before any block. -/
def State.initial : State := ⟨0x67452301, 0xEFCDAB89, 0x98BADCFE, 0x10325476, 0xC3D2E1F0⟩

/-- One round with the schedule word of that round. -/
def State.round (w : Array UInt32) (s : State) (t : Nat) : State :=
  let (f, k) := roundMix t s.b s.c s.d
  let temp := rotl s.a 5 + f + s.e + k + w.getD t 0
  ⟨temp, s.a, rotl s.b 30, s.c, s.d⟩

/-- Mix one block into the state. -/
def State.absorb (s : State) (block : List UInt32) : State :=
  let w := expand block.toArray 64
  let r := (List.range 80).foldl (State.round w) s
  ⟨s.a + r.a, s.b + r.b, s.c + r.c, s.d + r.d, s.e + r.e⟩

/-- The bytes of a word, most significant first. -/
def wordBytes (x : UInt32) : List UInt8 :=
  [(x >>> 24).toUInt8, (x >>> 16).toUInt8, (x >>> 8).toUInt8, x.toUInt8]

/-- The twenty-byte SHA-1 digest of a message. -/
def sha1 (msg : List UInt8) : List UInt8 :=
  let s := (blocks (words (pad msg))).foldl State.absorb State.initial
  [s.a, s.b, s.c, s.d, s.e].flatMap wordBytes

end Storefront.Digest
