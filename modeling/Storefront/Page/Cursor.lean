import Storefront.Failure

/-!
# Page tokens

A page ends at a position: the sort timestamp of its last record, in Unix nanoseconds, and
that record's id. The token of a position is the timestamp in lowercase hexadecimal (with `-`
before a negative one), a comma, and the id. A token reads back when it has exactly one comma
and the part before it is a signed hexadecimal number of 64 bits; any other token is refused.
-/

-- powers of naturals and integers are the core ones, whatever else is in scope
attribute [local instance (1100)] instPowNat

namespace Storefront

/-- The position of the last record delivered in a page. -/
structure Cursor where
  timestamp : Int
  id : String
deriving DecidableEq, Repr

namespace Cursor

/-- The least and greatest timestamps a token may carry: those of 64 signed bits. -/
def least : Int := -(2 ^ (63 : Nat))
def greatest : Int := 2 ^ (63 : Nat) - 1

/-- The hexadecimal text of a timestamp: lowercase digits without leading zeros, `-` before a
negative one. -/
def hexText : Int → String
  | .ofNat n => String.ofList (Nat.toDigits 16 n)
  | .negSucc n => "-" ++ String.ofList (Nat.toDigits 16 (n + 1))

/-- The token of a position. -/
def token (c : Cursor) : String := hexText c.timestamp ++ "," ++ c.id

/-- The value of an ASCII hexadecimal digit, either case. -/
def hexValue? (c : Char) : Option Nat :=
  if '0' ≤ c ∧ c ≤ '9' then some (c.toNat - '0'.toNat)
  else if 'a' ≤ c ∧ c ≤ 'f' then some (c.toNat - 'a'.toNat + 10)
  else if 'A' ≤ c ∧ c ≤ 'F' then some (c.toNat - 'A'.toNat + 10)
  else none

/-- The value of a run of hexadecimal digits, most significant first. -/
def hexDigitsValue? (cs : List Char) : Option Nat :=
  cs.foldlM (fun n c => (hexValue? c).map (n * 16 + ·)) 0

/-- A signed hexadecimal number: an optional sign, then at least one digit. -/
def readHex? (cs : List Char) : Option Int :=
  let (neg, ds) := match cs with
    | '+' :: ds => (false, ds)
    | '-' :: ds => (true, ds)
    | ds => (false, ds)
  if ds.isEmpty then none
  else (hexDigitsValue? ds).map fun n => if neg then -(n : Int) else n

/-- The position a token stands for, if it is well formed. -/
def ofToken? (t : String) : Option Cursor :=
  match t.toList.splitOn ',' with
  | [a, b] => do
    let ts ← readHex? a
    if least ≤ ts ∧ ts ≤ greatest then some ⟨ts, String.ofList b⟩ else none
  | _ => none

/-- The position a token stands for; a malformed token is refused with the token. -/
def ofToken (t : String) : Except Failure Cursor :=
  match ofToken? t with
  | some c => .ok c
  | none => .error (.invalidCursor (.str t))

end Cursor

end Storefront
