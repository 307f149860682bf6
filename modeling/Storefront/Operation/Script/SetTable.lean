/-!
# The table of a set

A set keeps its members in an open-addressing table whose size is a power of two, at least
eight. A member sits in a slot with its hash; a removed member leaves a dummy behind, so
that searches for members placed after it still pass; the other slots are empty. The order
of the slots is the order the members come out in, so every step here follows the runtime's
own table exactly, to give the same order.

A search for a hash starts at the slot of its low bits, looks at up to nine slots after
that one while they fit below the end of the table, then jumps: the next start is five times
the last start plus one plus the perturbation, which begins as the whole hash (as an
unsigned word) and loses five bits at each jump. Once the perturbation is spent the starts
run through every slot, so a search always meets an empty slot while the table keeps one.

An insertion ends at the first empty slot; it takes the last dummy met before it when there
was one, and the empty slot otherwise. A table more than three fifths full (dummies count)
grows to the smallest power of two above four times its members (twice, past 50000), and
its members move in slot order to their first empty slot in the new table.

`fill` counts members and dummies, `used` members only; `finger` is where `pop` looks
first.
-/

-- powers of naturals and integers are the core ones, whatever else is in scope
attribute [local instance (1100)] instPowNat

namespace Storefront.Script

/-- A slot of a set's table. -/
inductive Slot (α : Type) where
  | empty
  | dummy
  | entry (hash : Int) (key : α)
deriving Inhabited

/-- The table of a set. -/
structure SetTable (α : Type) where
  slots : Array (Slot α)
  fill : Nat
  used : Nat
  finger : Nat
deriving Inhabited

/-- Where a search stands: the start of its run of slots, how far into the run it is, and
the perturbation left. -/
structure Cursor where
  start : Nat
  offset : Nat
  perturb : Nat

/-- How many slots after its start a run looks at, when they fit. -/
def linearProbes : Nat := 9

/-- A hash as an unsigned 64-bit word. -/
def unsignedHash (h : Int) : Nat := (h % (2 ^ (64 : Nat) : Int)).toNat

namespace Cursor

/-- The slot a search looks at. -/
def pos (c : Cursor) : Nat := c.start + c.offset

/-- The first slot a search for a hash looks at. -/
def first (mask : Nat) (h : Int) : Cursor := ⟨unsignedHash h &&& mask, 0, unsignedHash h⟩

/-- The next slot: further along the run while it fits, else the start of the next run. -/
def next (mask : Nat) (c : Cursor) : Cursor :=
  if c.offset < (if c.start + linearProbes ≤ mask then linearProbes else 0) then
    { c with offset := c.offset + 1 }
  else
    let p := c.perturb >>> 5
    ⟨(c.start * 5 + 1 + p) &&& mask, 0, p⟩

end Cursor

/-- What a search for a key finds: the slot of an equal member, or the first empty slot with
the last dummy met before it. -/
inductive Found where
  | member (i : Nat)
  | vacant (empty : Nat) (dummy : Option Nat)

namespace SetTable

variable {α : Type}

/-- The size of a new table. -/
def minSize : Nat := 8

/-- A table with no members. -/
def empty : SetTable α := ⟨Array.replicate minSize .empty, 0, 0, 0⟩

/-- The last slot's position, a mask of the low bits of hashes. -/
def mask (t : SetTable α) : Nat := t.slots.size - 1

/-- Enough steps for a search to meet every slot: the perturbation is spent after
thirteen jumps, and every run looks at ten slots at most. -/
def searchFuel (mask : Nat) : Nat := (mask + 15) * (linearProbes + 1)

/-- The members with their hashes, in slot order. -/
def entries (t : SetTable α) : List (Int × α) :=
  t.slots.toList.filterMap fun s => match s with
    | .entry h k => some (h, k)
    | _ => none

/-- The members in slot order, the order they come out in. -/
def members (t : SetTable α) : List α := t.entries.map (·.2)

/-- The number of members. -/
def size (t : SetTable α) : Nat := t.used

/-- Search for a key of a hash; `eq` tells whether a member of the same hash is the key. -/
def seek {m : Type → Type} [Monad m] (t : SetTable α) (h : Int) (eq : α → m Bool) : m Found :=
  go (searchFuel t.mask) (Cursor.first t.mask h) none
where
  go : Nat → Cursor → Option Nat → m Found
    | 0, c, d => pure (.vacant c.pos d)
    | fuel + 1, c, d =>
      match t.slots.getD c.pos .empty with
      | .empty => pure (.vacant c.pos d)
      | .dummy => go fuel (c.next t.mask) (some c.pos)
      | .entry h' k => do
        if h' == h then
          if ← eq k then pure (.member c.pos) else go fuel (c.next t.mask) d
        else go fuel (c.next t.mask) d

/-- The first empty slot for a hash in slots that hold no equal key. -/
def cleanSlot (slots : Array (Slot α)) (mask : Nat) (h : Int) : Nat :=
  go (searchFuel mask) (Cursor.first mask h)
where
  go : Nat → Cursor → Nat
    | 0, c => c.pos
    | fuel + 1, c => match slots.getD c.pos .empty with
      | .empty => c.pos
      | _ => go fuel (c.next mask)

/-- Put members in their first empty slots, in order. -/
def placeAll (slots : Array (Slot α)) (es : List (Int × α)) : Array (Slot α) :=
  es.foldl (fun acc (h, k) => acc.set! (cleanSlot acc (acc.size - 1) h) (.entry h k)) slots

/-- The size of a table for a count of members: the smallest power of two above it, from
eight. -/
def sizeFor (n : Nat) : Nat := go 64 minSize
where
  go : Nat → Nat → Nat
    | 0, s => s
    | fuel + 1, s => if s ≤ n then go fuel (s * 2) else s

/-- The table rebuilt with a size for a count: its members in slot order, no dummies. -/
def resize (t : SetTable α) (n : Nat) : SetTable α :=
  { t with slots := placeAll (Array.replicate (sizeFor n) .empty) t.entries, fill := t.used }

/-- The count a full table grows for: four times its members, or twice past 50000. -/
def growth (t : SetTable α) : Nat := if t.used > 50000 then t.used * 2 else t.used * 4

/-- Add a key of a hash unless an equal member is there already. -/
def insert {m : Type → Type} [Monad m] (t : SetTable α) (h : Int) (k : α)
    (eq : α → m Bool) : m (SetTable α) := do
  match ← t.seek h eq with
  | .member _ => pure t
  | .vacant _ (some d) => pure { t with slots := t.slots.set! d (.entry h k), used := t.used + 1 }
  | .vacant e none =>
    let t := { t with slots := t.slots.set! e (.entry h k), fill := t.fill + 1, used := t.used + 1 }
    pure (if t.fill * 5 ≥ t.mask * 3 then t.resize t.growth else t)

/-- Remove the member equal to a key, leaving a dummy; whether there was one. -/
def erase {m : Type → Type} [Monad m] (t : SetTable α) (h : Int) (eq : α → m Bool) :
    m (SetTable α × Bool) := do
  match ← t.seek h eq with
  | .member i => pure ({ t with slots := t.slots.set! i .dummy, used := t.used - 1 }, true)
  | .vacant .. => pure (t, false)

/-- Whether a member is equal to a key. -/
def contains {m : Type → Type} [Monad m] (t : SetTable α) (h : Int) (eq : α → m Bool) :
    m Bool := do
  match ← t.seek h eq with
  | .member _ => pure true
  | .vacant .. => pure false

/-- The first member at a slot from a position on, with its slot. -/
def memberAfter (t : SetTable α) (start : Nat) : Option (Nat × α) :=
  ((List.range (t.slots.size - start)).map (· + start)).findSome? fun i =>
    match t.slots.getD i .empty with
    | .entry _ k => some (i, k)
    | _ => none

/-- The table emptied to its first size; `pop` keeps its place. -/
def clear (t : SetTable α) : SetTable α := { (empty : SetTable α) with finger := t.finger }

/-- The first slot holding a member from a position on, round the end of the table. -/
def memberFrom (t : SetTable α) (start : Nat) : Option Nat :=
  let n := t.slots.size
  ((List.range n).map fun j => (start + j) % n).find? fun i => match t.slots.getD i .empty with
    | .entry .. => true
    | _ => false

/-- Take out the member at the first slot holding one from the finger on, which moves past
it. -/
def pop? (t : SetTable α) : Option (α × SetTable α) :=
  match t.memberFrom (t.finger &&& t.mask) with
  | some i => match t.slots.getD i .empty with
    | .entry _ k =>
      some (k, { t with slots := t.slots.set! i .dummy, used := t.used - 1, finger := i + 1 })
    | _ => none
  | none => none

/-- Add another table's members. Room for both is made first; an empty table of the other's
size and no dummies in the other takes its slots as they are, another empty table takes
its members to their first empty slots, and otherwise each is added in slot order. -/
def merge {m : Type → Type} [Monad m] (t o : SetTable α) (eq : α → α → m Bool) :
    m (SetTable α) :=
  if o.used == 0 then pure t
  else
    let t := if (t.fill + o.used) * 5 ≥ t.mask * 3 then t.resize ((t.used + o.used) * 2) else t
    if t.fill == 0 && t.mask == o.mask && o.fill == o.used then
      pure { t with slots := o.slots, fill := o.fill, used := o.used }
    else if t.fill == 0 then
      pure { t with slots := placeAll t.slots o.entries, fill := o.used, used := o.used }
    else o.entries.foldlM (fun acc (h, k) => acc.insert h k (eq k)) t

/-- The mixing of one hash into the hash of a frozen set. -/
def shuffleBits (h : Int) : UInt64 :=
  let w := UInt64.ofInt h
  ((w ^^^ (89869747 : UInt64)) ^^^ (w <<< (16 : UInt64))) * (3644798167 : UInt64)

/-- The hash of a frozen set: its members' hashes mixed and combined by exclusive or, so
that the order of the slots does not count, then its size and a final dispersal. -/
def frozenHash (t : SetTable α) : Int :=
  let x := t.entries.foldl (fun acc (h, _) => acc ^^^ shuffleBits h) (0 : UInt64)
  let x := x ^^^ (UInt64.ofNat (t.used + 1) * 1927868237)
  let x := x ^^^ ((x >>> 11) ^^^ (x >>> 25))
  let x := x * 69069 + 907133923
  if x == 0xFFFFFFFFFFFFFFFF then 590923713
  else if x.toNat ≥ 2 ^ (63 : Nat) then (x.toNat : Int) - 2 ^ (64 : Nat) else x.toNat

end SetTable

end Storefront.Script
