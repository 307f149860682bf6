import Storefront.Operation.Script.Object
import Storefront.Value.Hash

/-!
# Sets of objects

The hash of an object and the operations of sets on their tables. Scalars hash by their
value, tuples and records of frozen classes by their items, frozen sets by their members;
lists, dicts, sets and records of other classes have no hash. A set finds a member by its
hash and then by identity or equality.

A set takes members from another set's table as it is, from a dict's keys with room made for
all of them first, or from any other iterable one item at a time. The operations follow the
runtime's choices of which operand to walk and when to copy first, since those choices
decide the order of the members that come out:

* a union copies the left set and adds the right one;
* an intersection walks the smaller set (the right one on a tie) and keeps the members the
  other holds; with an iterable it walks the iterable and stops once it has as many members
  as the set;
* a difference walks the left set and keeps the members the other lacks, unless the left set
  has more than four times the other's members, when it copies the left set and removes the
  other's members from the copy;
* a symmetric difference copies the right operand and toggles each member of the left one.

Removing members in place rebuilds a table more than a quarter dummies.
-/

namespace Storefront.Script

/-- The hash of an object. With `guess`, an object that hashes by its address (`None`, a
NaN, a function, a class) takes a stand-in for it; without, it is refused. A range hashes
as the tuple of its length, its start and its step, the start `None` when it is empty and
the step `None` when it has at most one item. -/
def hashOf (h : Heap) (guess : Bool) : Nat → Obj → Except Failure Int
  | 0, _ => throw tooDeep
  | fuel + 1, o =>
    let byAddress : Except Failure Int := if guess then pure noneHash else throw unsupported
    match o with
    | .scalar .none _ => byAddress
    | .scalar v _ => match v.hash? with
      | some r => pure r
      | none => byAddress
    | .tuple xs _ => do pure (tupleHash (← xs.mapM (hashOf h guess fuel)))
    | .ref a => match h.cell a with
      | .set t true => pure t.frozenHash
      | .record c fs =>
        if c.frozen then do pure (tupleHash (← fs.mapM fun (_, x) => hashOf h guess fuel x))
        else throw (unhashable h o)
      | .list _ | .dict _ | .set _ false => throw (unhashable h o)
      | _ => byAddress
    | .duration us _ =>
      pure (tupleHash [intHash (Span.days us), intHash (Span.seconds us), intHash (Span.micros us)])
    | .range a b s _ =>
      let n := rangeLength a b s
      if n ≤ 1 && !guess then throw unsupported
      else pure (tupleHash [intHash n, if n == 0 then noneHash else intHash a,
        if n ≤ 1 then noneHash else intHash s])
    | _ => byAddress

/-- Whether a member is the key: the same object, or an equal one. -/
def sameKey (h : Heap) (k x : Obj) : Except Failure Bool :=
  if x.identical k then pure true else equal h depth x k

/-- Where the members a set takes come from: a set's table (with its address, when it
lives in the heap), a dict's keys, or the items of any other iterable. -/
inductive Source where
  | table (t : SetTable Obj) (addr : Option Nat)
  | keys (ks : List Obj)
  | items (xs : List Obj)

/-- Whether a source is the set at an address. -/
def Source.isAt (src : Source) (me : Option Nat) : Bool :=
  match src, me with
  | .table _ (some a), some b => a == b
  | _, _ => false

namespace Heap

/-- The hash of an object as a set member: a set that is not frozen hashes as the frozen
set of its members, so that it can be looked for. -/
def memberHash (h : Heap) (x : Obj) : Except Failure Int :=
  match x with
  | .ref a => match h.cell a with
    | .set t false => pure t.frozenHash
    | _ => hashOf h true depth x
  | _ => hashOf h true depth x

/-- Add an object to a table. -/
def setAdd (h : Heap) (t : SetTable Obj) (x : Obj) : Except Failure (SetTable Obj) := do
  t.insert (← hashOf h true depth x) x (sameKey h x)

/-- Remove the member equal to an object; whether there was one. -/
def setDiscard (h : Heap) (t : SetTable Obj) (x : Obj) : Except Failure (SetTable Obj × Bool) := do
  t.erase (← h.memberHash x) (sameKey h x)

/-- Whether a member is equal to an object. -/
def setHas (h : Heap) (t : SetTable Obj) (x : Obj) : Except Failure Bool := do
  t.contains (← h.memberHash x) (sameKey h x)

/-- Add every member of a source to the set at an address, or to a new set. -/
def setUpdate (h : Heap) (t : SetTable Obj) (me : Option Nat) (src : Source) :
    Except Failure (SetTable Obj) :=
  match src with
  | .table o _ => if src.isAt me then pure t else t.merge o (sameKey h)
  | .keys ks =>
    let n := ks.length
    let t := if (t.fill + n) * 5 ≥ t.mask * 3 then t.resize ((t.used + n) * 2) else t
    ks.foldlM (fun (acc : SetTable Obj) k => h.setAdd acc k) t
  | .items xs => xs.foldlM (fun (acc : SetTable Obj) k => h.setAdd acc k) t

/-- A new table of the members of a source. -/
def setOf (h : Heap) (src : Source) : Except Failure (SetTable Obj) :=
  h.setUpdate SetTable.empty none src

/-- The items of an iterable that a set holds, walked until as many are kept as the set
has members. -/
def keepHeld (h : Heap) (so : SetTable Obj) : List Obj → SetTable Obj → Except Failure (SetTable Obj)
  | [], acc => pure acc
  | x :: xs, acc => do
    let hx ← hashOf h true depth x
    if ← so.contains hx (sameKey h x) then
      let acc ← acc.insert hx x (sameKey h x)
      if acc.used ≥ so.used then pure acc else keepHeld h so xs acc
    else keepHeld h so xs acc

/-- The members of a set that a source also holds. -/
def setIntersection (h : Heap) (so : SetTable Obj) (me : Option Nat) (src : Source) :
    Except Failure (SetTable Obj) :=
  if src.isAt me then h.setOf (.table so none)
  else match src with
    | .table o _ =>
      let (big, small) := if o.used > so.used then (o, so) else (so, o)
      small.entries.foldlM (fun (acc : SetTable Obj) (hx, x) => do
        if ← big.contains hx (sameKey h x) then acc.insert hx x (sameKey h x) else pure acc)
        SetTable.empty
    | .keys xs | .items xs => keepHeld h so xs SetTable.empty

/-- A table rebuilt when more than a quarter of its slots are dummies. -/
def shrink (t : SetTable Obj) : SetTable Obj :=
  if t.fill - t.used ≤ t.mask / 4 then t else t.resize t.growth

/-- Remove from the set at an address every member of a source. -/
def setSubtract (h : Heap) (so : SetTable Obj) (me : Option Nat) (src : Source) :
    Except Failure (SetTable Obj) :=
  if src.isAt me then pure so.clear
  else match src with
    | .table o addr => do
      let o ← if o.used >>> 3 > so.used then h.setIntersection so me (.table o addr) else pure o
      let so ← o.entries.foldlM (fun (acc : SetTable Obj) (hx, x) => do
        pure (← acc.erase hx (sameKey h x)).1) so
      pure (shrink so)
    | .keys xs | .items xs => do
      let so ← xs.foldlM (fun (acc : SetTable Obj) x => do
        pure (← acc.erase (← hashOf h true depth x) (sameKey h x)).1) so
      pure (shrink so)

/-- The members of a set that a source does not hold. -/
def setDifference (h : Heap) (so : SetTable Obj) (src : Source) : Except Failure (SetTable Obj) :=
  let copyFirst : Except Failure (SetTable Obj) := do
    h.setSubtract (← h.setOf (.table so none)) none src
  let keepMissing (held : Obj → Except Failure Bool) : Except Failure (SetTable Obj) :=
    so.entries.foldlM (fun (acc : SetTable Obj) (hx, x) => do
      if ← held x then pure acc else acc.insert hx x (sameKey h x)) SetTable.empty
  match src with
  | .table o _ =>
    if so.used >>> 2 > o.used then copyFirst
    else keepMissing fun x => do o.contains (← hashOf h true depth x) (sameKey h x)
  | .keys ks =>
    if so.used >>> 2 > ks.length then copyFirst
    else keepMissing fun x => do pure (← findItem h depth ks x 0).isSome
  | .items _ => copyFirst

/-- Remove a member when it is there, add it when it is not. -/
def toggle (h : Heap) (t : SetTable Obj) (hx : Int) (x : Obj) : Except Failure (SetTable Obj) := do
  let (t, found) ← t.erase hx (sameKey h x)
  if found then pure t else t.insert hx x (sameKey h x)

/-- Toggle in the set at an address every member of a source. -/
def setToggle (h : Heap) (so : SetTable Obj) (me : Option Nat) (src : Source) :
    Except Failure (SetTable Obj) :=
  if src.isAt me then pure so.clear
  else match src with
    | .table o _ => o.entries.foldlM (fun (acc : SetTable Obj) (hx, x) => h.toggle acc hx x) so
    | .keys ks => ks.foldlM (fun (acc : SetTable Obj) x => do h.toggle acc (← hashOf h true depth x) x) so
    | .items _ => do
      let o ← h.setOf src
      o.entries.foldlM (fun (acc : SetTable Obj) (hx, x) => h.toggle acc hx x) so

/-- The members of exactly one of a set and a source. -/
def setSymmetric (h : Heap) (so : SetTable Obj) (src : Source) : Except Failure (SetTable Obj) := do
  h.setToggle (← h.setOf src) none (.table so none)

/-- Whether every member of a set is held by a source. -/
def setWithin (h : Heap) (so : SetTable Obj) (src : Source) : Except Failure Bool := do
  let o ← match src with
    | .table o _ => pure o
    | src => h.setOf src
  if so.used > o.used then pure false
  else so.entries.allM fun (hx, x) => o.contains hx (sameKey h x)

/-- Whether a set holds every item of a source, walked until one is missing. -/
def setCovers (h : Heap) (so : SetTable Obj) (src : Source) : Except Failure Bool :=
  match src with
  | .table o _ =>
    if o.used > so.used then pure false
    else o.entries.allM fun (hx, x) => so.contains hx (sameKey h x)
  | .keys xs | .items xs => xs.allM fun x => do so.contains (← hashOf h true depth x) (sameKey h x)

/-- Whether a set and a source hold no member in common, walked until one is found. -/
def setApart (h : Heap) (so : SetTable Obj) (src : Source) : Except Failure Bool :=
  match src with
  | .table o _ =>
    let (big, small) := if o.used > so.used then (o, so) else (so, o)
    small.entries.allM fun (hx, x) => do pure !(← big.contains hx (sameKey h x))
  | .keys xs | .items xs => xs.allM fun x => do
    pure !(← so.contains (← hashOf h true depth x) (sameKey h x))

end Heap

end Storefront.Script
