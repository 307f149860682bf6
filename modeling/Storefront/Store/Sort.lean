/-!
# Sorting with a comparison that may fail

Items are sorted by a "less than" test, run in any monad, that may fail (for values that do
not compare) or call code of its own, with the adaptive merge sort of the service's runtime,
so that every comparison is made in the same pattern and a test that is not a consistent
order (a NaN among numbers) leaves the items in the same places.

The items are cut into runs from the left: a run is the longest ascending stretch, or the
longest strictly descending one reversed; a run shorter than the minimum run length is
completed to it by binary insertion. Before a new run is stacked, the runs on the stack whose
boundary lies deeper in a balanced merge tree over the whole list than the new boundary are
merged; at the end the stacked runs are merged from the top. A merge first trims the items
already in place at both ends by galloping searches, then merges the shorter run into place
from its side, switching to galloping while one run keeps winning. The sort is stable.

Every loop takes fuel at least the number of items it can move, so each ends by running out
of work before it runs out of fuel.
-/

namespace Storefront.Sorting

variable {α : Type} {M : Type → Type} [Monad M]

/-- A run waiting to be merged: where it starts, how long it is, and the depth of its
boundary with the run after it. -/
structure Run where
  base : Nat
  len : Nat
  power : Nat := 0

/-- The items being sorted and the current threshold for galloping. -/
structure Sorter (α : Type) where
  keys : Array α
  minGallop : Nat := 7

/-- Galloping goes on while a run wins at least this many items in a row. -/
def minGallopStart : Nat := 7

/-- Sorting work, run in the monad of the comparison: one that may fail, or one that calls
code with effects of its own. -/
abbrev SortM (M : Type → Type) (α : Type) := StateT (Sorter α) M

/-- Lift a comparison into sorting work. -/
def liftE {β : Type} (x : M β) : SortM M α β := StateT.lift x

/-- The minimum run length for a list of `n` items: `n` itself below 64, else a number
between 32 and 64 taken from the leading bits of `n`, one more when any bit below them is
set. -/
def minRun (n : Nat) : Nat :=
  let rec go : Nat → Nat → Nat → Nat
    | 0, n, r => n + r
    | fuel + 1, n, r => if n ≥ 64 then go fuel (n / 2) (r ||| n % 2) else n + r
  go 64 n 0

/-- The depth, in a balanced merge tree over `n` items, of the boundary between a run of
`n1` items from `s1` and the `n2` items after it: the first bit where the binary expansions
of the two runs' midpoints, as fractions of `n`, differ. -/
def power (s1 n1 n2 n : Nat) : Nat :=
  let rec go : Nat → Nat → Nat → Nat → Nat
    | 0, _, _, r => r
    | fuel + 1, a, b, r =>
      if a ≥ n then go fuel (2 * (a - n)) (2 * (b - n)) (r + 1)
      else if b ≥ n then r + 1
      else go fuel (2 * a) (2 * b) (r + 1)
  go 64 (2 * s1 + n1) (2 * s1 + n1 + n1 + n2) 0

section

variable [Inhabited α]

/-- The item at a position. -/
def at! (i : Nat) : SortM M α α := do
  pure ((← get).keys.getD i default)

/-- Set the item at a position. -/
def put (i : Nat) (x : α) : SortM M α Unit :=
  modify fun s => { s with keys := s.keys.set! i x }

/-- Copy `n` items of an array from `src` to the items from `dst`. -/
def copyIn (source : Array α) (src dst : Nat) : Nat → SortM M α Unit
  | 0 => pure ()
  | n + 1 => do
    put dst (source.getD src default)
    copyIn source (src + 1) (dst + 1) n

/-- Move the `n` items from `src` to the items from `dst`, as if through a copy. -/
def moveWithin (src dst n : Nat) : SortM M α Unit := do
  let part := (← get).keys.extract src (src + n)
  copyIn part 0 dst n

/-- The length of the run starting at `lo` before `hi`, and whether it is strictly
descending. -/
def countRun (lt : α → α → M Bool) (lo hi : Nat) : SortM M α (Nat × Bool) := do
  if lo + 1 ≥ hi then return (1, false)
  let descending ← liftE (lt (← at! (lo + 1)) (← at! lo))
  let rec go : Nat → Nat → SortM M α Nat
    | 0, n => pure n
    | fuel + 1, n => do
      if lo + n ≥ hi then return n
      let less ← liftE (lt (← at! (lo + n)) (← at! (lo + n - 1)))
      if less == descending then go fuel (n + 1) else pure n
  let n ← go hi 2
  pure (n, descending)

/-- Where `pivot` goes among the sorted items from `l` before `r`: after every item it is
not less than. -/
def insertPlace (lt : α → α → M Bool) (pivot : α) : Nat → Nat → Nat → SortM M α Nat
  | 0, l, _ => pure l
  | fuel + 1, l, r => do
    if l < r then
      let p := l + (r - l) / 2
      if ← liftE (lt pivot (← at! p)) then insertPlace lt pivot fuel l p
      else insertPlace lt pivot fuel (p + 1) r
    else pure l

/-- Binary insertion sort of the items from `lo` before `hi`, those before `start` being
sorted already. -/
def binarySort (lt : α → α → M Bool) (lo hi start : Nat) : SortM M α Unit := do
  let rec each : Nat → Nat → SortM M α Unit
    | 0, _ => pure ()
    | fuel + 1, i => do
      if i < hi then
        let pivot ← at! i
        let l ← insertPlace lt pivot (i - lo + 1) lo i
        moveWithin l (l + 1) (i - l)
        put l pivot
        each fuel (i + 1)
  each (hi + 1) (if lo == start then start + 1 else start)

/-- Where `key` goes among the `n` items of `a` from `base`, to the left of any equal
items. The search starts at `hint` and gallops outward by offsets 1, 3, 7, … before a
binary search. -/
def gallopLeft (lt : α → α → M Bool) (key : α) (a : Array α) (base n hint : Nat) :
    M Nat := do
  let item (i : Int) : α := a.getD (base + i.toNat) default
  let h : Int := hint
  let rec outward (toRight : Bool) (maxofs : Int) : Nat → Int → Int → M (Int × Int)
    | 0, l, o => pure (l, o)
    | fuel + 1, l, o => do
      if o < maxofs then
        let less ← if toRight then lt (item (h + o)) key else lt (item (h - o)) key
        if less == toRight then outward toRight maxofs fuel o (2 * o + 1) else pure (l, o)
      else pure (l, o)
  let (lastofs, ofs) ← if ← lt (item h) key then do
      let maxofs := (n : Int) - h
      let (l, o) ← outward true maxofs (n + 1) 0 1
      pure (l + h, (if o > maxofs then maxofs else o) + h)
    else do
      let maxofs := h + 1
      let (l, o) ← outward false maxofs (n + 1) 0 1
      pure (h - (if o > maxofs then maxofs else o), h - l)
  let rec search : Nat → Int → Int → M Int
    | 0, l, _ => pure l
    | fuel + 1, l, o => do
      if l < o then
        let m := l + (o - l) / 2
        if ← lt (item m) key then search fuel (m + 1) o else search fuel l m
      else pure o
  let r ← search (n + 1) (lastofs + 1) ofs
  pure r.toNat

/-- Where `key` goes among the `n` items of `a` from `base`, to the right of any equal
items. The search starts at `hint` and gallops outward before a binary search. -/
def gallopRight (lt : α → α → M Bool) (key : α) (a : Array α) (base n hint : Nat) :
    M Nat := do
  let item (i : Int) : α := a.getD (base + i.toNat) default
  let h : Int := hint
  let rec outward (toRight : Bool) (maxofs : Int) : Nat → Int → Int → M (Int × Int)
    | 0, l, o => pure (l, o)
    | fuel + 1, l, o => do
      if o < maxofs then
        let less ← if toRight then lt key (item (h + o)) else lt key (item (h - o))
        if less != toRight then outward toRight maxofs fuel o (2 * o + 1) else pure (l, o)
      else pure (l, o)
  let (lastofs, ofs) ← if ← lt key (item h) then do
      let maxofs := h + 1
      let (l, o) ← outward false maxofs (n + 1) 0 1
      pure (h - (if o > maxofs then maxofs else o), h - l)
    else do
      let maxofs := (n : Int) - h
      let (l, o) ← outward true maxofs (n + 1) 0 1
      pure (l + h, (if o > maxofs then maxofs else o) + h)
  let rec search : Nat → Int → Int → M Int
    | 0, l, _ => pure l
    | fuel + 1, l, o => do
      if l < o then
        let m := l + (o - l) / 2
        if ← lt key (item m) then search fuel l m else search fuel (m + 1) o
      else pure o
  let r ← search (n + 1) (lastofs + 1) ofs
  pure r.toNat

/-- How a merge ended: both runs in place, one item of the left run left to put after the
rest of the right run (from the left), or one item of the right run left to put before the
rest of the left run (from the right). -/
inductive MergeEnd where
  | done
  | oneLeft
deriving DecidableEq

/-- A merge from the left of the `naOrig` items from `aBase` with the `nbOrig` items after
them; the left run is set aside in `tmp`. With `na` and `nb` items of each still to place,
every position is known. -/
structure LoMerge (α : Type) where
  tmp : Array α
  aBase : Nat
  naOrig : Nat
  nbOrig : Nat

namespace LoMerge

/-- The next item of the left run, in `tmp`. -/
def pa (m : LoMerge α) (na : Nat) : Nat := m.naOrig - na

/-- The next item of the right run. -/
def pb (m : LoMerge α) (nb : Nat) : Nat := m.aBase + m.naOrig + (m.nbOrig - nb)

/-- The next position to fill. -/
def dest (m : LoMerge α) (na nb : Nat) : Nat := m.aBase + (m.naOrig - na) + (m.nbOrig - nb)

/-- Put the items still to place: the rest of the left run, or the rest of the right run
followed by the one item of the left run. -/
def finish (m : LoMerge α) (na nb : Nat) : MergeEnd → SortM M α Unit
  | .oneLeft => do
    moveWithin (m.pb nb) (m.dest na nb) nb
    put (m.dest na nb + nb) (m.tmp.getD (m.pa na) default)
  | .done => copyIn m.tmp (m.pa na) (m.dest na nb) na

/-- One item at a time, until a run wins `mg` times in a row (`none`) or the merge ends. -/
def straight (lt : α → α → M Bool) (m : LoMerge α) (mg : Nat) :
    Nat → Nat → Nat → Nat → Nat → SortM M α (Nat × Nat × Option MergeEnd)
  | 0, na, nb, _, _ => pure (na, nb, some .done)
  | fuel + 1, na, nb, acount, bcount => do
    let b ← at! (m.pb nb)
    let a := m.tmp.getD (m.pa na) default
    if ← liftE (lt b a) then
      put (m.dest na nb) b
      let nb := nb - 1
      if nb == 0 then return (na, nb, some .done)
      if bcount + 1 ≥ mg then return (na, nb, none)
      straight lt m mg fuel na nb 0 (bcount + 1)
    else
      put (m.dest na nb) a
      let na := na - 1
      if na == 1 then return (na, nb, some .oneLeft)
      if acount + 1 ≥ mg then return (na, nb, none)
      straight lt m mg fuel na nb (acount + 1) 0

/-- Rounds of galloping while either run wins at least `minGallopStart` items: the counts
left and the threshold when galloping stops, or how the merge ended. -/
def gallop (lt : α → α → M Bool) (m : LoMerge α) :
    Nat → Nat → Nat → Nat → SortM M α (Nat × Nat × Nat × Option MergeEnd)
  | 0, na, nb, mg => pure (na, nb, mg, some .done)
  | fuel + 1, na, nb, mg => do
    let mg := if mg > 1 then mg - 1 else mg
    modify fun s => { s with minGallop := mg }
    -- how many items of the left run go before the next item of the right run
    let k ← liftE (gallopRight lt (← at! (m.pb nb)) m.tmp (m.pa na) na 0)
    let acount := k
    copyIn m.tmp (m.pa na) (m.dest na nb) k
    let na := na - k
    if k > 0 && na == 1 then return (na, nb, mg, some .oneLeft)
    if k > 0 && na == 0 then return (na, nb, mg, some .done)
    put (m.dest na nb) (← at! (m.pb nb))
    let nb := nb - 1
    if nb == 0 then return (na, nb, mg, some .done)
    -- how many items of the right run go before the next item of the left run
    let k ← liftE (gallopLeft lt (m.tmp.getD (m.pa na) default) (← get).keys (m.pb nb) nb 0)
    let bcount := k
    moveWithin (m.pb nb) (m.dest na nb) k
    let nb := nb - k
    if k > 0 && nb == 0 then return (na, nb, mg, some .done)
    put (m.dest na nb) (m.tmp.getD (m.pa na) default)
    let na := na - 1
    if na == 1 then return (na, nb, mg, some .oneLeft)
    if acount ≥ minGallopStart || bcount ≥ minGallopStart then gallop lt m fuel na nb mg
    else return (na, nb, mg, none)

/-- Alternate between one item at a time and galloping until the merge ends. -/
def run (lt : α → α → M Bool) (m : LoMerge α) :
    Nat → Nat → Nat → Nat → SortM M α Unit
  | 0, na, nb, _ => m.finish na nb .done
  | fuel + 1, na, nb, mg => do
    match ← straight lt m mg (na + nb + 1) na nb 0 0 with
    | (na, nb, some how) => m.finish na nb how
    | (na, nb, none) =>
      match ← gallop lt m (na + nb + 1) na nb (mg + 1) with
      | (na, nb, _, some how) => m.finish na nb how
      | (na, nb, mg, none) =>
        modify fun s => { s with minGallop := mg + 1 }
        run lt m fuel na nb (mg + 1)

end LoMerge

/-- Merge the `na` items from `aBase` with the `nb` items after them from the left. -/
def mergeLo (lt : α → α → M Bool) (aBase na nb : Nat) : SortM M α Unit := do
  let m : LoMerge α := ⟨(← get).keys.extract aBase (aBase + na), aBase, na, nb⟩
  -- the first item of the right run goes first
  put aBase (← at! (aBase + na))
  let nb := nb - 1
  if nb == 0 then return ← m.finish na nb .done
  if na == 1 then return ← m.finish na nb .oneLeft
  m.run lt (na + nb + 1) na nb (← get).minGallop

/-- A merge from the right of the `na` items from `aBase` with the items after them; the
right run is set aside in `tmp`. With `na` and `nb` items of each still to place, the left
run's last item is at `aBase + na - 1`, the right run's at `nb - 1` in `tmp`, and the next
position to fill is `aBase + na + nb - 1`. -/
structure HiMerge (α : Type) where
  tmp : Array α
  aBase : Nat

namespace HiMerge

/-- The last item still to place of the left run. -/
def pa (m : HiMerge α) (na : Nat) : Nat := m.aBase + na - 1

/-- The next position to fill. -/
def dest (m : HiMerge α) (na nb : Nat) : Nat := m.aBase + na + nb - 1

/-- Put the items still to place: the rest of the right run, or the one item of the right
run before the rest of the left run. -/
def finish (m : HiMerge α) (na nb : Nat) : MergeEnd → SortM M α Unit
  | .oneLeft => do
    moveWithin m.aBase (m.aBase + 1) na
    put m.aBase (m.tmp.getD 0 default)
  | .done => copyIn m.tmp 0 (m.aBase + na) nb

/-- One item at a time from the right, until a run wins `mg` times in a row (`none`) or the
merge ends. -/
def straight (lt : α → α → M Bool) (m : HiMerge α) (mg : Nat) :
    Nat → Nat → Nat → Nat → Nat → SortM M α (Nat × Nat × Option MergeEnd)
  | 0, na, nb, _, _ => pure (na, nb, some .done)
  | fuel + 1, na, nb, acount, bcount => do
    let a ← at! (m.pa na)
    let b := m.tmp.getD (nb - 1) default
    if ← liftE (lt b a) then
      put (m.dest na nb) a
      let na := na - 1
      if na == 0 then return (na, nb, some .done)
      if acount + 1 ≥ mg then return (na, nb, none)
      straight lt m mg fuel na nb (acount + 1) 0
    else
      put (m.dest na nb) b
      let nb := nb - 1
      if nb == 1 then return (na, nb, some .oneLeft)
      if bcount + 1 ≥ mg then return (na, nb, none)
      straight lt m mg fuel na nb 0 (bcount + 1)

/-- Rounds of galloping from the right while either run wins at least `minGallopStart`
items. -/
def gallop (lt : α → α → M Bool) (m : HiMerge α) :
    Nat → Nat → Nat → Nat → SortM M α (Nat × Nat × Nat × Option MergeEnd)
  | 0, na, nb, mg => pure (na, nb, mg, some .done)
  | fuel + 1, na, nb, mg => do
    let mg := if mg > 1 then mg - 1 else mg
    modify fun s => { s with minGallop := mg }
    -- how many items of the left run go after the last item of the right run
    let at_ ← liftE (gallopRight lt (m.tmp.getD (nb - 1) default) (← get).keys m.aBase na (na - 1))
    let k := na - at_
    let acount := k
    moveWithin (m.pa na + 1 - k) (m.dest na nb + 1 - k) k
    let na := na - k
    if k > 0 && na == 0 then return (na, nb, mg, some .done)
    put (m.dest na nb) (m.tmp.getD (nb - 1) default)
    let nb := nb - 1
    if nb == 1 then return (na, nb, mg, some .oneLeft)
    -- how many items of the right run go after the last item of the left run
    let at_ ← liftE (gallopLeft lt (← at! (m.pa na)) m.tmp 0 nb (nb - 1))
    let k := nb - at_
    let bcount := k
    copyIn m.tmp (nb - k) (m.dest na nb + 1 - k) k
    let nb := nb - k
    if k > 0 && nb == 1 then return (na, nb, mg, some .oneLeft)
    if k > 0 && nb == 0 then return (na, nb, mg, some .done)
    put (m.dest na nb) (← at! (m.pa na))
    let na := na - 1
    if na == 0 then return (na, nb, mg, some .done)
    if acount ≥ minGallopStart || bcount ≥ minGallopStart then gallop lt m fuel na nb mg
    else return (na, nb, mg, none)

/-- Alternate between one item at a time and galloping until the merge ends. -/
def run (lt : α → α → M Bool) (m : HiMerge α) :
    Nat → Nat → Nat → Nat → SortM M α Unit
  | 0, na, nb, _ => m.finish na nb .done
  | fuel + 1, na, nb, mg => do
    match ← straight lt m mg (na + nb + 1) na nb 0 0 with
    | (na, nb, some how) => m.finish na nb how
    | (na, nb, none) =>
      match ← gallop lt m (na + nb + 1) na nb (mg + 1) with
      | (na, nb, _, some how) => m.finish na nb how
      | (na, nb, mg, none) =>
        modify fun s => { s with minGallop := mg + 1 }
        run lt m fuel na nb (mg + 1)

end HiMerge

/-- Merge the `na` items from `aBase` with the `nb` items after them from the right. -/
def mergeHi (lt : α → α → M Bool) (aBase na nb : Nat) : SortM M α Unit := do
  let bBase := aBase + na
  let m : HiMerge α := ⟨(← get).keys.extract bBase (bBase + nb), aBase⟩
  -- the last item of the left run goes last
  put (m.dest na nb) (← at! (m.pa na))
  let na := na - 1
  if na == 0 then return ← m.finish na nb .done
  if nb == 1 then return ← m.finish na nb .oneLeft
  m.run lt (na + nb + 1) na nb (← get).minGallop

/-- Merge the stacked run at `i` with the one after it; the merged run takes the place of
both. Items of the left run not greater than the right run's first item, and items of the
right run not less than the left run's last item, are already in place. -/
def mergeAt (lt : α → α → M Bool) (stack : Array Run) (i : Nat) :
    SortM M α (Array Run) := do
  let a := stack.getD i ⟨0, 0, 0⟩
  let b := stack.getD (i + 1) ⟨0, 0, 0⟩
  let merged := (stack.set! i { a with len := a.len + b.len }).eraseIdxIfInBounds (i + 1)
  let keys := (← get).keys
  let k ← liftE (gallopRight lt (keys.getD b.base default) keys a.base a.len 0)
  let aBase := a.base + k
  let na := a.len - k
  if na == 0 then return merged
  let nb ← liftE (gallopLeft lt (keys.getD (aBase + na - 1) default) keys b.base b.len (b.len - 1))
  if nb == 0 then return merged
  if na ≤ nb then mergeLo lt aBase na nb else mergeHi lt aBase na nb
  pure merged

/-- Before a run of `n2` items is stacked, merge the runs on the stack whose boundary is
deeper than the new one's, and record the new boundary's depth on the top run. -/
def foundRun (lt : α → α → M Bool) (total n2 : Nat) (stack : Array Run) :
    SortM M α (Array Run) := do
  match stack.back? with
  | none => pure stack
  | some top =>
    let p := power top.base top.len n2 total
    let rec collapse : Nat → Array Run → SortM M α (Array Run)
      | 0, st => pure st
      | fuel + 1, st => do
        if st.size > 1 && (st.getD (st.size - 2) ⟨0, 0, 0⟩).power > p then
          collapse fuel (← mergeAt lt st (st.size - 2))
        else pure st
    let st ← collapse (stack.size + 1) stack
    pure (st.modify (st.size - 1) fun r => { r with power := p })

/-- Merge all stacked runs, from the top, the shorter neighbour of the run below the top
first. -/
def collapseAll (lt : α → α → M Bool) : Nat → Array Run → SortM M α Unit
  | 0, _ => pure ()
  | fuel + 1, st => do
    if st.size > 1 then
      let n := st.size - 2
      let n := if n > 0 && (st.getD (n - 1) ⟨0, 0, 0⟩).len < (st.getD (n + 1) ⟨0, 0, 0⟩).len
        then n - 1 else n
      collapseAll lt fuel (← mergeAt lt st n)

/-- Cut the items from `lo` into runs, stacking and merging them. -/
def runs (lt : α → α → M Bool) (total minrun : Nat) :
    Nat → Nat → Array Run → SortM M α (Array Run)
  | 0, _, st => pure st
  | fuel + 1, lo, st => do
    if lo ≥ total then return st
    let remaining := total - lo
    let (n, descending) ← countRun lt lo total
    if descending then reverseRun lo n
    let n ← if n < minrun then do
        let force := if remaining ≤ minrun then remaining else minrun
        binarySort lt lo (lo + force) (lo + n)
        pure force
      else pure n
    let st ← foundRun lt total n st
    runs lt total minrun fuel (lo + n) (st.push ⟨lo, n, 0⟩)
where
  /-- Reverse the `n` items from `lo`. -/
  reverseRun (lo n : Nat) : SortM M α Unit := do
    let part := ((← get).keys.extract lo (lo + n)).reverse
    copyIn part 0 lo n

/-- The items sorted stably by a comparison run in a monad; its calls come in the same order
whatever the monad. -/
def sortBy (lt : α → α → M Bool) (xs : List α) : M (List α) := do
  let total := xs.length
  if total < 2 then return xs
  let work : SortM M α Unit := do
    let st ← runs lt total (minRun total) (total + 1) 0 #[]
    collapseAll lt (st.size + 1) st
  let ((), s) ← work.run { keys := xs.toArray }
  pure s.keys.toList

end

end Storefront.Sorting
