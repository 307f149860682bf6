import Storefront.Proofs.Sort.Search

/-!
# Merging from the left

A merge from the left sets the left run aside and fills the stretch of both runs from its
start: one item at a time, or by galloping while one run keeps winning. The invariant `Placed`
says where every item is while `na` items of the left run and `nb` of the right run are still
to place: the merged output so far, one free slot for each left item still to place, and the
right run's items still to place, where they were. Every step keeps it, and the two ways a
merge ends put the last items into place, so the stretch ends as the merge of the two runs.
-/

namespace Storefront.Sorting

variable {ε α : Type}

/-- Two adjacent sorted runs ready to be merged, as the trimming before a merge leaves them:
the right run's first item goes before the left run's first, every item of the right run goes
before the left run's last, and the comparison decides `before` on their items. -/
structure Mergeable (lt : α → α → Except ε Bool) (before : α → α → Bool) (left right : List α) :
    Prop where
  order : StrictWeakOrder before
  leftSorted : Sorted before left
  rightSorted : Sorted before right
  firstRight : ∀ y ∈ right.head?, ∀ x ∈ left.head?, before y x = true
  lastLeft : ∀ y ∈ right, ∀ x ∈ left.getLast?, before y x = true
  decides : Decides lt before (· ∈ left ++ right)

namespace LoMerge

/-- What a merge from the left relies on throughout: the left run set aside in `tmp`, ready to
be merged with the right run `right` that follows the left run's slots after `pre`. -/
structure Setup (m : LoMerge α) (lt : α → α → Except ε Bool) (before : α → α → Bool)
    (pre right : List α) : Prop where
  ready : Mergeable lt before m.tmp.toList right
  base : m.aBase = pre.length
  leftCount : m.naOrig = m.tmp.size
  rightCount : m.nbOrig = right.length

/-- The left run's items still to place when `na` remain. -/
def leftRest (m : LoMerge α) (na : Nat) : List α := m.tmp.toList.drop (m.naOrig - na)

/-- The right run's items still to place when `nb` remain. -/
def rightRest (m : LoMerge α) (right : List α) (nb : Nat) : List α := right.drop (m.nbOrig - nb)

/-- The sorter's items while `na` items of the left run and `nb` of the right run are still to
place: the merged output so far, one slot for each left item still to place, then the right
run's items still to place. -/
structure Placed (m : LoMerge α) (before : α → α → Bool) (pre right post : List α)
    (na nb : Nat) (keys : List α) : Prop where
  leftLe : na ≤ m.naOrig
  rightLe : nb ≤ m.nbOrig
  layout : ∃ out gap, keys = pre ++ out ++ gap ++ m.rightRest right nb ++ post ∧
    gap.length = na ∧
    out ++ (m.leftRest na).merge (m.rightRest right nb) (noLater before) =
      m.tmp.toList.merge right (noLater before)

variable {m : LoMerge α} {lt : α → α → Except ε Bool} {before : α → α → Bool}
  {pre right post : List α}

/-- Before the merge nothing is placed: the left run's slots still hold its items. -/
theorem placed_start (setup : Setup m lt before pre right) :
    Placed m before pre right post m.naOrig m.nbOrig (pre ++ m.tmp.toList ++ right ++ post) :=
  ⟨Nat.le_refl _, Nat.le_refl _, [], m.tmp.toList, by simp [rightRest],
    by simp [setup.leftCount], by simp [leftRest, rightRest]⟩

theorem leftRest_length (setup : Setup m lt before pre right) {na : Nat} (le : na ≤ m.naOrig) :
    (m.leftRest na).length = na := by
  have := setup.leftCount
  simp [leftRest]
  omega

theorem rightRest_length (setup : Setup m lt before pre right) {nb : Nat} (le : nb ≤ m.nbOrig) :
    (m.rightRest right nb).length = nb := by
  have := setup.rightCount
  simp [rightRest]
  omega

theorem leftRest_sorted (setup : Setup m lt before pre right) (na : Nat) :
    Sorted before (m.leftRest na) :=
  setup.ready.leftSorted.drop

theorem rightRest_sorted (setup : Setup m lt before pre right) (nb : Nat) :
    Sorted before (m.rightRest right nb) :=
  setup.ready.rightSorted.drop

theorem leftRest_pred (setup : Setup m lt before pre right) {na : Nat} {x : α} {rest : List α}
    (le : na ≤ m.naOrig) (split : m.leftRest na = x :: rest) : m.leftRest (na - 1) = rest := by
  have positive : 0 < na := by
    have := congrArg List.length split
    rw [leftRest_length setup le] at this
    simp at this
    omega
  have : m.naOrig - (na - 1) = m.naOrig - na + 1 := by omega
  simp only [leftRest, this, ← List.drop_drop]
  simp only [leftRest] at split
  simp [split]

theorem rightRest_pred (setup : Setup m lt before pre right) {nb : Nat} {y : α} {rest : List α}
    (le : nb ≤ m.nbOrig) (split : m.rightRest right nb = y :: rest) :
    m.rightRest right (nb - 1) = rest := by
  have positive : 0 < nb := by
    have := congrArg List.length split
    rw [rightRest_length setup le] at this
    simp at this
    omega
  have : m.nbOrig - (nb - 1) = m.nbOrig - nb + 1 := by omega
  simp only [rightRest, this, ← List.drop_drop]
  simp only [rightRest] at split
  simp [split]

theorem leftRest_sub {na k : Nat} (le : na ≤ m.naOrig) (atMost : k ≤ na) :
    m.leftRest (na - k) = (m.leftRest na).drop k := by
  have : m.naOrig - (na - k) = m.naOrig - na + k := by omega
  simp [leftRest, this, List.drop_drop, Nat.add_comm]

theorem rightRest_sub {nb k : Nat} (le : nb ≤ m.nbOrig) (atMost : k ≤ nb) :
    m.rightRest right (nb - k) = (m.rightRest right nb).drop k := by
  have : m.nbOrig - (nb - k) = m.nbOrig - nb + k := by omega
  simp [rightRest, this, List.drop_drop, Nat.add_comm]

/-- Where the next free slot is: after the prefix and the output so far. -/
theorem Placed.out_length (setup : Setup m lt before pre right) {na nb : Nat} {keys out : List α}
    (placed : Placed m before pre right post na nb keys)
    (merged : out ++ (m.leftRest na).merge (m.rightRest right nb) (noLater before) =
      m.tmp.toList.merge right (noLater before)) :
    out.length = (m.naOrig - na) + (m.nbOrig - nb) := by
  have := congrArg List.length merged
  simp only [List.length_append, List.length_merge, leftRest_length setup placed.leftLe,
    rightRest_length setup placed.rightLe, Array.length_toList] at this
  have := setup.leftCount
  have := setup.rightCount
  have := placed.leftLe
  have := placed.rightLe
  omega

/-- The layout of `Placed`, with the positions the merge computes spelled out. -/
theorem Placed.spots (setup : Setup m lt before pre right) {na nb : Nat} {keys : List α}
    (placed : Placed m before pre right post na nb keys) :
    ∃ out gap, keys = pre ++ out ++ gap ++ m.rightRest right nb ++ post ∧ gap.length = na ∧
      out ++ (m.leftRest na).merge (m.rightRest right nb) (noLater before) =
        m.tmp.toList.merge right (noLater before) ∧
      m.dest na nb = pre.length + out.length ∧ m.pb nb = pre.length + out.length + gap.length := by
  obtain ⟨out, gap, layout, count, merged⟩ := placed.layout
  have length := placed.out_length setup merged
  have := setup.base
  have := placed.leftLe
  refine ⟨out, gap, layout, count, merged, ?_, ?_⟩ <;> simp only [dest, pb] <;> omega

theorem leftRest_getD [Inhabited α] (na i : Nat) :
    m.tmp.getD (m.pa na + i) default = (m.leftRest na).getD i default := by
  simp only [leftRest, pa, List.getD_eq_getElem?_getD, List.getElem?_drop,
    Array.getD_eq_getD_getElem?, Array.getElem?_toList]

theorem Placed.getD_right [Inhabited α] (setup : Setup m lt before pre right) {na nb i : Nat} {keys : List α}
    (placed : Placed m before pre right post na nb keys) (inside : i < nb) :
    keys.getD (m.pb nb + i) default = (m.rightRest right nb).getD i default := by
  obtain ⟨out, gap, rfl, _, _, _, at_pb⟩ := placed.spots setup
  have := rightRest_length setup placed.rightLe
  rw [at_pb, show pre.length + out.length + gap.length = (pre ++ out ++ gap).length by simp; omega,
    getD_middle _ _ _ _ _ (by omega)]

theorem Placed.take_right (setup : Setup m lt before pre right) {na nb k : Nat} {keys : List α}
    (placed : Placed m before pre right post na nb keys) (le : k ≤ nb) :
    (keys.drop (m.pb nb)).take k = (m.rightRest right nb).take k := by
  obtain ⟨out, gap, rfl, _, _, _, at_pb⟩ := placed.spots setup
  have := rightRest_length setup placed.rightLe
  rw [at_pb, show pre.length + out.length + gap.length = (pre ++ out ++ gap).length by simp; omega,
    take_drop_middle _ _ _ _ (by omega)]

/-- The slots still to fill and the rest of the right run lie inside the items. -/
theorem Placed.fits (setup : Setup m lt before pre right) {na nb : Nat} {keys : List α}
    (placed : Placed m before pre right post na nb keys) :
    m.dest na nb + na = m.pb nb ∧ m.pb nb + nb ≤ keys.length := by
  obtain ⟨out, gap, rfl, count, _, at_dest, at_pb⟩ := placed.spots setup
  have := rightRest_length setup placed.rightLe
  simp only [List.length_append]
  omega

/-! ## One placement at a time -/

-- The right run's next item goes into the next slot when it goes before the left run's next.
theorem Placed.placeRight (setup : Setup m lt before pre right) {na nb : Nat} {keys : List α}
    (placed : Placed m before pre right post na nb keys) {y : α} {rest : List α}
    (split : m.rightRest right nb = y :: rest)
    (first : ∀ x ∈ (m.leftRest na).head?, before y x = true) :
    Placed m before pre right post na (nb - 1) (keys.set (m.dest na nb) y) := by
  obtain ⟨out, gap, rfl, count, merged, at_dest, _⟩ := placed.spots setup
  have shorter := rightRest_pred setup placed.rightLe split
  refine ⟨placed.leftLe, by have := placed.rightLe; omega, out ++ [y], (gap ++ [y]).tail, ?_,
    ?_, ?_⟩
  · rw [at_dest, split, shorter]
    cases gap <;> simp [List.set_append_right]
  · cases gap <;> simp_all
  · have takesRight : (m.leftRest na).merge (y :: rest) (noLater before) =
        y :: (m.leftRest na).merge rest (noLater before) := by
      cases left : m.leftRest na with
      | nil => simp
      | cons x xs =>
        rw [left] at first
        exact List.cons_merge_cons_neg _ _ _ (by simp [noLater, first x (by simp)])
    rw [shorter, ← merged, split, takesRight]
    simp

-- The left run's next item goes into the next slot when the right run's next does not go
-- before it.
theorem Placed.placeLeft (setup : Setup m lt before pre right) {na nb : Nat} {keys : List α}
    (placed : Placed m before pre right post na nb keys) {x : α} {rest : List α}
    (split : m.leftRest na = x :: rest)
    (first : ∀ y ∈ (m.rightRest right nb).head?, before y x = false) :
    Placed m before pre right post (na - 1) nb (keys.set (m.dest na nb) x) := by
  obtain ⟨out, gap, rfl, count, merged, at_dest, _⟩ := placed.spots setup
  have shorter := leftRest_pred setup placed.leftLe split
  have positive : 0 < na := by
    have := congrArg List.length split
    rw [leftRest_length setup placed.leftLe] at this
    simp at this
    omega
  obtain ⟨slot, slots, rfl⟩ : ∃ slot slots, gap = slot :: slots :=
    List.exists_cons_of_length_pos (by omega)
  have := placed.leftLe
  refine ⟨by omega, placed.rightLe, out ++ [x], slots, ?_, by simp at count; omega, ?_⟩
  · rw [at_dest]
    simp [List.set_append_right]
  · have takesLeft : (x :: rest).merge (m.rightRest right nb) (noLater before) =
        x :: rest.merge (m.rightRest right nb) (noLater before) := by
      cases right' : m.rightRest right nb with
      | nil => simp
      | cons y ys =>
        rw [right'] at first
        exact List.cons_merge_cons_pos _ _ _ (by simp [noLater, first y (by simp)])
    rw [shorter, ← merged, split, takesLeft]
    simp

-- A prefix of the left run that no right item goes before is copied into place at once.
theorem Placed.copyLeft (setup : Setup m lt before pre right) {na nb k : Nat} {keys : List α}
    (placed : Placed m before pre right post na nb keys) (le : k ≤ na)
    (ahead : ∀ x ∈ (m.leftRest na).take k, ∀ y ∈ (m.rightRest right nb).head?,
      before y x = false) :
    Placed m before pre right post (na - k) nb
      (overwrite keys (m.dest na nb) ((m.leftRest na).take k)) := by
  obtain ⟨out, gap, rfl, count, merged, at_dest, _⟩ := placed.spots setup
  have length := leftRest_length setup placed.leftLe
  have shorter := leftRest_sub placed.leftLe le
  have := placed.leftLe
  refine ⟨by omega, placed.rightLe, out ++ (m.leftRest na).take k, gap.drop k, ?_, by simp; omega,
    ?_⟩
  · have split : pre ++ out ++ gap ++ m.rightRest right nb ++ post =
        (pre ++ out) ++ gap.take k ++ (gap.drop k ++ m.rightRest right nb ++ post) := by
      simp only [List.append_assoc]
      rw [← List.append_assoc (gap.take k), List.take_append_drop]
    rw [at_dest, split, show pre.length + out.length = (pre ++ out).length by simp,
      overwrite_append _ _ _ _ (by simp; omega)]
    simp
  · rw [shorter, ← merged, List.append_assoc]
    congr 1
    cases right' : m.rightRest right nb with
    | nil => simp
    | cons y ys =>
      rw [right'] at ahead
      exact (merge_take_left _ k (fun x member => ahead x member y (by simp))).symm

-- A prefix of the right run that goes before the left run's next item is moved into place at
-- once.
theorem Placed.moveRight (setup : Setup m lt before pre right) {na nb k : Nat} {keys : List α}
    (placed : Placed m before pre right post na nb keys) (le : k ≤ nb)
    (ahead : ∀ y ∈ (m.rightRest right nb).take k, ∀ x ∈ (m.leftRest na).head?,
      before y x = true) :
    Placed m before pre right post na (nb - k)
      (overwrite keys (m.dest na nb) ((m.rightRest right nb).take k)) := by
  obtain ⟨out, gap, rfl, count, merged, at_dest, _⟩ := placed.spots setup
  have length := rightRest_length setup placed.rightLe
  have shorter : m.rightRest right (nb - k) = _ := rightRest_sub placed.rightLe le
  have := placed.rightLe
  refine ⟨placed.leftLe, by omega, out ++ (m.rightRest right nb).take k,
    (gap ++ (m.rightRest right nb).take k).drop k, ?_, by simp; omega, ?_⟩
  · -- the moved items shift the gap right by k slots
    have regap : ∀ moved : List α, gap ++ moved =
        (gap ++ moved.take k).take k ++ ((gap ++ moved.take k).drop k ++ moved.drop k) := by
      intro moved
      rw [← List.append_assoc, List.take_append_drop, List.append_assoc, List.take_append_drop]
    have split : pre ++ out ++ gap ++ m.rightRest right nb ++ post =
        (pre ++ out) ++ (gap ++ (m.rightRest right nb).take k).take k ++
          ((gap ++ (m.rightRest right nb).take k).drop k ++ (m.rightRest right nb).drop k ++
            post) := by
      simp only [List.append_assoc]
      rw [← List.append_assoc gap, regap]
      simp only [List.append_assoc]
    rw [at_dest, split, show pre.length + out.length = (pre ++ out).length by simp,
      overwrite_append _ _ _ _ (by simp; omega), shorter]
    simp
  · rw [shorter, ← merged, List.append_assoc]
    congr 1
    cases left : m.leftRest na with
    | nil => simp
    | cons x xs =>
      rw [left] at ahead
      exact (merge_take_right _ k (fun y member => ahead y member x (by simp))).symm

/-- Once the left run is used up, the items are merged. -/
theorem Placed.left_done (setup : Setup m lt before pre right) {nb : Nat} {keys : List α}
    (placed : Placed m before pre right post 0 nb keys) :
    keys = pre ++ m.tmp.toList.merge right (noLater before) ++ post := by
  obtain ⟨out, gap, rfl, count, merged⟩ := placed.layout
  have empty : m.leftRest 0 = [] :=
    List.eq_nil_of_length_eq_zero (leftRest_length setup (Nat.zero_le _))
  rw [List.eq_nil_of_length_eq_zero count, ← merged, empty]
  simp

/-- The last item of the left run goes after every item of the right run. -/
theorem leftRest_one_after (setup : Setup m lt before pre right) {x : α} {rest : List α}
    (split : m.leftRest 1 = x :: rest) : ∀ y ∈ right, before y x = true := by
  have count := setup.leftCount
  have length := congrArg List.length split
  simp [leftRest] at length
  have single : rest = [] := List.eq_nil_of_length_eq_zero (by omega)
  have last : m.tmp.toList.getLast? = some x := by
    have := congrArg List.getLast? split
    simp only [leftRest, List.getLast?_drop, single] at this
    rwa [if_neg (by simp; omega)] at this
  intro y member
  exact setup.ready.lastLeft y member x (by simp [last])

/-! ## Reading the next items -/

theorem leftRest_head [Inhabited α] (setup : Setup m lt before pre right) {na : Nat}
    (le : na ≤ m.naOrig) (one : 1 ≤ na) :
    ∃ x rest, m.leftRest na = x :: rest ∧ m.tmp.getD (m.pa na) default = x := by
  obtain ⟨x, rest, split⟩ := List.exists_cons_of_length_pos
    (by rw [leftRest_length setup le]; omega : 0 < (m.leftRest na).length)
  refine ⟨x, rest, split, ?_⟩
  simpa [split] using leftRest_getD (m := m) na 0

theorem Placed.right_head [Inhabited α] (setup : Setup m lt before pre right) {na nb : Nat}
    {keys : Array α} (placed : Placed m before pre right post na nb keys.toList) (one : 1 ≤ nb) :
    ∃ y rest, m.rightRest right nb = y :: rest ∧ keys.getD (m.pb nb) default = y := by
  obtain ⟨y, rest, split⟩ := List.exists_cons_of_length_pos
    (by rw [rightRest_length setup placed.rightLe]; omega : 0 < (m.rightRest right nb).length)
  refine ⟨y, rest, split, ?_⟩
  simpa [split, getD_toList] using placed.getD_right setup (i := 0) (by omega)

theorem leftRest_mem {na : Nat} {x : α} (member : x ∈ m.leftRest na) :
    x ∈ m.tmp.toList ++ right :=
  List.mem_append_left _ (List.mem_of_mem_drop member)

theorem rightRest_mem {nb : Nat} {y : α} (member : y ∈ m.rightRest right nb) :
    y ∈ m.tmp.toList ++ right :=
  List.mem_append_right _ (List.mem_of_mem_drop member)

theorem getD_mem_leftRest [Inhabited α] (setup : Setup m lt before pre right) {na i : Nat}
    (le : na ≤ m.naOrig) (below : i < na) :
    (m.leftRest na).getD i default ∈ m.tmp.toList ++ right := by
  have := leftRest_length setup le
  rw [List.getD_eq_getElem?_getD, List.getElem?_eq_getElem (by omega)]
  exact leftRest_mem (List.getElem_mem _)

theorem getD_mem_rightRest [Inhabited α] (setup : Setup m lt before pre right) {nb i : Nat}
    (le : nb ≤ m.nbOrig) (below : i < nb) :
    (m.rightRest right nb).getD i default ∈ m.tmp.toList ++ right := by
  have := rightRest_length setup le
  rw [List.getD_eq_getElem?_getD, List.getElem?_eq_getElem (by omega)]
  exact rightRest_mem (List.getElem_mem _)

/-! ## Galloping over the runs -/

/-- Galloping over the left run counts its items that the right run's next item does not go
before. -/
theorem gallopRight_leftRest [Inhabited α] (setup : Setup m lt before pre right) {na : Nat}
    (le : na ≤ m.naOrig) (one : 1 ≤ na) {y : α} (yIn : y ∈ m.tmp.toList ++ right) :
    ∃ k, gallopRight lt y m.tmp (m.pa na) na 0 = pure k ∧ k ≤ na ∧
      (∀ x ∈ (m.leftRest na).take k, before y x = false) ∧
      ∀ x ∈ ((m.leftRest na).drop k).head?, before y x = true := by
  have length := leftRest_length setup le
  have reads : ∀ i, i < na → lt y (m.tmp.getD (m.pa na + i) default) =
      pure (!(!before y ((m.leftRest na).getD i default))) := fun i below => by
    rw [leftRest_getD, Bool.not_not]
    exact setup.ready.decides _ _ yIn (getD_mem_leftRest setup le below)
  have closed : PrefixClosed (fun i => !before y ((m.leftRest na).getD i default)) 0 na := by
    have := prefixClosed_of_sorted (p := fun x => !before y x) (leftRest_sorted setup na)
      fun a b ordered passes => by
        simp only [Bool.not_eq_eq_eq_not, Bool.not_true] at passes ⊢
        exact setup.ready.order.notBefore_trans passes (by simpa using ordered)
    rwa [length] at this
  obtain ⟨k, found, bound⟩ := gallopRight_boundary reads closed one
  have bound : Boundary (fun i => !before y ((m.leftRest na).getD i default)) 0
      (m.leftRest na).length k := by rwa [length]
  refine ⟨k, found, length ▸ bound.2.1, fun x member => ?_, fun x member => ?_⟩
  · simpa using bound.taken (p := fun x => !before y x) x member
  · simpa using bound.next (p := fun x => !before y x) x member

/-- Galloping over the right run counts its items that go before the left run's next item. -/
theorem Placed.gallopLeft_rightRest [Inhabited α] (setup : Setup m lt before pre right)
    {na nb : Nat} {keys : Array α} (placed : Placed m before pre right post na nb keys.toList)
    (one : 1 ≤ nb) {x : α} (xIn : x ∈ m.tmp.toList ++ right) :
    ∃ k, gallopLeft lt x keys (m.pb nb) nb 0 = pure k ∧ k ≤ nb ∧
      (∀ y ∈ (m.rightRest right nb).take k, before y x = true) ∧
      ∀ y ∈ ((m.rightRest right nb).drop k).head?, before y x = false := by
  have length := rightRest_length setup placed.rightLe
  have reads : ∀ i, i < nb → lt (keys.getD (m.pb nb + i) default) x =
      pure (before ((m.rightRest right nb).getD i default) x) := fun i below => by
    rw [getD_toList, placed.getD_right setup below]
    exact setup.ready.decides _ _ (getD_mem_rightRest setup placed.rightLe below) xIn
  have closed : PrefixClosed (fun i => before ((m.rightRest right nb).getD i default) x) 0 nb := by
    have := prefixClosed_of_sorted (p := fun y => before y x) (rightRest_sorted setup nb)
      fun a b ordered passes =>
        setup.ready.order.before_of_noLater_of_before (by simpa using ordered) passes
    rwa [length] at this
  obtain ⟨k, found, bound⟩ := gallopLeft_boundary reads closed one
  have bound : Boundary (fun i => before ((m.rightRest right nb).getD i default) x) 0
      (m.rightRest right nb).length k := by rwa [length]
  exact ⟨k, found, length ▸ bound.2.1, bound.taken (p := fun y => before y x),
    bound.next (p := fun y => before y x)⟩

/-- How a phase of the merge may end: with a run used up, with one item of the left run
left, or with enough of both runs left to go on. -/
def Ends (na nb : Nat) : Option MergeEnd → Prop
  | some .done => na = 0 ∨ nb = 0
  | some .oneLeft => na = 1
  | none => 2 ≤ na ∧ 1 ≤ nb

section Finish

variable [Inhabited α]

theorem finish_run (setup : Setup m lt before pre right) {na nb : Nat} {how : MergeEnd}
    {s : Sorter α} (placed : Placed m before pre right post na nb s.keys.toList)
    (ends : Ends na nb (some how)) :
    (m.finish (M := Except ε) na nb how).run s =
      pure ((), { s with keys :=
        (pre ++ m.tmp.toList.merge right (noLater before) ++ post).toArray }) := by
  obtain ⟨out, gap, layout, count, merged, at_dest, at_pb⟩ := placed.spots setup
  have leftLength := leftRest_length setup placed.leftLe
  have rightLength := rightRest_length setup placed.rightLe
  have bounds := placed.leftLe
  have size : s.keys.size = pre.length + out.length + gap.length + nb + post.length := by
    rw [← Array.length_toList, layout]
    simp [rightLength]
    omega
  cases how with
  | done =>
    -- the rest of the left run is copied after everything placed
    have ends : na = 0 ∨ nb = 0 := ends
    have copied := placed.copyLeft setup (Nat.le_refl na) (fun x member y first => by
      rcases ends with gone | gone
      · subst gone
        simp at member
      · rw [List.eq_nil_of_length_eq_zero (rightLength.trans gone)] at first
        simp at first)
    rw [Nat.sub_self] at copied
    simp only [finish]
    rw [copyIn_run _ _ _ _ _ (by have := setup.leftCount; simp only [pa]; omega) (by omega)]
    have taken : (m.tmp.toList.drop (m.pa na)).take na = (m.leftRest na).take na := rfl
    rw [taken, ← copied.left_done setup]
  | oneLeft =>
    -- the rest of the right run moves up to make room for the left run's last item
    have ends : na = 1 := ends
    subst ends
    obtain ⟨x, rest, split, atLeft⟩ := leftRest_head setup placed.leftLe (Nat.le_refl 1)
    have moved := placed.moveRight setup (Nat.le_refl nb) (fun y member x' first => by
      rw [split] at first
      cases first
      exact leftRest_one_after setup split y (List.mem_of_mem_drop (List.mem_of_mem_take member)))
    rw [Nat.sub_self] at moved
    have gone : m.rightRest right 0 = [] :=
      List.eq_nil_of_length_eq_zero (rightRest_length setup (Nat.zero_le _))
    have placedLast := moved.placeLeft setup split (by simp [gone])
    simp only [finish, StateT.run_bind]
    rw [moveWithin_run _ _ _ _ (by omega) (by omega)]
    simp only [pure_bind, put_run, atLeft]
    have slot : m.dest 1 nb + nb = m.dest 1 0 := by
      have := placed.rightLe
      simp only [dest]
      omega
    rw [placed.take_right setup (Nat.le_refl nb), slot, ← placedLast.left_done setup]
    simp

/-- One item at a time: each step places the smaller next item, so the layout is kept and
the counts left only go down. -/
theorem straight_run (setup : Setup m lt before pre right) (mg : Nat) :
    ∀ (fuel na nb acount bcount : Nat) (s : Sorter α),
      Placed m before pre right post na nb s.keys.toList → 2 ≤ na → 1 ≤ nb → na + nb ≤ fuel →
      ∃ na' nb' how s', (m.straight lt mg fuel na nb acount bcount).run s =
          pure ((na', nb', how), s') ∧
        Placed m before pre right post na' nb' s'.keys.toList ∧ Ends na' nb' how ∧
        na' + nb' < na + nb
  | 0, na, nb, _, _, s, _, two, _, enough => by omega
  | fuel + 1, na, nb, acount, bcount, s, placed, two, one, enough => by
    obtain ⟨y, ys, rightSplit, atRight⟩ := placed.right_head setup one
    obtain ⟨x, xs, leftSplit, atLeft⟩ := leftRest_head setup placed.leftLe (by omega)
    have compared : lt y x = pure (before y x) :=
      setup.ready.decides y x (rightRest_mem (show y ∈ m.rightRest right nb by simp [rightSplit]))
        (leftRest_mem (show x ∈ m.leftRest na by simp [leftSplit]))
    simp only [straight, StateT.run_bind, at_run, atRight, atLeft, compared,
      liftE_run, pure_bind]
    cases yFirst : before y x with
    | true =>
      have next := placed.placeRight setup rightSplit (by simpa [leftSplit] using yFirst)
      simp only [↓reduceIte, StateT.run_bind, put_run, pure_bind]
      by_cases gone : nb - 1 = 0
      · simp only [gone, BEq.rfl, ↓reduceIte, StateT.run_pure]
        exact ⟨na, 0, some .done, _, rfl, by simpa [gone] using next, Or.inr rfl, by omega⟩
      · have goesOn : (nb - 1 == 0) = false := by simpa using gone
        simp only [goesOn, Bool.false_eq_true, ↓reduceIte]
        by_cases won : bcount + 1 ≥ mg
        · simp only [won, ↓reduceIte, StateT.run_pure]
          exact ⟨na, nb - 1, none, { s with keys := s.keys.set! (m.dest na nb) y }, rfl,
            by simpa using next, ⟨two, by omega⟩, by omega⟩
        · simp only [won, ↓reduceIte]
          obtain ⟨na', nb', how, s', ran, placed', ends, fewer⟩ := straight_run setup mg fuel na
            (nb - 1) 0 (bcount + 1) { s with keys := s.keys.set! (m.dest na nb) y }
            (by simpa using next) two (by omega) (by omega)
          exact ⟨na', nb', how, s', ran, placed', ends, by omega⟩
    | false =>
      have next := placed.placeLeft setup leftSplit (by simpa [rightSplit] using yFirst)
      simp only [Bool.false_eq_true, ↓reduceIte, StateT.run_bind, put_run, pure_bind]
      by_cases last : na - 1 = 1
      · simp only [last, BEq.rfl, ↓reduceIte, StateT.run_pure]
        exact ⟨1, nb, some .oneLeft, _, rfl, by simpa [last] using next, rfl, by omega⟩
      · have goesOn : (na - 1 == 1) = false := by simpa using last
        simp only [goesOn, Bool.false_eq_true, ↓reduceIte]
        by_cases won : acount + 1 ≥ mg
        · simp only [won, ↓reduceIte, StateT.run_pure]
          exact ⟨na - 1, nb, none, { s with keys := s.keys.set! (m.dest na nb) x }, rfl,
            by simpa using next, ⟨by omega, one⟩, by omega⟩
        · simp only [won, ↓reduceIte]
          obtain ⟨na', nb', how, s', ran, placed', ends, fewer⟩ := straight_run setup mg fuel
            (na - 1) nb (acount + 1) 0 { s with keys := s.keys.set! (m.dest na nb) x }
            (by simpa using next) (by omega) one (by omega)
          exact ⟨na', nb', how, s', ran, placed', ends, by omega⟩

/-- Galloping: each round copies a stretch of the left run, one item of the right run, a
stretch of the right run and one item of the left run, keeping the layout. -/
theorem gallop_run (setup : Setup m lt before pre right) :
    ∀ (fuel na nb mg : Nat) (s : Sorter α),
      Placed m before pre right post na nb s.keys.toList → 2 ≤ na → 1 ≤ nb → na + nb ≤ fuel →
      ∃ na' nb' mg' how s', (m.gallop lt fuel na nb mg).run s =
          pure ((na', nb', mg', how), s') ∧
        Placed m before pre right post na' nb' s'.keys.toList ∧ Ends na' nb' how ∧
        na' + nb' < na + nb
  | 0, na, nb, _, s, _, two, _, enough => by omega
  | fuel + 1, na, nb, mg, s, placed, two, one, enough => by
    -- the left run's items that go before the right run's next item are copied at once
    obtain ⟨y, ys, rightSplit, atRight⟩ := placed.right_head setup one
    obtain ⟨k, found, atMost, taken, nextLeft⟩ := gallopRight_leftRest setup placed.leftLe
      (by omega) (rightRest_mem (show y ∈ m.rightRest right nb by simp [rightSplit]))
    have copied := placed.copyLeft setup atMost fun x member y' first => by
      rw [rightSplit] at first
      cases first
      exact taken x member
    have room := placed.fits setup
    simp only [Array.length_toList] at room
    simp only [gallop, StateT.run_bind, StateT.run_modify, pure_bind, at_run, atRight, found,
      liftE_run]
    generalize hs0 : ({ s with minGallop := if mg > 1 then mg - 1 else mg } : Sorter α) = s0
    have keys0 : s0.keys = s.keys := by rw [← hs0]
    obtain ⟨s1, ran1, keys1⟩ := copyIn_spec (ε := ε) m.tmp (m.pa na) (m.dest na nb) k s0
      (by have := setup.leftCount; have := placed.leftLe; simp only [pa]; omega)
      (by rw [keys0]; omega)
    have copied : Placed m before pre right post (na - k) nb s1.keys.toList := by
      rw [keys1, keys0]
      exact copied
    simp only [ran1, pure_bind]
    by_cases oneLeftEarly : 0 < k ∧ na - k = 1
    · rw [if_pos (by simpa using oneLeftEarly), StateT.run_pure]
      exact ⟨_, _, _, _, _, rfl, copied, oneLeftEarly.2, by omega⟩
    rw [if_neg (by simpa using oneLeftEarly)]
    by_cases doneEarly : 0 < k ∧ na - k = 0
    · rw [if_pos (by simpa using doneEarly), StateT.run_pure]
      exact ⟨_, _, _, _, _, rfl, copied, Or.inl doneEarly.2, by omega⟩
    rw [if_neg (by simpa using doneEarly)]
    have many : 2 ≤ na - k := by omega
    -- the right run's next item goes before the left run's next item
    obtain ⟨y', ys', rightSplit', atRight'⟩ := copied.right_head setup one
    cases rightSplit.symm.trans rightSplit'
    obtain ⟨x, xs, leftSplit, atLeft⟩ := leftRest_head setup (Nat.le_trans (Nat.sub_le na k)
      placed.leftLe) (by omega : 1 ≤ na - k)
    have yBefore : before y x = true :=
      nextLeft x (by rw [← leftRest_sub placed.leftLe atMost, leftSplit]; simp)
    obtain ⟨s2, ran2, keys2⟩ := put_spec (ε := ε) s1 (m.dest (na - k) nb) y
    have placedRight : Placed m before pre right post (na - k) (nb - 1) s2.keys.toList := by
      rw [keys2]
      exact copied.placeRight setup rightSplit (by simp [leftSplit, yBefore])
    simp only [StateT.run_bind, at_run, atRight', ran2, pure_bind]
    by_cases gone : nb - 1 = 0
    · rw [if_pos (by simpa using gone), StateT.run_pure]
      exact ⟨_, _, _, _, _, rfl, placedRight, Or.inr gone, by omega⟩
    rw [if_neg (by simpa using gone)]
    -- the right run's items that go before the left run's next item are moved at once
    obtain ⟨k2, found2, atMost2, taken2, nextRight⟩ := placedRight.gallopLeft_rightRest setup
      (by omega) (leftRest_mem (show x ∈ m.leftRest (na - k) by simp [leftSplit]))
    have room2 := placedRight.fits setup
    simp only [Array.length_toList] at room2
    obtain ⟨s3, ran3, keys3⟩ := moveWithin_spec (ε := ε) s2 (m.pb (nb - 1))
      (m.dest (na - k) (nb - 1)) k2 (by omega) (by omega)
    have moved : Placed m before pre right post (na - k) (nb - 1 - k2) s3.keys.toList := by
      rw [keys3, placedRight.take_right setup atMost2]
      exact placedRight.moveRight setup atMost2 fun y' member x' first => by
        rw [leftSplit] at first
        cases first
        exact taken2 y' member
    simp only [StateT.run_bind, StateT.run_get, atLeft, found2, liftE_run, ran3, pure_bind]
    by_cases doneRight : 0 < k2 ∧ nb - 1 - k2 = 0
    · rw [if_pos (by simpa using doneRight), StateT.run_pure]
      exact ⟨_, _, _, _, _, rfl, moved, Or.inr doneRight.2, by omega⟩
    rw [if_neg (by simpa using doneRight)]
    -- then the left run's next item
    have xAfter : ∀ y' ∈ (m.rightRest right (nb - 1 - k2)).head?, before y' x = false := by
      rw [rightRest_sub placedRight.rightLe atMost2]
      exact nextRight
    obtain ⟨s4, ran4, keys4⟩ := put_spec (ε := ε) s3 (m.dest (na - k) (nb - 1 - k2)) x
    have placedLeft : Placed m before pre right post (na - k - 1) (nb - 1 - k2) s4.keys.toList := by
      rw [keys4]
      exact moved.placeLeft setup leftSplit xAfter
    simp only [StateT.run_bind, ran4, pure_bind]
    by_cases lastOne : na - k - 1 = 1
    · rw [if_pos (by simpa using lastOne), StateT.run_pure]
      exact ⟨_, _, _, _, _, rfl, placedLeft, lastOne, by omega⟩
    rw [if_neg (by simpa using lastOne)]
    by_cases keepOn : k ≥ minGallopStart ∨ k2 ≥ minGallopStart
    · rw [if_pos (by simpa using keepOn)]
      obtain ⟨na', nb', mg', how, s', ran, placed', ends, fewer⟩ := gallop_run setup fuel
        (na - k - 1) (nb - 1 - k2) (if mg > 1 then mg - 1 else mg) s4 placedLeft (by omega)
        (by omega) (by omega)
      exact ⟨na', nb', mg', how, s', ran, placed', ends, by omega⟩
    · rw [if_neg (by simpa using keepOn), StateT.run_pure]
      exact ⟨_, _, _, _, _, rfl, placedLeft, ⟨by omega, by omega⟩, by omega⟩

/-- The whole merge: phases of one item at a time and of galloping until one ends it. -/
theorem run_run (setup : Setup m lt before pre right) :
    ∀ (fuel na nb mg : Nat) (s : Sorter α),
      Placed m before pre right post na nb s.keys.toList → 2 ≤ na → 1 ≤ nb → na + nb ≤ fuel →
      ∃ s', (m.run lt fuel na nb mg).run s = pure ((), s') ∧
        s'.keys.toList = pre ++ m.tmp.toList.merge right (noLater before) ++ post
  | 0, na, nb, _, s, _, two, _, enough => by omega
  | fuel + 1, na, nb, mg, s, placed, two, one, enough => by
    obtain ⟨na1, nb1, how1, s1, ran1, placed1, ends1, fewer1⟩ :=
      straight_run setup mg (na + nb + 1) na nb 0 0 s placed two one (by omega)
    simp only [run, StateT.run_bind, ran1, pure_bind]
    cases how1 with
    | some how => exact ⟨_, finish_run setup placed1 ends1, by simp⟩
    | none =>
      obtain ⟨two1, one1⟩ := ends1
      obtain ⟨na2, nb2, mg2, how2, s2, ran2, placed2, ends2, fewer2⟩ :=
        gallop_run setup (na1 + nb1 + 1) na1 nb1 (mg + 1) s1 placed1 two1 one1 (by omega)
      simp only [StateT.run_bind, ran2, pure_bind]
      cases how2 with
      | some how => exact ⟨_, finish_run setup placed2 ends2, by simp⟩
      | none =>
        obtain ⟨two2, one2⟩ := ends2
        simp only [StateT.run_bind, StateT.run_modify, pure_bind]
        exact run_run setup fuel na2 nb2 (mg2 + 1) _ placed2 two2 one2 (by omega)

end Finish

end LoMerge

theorem mergeLo_run [Inhabited α] {lt : α → α → Except ε Bool} {before : α → α → Bool}
    {pre left right post : List α} {s : Sorter α} (ready : Mergeable lt before left right)
    (leftOne : 1 ≤ left.length) (rightOne : 1 ≤ right.length)
    (layout : s.keys.toList = pre ++ left ++ right ++ post) :
    ∃ s', (mergeLo lt pre.length left.length right.length).run s = pure ((), s') ∧
      s'.keys.toList = pre ++ left.merge right (noLater before) ++ post := by
  obtain ⟨y, ys, rightSplit⟩ := List.exists_cons_of_length_pos rightOne
  have tmpIs : (s.keys.extract pre.length (pre.length + left.length)).toList = left := by
    simp [Array.toList_extract, layout, List.extract]
  have atRight : s.keys.getD (pre.length + left.length) default = y := by
    rw [getD_toList, layout, show pre.length + left.length = (pre ++ left).length + 0 by simp,
      getD_middle _ _ _ _ _ rightOne]
    simp [rightSplit]
  simp only [mergeLo, StateT.run_bind, StateT.run_get, pure_bind, at_run, atRight]
  generalize hm : (⟨s.keys.extract pre.length (pre.length + left.length), pre.length,
    left.length, right.length⟩ : LoMerge α) = m
  obtain ⟨tmpIs, base, leftCount, rightCount⟩ : m.tmp.toList = left ∧ m.aBase = pre.length ∧
      m.naOrig = left.length ∧ m.nbOrig = right.length := by
    subst hm
    exact ⟨tmpIs, rfl, rfl, rfl⟩
  have setup : LoMerge.Setup m lt before pre right :=
    ⟨tmpIs ▸ ready, base, by rw [← Array.length_toList, tmpIs, leftCount], rightCount⟩
  -- the right run's first item goes first
  obtain ⟨s1, ran1, keys1⟩ := put_spec (ε := ε) s pre.length y
  have placed : LoMerge.Placed m before pre right post left.length (right.length - 1)
      s1.keys.toList := by
    have start : LoMerge.Placed m before pre right post m.naOrig m.nbOrig
        (pre ++ m.tmp.toList ++ right ++ post) := LoMerge.placed_start setup
    have first := start.placeRight setup
      (show m.rightRest right m.nbOrig = y :: ys by simp [LoMerge.rightRest, rightSplit])
      (by simpa [LoMerge.leftRest, tmpIs] using ready.firstRight y (by simp [rightSplit]))
    rw [tmpIs, leftCount, rightCount] at first
    rw [keys1, layout]
    simpa [LoMerge.dest, base, leftCount, rightCount] using first
  simp only [ran1, pure_bind]
  by_cases single : right.length - 1 = 0
  · rw [if_pos (by simpa using single)]
    exact ⟨_, LoMerge.finish_run setup placed (Or.inr single), by simp [tmpIs]⟩
  rw [if_neg (by simpa using single)]
  by_cases last : left.length = 1
  · rw [if_pos (by simpa using last)]
    exact ⟨_, LoMerge.finish_run setup placed last, by simp [tmpIs]⟩
  rw [if_neg (by simpa using last)]
  simp only [StateT.run_bind, StateT.run_get, pure_bind]
  rw [show left.merge right (noLater before) = m.tmp.toList.merge right (noLater before) by
    rw [tmpIs]]
  exact LoMerge.run_run setup _ _ _ _ s1 placed (by omega) (by omega) (by omega)

end Storefront.Sorting
