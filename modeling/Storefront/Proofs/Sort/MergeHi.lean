import Storefront.Proofs.Sort.MergeLo

/-!
# Merging from the right

A merge from the right sets the right run aside and fills the stretch of both runs from its
end. It is the mirror of the merge from the left: while the first `na` items of the left run
and the first `nb` of the right run are still to place, the left run's items are where they
were, followed by one free slot for each right item still to place and by the merged output
so far. Each step takes the larger of the two last items, and a stretch that goes last is
placed at once; `List.merge` of the two runs is reached through its suffix lemmas.
-/

namespace Storefront.Sorting

namespace HiMerge

variable {ε α : Type}

/-- What a merge from the right relies on throughout: the right run set aside in `tmp`, ready
to be merged with the left run `left` in place after `pre`. -/
structure Setup (m : HiMerge α) (lt : α → α → Except ε Bool) (before : α → α → Bool)
    (pre left : List α) : Prop where
  ready : Mergeable lt before left m.tmp.toList
  base : m.aBase = pre.length

/-- The sorter's items while the first `na` items of the left run and the first `nb` of the
right run are still to place: the left ones where they were, one slot for each right one,
then the merged output so far. -/
structure Placed (m : HiMerge α) (before : α → α → Bool) (pre left post : List α)
    (na nb : Nat) (keys : List α) : Prop where
  leftLe : na ≤ left.length
  rightLe : nb ≤ m.tmp.size
  layout : ∃ gap out, keys = pre ++ left.take na ++ gap ++ out ++ post ∧ gap.length = nb ∧
    (left.take na).merge (m.tmp.toList.take nb) (noLater before) ++ out =
      left.merge m.tmp.toList (noLater before)

variable {m : HiMerge α} {lt : α → α → Except ε Bool} {before : α → α → Bool}
  {pre left post : List α}

/-- Before the merge nothing is placed: the right run's slots still hold its items. -/
theorem placed_start :
    Placed m before pre left post left.length m.tmp.size (pre ++ left ++ m.tmp.toList ++ post) :=
  ⟨Nat.le_refl _, Nat.le_refl _, m.tmp.toList, [], by simp, by simp,
    by simp [List.take_of_length_le]⟩

/-- Once the right run is used up, the items are merged. -/
theorem Placed.right_done {na : Nat} {keys : List α}
    (placed : Placed m before pre left post na 0 keys) :
    keys = pre ++ left.merge m.tmp.toList (noLater before) ++ post := by
  obtain ⟨gap, out, rfl, count, merged⟩ := placed.layout
  rw [List.eq_nil_of_length_eq_zero count, ← merged]
  simp

/-- The left run's items still to place are read where they were. -/
theorem Placed.getD_left [Inhabited α] (setup : Setup m lt before pre left) {na nb i : Nat}
    {keys : List α} (placed : Placed m before pre left post na nb keys) (below : i < na) :
    keys.getD (m.aBase + i) default = left.getD i default := by
  obtain ⟨gap, out, rfl, _⟩ := placed.layout
  have := placed.leftLe
  rw [setup.base, show pre ++ left.take na ++ gap ++ out ++ post =
      pre ++ left.take na ++ (gap ++ out ++ post) by simp,
    getD_middle _ _ _ _ _ (by simp; omega), getD_take _ below]

/-- The last `k` of the left run's items still to place, read where they are. -/
theorem Placed.take_left (setup : Setup m lt before pre left) {na nb k : Nat} {keys : List α}
    (placed : Placed m before pre left post na nb keys) (atMost : k ≤ na) :
    (keys.drop (m.aBase + na - k)).take k = (left.take na).drop (na - k) := by
  obtain ⟨gap, out, rfl, _⟩ := placed.layout
  have := placed.leftLe
  have split := take_split left atMost
  have length : ((left.take na).drop (na - k)).length = k := by simp; omega
  generalize (left.take na).drop (na - k) = moved at split length ⊢
  rw [setup.base, split, show pre.length + na - k = (pre ++ left.take (na - k)).length by
      simp; omega]
  simp [length]

/-- The left run's items still to place and the slots lie inside the items. -/
theorem Placed.spots_size (setup : Setup m lt before pre left) {na nb : Nat} {keys : Array α}
    (placed : Placed m before pre left post na nb keys.toList) :
    m.aBase + na + nb ≤ keys.size := by
  obtain ⟨gap, out, layout, count, _⟩ := placed.layout
  have := placed.leftLe
  rw [← Array.length_toList, layout, setup.base]
  simp
  omega

/-! ## One placement at a time -/

-- The left run's last item still to place goes last when every right item still to place
-- goes before it.
theorem Placed.placeLeft [Inhabited α] (setup : Setup m lt before pre left) {na nb : Nat}
    {keys : List α} (placed : Placed m before pre left post na nb keys) (one : 1 ≤ na)
    (after : ∀ y ∈ m.tmp.toList.take nb, before y (left.getD (na - 1) default) = true) :
    Placed m before pre left post (na - 1) nb
      (keys.set (m.dest na nb) (left.getD (na - 1) default)) := by
  obtain ⟨gap, out, rfl, count, merged⟩ := placed.layout
  have le := placed.leftLe
  have split := take_pred_append left one le
  have slot : m.dest na nb = (pre ++ left.take (na - 1)).length + ((1 + gap.length) - 1) := by
    simp [dest, setup.base]
    omega
  generalize left.getD (na - 1) default = a at split after ⊢
  refine ⟨by omega, placed.rightLe, (a :: gap).dropLast, a :: out, ?_, by simp; omega, ?_⟩
  · rw [split, slot, show pre ++ (left.take (na - 1) ++ [a]) ++ gap ++ out ++ post =
        (pre ++ left.take (na - 1)) ++ (a :: gap) ++ (out ++ post) by simp,
      show 1 + gap.length = (a :: gap).length by simp; omega, set_last _ _ _ _ (by simp)]
    simp
  · rw [← merged, split, merge_left_suffix [a] _ _ fun z atA y member => by
      rw [List.mem_singleton.mp atA]
      exact after y member]
    simp

-- The right run's last item still to place goes last when it goes before no left item still
-- to place.
theorem Placed.placeRight [Inhabited α] (setup : Setup m lt before pre left) {na nb : Nat}
    {keys : List α} (placed : Placed m before pre left post na nb keys) (one : 1 ≤ nb)
    (after : ∀ x ∈ left.take na, before (m.tmp.getD (nb - 1) default) x = false) :
    Placed m before pre left post na (nb - 1)
      (keys.set (m.dest na nb) (m.tmp.getD (nb - 1) default)) := by
  obtain ⟨gap, out, rfl, count, merged⟩ := placed.layout
  have le := placed.leftLe
  have rightLe := placed.rightLe
  have split := take_pred_append m.tmp.toList one (by simpa using rightLe)
  have slot : m.dest na nb = (pre ++ left.take na).length + (gap.length - 1) := by
    simp [dest, setup.base]
    omega
  rw [getD_toList] at after ⊢
  generalize m.tmp.toList.getD (nb - 1) default = b at split after ⊢
  refine ⟨le, by omega, gap.dropLast, b :: out, ?_, by simp; omega, ?_⟩
  · rw [slot, show pre ++ left.take na ++ gap ++ out ++ post =
        (pre ++ left.take na) ++ gap ++ (out ++ post) by simp,
      set_last _ _ _ _ (List.ne_nil_of_length_pos (by omega))]
    simp
  · rw [← merged, split, merge_right_suffix [b] _ _ fun x member z atB => by
      rw [List.mem_singleton.mp atB]
      exact after x member]
    simp

-- A stretch at the end of the left run's items still to place that every right item still
-- to place goes before is moved to the end of the slots at once.
theorem Placed.moveLeft (setup : Setup m lt before pre left) {na nb k : Nat} {keys : List α}
    (placed : Placed m before pre left post na nb keys) (atMost : k ≤ na)
    (after : ∀ x ∈ (left.take na).drop (na - k), ∀ y ∈ m.tmp.toList.take nb,
      before y x = true) :
    Placed m before pre left post (na - k) nb
      (overwrite keys (m.aBase + na + nb - k) ((left.take na).drop (na - k))) := by
  obtain ⟨gap, out, rfl, count, merged⟩ := placed.layout
  have le := placed.leftLe
  have split := take_split left atMost
  have length : ((left.take na).drop (na - k)).length = k := by simp; omega
  generalize (left.take na).drop (na - k) = moved at split after length ⊢
  refine ⟨by omega, placed.rightLe, (moved ++ gap).take nb, moved ++ out, ?_, by simp; omega,
    ?_⟩
  · have slot : m.aBase + na + nb - k =
        (pre ++ left.take (na - k)).length + ((moved ++ gap).length - moved.length) := by
      simp [setup.base]
      omega
    rw [split, slot, show pre ++ (left.take (na - k) ++ moved) ++ gap ++ out ++ post =
        (pre ++ left.take (na - k)) ++ (moved ++ gap) ++ (out ++ post) by simp,
      overwrite_end _ _ _ _ (by simp)]
    simp [length, count]
  · rw [← merged, split, merge_left_suffix moved _ _ after]
    simp

-- A stretch at the end of the right run's items still to place that goes before no left item
-- still to place is copied to the end of the slots at once.
theorem Placed.copyRight (setup : Setup m lt before pre left) {na nb k : Nat} {keys : List α}
    (placed : Placed m before pre left post na nb keys) (atMost : k ≤ nb)
    (after : ∀ z ∈ (m.tmp.toList.take nb).drop (nb - k), ∀ x ∈ left.take na,
      before z x = false) :
    Placed m before pre left post na (nb - k)
      (overwrite keys (m.aBase + na + nb - k) ((m.tmp.toList.take nb).drop (nb - k))) := by
  obtain ⟨gap, out, rfl, count, merged⟩ := placed.layout
  have le := placed.leftLe
  have rightLe := placed.rightLe
  have split := take_split m.tmp.toList atMost
  have length : ((m.tmp.toList.take nb).drop (nb - k)).length = k := by simp; omega
  generalize (m.tmp.toList.take nb).drop (nb - k) = copied at split after length ⊢
  refine ⟨le, by omega, gap.take (nb - k), copied ++ out, ?_, by simp; omega, ?_⟩
  · have slot : m.aBase + na + nb - k =
        (pre ++ left.take na).length + (gap.length - copied.length) := by
      simp [setup.base]
      omega
    rw [slot, show pre ++ left.take na ++ gap ++ out ++ post =
        (pre ++ left.take na) ++ gap ++ (out ++ post) by simp,
      overwrite_end _ _ _ _ (by omega)]
    simp [length, count]
  · rw [← merged, split, merge_right_suffix copied _ _ fun x member z inCopied =>
      after z inCopied x member]
    simp

/-! ## Reading and comparing the last items -/

theorem take_sorted (setup : Setup m lt before pre left) (na nb : Nat) :
    Sorted before (left.take na) ∧ Sorted before (m.tmp.toList.take nb) :=
  ⟨setup.ready.leftSorted.sublist (List.take_sublist _ _),
    setup.ready.rightSorted.sublist (List.take_sublist _ _)⟩

theorem getD_mem_left [Inhabited α] {i : Nat} (below : i < left.length) :
    left.getD i default ∈ left ++ m.tmp.toList := by
  rw [List.getD_eq_getElem?_getD, List.getElem?_eq_getElem below]
  exact List.mem_append_left _ (List.getElem_mem _)

theorem getD_mem_right [Inhabited α] {i : Nat} (below : i < m.tmp.size) :
    m.tmp.getD i default ∈ left ++ m.tmp.toList := by
  rw [getD_toList, List.getD_eq_getElem?_getD, List.getElem?_eq_getElem (by simpa using below)]
  exact List.mem_append_right _ (List.getElem_mem _)

/-- The right run's last item still to place goes before the left one's: then so do all the
right items still to place. -/
theorem right_all_before [Inhabited α] (setup : Setup m lt before pre left) {nb : Nat} {a : α}
    (one : 1 ≤ nb) (le : nb ≤ m.tmp.size) (first : before (m.tmp.getD (nb - 1) default) a = true) :
    ∀ y ∈ m.tmp.toList.take nb, before y a = true :=
  before_all_of_last setup.ready.order (take_sorted setup 0 nb).2 fun b last => by
    rw [take_getLast? _ one (by simpa using le), ← getD_toList] at last
    cases last
    exact first

/-- An item that does not go before the left run's last item still to place goes before none
of the left items still to place. -/
theorem left_none_after [Inhabited α] (setup : Setup m lt before pre left) {na : Nat} {b : α}
    (one : 1 ≤ na) (le : na ≤ left.length) (first : before b (left.getD (na - 1) default) = false) :
    ∀ x ∈ left.take na, before b x = false :=
  notBefore_all_of_last setup.ready.order (take_sorted setup na 0).1 fun a last => by
    rw [take_getLast? _ one le] at last
    cases last
    exact first

/-! ## Galloping over the runs -/

/-- Galloping over the left run's items still to place splits them into those an item does
not go before and those it goes before. -/
theorem Placed.gallopRight_left [Inhabited α] (setup : Setup m lt before pre left) {na nb : Nat}
    {keys : Array α} (placed : Placed m before pre left post na nb keys.toList) (one : 1 ≤ na)
    {y : α} (yIn : y ∈ left ++ m.tmp.toList) :
    ∃ r, gallopRight lt y keys m.aBase na (na - 1) = pure r ∧ r ≤ na ∧
      (∀ x ∈ (left.take na).take r, before y x = false) ∧
      ∀ x ∈ (left.take na).drop r, before y x = true := by
  have length : (left.take na).length = na := by have := placed.leftLe; simp; omega
  have reads : ∀ i, i < na → lt y (keys.getD (m.aBase + i) default) =
      pure (!(!before y ((left.take na).getD i default))) := fun i below => by
    rw [getD_toList, placed.getD_left setup below, Bool.not_not, getD_take _ below]
    exact setup.ready.decides _ _ yIn (getD_mem_left (by have := placed.leftLe; omega))
  have closed : PrefixClosed (fun i => !before y ((left.take na).getD i default)) 0 na := by
    have := prefixClosed_of_sorted (p := fun x => !before y x) (take_sorted setup na 0).1
      fun a b ordered passes => by
        simp only [Bool.not_eq_eq_eq_not, Bool.not_true] at passes ⊢
        exact setup.ready.order.notBefore_trans passes (by simpa using ordered)
    rwa [length] at this
  obtain ⟨r, found, bound⟩ := gallopRight_boundary reads closed (show na - 1 < na by omega)
  have bound : Boundary (fun i => !before y ((left.take na).getD i default)) 0
      (left.take na).length r := by rwa [length]
  refine ⟨r, found, length ▸ bound.2.1, fun x member => ?_, fun x member => ?_⟩
  · simpa using bound.taken (p := fun x => !before y x) x member
  · simpa using bound.dropped (p := fun x => !before y x) x member

/-- Galloping over the right run's items still to place splits them into those that go
before an item and those that do not. -/
theorem gallopLeft_right [Inhabited α] (setup : Setup m lt before pre left) {nb : Nat}
    (le : nb ≤ m.tmp.size) (one : 1 ≤ nb) {x : α} (xIn : x ∈ left ++ m.tmp.toList) :
    ∃ r, gallopLeft lt x m.tmp 0 nb (nb - 1) = pure r ∧ r ≤ nb ∧
      (∀ y ∈ (m.tmp.toList.take nb).take r, before y x = true) ∧
      ∀ y ∈ (m.tmp.toList.take nb).drop r, before y x = false := by
  have length : (m.tmp.toList.take nb).length = nb := by simp; omega
  have reads : ∀ i, i < nb → lt (m.tmp.getD (0 + i) default) x =
      pure (before ((m.tmp.toList.take nb).getD i default) x) := fun i below => by
    rw [Nat.zero_add, getD_take _ below, ← getD_toList]
    exact setup.ready.decides _ _ (getD_mem_right (by omega)) xIn
  have closed : PrefixClosed (fun i => before ((m.tmp.toList.take nb).getD i default) x) 0 nb := by
    have := prefixClosed_of_sorted (p := fun y => before y x) (take_sorted setup 0 nb).2
      fun a b ordered passes =>
        setup.ready.order.before_of_noLater_of_before (by simpa using ordered) passes
    rwa [length] at this
  obtain ⟨r, found, bound⟩ := gallopLeft_boundary reads closed (show nb - 1 < nb by omega)
  have bound : Boundary (fun i => before ((m.tmp.toList.take nb).getD i default) x) 0
      (m.tmp.toList.take nb).length r := by rwa [length]
  exact ⟨r, found, length ▸ bound.2.1, bound.taken (p := fun y => before y x),
    bound.dropped (p := fun y => before y x)⟩

/-- How a phase of the merge from the right may end: with a run used up, with one item of the
right run left, or with enough of both runs left to go on. -/
def Ends (na nb : Nat) : Option MergeEnd → Prop
  | some .done => na = 0 ∨ nb = 0
  | some .oneLeft => nb = 1
  | none => 1 ≤ na ∧ 2 ≤ nb

section Finish

variable [Inhabited α]

theorem finish_run (setup : Setup m lt before pre left) {na nb : Nat} {how : MergeEnd}
    {s : Sorter α} (placed : Placed m before pre left post na nb s.keys.toList)
    (ends : Ends na nb (some how)) :
    (m.finish (M := Except ε) na nb how).run s =
      pure ((), { s with keys :=
        (pre ++ left.merge m.tmp.toList (noLater before) ++ post).toArray }) := by
  obtain ⟨gap, out, layout, count, _⟩ := placed.layout
  have leftLe := placed.leftLe
  have rightLe := placed.rightLe
  have size : s.keys.size = pre.length + na + nb + out.length + post.length := by
    rw [← Array.length_toList, layout]
    simp
    omega
  have base := setup.base
  cases how with
  | done =>
    -- the rest of the right run is copied into the slots
    have ends : na = 0 ∨ nb = 0 := ends
    have copied := placed.copyRight setup (Nat.le_refl nb) fun z inCopied x member => by
      rcases ends with gone | gone
      · subst gone
        simp at member
      · subst gone
        simp at inCopied
    rw [Nat.sub_self, Nat.add_sub_cancel, List.drop_zero] at copied
    simp only [finish]
    rw [copyIn_run _ _ _ _ _ (by simp; omega) (by omega), List.drop_zero, copied.right_done]
  | oneLeft =>
    -- the left run moves up by one to make room for the right run's first item
    have ends : nb = 1 := ends
    subst ends
    have first : ∀ x ∈ left.take na, ∀ y ∈ m.tmp.toList.take 1, before y x = true := by
      intro x member y inFirst
      rw [List.take_one] at inFirst
      exact before_all_of_head setup.ready.order setup.ready.leftSorted
        (setup.ready.firstRight y (by simpa using inFirst)) x (List.mem_of_mem_take member)
    have moved := placed.moveLeft setup (Nat.le_refl na) (by simpa using first)
    rw [Nat.sub_self, List.drop_zero, show m.aBase + na + 1 - na = m.aBase + 1 by omega]
      at moved
    have placedLast := moved.placeRight setup (Nat.le_refl 1) (by simp)
    simp only [finish, StateT.run_bind]
    rw [moveWithin_run _ _ _ _ (by omega) (by omega)]
    simp only [pure_bind, put_run]
    have taken := placed.take_left setup (Nat.le_refl na)
    rw [Nat.sub_self, List.drop_zero, Nat.add_sub_cancel] at taken
    rw [show m.dest 0 1 = m.aBase by simp [dest]] at placedLast
    rw [taken, ← placedLast.right_done]
    simp

/-- One item at a time from the right: each step places the larger last item, so the layout is
kept and the counts left only go down. -/
theorem straight_run (setup : Setup m lt before pre left) (mg : Nat) :
    ∀ (fuel na nb acount bcount : Nat) (s : Sorter α),
      Placed m before pre left post na nb s.keys.toList → 1 ≤ na → 2 ≤ nb → na + nb ≤ fuel →
      ∃ na' nb' how s', (m.straight lt mg fuel na nb acount bcount).run s =
          pure ((na', nb', how), s') ∧
        Placed m before pre left post na' nb' s'.keys.toList ∧ Ends na' nb' how ∧
        na' + nb' < na + nb
  | 0, na, nb, _, _, s, _, one, _, enough => by omega
  | fuel + 1, na, nb, acount, bcount, s, placed, one, two, enough => by
    have leftLe := placed.leftLe
    have rightLe := placed.rightLe
    have atLeft : s.keys.getD (m.pa na) default = left.getD (na - 1) default := by
      rw [getD_toList, show m.pa na = m.aBase + (na - 1) by simp [pa]; omega,
        placed.getD_left setup (by omega)]
    have compared : lt (m.tmp.getD (nb - 1) default) (left.getD (na - 1) default) =
        pure (before (m.tmp.getD (nb - 1) default) (left.getD (na - 1) default)) :=
      setup.ready.decides _ _ (getD_mem_right (by omega)) (getD_mem_left (by omega))
    simp only [straight, StateT.run_bind, at_run, atLeft, compared, liftE_run, pure_bind]
    cases bFirst : before (m.tmp.getD (nb - 1) default) (left.getD (na - 1) default) with
    | true =>
      obtain ⟨s1, ran1, keys1⟩ := put_spec (ε := ε) s (m.dest na nb) (left.getD (na - 1) default)
      have next : Placed m before pre left post (na - 1) nb s1.keys.toList := by
        rw [keys1]
        exact placed.placeLeft setup one (right_all_before setup (by omega) rightLe bFirst)
      simp only [↓reduceIte, StateT.run_bind, ran1, pure_bind]
      by_cases gone : na - 1 = 0
      · rw [if_pos (by simpa using gone), StateT.run_pure]
        exact ⟨_, _, _, _, rfl, next, Or.inl gone, by omega⟩
      rw [if_neg (by simpa using gone)]
      by_cases won : acount + 1 ≥ mg
      · rw [if_pos won, StateT.run_pure]
        exact ⟨_, _, _, _, rfl, next, ⟨by omega, two⟩, by omega⟩
      rw [if_neg won]
      obtain ⟨na', nb', how, s', ran, placed', ends, fewer⟩ := straight_run setup mg fuel
        (na - 1) nb (acount + 1) 0 s1 next (by omega) two (by omega)
      exact ⟨na', nb', how, s', ran, placed', ends, by omega⟩
    | false =>
      obtain ⟨s1, ran1, keys1⟩ := put_spec (ε := ε) s (m.dest na nb) (m.tmp.getD (nb - 1) default)
      have next : Placed m before pre left post na (nb - 1) s1.keys.toList := by
        rw [keys1]
        exact placed.placeRight setup (by omega) (left_none_after setup one leftLe bFirst)
      simp only [Bool.false_eq_true, ↓reduceIte, StateT.run_bind, ran1, pure_bind]
      by_cases last : nb - 1 = 1
      · rw [if_pos (by simpa using last), StateT.run_pure]
        exact ⟨_, _, _, _, rfl, next, last, by omega⟩
      rw [if_neg (by simpa using last)]
      by_cases won : bcount + 1 ≥ mg
      · rw [if_pos won, StateT.run_pure]
        exact ⟨_, _, _, _, rfl, next, ⟨one, by omega⟩, by omega⟩
      rw [if_neg won]
      obtain ⟨na', nb', how, s', ran, placed', ends, fewer⟩ := straight_run setup mg fuel
        na (nb - 1) 0 (bcount + 1) s1 next one (by omega) (by omega)
      exact ⟨na', nb', how, s', ran, placed', ends, by omega⟩

/-- Galloping from the right: each round moves a stretch of the left run, places one item of
the right run, copies a stretch of the right run and places one item of the left run, keeping
the layout. -/
theorem gallop_run (setup : Setup m lt before pre left) :
    ∀ (fuel na nb mg : Nat) (s : Sorter α),
      Placed m before pre left post na nb s.keys.toList → 1 ≤ na → 2 ≤ nb → na + nb ≤ fuel →
      ∃ na' nb' mg' how s', (m.gallop lt fuel na nb mg).run s =
          pure ((na', nb', mg', how), s') ∧
        Placed m before pre left post na' nb' s'.keys.toList ∧ Ends na' nb' how ∧
        na' + nb' < na + nb
  | 0, na, nb, _, s, _, one, _, enough => by omega
  | fuel + 1, na, nb, mg, s, placed, one, two, enough => by
    have leftLe := placed.leftLe
    have rightLe := placed.rightLe
    -- the left run's items that go after the right run's last item are moved at once
    obtain ⟨r, found, atMost, taken, dropped⟩ := placed.gallopRight_left setup one
      (show m.tmp.getD (nb - 1) default ∈ left ++ m.tmp.toList from getD_mem_right (by omega))
    have kept : na - (na - r) = r := by omega
    simp only [gallop, StateT.run_bind, StateT.run_modify, StateT.run_get, pure_bind, found,
      liftE_run, kept]
    generalize hs0 : ({ s with minGallop := if mg > 1 then mg - 1 else mg } : Sorter α) = s0
    have placed : Placed m before pre left post na nb s0.keys.toList := by
      rw [← hs0]
      exact placed
    have slotsOf : ∀ k na nb, 1 ≤ na → m.dest na nb + 1 - k = m.aBase + na + nb - k := by
      intro k na nb one
      simp only [dest]
      omega
    have room := placed.spots_size setup
    obtain ⟨s1, ran1, keys1⟩ := moveWithin_spec (ε := ε) s0 (m.pa na + 1 - (na - r))
      (m.dest na nb + 1 - (na - r)) (na - r) (by simp only [pa]; omega)
      (by rw [slotsOf _ _ _ one]; omega)
    have moved : Placed m before pre left post r nb s1.keys.toList := by
      have next := placed.moveLeft setup (Nat.sub_le na r) fun x inMoved y member =>
        right_all_before setup (by omega) (by omega) (dropped x (by rwa [kept] at inMoved)) y
          member
      rw [kept] at next
      rw [keys1, show m.pa na + 1 - (na - r) = m.aBase + na - (na - r) by simp only [pa]; omega,
        placed.take_left setup (Nat.sub_le na r), slotsOf _ _ _ one, kept]
      exact next
    simp only [ran1, pure_bind]
    by_cases doneEarly : 0 < na - r ∧ r = 0
    · rw [if_pos (by simpa using doneEarly), StateT.run_pure]
      exact ⟨_, _, _, _, _, rfl, moved, Or.inl doneEarly.2, by omega⟩
    rw [if_neg (by simpa using doneEarly)]
    have many : 1 ≤ r := by omega
    -- the right run's last item goes after the left run's items still to place
    obtain ⟨s2, ran2, keys2⟩ := put_spec (ε := ε) s1 (m.dest r nb) (m.tmp.getD (nb - 1) default)
    have placedRight : Placed m before pre left post r (nb - 1) s2.keys.toList := by
      rw [keys2]
      exact moved.placeRight setup (by omega) fun x member =>
        taken x (by rwa [List.take_take, Nat.min_eq_left atMost])
    simp only [StateT.run_bind, ran2, pure_bind]
    by_cases lastRight : nb - 1 = 1
    · rw [if_pos (by simpa using lastRight), StateT.run_pure]
      exact ⟨_, _, _, _, _, rfl, placedRight, lastRight, by omega⟩
    rw [if_neg (by simpa using lastRight)]
    -- the right run's items that go after the left run's last item still to place are copied
    have atLeft : s2.keys.getD (m.pa r) default = left.getD (r - 1) default := by
      rw [getD_toList, show m.pa r = m.aBase + (r - 1) by simp only [pa]; omega,
        placedRight.getD_left setup (by omega)]
    obtain ⟨r2, found2, atMost2, taken2, dropped2⟩ := gallopLeft_right setup
      (by omega : nb - 1 ≤ m.tmp.size) (by omega : 1 ≤ nb - 1)
      (getD_mem_left (m := m) (by omega : r - 1 < left.length))
    have kept2 : nb - 1 - (nb - 1 - r2) = r2 := by omega
    simp only [StateT.run_bind, at_run, atLeft, found2, liftE_run, pure_bind, kept2]
    have room2 := placedRight.spots_size setup
    obtain ⟨s3, ran3, keys3⟩ := copyIn_spec (ε := ε) m.tmp r2
      (m.dest r (nb - 1) + 1 - (nb - 1 - r2)) (nb - 1 - r2) s2 (by omega)
      (by rw [slotsOf _ _ _ many]; omega)
    have copied : Placed m before pre left post r r2 s3.keys.toList := by
      have next := placedRight.copyRight setup (Nat.sub_le (nb - 1) r2)
        fun z inCopied x member =>
          left_none_after setup many (by omega) (dropped2 z (by rwa [kept2] at inCopied)) x member
      rw [kept2] at next
      rw [keys3, slotsOf _ _ _ many, show (m.tmp.toList.drop r2).take (nb - 1 - r2) =
          (m.tmp.toList.take (nb - 1)).drop r2 by rw [List.drop_take]]
      exact next
    simp only [ran3, pure_bind]
    by_cases oneLeftRight : 0 < nb - 1 - r2 ∧ r2 = 1
    · rw [if_pos (by simpa using oneLeftRight), StateT.run_pure]
      exact ⟨_, _, _, _, _, rfl, copied, oneLeftRight.2, by omega⟩
    rw [if_neg (by simpa using oneLeftRight)]
    by_cases doneRight : 0 < nb - 1 - r2 ∧ r2 = 0
    · rw [if_pos (by simpa using doneRight), StateT.run_pure]
      exact ⟨_, _, _, _, _, rfl, copied, Or.inr doneRight.2, by omega⟩
    rw [if_neg (by simpa using doneRight)]
    have enoughRight : 2 ≤ r2 := by omega
    -- then the left run's last item still to place
    have atLeft : s3.keys.getD (m.pa r) default = left.getD (r - 1) default := by
      rw [getD_toList, show m.pa r = m.aBase + (r - 1) by simp only [pa]; omega,
        copied.getD_left setup (by omega)]
    obtain ⟨s4, ran4, keys4⟩ := put_spec (ε := ε) s3 (m.dest r r2) (left.getD (r - 1) default)
    have placedLeft : Placed m before pre left post (r - 1) r2 s4.keys.toList := by
      rw [keys4]
      exact copied.placeLeft setup many fun y member =>
        taken2 y (by rwa [List.take_take, Nat.min_eq_left atMost2])
    simp only [StateT.run_bind, at_run, atLeft, ran4, pure_bind]
    by_cases gone : r - 1 = 0
    · rw [if_pos (by simpa using gone), StateT.run_pure]
      exact ⟨_, _, _, _, _, rfl, placedLeft, Or.inl gone, by omega⟩
    rw [if_neg (by simpa using gone)]
    by_cases keepOn : na - r ≥ minGallopStart ∨ nb - 1 - r2 ≥ minGallopStart
    · rw [if_pos (by simpa using keepOn)]
      obtain ⟨na', nb', mg', how, s', ran, placed', ends, fewer⟩ := gallop_run setup fuel
        (r - 1) r2 (if mg > 1 then mg - 1 else mg) s4 placedLeft (by omega) enoughRight
        (by omega)
      exact ⟨na', nb', mg', how, s', ran, placed', ends, by omega⟩
    · rw [if_neg (by simpa using keepOn), StateT.run_pure]
      exact ⟨_, _, _, _, _, rfl, placedLeft, ⟨by omega, enoughRight⟩, by omega⟩

/-- The whole merge from the right: phases of one item at a time and of galloping until one
ends it. -/
theorem run_run (setup : Setup m lt before pre left) :
    ∀ (fuel na nb mg : Nat) (s : Sorter α),
      Placed m before pre left post na nb s.keys.toList → 1 ≤ na → 2 ≤ nb → na + nb ≤ fuel →
      ∃ s', (m.run lt fuel na nb mg).run s = pure ((), s') ∧
        s'.keys.toList = pre ++ left.merge m.tmp.toList (noLater before) ++ post
  | 0, na, nb, _, s, _, one, two, enough => by omega
  | fuel + 1, na, nb, mg, s, placed, one, two, enough => by
    obtain ⟨na1, nb1, how1, s1, ran1, placed1, ends1, fewer1⟩ :=
      straight_run setup mg (na + nb + 1) na nb 0 0 s placed one two (by omega)
    simp only [run, StateT.run_bind, ran1, pure_bind]
    cases how1 with
    | some how => exact ⟨_, finish_run setup placed1 ends1, by simp⟩
    | none =>
      obtain ⟨one1, two1⟩ := ends1
      obtain ⟨na2, nb2, mg2, how2, s2, ran2, placed2, ends2, fewer2⟩ :=
        gallop_run setup (na1 + nb1 + 1) na1 nb1 (mg + 1) s1 placed1 one1 two1 (by omega)
      simp only [StateT.run_bind, ran2, pure_bind]
      cases how2 with
      | some how => exact ⟨_, finish_run setup placed2 ends2, by simp⟩
      | none =>
        obtain ⟨one2, two2⟩ := ends2
        simp only [StateT.run_bind, StateT.run_modify, pure_bind]
        exact run_run setup fuel na2 nb2 (mg2 + 1) _ placed2 one2 two2 (by omega)

end Finish

end HiMerge

theorem mergeHi_run [Inhabited α] {lt : α → α → Except ε Bool} {before : α → α → Bool}
    {pre left right post : List α} {s : Sorter α} (ready : Mergeable lt before left right)
    (leftOne : 1 ≤ left.length) (rightOne : 1 ≤ right.length)
    (layout : s.keys.toList = pre ++ left ++ right ++ post) :
    ∃ s', (mergeHi lt pre.length left.length right.length).run s = pure ((), s') ∧
      s'.keys.toList = pre ++ left.merge right (noLater before) ++ post := by
  have tmpIs : (s.keys.extract (pre.length + left.length)
      (pre.length + left.length + right.length)).toList = right := by
    simp [Array.toList_extract, layout, List.extract]
  have atLeft : s.keys.getD (pre.length + left.length - 1) default =
      left.getD (left.length - 1) default := by
    rw [getD_toList, layout, show pre.length + left.length - 1 = pre.length + (left.length - 1)
      by omega, show pre ++ left ++ right ++ post = pre ++ left ++ (right ++ post) by simp,
      getD_middle _ _ _ _ _ (by omega)]
  simp only [mergeHi, StateT.run_bind, StateT.run_get, pure_bind]
  generalize hm : (⟨s.keys.extract (pre.length + left.length)
    (pre.length + left.length + right.length), pre.length⟩ : HiMerge α) = m
  obtain ⟨tmpIs, base⟩ : m.tmp.toList = right ∧ m.aBase = pre.length := by
    subst hm
    exact ⟨tmpIs, rfl⟩
  have setup : HiMerge.Setup m lt before pre left := ⟨tmpIs ▸ ready, base⟩
  have rightCount : m.tmp.size = right.length := by rw [← Array.length_toList, tmpIs]
  -- the left run's last item goes last
  obtain ⟨s1, ran1, keys1⟩ := put_spec (ε := ε) s (m.dest left.length right.length)
    (left.getD (left.length - 1) default)
  have placed : HiMerge.Placed m before pre left post (left.length - 1) right.length
      s1.keys.toList := by
    have start : HiMerge.Placed m before pre left post left.length m.tmp.size
        (pre ++ left ++ m.tmp.toList ++ post) := HiMerge.placed_start
    have first := start.placeLeft setup
      leftOne fun y member => ready.lastLeft y (by simpa [tmpIs] using List.mem_of_mem_take member)
        _ (by
          rw [Option.mem_def, ← take_getLast? left leftOne (Nat.le_refl _)]
          simp)
    rw [rightCount, tmpIs] at first
    rw [keys1, layout]
    exact first
  simp only [show m.pa left.length = pre.length + left.length - 1 by simp [HiMerge.pa, base],
    at_run, atLeft, ran1, pure_bind]
  by_cases single : left.length - 1 = 0
  · rw [if_pos (by simpa using single)]
    exact ⟨_, HiMerge.finish_run setup placed (Or.inl single), by simp [tmpIs]⟩
  rw [if_neg (by simpa using single)]
  by_cases last : right.length = 1
  · rw [if_pos (by simpa using last)]
    exact ⟨_, HiMerge.finish_run setup placed last, by simp [tmpIs]⟩
  rw [if_neg (by simpa using last)]
  simp only [StateT.run_bind, StateT.run_get, pure_bind]
  rw [show left.merge right (noLater before) = left.merge m.tmp.toList (noLater before) by
    rw [tmpIs]]
  exact HiMerge.run_run setup _ _ _ _ s1 placed (by omega) (by omega) (by omega)

end Storefront.Sorting
