import Storefront.Proofs.Sort.MergeHi

/-!
# Finding and preparing runs

Before anything is merged the items are cut into runs: the longest stretch from the current
position that never goes down, or that strictly goes down and is then reversed, lengthened to
the minimum run length by binary insertion. Each step leaves the items before and after the
stretch alone and turns the stretch into a sorted permutation of itself.
-/

namespace Storefront.Sorting

variable {ε α : Type} {lt : α → α → Except ε Bool} {before : α → α → Bool}

/-! ## Counting a run -/

/-- Each item of a stretch, after the first, compares with the one before it as `descending`
says: it goes strictly before it, or it does not. -/
def Stepwise (before : α → α → Bool) (descending : Bool) (seg : List α) : Prop :=
  seg.Pairwise fun a b => before b a = descending

theorem stepwise_of_adjacent [Inhabited α] (order : StrictWeakOrder before) (descending : Bool)
    (seg : List α) (adjacent : ∀ j, j + 1 < seg.length →
      before (seg.getD (j + 1) default) (seg.getD j default) = descending) :
    Stepwise before descending seg := by
  refine pairwise_of_adjacent (fun a b c ab bc => ?_) seg fun j below => ?_
  · cases descending with
    | false => exact order.noLater_trans ab bc
    | true => exact order.trans bc ab
  · have := adjacent j below
    simpa [List.getD_eq_getElem?_getD, List.getElem?_eq_getElem below,
      List.getElem?_eq_getElem (Nat.lt_of_succ_lt below)] using this

section Count

variable [Inhabited α] {s : Sorter α} {lo hi : Nat}

-- The run grows while each next item compares with the one before it as the first two did.
theorem countRun_go_run (decides : Decides lt before (· ∈ s.keys.toList)) (lo hi : Nat)
    (descending : Bool) (within : hi ≤ s.keys.size) :
    ∀ fuel n, 2 ≤ n → lo + n ≤ hi → hi ≤ lo + n + fuel →
      (∀ j, j + 1 < n → before (s.keys.getD (lo + j + 1) default)
        (s.keys.getD (lo + j) default) = descending) →
      ∃ n', (countRun.go lt lo hi descending fuel n).run s = pure (n', s) ∧ n ≤ n' ∧
        lo + n' ≤ hi ∧ ∀ j, j + 1 < n' → before (s.keys.getD (lo + j + 1) default)
          (s.keys.getD (lo + j) default) = descending
  | 0, n, _, fits, enough, adjacent => ⟨n, rfl, Nat.le_refl n, fits, adjacent⟩
  | fuel + 1, n, two, fits, enough, adjacent => by
    simp only [countRun.go]
    by_cases ended : lo + n ≥ hi
    · rw [if_pos ended]
      exact ⟨n, rfl, Nat.le_refl n, fits, adjacent⟩
    rw [if_neg ended]
    have reads : lt (s.keys.getD (lo + n) default) (s.keys.getD (lo + n - 1) default) =
        pure (before (s.keys.getD (lo + n) default) (s.keys.getD (lo + n - 1) default)) :=
      decides _ _ (by rw [getD_toList]; exact getD_mem (by simp; omega))
        (by rw [getD_toList]; exact getD_mem (by simp; omega))
    simp only [StateT.run_bind, at_run, reads, liftE_run, pure_bind]
    by_cases same : before (s.keys.getD (lo + n) default) (s.keys.getD (lo + n - 1) default) =
      descending
    · rw [if_pos (by simpa using same)]
      obtain ⟨n', ran, grew, fits', adjacent'⟩ := countRun_go_run decides lo hi descending within fuel
        (n + 1) (by omega) (by omega) (by omega) fun j below => by
          rcases Nat.lt_or_ge (j + 1) n with inside | last
          · exact adjacent j inside
          · rw [show lo + j + 1 = lo + n by omega, show lo + j = lo + n - 1 by omega]
            exact same
      exact ⟨n', ran, by omega, fits', adjacent'⟩
    · rw [if_neg (by simpa using same), StateT.run_pure]
      exact ⟨n, rfl, Nat.le_refl n, fits, adjacent⟩

/-- The run from `lo`: its length, at least one, and its direction. -/
theorem countRun_run (order : StrictWeakOrder before)
    (decides : Decides lt before (· ∈ s.keys.toList)) (below : lo < hi)
    (within : hi ≤ s.keys.size) :
    ∃ n descending, (countRun lt lo hi).run s = pure ((n, descending), s) ∧ 1 ≤ n ∧
      lo + n ≤ hi ∧ Stepwise before descending ((s.keys.toList.drop lo).take n) := by
  simp only [countRun]
  by_cases single : lo + 1 ≥ hi
  · rw [if_pos single, StateT.run_pure]
    refine ⟨1, false, rfl, Nat.le_refl 1, by omega, ?_⟩
    cases (s.keys.toList.drop lo) with
    | nil => exact List.Pairwise.nil
    | cons x rest => simp [Stepwise]
  rw [if_neg single]
  have reads : lt (s.keys.getD (lo + 1) default) (s.keys.getD lo default) =
      pure (before (s.keys.getD (lo + 1) default) (s.keys.getD lo default)) :=
    decides _ _ (by rw [getD_toList]; exact getD_mem (by simp; omega))
      (by rw [getD_toList]; exact getD_mem (by simp; omega))
  simp only [StateT.run_bind, at_run, reads, liftE_run, pure_bind]
  obtain ⟨n, ran, two, fits, adjacent⟩ := countRun_go_run decides lo hi
    (before (s.keys.getD (lo + 1) default) (s.keys.getD lo default)) within hi 2 (Nat.le_refl 2)
    (by omega) (by omega) fun j below => by
      rw [show j = 0 by omega]
      rfl
  rw [ran]
  refine ⟨n, _, rfl, by omega, fits, stepwise_of_adjacent order _ _ fun j below => ?_⟩
  have inside : j + 1 < n := by simp at below; omega
  rw [getD_take _ inside, getD_take _ (by omega : j < n), List.getD_eq_getElem?_getD,
    List.getD_eq_getElem?_getD, List.getElem?_drop, List.getElem?_drop,
    ← List.getD_eq_getElem?_getD, ← List.getD_eq_getElem?_getD, ← getD_toList, ← getD_toList,
    ← Nat.add_assoc]
  exact adjacent j inside

end Count

/-! ## Reversing a descending run -/

theorem reverseRun_run [Inhabited α] (s : Sorter α) (lo n : Nat) (within : lo + n ≤ s.keys.size) :
    (runs.reverseRun (M := Except ε) lo n).run s =
      pure ((), { s with keys :=
        (overwrite s.keys.toList lo ((s.keys.toList.drop lo).take n).reverse).toArray }) := by
  simp only [runs.reverseRun, StateT.run_bind, StateT.run_get, pure_bind]
  rw [copyIn_run _ n 0 lo s (by simp; omega) within]
  have part : ((s.keys.extract lo (lo + n)).reverse.toList.drop 0).take n =
      ((s.keys.toList.drop lo).take n).reverse := by
    simp only [Array.toList_reverse, Array.toList_extract, List.extract, List.drop_zero,
      Nat.add_sub_cancel_left]
    exact List.take_of_length_le (by simp [Nat.min_le_left])
  rw [part]

/-- A strictly descending stretch, reversed, is sorted. -/
theorem sorted_reverse_of_descending (order : StrictWeakOrder before) {seg : List α}
    (descending : Stepwise before true seg) : Sorted before seg.reverse :=
  List.pairwise_reverse.mpr (descending.imp fun later => by simp [order.asymm later])

/-! ## Binary insertion -/

/-- Inserting an item after the sorted items it does not go before, and before those it goes
before, keeps them sorted. -/
theorem sorted_insert (order : StrictWeakOrder before) {lower upper : List α} {x : α}
    (sorted : Sorted before (lower ++ upper)) (notAfter : ∀ a ∈ lower, before x a = false)
    (after : ∀ b ∈ upper, before x b = true) : Sorted before (lower ++ x :: upper) := by
  obtain ⟨lowerSorted, upperSorted, across⟩ := List.pairwise_append.mp sorted
  refine List.pairwise_append.mpr ⟨lowerSorted, List.Pairwise.cons ?_ upperSorted, ?_⟩
  · intro b member
    simp [order.asymm (after b member)]
  · intro a inLower b member
    rcases List.mem_cons.mp member with rfl | inUpper
    · simpa using notAfter a inLower
    · exact across a inLower b inUpper

-- Each step inserts the next item into the sorted stretch before it.
theorem binarySort_each_run [Inhabited α] (order : StrictWeakOrder before) (lo hi : Nat) :
    ∀ fuel i (s : Sorter α) (front sorted rest back : List α),
      Decides lt before (· ∈ s.keys.toList) →
      s.keys.toList = front ++ sorted ++ rest ++ back → front.length = lo →
      lo + sorted.length = i → i + rest.length = hi → hi ≤ i + fuel → Sorted before sorted →
      ∃ s' sorted', (binarySort.each lt lo hi fuel i).run s = pure ((), s') ∧
        s'.keys.toList = front ++ sorted' ++ back ∧ Sorted before sorted' ∧
        sorted'.Perm (sorted ++ rest)
  | 0, i, s, front, sorted, rest, back, _, layout, _, _, ends, enough, ordered => by
    have : rest = [] := List.eq_nil_of_length_eq_zero (by omega)
    subst this
    exact ⟨s, sorted, rfl, by simpa using layout, ordered, by simp⟩
  | fuel + 1, i, s, front, sorted, rest, back, decides, layout, base, filled, ends, enough,
      ordered => by
    simp only [binarySort.each]
    by_cases finished : hi ≤ i
    · rw [if_neg (by omega)]
      have : rest = [] := List.eq_nil_of_length_eq_zero (by omega)
      subst this
      exact ⟨s, sorted, rfl, by simpa using layout, ordered, by simp⟩
    rw [if_pos (by omega)]
    obtain ⟨x, rest', rfl⟩ := List.exists_cons_of_length_pos (by omega : 0 < rest.length)
    have size : s.keys.size = i + 1 + rest'.length + back.length := by
      rw [← Array.length_toList, layout]
      simp
      omega
    -- the stretch before the pivot, read where it is
    have inside : ∀ p, lo ≤ p → p < i →
        s.keys.getD p default = sorted.getD (p - lo) default := fun p low high => by
      have := getD_middle front sorted (x :: rest' ++ back) (p - lo) default (by omega)
      rw [getD_toList, layout, show front ++ sorted ++ x :: rest' ++ back =
          front ++ sorted ++ (x :: rest' ++ back) by simp, ← this,
        show front.length + (p - lo) = p by omega]
    have pivot : s.keys.getD i default = x := by
      rw [getD_toList, layout, show i = (front ++ sorted).length + 0 by simp; omega,
        show front ++ sorted ++ x :: rest' ++ back = front ++ sorted ++ (x :: rest') ++ back by
          simp, getD_middle _ _ _ _ _ (by simp)]
      simp
    have member : ∀ p, p < s.keys.size → s.keys.getD p default ∈ s.keys.toList := fun p below =>
      by rw [getD_toList]; exact getD_mem (by simpa using below)
    -- where the pivot goes: after the items it does not go before
    have reads : ∀ p, lo ≤ p → p < i → lt x (s.keys.getD p default) =
        pure (!(!before x (s.keys.getD p default))) := fun p low high => by
      rw [Bool.not_not, ← pivot]
      exact decides _ _ (member i (by omega)) (member p (by omega))
    have closed : PrefixClosed (fun p => !before x (s.keys.getD p default)) lo i := by
      intro p q low le high passes
      simp only [Bool.not_eq_eq_eq_not, Bool.not_true] at passes ⊢
      rcases Nat.lt_or_eq_of_le le with less | rfl
      · have ordered' := List.pairwise_iff_getElem.mp ordered (p - lo) (q - lo) (by omega)
          (by omega) (by omega)
        rw [inside p low (by omega), List.getD_eq_getElem?_getD,
          List.getElem?_eq_getElem (by omega)]
        rw [inside q (by omega) high, List.getD_eq_getElem?_getD,
          List.getElem?_eq_getElem (by omega)] at passes
        exact order.notBefore_trans passes (by simpa using ordered')
      · exact passes
    obtain ⟨l, found, low, high, passes, fails⟩ := insertPlace_boundary reads closed (i - lo + 1)
      lo i (Nat.le_refl lo) (by omega) (Nat.le_refl i) (by omega)
      (fun p low high => by omega) (fun p low high => by omega)
    -- the same cut, read on the sorted stretch
    have bound : Boundary (fun j => !before x (sorted.getD j default)) 0 sorted.length (l - lo) :=
      ⟨Nat.zero_le _, by omega, fun j _ below => by
        have := passes (lo + j) (by omega) (by omega)
        dsimp only at this ⊢
        rwa [inside _ (by omega) (by omega), Nat.add_sub_cancel_left] at this,
      fun j above below => by
        have := fails (lo + j) (by omega) (by omega)
        dsimp only at this ⊢
        rwa [inside _ (by omega) (by omega), Nat.add_sub_cancel_left] at this⟩
    have inserted := sorted_insert order
      (by rwa [List.take_append_drop] : Sorted before (sorted.take (l - lo) ++ sorted.drop (l - lo)))
      (fun a member => by simpa using bound.taken (p := fun y => !before x y) a member)
      (fun b member => by simpa using bound.dropped (p := fun y => !before x y) b member)
    -- the stretch after the cut moves up by one and the pivot takes its first slot
    obtain ⟨s1, ran1, keys1⟩ := moveWithin_spec (ε := ε) s l (l + 1) (i - l) (by omega) (by omega)
    obtain ⟨s2, ran2, keys2⟩ := put_spec (ε := ε) s1 l x
    have cut : s.keys.toList = (front ++ sorted.take (l - lo)) ++ sorted.drop (l - lo) ++
        x :: (rest' ++ back) := by
      rw [layout, ← List.take_append_drop (l - lo) sorted]
      simp
    have shifted : s2.keys.toList =
        front ++ (sorted.take (l - lo) ++ x :: sorted.drop (l - lo)) ++ rest' ++ back := by
      have lengthF : (front ++ sorted.take (l - lo)).length = l := by simp; omega
      have moved : (s.keys.toList.drop l).take (i - l) = sorted.drop (l - lo) := by
        have := take_drop_middle (front ++ sorted.take (l - lo)) (sorted.drop (l - lo))
          (x :: (rest' ++ back)) (i - l) (by simp; omega)
        rw [lengthF, ← cut] at this
        rw [this]
        exact List.take_of_length_le (by simp; omega)
      have := overwrite_shift (front ++ sorted.take (l - lo)) (sorted.drop (l - lo))
        (rest' ++ back) x
      rw [lengthF, ← cut] at this
      rw [keys2, keys1, moved, this]
      simp
    have perm : s2.keys.toList.Perm s.keys.toList := by
      rw [shifted, cut]
      simp only [List.append_assoc, List.cons_append]
      exact List.Perm.append_left _ (List.Perm.append_left _ List.perm_middle.symm)
    simp only [StateT.run_bind, at_run, pivot, found, ran1, ran2, pure_bind]
    obtain ⟨s', sorted', ran, keys', ordered', perm'⟩ := binarySort_each_run order lo hi fuel
      (i + 1) s2 front _ rest' back (decides.mono fun y member => perm.mem_iff.mp member) shifted
      base (by simp; omega) (by simp at ends; omega) (by omega) inserted
    refine ⟨s', sorted', ran, keys', ordered', perm'.trans ?_⟩
    have middle : ((sorted.take (l - lo) ++ x :: sorted.drop (l - lo)) ++ rest').Perm
        (sorted.take (l - lo) ++ sorted.drop (l - lo) ++ x :: rest') := by
      simp only [List.append_assoc, List.cons_append]
      exact List.Perm.append_left _ List.perm_middle.symm
    rwa [List.take_append_drop] at middle

/-- Binary insertion sorts the stretch from `lo` before `hi` whose items before `start` are
sorted already, and leaves the other items alone. -/
theorem binarySort_run [Inhabited α] (order : StrictWeakOrder before) {s : Sorter α}
    (decides : Decides lt before (· ∈ s.keys.toList)) {lo hi start : Nat} (ordered : lo < start)
    (fits : start ≤ hi) (within : hi ≤ s.keys.size)
    (sortedPrefix : Sorted before ((s.keys.toList.drop lo).take (start - lo))) :
    ∃ s' seg, (binarySort lt lo hi start).run s = pure ((), s') ∧
      s'.keys.toList = s.keys.toList.take lo ++ seg ++ s.keys.toList.drop hi ∧
      Sorted before seg ∧ seg.Perm ((s.keys.toList.drop lo).take (hi - lo)) := by
  have size : s.keys.toList.length = s.keys.size := Array.length_toList
  have layout : s.keys.toList = s.keys.toList.take lo ++ (s.keys.toList.drop lo).take (start - lo)
      ++ (s.keys.toList.drop start).take (hi - start) ++ s.keys.toList.drop hi := by
    simp only [List.append_assoc]
    rw [← drop_split s.keys.toList fits, ← drop_split s.keys.toList (Nat.le_of_lt ordered),
      List.take_append_drop]
  simp only [binarySort]
  rw [if_neg (by simp; omega)]
  obtain ⟨s', seg, ran, keys', sorted, perm⟩ := binarySort_each_run order lo hi (hi + 1) start s
    _ _ _ _ decides layout (by simp; omega) (by simp; omega) (by simp; omega) (by omega)
    sortedPrefix
  exact ⟨s', seg, ran, keys', sorted, by
    rwa [← take_drop_add s.keys.toList (Nat.le_of_lt ordered) fits] at perm⟩

end Storefront.Sorting
