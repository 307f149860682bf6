import Storefront.Proofs.Sort.Stack

/-!
# The sort as a whole

The items are cut into runs from the front. Each run is made ascending and lengthened where it
stands, the merges its arrival calls for are done, and it is stacked; the final collapse leaves
one run over all the items. So `sortBy` returns a sorted permutation of the items it is given,
whenever the comparison decides a strict weak order on them.
-/

namespace Storefront.Sorting

variable {ε α : Type} {lt : α → α → Except ε Bool} {before : α → α → Bool}

-- The do-notation copies what follows a step into both branches of an `if`; these gather it.
theorem ite_bind_same {m : Type → Type} [Monad m] {β γ : Type} (c : Prop) [Decidable c]
    (x y : m β) (g : β → m γ) :
    (if c then x >>= g else y >>= g) = (if c then x else y) >>= g := by
  split <;> rfl

theorem ite_seq {m : Type → Type} [Monad m] [LawfulMonad m] {γ : Type} (c : Prop) [Decidable c]
    (x : m PUnit) (k : m γ) :
    (if c then x >>= fun _ => k else k) = (if c then x else pure PUnit.unit) >>= fun _ => k := by
  split <;> simp

theorem Stacked.size {xs : List α} {s : Sorter α} {st : List Run} {lo : Nat}
    (stacked : Stacked before xs s st lo) : s.keys.size = xs.length := by
  rw [← Array.length_toList]
  exact stacked.perm.length_eq

/-! ## Preparing a run where it stands -/

/-- The step from `s` to `s'` puts a sorted permutation of the `n` items from `lo` in their
place and leaves the other items alone. -/
def SortsStretch (before : α → α → Bool) (s s' : Sorter α) (lo n : Nat) : Prop :=
  ∃ seg, s'.keys.toList = s.keys.toList.take lo ++ seg ++ s.keys.toList.drop (lo + n) ∧
    Sorted before seg ∧ seg.Perm ((s.keys.toList.drop lo).take n)

theorem sortsStretch_self {s : Sorter α} {lo n : Nat}
    (sorted : Sorted before ((s.keys.toList.drop lo).take n)) : SortsStretch before s s lo n := by
  refine ⟨_, ?_, sorted, List.Perm.refl _⟩
  have split := drop_split s.keys.toList (Nat.le_add_right lo n)
  rw [Nat.add_sub_cancel_left] at split
  rw [List.append_assoc, ← split, List.take_append_drop]

/-- Sorting a stretch from `lo` keeps the sort's state and leaves the stretch sorted. -/
theorem Stacked.sortStretch {xs : List α} {s s' : Sorter α} {st : List Run} {lo n : Nat}
    (stacked : Stacked before xs s st lo) (fits : lo + n ≤ s.keys.size)
    (sorts : SortsStretch before s s' lo n) :
    Stacked before xs s' st lo ∧ Sorted before ((s'.keys.toList.drop lo).take n) := by
  obtain ⟨seg, keys', sorted, perm⟩ := sorts
  have size : s.keys.toList.length = s.keys.size := Array.length_toList
  have frontLength : (s.keys.toList.take lo).length = lo := by simp; omega
  have segLength : seg.length = n := by rw [perm.length_eq]; simp; omega
  have whole : s'.keys.toList.Perm s.keys.toList := by
    rw [keys']
    conv => rhs; rw [← List.take_append_drop lo s.keys.toList,
      drop_split _ (Nat.le_add_right lo n), Nat.add_sub_cancel_left]
    simpa only [List.append_assoc] using (perm.append_right _).append_left _
  refine ⟨⟨whole.trans stacked.perm, stacked.tiles.frame ?_, ?_⟩, ?_⟩
  · simp only [List.drop_zero, Nat.sub_zero]
    rw [keys', List.append_assoc, List.take_left' frontLength]
  · rw [← Array.length_toList, whole.length_eq, Array.length_toList]
    exact stacked.within
  · rw [keys', List.append_assoc, List.drop_left' frontLength, List.take_left' segLength]
    exact sorted

/-- A run found descending is reversed, one found ascending left as it is: either way it is
sorted where it stands. -/
theorem orient_run [Inhabited α] (order : StrictWeakOrder before) {s : Sorter α} {lo n : Nat}
    {descending : Bool} (fits : lo + n ≤ s.keys.size)
    (stepwise : Stepwise before descending ((s.keys.toList.drop lo).take n)) :
    ∃ s', (if descending then runs.reverseRun (M := Except ε) lo n else pure PUnit.unit).run s =
      pure ((), s') ∧ SortsStretch before s s' lo n := by
  cases descending with
  | false => exact ⟨s, rfl, sortsStretch_self (stepwise.imp fun later => by simpa using later)⟩
  | true =>
    refine ⟨_, reverseRun_run s lo n fits, _, ?_, sorted_reverse_of_descending order stepwise,
      List.reverse_perm _⟩
    have size : s.keys.toList.length = s.keys.size := Array.length_toList
    rw [List.toList_toArray, overwrite, List.length_reverse, List.length_take, List.length_drop,
      Nat.min_eq_left (by omega)]

/-- A run shorter than the minimum is lengthened by binary insertion, up to the minimum or
the end of the items. -/
theorem extend_run [Inhabited α] (order : StrictWeakOrder before) {s : Sorter α}
    (decides : Decides lt before (· ∈ s.keys.toList)) {lo n minrun remaining : Nat}
    (one : 1 ≤ n) (fits : n ≤ remaining) (within : lo + remaining ≤ s.keys.size)
    (sorted : Sorted before ((s.keys.toList.drop lo).take n)) :
    ∃ m s', (if n < minrun then
        binarySort lt lo (lo + if remaining ≤ minrun then remaining else minrun) (lo + n) >>=
          fun _ => pure (if remaining ≤ minrun then remaining else minrun)
      else pure n : SortM (Except ε) α Nat).run s = pure (m, s') ∧
      1 ≤ m ∧ m ≤ remaining ∧ SortsStretch before s s' lo m := by
  by_cases short : n < minrun
  · rw [if_pos short]
    have atLeast : n ≤ if remaining ≤ minrun then remaining else minrun := by split <;> omega
    have atMost : (if remaining ≤ minrun then remaining else minrun) ≤ remaining := by
      split <;> omega
    obtain ⟨s', seg, ran, keys', sortedSeg, perm⟩ := binarySort_run order decides
      (by omega : lo < lo + n) (Nat.add_le_add_left atLeast lo) (by omega)
      (by rwa [Nat.add_sub_cancel_left])
    rw [Nat.add_sub_cancel_left] at perm
    rw [StateT.run_bind, ran, pure_bind]
    exact ⟨_, s', rfl, by omega, atMost, seg, keys', sortedSeg, perm⟩
  · rw [if_neg short]
    exact ⟨n, s, rfl, one, fits, sortsStretch_self sorted⟩

/-! ## The loop over runs -/

/-- Cutting the rest of the items into runs, each prepared, merged as its arrival calls for and
stacked, ends with the stacked runs covering every item. -/
theorem runs_stacked [Inhabited α] (order : StrictWeakOrder before) {xs : List α}
    (decides : Decides lt before (· ∈ xs)) (minrun : Nat) :
    ∀ (fuel lo : Nat) (st : Array Run) (s : Sorter α), xs.length - lo < fuel →
      Stacked before xs s st.toList lo →
      ∃ st' s', (runs lt xs.length minrun fuel lo st).run s = pure (st', s') ∧
        Stacked before xs s' st'.toList xs.length
  | 0, _, _, _, enough, _ => absurd enough (Nat.not_lt_zero _)
  | fuel + 1, lo, st, s, enough, stacked => by
    have size := stacked.size
    have within := stacked.within
    rw [runs]
    by_cases finished : lo ≥ xs.length
    · rw [if_pos finished]
      exact ⟨st, s, rfl, (show lo = xs.length by omega) ▸ stacked⟩
    rw [if_neg finished]
    -- one bind per step: count, orient, extend, then the merges and the stacking
    simp only [← bind_assoc, ite_bind_same, ite_seq]
    have decidesHere := decides.mono fun x member => stacked.perm.mem_iff.mp member
    obtain ⟨n, descending, counted, one, fits, stepwise⟩ :=
      countRun_run order decidesHere (by omega : lo < xs.length) (by omega)
    obtain ⟨s1, oriented, sorts1⟩ := orient_run order (by omega) stepwise
    obtain ⟨stacked1, sorted1⟩ := stacked.sortStretch (by omega) sorts1
    obtain ⟨m, s2, extended, mOne, mFits, sorts2⟩ := extend_run order
      (decides.mono fun x member => stacked1.perm.mem_iff.mp member) one
      (by omega : n ≤ xs.length - lo) (by rw [stacked1.size]; omega) sorted1
    obtain ⟨stacked2, sorted2⟩ := stacked1.sortStretch (by rw [stacked1.size]; omega) sorts2
    obtain ⟨st3, s3, found, stacked3, kept3⟩ := foundRun_stacked order decides xs.length m stacked2
    rw [StateT.run_bind, StateT.run_bind, counted, pure_bind]
    dsimp only
    rw [StateT.run_bind, oriented, pure_bind]
    dsimp only
    rw [extended, pure_bind]
    dsimp only
    rw [StateT.run_bind, found, pure_bind]
    dsimp only
    -- the new run survives the merges below it, and is stacked
    have sorted3 : Sorted before ((s3.keys.toList.drop lo).take m) := by rwa [kept3]
    have stacked4 : Stacked before xs s3 (st3.push ⟨lo, m, 0⟩).toList (lo + m) := by
      refine ⟨stacked3.perm, ?_, by rw [stacked3.size]; omega⟩
      rw [Array.toList_push]
      exact stacked3.tiles.push (by omega) sorted3 0
    exact runs_stacked order decides minrun fuel (lo + m) _ s3 (by omega) stacked4

/-! ## The whole sort -/

/-- One run over all the items leaves them sorted. -/
theorem Stacked.sorted_of_single {xs : List α} {s : Sorter α} {last : List Run}
    (stacked : Stacked before xs s last xs.length) (single : last.length ≤ 1)
    (nonempty : 0 < xs.length) : Sorted before s.keys.toList := by
  have length := stacked.perm.length_eq
  cases last with
  | nil =>
    have ends : 0 = xs.length := stacked.tiles
    omega
  | cons r rest =>
    cases rest with
    | cons => simp at single
    | nil =>
      obtain ⟨_, _, sorted, ends⟩ := stacked.tiles
      have whole : r.len = s.keys.toList.length := by
        have ends : 0 + r.len = xs.length := ends
        omega
      rwa [List.drop_zero, whole, List.take_length] at sorted

/-- Sorting by a comparison that decides a strict weak order on the items gives a sorted
permutation of them. -/
theorem sortBy_sorted [Inhabited α] (order : StrictWeakOrder before) {xs : List α}
    (decides : Decides lt before (· ∈ xs)) :
    ∃ ys, sortBy lt xs = pure ys ∧ ys.Perm xs ∧ Sorted before ys := by
  unfold sortBy
  by_cases small : xs.length < 2
  · rw [if_pos small]
    refine ⟨xs, rfl, List.Perm.refl xs, ?_⟩
    match xs, small with
    | [], _ => exact List.Pairwise.nil
    | [_], _ => exact List.pairwise_singleton _ _
  rw [if_neg small]
  have start : Stacked before xs { keys := xs.toArray } (#[] : Array Run).toList 0 :=
    ⟨by simp, rfl, Nat.zero_le _⟩
  obtain ⟨st, s1, ran1, stacked1⟩ :=
    runs_stacked order decides (minRun xs.length) (xs.length + 1) 0 #[] _ (by omega) start
  obtain ⟨s2, ran2, last, single, stacked2⟩ :=
    collapseAll_stacked order decides (st.size + 1) st s1 (by omega) stacked1
  simp only [StateT.run_bind, ran1, pure_bind, ran2]
  exact ⟨s2.keys.toList, rfl, stacked2.perm, stacked2.sorted_of_single single (by omega)⟩

end Storefront.Sorting
