import Storefront.Proofs.Sort.Steps

/-!
# Searching a sorted run

The sort finds where an item goes in a sorted run in two ways: binary insertion, which halves
a stretch of the items being sorted, and galloping, which looks outward from a hint by the
offsets `1, 3, 7, …` and then halves what is left. In a sorted run the positions that pass
the search's test (the item there goes before the key, or does not go after it) form a
prefix, and both searches return where that prefix ends. The search to the right of equal
items is the search to their left under the reversed, negated comparison.
-/

namespace Storefront.Sorting

variable {ε α : Type}

/-- `r` cuts the positions from `lo` before `hi` into those that pass a test, before `r`, and
those that fail it, from `r` on. -/
def Boundary (test : Nat → Bool) (lo hi r : Nat) : Prop :=
  lo ≤ r ∧ r ≤ hi ∧ (∀ i, lo ≤ i → i < r → test i = true) ∧
    ∀ i, r ≤ i → i < hi → test i = false

/-- The positions from `lo` before `hi` that pass a test form a prefix of them. -/
def PrefixClosed (test : Nat → Bool) (lo hi : Nat) : Prop :=
  ∀ i j, lo ≤ i → i ≤ j → j < hi → test j = true → test i = true

/-! ## Tests on the items of a list -/

section Items

variable [Inhabited α] {xs : List α} {p : α → Bool}

/-- In a sorted list, a test that passes on an item whenever it passes on a later one holds
on a prefix. -/
theorem prefixClosed_of_sorted {before : α → α → Bool} (sorted : Sorted before xs)
    (down : ∀ a b, noLater before a b = true → p b = true → p a = true) :
    PrefixClosed (fun i => p (xs.getD i default)) 0 xs.length := by
  intro i j _ le below passes
  rcases Nat.lt_or_eq_of_le le with less | rfl
  · have ordered := List.pairwise_iff_getElem.mp sorted i j (by omega) below less
    simp only [List.getD_eq_getElem?_getD, List.getElem?_eq_getElem below,
      List.getElem?_eq_getElem (Nat.lt_trans less below), Option.getD_some] at passes ⊢
    exact down _ _ ordered passes
  · exact passes

theorem Boundary.taken {k : Nat} (bound : Boundary (fun i => p (xs.getD i default)) 0 xs.length k) :
    ∀ x ∈ xs.take k, p x = true := by
  intro x member
  obtain ⟨i, below, rfl⟩ := List.mem_take_iff_getElem.mp member
  have := bound.2.2.1 i (Nat.zero_le _) (by omega)
  simpa [List.getD_eq_getElem?_getD, List.getElem?_eq_getElem (by omega : i < xs.length)]
    using this

theorem Boundary.next {k : Nat} (bound : Boundary (fun i => p (xs.getD i default)) 0 xs.length k) :
    ∀ x ∈ (xs.drop k).head?, p x = false := by
  intro x member
  rw [List.head?_drop, Option.mem_def, List.getElem?_eq_some_iff] at member
  obtain ⟨below, rfl⟩ := member
  have := bound.2.2.2 k (Nat.le_refl k) below
  simpa [List.getD_eq_getElem?_getD, List.getElem?_eq_getElem below] using this

theorem Boundary.dropped {k : Nat} (bound : Boundary (fun i => p (xs.getD i default)) 0 xs.length k) :
    ∀ x ∈ xs.drop k, p x = false := by
  intro x member
  obtain ⟨i, below, rfl⟩ := List.mem_iff_getElem.mp member
  have := bound.2.2.2 (k + i) (by omega) (by simp at below; omega)
  simpa [List.getD_eq_getElem?_getD, List.getElem?_eq_getElem (by simp at below; omega :
    k + i < xs.length)] using this

end Items

/-! ## Galloping -/

section Gallop

variable {lt : α → α → Except ε Bool} {key : α} {item : Int → α} {test : Nat → Bool} {n : Nat}
  (reads : ∀ i : Int, 0 ≤ i → i < n → lt (item i) key = pure (test i.toNat))
include reads

-- Outward to the right the offsets grow while the item there still passes.
theorem outward_right (h maxofs : Int) (start : 0 ≤ h) (ends : h + maxofs = n) :
    ∀ (fuel : Nat) (l o : Int), 0 ≤ l → l < o → l < maxofs → test (h + l).toNat = true →
      maxofs ≤ o + fuel →
      ∃ l' o', gallopLeft.outward lt key item h true maxofs fuel l o = pure (l', o') ∧
        0 ≤ l' ∧ l' < o' ∧ l' < maxofs ∧ test (h + l').toNat = true ∧
          (maxofs ≤ o' ∨ test (h + o').toNat = false)
  | 0, l, o, low, ordered, short, passes, _ =>
    ⟨l, o, rfl, low, ordered, short, passes, .inl (by omega)⟩
  | fuel + 1, l, o, low, ordered, short, passes, enough => by
    simp only [gallopLeft.outward, ↓reduceIte]
    split
    · rw [reads (h + o) (by omega) (by omega), pure_bind]
      cases far : test (h + o).toNat
      · exact ⟨l, o, rfl, low, ordered, short, passes, .inr far⟩
      · exact outward_right h maxofs start ends fuel o (2 * o + 1) (by omega) (by omega)
          (by omega) far (by omega)
    · exact ⟨l, o, rfl, low, ordered, short, passes, .inl (by omega)⟩

-- Outward to the left the offsets grow while the item there still fails.
theorem outward_left (h maxofs : Int) (start : 0 ≤ h) (inside : h < n) (ends : maxofs = h + 1) :
    ∀ (fuel : Nat) (l o : Int), 0 ≤ l → l < o → l < maxofs → test (h - l).toNat = false →
      maxofs ≤ o + fuel →
      ∃ l' o', gallopLeft.outward lt key item h false maxofs fuel l o = pure (l', o') ∧
        0 ≤ l' ∧ l' < o' ∧ l' < maxofs ∧ test (h - l').toNat = false ∧
          (maxofs ≤ o' ∨ test (h - o').toNat = true)
  | 0, l, o, low, ordered, short, fails, _ =>
    ⟨l, o, rfl, low, ordered, short, fails, .inl (by omega)⟩
  | fuel + 1, l, o, low, ordered, short, fails, enough => by
    simp only [gallopLeft.outward, Bool.false_eq_true, ↓reduceIte]
    split
    · rw [reads (h - o) (by omega) (by omega), pure_bind]
      cases far : test (h - o).toNat
      · exact outward_left h maxofs start inside ends fuel o (2 * o + 1) (by omega)
          (by omega) (by omega) far (by omega)
      · exact ⟨l, o, rfl, low, ordered, short, fails, .inr far⟩
    · exact ⟨l, o, rfl, low, ordered, short, fails, .inl (by omega)⟩

-- Halving keeps every position left of `l` passing and every one from `o` on failing.
theorem search_boundary (closed : PrefixClosed test 0 n) :
    ∀ (fuel : Nat) (l o : Int), 0 ≤ l → l ≤ o → o ≤ n → o - l ≤ fuel →
      (∀ i : Nat, i < l → test i = true) → (∀ i : Nat, o ≤ i → i < n → test i = false) →
      ∃ r, gallopLeft.search lt key item fuel l o = pure r ∧ 0 ≤ r ∧ Boundary test 0 n r.toNat
  | 0, l, o, low, ordered, high, enough, passes, fails => by
    refine ⟨l, rfl, low, by omega, by omega, fun i _ below => passes i (by omega),
      fun i above less => fails i (by omega) less⟩
  | fuel + 1, l, o, low, ordered, high, enough, passes, fails => by
    simp only [gallopLeft.search]
    split
    · rw [reads (l + (o - l) / 2) (by omega) (by omega), pure_bind]
      cases middle : test (l + (o - l) / 2).toNat
      · refine search_boundary closed fuel l (l + (o - l) / 2) low (by omega) (by omega) (by omega)
          passes fun i above less => ?_
        cases later : test i
        · rfl
        · rw [closed _ i (Nat.zero_le _) (by omega) less later] at middle
          exact middle
      · refine search_boundary closed fuel (l + (o - l) / 2 + 1) o (by omega) (by omega) high
          (by omega) (fun i below => ?_) fails
        exact closed i _ (Nat.zero_le _) (by omega) (by omega) middle
    · refine ⟨o, rfl, by omega, by omega, by omega, fun i _ below => passes i (by omega),
        fun i above less => fails i (by omega) less⟩

end Gallop

section Gallop

variable [Inhabited α] {lt : α → α → Except ε Bool} {key : α} {a : Array α} {base n hint : Nat}
  {test : Nat → Bool}

/-- Galloping from a hint inside a run whose passing positions form a prefix finds where the
prefix ends. -/
theorem gallopLeft_boundary
    (reads : ∀ i, i < n → lt (a.getD (base + i) default) key = pure (test i))
    (closed : PrefixClosed test 0 n) (hinted : hint < n) :
    ∃ r, gallopLeft lt key a base n hint = pure r ∧ Boundary test 0 n r := by
  have readsAt : ∀ i : Int, 0 ≤ i → i < n →
      lt (a.getD (base + i.toNat) default) key = pure (test i.toNat) :=
    fun i low high => reads i.toNat (by omega)
  simp only [gallopLeft]
  rw [readsAt hint (by omega) (by omega), pure_bind]
  cases atHint : test hint
  · obtain ⟨l, o, found, low, ordered, short, fails, reach⟩ := outward_left readsAt (hint : Int)
      (hint + 1) (by omega) (by omega) rfl (n + 1) 0 1 (by omega) (by omega) (by omega)
      (by simpa using atHint) (by omega)
    simp only [Int.toNat_natCast, atHint, Bool.false_eq_true, ↓reduceIte, found, pure_bind]
    obtain ⟨r, searched, _, boundary⟩ := search_boundary readsAt closed (n + 1)
      (((hint : Int) - if o > (hint : Int) + 1 then (hint : Int) + 1 else o) + 1) ((hint : Int) - l) (by split <;> omega)
      (by split <;> omega) (by omega) (by split <;> omega)
      (fun i below => by
        split at below
        · omega
        · rcases reach with far | passes
          · omega
          · exact closed i _ (Nat.zero_le _) (by omega) (by omega) passes)
      (fun i above less => by
        cases later : test i
        · rfl
        · rw [closed _ i (Nat.zero_le _) (by omega) less later] at fails
          exact fails)
    exact ⟨r.toNat, by rw [searched, pure_bind], boundary⟩
  · obtain ⟨l, o, found, low, ordered, short, passes, reach⟩ := outward_right readsAt
      (hint : Int) (n - hint) (by omega) (by omega) (n + 1) 0 1 (by omega) (by omega) (by omega)
      (by simpa using atHint) (by omega)
    simp only [Int.toNat_natCast, atHint, ↓reduceIte, found, pure_bind]
    obtain ⟨r, searched, _, boundary⟩ := search_boundary readsAt closed (n + 1) (l + hint + 1)
      ((if o > (n : Int) - hint then (n : Int) - hint else o) + hint) (by omega) (by split <;> omega)
      (by split <;> omega) (by split <;> omega)
      (fun i below => closed i ((hint : Int) + l).toNat (Nat.zero_le _) (by omega) (by omega)
        passes)
      (fun i above less => by
        split at above
        · omega
        · rcases reach with far | fails
          · omega
          · cases later : test i
            · rfl
            · rw [closed _ i (Nat.zero_le _) (by omega) less later] at fails
              exact fails)
    exact ⟨r.toNat, by rw [searched, pure_bind], boundary⟩

end Gallop

/-- The comparison read the other way round and negated: the first item does not go after the
second. -/
def flipped (lt : α → α → Except ε Bool) (x y : α) : Except ε Bool := (!·) <$> lt y x

theorem gallopRight_outward (lt : α → α → Except ε Bool) (key : α) (item : Int → α) (h : Int)
    (toRight : Bool) (maxofs : Int) :
    ∀ fuel l o, gallopRight.outward lt key item h toRight maxofs fuel l o =
      gallopLeft.outward (flipped lt) key item h toRight maxofs fuel l o
  | 0, _, _ => rfl
  | fuel + 1, l, o => by
    simp only [gallopRight.outward, gallopLeft.outward, flipped]
    split
    · rw [gallopRight_outward lt key item h toRight maxofs fuel o (2 * o + 1)]
      cases toRight <;>
      · simp only [Bool.false_eq_true, ↓reduceIte, bind_map_left]
        congr 1
        funext less
        cases less <;> rfl
    · rfl

theorem gallopRight_search (lt : α → α → Except ε Bool) (key : α) (item : Int → α) :
    ∀ fuel l o, gallopRight.search lt key item fuel l o =
      gallopLeft.search (flipped lt) key item fuel l o
  | 0, _, _ => rfl
  | fuel + 1, l, o => by
    simp only [gallopRight.search, gallopLeft.search, flipped]
    split
    · rw [bind_map_left, gallopRight_search lt key item fuel l, gallopRight_search lt key item fuel]
      congr 1
      funext less
      cases less <;> rfl
    · rfl

/-- Galloping to the right of equal items is galloping to their left under the flipped
comparison. -/
theorem gallopRight_eq [Inhabited α] (lt : α → α → Except ε Bool) (key : α) (a : Array α)
    (base n hint : Nat) :
    gallopRight lt key a base n hint = gallopLeft (flipped lt) key a base n hint := by
  simp only [gallopRight, gallopLeft, gallopRight_outward, gallopRight_search, flipped,
    bind_map_left]
  congr 1
  funext less
  cases less <;> rfl

theorem gallopRight_boundary [Inhabited α] {lt : α → α → Except ε Bool} {key : α} {a : Array α}
    {base n hint : Nat} {test : Nat → Bool}
    (reads : ∀ i, i < n → lt key (a.getD (base + i) default) = pure (!test i))
    (closed : PrefixClosed test 0 n) (hinted : hint < n) :
    ∃ r, gallopRight lt key a base n hint = pure r ∧ Boundary test 0 n r := by
  rw [gallopRight_eq]
  exact gallopLeft_boundary (fun i below => by simp only [flipped, reads i below, map_pure,
    Bool.not_not]) closed hinted

/-! ## Binary insertion -/

theorem insertPlace_boundary [Inhabited α] {lt : α → α → Except ε Bool} {pivot : α}
    {s : Sorter α} {test : Nat → Bool} {lo hi : Nat}
    (reads : ∀ i, lo ≤ i → i < hi → lt pivot (s.keys.getD i default) = pure (!test i))
    (closed : PrefixClosed test lo hi) :
    ∀ fuel l r, lo ≤ l → l ≤ r → r ≤ hi → r - l ≤ fuel →
      (∀ i, lo ≤ i → i < l → test i = true) → (∀ i, r ≤ i → i < hi → test i = false) →
      ∃ res, (insertPlace lt pivot fuel l r).run s = pure (res, s) ∧ Boundary test lo hi res
  | 0, l, r, low, ordered, high, enough, passes, fails =>
    ⟨l, rfl, low, by omega, passes, fun i above less => fails i (by omega) less⟩
  | fuel + 1, l, r, low, ordered, high, enough, passes, fails => by
    simp only [insertPlace]
    split
    · simp only [StateT.run_bind, at_run, pure_bind,
        reads (l + (r - l) / 2) (by omega) (by omega), liftE_run]
      cases middle : test (l + (r - l) / 2)
      · simp only [Bool.not_false, ↓reduceIte]
        refine insertPlace_boundary reads closed fuel l (l + (r - l) / 2) low (by omega) (by omega)
          (by omega) passes fun i above less => ?_
        cases later : test i
        · rfl
        · rw [closed _ i (by omega) above (by omega) later] at middle
          exact middle
      · simp only [Bool.not_true, Bool.false_eq_true, ↓reduceIte]
        refine insertPlace_boundary reads closed fuel (l + (r - l) / 2 + 1) r (by omega)
          (by omega) high (by omega) (fun i atLeast below => ?_) fails
        exact closed i _ atLeast (by omega) (by omega) middle
    · exact ⟨l, rfl, low, by omega, passes, fun i above less => fails i (by omega) less⟩

/-! ## Galloping over a sorted stretch -/

section Stretch

variable [Inhabited α] {lt : α → α → Except ε Bool} {before : α → α → Bool} {a : Array α}
  {base n hint : Nat} {key : α}

/-- Galloping to the right over a sorted stretch of an array splits it into the items the key
does not go before, then those it goes before. -/
theorem gallopRight_sorted (order : StrictWeakOrder before)
    (sorted : Sorted before ((a.toList.drop base).take n)) (fits : base + n ≤ a.size)
    (hinted : hint < n) (reads : ∀ x ∈ (a.toList.drop base).take n, lt key x = pure (before key x)) :
    ∃ k, gallopRight lt key a base n hint = pure k ∧ k ≤ n ∧
      (∀ x ∈ ((a.toList.drop base).take n).take k, before key x = false) ∧
      ∀ x ∈ ((a.toList.drop base).take n).drop k, before key x = true := by
  have length : ((a.toList.drop base).take n).length = n := by simp; omega
  have closed := prefixClosed_of_sorted (p := fun x => !before key x) sorted fun x y ordered passes => by
    simp only [Bool.not_eq_eq_eq_not, Bool.not_true] at passes ⊢
    exact order.notBefore_trans passes (by simpa using ordered)
  rw [length] at closed
  have reads : ∀ i, i < n → lt key (a.getD (base + i) default) =
      pure (!(!before key (((a.toList.drop base).take n).getD i default))) := fun i below => by
    rw [getD_stretch a below, Bool.not_not]
    exact reads _ (getD_mem (by omega))
  obtain ⟨k, found, bound⟩ := gallopRight_boundary reads closed hinted
  have bound : Boundary (fun i => !before key (((a.toList.drop base).take n).getD i default)) 0
      ((a.toList.drop base).take n).length k := by rwa [length]
  refine ⟨k, found, length ▸ bound.2.1, fun x member => ?_, fun x member => ?_⟩
  · simpa using bound.taken (p := fun x => !before key x) x member
  · simpa using bound.dropped (p := fun x => !before key x) x member

/-- Galloping to the left over a sorted stretch of an array splits it into the items that go
before the key, then those that do not. -/
theorem gallopLeft_sorted (order : StrictWeakOrder before)
    (sorted : Sorted before ((a.toList.drop base).take n)) (fits : base + n ≤ a.size)
    (hinted : hint < n) (reads : ∀ x ∈ (a.toList.drop base).take n, lt x key = pure (before x key)) :
    ∃ k, gallopLeft lt key a base n hint = pure k ∧ k ≤ n ∧
      (∀ x ∈ ((a.toList.drop base).take n).take k, before x key = true) ∧
      ∀ x ∈ ((a.toList.drop base).take n).drop k, before x key = false := by
  have length : ((a.toList.drop base).take n).length = n := by simp; omega
  have closed := prefixClosed_of_sorted (p := fun x => before x key) sorted fun x y ordered passes =>
    order.before_of_noLater_of_before (by simpa using ordered) passes
  rw [length] at closed
  have reads : ∀ i, i < n → lt (a.getD (base + i) default) key =
      pure (before (((a.toList.drop base).take n).getD i default) key) := fun i below => by
    rw [getD_stretch a below]
    exact reads _ (getD_mem (by omega))
  obtain ⟨k, found, bound⟩ := gallopLeft_boundary reads closed hinted
  have bound : Boundary (fun i => before (((a.toList.drop base).take n).getD i default) key) 0
      ((a.toList.drop base).take n).length k := by rwa [length]
  exact ⟨k, found, length ▸ bound.2.1, bound.taken (p := fun x => before x key),
    bound.dropped (p := fun x => before x key)⟩

end Stretch

end Storefront.Sorting
