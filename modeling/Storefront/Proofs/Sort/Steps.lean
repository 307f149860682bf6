import Storefront.Proofs.Sort.Order

/-!
# Elementary steps of sorting work

What reading, writing, copying and moving items does to the list of a sorter's items, and
what a comparison yields when it decides a test on the items it is given. A copy is described
as the list with a stretch overwritten; every later proof reads the items through lists cut
into a prefix, the stretch being worked on, and a suffix.
-/

namespace Storefront.Sorting

variable {ε α : Type}

/-- The comparison decides the test `before` on the items that satisfy `S`. -/
def Decides (lt : α → α → Except ε Bool) (before : α → α → Bool) (S : α → Prop) : Prop :=
  ∀ a b, S a → S b → lt a b = pure (before a b)

theorem Decides.mono {lt : α → α → Except ε Bool} {before : α → α → Bool} {S T : α → Prop}
    (decides : Decides lt before S) (sub : ∀ x, T x → S x) : Decides lt before T :=
  fun a b inA inB => decides a b (sub a inA) (sub b inB)

theorem getD_mem [Inhabited α] {xs : List α} {i : Nat} (below : i < xs.length) :
    xs.getD i default ∈ xs := by
  rw [List.getD_eq_getElem?_getD, List.getElem?_eq_getElem below]
  exact List.getElem_mem below

/-! Prefixes of a list, read through `getD`. -/

theorem take_pred_append [Inhabited α] (xs : List α) {n : Nat} (one : 1 ≤ n)
    (le : n ≤ xs.length) : xs.take n = xs.take (n - 1) ++ [xs.getD (n - 1) default] := by
  obtain ⟨k, rfl⟩ : ∃ k, n = k + 1 := ⟨n - 1, by omega⟩
  rw [List.take_add_one, List.getElem?_eq_getElem (by omega)]
  simp [List.getD_eq_getElem?_getD, List.getElem?_eq_getElem (by omega : k < xs.length)]

theorem take_getLast? [Inhabited α] (xs : List α) {n : Nat} (one : 1 ≤ n) (le : n ≤ xs.length) :
    (xs.take n).getLast? = some (xs.getD (n - 1) default) := by
  rw [take_pred_append xs one le]
  simp

theorem getD_take [Inhabited α] (xs : List α) {n i : Nat} (below : i < n) :
    (xs.take n).getD i default = xs.getD i default := by
  simp [List.getD_eq_getElem?_getD, below]

theorem take_split (xs : List α) {n k : Nat} (atMost : k ≤ n) :
    xs.take n = xs.take (n - k) ++ (xs.take n).drop (n - k) := by
  have := (List.take_append_drop (n - k) (xs.take n)).symm
  rwa [List.take_take, Nat.min_eq_left (by omega)] at this

theorem stretch_head? [Inhabited α] (xs : List α) {base n : Nat} (one : 1 ≤ n)
    (fits : base + n ≤ xs.length) : ((xs.drop base).take n).head? = some (xs.getD base default) := by
  rw [List.head?_take, if_neg (by omega), List.head?_drop, List.getD_eq_getElem?_getD,
    List.getElem?_eq_getElem (by omega)]
  simp

theorem stretch_getLast? [Inhabited α] (xs : List α) {base n : Nat} (one : 1 ≤ n)
    (fits : base + n ≤ xs.length) :
    ((xs.drop base).take n).getLast? = some (xs.getD (base + n - 1) default) := by
  rw [take_getLast? _ one (by simp; omega), List.getD_eq_getElem?_getD,
    List.getD_eq_getElem?_getD, List.getElem?_drop, show base + (n - 1) = base + n - 1 by omega]

theorem drop_split (xs : List α) {a b : Nat} (le : a ≤ b) :
    xs.drop a = (xs.drop a).take (b - a) ++ xs.drop b := by
  conv => lhs; rw [← List.take_append_drop (b - a) (xs.drop a)]
  rw [List.drop_drop, Nat.add_sub_cancel' le]

theorem take_drop_add (xs : List α) {a b c : Nat} (ab : a ≤ b) (bc : b ≤ c) :
    (xs.drop a).take (c - a) = (xs.drop a).take (b - a) ++ (xs.drop b).take (c - b) := by
  rw [show c - a = (b - a) + (c - b) by omega, List.take_add, List.drop_drop,
    Nat.add_sub_cancel' ab]

/-- The list `xs` with its items from `dst` on replaced by `ys`. -/
def overwrite (xs : List α) (dst : Nat) (ys : List α) : List α :=
  xs.take dst ++ ys ++ xs.drop (dst + ys.length)

theorem overwrite_append (pre mid post ys : List α) (same : ys.length = mid.length) :
    overwrite (pre ++ mid ++ post) pre.length ys = pre ++ ys ++ post := by
  simp [overwrite, same, List.drop_append]

/-- Overwriting the end of a stretch. -/
theorem overwrite_end (front mid back ys : List α) (fits : ys.length ≤ mid.length) :
    overwrite (front ++ mid ++ back) (front.length + (mid.length - ys.length)) ys =
      front ++ mid.take (mid.length - ys.length) ++ ys ++ back := by
  have split : front ++ mid ++ back = (front ++ mid.take (mid.length - ys.length)) ++
      mid.drop (mid.length - ys.length) ++ back := by
    simp
  rw [split, show front.length + (mid.length - ys.length) =
      (front ++ mid.take (mid.length - ys.length)).length by simp,
    overwrite_append _ _ _ _ (by simp; omega)]

/-- Setting the last item of a stretch. -/
theorem set_last (front mid back : List α) (x : α) (nonempty : mid ≠ []) :
    (front ++ mid ++ back).set (front.length + (mid.length - 1)) x =
      front ++ mid.dropLast ++ x :: back := by
  obtain ⟨init, z, rfl⟩ := (List.eq_nil_or_concat mid).resolve_left nonempty
  simp [List.set_append_right]

/-- Shifting a stretch up by one slot over the item after it, then writing that item into the
freed slot, inserts the item before the stretch. -/
theorem overwrite_shift (front mid back : List α) (x : α) :
    (overwrite (front ++ mid ++ x :: back) (front.length + 1) mid).set front.length x =
      front ++ x :: mid ++ back := by
  cases mid with
  | nil =>
    simp only [overwrite, List.append_nil, List.length_nil, Nat.add_zero, List.take_append_drop]
    simp [List.set_append_right]
  | cons y ys =>
    have shifted := overwrite_append (front ++ [y]) (ys ++ [x]) back (y :: ys) (by simp)
    simp only [List.append_assoc, List.cons_append, List.nil_append, List.length_append,
      List.length_singleton] at shifted
    rw [show front ++ y :: ys ++ x :: back = front ++ y :: (ys ++ x :: back) by simp, shifted]
    simp [List.set_append_right]

theorem overwrite_set (xs ys : List α) (dst : Nat) (x : α) (inside : dst < xs.length) :
    overwrite (xs.set dst x) (dst + 1) ys = overwrite xs dst (x :: ys) := by
  obtain ⟨p, y, q, rfl, rfl⟩ : ∃ p y q, xs = p ++ y :: q ∧ p.length = dst :=
    ⟨xs.take dst, xs[dst], xs.drop (dst + 1), by simp, by simp; omega⟩
  simp [overwrite, List.take_append, List.drop_append, Nat.add_assoc, Nat.add_comm 1,
    List.take_of_length_le]

@[simp] theorem put_run [Inhabited α] (s : Sorter α) (i : Nat) (x : α) :
    (put (M := Except ε) i x).run s = pure ((), { s with keys := s.keys.set! i x }) := rfl

/-- A write with the state after it left abstract: only its items are known. -/
theorem put_spec (s : Sorter α) (i : Nat) (x : α) :
    ∃ s', (put (M := Except ε) i x).run s = pure ((), s') ∧
      s'.keys.toList = s.keys.toList.set i x :=
  ⟨_, rfl, by simp⟩

@[simp] theorem liftE_run {β : Type} (s : Sorter α) (b : β) :
    (liftE (M := Except ε) (α := α) (pure b)).run s = pure (b, s) := rfl

theorem getD_middle (front rest post : List α) (i : Nat) (d : α) (inside : i < rest.length) :
    (front ++ rest ++ post).getD (front.length + i) d = rest.getD i d := by
  simp [List.getD_eq_getElem?_getD, List.getElem?_append_right, List.getElem?_append_left inside]

theorem take_drop_middle (front rest post : List α) (k : Nat) (le : k ≤ rest.length) :
    ((front ++ rest ++ post).drop front.length).take k = rest.take k := by
  simp [List.take_append, le]

theorem getD_toList (xs : Array α) (i : Nat) (d : α) : xs.getD i d = xs.toList.getD i d := by
  simp [Array.getD_eq_getD_getElem?, List.getD_eq_getElem?_getD]

/-- The items of a stretch of an array, read where they are. -/
theorem getD_stretch [Inhabited α] (a : Array α) {base n i : Nat} (below : i < n) :
    a.getD (base + i) default = ((a.toList.drop base).take n).getD i default := by
  rw [getD_toList, getD_take _ below, List.getD_eq_getElem?_getD, List.getD_eq_getElem?_getD,
    List.getElem?_drop]

section Run

variable [Inhabited α]

@[simp] theorem at_run (s : Sorter α) (i : Nat) :
    (at! (M := Except ε) i).run s = pure (s.keys.getD i default, s) := rfl

theorem copyIn_run (source : Array α) :
    ∀ (n src dst : Nat) (s : Sorter α), src + n ≤ source.size → dst + n ≤ s.keys.size →
      (copyIn (M := Except ε) source src dst n).run s =
        pure ((), { s with keys :=
          (overwrite s.keys.toList dst ((source.toList.drop src).take n)).toArray })
  | 0, src, dst, s, _, _ => by simp [copyIn, overwrite]
  | n + 1, src, dst, s, fromInside, toInside => by
    have rest := copyIn_run source n (src + 1) (dst + 1)
      { s with keys := s.keys.set! dst (source.getD src default) } (by omega) (by simp; omega)
    have read : (source.toList.drop src).take (n + 1) =
        source.getD src default :: (source.toList.drop (src + 1)).take n := by
      rw [List.drop_eq_getElem_cons (by simp; omega)]
      simp [Array.getD_eq_getD_getElem?, Array.getElem?_eq_getElem (by omega : src < source.size)]
    simp only [copyIn, StateT.run_bind, put_run, pure_bind]
    rw [rest]
    simp only [Array.set!_eq_setIfInBounds, Array.toList_setIfInBounds, read]
    rw [overwrite_set _ _ _ _ (by simp; omega)]

theorem moveWithin_run (s : Sorter α) (src dst n : Nat) (fromInside : src + n ≤ s.keys.size)
    (toInside : dst + n ≤ s.keys.size) :
    (moveWithin (M := Except ε) src dst n).run s =
      pure ((), { s with keys :=
        (overwrite s.keys.toList dst ((s.keys.toList.drop src).take n)).toArray }) := by
  simp only [moveWithin, StateT.run_bind, StateT.run_get, pure_bind]
  rw [copyIn_run _ n 0 dst s (by simp; omega) toInside]
  simp [List.take_take]

/-! Copies with the state after them left abstract: only its items are known. -/

theorem copyIn_spec (source : Array α) (src dst n : Nat) (s : Sorter α)
    (fromInside : src + n ≤ source.size) (toInside : dst + n ≤ s.keys.size) :
    ∃ s', (copyIn (M := Except ε) source src dst n).run s = pure ((), s') ∧
      s'.keys.toList = overwrite s.keys.toList dst ((source.toList.drop src).take n) :=
  ⟨_, copyIn_run source n src dst s fromInside toInside, by simp⟩

theorem moveWithin_spec (s : Sorter α) (src dst n : Nat) (fromInside : src + n ≤ s.keys.size)
    (toInside : dst + n ≤ s.keys.size) :
    ∃ s', (moveWithin (M := Except ε) src dst n).run s = pure ((), s') ∧
      s'.keys.toList = overwrite s.keys.toList dst ((s.keys.toList.drop src).take n) :=
  ⟨_, moveWithin_run s src dst n fromInside toInside, by simp⟩

end Run

end Storefront.Sorting
