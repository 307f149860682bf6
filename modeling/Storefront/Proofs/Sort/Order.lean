import Storefront.Store.Sort

/-!
# The order a sort follows

A sort is given a test that one item goes strictly before another. The sort is correct for a
test that orders items as a strict weak order: never true of an item and itself, transitive,
and with "does not go before" transitive too, so that equivalent items form classes that are
totally ordered. A list is sorted when no item goes strictly before one ahead of it.

Merging two sorted runs is `List.merge` with the test "the left item does not come later",
which keeps the left run's item on a tie. The block laws below say which parts of a merge are
already known: a prefix of one run that goes before the other run's head, or a suffix of one
run that goes after all of the other run.
-/

namespace Storefront.Sorting

variable {α : Type} {before : α → α → Bool}

/-- A test that orders items as a strict weak order. -/
structure StrictWeakOrder (before : α → α → Bool) : Prop where
  irrefl : ∀ a, before a a = false
  trans : ∀ {a b c}, before a b = true → before b c = true → before a c = true
  notBefore_trans : ∀ {a b c}, before a b = false → before b c = false → before a c = false

/-- The first item may stand ahead of the second: the second does not go strictly before it. -/
def noLater (before : α → α → Bool) (a b : α) : Bool := !before b a

@[simp] theorem noLater_eq_true {a b : α} : noLater before a b = true ↔ before b a = false := by
  simp [noLater]

/-- No item of the list goes strictly before an item ahead of it. -/
def Sorted (before : α → α → Bool) (l : List α) : Prop :=
  l.Pairwise fun a b => noLater before a b = true

namespace StrictWeakOrder

variable (order : StrictWeakOrder before)
include order

theorem asymm {a b : α} (ab : before a b = true) : before b a = false := by
  cases ba : before b a
  · rfl
  · have := order.irrefl a
    rw [order.trans ab ba] at this
    exact this

-- `a ≤ b < c` gives `a < c`.
theorem before_of_noLater_of_before {a b c : α} (ba : before b a = false)
    (bc : before b c = true) : before a c = true := by
  cases ac : before a c
  · rw [order.notBefore_trans ba ac] at bc
    exact bc
  · rfl

-- `a < b ≤ c` gives `a < c`.
theorem before_of_before_of_noLater {a b c : α} (ab : before a b = true)
    (cb : before c b = false) : before a c = true := by
  cases ac : before a c
  · rw [order.notBefore_trans ac cb] at ab
    exact ab
  · rfl

theorem noLater_trans {a b c : α} (ba : before b a = false) (cb : before c b = false) :
    before c a = false :=
  order.notBefore_trans cb ba

theorem noLater_total (a b : α) : (noLater before a b || noLater before b a) = true := by
  cases ba : before b a
  · simp [noLater, ba]
  · simp [noLater, order.asymm ba]

end StrictWeakOrder

/-- A list in which each item is related to the next is related throughout, for a transitive
relation. -/
theorem pairwise_of_adjacent {R : α → α → Prop} (trans : ∀ a b c, R a b → R b c → R a c) :
    ∀ (l : List α), (∀ j (h : j + 1 < l.length), R l[j] l[j + 1]) → l.Pairwise R
  | [], _ => .nil
  | [_], _ => .cons (by simp) .nil
  | a :: b :: rest, adjacent => by
    have tail : (b :: rest).Pairwise R :=
      pairwise_of_adjacent trans (b :: rest) fun j h => adjacent (j + 1) (by simp at h ⊢; omega)
    refine .cons ?_ tail
    intro c member
    rcases List.mem_cons.mp member with rfl | later
    · exact adjacent 0 (by simp)
    · exact trans _ _ _ (adjacent 0 (by simp)) (List.rel_of_pairwise_cons tail later)

/-! ## Merging sorted runs -/

section Merge

variable (order : StrictWeakOrder before)
include order

theorem sorted_merge {xs ys : List α} (left : Sorted before xs) (right : Sorted before ys) :
    Sorted before (xs.merge ys (noLater before)) :=
  List.pairwise_merge (fun _ _ _ ab bc => by
      simp only [noLater_eq_true] at ab bc ⊢
      exact order.noLater_trans ab bc)
    order.noLater_total xs ys left right

/-! What holds of a run's first or last item holds of all of it. -/

theorem before_all_of_last {ys : List α} {x : α} (sorted : Sorted before ys)
    (last : ∀ b ∈ ys.getLast?, before b x = true) : ∀ y ∈ ys, before y x = true := by
  intro y member
  obtain ⟨init, b, rfl⟩ := List.eq_nil_or_concat ys |>.resolve_left (List.ne_nil_of_mem member)
  rw [List.concat_eq_append] at sorted last member
  have atLast := last b (by simp)
  rcases List.mem_append.mp member with inInit | atB
  · exact order.before_of_noLater_of_before
      (by simpa using (List.pairwise_append.mp sorted).2.2 y inInit b (by simp)) atLast
  · rw [List.mem_singleton.mp atB]
    exact atLast

theorem notBefore_all_of_last {xs : List α} {z : α} (sorted : Sorted before xs)
    (last : ∀ a ∈ xs.getLast?, before z a = false) : ∀ x ∈ xs, before z x = false := by
  intro x member
  obtain ⟨init, a, rfl⟩ := List.eq_nil_or_concat xs |>.resolve_left (List.ne_nil_of_mem member)
  rw [List.concat_eq_append] at sorted last member
  have atLast := last a (by simp)
  rcases List.mem_append.mp member with inInit | atA
  · exact order.notBefore_trans atLast
      (by simpa using (List.pairwise_append.mp sorted).2.2 x inInit a (by simp))
  · rw [List.mem_singleton.mp atA]
    exact atLast

theorem before_all_of_head {xs : List α} {z : α} (sorted : Sorted before xs)
    (first : ∀ a ∈ xs.head?, before z a = true) : ∀ x ∈ xs, before z x = true := by
  intro x member
  cases xs with
  | nil => simp at member
  | cons a rest =>
    have atHead := first a (by simp)
    rcases List.mem_cons.mp member with rfl | later
    · exact atHead
    · exact order.before_of_before_of_noLater atHead
        (by simpa using List.rel_of_pairwise_cons sorted later)

end Merge

-- A prefix of the left run that does not come after the right run's head goes first.
theorem merge_take_left {b : α} {bs : List α} :
    ∀ (xs : List α) (k : Nat), (∀ x ∈ xs.take k, before b x = false) →
      xs.merge (b :: bs) (noLater before) =
        xs.take k ++ (xs.drop k).merge (b :: bs) (noLater before)
  | [], _, _ => by simp
  | _ :: _, 0, _ => by simp
  | x :: xs, k + 1, ahead => by
    have head : before b x = false := ahead x (by simp)
    rw [List.cons_merge_cons_pos _ _ _ (by simpa using head),
      merge_take_left xs k (fun y member => ahead y (by simp [member]))]
    simp

-- A prefix of the right run that goes strictly before the left run's head goes first.
theorem merge_take_right {a : α} {as : List α} :
    ∀ (ys : List α) (k : Nat), (∀ y ∈ ys.take k, before y a = true) →
      (a :: as).merge ys (noLater before) =
        ys.take k ++ (a :: as).merge (ys.drop k) (noLater before)
  | [], _, _ => by simp
  | _ :: _, 0, _ => by simp
  | y :: ys, k + 1, ahead => by
    have head : before y a = true := ahead y (by simp)
    rw [List.cons_merge_cons_neg _ _ _ (by simp [noLater, head]),
      merge_take_right ys k (fun z member => ahead z (by simp [member]))]
    simp

/-- A suffix of the right run that goes strictly before no item of the left run comes last. -/
theorem merge_right_suffix (suffix : List α) :
    ∀ (xs ys : List α), (∀ x ∈ xs, ∀ z ∈ suffix, before z x = false) →
      xs.merge (ys ++ suffix) (noLater before) = xs.merge ys (noLater before) ++ suffix
  | [], ys, _ => by simp
  | x :: xs, [], after => by
    cases suffix with
    | nil => simp
    | cons z zs =>
      have head : before z x = false := after x (by simp) z (by simp)
      have rest := merge_right_suffix (z :: zs) xs []
        (fun x' member z' inSuffix => after x' (by simp [member]) z' inSuffix)
      rw [List.nil_append, List.cons_merge_cons_pos _ _ _ (by simpa using head)]
      simpa using rest
  | x :: xs, y :: ys, after => by
    rw [List.cons_append, List.cons_merge_cons, List.cons_merge_cons]
    split
    · have rest := merge_right_suffix suffix xs (y :: ys)
        (fun x' member z inSuffix => after x' (by simp [member]) z inSuffix)
      simpa using rest
    · have rest := merge_right_suffix suffix (x :: xs) ys after
      simpa using rest
termination_by xs ys => xs.length + ys.length

/-- A suffix of the left run that goes strictly after all of the right run comes last. -/
theorem merge_left_suffix (suffix : List α) :
    ∀ (xs ys : List α), (∀ z ∈ suffix, ∀ y ∈ ys, before y z = true) →
      (xs ++ suffix).merge ys (noLater before) = xs.merge ys (noLater before) ++ suffix
  | xs, [], _ => by simp
  | [], y :: ys, after => by
    cases suffix with
    | nil => simp
    | cons z zs =>
      have head : before y z = true := after z (by simp) y (by simp)
      have rest := merge_left_suffix (z :: zs) [] ys
        (fun z' inSuffix y' member => after z' inSuffix y' (by simp [member]))
      rw [List.nil_append, List.cons_merge_cons_neg _ _ _ (by simp [noLater, head])]
      simpa using rest
  | x :: xs, y :: ys, after => by
    rw [List.cons_append, List.cons_merge_cons, List.cons_merge_cons]
    split
    · have rest := merge_left_suffix suffix xs (y :: ys) after
      simpa using rest
    · have rest := merge_left_suffix suffix (x :: xs) ys
        (fun z inSuffix y' member => after z inSuffix y' (by simp [member]))
      simpa using rest
termination_by xs ys => xs.length + ys.length

end Storefront.Sorting
