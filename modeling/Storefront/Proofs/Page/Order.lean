import Storefront.Proofs.Sort.Order
import Storefront.Value.Compare

/-!
# The listing order

Listings are sorted by the instant of a record's timestamp and then by its id, ids in the order
of their code points. Code points of characters are distinct, the stand-ins for lone surrogates
included, so the order of texts is a total order, and so is the order of keys. The store sorts
the tuple of a record's timestamp and id; for aware timestamps that comparison is the key order.
-/

namespace Storefront.Text

theorem codePoint_injective : Function.Injective codePoint := by
  intro c d same
  have cValid := c.valid
  have dValid := d.valid
  simp only [UInt32.isValidChar, Nat.isValidChar, Char.toNat_val] at cValid dValid
  apply Char.toNat_inj.mp
  unfold codePoint surrogateShelf at same
  split at same <;> split at same <;> omega

@[simp] theorem compareCodes_self : ∀ cs, compareCodes cs cs = .eq
  | [] => rfl
  | c :: cs => by simp [compareCodes, compareCodes_self cs]

theorem compareCodes_swap : ∀ cs ds, compareCodes ds cs = (compareCodes cs ds).swap
  | [], [] => rfl
  | [], _ :: _ => rfl
  | _ :: _, [] => rfl
  | c :: cs, d :: ds => by
    by_cases same : c = d
    · subst same
      simp [compareCodes, compareCodes_swap cs ds]
    · simp [compareCodes, same, Ne.symm same, Nat.compare_swap]

theorem compareCodes_eq_iff : ∀ {cs ds}, compareCodes cs ds = .eq ↔ cs = ds
  | [], [] => by simp [compareCodes]
  | [], _ :: _ => by simp [compareCodes]
  | _ :: _, [] => by simp [compareCodes]
  | c :: cs, d :: ds => by
    by_cases same : c = d
    · simp [compareCodes, same, compareCodes_eq_iff]
    · have codes : codePoint c ≠ codePoint d := fun h => same (codePoint_injective h)
      simp [compareCodes, same, codes]

theorem compareCodes_lt_trans : ∀ {as bs cs}, compareCodes as bs = .lt →
    compareCodes bs cs = .lt → compareCodes as cs = .lt
  | [], [], _, ab, _ => by simp [compareCodes] at ab
  | [], _ :: _, [], _, bc => by simp [compareCodes] at bc
  | [], _ :: _, _ :: _, _, _ => rfl
  | _ :: _, [], _, ab, _ => by simp [compareCodes] at ab
  | _ :: _, _ :: _, [], _, bc => by simp [compareCodes] at bc
  | a :: as, b :: bs, c :: cs, ab, bc => by
    simp only [compareCodes, beq_iff_eq] at ab bc ⊢
    by_cases aIsB : a = b <;> by_cases bIsC : b = c
    · subst aIsB bIsC
      simpa using compareCodes_lt_trans (by simpa using ab) (by simpa using bc)
    · subst aIsB
      simpa [bIsC] using bc
    · subst bIsC
      simpa [aIsB] using ab
    · simp only [aIsB, bIsC, if_false, Nat.compare_eq_lt] at ab bc
      have aIsNotC : a ≠ c := by
        rintro rfl
        omega
      simp only [aIsNotC, if_false, Nat.compare_eq_lt]
      omega

@[simp] theorem compareText_self (a : String) : compareText a a = .eq :=
  compareCodes_self a.toList

theorem compareText_swap (a b : String) : compareText b a = (compareText a b).swap :=
  compareCodes_swap a.toList b.toList

theorem compareText_eq_iff {a b : String} : compareText a b = .eq ↔ a = b := by
  rw [compareText, compareCodes_eq_iff, String.toList_inj]

theorem compareText_lt_trans {a b c : String} (ab : compareText a b = .lt)
    (bc : compareText b c = .lt) : compareText a c = .lt :=
  compareCodes_lt_trans ab bc

end Storefront.Text

namespace Storefront

/-- Where a record stands in a listing: the instant of its timestamp, as the wall clock of UTC,
and its id. -/
structure ListingKey where
  instant : Int
  id : String
deriving DecidableEq, Repr

namespace ListingKey

/-- Keys in order: by instant, then by id. -/
def order (p q : ListingKey) : Ordering :=
  if p.instant = q.instant then Text.compareText p.id q.id else compare p.instant q.instant

/-- The first key comes strictly before the second. -/
def before (p q : ListingKey) : Bool := p.order q == .lt

theorem order_swap (p q : ListingKey) : q.order p = (p.order q).swap := by
  unfold order
  by_cases same : p.instant = q.instant
  · simp only [same, if_true]
    exact Text.compareText_swap p.id q.id
  · simp [same, Ne.symm same, Int.compare_swap]

theorem order_eq_iff {p q : ListingKey} : p.order q = .eq ↔ p = q := by
  unfold order
  by_cases same : p.instant = q.instant
  · cases p
    cases q
    simp_all [Text.compareText_eq_iff]
  · have differ : p ≠ q := fun h => same (h ▸ rfl)
    simp [same, differ]

theorem order_lt_trans {p q r : ListingKey} (pq : p.order q = .lt) (qr : q.order r = .lt) :
    p.order r = .lt := by
  unfold order at *
  by_cases pSame : p.instant = q.instant <;> by_cases qSame : q.instant = r.instant
  · simp only [pSame, qSame, if_true] at pq qr ⊢
    exact Text.compareText_lt_trans pq qr
  · simp only [pSame, qSame, if_true, if_false] at pq qr ⊢
    exact qr
  · simp only [pSame, ← qSame, if_true, if_false] at pq qr ⊢
    exact pq
  · simp only [pSame, qSame, if_false, Int.compare_eq_lt] at pq qr
    have differ : p.instant ≠ r.instant := by omega
    simp only [differ, if_false, Int.compare_eq_lt]
    omega

theorem before_iff {p q : ListingKey} : p.before q = true ↔ p.order q = .lt := by
  simp [before]

theorem before_self (p : ListingKey) : p.before p = false := by
  have self : p.order p = .eq := order_eq_iff.2 rfl
  simp [before, self]

theorem before_trans {p q r : ListingKey} (pq : p.before q = true) (qr : q.before r = true) :
    p.before r = true :=
  before_iff.2 (order_lt_trans (before_iff.1 pq) (before_iff.1 qr))

theorem lt_holds_order (p q : ListingKey) : CmpOp.lt.holds (p.order q) = p.before q := rfl

theorem gt_holds_order (p q : ListingKey) : CmpOp.gt.holds (p.order q) = q.before p := by
  rw [before, order_swap p q]
  cases p.order q <;> rfl

/-- Of two keys that differ, one comes before the other. -/
theorem before_or_eq_of_not_before {p q : ListingKey} (notBefore : p.before q = false) :
    q.before p = true ∨ p = q := by
  cases ordered : p.order q with
  | lt => simp [before, ordered] at notBefore
  | eq => exact .inr (order_eq_iff.1 ordered)
  | gt => exact .inl (before_iff.2 (by rw [order_swap, ordered]; rfl))

/-- Any map into keys orders its source as a strict weak order: things of one key are the
classes. -/
theorem strictWeakOrder_comap {α : Type} (key : α → ListingKey) :
    Sorting.StrictWeakOrder fun a b => (key a).before (key b) where
  irrefl a := before_self (key a)
  trans := before_trans
  notBefore_trans {a b c} ab bc := by
    rcases before_or_eq_of_not_before ab with ba | same <;>
      rcases before_or_eq_of_not_before bc with cb | same'
    · cases ac : (key a).before (key c)
      · rfl
      · have := before_self (key a)
        rw [before_trans (before_trans ac cb) ba] at this
        exact this
    · rw [← same']
      cases ac : (key a).before (key b)
      · rfl
      · have := before_self (key a)
        rw [before_trans ac ba] at this
        exact this
    · rw [same]
      exact bc
    · rw [same, ← same']
      exact before_self (key b)

/-- Things sorted with no key after the next, whose keys are distinct, are in strictly
ascending order of key. -/
theorem ascending_of_sorted {α : Type} {key : α → ListingKey} {ys : List α}
    (sorted : Sorting.Sorted (fun a b => (key a).before (key b)) ys)
    (distinct : (ys.map key).Nodup) :
    ys.Pairwise fun a b => (key a).before (key b) := by
  have differ : ys.Pairwise fun a b => key a ≠ key b := List.pairwise_map.mp distinct
  refine (List.Pairwise.and sorted differ).imp ?_
  rintro a b ⟨notLater, differs⟩
  rcases before_or_eq_of_not_before (Sorting.noLater_eq_true.mp notLater) with earlier | same
  · exact earlier
  · exact absurd same.symm differs

/-- Things of distinct keys have an order strictly ascending by key. -/
theorem exists_ascending {α : Type} (key : α → ListingKey) (l : List α)
    (distinct : (l.map key).Nodup) :
    ∃ S : List α, S.Perm l ∧ S.Pairwise fun a b => (key a).before (key b) := by
  have order := strictWeakOrder_comap key
  let noLater := Sorting.noLater fun a b => (key a).before (key b)
  have sorted := @List.pairwise_mergeSort _ noLater
    (fun a b c ab bc => Sorting.noLater_eq_true.mpr
      (order.noLater_trans (Sorting.noLater_eq_true.mp ab) (Sorting.noLater_eq_true.mp bc)))
    order.noLater_total l
  have perm := List.mergeSort_perm l noLater
  exact ⟨_, perm, ascending_of_sorted sorted ((perm.map key).nodup_iff.mpr distinct)⟩

/-- In a list ascending by key, the things after the `i`-th are those of a later key. -/
theorem filter_after_getElem {α : Type} {key : α → ListingKey} :
    ∀ {S : List α}, S.Pairwise (fun a b => (key a).before (key b)) → ∀ {i : Nat} (h : i < S.length),
      S.filter (fun b => (key S[i]).before (key b)) = S.drop (i + 1)
  | [], _, _, h => absurd h (Nat.not_lt_zero _)
  | x :: xs, ascending, 0, _ => by
    have later := (List.pairwise_cons.mp ascending).1
    show (x :: xs).filter (fun b => (key x).before (key b)) = xs
    rw [List.filter_cons_of_neg (by simp [before_self]), List.filter_eq_self.mpr later]
  | x :: xs, ascending, i + 1, h => by
    obtain ⟨later, rest⟩ := List.pairwise_cons.mp ascending
    have bound : i < xs.length := Nat.lt_of_succ_lt_succ h
    have notBefore : (key xs[i]).before (key x) = false := by
      cases back : (key xs[i]).before (key x)
      · rfl
      · have := before_trans back (later xs[i] (List.getElem_mem _))
        rw [before_self] at this
        cases this
    rw [List.getElem_cons_succ, List.filter_cons_of_neg (by simp [notBefore]),
      filter_after_getElem rest bound, List.drop_succ_cons]

end ListingKey

/-- The tuple of an aware timestamp and an id text compares as their key does. -/
theorem Value.test_time_id {op : CmpOp} (notEq : op ≠ .eq) {t u : DateTime} {x y : String}
    (tAware : t.offset.isSome) (uAware : u.offset.isSome) :
    Value.test op (.tuple [.time t, .str x]) (.tuple [.time u, .str y]) =
      some (op.holds (ListingKey.order ⟨t.utcWall, x⟩ ⟨u.utcWall, y⟩)) := by
  obtain ⟨o, tOffset⟩ := Option.isSome_iff_exists.mp tAware
  obtain ⟨o', uOffset⟩ := Option.isSome_iff_exists.mp uAware
  cases op <;> first
    | exact absurd rfl notEq
    | by_cases same : t.utcWall = u.utcWall <;> by_cases sameId : x = y <;>
        simp [Value.test, Value.testItems, Value.bothNaN, Value.same, DateTime.same,
          DateTime.comparable, DateTime.cmp, tOffset, uOffset, same, sameId, ListingKey.order]

end Storefront
