import Storefront.Proofs.Sort.Runs

/-!
# The run stack and the whole sort

The runs waiting to be merged are kept on a stack, bottom first; together they cut the items
before the current position into consecutive nonempty sorted stretches (`Tiles`). Merging two
neighbouring runs replaces their stretches by their merge, trimmed first of the items already
in place; stacking a new run, collapsing the stack and collapsing it at the end all keep the
cut. When the last run is stacked the stretches cover every item, and after the final collapse
one run does: the items come out sorted, and a permutation of those given.
-/

namespace Storefront.Sorting

variable {ε α : Type} {lt : α → α → Except ε Bool} {before : α → α → Bool}

/-- The runs cut the items from `start` before `lo` into consecutive nonempty sorted
stretches, bottom first. -/
def Tiles (before : α → α → Bool) (keys : List α) : Nat → List Run → Nat → Prop
  | start, [], lo => start = lo
  | start, r :: rs, lo => r.base = start ∧ 0 < r.len ∧
      Sorted before ((keys.drop start).take r.len) ∧ Tiles before keys (start + r.len) rs lo

section Tiles

variable {keys : List α}

theorem Tiles.le : ∀ {start lo : Nat} {rs : List Run}, Tiles before keys start rs lo → start ≤ lo
  | _, _, [], tiles => Nat.le_of_eq tiles
  | _, _, _ :: _, ⟨_, _, _, rest⟩ => Nat.le_trans (Nat.le_add_right _ _) rest.le

theorem tiles_append : ∀ {start lo : Nat} {rs rs' : List Run},
    Tiles before keys start (rs ++ rs') lo ↔
      ∃ mid, Tiles before keys start rs mid ∧ Tiles before keys mid rs' lo
  | start, lo, [], rs' => by simp [Tiles]
  | start, lo, r :: rs, rs' => by
    simp only [List.cons_append, Tiles, tiles_append]
    constructor
    · rintro ⟨base, positive, sorted, mid, front, back⟩
      exact ⟨mid, ⟨base, positive, sorted, front⟩, back⟩
    · rintro ⟨mid, ⟨base, positive, sorted, front⟩, back⟩
      exact ⟨base, positive, sorted, mid, front, back⟩

/-- The cut reads only the items it covers. -/
theorem Tiles.frame {keys' : List α} :
    ∀ {start lo : Nat} {rs : List Run}, Tiles before keys start rs lo →
      (keys'.drop start).take (lo - start) = (keys.drop start).take (lo - start) →
      Tiles before keys' start rs lo
  | _, _, [], tiles, _ => tiles
  | start, lo, r :: rs, ⟨base, positive, sorted, rest⟩, same => by
    have fits := rest.le
    have segment : (keys'.drop start).take r.len = (keys.drop start).take r.len := by
      have := congrArg (List.take r.len) same
      simpa [List.take_take, Nat.min_eq_left (by omega : r.len ≤ lo - start)] using this
    refine ⟨base, positive, segment ▸ sorted, rest.frame ?_⟩
    have := congrArg (List.drop r.len) same
    simpa [List.drop_take, List.drop_drop, Nat.add_comm, show lo - start - r.len =
      lo - (start + r.len) by omega] using this

theorem Tiles.push {start lo n : Nat} {rs : List Run} (tiles : Tiles before keys start rs lo)
    (positive : 0 < n) (sorted : Sorted before ((keys.drop lo).take n)) (power : Nat) :
    Tiles before keys start (rs ++ [⟨lo, n, power⟩]) (lo + n) :=
  tiles_append.2 ⟨lo, tiles, rfl, positive, sorted, rfl⟩

/-- The cut does not depend on the depths recorded on the runs. -/
theorem Tiles.of_spans : ∀ {start lo : Nat} {rs rs' : List Run},
    Tiles before keys start rs lo →
    rs'.map (fun r => (r.base, r.len)) = rs.map (fun r => (r.base, r.len)) →
    Tiles before keys start rs' lo
  | _, _, [], [], tiles, _ => tiles
  | _, _, _ :: _, [], _, spans => by simp at spans
  | _, _, [], _ :: _, _, spans => by simp at spans
  | _, _, r :: rs, r' :: rs', ⟨base, positive, sorted, rest⟩, spans => by
    simp only [List.map_cons, List.cons.injEq, Prod.mk.injEq] at spans
    obtain ⟨⟨sameBase, sameLen⟩, spans⟩ := spans
    exact ⟨sameBase ▸ base, sameLen ▸ positive, sameLen ▸ sorted,
      sameLen ▸ rest.of_spans spans⟩

end Tiles

/-! ## Merging two neighbouring runs -/

/-- Trimming before a merge: the left run's items the right run's first does not go before,
and the right run's items that go before none of the rest of the left run, are in place. -/
theorem merge_trimmed {left right : List α} (k nb : Nat)
    (inPlace : ∀ x ∈ left.take k, ∀ y ∈ right.head?, before y x = false)
    (after : ∀ y ∈ right.drop nb, ∀ x ∈ left.drop k, before y x = false) :
    left.merge right (noLater before) =
      left.take k ++ (left.drop k).merge (right.take nb) (noLater before) ++ right.drop nb := by
  have trimmedLeft : left.merge right (noLater before) =
      left.take k ++ (left.drop k).merge right (noLater before) := by
    cases right with
    | nil => simp
    | cons y ys => exact merge_take_left left k fun x member => inPlace x member y (by simp)
  have trimmedRight : (left.drop k).merge right (noLater before) =
      (left.drop k).merge (right.take nb) (noLater before) ++ right.drop nb := by
    conv => lhs; rw [← List.take_append_drop nb right]
    exact merge_right_suffix _ _ _ fun x member z inSuffix => after z inSuffix x member
  rw [trimmedLeft, trimmedRight, List.append_assoc]

theorem merged_stack (front back : List Run) (a b : Run) :
    ((front ++ a :: b :: back).toArray.set! front.length { a with len := a.len + b.len }
      |>.eraseIdxIfInBounds (front.length + 1)) =
      (front ++ { a with len := a.len + b.len } :: back).toArray := by
  apply Array.ext'
  simp [List.set_append_right, List.eraseIdx_append_of_length_le]

/-- Either merge of two runs ready to be merged leaves their merge. -/
theorem merge_run [Inhabited α] {pre left right post : List α} {s : Sorter α}
    (ready : Mergeable lt before left right) (leftOne : 1 ≤ left.length)
    (rightOne : 1 ≤ right.length) (layout : s.keys.toList = pre ++ left ++ right ++ post) :
    ∃ s', (if left.length ≤ right.length then mergeLo lt pre.length left.length right.length
        else mergeHi lt pre.length left.length right.length).run s = pure ((), s') ∧
      s'.keys.toList = pre ++ left.merge right (noLater before) ++ post := by
  split
  · exact mergeLo_run ready leftOne rightOne layout
  · exact mergeHi_run ready leftOne rightOne layout

/-- Two neighbouring stretches, and the items before and after them. -/
theorem split_stretches (keys : List α) (base n m : Nat) :
    keys = keys.take base ++ (keys.drop base).take n ++ (keys.drop (base + n)).take m ++
      keys.drop (base + n + m) := by
  have second := drop_split keys (Nat.le_add_right (base + n) m)
  have first := drop_split keys (Nat.le_add_right base n)
  rw [Nat.add_sub_cancel_left] at first second
  simp only [List.append_assoc]
  rw [← second, ← first, List.take_append_drop]

/-- Merging the run at `i` with the next: the stack gets one run in their place, and their
stretches are replaced by their merge. -/
theorem mergeAt_run [Inhabited α] (order : StrictWeakOrder before) {s : Sorter α}
    {front back : List Run} {a b : Run} {lo : Nat}
    (decides : Decides lt before (· ∈ s.keys.toList))
    (tiles : Tiles before s.keys.toList 0 (front ++ a :: b :: back) lo)
    (within : lo ≤ s.keys.size) :
    ∃ s', (mergeAt lt (front ++ a :: b :: back).toArray front.length).run s =
        pure ((front ++ { a with len := a.len + b.len } :: back).toArray, s') ∧
      s'.keys.toList = s.keys.toList.take a.base ++
        ((s.keys.toList.drop a.base).take a.len).merge
          ((s.keys.toList.drop (a.base + a.len)).take b.len) (noLater before) ++
        s.keys.toList.drop (a.base + a.len + b.len) := by
  obtain ⟨mid, _, rest⟩ := tiles_append.1 tiles
  obtain ⟨aBase, aPos, aSorted, bBase, bPos, bSorted, backTiles⟩ := rest
  subst aBase
  have fits := backTiles.le
  have size : s.keys.toList.length = s.keys.size := Array.length_toList
  have readA : (front ++ a :: b :: back).toArray.getD front.length ⟨0, 0, 0⟩ = a := by
    simp [Array.getD_eq_getD_getElem?]
  have readB : (front ++ a :: b :: back).toArray.getD (front.length + 1) ⟨0, 0, 0⟩ = b := by
    simp [Array.getD_eq_getD_getElem?]
  have keyMem : ∀ {i}, i < s.keys.size → s.keys.getD i default ∈ s.keys.toList := fun below => by
    rw [getD_toList]
    exact getD_mem (by omega)
  have stretchMem : ∀ {base n x}, x ∈ (s.keys.toList.drop base).take n → x ∈ s.keys.toList :=
    fun member => List.mem_of_mem_drop (List.mem_of_mem_take member)
  have whole := split_stretches s.keys.toList a.base a.len b.len
  simp only [mergeAt, StateT.run_bind, StateT.run_get, pure_bind, readA, readB, merged_stack,
    bBase]
  -- where the right run's first item goes in the left run
  generalize headAt : s.keys.getD (a.base + a.len) default = head
  have headMem : head ∈ s.keys.toList := headAt ▸ keyMem (by omega)
  have bHead : ((s.keys.toList.drop (a.base + a.len)).take b.len).head? = some head := by
    rw [← headAt, getD_toList]
    exact stretch_head? _ bPos (by omega)
  obtain ⟨k, foundK, kLe, kIn, kOut⟩ := gallopRight_sorted order aSorted (by omega) aPos
    fun x member => decides head x headMem (stretchMem member)
  rw [foundK, liftE_run, pure_bind]
  dsimp only
  have inPlace : ∀ x ∈ ((s.keys.toList.drop a.base).take a.len).take k,
      ∀ y ∈ ((s.keys.toList.drop (a.base + a.len)).take b.len).head?, before y x = false := by
    intro x member y first
    rw [bHead, Option.mem_def, Option.some.injEq] at first
    exact first ▸ kIn x member
  -- with nothing of the right run to go before the rest of the left run, both stay in place
  have joined : (∀ y ∈ (s.keys.toList.drop (a.base + a.len)).take b.len,
      ∀ x ∈ ((s.keys.toList.drop a.base).take a.len).drop k, before y x = false) →
      ((s.keys.toList.drop a.base).take a.len).merge
          ((s.keys.toList.drop (a.base + a.len)).take b.len) (noLater before) =
        (s.keys.toList.drop a.base).take a.len ++ (s.keys.toList.drop (a.base + a.len)).take b.len := by
    intro after
    rw [merge_trimmed k 0 inPlace (by simpa using after), List.take_zero, List.merge_right,
      List.drop_zero, List.take_append_drop]
  by_cases allIn : a.len - k = 0
  · rw [if_pos (by simpa using allIn)]
    refine ⟨s, rfl, ?_⟩
    rw [joined fun y _ x member => absurd member (by
      rw [List.drop_eq_nil_of_le (by simp; omega)]
      exact List.not_mem_nil), ← List.append_assoc]
    exact whole
  rw [if_neg (by simpa using allIn), StateT.run_bind]
  -- where the left run's last item goes in the right run
  generalize lastAt : s.keys.getD (a.base + k + (a.len - k) - 1) default = last
  have lastMem : last ∈ s.keys.toList := lastAt ▸ keyMem (by omega)
  have aLast : ((s.keys.toList.drop a.base).take a.len).getLast? = some last := by
    rw [← lastAt, getD_toList, show a.base + k + (a.len - k) - 1 = a.base + a.len - 1 by omega]
    exact stretch_getLast? _ aPos (by omega)
  obtain ⟨nb, foundNb, nbLe, nbIn, nbOut⟩ := gallopLeft_sorted order bSorted (by omega)
    (by omega : b.len - 1 < b.len) fun x member => decides x last (stretchMem member) lastMem
  rw [foundNb, liftE_run, pure_bind]
  dsimp only
  have after : ∀ y ∈ ((s.keys.toList.drop (a.base + a.len)).take b.len).drop nb,
      ∀ x ∈ ((s.keys.toList.drop a.base).take a.len).drop k, before y x = false :=
    fun y member x inRest => notBefore_all_of_last order aSorted
      (by simpa [aLast] using nbOut y member) x (List.mem_of_mem_drop inRest)
  by_cases noneBefore : nb = 0
  · rw [if_pos (by simpa using noneBefore)]
    refine ⟨s, rfl, ?_⟩
    rw [joined (by simpa [noneBefore] using after), ← List.append_assoc]
    exact whole
  rw [if_neg (by simpa using noneBefore)]
  -- the rest of the left run and the start of the right run are merged where they stand
  have ready : Mergeable lt before (((s.keys.toList.drop a.base).take a.len).drop k)
      (((s.keys.toList.drop (a.base + a.len)).take b.len).take nb) := by
    refine ⟨order, aSorted.drop, bSorted.take, fun y first x inRest => ?_,
      fun y member x last => ?_, decides.mono fun x member => ?_⟩
    · rw [List.head?_take, if_neg noneBefore, bHead, Option.mem_def, Option.some.injEq] at first
      exact first ▸ kOut x (List.mem_of_mem_head? inRest)
    · rw [List.getLast?_drop, if_neg (by simp; omega), aLast, Option.mem_def,
        Option.some.injEq] at last
      exact last ▸ nbIn y member
    · rcases List.mem_append.mp member with inLeft | inRight
      · exact stretchMem (List.mem_of_mem_drop inLeft)
      · exact stretchMem (List.mem_of_mem_take inRight)
  have front : s.keys.toList.take (a.base + k) =
      s.keys.toList.take a.base ++ ((s.keys.toList.drop a.base).take a.len).take k := by
    rw [List.take_add, List.take_take, Nat.min_eq_left kLe]
  have layout : s.keys.toList = s.keys.toList.take (a.base + k) ++
      ((s.keys.toList.drop a.base).take a.len).drop k ++
      ((s.keys.toList.drop (a.base + a.len)).take b.len).take nb ++
      (((s.keys.toList.drop (a.base + a.len)).take b.len).drop nb ++
        s.keys.toList.drop (a.base + a.len + b.len)) := by
    rw [front]
    simp only [List.append_assoc]
    rw [← List.append_assoc (List.take nb _), List.take_append_drop,
      ← List.append_assoc (List.take k _), List.take_append_drop]
    simpa only [List.append_assoc] using whole
  obtain ⟨s', ran, keys'⟩ := merge_run ready (by simp; omega) (by simp; omega) layout
  have preLength : (s.keys.toList.take (a.base + k)).length = a.base + k := by simp; omega
  have leftLength : (((s.keys.toList.drop a.base).take a.len).drop k).length = a.len - k := by
    simp; omega
  have rightLength : (((s.keys.toList.drop (a.base + a.len)).take b.len).take nb).length = nb := by
    simp; omega
  rw [preLength, leftLength, rightLength] at ran
  refine ⟨s', ?_, ?_⟩
  · by_cases lower : a.len - k ≤ nb
    · rw [if_pos lower] at ran ⊢
      simp only [StateT.run_bind, ran, pure_bind]
      rfl
    · rw [if_neg lower] at ran ⊢
      simp only [StateT.run_bind, ran, pure_bind]
      rfl
  · rw [keys', merge_trimmed k nb inPlace after, front]
    simp only [List.append_assoc]

theorem exists_split_two {β : Type} {l : List β} {i : Nat} (below : i + 1 < l.length) :
    ∃ (front : List β) (a b : β) (back : List β), l = front ++ a :: b :: back ∧ front.length = i := by
  refine ⟨l.take i, l[i], l[i + 1], l.drop (i + 1 + 1), ?_, by simp; omega⟩
  rw [← List.drop_eq_getElem_cons, ← List.drop_eq_getElem_cons, List.take_append_drop]

/-- Between steps of the sort: the items are a permutation of those given, and the stacked
runs cut them into sorted stretches up to `lo`. -/
structure Stacked (before : α → α → Bool) (xs : List α) (s : Sorter α) (st : List Run)
    (lo : Nat) : Prop where
  perm : s.keys.toList.Perm xs
  tiles : Tiles before s.keys.toList 0 st lo
  within : lo ≤ s.keys.size

/-- A merge of two neighbouring runs keeps the items, the cut (one run standing for the two)
and every item from `lo` on. -/
theorem mergeAt_stacked [Inhabited α] (order : StrictWeakOrder before) {xs : List α}
    {s : Sorter α} {st : Array Run} {i lo : Nat} (decides : Decides lt before (· ∈ xs))
    (stacked : Stacked before xs s st.toList lo) (below : i + 1 < st.size) :
    ∃ st' s', (mergeAt lt st i).run s = pure (st', s') ∧ st'.size + 1 = st.size ∧
      Stacked before xs s' st'.toList lo ∧ s'.keys.toList.drop lo = s.keys.toList.drop lo := by
  obtain ⟨front, a, b, back, split, rfl⟩ := exists_split_two (l := st.toList) (by simpa using below)
  obtain rfl : st = (front ++ a :: b :: back).toArray := Array.ext' split
  have tiles : Tiles before s.keys.toList 0 (front ++ a :: b :: back) lo := stacked.tiles
  have decides := decides.mono fun x member => stacked.perm.mem_iff.mp member
  have within := stacked.within
  obtain ⟨s', ran, keys'⟩ := mergeAt_run order decides tiles within
  obtain ⟨mid, frontTiles, rest⟩ := tiles_append.1 tiles
  obtain ⟨aBase, aPos, aSorted, bBase, bPos, bSorted, backTiles⟩ := rest
  subst aBase
  have fits := backTiles.le
  have size : s.keys.toList.length = s.keys.size := Array.length_toList
  have frontLength : (s.keys.toList.take a.base).length = a.base := by simp; omega
  have mergedLength : (((s.keys.toList.drop a.base).take a.len).merge
      ((s.keys.toList.drop (a.base + a.len)).take b.len) (noLater before)).length =
        a.len + b.len := by
    simp; omega
  -- the items before the merged stretch, the stretch itself, and those after it
  have keptFront : s'.keys.toList.take a.base = s.keys.toList.take a.base := by
    rw [keys', List.append_assoc, List.take_left' frontLength]
  have merged : (s'.keys.toList.drop a.base).take (a.len + b.len) =
      ((s.keys.toList.drop a.base).take a.len).merge
        ((s.keys.toList.drop (a.base + a.len)).take b.len) (noLater before) := by
    rw [keys', List.append_assoc, List.drop_left' frontLength, List.take_left' mergedLength]
  have keptBack : s'.keys.toList.drop (a.base + a.len + b.len) =
      s.keys.toList.drop (a.base + a.len + b.len) := by
    rw [Nat.add_assoc, ← List.drop_drop, keys', List.append_assoc, List.drop_left' frontLength,
      List.drop_left' mergedLength, Nat.add_assoc]
  have perm : s'.keys.toList.Perm s.keys.toList := by
    rw [keys']
    conv => rhs; rw [split_stretches s.keys.toList a.base a.len b.len]
    simpa only [List.append_assoc] using
      List.Perm.append_left _ (List.Perm.append_right _ (List.merge_perm_append _))
  have backTiles : Tiles before s'.keys.toList (a.base + a.len + b.len) back lo :=
    backTiles.frame (by rw [keptBack])
  rw [Nat.add_assoc] at backTiles
  refine ⟨_, s', ran, by simp; omega, ⟨perm.trans stacked.perm, ?_, ?_⟩, ?_⟩
  · exact tiles_append.2 ⟨a.base, frontTiles.frame (by simpa using keptFront), rfl,
      Nat.add_pos_left aPos _, merged ▸ sorted_merge order aSorted bSorted, backTiles⟩
  · rw [← Array.length_toList, perm.length_eq, Array.length_toList]
    exact within
  · have after : lo = a.base + a.len + b.len + (lo - (a.base + a.len + b.len)) := by omega
    rw [after, ← List.drop_drop (j := a.base + a.len + b.len),
      ← List.drop_drop (j := a.base + a.len + b.len), keptBack]

/-! ## Collapsing the stack -/

section Collapse

variable [Inhabited α] (order : StrictWeakOrder before) {xs : List α} {lo : Nat}
  (decides : Decides lt before (· ∈ xs))
include order decides

/-- Merging the runs below a deeper boundary, however many, keeps the sort's state. -/
theorem collapse_stacked (p : Nat) : ∀ (fuel : Nat) (st : Array Run) (s : Sorter α),
    Stacked before xs s st.toList lo →
      ∃ st' s', (foundRun.collapse lt p fuel st).run s = pure (st', s') ∧
        Stacked before xs s' st'.toList lo ∧ s'.keys.toList.drop lo = s.keys.toList.drop lo
  | 0, st, s, stacked => ⟨st, s, rfl, stacked, rfl⟩
  | fuel + 1, st, s, stacked => by
    rw [foundRun.collapse]
    by_cases deeper : (st.size > 1 && (st.getD (st.size - 2) ⟨0, 0, 0⟩).power > p) = true
    · rw [if_pos deeper, StateT.run_bind]
      have below : st.size - 2 + 1 < st.size := by
        simp only [Bool.and_eq_true, decide_eq_true_eq] at deeper
        omega
      obtain ⟨merged, s1, ran1, _, stacked1, kept1⟩ := mergeAt_stacked order decides stacked below
      obtain ⟨st', s', ran, stacked', kept⟩ := collapse_stacked p fuel merged s1 stacked1
      rw [ran1, pure_bind]
      exact ⟨st', s', ran, stacked', kept.trans kept1⟩
    · rw [if_neg deeper]
      exact ⟨st, s, rfl, stacked, rfl⟩

/-- Before a new run is stacked: the merges it calls for, and the depth recorded on the top
run, keep the sort's state. -/
theorem foundRun_stacked (total n2 : Nat) {st : Array Run} {s : Sorter α}
    (stacked : Stacked before xs s st.toList lo) :
    ∃ st' s', (foundRun lt total n2 st).run s = pure (st', s') ∧
      Stacked before xs s' st'.toList lo ∧ s'.keys.toList.drop lo = s.keys.toList.drop lo := by
  unfold foundRun
  split
  · exact ⟨st, s, rfl, stacked, rfl⟩
  · obtain ⟨collapsed, s', ran, stacked', kept⟩ :=
      collapse_stacked order decides (power _ _ n2 total) (st.size + 1) st s stacked
    rw [StateT.run_bind, ran, pure_bind]
    refine ⟨_, s', rfl, ⟨stacked'.perm, stacked'.tiles.of_spans ?_, stacked'.within⟩, kept⟩
    refine List.ext_getElem (by simp) fun j _ _ => ?_
    simp only [Array.toList_modify, List.getElem_map, List.getElem_modify]
    split <;> rfl

/-- The final collapse merges every run but one, given a step for each merge. -/
theorem collapseAll_stacked : ∀ (fuel : Nat) (st : Array Run) (s : Sorter α),
    st.size ≤ fuel + 1 → Stacked before xs s st.toList lo →
      ∃ s', (collapseAll lt fuel st).run s = pure ((), s') ∧
        ∃ last : List Run, last.length ≤ 1 ∧ Stacked before xs s' last lo
  | 0, st, s, small, stacked => ⟨s, rfl, st.toList, by simpa using small, stacked⟩
  | fuel + 1, st, s, small, stacked => by
    rw [collapseAll]
    by_cases several : st.size > 1
    · rw [if_pos several]
      have step : ∀ i, i + 1 < st.size → ∃ s', ((mergeAt lt st i).run s >>= fun p =>
          (collapseAll lt fuel p.1).run p.2) = pure ((), s') ∧
          ∃ last : List Run, last.length ≤ 1 ∧ Stacked before xs s' last lo := by
        intro i below
        obtain ⟨merged, s1, ran1, shrunk, stacked1, _⟩ :=
          mergeAt_stacked order decides stacked below
        rw [ran1, pure_bind]
        exact collapseAll_stacked fuel merged s1 (by omega) stacked1
      -- the run below the top is merged with its shorter neighbour
      rw [StateT.run_bind]
      split <;> exact step _ (by omega)
    · rw [if_neg several]
      exact ⟨s, rfl, st.toList, by simp; omega, stacked⟩

end Collapse

end Storefront.Sorting
