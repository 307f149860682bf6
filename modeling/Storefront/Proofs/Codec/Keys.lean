import Storefront.Hint
import Mathlib

/-!
# Keys of hints

The registry files a codec under the key of its hint: a class name, `None`, or bracketed text in
which a union lists the keys of its members sorted and joined by commas. Every key is a *piece*:
not empty, its brackets balanced, each of its commas inside a bracket. Pieces joined by commas
split back into the pieces (`joined_injective`), so a key determines its hint up to the order and
repeats of union members (`key_eq_union` and its kin): that is all by which a codec the registry answers
with can differ from the one built for the hint asked for.
-/

namespace Storefront

namespace Hint

/-! ## Pieces of bracketed text -/

/-- How a character moves the bracket depth. -/
def bracketStep (c : Char) : Int := if c = '[' then 1 else if c = ']' then -1 else 0

/-- The bracket depth at the end of a text read from depth zero. -/
def depth (cs : List Char) : Int := (cs.map bracketStep).sum

/-- Read from depth `d`, every comma of the text stands inside a bracket. -/
def CommasInside : Int → List Char → Prop
  | _, [] => True
  | d, c :: cs => (c = ',' → 0 < d) ∧ CommasInside (d + bracketStep c) cs

/-- A text that a comma-separated list holds as one item. -/
structure Piece (cs : List Char) : Prop where
  nonempty : cs ≠ []
  balanced : depth cs = 0
  commas : CommasInside 0 cs

@[simp] theorem depth_nil : depth [] = 0 := rfl

@[simp] theorem depth_cons (c : Char) (cs : List Char) :
    depth (c :: cs) = bracketStep c + depth cs := by
  simp [depth]

@[simp] theorem depth_append (a b : List Char) : depth (a ++ b) = depth a + depth b := by
  simp [depth]

theorem commasInside_append {d : Int} {a b : List Char} :
    CommasInside d (a ++ b) ↔ CommasInside d a ∧ CommasInside (d + depth a) b := by
  induction a generalizing d with
  | nil => simp [CommasInside]
  | cons c a ih => simp only [List.cons_append, CommasInside, ih, depth_cons, Int.add_assoc, and_assoc]

theorem CommasInside.mono {d d' : Int} {cs : List Char} (inside : CommasInside d cs)
    (le : d ≤ d') : CommasInside d' cs := by
  induction cs generalizing d d' with
  | nil => trivial
  | cons c cs ih => exact ⟨fun comma => lt_of_lt_of_le (inside.1 comma) le, ih inside.2 (by omega)⟩

/-- Text without brackets or commas: a name. -/
def Plain (cs : List Char) : Prop := '[' ∉ cs ∧ ']' ∉ cs ∧ ',' ∉ cs

theorem Plain.depth_eq {cs : List Char} (plain : Plain cs) : depth cs = 0 := by
  induction cs with
  | nil => rfl
  | cons c cs ih =>
    simp only [Plain, List.mem_cons, not_or] at plain
    obtain ⟨⟨open_, rest⟩, ⟨close, rest'⟩, ⟨comma, rest''⟩⟩ := plain
    rw [depth_cons, ih ⟨rest, rest', rest''⟩, bracketStep, if_neg (Ne.symm open_),
      if_neg (Ne.symm close)]
    rfl

theorem Plain.commasInside {cs : List Char} (plain : Plain cs) (d : Int) : CommasInside d cs := by
  induction cs generalizing d with
  | nil => trivial
  | cons c cs ih =>
    simp only [Plain, List.mem_cons, not_or] at plain
    obtain ⟨⟨-, rest⟩, ⟨-, rest'⟩, ⟨comma, rest''⟩⟩ := plain
    exact ⟨fun same => absurd same.symm comma, ih ⟨rest, rest', rest''⟩ _⟩

theorem Plain.piece {cs : List Char} (plain : Plain cs) (nonempty : cs ≠ []) : Piece cs :=
  ⟨nonempty, plain.depth_eq, plain.commasInside 0⟩

/-- A piece read to its end is back at depth zero, so a comma right after it stands outside
every bracket. -/
theorem Piece.comma_after {a : List Char} (piece : Piece a) (rest : List Char) :
    ¬ CommasInside 0 (a ++ ',' :: rest) := by
  intro inside
  have outside := ((commasInside_append.1 inside).2.1 rfl)
  rw [piece.balanced] at outside
  exact lt_irrefl 0 outside

/-- Where a text is a piece followed by nothing or by a comma, the piece is determined. -/
theorem Piece.cancel {a b x y : List Char} (pa : Piece a) (pb : Piece b) (same : a ++ x = b ++ y)
    (hx : x = [] ∨ x.head? = some ',') (hy : y = [] ∨ y.head? = some ',') : a = b ∧ x = y := by
  rcases List.append_eq_append_iff.mp same with ⟨m, rfl, rfl⟩ | ⟨m, rfl, rfl⟩
  · cases m with
    | nil => simp
    | cons c m =>
      have comma : c = ',' := by simpa using hx
      subst comma
      exact absurd pb.commas (pa.comma_after m)
  · cases m with
    | nil => simp
    | cons c m =>
      have comma : c = ',' := by simpa using hy
      subst comma
      exact absurd pa.commas (pb.comma_after m)

/-- Each of the items after the first, with the comma before it. -/
def commaTail (as : List (List Char)) : List Char := as.flatMap (',' :: ·)

theorem intercalate_comma (a : List Char) (as : List (List Char)) :
    [','].intercalate (a :: as) = a ++ commaTail as := by
  induction as generalizing a with
  | nil => simp [commaTail]
  | cons b bs ih => rw [List.intercalate_cons_cons, ih]; simp [commaTail]

theorem commaTail_head (as : List (List Char)) :
    commaTail as = [] ∨ (commaTail as).head? = some ',' := by
  cases as <;> simp [commaTail]

theorem commaTail_injective :
    ∀ {as bs : List (List Char)}, (∀ a ∈ as, Piece a) → (∀ b ∈ bs, Piece b) →
      commaTail as = commaTail bs → as = bs
  | [], [], _, _, _ => rfl
  | [], _ :: _, _, _, same => by simp [commaTail] at same
  | _ :: _, [], _, _, same => by simp [commaTail] at same
  | a :: as, b :: bs, pa, pb, same => by
    simp only [commaTail, List.flatMap_cons, List.cons_append, List.cons.injEq, true_and] at same
    obtain ⟨rfl, rest⟩ := Piece.cancel (pa a List.mem_cons_self) (pb b List.mem_cons_self) same
      (commaTail_head as) (commaTail_head bs)
    rw [commaTail_injective (fun x mem => pa x (List.mem_cons_of_mem _ mem))
      (fun x mem => pb x (List.mem_cons_of_mem _ mem)) rest]

/-- Pieces joined by commas split back into the pieces. -/
theorem joined_injective {as bs : List (List Char)} (pa : ∀ a ∈ as, Piece a)
    (pb : ∀ b ∈ bs, Piece b) (same : [','].intercalate as = [','].intercalate bs) : as = bs := by
  cases as with
  | nil =>
    cases bs with
    | nil => rfl
    | cons b bs =>
      rw [intercalate_comma, List.intercalate_nil] at same
      exact absurd (List.append_eq_nil_iff.mp same.symm).1 (pb b List.mem_cons_self).nonempty
  | cons a as =>
    cases bs with
    | nil =>
      rw [intercalate_comma, List.intercalate_nil] at same
      exact absurd (List.append_eq_nil_iff.mp same).1 (pa a List.mem_cons_self).nonempty
    | cons b bs =>
      rw [intercalate_comma, intercalate_comma] at same
      obtain ⟨rfl, rest⟩ := Piece.cancel (pa a List.mem_cons_self) (pb b List.mem_cons_self) same
        (commaTail_head as) (commaTail_head bs)
      rw [commaTail_injective (fun x mem => pa x (List.mem_cons_of_mem _ mem))
        (fun x mem => pb x (List.mem_cons_of_mem _ mem)) rest]

theorem commaTail_depth {as : List (List Char)} (pa : ∀ a ∈ as, Piece a) :
    depth (commaTail as) = 0 := by
  induction as with
  | nil => rfl
  | cons a as ih =>
    simp only [commaTail, List.flatMap_cons, List.cons_append, depth_cons, depth_append] at ih ⊢
    rw [ih fun x mem => pa x (List.mem_cons_of_mem a mem), (pa a List.mem_cons_self).balanced]
    rfl

theorem commaTail_commasInside {as : List (List Char)} (pa : ∀ a ∈ as, Piece a) {d : Int}
    (inside : 0 < d) : CommasInside d (commaTail as) := by
  induction as with
  | nil => trivial
  | cons a as ih =>
    have piece := pa a List.mem_cons_self
    simp only [commaTail, List.flatMap_cons, List.cons_append] at ih ⊢
    have comma : bracketStep ',' = 0 := rfl
    refine ⟨fun _ => inside, commasInside_append.2 ⟨piece.commas.mono (by omega), ?_⟩⟩
    rw [piece.balanced, comma]
    simpa using ih fun x mem => pa x (List.mem_cons_of_mem a mem)

/-- Pieces joined by commas, read from inside a bracket: balanced, every comma inside. -/
theorem joined_inside {as : List (List Char)} (pa : ∀ a ∈ as, Piece a) :
    depth ([','].intercalate as) = 0 ∧ CommasInside 1 ([','].intercalate as) := by
  cases as with
  | nil => exact ⟨rfl, trivial⟩
  | cons a as =>
    have piece := pa a List.mem_cons_self
    have rest : ∀ x ∈ as, Piece x := fun x mem => pa x (List.mem_cons_of_mem a mem)
    rw [intercalate_comma, depth_append, piece.balanced, commaTail_depth rest]
    refine ⟨rfl, commasInside_append.2 ⟨piece.commas.mono (by omega), ?_⟩⟩
    rw [piece.balanced]
    exact commaTail_commasInside rest (by omega)

/-- A bracketed text: an opening word and bracket, a piece-like middle and a closing bracket. -/
theorem piece_bracketed {word middle : List Char} (plain : Plain word)
    (balanced : depth middle = 0) (inside : CommasInside 1 middle) :
    Piece (word ++ '[' :: (middle ++ [']'])) := by
  refine ⟨by simp, ?_, ?_⟩
  · simp [plain.depth_eq, balanced, bracketStep]
  · refine commasInside_append.2 ⟨plain.commasInside 0, ?_, ?_⟩
    · simp
    · rw [plain.depth_eq, Int.zero_add]
      refine commasInside_append.2 ⟨inside.mono (by simp [bracketStep]), ?_⟩
      simp [CommasInside, balanced, bracketStep]

/-! ## Keys as text -/

theorem keys_eq_map : ∀ hs : List Hint, keys hs = hs.map key
  | [] => rfl
  | h :: hs => by rw [keys, keys_eq_map hs, List.map_cons]

theorem Kind.name_plain (k : Kind) : Plain k.name.toList ∧ k.name.toList ≠ [] := by
  unfold Plain
  cases k with
  | record c => cases c <;> decide
  | _ => decide

/-- A class is named by exactly one name. -/
theorem Kind.name_injective {k k' : Kind} (same : k.name = k'.name) : k = k' := by
  cases k <;> cases k' <;> first
    | rfl
    | (simp only [Kind.name] at same
       first
        | exact absurd same (by decide)
        | (rename_i c c'
           cases c <;> cases c' <;> first | rfl | exact absurd same (by decide))
        | (rename_i c; cases c <;> exact absurd same (by decide)))

theorem Kind.name_ne_none (k : Kind) : k.name ≠ "None" := by
  cases k with
  | record c => cases c <;> decide
  | _ => decide

/-! The key of each form of hint, by unfolding: the proofs below rewrite with these rather than
with the equations of `key`, which are slow to generate. -/

theorem key_cls (k : Kind) : (cls k).key = k.name := rfl

theorem key_noneLit : noneLit.key = "None" := rfl

theorem key_listOf (h : Hint) : (listOf h).key = "list[" ++ h.key ++ "]" := rfl

theorem key_union (hs : List Hint) :
    (union hs).key = "Union[" ++ ",".intercalate ((keys hs).mergeSort (· ≤ ·)) ++ "]" := rfl

theorem key_annotated (h : Hint) (n : Nat) :
    (annotated h n).key = "Annotated[" ++ h.key ++ "," ++ toString n ++ "]" := rfl

theorem key_cls_toList (k : Kind) : (cls k).key.toList = k.name.toList := by
  rw [key_cls]

theorem key_noneLit_toList : noneLit.key.toList = ['N', 'o', 'n', 'e'] := by
  simp [key_noneLit]

theorem key_listOf_toList (h : Hint) :
    (listOf h).key.toList = ['l', 'i', 's', 't'] ++ '[' :: (h.key.toList ++ [']']) := by
  simp [key_listOf]

theorem key_union_toList (hs : List Hint) :
    (union hs).key.toList = ['U', 'n', 'i', 'o', 'n'] ++
      '[' :: ([','].intercalate (((keys hs).mergeSort (· ≤ ·)).map String.toList) ++ [']']) := by
  simp [key_union, String.toList_intercalate]

theorem key_annotated_toList (h : Hint) (n : Nat) :
    (annotated h n).key.toList = ['A', 'n', 'n', 'o', 't', 'a', 't', 'e', 'd'] ++
      '[' :: ((h.key.toList ++ ',' :: (toString n).toList) ++ [']']) := by
  simp [key_annotated]

theorem toString_plain (n : Nat) : Plain (toString n).toList := by
  have digits : ∀ c ∈ (toString n).toList, c.isDigit = true := fun c mem =>
    Nat.isDigit_of_mem_toDigits (b := 10) (by decide) (by decide) (by simpa [Nat.repr] using mem)
  refine ⟨fun mem => ?_, fun mem => ?_, fun mem => ?_⟩ <;>
    exact absurd (digits _ mem) (by decide)

/-- The keys of the members of a union, sorted, are pieces. -/
theorem sorted_keys_piece {hs : List Hint} (pieces : ∀ h ∈ hs, Piece h.key.toList) :
    ∀ s ∈ ((keys hs).mergeSort (· ≤ ·)).map String.toList, Piece s := by
  intro s mem
  obtain ⟨k, sorted, rfl⟩ := List.mem_map.mp mem
  rw [keys_eq_map] at sorted
  obtain ⟨h, member, rfl⟩ := List.mem_map.mp ((List.mergeSort_perm _ _).mem_iff.mp sorted)
  exact pieces h member

/-- Every key is a piece. -/
theorem key_piece : ∀ h : Hint, Piece h.key.toList
  | .cls k => by
    rw [key_cls_toList]
    exact (Kind.name_plain k).1.piece (Kind.name_plain k).2
  | .noneLit => by
    rw [key_noneLit_toList]
    exact Plain.piece (by unfold Plain; decide) (by decide)
  | .listOf h => by
    have piece := key_piece h
    have word : Plain ['l', 'i', 's', 't'] := by unfold Plain; decide
    rw [key_listOf_toList]
    exact piece_bracketed word piece.balanced (piece.commas.mono (by omega))
  | .union hs => by
    have pieces := sorted_keys_piece fun h (_ : h ∈ hs) => key_piece h
    have word : Plain ['U', 'n', 'i', 'o', 'n'] := by unfold Plain; decide
    rw [key_union_toList]
    exact piece_bracketed word (joined_inside pieces).1 (joined_inside pieces).2
  | .annotated h n => by
    have piece := key_piece h
    have number := toString_plain n
    have word : Plain ['A', 'n', 'n', 'o', 't', 'a', 't', 'e', 'd'] := by unfold Plain; decide
    rw [key_annotated_toList]
    refine piece_bracketed word ?_ ?_
    · rw [depth_append, depth_cons, piece.balanced, number.depth_eq]
      rfl
    · refine commasInside_append.2 ⟨piece.commas.mono (by omega), ?_⟩
      rw [piece.balanced]
      exact ⟨fun _ => by omega, number.commasInside _⟩

/-! ## Hints with the same key -/

/-- The keys of a class and of the literal none are the only keys without a bracket. -/
theorem bracket_free_key {h : Hint} (free : '[' ∉ h.key.toList) : (∃ k, h = cls k) ∨ h = noneLit := by
  cases h with
  | cls k => exact .inl ⟨k, rfl⟩
  | noneLit => exact .inr rfl
  | listOf h => simp [key_listOf_toList] at free
  | union hs => simp [key_union_toList] at free
  | annotated h n => simp [key_annotated_toList] at free

theorem key_cls_bracket_free (k : Kind) : '[' ∉ (cls k).key.toList := by
  rw [key_cls_toList]
  exact (Kind.name_plain k).1.1

theorem key_noneLit_bracket_free : '[' ∉ noneLit.key.toList := by
  rw [key_noneLit_toList]
  decide

/-- Texts with the same word before the bracket and the closing bracket last have the same
middle. -/
theorem middle_eq {word word' middle middle' : List Char} (sameWord : word = word')
    (same : word ++ '[' :: (middle ++ [']']) = word' ++ '[' :: (middle' ++ [']'])) :
    middle = middle' := by
  subst sameWord
  simpa using same

theorem key_eq_cls {k : Kind} {b : Hint} (same : (cls k).key = b.key) : b = cls k := by
  have free : '[' ∉ b.key.toList := same ▸ key_cls_bracket_free k
  rcases bracket_free_key free with ⟨k', rfl⟩ | rfl
  · have named : k'.name = k.name := by simpa [key_cls] using same.symm
    rw [Kind.name_injective named]
  · exact absurd (by simpa [key_cls, key_noneLit] using same) (Kind.name_ne_none k)

theorem key_eq_noneLit {b : Hint} (same : noneLit.key = b.key) : b = noneLit := by
  have free : '[' ∉ b.key.toList := same ▸ key_noneLit_bracket_free
  rcases bracket_free_key free with ⟨k, rfl⟩ | rfl
  · exact absurd (by simpa [key_cls, key_noneLit] using same.symm) (Kind.name_ne_none k)
  · rfl

theorem key_eq_listOf {a b : Hint} (same : (listOf a).key = b.key) :
    ∃ b', b = listOf b' ∧ a.key = b'.key := by
  have text := congrArg String.toList same
  cases b with
  | listOf b =>
    rw [key_listOf_toList, key_listOf_toList] at text
    exact ⟨b, rfl, String.toList_inj.mp (middle_eq rfl text)⟩
  | cls k => exact absurd (text ▸ by simp [key_listOf_toList]) (key_cls_bracket_free k)
  | noneLit => exact absurd (text ▸ by simp [key_listOf_toList]) key_noneLit_bracket_free
  | union _ => rw [key_listOf_toList, key_union_toList] at text; simp at text
  | annotated _ _ => rw [key_listOf_toList, key_annotated_toList] at text; simp at text

theorem key_eq_annotated {a b : Hint} {n : Nat} (same : (annotated a n).key = b.key) :
    ∃ b', b = annotated b' n ∧ a.key = b'.key := by
  have text := congrArg String.toList same
  cases b with
  | annotated b m =>
    rw [key_annotated_toList, key_annotated_toList] at text
    -- the base key is a piece, and the count of notes follows the one comma outside it
    obtain ⟨base, notes⟩ := Piece.cancel (key_piece a) (key_piece b) (middle_eq rfl text)
      (.inr rfl) (.inr rfl)
    have counted : toString n = toString m := String.toList_inj.mp (List.cons.inj notes).2
    rw [show m = n from (Nat.repr_inj.mp counted).symm]
    exact ⟨b, rfl, String.toList_inj.mp base⟩
  | cls k => exact absurd (text ▸ by simp [key_annotated_toList]) (key_cls_bracket_free k)
  | noneLit => exact absurd (text ▸ by simp [key_annotated_toList]) key_noneLit_bracket_free
  | listOf _ => rw [key_annotated_toList, key_listOf_toList] at text; simp at text
  | union _ => rw [key_annotated_toList, key_union_toList] at text; simp at text

/-- A union shares its key only with a union of members with the same keys, each key as often. -/
theorem key_eq_union {hs : List Hint} {b : Hint} (same : (union hs).key = b.key) :
    ∃ gs, b = union gs ∧ (hs.map key).Perm (gs.map key) := by
  have text := congrArg String.toList same
  cases b with
  | union gs =>
    rw [key_union_toList, key_union_toList] at text
    -- the sorted keys are the same, so the keys are a permutation of each other
    have sorted := List.map_injective_iff.mpr (fun _ _ h => String.toList_inj.mp h)
      (joined_injective (sorted_keys_piece fun h (_ : h ∈ hs) => key_piece h)
        (sorted_keys_piece fun g (_ : g ∈ gs) => key_piece g) (middle_eq rfl text))
    have perm : (keys hs).Perm (keys gs) := by
      have ordered := List.mergeSort_perm (keys hs) (fun a b => decide (a ≤ b))
      rw [sorted] at ordered
      exact ordered.symm.trans (List.mergeSort_perm _ _)
    rw [keys_eq_map, keys_eq_map] at perm
    exact ⟨gs, rfl, perm⟩
  | cls k => exact absurd (text ▸ by simp [key_union_toList]) (key_cls_bracket_free k)
  | noneLit => exact absurd (text ▸ by simp [key_union_toList]) key_noneLit_bracket_free
  | listOf _ => rw [key_union_toList, key_listOf_toList] at text; simp at text
  | annotated _ _ => rw [key_union_toList, key_annotated_toList] at text; simp at text

/-- Each member of one of two unions with a key has a member of the other with its key. -/
theorem Perm.member_key {hs gs : List Hint} (perm : (hs.map key).Perm (gs.map key)) {h : Hint}
    (member : h ∈ hs) : ∃ g ∈ gs, g.key = h.key :=
  List.mem_map.mp (perm.mem_iff.mp (List.mem_map_of_mem member))

end Hint

end Storefront
