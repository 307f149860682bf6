import Storefront.Proofs.Sql.Statement

/-!
# Flattening pieces into an expression

`+=` adds the leaves of a nested piece in order, one at a time: text and parameters as they
are, the fragments of an expression and the keys of a map in turn. It is not atomic: a leaf that
is none of these stops it with a failure, after the leaves before it were added. So adding a
piece is adding its list of leaves, and adding pieces one after another is adding the leaves of
all of them; an expression of two pieces compiles to the two compilations put together.

A join puts the separator before a value only when the expression built so far is not empty.
The values before the first one that adds a fragment therefore add nothing and get no
separator, and from that value on there is exactly one separator between each two values.
-/

namespace Storefront.Sql

/-- A leaf of a nested piece: a fragment, or a stray value that is not one. -/
inductive Leaf where
  | fragment (f : Fragment)
  | stray (v : Value)

namespace Piece

mutual

/-- The leaves of a piece, in order. -/
def flat : Piece → List Leaf
  | .text s => [.fragment (.text s)]
  | .param p => [.fragment (.param p)]
  | .group ps => flatAll ps
  | .expr fs => fs.map .fragment
  | .keys es => es.map fun k => .fragment (.text k.1)
  | .other v => [.stray v]

def flatAll : List Piece → List Leaf
  | [] => []
  | p :: ps => flat p ++ flatAll ps

end

theorem flatAll_append (ps qs : List Piece) : flatAll (ps ++ qs) = flatAll ps ++ flatAll qs := by
  induction ps with
  | nil => rfl
  | cons p ps ih => simp [flatAll, ih]

theorem flat_group_single (p : Piece) : flat (.group [p]) = flat p := by
  simp [flat, flatAll]

end Piece

/-- Every list of leaves is fragments only, or fragments up to a first stray value. -/
theorem Leaf.fragments_or_stray (ls : List Leaf) :
    (∃ fs : List Fragment, ls = fs.map .fragment) ∨
      ∃ (pre : List Fragment) (v : Value) (rest : List Leaf),
        ls = pre.map .fragment ++ .stray v :: rest := by
  induction ls with
  | nil => exact .inl ⟨[], rfl⟩
  | cons l ls ih =>
    cases l with
    | stray v => exact .inr ⟨[], v, ls, rfl⟩
    | fragment f =>
      rcases ih with ⟨fs, rfl⟩ | ⟨pre, v, rest, rfl⟩
      · exact .inl ⟨f :: fs, rfl⟩
      · exact .inr ⟨f :: pre, v, rest, rfl⟩

namespace Expression

/-- The failure a stray value raises. -/
def unsupported (v : Value) : Failure := Failure.valueError ("unsupported fragment: " ++ v.repr)

/-- Add leaves one at a time: a fragment is added at the end, a stray value stops the adding. -/
def addLeaves (e : Expression) : List Leaf → Expression × Option Failure
  | [] => (e, none)
  | .fragment f :: ls => addLeaves ⟨e.fragments ++ [f]⟩ ls
  | .stray v :: _ => (e, some (unsupported v))

/-- Adding two runs of leaves is adding the first and, unless it stopped, then the second. -/
theorem addLeaves_append (e : Expression) (ls ms : List Leaf) :
    addLeaves e (ls ++ ms) =
      match addLeaves e ls with
      | (e', none) => addLeaves e' ms
      | stopped => stopped := by
  induction ls generalizing e with
  | nil => rfl
  | cons l ls ih =>
    cases l with
    | fragment f => exact ih _
    | stray v => rfl

theorem addLeaves_fragments (e : Expression) (fs : List Fragment) :
    addLeaves e (fs.map .fragment) = (⟨e.fragments ++ fs⟩, none) := by
  induction fs generalizing e with
  | nil => simp [addLeaves]
  | cons f fs ih => simp [addLeaves, ih]

theorem addLeaves_stray (e : Expression) (pre : List Fragment) (v : Value) (rest : List Leaf) :
    addLeaves e (pre.map .fragment ++ .stray v :: rest) =
      (⟨e.fragments ++ pre⟩, some (unsupported v)) := by
  rw [addLeaves_append, addLeaves_fragments]
  rfl

/-- What is added does not depend on what the expression held before: it goes at the end. -/
theorem addLeaves_at_end (e : Expression) (ls : List Leaf) :
    addLeaves e ls = (⟨e.fragments ++ (addLeaves ⟨[]⟩ ls).1.fragments⟩, (addLeaves ⟨[]⟩ ls).2) := by
  rcases Leaf.fragments_or_stray ls with ⟨fs, rfl⟩ | ⟨pre, v, rest, rfl⟩
  · simp [addLeaves_fragments]
  · simp [addLeaves_stray]

mutual

/-- Adding a piece in place is adding its leaves in order. -/
theorem extend_eq_addLeaves (e : Expression) : ∀ x : Piece, e.extend x = addLeaves e x.flat
  | .text s => by simp [extend, Piece.flat, addLeaves]
  | .param p => by simp [extend, Piece.flat, addLeaves]
  | .group ps => by
    rw [extend, Piece.flat]
    exact extendAll_eq_addLeaves e ps
  | .expr fs => by rw [extend, Piece.flat, addLeaves_fragments]
  | .keys es => by
    rw [extend, Piece.flat, ← addLeaves_fragments, List.map_map]
    rfl
  | .other v => rfl

theorem extendAll_eq_addLeaves (e : Expression) :
    ∀ ps : List Piece, e.extendAll ps = addLeaves e (Piece.flatAll ps)
  | [] => rfl
  | p :: ps => by
    -- the pieces are added in turn, the next one only after this one went through
    rw [extendAll, Piece.flatAll, addLeaves_append, ← extend_eq_addLeaves e p]
    rcases e.extend p with ⟨e', _ | f⟩
    · exact extendAll_eq_addLeaves e' ps
    · rfl

end

/-- `+=` of a piece whose leaves are all fragments adds them at the end; otherwise it raises
the failure of the first stray value, with the leaves before it already added. -/
theorem extend_flat (e : Expression) (x : Piece) :
    (∀ fs, x.flat = fs.map .fragment → e.extend x = (⟨e.fragments ++ fs⟩, none)) ∧
    ∀ pre v rest, x.flat = pre.map Leaf.fragment ++ Leaf.stray v :: rest →
      e.extend x = (⟨e.fragments ++ pre⟩, some (unsupported v)) := by
  refine ⟨fun fs leaves => ?_, fun pre v rest leaves => ?_⟩
  · rw [extend_eq_addLeaves, leaves, addLeaves_fragments]
  · rw [extend_eq_addLeaves, leaves, addLeaves_stray]

/-- As a caller of `+=` sees it: the fragments of the piece at the end, or the failure. -/
theorem add_eq (e : Expression) (x : Piece) :
    e.add x = (Expression.add ⟨[]⟩ x).map fun e₀ => ⟨e.fragments ++ e₀.fragments⟩ := by
  simp only [add, extend_eq_addLeaves]
  rw [addLeaves_at_end e, addLeaves_at_end ⟨[]⟩]
  cases (addLeaves ⟨[]⟩ x.flat).2 <;> rfl

/-- Adding a group of pieces is adding the first ones and then the rest. -/
theorem add_group_append (e : Expression) (ps qs : List Piece) :
    e.add (.group (ps ++ qs)) = e.add (.group ps) >>= fun e' => e'.add (.group qs) := by
  simp only [add, extend_eq_addLeaves, Piece.flat, Piece.flatAll_append, addLeaves_append]
  rcases addLeaves e (Piece.flatAll ps) with ⟨e', _ | f⟩ <;> rfl

theorem ofPieces_append (ps qs : List Piece) :
    ofPieces (ps ++ qs) = (do
      let a ← ofPieces ps
      let b ← ofPieces qs
      pure ⟨a.fragments ++ b.fragments⟩) := by
  rw [ofPieces, add_group_append, ← ofPieces]
  cases ofPieces ps with
  | error f => rfl
  | ok a =>
    show a.add (.group qs) = _
    rw [add_eq, ← ofPieces]
    cases ofPieces qs <;> rfl

theorem ofPieces_single (p : Piece) : ofPieces [p] = Expression.add ⟨[]⟩ p := by
  simp only [ofPieces, add, extend_eq_addLeaves, Piece.flat_group_single]

end Expression

/-! ## Joins -/

namespace Expression

variable {s : String}

theorem text_truthy (nonempty : s ≠ "") : (Piece.text s).truthy = true := by
  simpa [Piece.truthy] using nonempty

/-- One step of a join after something was added: the separator, then the value. -/
theorem joinStep_filled (nonempty : s ≠ "") {e : Expression} (filled : e.fragments ≠ [])
    (p : Piece) :
    joinStep (.text s) e p = (ofPieces [p]).map fun x => ⟨e.fragments ++ .text s :: x.fragments⟩ := by
  have notEmpty : e.fragments.isEmpty = false := List.isEmpty_eq_false_iff.mpr filled
  simp only [joinStep, notEmpty, text_truthy nonempty, Bool.not_false, Bool.and_self, if_true]
  show Expression.add ⟨e.fragments ++ [Fragment.text s]⟩ p = _
  rw [add_eq, ofPieces_single]
  cases Expression.add ⟨[]⟩ p <;> simp [Except.map]

/-- One step of a join before anything was added: the value alone. -/
theorem joinStep_empty (p : Piece) : joinStep (.text s) ⟨[]⟩ p = ofPieces [p] := by
  simp [joinStep, ofPieces_single]

/-- Once something was added, a join puts the separator before every value. -/
theorem foldlM_joinStep_filled (nonempty : s ≠ "") (ps : List Piece) {e : Expression}
    (filled : e.fragments ≠ []) :
    ps.foldlM (joinStep (.text s)) e =
      (ps.mapM fun p => ofPieces [p]).map fun xs =>
        ⟨e.fragments ++ xs.flatMap fun x => .text s :: x.fragments⟩ := by
  induction ps generalizing e with
  | nil => simp [Except.map, pure, Except.pure]
  | cons p ps ih =>
    rw [List.foldlM_cons, joinStep_filled nonempty filled, List.mapM_cons]
    cases ofPieces [p] with
    | error f => rfl
    | ok x =>
      have stillFilled : (e.fragments ++ .text s :: x.fragments) ≠ [] := by simp
      show ps.foldlM (joinStep (.text s)) ⟨e.fragments ++ .text s :: x.fragments⟩ = _
      rw [ih stillFilled]
      cases ps.mapM fun p => ofPieces [p] <;> simp [Except.map, bind, Except.bind, pure,
        Except.pure]

theorem intercalate_cons {α : Type} (sep : α) (l : List α) (ls : List (List α)) :
    [sep].intercalate (l :: ls) = l ++ ls.flatMap fun m => sep :: m := by
  induction ls generalizing l with
  | nil => simp
  | cons m ls ih =>
    rw [List.intercalate_cons_cons, ih m]
    simp

/-- A join with a non-empty separator: the values that add nothing before the first one that
adds a fragment are passed over, and from that one on there is one separator between each two
values. -/
theorem join_text (nonempty : s ≠ "") (ps : List Piece) :
    join ps (.text s) = (ps.mapM fun p => ofPieces [p]).map fun xs =>
      ⟨[Fragment.text s].intercalate ((xs.map (·.fragments)).dropWhile (·.isEmpty))⟩ := by
  rw [join]
  induction ps with
  | nil => rfl
  | cons p ps ih =>
    rw [List.foldlM_cons, joinStep_empty, List.mapM_cons]
    cases added : ofPieces [p] with
    | error f => rfl
    | ok x =>
      show ps.foldlM (joinStep (.text s)) x = _
      -- the value decides whether a separator comes before the next one
      by_cases blank : x.fragments = []
      · have same : x = ⟨[]⟩ := by cases x; simp_all
        rw [same, ih]
        cases ps.mapM fun p => ofPieces [p] <;> simp [Except.map, bind, Except.bind, pure,
          Except.pure]
      · rw [foldlM_joinStep_filled nonempty ps blank]
        cases ps.mapM fun p => ofPieces [p] <;> simp [Except.map, bind, Except.bind, pure,
          Except.pure, blank, intercalate_cons, List.flatMap_map]

end Expression

/-! ## Compiling -/

theorem compile_intercalate (ph s : String) : ∀ fss : List (List Fragment),
    Expression.compile ⟨[Fragment.text s].intercalate fss⟩ ph =
      (s.intercalate (fss.map fun fs => (Expression.compile ⟨fs⟩ ph).1),
        fss.flatMap fun fs => (Expression.compile ⟨fs⟩ ph).2)
  | [] => rfl
  | [fs] => by simp
  | fs :: gs :: fss => by
    rw [List.intercalate_cons_cons, compile_append, compile_append, compile_intercalate ph s (gs :: fss)]
    simp [String.intercalate_cons_cons, String.append_assoc]

end Storefront.Sql
