import Storefront.Store.Table
import Mathlib

/-!
# Conditions of SQL text

The conditions of a select statement are text. This module reads such text the way SQL does
and gives it its meaning. A lexer turns characters into words, quoted literals, symbols and
placeholders. It numbers the placeholders from zero, in the order they appear. A parser reads
comparisons of operands joined by `AND` and `OR`, where `AND` binds tighter and parentheses
group. A condition is then evaluated on a row under SQL's three-valued logic, where NULL is
`none` and a comparison with NULL is NULL, given how values are ordered.

Reading is proved compositionally. `Lexes` says what a piece of text adds to the tokens.
`Atom`, `Conj` and `Disj` say that some tokens read as a condition at each level of the
grammar, whatever follows them. The fuel bounds these carry are enough for the whole text.
Last, `LexAfter` is the order in which one tuple of fields comes after another.
-/

namespace Storefront

namespace Sql

variable {α : Type}

/-! ## Tokens -/

/-- A token of the statements' SQL. -/
inductive Token where
  | word (s : List Char)
  | quoted (s : List Char)
  | param (n : Nat)
  | sym (s : List Char)
deriving DecidableEq, Repr

/-- What the lexer is in the middle of. -/
inductive Pending where
  | idle
  | word (cs : List Char)
  | quoted (cs : List Char)
  | angle (c : Char)
deriving DecidableEq, Repr

/-- The lexer's state: the tokens so far, what it is in the middle of, and how many placeholders
it has numbered. -/
structure LexState where
  tokens : List Token
  pending : Pending
  params : Nat
deriving DecidableEq, Repr

namespace LexState

/-- Start on a character with nothing pending. -/
def start (s : LexState) (c : Char) : LexState :=
  if c.isWhitespace then s
  else if identChar c then { s with pending := .word [c] }
  else if c = '\'' then { s with pending := .quoted [] }
  else if c = '<' ∨ c = '>' then { s with pending := .angle c }
  else if c = '?' then { s with tokens := s.tokens ++ [.param s.params], params := s.params + 1 }
  else { s with tokens := s.tokens ++ [.sym [c]] }

/-- The state after a character. -/
def step (s : LexState) (c : Char) : LexState :=
  match s.pending with
  | .idle => s.start c
  | .word cs =>
    if identChar c then { s with pending := .word (cs ++ [c]) }
    else start { s with tokens := s.tokens ++ [.word cs], pending := .idle } c
  | .quoted cs =>
    if c = '\'' then { s with tokens := s.tokens ++ [.quoted cs], pending := .idle }
    else { s with pending := .quoted (cs ++ [c]) }
  | .angle a =>
    if c = '=' then { s with tokens := s.tokens ++ [.sym [a, '=']], pending := .idle }
    else start { s with tokens := s.tokens ++ [.sym [a]], pending := .idle } c

end LexState

/-- The tokens of a text, placeholders numbered from zero; a literal left open is refused. -/
def lex (text : String) : Option (List Token) :=
  let s := text.toList.foldl LexState.step ⟨[], .idle, 0⟩
  match s.pending with
  | .idle => some s.tokens
  | .word cs => some (s.tokens ++ [.word cs])
  | .quoted _ => none
  | .angle a => some (s.tokens ++ [.sym [a]])

/-- A text takes the lexer, idle after `k` placeholders, to idle after `k'`, adding `toks`. -/
def Lexes (text : String) (k : Nat) (toks : List Token) (k' : Nat) : Prop :=
  ∀ acc, text.toList.foldl LexState.step ⟨acc, .idle, k⟩ = ⟨acc ++ toks, .idle, k'⟩

theorem Lexes.append {a b : String} {k k₁ k₂ : Nat} {ta tb : List Token} (first : Lexes a k ta k₁)
    (second : Lexes b k₁ tb k₂) : Lexes (a ++ b) k (ta ++ tb) k₂ := by
  intro acc
  rw [String.toList_append, List.foldl_append, first acc, second, List.append_assoc]

theorem lex_of_lexes {text : String} {toks : List Token} {k : Nat} (lexes : Lexes text 0 toks k) :
    lex text = some toks := by
  simp [lex, lexes []]

theorem lexes_placeholder (k : Nat) : Lexes "?" k [.param k] (k + 1) := by
  intro acc
  simp [LexState.step, LexState.start, identChar, identStart]

/-- Inside a literal every character but a quote is kept. -/
theorem foldl_quoted {cs : List Char} (noQuote : '\'' ∉ cs) (pre : List Char) (k : Nat)
    (toks : List Token) :
    cs.foldl LexState.step ⟨toks, .quoted pre, k⟩ = ⟨toks, .quoted (pre ++ cs), k⟩ := by
  induction cs generalizing pre with
  | nil => simp
  | cons c cs ih =>
    have other : c ≠ '\'' := fun same => noQuote (by simp [same])
    have rest := ih (fun mem => noQuote (List.mem_cons_of_mem c mem)) (pre ++ [c])
    simp only [List.foldl_cons, LexState.step, other, if_false]
    simpa using rest

/-! ## Conditions and how they are read -/

/-- An operand of a comparison: a column, a JSON path of a column read by `json_extract`, or a
numbered placeholder. -/
inductive Operand where
  | column (name : List Char)
  | extract (column path : List Char)
  | param (n : Nat)
deriving DecidableEq, Repr

/-- A condition: comparisons joined by AND and OR. -/
inductive Cond where
  | cmp (lhs : Operand) (op : CmpOp) (rhs : Operand)
  | and (a b : Cond)
  | or (a b : Cond)
deriving DecidableEq, Repr

/-- A first condition and more, all of which must hold. -/
def Cond.all : Cond → List Cond → Cond
  | c, [] => c
  | c, d :: ds => .and c (Cond.all d ds)

/-- The comparison operator a symbol stands for. -/
def cmpOp? : List Char → Option CmpOp
  | ['='] => some .eq
  | ['<'] => some .lt
  | ['<', '='] => some .le
  | ['>'] => some .gt
  | ['>', '='] => some .ge
  | _ => none

/-- An operand at the start of some tokens, and the tokens after it. -/
def operand? : List Token → Option (Operand × List Token)
  | .param n :: ts => some (.param n, ts)
  | .word f :: .sym ['('] :: .word c :: .sym [','] :: .quoted p :: .sym [')'] :: ts =>
    if f = "json_extract".toList then some (.extract c p, ts) else none
  | .word c :: ts => some (.column c, ts)
  | _ => none

/-- The keyword that joins conditions that must all hold. -/
def andToken : Token := .word "AND".toList

/-- The keyword that joins conditions of which one must hold. -/
def orToken : Token := .word "OR".toList

mutual

/-- Conditions joined by OR, each of conditions joined by AND; AND binds tighter. Each level
spends one step of fuel. -/
def parseOr : Nat → List Token → Option (Cond × List Token)
  | 0, _ => none
  | n + 1, ts =>
    match parseAnd n ts with
    | some (a, t :: rest) =>
      if t = orToken then (parseOr n rest).map fun (b, rest') => (.or a b, rest')
      else some (a, t :: rest)
    | r => r

/-- Conditions joined by AND. -/
def parseAnd : Nat → List Token → Option (Cond × List Token)
  | 0, _ => none
  | n + 1, ts =>
    match parseAtom n ts with
    | some (a, t :: rest) =>
      if t = andToken then (parseAnd n rest).map fun (b, rest') => (.and a b, rest')
      else some (a, t :: rest)
    | r => r

/-- A parenthesized condition, or a comparison of two operands. -/
def parseAtom : Nat → List Token → Option (Cond × List Token)
  | 0, _ => none
  | n + 1, ts =>
    match ts with
    | .sym ['('] :: ts =>
      match parseOr n ts with
      | some (c, .sym [')'] :: rest) => some (c, rest)
      | _ => none
    | ts => do
      let (l, ts) ← operand? ts
      match ts with
      | .sym o :: ts =>
        let op ← cmpOp? o
        let (r, ts) ← operand? ts
        pure (.cmp l op r, ts)
      | _ => none

end

/-- The condition a text reads as, all of it. Each nesting of parentheses costs three steps of
fuel and every step past the first reads a token, so three steps a token are enough. -/
def parseCondition (text : String) : Option Cond := do
  let ts ← lex text
  match parseOr (3 * ts.length + 3) ts with
  | some (c, []) => some c
  | _ => none

/-! ## Reading by levels of the grammar -/

/-- Tokens that read as a condition at the level of a comparison or a parenthesized condition,
whatever follows them. -/
def Atom (toks : List Token) (c : Cond) : Prop :=
  ∀ n rest, 3 * toks.length ≤ n → parseAtom n (toks ++ rest) = some (c, rest)

/-- Tokens that read as a condition at the level of AND, when no AND follows. -/
def Conj (toks : List Token) (c : Cond) : Prop :=
  ∀ n rest, 3 * toks.length + 1 ≤ n → rest.head? ≠ some andToken →
    parseAnd n (toks ++ rest) = some (c, rest)

/-- Tokens that read as a condition at the level of OR, when neither AND nor OR follows. -/
def Disj (toks : List Token) (c : Cond) : Prop :=
  ∀ n rest, 3 * toks.length + 2 ≤ n → rest.head? ≠ some andToken → rest.head? ≠ some orToken →
    parseOr n (toks ++ rest) = some (c, rest)

theorem Atom.conj {toks : List Token} {c : Cond} (atom : Atom toks c) : Conj toks c := by
  intro n rest enough noAnd
  obtain ⟨m, rfl⟩ : ∃ m, n = m + 1 := ⟨n - 1, by omega⟩
  have read := atom m rest (by omega)
  simp only [parseAnd, read]
  cases rest with
  | nil => rfl
  | cons t rest =>
    have other : t ≠ andToken := fun same => noAnd (by simp [same])
    simp [other]

theorem Conj.and {t u : List Token} {c d : Cond} (first : Atom t c) (rest : Conj u d) :
    Conj (t ++ andToken :: u) (.and c d) := by
  intro n after enough noAnd
  obtain ⟨m, rfl⟩ : ∃ m, n = m + 1 := ⟨n - 1, by omega⟩
  have left := first m (andToken :: (u ++ after)) (by simp at enough; omega)
  have right := rest m after (by simp at enough; omega) noAnd
  simp [parseAnd, left, right]

theorem Conj.disj {toks : List Token} {c : Cond} (conj : Conj toks c) : Disj toks c := by
  intro n rest enough noAnd noOr
  obtain ⟨m, rfl⟩ : ∃ m, n = m + 1 := ⟨n - 1, by omega⟩
  have read := conj m rest (by omega) noAnd
  simp only [parseOr, read]
  cases rest with
  | nil => rfl
  | cons t rest =>
    have other : t ≠ orToken := fun same => noOr (by simp [same])
    simp [other]

theorem Disj.or {t u : List Token} {c d : Cond} (first : Conj t c) (rest : Disj u d) :
    Disj (t ++ orToken :: u) (.or c d) := by
  intro n after enough noAnd noOr
  obtain ⟨m, rfl⟩ : ∃ m, n = m + 1 := ⟨n - 1, by omega⟩
  have left := first m (orToken :: (u ++ after)) (by simp at enough; omega)
    (by simp [orToken, andToken])
  have right := rest m after (by simp at enough; omega) noAnd noOr
  simp [parseOr, left, right]

theorem Disj.paren {toks : List Token} {c : Cond} (inner : Disj toks c) :
    Atom (Token.sym ['('] :: toks ++ [Token.sym [')']]) c := by
  intro n rest enough
  obtain ⟨m, rfl⟩ : ∃ m, n = m + 1 := ⟨n - 1, by simp at enough; omega⟩
  have read := inner m (.sym [')'] :: rest) (by simp at enough; omega) (by simp [andToken])
    (by simp [orToken])
  simp [parseAtom, read]

/-- A comparison of two operands, each read in front of what follows it. -/
theorem atom_cmp {lt rt : List Token} {l r : Operand} {o : List Char} {op : CmpOp}
    (left : ∀ rest, operand? (lt ++ .sym o :: rest) = some (l, .sym o :: rest))
    (opens : lt.head? ≠ some (.sym ['('])) (symbol : cmpOp? o = some op)
    (right : ∀ rest, operand? (rt ++ rest) = some (r, rest)) :
    Atom (lt ++ .sym o :: rt) (.cmp l op r) := by
  intro n rest enough
  obtain ⟨m, rfl⟩ : ∃ m, n = m + 1 := ⟨n - 1, by simp at enough; omega⟩
  cases lt with
  | nil =>
    have empty := left []
    simp [operand?] at empty
  | cons t lt =>
    have notParen : t ≠ .sym ['('] := fun same => opens (by simp [same])
    have readLeft := left (rt ++ rest)
    have readRight := right rest
    simp only [List.cons_append, List.append_assoc] at readLeft ⊢
    -- the first token is no parenthesis, so the atom is a comparison
    rw [parseAtom]
    · simp [readLeft, symbol, readRight]
    · intro ts same
      exact notParen (List.cons.inj same).1

/-! ## What a condition means -/

/-- What a condition reads of a row: each column, and each path of a column, `none` for NULL. -/
structure Columns (α : Type) where
  column : List Char → Option α
  extract : List Char → List Char → Option α

/-- The value of an operand in a row, placeholders bound by position; a missing one is NULL. -/
def Operand.value (row : Columns α) (params : List (Option α)) : Operand → Option α
  | .column c => row.column c
  | .extract c p => row.extract c p
  | .param n => params.getD n none

/-- A condition on a row under SQL's three-valued logic, values compared by `ord`: a comparison
with NULL is NULL. -/
def Cond.eval (ord : α → α → Ordering) (row : Columns α) (params : List (Option α)) :
    Cond → Option Bool
  | .cmp l op r =>
    match l.value row params, r.value row params with
    | some a, some b => some (op.holds (ord a b))
    | _, _ => none
  | .and a b => and3 (a.eval ord row params) (b.eval ord row params)
  | .or a b => or3 (a.eval ord row params) (b.eval ord row params)

@[simp]
theorem and3_eq_true {x y : Option Bool} :
    and3 x y = some true ↔ x = some true ∧ y = some true := by
  rcases x with _ | _ | _ <;> rcases y with _ | _ | _ <;> simp [and3]

@[simp]
theorem or3_eq_true {x y : Option Bool} :
    or3 x y = some true ↔ x = some true ∨ y = some true := by
  rcases x with _ | _ | _ <;> rcases y with _ | _ | _ <;> simp [or3]

theorem gt_holds_iff (o : Ordering) : CmpOp.gt.holds o = true ↔ o = .gt := by
  cases o <;> decide

theorem eq_holds_iff (o : Ordering) : CmpOp.eq.holds o = true ↔ o = .eq := by
  cases o <;> decide

/-! ## One tuple after another -/

/-- One tuple after another in the order of the first place where they differ, every place
compared so far holding a value on both sides. -/
def LexAfter (ord : α → α → Ordering) : List (Option α) → List (Option α) → Prop
  | some x :: xs, some v :: vs => ord x v = .gt ∨ ord x v = .eq ∧ LexAfter ord xs vs
  | _, _ => False

section LexAfter

variable (ord : α → α → Ordering)

/-- Where two tuples first differ, if the first is after the second, both hold a first value. -/
theorem heads_of_first_difference {xs vs : List (Option α)} {k : Nat}
    (before : ∀ j < k, ∃ a b, xs.getD j none = some a ∧ vs.getD j none = some b ∧ ord a b = .eq)
    (differs : ∃ a b, xs.getD k none = some a ∧ vs.getD k none = some b ∧ ord a b = .gt) :
    (∃ x, xs.getD 0 none = some x) ∧ ∃ v, vs.getD 0 none = some v := by
  cases k with
  | zero =>
    obtain ⟨a, b, xk, vk, -⟩ := differs
    exact ⟨⟨a, xk⟩, b, vk⟩
  | succ k =>
    obtain ⟨a, b, xa, vb, -⟩ := before 0 (by omega)
    exact ⟨⟨a, xa⟩, b, vb⟩

/-- One tuple is after another when, at some place, the first holds a greater value, and at
every place before it both hold equal values. -/
theorem lexAfter_iff_exists : ∀ xs vs : List (Option α),
    LexAfter ord xs vs ↔
      ∃ k, (∀ j < k, ∃ a b, xs.getD j none = some a ∧ vs.getD j none = some b ∧ ord a b = .eq) ∧
        ∃ a b, xs.getD k none = some a ∧ vs.getD k none = some b ∧ ord a b = .gt
  | some x :: xs, some v :: vs => by
    rw [LexAfter, lexAfter_iff_exists xs vs]
    constructor
    · rintro (greater | ⟨equal, k, before, differs⟩)
      · exact ⟨0, by simp, x, v, rfl, rfl, greater⟩
      · refine ⟨k + 1, fun j below => ?_, differs⟩
        cases j with
        | zero => exact ⟨x, v, rfl, rfl, equal⟩
        | succ j => exact before j (by omega)
    · rintro ⟨k, before, a, b, xk, vk, greater⟩
      cases k with
      | zero =>
        simp only [List.getD_cons_zero, Option.some.injEq] at xk vk
        exact .inl (xk ▸ vk ▸ greater)
      | succ k =>
        obtain ⟨c, d, xc, vd, equal⟩ := before 0 (by omega)
        simp only [List.getD_cons_zero, Option.some.injEq] at xc vd
        exact .inr ⟨xc ▸ vd ▸ equal, k, fun j below => before (j + 1) (by omega), a, b, xk, vk,
          greater⟩
  | [], _ => iff_of_false (by simp [LexAfter]) fun ⟨_, before, differs⟩ => by
      simpa using (heads_of_first_difference ord before differs).1
  | none :: _, _ => iff_of_false (by simp [LexAfter]) fun ⟨_, before, differs⟩ => by
      simpa using (heads_of_first_difference ord before differs).1
  | some _ :: _, [] => iff_of_false (by simp [LexAfter]) fun ⟨_, before, differs⟩ => by
      simpa using (heads_of_first_difference ord before differs).2
  | some _ :: _, none :: _ => iff_of_false (by simp [LexAfter]) fun ⟨_, before, differs⟩ => by
      simpa using (heads_of_first_difference ord before differs).2

end LexAfter

/-- With a value at every place of a linear order, being after is the order of tuples of equal
length. -/
theorem lexAfter_map_some [LinearOrder α] : ∀ {xs vs : List α}, xs.length = vs.length →
    (LexAfter compare (xs.map some) (vs.map some) ↔ vs < xs)
  | [], [], _ => by simp [LexAfter]
  | x :: xs, v :: vs, same => by
    rw [List.map_cons, List.map_cons, LexAfter, lexAfter_map_some (by simpa using same),
      List.cons_lt_cons_iff, compare_gt_iff_gt, compare_eq_iff_eq, eq_comm]

end Sql

end Storefront
