import Storefront.Proofs.Sql.Condition
import Storefront.Proofs.Sql.Statement
import Mathlib

/-!
# Resuming is lexicographic

A statement that resumes after a record ends its conditions with an expansion over the
order-by paths: the first field greater than its value, or equal to it and the rest after,
nested to the right. This module reads the statement's conditions as SQL reads them. The whole
text between `WHERE` and what follows parses as the collection's comparison, each predicate's
comparison and the expansion, all joined by `AND`. The parentheses of the expansion keep its
`OR`s inside it, and a single order-by path needs none. Under three-valued logic the expansion
is TRUE exactly when the tuple of fields comes after the tuple of resume values at the first
place where they differ. With no NULL and a linear order, that is the order of tuples.
-/

namespace Storefront

namespace Sql

variable {α : Type}

/-! ## The conditions of a statement -/

/-- The operand a statement reads the field at a path as. -/
def fieldOperand : Value → Operand
  | .str p => .extract "document".toList ("$." ++ p).toList
  | _ => .column []

/-- The tokens of reading the field at a path. -/
def pathTokens : Value → List Token
  | .str p => [.word "json_extract".toList, .sym ['('], .word "document".toList, .sym [','],
      .quoted ("$." ++ p).toList, .sym [')']]
  | _ => []

/-- A path compared with a placeholder. -/
def comparisonCond (path : Value) (op : CmpOp) (k : Nat) : Cond :=
  .cmp (fieldOperand path) op (.param k)

def comparisonTokens (path : Value) (op : CmpOp) (k : Nat) : List Token :=
  pathTokens path ++ [Token.sym (opText op).toList, .param k]

/-- The collection column compared with a placeholder. -/
def collectionCond (k : Nat) : Cond := .cmp (.column "collection".toList) .eq (.param k)

def collectionTokens (k : Nat) : List Token := [.word "collection".toList, .sym ['='], .param k]

/-- Comparisons of paths, placeholders numbered from `k`. -/
def comparisonConds : List (Value × CmpOp) → Nat → List Cond
  | [], _ => []
  | (path, op) :: cs, k => comparisonCond path op k :: comparisonConds cs (k + 1)

/-- The same comparisons as tokens, each after an AND. -/
def comparisonsTokens : List (Value × CmpOp) → Nat → List Token
  | [], _ => []
  | (path, op) :: cs, k => andToken :: comparisonTokens path op k ++ comparisonsTokens cs (k + 1)

/-- Resuming after a record ordered by a first path and more: the first field greater than its
placeholder, or equal to the next one and the rest after. -/
def expansion : Value → List Value → Nat → Cond
  | p, [], k => comparisonCond p .gt k
  | p, p' :: ps, k =>
    .or (comparisonCond p .gt k) (.and (comparisonCond p .eq (k + 1)) (expansion p' ps (k + 2)))

def resumeTokens : Value → List Value → Nat → List Token
  | p, [], k => comparisonTokens p .gt k
  | p, p' :: ps, k =>
    .sym ['('] :: (comparisonTokens p .gt k ++ orToken :: (.sym ['('] ::
      (comparisonTokens p .eq (k + 1) ++ andToken :: resumeTokens p' ps (k + 2)) ++ [.sym [')']])) ++
      [.sym [')']]

theorem cmpOp?_opText (op : CmpOp) : cmpOp? (opText op).toList = some op := by
  cases op <;> rfl

theorem operand?_path {path : Value} (ok : pathOk path = true) (rest : List Token) :
    operand? (pathTokens path ++ rest) = some (fieldOperand path, rest) := by
  cases path
  case str p => simp [pathTokens, operand?, fieldOperand]
  all_goals cases ok

theorem pathTokens_head {path : Value} (ok : pathOk path = true) :
    (pathTokens path).head? ≠ some (.sym ['(']) := by
  cases path
  case str p => simp [pathTokens]
  all_goals cases ok

theorem atom_comparison {path : Value} (ok : pathOk path = true) (op : CmpOp) (k : Nat) :
    Atom (comparisonTokens path op k) (comparisonCond path op k) := by
  have atom := @atom_cmp (pathTokens path) [.param k] (fieldOperand path) (.param k) _ op
    (fun rest => operand?_path ok (.sym (opText op).toList :: rest)) (pathTokens_head ok)
    (cmpOp?_opText op) (fun _ => rfl)
  simpa [comparisonTokens, comparisonCond] using atom

theorem atom_collection (k : Nat) : Atom (collectionTokens k) (collectionCond k) :=
  @atom_cmp [.word "collection".toList] [.param k] _ _ _ _ (fun _ => rfl) (by simp) rfl
    (fun _ => rfl)

theorem atom_expansion {p : Value} {ps : List Value} (ok : ∀ path ∈ p :: ps, pathOk path = true)
    (k : Nat) : Atom (resumeTokens p ps k) (expansion p ps k) := by
  induction ps generalizing p k with
  | nil => exact atom_comparison (ok p (by simp)) .gt k
  | cons p' ps ih =>
    have first := ok p (by simp)
    have rest := ih (fun path mem => ok path (List.mem_cons_of_mem p mem)) (k + 2)
    -- the equal-then-rest group in parentheses, on the right of OR, all in parentheses
    have group := (Conj.and (atom_comparison first .eq (k + 1)) rest.conj).disj.paren
    rw [resumeTokens, expansion]
    exact (Disj.or (atom_comparison first .gt k).conj group.conj.disj).paren

theorem conj_chain {t rt : List Token} {c rc : Cond} (first : Atom t c) (last : Atom rt rc) :
    ∀ (comps : List (Value × CmpOp)) (k : Nat), (∀ cmp ∈ comps, pathOk cmp.1 = true) →
    Conj (t ++ comparisonsTokens comps k ++ andToken :: rt) (Cond.all c (comparisonConds comps k ++ [rc]))
  | [], _, _ => by simpa [comparisonsTokens, comparisonConds, Cond.all] using Conj.and first last.conj
  | (path, op) :: comps, k, ok => by
    have rest := conj_chain (atom_comparison (ok (path, op) (by simp)) op k) last comps (k + 1)
      fun cmp mem => ok cmp (List.mem_cons_of_mem _ mem)
    simpa [comparisonsTokens, comparisonConds, Cond.all] using Conj.and first rest


/-! ## Reading the text of a statement's conditions -/

theorem lexes_path {path : Value} (ok : pathOk path = true) (k : Nat) :
    Lexes (fieldText path) k (pathTokens path) k := by
  cases path
  case str p =>
    intro acc
    have noQuote := not_mem_of_validPath (c := '\'') ok (by decide) (by decide)
    -- the path is read inside the quotes, which it cannot close
    have opening : "json_extract(document, '$.".toList.foldl LexState.step ⟨acc, .idle, k⟩ =
        ⟨acc ++ [Token.word "json_extract".toList, .sym ['('], .word "document".toList, .sym [',']],
          .quoted ['$', '.'], k⟩ := by
      simp [LexState.step, LexState.start, identChar, identStart]
    have closing : ∀ (toks : List Token) (pre : List Char),
        "')".toList.foldl LexState.step ⟨toks, .quoted pre, k⟩ =
          ⟨toks ++ [Token.quoted pre, .sym [')']], .idle, k⟩ := by
      intro toks pre
      simp [LexState.step, LexState.start, identChar, identStart]
    show ("json_extract(document, '$." ++ p ++ "')").toList.foldl _ _ = _
    rw [String.toList_append, String.toList_append, List.foldl_append, List.foldl_append, opening,
      foldl_quoted noQuote, closing]
    simp [pathTokens]
  all_goals cases ok

theorem lexes_and (k : Nat) : Lexes " AND " k [andToken] k := by
  intro acc
  simp [LexState.step, LexState.start, identChar, identStart, andToken]

theorem lexes_op (op : CmpOp) (k : Nat) : Lexes (" " ++ opText op ++ " ") k [.sym (opText op).toList] k := by
  intro acc
  cases op <;> simp [opText, CmpOp.symbol, LexState.step, LexState.start, identChar, identStart]

theorem lexes_comparison {path : Value} (ok : pathOk path = true) (op : CmpOp) (k : Nat) :
    Lexes (comparisonText "?" path op) k (comparisonTokens path op k) (k + 1) := by
  have whole := ((lexes_path ok k).append (lexes_op op k)).append (lexes_placeholder k)
  have text : comparisonText "?" path op = fieldText path ++ (" " ++ opText op ++ " ") ++ "?" := by
    simp [comparisonText, String.append_assoc]
  rw [text]
  simpa [comparisonTokens] using whole

theorem lexes_collection (k : Nat) :
    Lexes ("collection = " ++ "?") k (collectionTokens k) (k + 1) := by
  have name : Lexes "collection = " k [.word "collection".toList, .sym ['=']] k := by
    intro acc
    simp [LexState.step, LexState.start, identChar, identStart]
  simpa [collectionTokens] using name.append (lexes_placeholder k)

theorem lexes_expansion {p : Value} {ps : List Value} (ok : ∀ path ∈ p :: ps, pathOk path = true)
    (k : Nat) :
    Lexes (resumeText "?" (p :: ps)) k (resumeTokens p ps k) (k + (2 * ps.length + 1)) := by
  induction ps generalizing p k with
  | nil =>
    have greater : Lexes " > " k [.sym ['>']] k := by
      intro acc
      simp [LexState.step, LexState.start, identChar, identStart]
    have whole := ((lexes_path (ok p (by simp)) k).append greater).append (lexes_placeholder k)
    have toks : pathTokens p ++ [Token.sym ['>']] ++ [Token.param k] = resumeTokens p [] k := by
      simp [resumeTokens, comparisonTokens, opText, CmpOp.symbol]
    rw [toks] at whole
    exact whole
  | cons p' ps ih =>
    have first := ok p (by simp)
    have rest := ih (fun path mem => ok path (List.mem_cons_of_mem p mem)) (k + 2)
    have opening : Lexes "(" k [.sym ['(']] k := by
      intro acc
      simp [LexState.step, LexState.start, identChar, identStart]
    have greater : Lexes " > " k [.sym ['>']] k := by
      intro acc
      simp [LexState.step, LexState.start, identChar, identStart]
    have alternative : ∀ j, Lexes " OR (" j [orToken, .sym ['(']] j := by
      intro j acc
      simp [LexState.step, LexState.start, identChar, identStart, orToken]
    have equal : ∀ j, Lexes " = " j [.sym ['=']] j := by
      intro j acc
      simp [LexState.step, LexState.start, identChar, identStart]
    have closing : ∀ j, Lexes "))" j [.sym [')'], .sym [')']] j := by
      intro j acc
      simp [LexState.step, LexState.start, identChar, identStart]
    have whole := (((((((((opening.append (lexes_path first k)).append greater).append
      (lexes_placeholder k)).append (alternative (k + 1))).append (lexes_path first (k + 1))).append
      (equal (k + 1))).append (lexes_placeholder (k + 1))).append (lexes_and (k + 2))).append
      rest).append (closing _)
    have count : k + 2 + (2 * ps.length + 1) = k + (2 * (ps.length + 1) + 1) := by omega
    have toks : [Token.sym ['(']] ++ pathTokens p ++ [Token.sym ['>']] ++ [Token.param k] ++
        [orToken, .sym ['(']] ++ pathTokens p ++ [Token.sym ['=']] ++ [Token.param (k + 1)] ++ [andToken] ++
        resumeTokens p' ps (k + 2) ++ [Token.sym [')'], .sym [')']] = resumeTokens p (p' :: ps) k := by
      simp [resumeTokens, comparisonTokens, opText, CmpOp.symbol]
    rw [count, toks] at whole
    exact whole

/-- Comparisons and a last condition, each after an AND. -/
theorem lexes_joined {rtext : String} {rt : Nat → List Token} {d : Nat}
    (last : ∀ j, Lexes rtext j (rt j) (j + d)) :
    ∀ (comps : List (Value × CmpOp)) (k : Nat), (∀ cmp ∈ comps, pathOk cmp.1 = true) →
    Lexes (" AND " ++ " AND ".intercalate (comps.map (fun c => comparisonText "?" c.1 c.2) ++ [rtext]))
      k (comparisonsTokens comps k ++ andToken :: rt (k + comps.length)) (k + comps.length + d)
  | [], k, _ => by simpa [comparisonsTokens] using (lexes_and k).append (last k)
  | (path, op) :: comps, k, ok => by
    have rest := lexes_joined last comps (k + 1) fun cmp mem => ok cmp (List.mem_cons_of_mem _ mem)
    have whole := ((lexes_and k).append (lexes_comparison (ok (path, op) (by simp)) op k)).append rest
    have count : k + 1 + comps.length = k + (comps.length + 1) := by omega
    rw [List.map_cons, List.cons_append, String.intercalate_cons_of_ne_nil (by simp)]
    rw [count] at whole
    simpa only [comparisonsTokens, String.append_assoc, List.cons_append, List.nil_append,
      List.append_assoc, List.length_cons] using whole

/-- The conditions of a statement that resumes after a record read as the collection's
comparison, the predicates' comparisons and the expansion, all joined by AND. -/
theorem parseCondition_whereText {comps : List (Value × CmpOp)} {p : Value} {ps : List Value}
    (limited : Bool) (compsOk : ∀ cmp ∈ comps, pathOk cmp.1 = true)
    (orderOk : ∀ path ∈ p :: ps, pathOk path = true) :
    parseCondition ((⟨comps, p :: ps, true, limited⟩ : Shape).whereText "?") =
      some (Cond.all (collectionCond 0)
        (comparisonConds comps 1 ++ [expansion p ps (comps.length + 1)])) := by
  have lexed := (lexes_collection 0).append
    (lexes_joined (lexes_expansion orderOk) comps (0 + 1) compsOk)
  have conj := conj_chain (atom_collection 0) (atom_expansion orderOk (comps.length + 1)) comps 1
    compsOk
  have text : (⟨comps, p :: ps, true, limited⟩ : Shape).whereText "?" =
      "collection = " ++ "?" ++ (" AND " ++ " AND ".intercalate
        (comps.map (fun c => comparisonText "?" c.1 c.2) ++ [resumeText "?" (p :: ps)])) := by
    rw [Shape.whereText, if_pos rfl, List.cons_append, String.intercalate_cons_of_ne_nil (by simp),
      String.append_assoc]
  have toks : collectionTokens 0 ++
      (comparisonsTokens comps (0 + 1) ++ andToken :: resumeTokens p ps (0 + 1 + comps.length)) =
      collectionTokens 0 ++ comparisonsTokens comps 1 ++
        andToken :: resumeTokens p ps (comps.length + 1) := by
    rw [Nat.zero_add, Nat.add_comm 1, List.append_assoc]
  rw [toks] at lexed
  have read := conj.disj (3 * (collectionTokens 0 ++ comparisonsTokens comps 1 ++
    andToken :: resumeTokens p ps (comps.length + 1)).length + 3) [] (by omega) (by simp) (by simp)
  rw [List.append_nil] at read
  rw [text, parseCondition, lex_of_lexes lexed]
  simp only [Option.bind_eq_bind, Option.bind_some, read]


/-! ## What the conditions of a statement mean -/

/-- The field at a path of the row's document. -/
def Columns.field (row : Columns α) (path : Value) : Option α := (fieldOperand path).value row []

/-- A path is read from the row whatever the placeholders. -/
theorem value_fieldOperand (row : Columns α) (params : List (Option α)) (path : Value) :
    (fieldOperand path).value row params = row.field path := by
  cases path <;> rfl

section Order

variable (ord : α → α → Ordering)

theorem eval_comparison (row : Columns α) (params : List (Option α)) (path : Value) (op : CmpOp)
    (k : Nat) :
    (comparisonCond path op k).eval ord row params = some true ↔
      ∃ a b, row.field path = some a ∧ params.getD k none = some b ∧
        op.holds (ord a b) = true := by
  unfold comparisonCond Cond.eval
  rw [value_fieldOperand, Operand.value]
  cases row.field path <;> cases params.getD k none <;> simp

/-- The expansion at placeholders `k, k+1, …` bound to the resume values, each twice but the last,
is TRUE exactly when the fields come after those values. By induction on the paths after the
first: each level is the first field greater, or equal and the rest after. -/
theorem eval_expansion (row : Columns α) (post : List (Option α)) :
    ∀ (ps : List Value) (p : Value) (pre : List (Option α)) (v : Option α) (vs : List (Option α)),
      vs.length = ps.length →
      ((expansion p ps pre.length).eval ord row (pre ++ resumeOrder (v :: vs) ++ post) =
          some true ↔
        LexAfter ord ((p :: ps).map row.field) (v :: vs))
  | [], p, pre, v, [], _ => by
    rw [expansion, eval_comparison]
    cases read : row.field p <;> cases v <;> simp [read, resumeOrder, LexAfter, gt_holds_iff]
  | p' :: ps, p, pre, v, v' :: vs, same => by
    have rest := eval_expansion row post ps p' (pre ++ [v, v]) v' vs (by simpa using same)
    have params : pre ++ resumeOrder (v :: v' :: vs) ++ post =
        pre ++ [v, v] ++ resumeOrder (v' :: vs) ++ post := by simp [resumeOrder]
    have length : (pre ++ [v, v]).length = pre.length + 2 := by simp
    rw [length] at rest
    rw [expansion, params, Cond.eval, or3_eq_true, Cond.eval, and3_eq_true, rest,
      eval_comparison, eval_comparison]
    cases read : row.field p <;> cases v <;> simp [read, LexAfter, gt_holds_iff, eq_holds_iff]

end Order

theorem resumeOrder_map {β : Type} (f : α → β) : ∀ xs : List α,
    (resumeOrder xs).map f = resumeOrder (xs.map f)
  | [] => rfl
  | [_] => rfl
  | x :: x' :: xs => by
    simp only [resumeOrder, List.map_cons, resumeOrder_map f (x' :: xs)]

/-- The parameters of a built statement, as SQL reads them, put the resume values right after the
collection and the predicate values, each twice but the last. -/
theorem params_of_compile {q : Query} {xs ys : List Param} (toSql : Value → Option α) :
    (.str q.collection :: xs.map Param.value ++ resumeOrder (ys.map Param.value) ++
        q.limit.toList).map toSql =
      (toSql (.str q.collection) :: xs.map (toSql ∘ Param.value)) ++
        resumeOrder (ys.map (toSql ∘ Param.value)) ++ q.limit.toList.map toSql := by
  simp [List.map_append, resumeOrder_map, ← List.map_map]

/-! ## The statement of a resumed query -/

/-- What a statement that resumes after a record says, for every query the builder methods can
reach and every registry of codecs. Its conditions read, with AND binding tighter than OR, as the
collection's comparison, each predicate's and the expansion over the order-by paths, all joined
by AND. On every row, under SQL's three-valued logic with each placeholder bound to its
parameter, the expansion is TRUE exactly when at some place the field is greater than the
encoded resume value and at each place before it both are equal, none of them NULL; with no NULL
and a linear order, that is the order of tuples. -/
theorem resume_condition_reads_lexicographic {q : Query} (staged : q.Staged) {vs : List Value}
    (resumes : q.startAfter = some vs) {r r' : Registry} {e : Expression}
    (ran : (selectStatement q).run r = .ok e r') :
    ∃ p ps xs r₁ ys, q.orderBy = p :: ps ∧
      ((q.predicates.map (·.value)).mapM encodedParam).run r = .ok xs r₁ ∧
      (vs.mapM encodedParam).run r₁ = .ok ys r' ∧
      (e.compile "?").1 = (Shape.of q).text "?" ∧
      (e.compile "?").2 = .str q.collection :: xs.map Param.value ++
        resumeOrder (ys.map Param.value) ++ q.limit.toList ∧
      parseCondition ((Shape.of q).whereText "?") =
        some (Cond.all (collectionCond 0)
          (comparisonConds (q.predicates.map fun p => (p.path, p.op)) 1 ++
            [expansion p ps (q.predicates.length + 1)])) ∧
      (∀ {α : Type} (ord : α → α → Ordering) (toSql : Value → Option α) (row : Columns α),
        (expansion p ps (q.predicates.length + 1)).eval ord row ((e.compile "?").2.map toSql) =
            some true ↔
          ∃ k, (∀ j < k, ∃ a b, ((p :: ps).map row.field).getD j none = some a ∧
              (ys.map (toSql ∘ Param.value)).getD j none = some b ∧ ord a b = .eq) ∧
            ∃ a b, ((p :: ps).map row.field).getD k none = some a ∧
              (ys.map (toSql ∘ Param.value)).getD k none = some b ∧ ord a b = .gt) ∧
      ∀ {α : Type} [LinearOrder α] (toSql : Value → Option α) (row : Columns α) (as bs : List α),
        (p :: ps).map row.field = as.map some → ys.map (toSql ∘ Param.value) = bs.map some →
        ((expansion p ps (q.predicates.length + 1)).eval compare row
          ((e.compile "?").2.map toSql) = some true ↔ bs < as) := by
  obtain ⟨readable, xs, r₁, ys, predicateRun, resumeRun, compiled⟩ := compile_of_run_ok staged ran
  rw [resumes, Option.getD_some] at resumeRun
  have predicateCount : xs.length = q.predicates.length := by
    simpa using mapM_run_length predicateRun
  have resumeCount : ys.length = q.orderBy.length :=
    (mapM_run_length resumeRun).trans (staged.resume vs resumes)
  -- resuming after no values is refused, so there is a first order-by path and a first value
  obtain ⟨p, ps, order⟩ : ∃ p ps, q.orderBy = p :: ps := by
    cases order : q.orderBy with
    | nil =>
      have empty : vs = [] :=
        List.eq_nil_of_length_eq_zero ((staged.resume vs resumes).trans (by simp [order]))
      exact absurd (resumes.trans (congrArg some empty)) readable.resumes
    | cons p ps => exact ⟨p, ps, rfl⟩
  obtain ⟨y, ys, rfl⟩ : ∃ y ys', ys = y :: ys' := by
    cases ys with
    | nil => simp [order] at resumeCount
    | cons y ys => exact ⟨y, ys, rfl⟩
  simp only [order, List.length_cons, Nat.add_right_cancel_iff] at resumeCount
  have shape : Shape.of q =
      ⟨q.predicates.map fun p => (p.path, p.op), p :: ps, true, q.limit.isSome⟩ := by
    simp [Shape.of, order, resumes]
  have parsed := @parseCondition_whereText (q.predicates.map fun p => (p.path, p.op)) p ps
    q.limit.isSome (by simpa using readable.predicates)
    (by simpa [order] using readable.orderBy)
  rw [List.length_map] at parsed
  -- the expansion's placeholders come right after the collection's and the predicates'
  have read : ∀ {α : Type} (ord : α → α → Ordering) (toSql : Value → Option α) (row : Columns α),
      (expansion p ps (q.predicates.length + 1)).eval ord row ((e.compile "?").2.map toSql) =
          some true ↔
        LexAfter ord ((p :: ps).map row.field) ((y :: ys).map (toSql ∘ Param.value)) := by
    intro α ord toSql row
    have expanded := eval_expansion ord row (q.limit.toList.map toSql) ps p
      (toSql (.str q.collection) :: xs.map (toSql ∘ Param.value)) (toSql y.value)
      (ys.map (toSql ∘ Param.value)) (by simpa using resumeCount)
    rw [List.length_cons, List.length_map, predicateCount] at expanded
    rw [compiled, params_of_compile, List.map_cons]
    exact expanded
  refine ⟨p, ps, xs, r₁, y :: ys, order, predicateRun, resumeRun, by rw [compiled],
    by rw [compiled], by rw [shape, parsed], fun ord toSql row => ?_, ?_⟩
  · exact (read ord toSql row).trans (lexAfter_iff_exists ord _ _)
  · intro α _ toSql row as bs fields values
    rw [read, fields, values]
    have fieldCount := congrArg List.length fields
    have valueCount := congrArg List.length values
    simp only [List.length_map, List.length_cons] at fieldCount valueCount
    exact lexAfter_map_some (by omega)

/-- Orders ordered by amount and id, resumed after amount 5 and id "x": the conditions read as the
collection's comparison and the expansion over both paths. -/
theorem resumed_orders_read_expansion :
    ∃ e r', (selectStatement (({ collection := "orders" } : Query).run
        [.orderedBy [.str "amount", .str "id"], .after [.int 5, .str "x"]])).run {} = .ok e r' ∧
      parseCondition ((Shape.of (({ collection := "orders" } : Query).run
          [.orderedBy [.str "amount", .str "id"], .after [.int 5, .str "x"]])).whereText "?") =
        some (.and (collectionCond 0) (expansion (.str "amount") [.str "id"] 1)) := by
  have staged := (Query.staged_new "orders").run
    [.orderedBy [.str "amount", .str "id"], .after [.int 5, .str "x"]]
  have encoded : ∃ ys r', ([Value.int 5, .str "x"].mapM encodedParam).run {} = .ok ys r' := by
    simp [encodedParam, Codec.get, getThe, MonadStateOf.get, EStateM.get, bind, EStateM.bind,
      EStateM.run, Registry.find?, Codec.ofClass, modify, modifyGet, MonadStateOf.modifyGet,
      EStateM.modifyGet, pure, EStateM.pure, Codec.encode, List.mapM_cons, Value.kind,
      Registry.insert, Hint.key, Kind.name]
  obtain ⟨ys, r', resumeRun⟩ := encoded
  have ran := (selectStatement_run_ok_iff staged).mpr
    ⟨⟨by decide, by decide, fun same => by cases same⟩, [], {}, ys, rfl, resumeRun, rfl⟩
  obtain ⟨p, ps, -, -, -, order, -, -, -, -, parsed, -⟩ :=
    resume_condition_reads_lexicographic staged rfl ran
  cases order
  exact ⟨_, r', ran, parsed⟩

end Sql

/-! ## The table store's resume condition -/

/-- A SQL value as a condition reads it, NULL as `none`. -/
def SqlValue.nonNull : SqlValue → Option SqlValue
  | .null => none
  | v => some v

/-- What the conditions of a statement read of a document: its field at each path. -/
def DocNode.columns (doc : DocNode) : Sql.Columns SqlValue where
  column _ := none
  extract _ path := (doc.field (String.ofList (path.drop 2))).nonNull

theorem DocNode.columns_field (doc : DocNode) (p : String) :
    doc.columns.field (.str p) = (doc.field p).nonNull := by
  have path : ("$." ++ p).toList.drop 2 = p.toList := by simp
  simp only [Sql.Columns.field, Sql.fieldOperand, Sql.Operand.value, DocNode.columns, path,
    String.ofList_toList]

/-- A comparison of a field with a placeholder bound to a value is the table store's test. -/
theorem eval_comparison_field (doc : DocNode) {params : List (Option SqlValue)} (p : String)
    (op : CmpOp) {k : Nat} (v : SqlValue) (bound : params.getD k none = v.nonNull) :
    (Sql.comparisonCond (.str p) op k).eval SqlValue.order doc.columns params =
      SqlValue.test op (doc.field p) v := by
  unfold Sql.comparisonCond Sql.Cond.eval
  rw [Sql.value_fieldOperand, DocNode.columns_field, Sql.Operand.value, bound]
  cases doc.field p <;> cases v <;> rfl

/-- The table store's resume condition is the expansion's meaning on the document, with the
placeholders bound to the resume values. By induction on the paths after the first, as the
expansion nests. -/
theorem after_eq_eval_expansion (doc : DocNode) (post : List (Option SqlValue)) :
    ∀ (ps : List String) (p : String) (pre : List (Option SqlValue)) (v : SqlValue)
      (vs : List SqlValue), vs.length = ps.length →
      (Sql.expansion (.str p) (ps.map .str) pre.length).eval SqlValue.order doc.columns
          (pre ++ Sql.resumeOrder ((v :: vs).map SqlValue.nonNull) ++ post) =
        TableStore.after doc (p :: ps) (v :: vs)
  | [], p, pre, v, [], _ => by
    simp only [List.map_nil]
    rw [Sql.expansion, TableStore.after]
    exact eval_comparison_field doc p .gt v (by simp [Sql.resumeOrder])
  | p' :: ps, p, pre, v, v' :: vs, same => by
    have rest := after_eq_eval_expansion doc post ps p' (pre ++ [v.nonNull, v.nonNull]) v' vs
      (by simpa using same)
    have params : pre ++ Sql.resumeOrder ((v :: v' :: vs).map SqlValue.nonNull) ++ post =
        pre ++ [v.nonNull, v.nonNull] ++ Sql.resumeOrder ((v' :: vs).map SqlValue.nonNull) ++
          post := by
      simp [Sql.resumeOrder]
    have length : (pre ++ [v.nonNull, v.nonNull]).length = pre.length + 2 := by simp
    rw [length] at rest
    have paths : (p' :: ps).map Value.str = .str p' :: ps.map .str := rfl
    rw [paths, Sql.expansion, params, Sql.Cond.eval, Sql.Cond.eval, rest,
      eval_comparison_field doc p .gt v (by simp), eval_comparison_field doc p .eq v (by simp)]
    -- only the outer condition unfolds: the inner one is what the induction gave
    symm
    rw [TableStore.after]
    exact List.cons_ne_nil _ _

/-- The table store keeps a document past the resume point exactly when, at some order-by path,
its field is greater than the resume value and at each path before it both are equal, none of
them NULL, as SQL orders values. -/
theorem after_iff_exists (doc : DocNode) {ps : List String} {vs : List SqlValue} (p : String)
    (v : SqlValue) (same : vs.length = ps.length) :
    TableStore.after doc (p :: ps) (v :: vs) = some true ↔
      ∃ k, (∀ j < k, ∃ a b, ((p :: ps).map fun p => (doc.field p).nonNull).getD j none = some a ∧
          ((v :: vs).map SqlValue.nonNull).getD j none = some b ∧ SqlValue.order a b = .eq) ∧
        ∃ a b, ((p :: ps).map fun p => (doc.field p).nonNull).getD k none = some a ∧
          ((v :: vs).map SqlValue.nonNull).getD k none = some b ∧ SqlValue.order a b = .gt := by
  have expanded := after_eq_eval_expansion doc [] ps p [] v vs same
  have read := Sql.eval_expansion SqlValue.order doc.columns [] (ps.map .str) (.str p) [] v.nonNull
    (vs.map SqlValue.nonNull) (by simpa using same)
  have fields : (Value.str p :: ps.map .str).map doc.columns.field =
      (p :: ps).map fun p => (doc.field p).nonNull := by
    simp [DocNode.columns_field]
  rw [List.map_cons] at expanded
  rw [expanded, fields] at read
  rw [read]
  exact Sql.lexAfter_iff_exists _ _ _

end Storefront
