import Storefront.Sql.Select
import Storefront.Proofs.Query.Stages
import Mathlib

/-!
# Select statements bind every value

A select statement is text and parameters. Run on a query whose paths are all dotted
identifiers, it is a pure function of the parameters its values encode to: the codec work on
the predicate values and then on the resume values, in that order, and nothing else can fail.
Its text is made only of the query's paths and operators and of whether it resumes and is
limited (`Shape.text`), so two queries of one shape give one text whatever their collections,
values and limits. The values bound are the collection, the encoded predicate values, the
encoded resume values each twice but the last (the expansion compares each field twice), and
the limit; the text has exactly one placeholder for each of them.
-/

namespace Storefront

namespace Sql

variable {α β : Type}

/-! ## Running codec work -/

theorem bind_run_ok {x : CodecM α} {f : α → CodecM β} {r r' : Registry} {a : α}
    (ran : x.run r = .ok a r') : (x >>= f).run r = (f a).run r' := by
  show EStateM.bind x f r = _
  simp only [EStateM.bind, EStateM.run] at ran ⊢
  rw [ran]

theorem bind_run_error {x : CodecM α} {f : α → CodecM β} {r r' : Registry} {e : Failure}
    (ran : x.run r = .error e r') : (x >>= f).run r = .error e r' := by
  show EStateM.bind x f r = _
  simp only [EStateM.bind, EStateM.run] at ran ⊢
  rw [ran]

/-- A bind goes through exactly when its first step does and then the rest from there. -/
theorem bind_run_ok_iff {x : CodecM α} {f : α → CodecM β} {r r' : Registry} {b : β} :
    (x >>= f).run r = .ok b r' ↔ ∃ a r₁, x.run r = .ok a r₁ ∧ (f a).run r₁ = .ok b r' := by
  constructor
  · intro ran
    cases first : x.run r with
    | ok a r₁ => exact ⟨a, r₁, rfl, by rwa [bind_run_ok first] at ran⟩
    | error e r₁ => rw [bind_run_error first] at ran; cases ran
  · rintro ⟨a, r₁, first, rest⟩
    rwa [bind_run_ok first]

theorem map_run_ok_iff {x : CodecM α} {f : α → β} {r r' : Registry} {b : β} :
    (f <$> x).run r = .ok b r' ↔ ∃ a, x.run r = .ok a r' ∧ f a = b := by
  rw [map_eq_pure_bind, bind_run_ok_iff]
  constructor
  · rintro ⟨a, r₁, ran, pure⟩
    cases pure
    exact ⟨a, ran, rfl⟩
  · rintro ⟨a, ran, rfl⟩
    exact ⟨a, r', ran, rfl⟩

/-- A successful traversal gives one result for each item. -/
theorem mapM_run_length {f : α → CodecM β} {xs : List α} {ys : List β} {r r' : Registry}
    (ran : (xs.mapM f).run r = .ok ys r') : ys.length = xs.length := by
  induction xs generalizing ys r with
  | nil =>
    cases ran
    rfl
  | cons x xs ih =>
    rw [List.mapM_cons, bind_run_ok_iff] at ran
    obtain ⟨y, r₁, -, rest⟩ := ran
    rw [bind_run_ok_iff] at rest
    obtain ⟨ys', r₂, tail, done⟩ := rest
    cases done
    simp [ih tail]

/-- Work that fails from every registry. -/
def Fails (x : CodecM α) : Prop := ∀ r, ∃ e r', x.run r = .error e r'

theorem Fails.bind_left {x : CodecM α} (fails : Fails x) (f : α → CodecM β) : Fails (x >>= f) := by
  intro r
  obtain ⟨e, r', ran⟩ := fails r
  exact ⟨e, r', bind_run_error ran⟩

theorem Fails.bind_right (x : CodecM α) {f : α → CodecM β} (fails : ∀ a, Fails (f a)) :
    Fails (x >>= f) := by
  intro r
  cases first : x.run r with
  | ok a r₁ =>
    rw [bind_run_ok first]
    exact fails a r₁
  | error e r₁ => exact ⟨e, r₁, bind_run_error first⟩

/-- A traversal fails when the work on one of its items always fails. -/
theorem Fails.mapM {f : α → CodecM β} {xs : List α} {x : α} (mem : x ∈ xs) (fails : Fails (f x)) :
    Fails (xs.mapM f) := by
  induction xs with
  | nil => cases mem
  | cons y ys ih =>
    rw [List.mapM_cons]
    rcases List.mem_cons.mp mem with rfl | later
    · exact fails.bind_left _
    · exact Fails.bind_right _ fun _ => (ih later).bind_left _

theorem liftExcept_error (e : Failure) : Fails (liftExcept (.error e : Except Failure α)) :=
  fun r => ⟨e, r, rfl⟩

/-! ## Paths -/

/-- A path a statement can read a document field at: text that is a dotted path of
identifiers. -/
def pathOk : Value → Bool
  | .str p => validPath p
  | _ => false

/-- The document field at a path, as a statement's text reads it. -/
def fieldText : Value → String
  | .str p => "json_extract(document, '$." ++ p ++ "')"
  | _ => ""

theorem field_eq_ok {path : Value} (ok : pathOk path = true) : field path = .ok (fieldText path) := by
  cases path
  case str p =>
    show (if validPath p then pure _ else throw _) = _
    rw [if_pos (show validPath p = true from ok)]
    rfl
  all_goals cases ok

theorem field_eq_error {path : Value} (bad : pathOk path = false) : ∃ e, field path = .error e := by
  cases path
  case str p =>
    show ∃ e, (if validPath p then pure _ else throw _) = _
    rw [if_neg (by simpa [pathOk] using bad)]
    exact ⟨_, rfl⟩
  -- a path that is not text is a type failure
  all_goals exact ⟨_, rfl⟩

theorem mem_intercalate {sep : List Char} {c : Char} :
    ∀ {parts : List (List Char)}, c ∈ sep.intercalate parts → c ∈ sep ∨ ∃ part ∈ parts, c ∈ part
  | [], mem => by simp at mem
  | [part], mem => .inr ⟨part, by simp, by simpa using mem⟩
  | part :: part' :: parts, mem => by
    rw [List.intercalate_cons_cons, List.mem_append, List.mem_append] at mem
    rcases mem with (here | dot) | later
    · exact .inr ⟨part, by simp, here⟩
    · exact .inl dot
    · rcases mem_intercalate later with dot | ⟨other, mem, there⟩
      · exact .inl dot
      · exact .inr ⟨other, List.mem_cons_of_mem _ mem, there⟩


/-- A valid path is dots and identifier characters only. -/
theorem validPath_chars {p : String} (valid : validPath p = true) {c : Char} (mem : c ∈ p.toList) :
    c = '.' ∨ identChar c = true := by
  have whole : ['.'].intercalate (p.toList.splitOn '.') = p.toList := List.intercalate_splitOn '.'
  rw [← whole] at mem
  rcases mem_intercalate mem with dot | ⟨part, split, inPart⟩
  · exact .inl (List.mem_singleton.mp dot)
  · unfold validPath at valid
    have ident := List.all_eq_true.mp valid part split
    match part, inPart, ident with
    | d :: ds, inPart, ident =>
      simp only [Bool.and_eq_true, List.all_eq_true] at ident
      rcases List.mem_cons.mp inPart with rfl | later
      · exact .inr (by simp [identChar, ident.1])
      · exact .inr (ident.2 c later)

/-- A character that is neither a dot nor of an identifier is in no valid path. -/
theorem not_mem_of_validPath {p : String} (valid : validPath p = true) {c : Char} (dot : c ≠ '.')
    (foreign : identChar c = false) : c ∉ p.toList := fun mem => by
  rcases validPath_chars valid mem with same | ident
  · exact dot same
  · rw [foreign] at ident
    cases ident

/-! ## A statement as a function of its parameters -/

/-- The operator of a predicate as a statement writes it. -/
def opText (op : CmpOp) : String := if op == .eq then "=" else op.symbol

/-- A predicate compared with the parameter its value encodes to. -/
def comparison (p : Predicate) (x : Param) : List Fragment :=
  [.text (fieldText p.path ++ " " ++ opText p.op ++ " "), .param x]

/-- The expansion of resuming after some parameters: the first field greater, or equal and the
rest greater. -/
def resumeFragments : List Value → List Param → List Fragment
  | [p], x :: _ => [.text (fieldText p ++ " > "), .param x]
  | p :: p' :: ps, x :: xs => [.text "(", .text (fieldText p ++ " > "), .param x,
      .text (" OR (" ++ fieldText p ++ " = "), .param x, .text " AND "] ++
      resumeFragments (p' :: ps) xs ++ [.text "))"]
  | _, _ => []

/-- The ORDER BY clause of some paths, none for no paths. -/
def orderFragments (paths : List Value) : List Fragment :=
  if paths.isEmpty then [] else [.text " ORDER BY ", .text (", ".intercalate (paths.map fieldText))]

/-- The LIMIT clause of a limit, if there is one. -/
def limitFragments : Option Value → List Fragment
  | some n => [.text " LIMIT ", .param (Param.ofValue n)]
  | none => []

/-- The statement of a query, given the parameters of its predicate values and of its resume
values. -/
def statementOf (q : Query) (xs ys : List Param) : Expression :=
  ⟨[Fragment.text ("SELECT id, document FROM " ++ table ++ " WHERE ")] ++
    conjunction ([.text "collection = ", .param (Param.ofValue (.str q.collection))] ::
      List.zipWith comparison q.predicates xs ++
        (q.startAfter.map fun _ => resumeFragments q.orderBy ys).toList) ++
    orderFragments q.orderBy ++ limitFragments q.limit ++ [.text ";"]⟩

theorem predicate_eq {p : Predicate} (ok : pathOk p.path = true) :
    predicate p = comparison p <$> encodedParam p.value := by
  simp only [predicate, field_eq_ok ok, liftExcept, pure_bind, map_eq_pure_bind]
  rfl

theorem mapM_predicate {ps : List Predicate} (ok : ∀ p ∈ ps, pathOk p.path = true) :
    ps.mapM predicate = List.zipWith comparison ps <$> (ps.map (·.value)).mapM encodedParam := by
  induction ps with
  | nil => simp
  | cons p ps ih =>
    simp [List.mapM_cons, predicate_eq (ok p (by simp)), ih fun p' mem => ok p' (by simp [mem])]

theorem mapM_field {paths : List Value} (ok : ∀ p ∈ paths, pathOk p = true) :
    paths.mapM field = .ok (paths.map fieldText) := by
  induction paths with
  | nil => rfl
  | cons p ps ih =>
    simp only [List.mapM_cons, field_eq_ok (ok p (by simp)), ih fun p' mem => ok p' (by simp [mem])]
    rfl

theorem startAfter_eq {paths vs : List Value} (ok : ∀ p ∈ paths, pathOk p = true)
    (same : vs.length = paths.length) (nonempty : paths ≠ []) :
    startAfter paths vs = resumeFragments paths <$> vs.mapM encodedParam := by
  induction paths generalizing vs with
  | nil => contradiction
  | cons p ps ih =>
    obtain ⟨v, vs, rfl⟩ := List.exists_cons_of_length_eq_add_one same
    have first := field_eq_ok (ok p (by simp))
    cases ps with
    | nil =>
      obtain rfl : vs = [] := List.eq_nil_of_length_eq_zero (by simpa using same)
      simp [startAfter, first, liftExcept, resumeFragments, List.mapM_cons]
    | cons p' ps =>
      have rest := ih (fun p mem => ok p (List.mem_cons_of_mem _ mem)) (by simpa using same) (by simp)
      simp [startAfter, first, liftExcept, resumeFragments, List.mapM_cons, rest]

theorem selectStatement_eq {q : Query} (predicatesOk : ∀ p ∈ q.predicates, pathOk p.path = true)
    (orderOk : ∀ path ∈ q.orderBy, pathOk path = true)
    (resumes : ∀ vs, q.startAfter = some vs → vs.length = q.orderBy.length ∧ q.orderBy ≠ []) :
    selectStatement q = (q.predicates.map (·.value)).mapM encodedParam >>= fun xs =>
      (q.startAfter.getD []).mapM encodedParam >>= fun ys => pure (statementOf q xs ys) := by
  unfold selectStatement
  rw [mapM_predicate predicatesOk, mapM_field orderOk]
  rcases q with ⟨collection, predicates, orderBy, resume, limit, stage⟩
  cases resume with
  | none =>
    cases empty : orderBy.isEmpty <;> cases limit <;>
      simp [statementOf, orderFragments, limitFragments, empty, liftExcept]
  | some vs =>
    obtain ⟨same, nonempty⟩ := resumes vs rfl
    have expanded := startAfter_eq orderOk same nonempty
    cases empty : orderBy.isEmpty <;> cases limit <;>
      simp [statementOf, orderFragments, limitFragments, empty, liftExcept, expanded]

/-! ## When a statement is refused -/

theorem predicate_fails {p : Predicate} (bad : pathOk p.path = false) : Fails (predicate p) := by
  obtain ⟨e, refused⟩ := field_eq_error bad
  unfold predicate
  rw [refused]
  exact (liftExcept_error e).bind_left _

theorem startAfter_fails {paths vs : List Value} (same : vs.length = paths.length)
    (bad : paths = [] ∨ ∃ p ∈ paths, pathOk p = false) : Fails (startAfter paths vs) := by
  induction paths generalizing vs with
  | nil => exact fun r => ⟨_, r, rfl⟩
  | cons p ps ih =>
    obtain ⟨v, vs, rfl⟩ := List.exists_cons_of_length_eq_add_one same
    by_cases first : pathOk p = false
    · obtain ⟨e, refused⟩ := field_eq_error first
      cases ps with
      | nil =>
        rw [startAfter, refused]
        exact (liftExcept_error e).bind_left _
      | cons p' ps =>
        rw [startAfter, refused]
        · exact (liftExcept_error e).bind_left _
        · exact List.cons_ne_nil _ _
    · cases ps with
      | nil => simp_all
      | cons p' ps =>
        have later : ∃ p ∈ p' :: ps, pathOk p = false := by simp_all
        rw [startAfter]
        · exact Fails.bind_right _ fun _ => Fails.bind_right _ fun _ =>
            (ih (by simpa using same) (.inr later)).bind_left _
        · exact List.cons_ne_nil _ _

theorem mapM_field_error {paths : List Value} {p : Value} (mem : p ∈ paths)
    (bad : pathOk p = false) : ∃ e, paths.mapM field = .error e := by
  induction paths with
  | nil => cases mem
  | cons p' ps ih =>
    rw [List.mapM_cons]
    cases first : field p' with
    | error e => exact ⟨e, rfl⟩
    | ok f =>
      rcases List.mem_cons.mp mem with rfl | later
      · obtain ⟨e, refused⟩ := field_eq_error bad
        rw [refused] at first
        cases first
      · obtain ⟨e, rest⟩ := ih later
        exact ⟨e, by rw [rest]; rfl⟩

theorem selectStatement_fails_predicate {q : Query} {p : Predicate} (mem : p ∈ q.predicates)
    (bad : pathOk p.path = false) : Fails (selectStatement q) := by
  unfold selectStatement
  exact (Fails.mapM mem (predicate_fails bad)).bind_left _

theorem selectStatement_fails_resume {q : Query} {vs : List Value} (resume : q.startAfter = some vs)
    (same : vs.length = q.orderBy.length) (bad : q.orderBy = [] ∨ ∃ p ∈ q.orderBy, pathOk p = false) :
    Fails (selectStatement q) := by
  rcases q with ⟨collection, predicates, orderBy, resume', limit, stage⟩
  cases resume
  unfold selectStatement
  exact Fails.bind_right _ fun _ => (startAfter_fails same bad).bind_left _

theorem selectStatement_fails_order {q : Query} (unresumed : q.startAfter = none) {p : Value}
    (mem : p ∈ q.orderBy) (bad : pathOk p = false) : Fails (selectStatement q) := by
  rcases q with ⟨collection, predicates, orderBy, resume', limit, stage⟩
  cases unresumed
  obtain ⟨e, refused⟩ := mapM_field_error mem bad
  have nonempty : orderBy.isEmpty = false := by cases orderBy <;> simp_all
  unfold selectStatement
  simp only [nonempty, refused, pure_bind, Bool.false_eq_true, if_false]
  exact Fails.bind_right _ fun _ => (liftExcept_error e).bind_left _

/-- A query whose statement can be built: every predicate and order-by path is a dotted path of
identifiers, and resuming, if asked, is after some values. -/
structure Readable (q : Query) : Prop where
  predicates : ∀ p ∈ q.predicates, pathOk p.path = true
  orderBy : ∀ path ∈ q.orderBy, pathOk path = true
  resumes : q.startAfter ≠ some []

theorem selectStatement_fails {q : Query} (staged : q.Staged) (unreadable : ¬ Readable q) :
    Fails (selectStatement q) := by
  by_cases predicatesOk : ∀ p ∈ q.predicates, pathOk p.path = true
  · by_cases orderOk : ∀ path ∈ q.orderBy, pathOk path = true
    · -- with every path readable, what is left is resuming after no values
      cases resume : q.startAfter with
      | none => exact absurd ⟨predicatesOk, orderOk, by simp [resume]⟩ unreadable
      | some vs =>
        cases vs with
        | nil =>
          have same := staged.resume [] resume
          exact selectStatement_fails_resume resume same (.inl (List.eq_nil_of_length_eq_zero same.symm))
        | cons v vs => exact absurd ⟨predicatesOk, orderOk, by simp [resume]⟩ unreadable
    · obtain ⟨path, mem, bad⟩ : ∃ path ∈ q.orderBy, pathOk path = false := by simpa using orderOk
      cases resume : q.startAfter with
      | none => exact selectStatement_fails_order resume mem bad
      | some vs =>
        exact selectStatement_fails_resume resume (staged.resume vs resume) (.inr ⟨path, mem, bad⟩)
  · obtain ⟨p, mem, bad⟩ : ∃ p ∈ q.predicates, pathOk p.path = false := by simpa using predicatesOk
    exact selectStatement_fails_predicate mem bad

/-- A statement is built exactly when the query is readable and the codec work on the predicate
values, then on the resume values, goes through; it is then the statement of their
parameters. -/
theorem selectStatement_run_ok_iff {q : Query} (staged : q.Staged) {r r' : Registry}
    {e : Expression} :
    (selectStatement q).run r = .ok e r' ↔ Readable q ∧
      ∃ xs r₁ ys, ((q.predicates.map (·.value)).mapM encodedParam).run r = .ok xs r₁ ∧
        ((q.startAfter.getD []).mapM encodedParam).run r₁ = .ok ys r' ∧ e = statementOf q xs ys := by
  by_cases readable : Readable q
  · have resumes : ∀ vs, q.startAfter = some vs → vs.length = q.orderBy.length ∧ q.orderBy ≠ [] := by
      intro vs resume
      have same := staged.resume vs resume
      refine ⟨same, fun empty => readable.resumes ?_⟩
      rw [resume, List.eq_nil_of_length_eq_zero (same.trans (by simp [empty]))]
    rw [selectStatement_eq readable.predicates readable.orderBy resumes]
    simp only [bind_run_ok_iff]
    constructor
    · rintro ⟨xs, r₁, predicateRun, ys, r₂, resumeRun, built⟩
      cases built
      exact ⟨readable, xs, r₁, ys, predicateRun, resumeRun, rfl⟩
    · rintro ⟨-, xs, r₁, ys, predicateRun, resumeRun, rfl⟩
      exact ⟨xs, r₁, predicateRun, ys, r', resumeRun, rfl⟩
  · constructor
    · intro ran
      obtain ⟨e', r'', failed⟩ := selectStatement_fails staged readable r
      rw [failed] at ran
      cases ran
    · rintro ⟨readable', -⟩
      exact absurd readable' readable

/-! ## Compiling fragments -/

section Compile

variable (ph : String)

@[simp] theorem compile_nil : Expression.compile ⟨[]⟩ ph = ("", []) := rfl

@[simp] theorem compile_text_cons (s : String) (fs : List Fragment) :
    Expression.compile ⟨.text s :: fs⟩ ph =
      (s ++ (Expression.compile ⟨fs⟩ ph).1, (Expression.compile ⟨fs⟩ ph).2) := by
  simp [Expression.compile]

@[simp] theorem compile_param_cons (x : Param) (fs : List Fragment) :
    Expression.compile ⟨.param x :: fs⟩ ph =
      (ph ++ (Expression.compile ⟨fs⟩ ph).1, x.value :: (Expression.compile ⟨fs⟩ ph).2) := by
  simp [Expression.compile]

@[simp] theorem compile_append (fs gs : List Fragment) :
    Expression.compile ⟨fs ++ gs⟩ ph =
      ((Expression.compile ⟨fs⟩ ph).1 ++ (Expression.compile ⟨gs⟩ ph).1,
        (Expression.compile ⟨fs⟩ ph).2 ++ (Expression.compile ⟨gs⟩ ph).2) := by
  simp [Expression.compile]

theorem conjunction_cons_cons (c d : List Fragment) (cs : List (List Fragment)) :
    conjunction (c :: d :: cs) = c ++ .text " AND " :: conjunction (d :: cs) := by
  simp [conjunction]

theorem compile_conjunction : ∀ cs : List (List Fragment),
    Expression.compile ⟨conjunction cs⟩ ph =
      (" AND ".intercalate (cs.map fun c => (Expression.compile ⟨c⟩ ph).1),
        cs.flatMap fun c => (Expression.compile ⟨c⟩ ph).2)
  | [] => rfl
  | [c] => by simp [conjunction]
  | c :: d :: cs => by
    rw [conjunction_cons_cons, compile_append, compile_text_cons, compile_conjunction (d :: cs)]
    simp [String.intercalate_cons_cons, String.append_assoc]

end Compile

/-- Each value twice but the last, as resuming compares every field but the last twice. -/
def resumeOrder : List α → List α
  | [] => []
  | [x] => [x]
  | x :: x' :: xs => x :: x :: resumeOrder (x' :: xs)

/-- The text of comparing the field at a path with a placeholder. -/
def comparisonText (ph : String) (path : Value) (op : CmpOp) : String :=
  fieldText path ++ " " ++ opText op ++ " " ++ ph

/-- The text of resuming after a record ordered by some paths. -/
def resumeText (ph : String) : List Value → String
  | [] => ""
  | [p] => fieldText p ++ " > " ++ ph
  | p :: p' :: ps =>
    "(" ++ fieldText p ++ " > " ++ ph ++ " OR (" ++ fieldText p ++ " = " ++ ph ++ " AND " ++
      resumeText ph (p' :: ps) ++ "))"

theorem compile_comparison (ph : String) (p : Predicate) (x : Param) :
    Expression.compile ⟨comparison p x⟩ ph = (comparisonText ph p.path p.op, [x.value]) := by
  simp [comparison, comparisonText, String.append_assoc]

theorem compile_resumeFragments (ph : String) {paths : List Value} {ys : List Param}
    (same : ys.length = paths.length) :
    Expression.compile ⟨resumeFragments paths ys⟩ ph =
      (resumeText ph paths, resumeOrder (ys.map Param.value)) := by
  induction paths generalizing ys with
  | nil =>
    obtain rfl := List.eq_nil_of_length_eq_zero same
    rfl
  | cons p ps ih =>
    obtain ⟨y, ys, rfl⟩ := List.exists_cons_of_length_eq_add_one same
    cases ps with
    | nil =>
      obtain rfl := List.eq_nil_of_length_eq_zero (by simpa using same)
      simp [resumeFragments, resumeText, resumeOrder]
    | cons p' ps =>
      obtain ⟨y', ys', rfl⟩ := List.exists_cons_of_length_eq_add_one (by simpa using same)
      have rest := @ih (y' :: ys') (by simpa using same)
      simp only [resumeFragments, compile_append, compile_text_cons, compile_param_cons, rest]
      simp [resumeText, resumeOrder, String.append_assoc]

theorem compile_comparisons (ph : String) {ps : List Predicate} {xs : List Param}
    (same : xs.length = ps.length) :
    (List.zipWith comparison ps xs).map (fun c => (Expression.compile ⟨c⟩ ph).1) =
      ps.map (fun p => comparisonText ph p.path p.op) ∧
    (List.zipWith comparison ps xs).flatMap (fun c => (Expression.compile ⟨c⟩ ph).2) =
      xs.map Param.value := by
  induction ps generalizing xs with
  | nil =>
    obtain rfl := List.eq_nil_of_length_eq_zero same
    simp
  | cons p ps ih =>
    obtain ⟨x, xs, rfl⟩ := List.exists_cons_of_length_eq_add_one same
    obtain ⟨texts, values⟩ := @ih xs (by simpa using same)
    simp [compile_comparison, texts, values]

/-- What a query's statement text is made of: the path and operator of each predicate, the
order-by paths, whether it resumes and whether it is limited. -/
structure Shape where
  comparisons : List (Value × CmpOp)
  orderBy : List Value
  resumes : Bool
  limited : Bool

namespace Shape

/-- The shape of a query. -/
def of (q : Query) : Shape :=
  ⟨q.predicates.map fun p => (p.path, p.op), q.orderBy, q.startAfter.isSome, q.limit.isSome⟩

/-- The conditions of a statement of the shape, joined by AND. -/
def whereText (s : Shape) (ph : String) : String :=
  " AND ".intercalate (("collection = " ++ ph) ::
    s.comparisons.map (fun c => comparisonText ph c.1 c.2) ++
      if s.resumes then [resumeText ph s.orderBy] else [])

/-- The text of a statement of the shape. -/
def text (s : Shape) (ph : String) : String :=
  "SELECT id, document FROM " ++ table ++ " WHERE " ++ s.whereText ph ++
    (if s.orderBy.isEmpty then "" else " ORDER BY " ++ ", ".intercalate (s.orderBy.map fieldText)) ++
    (if s.limited then " LIMIT " ++ ph else "") ++ ";"

end Shape

theorem compile_order (ph : String) (paths : List Value) :
    Expression.compile ⟨orderFragments paths⟩ ph =
      (if paths.isEmpty then "" else " ORDER BY " ++ ", ".intercalate (paths.map fieldText), []) := by
  unfold orderFragments
  split <;> simp

theorem compile_limit (ph : String) (limit : Option Value) :
    Expression.compile ⟨limitFragments limit⟩ ph =
      (if limit.isSome then " LIMIT " ++ ph else "", limit.toList) := by
  cases limit <;> simp [limitFragments, Param.ofValue, Param.ofClass]

theorem compile_statementOf (ph : String) {q : Query} {xs ys : List Param}
    (predicateParams : xs.length = q.predicates.length)
    (resumeParams : ys.length = (q.startAfter.getD []).length)
    (resumes : ∀ vs, q.startAfter = some vs → vs.length = q.orderBy.length) :
    Expression.compile (statementOf q xs ys) ph =
      ((Shape.of q).text ph, .str q.collection :: xs.map Param.value ++
        resumeOrder (ys.map Param.value) ++ q.limit.toList) := by
  rcases q with ⟨collection, predicates, orderBy, resume, limit, stage⟩
  obtain ⟨texts, values⟩ := @compile_comparisons ph predicates xs predicateParams
  simp only [statementOf, compile_append, compile_text_cons, compile_param_cons, compile_nil,
    compile_conjunction, compile_order, compile_limit, List.map_cons, List.map_append, texts,
    List.flatMap_cons, List.flatMap_append, values]
  cases resume with
  | none =>
    obtain rfl := List.eq_nil_of_length_eq_zero resumeParams
    unfold Shape.text Shape.whereText Shape.of
    simp [resumeOrder, Param.ofValue, Param.ofClass, String.append_assoc, Function.comp_def]
  | some vs =>
    have expanded := @compile_resumeFragments ph orderBy ys
      (by simpa [resumes vs rfl] using resumeParams)
    unfold Shape.text Shape.whereText Shape.of
    simp [expanded, Param.ofValue, Param.ofClass, String.append_assoc, Function.comp_def]

/-- Each parameter adds one placeholder to the text: what the text holds of the placeholder's
character besides is what it holds with empty placeholders. -/
theorem count_compile : ∀ e : Expression,
    (e.compile "?").1.toList.count '?' = (e.compile "").1.toList.count '?' + (e.compile "?").2.length
  | ⟨[]⟩ => rfl
  | ⟨.text s :: fs⟩ => by
    simp only [compile_text_cons, String.toList_append, List.count_append, count_compile ⟨fs⟩]
    omega
  | ⟨.param x :: fs⟩ => by
    simp [count_compile ⟨fs⟩]
    omega

theorem intercalate_mark_free {sep : String} {parts : List String} (between : '?' ∉ sep.toList)
    (each : ∀ s ∈ parts, '?' ∉ s.toList) : '?' ∉ (sep.intercalate parts).toList := by
  rw [String.toList_intercalate]
  intro mem
  rcases mem_intercalate mem with inSep | ⟨part, inParts, inPart⟩
  · exact between inSep
  · obtain ⟨s, mem, rfl⟩ := List.mem_map.mp inParts
    exact each s mem inPart

theorem fieldText_mark_free {path : Value} (ok : pathOk path = true) : '?' ∉ (fieldText path).toList := by
  cases path
  case str p =>
    have free := not_mem_of_validPath (c := '?') ok (by decide) (by decide)
    show '?' ∉ ("json_extract(document, '$." ++ p ++ "')").toList
    simp only [String.toList_append, List.mem_append, free, not_or]
    decide
  all_goals cases ok

theorem opText_mark_free (op : CmpOp) : '?' ∉ (opText op).toList := by
  cases op <;> decide

theorem resumeText_mark_free {paths : List Value} (ok : ∀ p ∈ paths, pathOk p = true) :
    '?' ∉ (resumeText "" paths).toList := by
  induction paths with
  | nil => decide
  | cons p ps ih =>
    have first := fieldText_mark_free (ok p (by simp))
    cases ps with
    | nil => simp [resumeText, first]
    | cons p' ps =>
      have rest := ih fun p mem => ok p (List.mem_cons_of_mem _ mem)
      simp [resumeText, first, rest]

theorem text_mark_free {q : Query} (predicatesOk : ∀ p ∈ q.predicates, pathOk p.path = true)
    (orderOk : ∀ path ∈ q.orderBy, pathOk path = true) : '?' ∉ ((Shape.of q).text "").toList := by
  have comparisons : ∀ p ∈ q.predicates, '?' ∉ (comparisonText "" p.path p.op).toList := by
    intro p mem
    simp [comparisonText, fieldText_mark_free (predicatesOk p mem), opText_mark_free]
  have conditions : '?' ∉ ((Shape.of q).whereText "").toList := by
    unfold Shape.whereText Shape.of
    refine intercalate_mark_free (by decide) fun s mem => ?_
    simp only [List.mem_cons, List.mem_append, List.mem_map] at mem
    rcases mem with (rfl | ⟨⟨path, op⟩, ⟨p, inPreds, same⟩, rfl⟩) | resume
    · decide
    · cases same
      exact comparisons p inPreds
    · split at resume
      · obtain rfl := List.mem_singleton.mp resume
        exact resumeText_mark_free orderOk
      · cases resume
  have order : '?' ∉ (", ".intercalate (q.orderBy.map fieldText)).toList := by
    refine intercalate_mark_free (by decide) fun s mem => ?_
    obtain ⟨path, inOrder, rfl⟩ := List.mem_map.mp mem
    exact fieldText_mark_free (orderOk path inOrder)
  unfold Shape.text
  simp only [String.toList_append, List.mem_append, not_or]
  refine ⟨⟨⟨⟨by decide, conditions⟩, ?_⟩, ?_⟩, by decide⟩
  · split
    · decide
    · simp only [String.toList_append, List.mem_append, not_or]
      exact ⟨by decide, order⟩
  · split <;> decide

/-- A statement that was built compiles, with every placeholder, to its shape's text and to the
collection, the encoded values and the limit. -/
theorem compile_of_run_ok {q : Query} (staged : q.Staged) {r r' : Registry} {e : Expression}
    (ran : (selectStatement q).run r = .ok e r') :
    Readable q ∧ ∃ xs r₁ ys, ((q.predicates.map (·.value)).mapM encodedParam).run r = .ok xs r₁ ∧
      ((q.startAfter.getD []).mapM encodedParam).run r₁ = .ok ys r' ∧
      ∀ ph, e.compile ph = ((Shape.of q).text ph, .str q.collection :: xs.map Param.value ++
        resumeOrder (ys.map Param.value) ++ q.limit.toList) := by
  obtain ⟨readable, xs, r₁, ys, predicateRun, resumeRun, rfl⟩ :=
    (selectStatement_run_ok_iff staged).mp ran
  refine ⟨readable, xs, r₁, ys, predicateRun, resumeRun, fun ph => ?_⟩
  exact compile_statementOf ph (by simpa using mapM_run_length predicateRun)
    (mapM_run_length resumeRun) staged.resume

end Sql

end Storefront
