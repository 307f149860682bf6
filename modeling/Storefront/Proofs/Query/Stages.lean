import Storefront.Query

/-!
# The stage order of query clauses

A query's clauses are added by four methods, each of a stage with a rank: an equality filter 0,
any other comparison 1, ordering 2, resuming 3, the limit 4. A method checks its own arguments
first (a known operator, one resume value per order-by path, a limit of at least one) and then
refuses a clause whose rank is below that of the last clause applied. A refused call leaves the
query as it was.

Over every sequence of calls from a new query, the predicates are equalities followed by ranges,
the resume values match the order-by paths one for one, and a limit is at least one. A call
whose arguments pass is refused for its stage exactly when its rank is below the highest rank
applied so far, so the sequences in which every call goes through are those whose ranks never
fall.
-/

namespace Storefront

theorem CmpOp.ofSymbol?_eq_iff {s : String} {o : CmpOp} : CmpOp.ofSymbol? s = some o ↔ o.symbol = s := by
  constructor
  · intro found
    simpa using List.find?_some found
  · rintro rfl
    cases o <;> decide

namespace Query

/-- A call of one of a query's clause methods with its arguments; a limit is an integer, as the
method declares it. -/
inductive Call where
  | filter (path op value : Value)
  | orderedBy (paths : List Value)
  | after (values : List Value)
  | limited (n : Int)

namespace Call

/-- The stage of a call; a filter's is read from its operator symbol. -/
def clause : Call → Clause
  | filter _ (.str "==") _ => .equality
  | filter .. => .range
  | orderedBy _ => .orderBy
  | after _ => .startAfter
  | limited _ => .limit

def rank (call : Call) : Nat := call.clause.rank

end Call

/-- A call applied to a query. -/
def apply (q : Query) : Call → Except Failure Query
  | .filter path op value => q.filter path op value
  | .orderedBy paths => q.orderedBy paths
  | .after values => q.after values
  | .limited n => q.limited (.int n)

/-- A call's own checks of its arguments pass on a query. -/
def ArgsPass (q : Query) : Call → Prop
  | .filter path op value => ∃ p, Predicate.make path op value = .ok p
  | .orderedBy _ => True
  | .after values => values.length = q.orderBy.length
  | .limited n => 1 ≤ n

/-- The query after a call: a refused call leaves it as it was. -/
def step (q : Query) (call : Call) : Query :=
  match q.apply call with
  | .ok q' => q'
  | .error _ => q

def run (q : Query) (calls : List Call) : Query := calls.foldl step q

theorem run_cons (q : Query) (call : Call) (calls : List Call) :
    q.run (call :: calls) = (q.step call).run calls := rfl

/-- The calls that go through, in turn. -/
def accepted : Query → List Call → List Call
  | _, [] => []
  | q, call :: calls =>
    match q.apply call with
    | .ok q' => call :: q'.accepted calls
    | .error _ => q.accepted calls

/-- Every call's own argument checks pass on the query the calls before it leave. -/
def Checked : Query → List Call → Prop
  | _, [] => True
  | q, call :: calls => q.ArgsPass call ∧ (q.step call).Checked calls

/-- The highest rank among some calls, zero for none. -/
def highestRank (calls : List Call) : Nat := calls.foldl (fun m call => max m call.rank) 0

/-! ## One call -/

theorem advance_eq (q : Query) (c : Clause) (next : Query) :
    q.advance c next = if c.rank < q.stage then .error outOfOrder else .ok { next with stage := c.rank } :=
  rfl

theorem advance_ok {q next q' : Query} {c : Clause} (ok : q.advance c next = .ok q') :
    q.stage ≤ c.rank ∧ q' = { next with stage := c.rank } := by
  rw [advance_eq] at ok
  split at ok
  · cases ok
  · exact ⟨by omega, (Except.ok.inj ok).symm⟩

/-- A predicate is made only from an operator symbol, and it is an equality exactly when the
symbol is `==`. -/
theorem make_ok {path op value : Value} {p : Predicate} (made : Predicate.make path op value = .ok p) :
    ∃ s, op = .str s ∧ p = ⟨path, p.op, value⟩ ∧ p.op.symbol = s := by
  unfold Predicate.make at made
  split at made
  · rename_i s
    cases named : CmpOp.ofSymbol? s with
    | none => simp [named] at made
    | some o =>
      simp only [named] at made
      cases made
      exact ⟨s, rfl, rfl, CmpOp.ofSymbol?_eq_iff.1 named⟩
  · split at made <;> cases made

theorem filter_clause {path op value : Value} {p : Predicate}
    (made : Predicate.make path op value = .ok p) :
    (if p.op == .eq then Clause.equality else .range) = (Call.filter path op value).clause := by
  obtain ⟨s, rfl, -, symbol⟩ := make_ok made
  cases same : p.op <;> rw [same] at symbol <;> subst symbol <;> rfl

/-- What a filter that goes through does: it adds its predicate at its own stage. -/
theorem filter_ok {q q' : Query} {path op value : Value} (ok : q.filter path op value = .ok q') :
    ∃ p, Predicate.make path op value = .ok p ∧ q.stage ≤ (Call.filter path op value).rank ∧
      q' = { q with predicates := q.predicates ++ [p], stage := (Call.filter path op value).rank } := by
  unfold filter at ok
  cases made : Predicate.make path op value with
  | error e => rw [made] at ok; cases ok
  | ok p =>
    rw [made] at ok
    obtain ⟨early, rfl⟩ := advance_ok ok
    rw [filter_clause made] at early ⊢
    exact ⟨p, rfl, early, rfl⟩

theorem orderedBy_ok {q q' : Query} {paths : List Value} (ok : q.orderedBy paths = .ok q') :
    q.stage ≤ Clause.orderBy.rank ∧ q' = { q with orderBy := q.orderBy ++ paths, stage := Clause.orderBy.rank } :=
  advance_ok ok

theorem after_ok {q q' : Query} {values : List Value} (ok : q.after values = .ok q') :
    values.length = q.orderBy.length ∧ q.stage ≤ Clause.startAfter.rank ∧
      q' = { q with startAfter := some values, stage := Clause.startAfter.rank } := by
  unfold after at ok
  split at ok
  · cases ok
  · rename_i same
    exact ⟨by simpa using same, advance_ok ok⟩

theorem limited_ok {q q' : Query} {n : Int} (ok : q.limited (.int n) = .ok q') :
    1 ≤ n ∧ q.stage ≤ Clause.limit.rank ∧ q' = { q with limit := some (.int n), stage := Clause.limit.rank } := by
  unfold limited at ok
  split at ok
  · cases ok
  · rename_i above
    have : ¬ n < 1 := by
      simpa [Value.test, Value.num?, Num.holds, Num.order?, CmpOp.holds, Int.compare_eq_lt] using above
    exact ⟨by omega, advance_ok ok⟩
  · cases ok

/-- A call that goes through moves the query to the call's stage, which is no lower than the
stage it was at. -/
theorem apply_ok_stage {q q' : Query} {call : Call} (ok : q.apply call = .ok q') :
    q.stage ≤ call.rank ∧ q'.stage = call.rank := by
  cases call with
  | filter path op value =>
    obtain ⟨p, -, early, rfl⟩ := filter_ok ok
    exact ⟨early, rfl⟩
  | orderedBy paths =>
    obtain ⟨early, rfl⟩ := orderedBy_ok ok
    exact ⟨early, rfl⟩
  | after values =>
    obtain ⟨-, early, rfl⟩ := after_ok ok
    exact ⟨early, rfl⟩
  | limited n =>
    obtain ⟨-, early, rfl⟩ := limited_ok ok
    exact ⟨early, rfl⟩

/-- A call whose arguments pass comes down to the stage check. -/
theorem apply_of_argsPass {q : Query} {call : Call} (pass : q.ArgsPass call) :
    ∃ next, q.apply call = q.advance call.clause next := by
  cases call with
  | filter path op value =>
    obtain ⟨p, made⟩ := pass
    refine ⟨{ q with predicates := q.predicates ++ [p] }, ?_⟩
    simp only [apply, filter, made, ← filter_clause made]
    rfl
  | orderedBy paths => exact ⟨_, rfl⟩
  | after values =>
    refine ⟨{ q with startAfter := some values }, ?_⟩
    simp only [ArgsPass] at pass
    simp [apply, after, pass, Call.clause]
  | limited n =>
    refine ⟨{ q with limit := some (.int n) }, ?_⟩
    have notBelow : (compare n 1 == Ordering.lt) = false := by
      simp only [ArgsPass] at pass
      simp [Int.compare_eq_lt]
      omega
    simp [apply, limited, Value.test, Value.num?, Num.holds, Num.order?, CmpOp.holds, notBelow,
      Call.clause]

/-- A call whose arguments pass is refused for its stage exactly when its rank is below the
query's stage, and goes through otherwise. -/
theorem apply_of_argsPass_iff {q : Query} {call : Call} (pass : q.ArgsPass call) :
    (q.apply call = .error outOfOrder ↔ call.rank < q.stage) ∧
      ((∃ q', q.apply call = .ok q') ↔ q.stage ≤ call.rank) := by
  obtain ⟨next, applied⟩ := apply_of_argsPass pass
  rw [applied, advance_eq]
  by_cases late : call.clause.rank < q.stage
  · simp [late, Call.rank]
  · simp [late, Call.rank]
    omega

/-! ## Runs of calls -/

/-- What every query reached by calls from a new one satisfies: equalities before ranges, one
resume value per order-by path, a limit of at least one, and a stage no lower than that of the
ranges and the resume position present. -/
structure Staged (q : Query) : Prop where
  ordered : ∃ eqs ranges, q.predicates = eqs ++ ranges ∧ (∀ p ∈ eqs, p.op = .eq) ∧
    ∀ p ∈ ranges, p.op ≠ .eq
  resume : ∀ vs, q.startAfter = some vs → vs.length = q.orderBy.length
  limit : ∀ n, q.limit = some n → ∃ k, n = .int k ∧ 1 ≤ k
  rangeStage : ∀ p ∈ q.predicates, p.op ≠ .eq → 1 ≤ q.stage
  resumeStage : q.startAfter.isSome → 3 ≤ q.stage

theorem staged_new (collection : String) : Staged { collection } where
  ordered := ⟨[], [], rfl, by simp, by simp⟩
  resume := by simp
  limit := by simp
  rangeStage := by simp
  resumeStage := by simp

/-- Adding a predicate at its own stage keeps the equalities before the ranges. -/
theorem Staged.filter {q : Query} (staged : q.Staged) {path op value : Value} {p : Predicate}
    (made : Predicate.make path op value = .ok p) (early : q.stage ≤ (Call.filter path op value).rank) :
    Staged { q with predicates := q.predicates ++ [p], stage := (Call.filter path op value).rank } := by
  obtain ⟨eqs, ranges, split, equalities, others⟩ := staged.ordered
  have clause := filter_clause made
  refine ⟨?_, staged.resume, staged.limit, ?_, ?_⟩
  · by_cases equality : p.op = .eq
    · -- an equality at stage 0: no range was added before it
      have rank : (Call.filter path op value).rank = 0 := by
        simp [Call.rank, ← clause, equality, Clause.rank]
      have noRanges : ranges = [] := by
        cases ranges with
        | nil => rfl
        | cons r rs =>
          have := staged.rangeStage r (by simp [split]) (others r (by simp))
          omega
      refine ⟨eqs ++ [p], [], by simp [split, noRanges], fun r mem => ?_, by simp⟩
      rcases List.mem_append.mp mem with old | added
      · exact equalities r old
      · rw [List.mem_singleton.mp added]
        exact equality
    · refine ⟨eqs, ranges ++ [p], by simp [split], equalities, fun r mem => ?_⟩
      rcases List.mem_append.mp mem with old | added
      · exact others r old
      · rw [List.mem_singleton.mp added]
        exact equality
  · intro r mem range
    show 1 ≤ (Call.filter path op value).rank
    rcases List.mem_append.mp mem with old | added
    · have := staged.rangeStage r old range
      omega
    · rw [List.mem_singleton.mp added] at range
      simp [Call.rank, ← clause, range, Clause.rank]
  · intro resumed
    have := staged.resumeStage resumed
    show 3 ≤ (Call.filter path op value).rank
    omega

/-- One call keeps what every reached query satisfies. -/
theorem Staged.step {q : Query} (staged : q.Staged) (call : Call) : (q.step call).Staged := by
  unfold Query.step
  cases ok : q.apply call with
  | error e => exact staged
  | ok q' =>
    cases call with
    | filter path op value =>
      obtain ⟨p, made, early, rfl⟩ := filter_ok ok
      exact staged.filter made early
    | orderedBy paths =>
      obtain ⟨early, rfl⟩ := orderedBy_ok ok
      -- no resume position yet, since that is of a later stage
      have notResumed : q.startAfter = none := by
        cases resumed : q.startAfter with
        | none => rfl
        | some vs =>
          have := staged.resumeStage (by simp [resumed])
          simp [Clause.rank] at early
          omega
      exact ⟨staged.ordered, by simp [notResumed], staged.limit, fun _ _ _ => by simp [Clause.rank],
        by simp [notResumed]⟩
    | after values =>
      obtain ⟨same, early, rfl⟩ := after_ok ok
      exact ⟨staged.ordered, by simp [same], staged.limit, fun _ _ _ => by simp [Clause.rank],
        by simp [Clause.rank]⟩
    | limited n =>
      obtain ⟨positive, early, rfl⟩ := limited_ok ok
      exact ⟨staged.ordered, staged.resume, by simp [positive], fun _ _ _ => by simp [Clause.rank],
        fun _ => by simp [Clause.rank]⟩

theorem Staged.run {q : Query} (staged : q.Staged) (calls : List Call) : (q.run calls).Staged := by
  induction calls generalizing q with
  | nil => exact staged
  | cons call calls ih => exact ih (staged.step call)

/-- The stage after a run is the highest of the stage before it and the ranks of the calls
that went through. -/
theorem stage_run (q : Query) (calls : List Call) :
    (q.run calls).stage = (q.accepted calls).foldl (fun m call => max m call.rank) q.stage := by
  induction calls generalizing q with
  | nil => rfl
  | cons call calls ih =>
    rw [run_cons]
    unfold accepted step
    cases ok : q.apply call with
    | error e => exact ih q
    | ok q' =>
      obtain ⟨early, moved⟩ := apply_ok_stage ok
      dsimp only
      rw [ih q', List.foldl_cons, moved, Nat.max_eq_right early]

theorem accepted_length_le (q : Query) (calls : List Call) :
    (q.accepted calls).length ≤ calls.length := by
  induction calls generalizing q with
  | nil => simp [accepted]
  | cons call calls ih =>
    unfold accepted
    cases q.apply call with
    | error e => exact Nat.le_succ_of_le (ih q)
    | ok q' => exact Nat.succ_le_succ (ih q')

/-- Calls whose arguments pass all go through exactly when their ranks never fall, starting no
lower than the query's stage. -/
theorem accepted_eq_iff {q : Query} {calls : List Call} (checked : q.Checked calls) :
    q.accepted calls = calls ↔
      (calls.map Call.rank).Pairwise (· ≤ ·) ∧ ∀ call ∈ calls, q.stage ≤ call.rank := by
  induction calls generalizing q with
  | nil => simp [accepted]
  | cons call calls ih =>
    obtain ⟨pass, rest⟩ := checked
    have decided := apply_of_argsPass_iff pass
    unfold accepted
    by_cases late : call.rank < q.stage
    · -- the call is refused, so fewer calls go through than were made
      rw [decided.1.mpr late]
      have shorter := accepted_length_le q calls
      constructor
      · intro same
        have := congrArg List.length same
        simp at this
        omega
      · rintro ⟨-, all⟩
        have := all call (by simp)
        omega
    · obtain ⟨q', ok⟩ := decided.2.mpr (by omega)
      obtain ⟨-, moved⟩ := apply_ok_stage ok
      have stepped : q.step call = q' := by simp [step, ok]
      rw [stepped] at rest
      rw [ok, List.cons.injEq, ih rest, moved]
      simp only [true_and, List.map_cons, List.pairwise_cons, List.mem_map, forall_exists_index,
        and_imp, forall_apply_eq_imp_iff₂, List.mem_cons, forall_eq_or_imp]
      constructor
      · rintro ⟨sorted, later⟩
        exact ⟨⟨later, sorted⟩, by omega, fun c mem => by have := later c mem; omega⟩
      · rintro ⟨⟨later, sorted⟩, -, -⟩
        exact ⟨sorted, later⟩

/-- Over every sequence of calls from a new query on a collection, where a refused call leaves
the query as it was: the predicates are equalities followed by ranges, each with a known
operator; resume values, when present, match the order-by paths one for one; a limit, when
present, is at least one; a further call whose own argument checks pass is refused for its
stage exactly when its rank is below the highest rank applied so far, and goes through
otherwise; and of sequences whose calls' own checks pass, every call goes through exactly when
the ranks never fall. -/
theorem stage_order_invariant (collection : String) (calls : List Call) :
    (∃ eqs ranges, (({ collection } : Query).run calls).predicates = eqs ++ ranges ∧
      (∀ p ∈ eqs, p.op = .eq) ∧ ∀ p ∈ ranges, p.op ≠ .eq) ∧
    (∀ p ∈ (({ collection } : Query).run calls).predicates,
      p.op.symbol ∈ ["==", "<", "<=", ">", ">="]) ∧
    (∀ vs, (({ collection } : Query).run calls).startAfter = some vs →
      vs.length = (({ collection } : Query).run calls).orderBy.length) ∧
    (∀ n, (({ collection } : Query).run calls).limit = some n → ∃ k, n = .int k ∧ 1 ≤ k) ∧
    (∀ call, (({ collection } : Query).run calls).ArgsPass call →
      ((({ collection } : Query).run calls).apply call = .error outOfOrder ↔
        call.rank < highestRank (({ collection } : Query).accepted calls)) ∧
      ((∃ q', (({ collection } : Query).run calls).apply call = .ok q') ↔
        highestRank (({ collection } : Query).accepted calls) ≤ call.rank)) ∧
    (({ collection } : Query).Checked calls →
      (({ collection } : Query).accepted calls = calls ↔
        (calls.map Call.rank).Pairwise (· ≤ ·))) := by
  have staged := (staged_new collection).run calls
  have stage : (({ collection } : Query).run calls).stage =
      highestRank (({ collection } : Query).accepted calls) := stage_run _ calls
  refine ⟨staged.ordered, fun p _ => by cases p.op <;> simp [CmpOp.symbol], staged.resume,
    staged.limit, fun call pass => ?_, fun checked => ?_⟩
  · rw [← stage]
    exact apply_of_argsPass_iff pass
  · rw [accepted_eq_iff checked]
    simp

end Query

end Storefront
