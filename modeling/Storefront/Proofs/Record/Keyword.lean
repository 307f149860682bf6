import Storefront.Proofs.Service.Writes

/-!
# The keyword-only constructor of record classes

`keywordInit` is the constructor `datacls` gives a class, for any declared fields and any
`__post_init__` hook. Its checks come in a fixed order: the first argument name that is not a
declared field is refused, whatever else is wrong; then the required fields that no argument
names are listed, in declaration order, one or several in the message's two forms; and only
then is every field set, from its argument, its default or none, and the hook run once on the
result. The service's record classes are built by it with their own fields and hooks.
-/

namespace Storefront

variable {fs : List Field} {post : List (String × Value) → Except Failure (List (String × Value))}
  {args : List (String × Value)}

theorem find?_unknown_eq_none (declared : ∀ a ∈ args, a.1 ∈ fs.map Field.name) :
    args.find? (fun a => !(fs.any (·.name == a.1))) = none := by
  rw [List.find?_eq_none]
  intro a mem
  obtain ⟨f, listed, named⟩ := List.mem_map.mp (declared a mem)
  simpa using ⟨f, listed, named⟩

/-- The first argument whose name is not declared is the one found. -/
theorem find?_unknown_first {pre rest : List (String × Value)} {n : String} {v : Value}
    (declared : ∀ a ∈ pre, a.1 ∈ fs.map Field.name) (unknown : n ∉ fs.map Field.name) :
    (pre ++ (n, v) :: rest).find? (fun a => !(fs.any (·.name == a.1))) = some (n, v) := by
  have stray : (!(fs.any (·.name == n))) = true := by
    simp only [Bool.not_eq_eq_eq_not, Bool.not_true, List.any_eq_false, beq_iff_eq]
    intro f listed named
    exact unknown (List.mem_map.mpr ⟨f, listed, named⟩)
  rw [List.find?_append, find?_unknown_eq_none declared, Option.none_or, List.find?_cons, stray]

theorem any_key_iff (k : String) : args.any (·.1 == k) = true ↔ k ∈ args.map Prod.fst := by
  simp only [List.any_eq_true, beq_iff_eq, List.mem_map]

theorem any_self_eq_false (unnamed : "self" ∉ args.map Prod.fst) :
    args.any (·.1 == "self") = false :=
  Bool.eq_false_iff.mpr fun clash => unnamed ((any_key_iff "self").mp clash)

/-- The required fields that no argument names, in declaration order. -/
theorem missing_eq (fs : List Field) (args : List (String × Value)) :
    (fs.filter fun f => f.required && !(args.any (·.1 == f.name))).map (·.name) =
      (fs.filter fun f => f.required ∧ f.name ∉ args.map Prod.fst).map Field.name := by
  congr 1
  apply List.filter_congr
  intro f _
  have same : args.any (·.1 == f.name) = decide (f.name ∈ args.map Prod.fst) :=
    Bool.eq_iff_iff.mpr (by simp)
  rw [same]
  by_cases required : f.required <;> simp [required]

/-- A keyword named self clashes with the instance parameter, whatever the fields are. -/
theorem keywordInit_self (clash : "self" ∈ args.map Prod.fst) :
    keywordInit fs post args = .error (.runtime .typeError) := by
  rw [keywordInit, if_pos ((any_key_iff "self").mpr clash)]
  rfl

theorem keywordInit_unknown {pre rest : List (String × Value)} {n : String} {v : Value}
    (unnamed : "self" ∉ (pre ++ (n, v) :: rest).map Prod.fst)
    (declared : ∀ a ∈ pre, a.1 ∈ fs.map Field.name) (unknown : n ∉ fs.map Field.name) :
    keywordInit fs post (pre ++ (n, v) :: rest) =
      .error (Failure.typeError ("__init__() got an unexpected keyword argument '" ++ n ++ "'")) := by
  rw [keywordInit, any_self_eq_false unnamed, find?_unknown_first declared unknown]
  rfl

theorem keywordInit_missing (unnamed : "self" ∉ args.map Prod.fst)
    (declared : ∀ a ∈ args, a.1 ∈ fs.map Field.name)
    (missing : (fs.filter fun f => f.required ∧ f.name ∉ args.map Prod.fst).map Field.name ≠ []) :
    keywordInit fs post args = .error (Failure.typeError (RecordClass.missingMessage
      ((fs.filter fun f => f.required ∧ f.name ∉ args.map Prod.fst).map Field.name))) := by
  have listed : ((fs.filter fun f => f.required ∧ f.name ∉ args.map Prod.fst).map
      Field.name).isEmpty = false := List.isEmpty_eq_false_iff.mpr missing
  rw [keywordInit, any_self_eq_false unnamed, find?_unknown_eq_none declared, missing_eq]
  simp only [listed, Bool.not_false, if_true]
  rfl

theorem keywordInit_given (unnamed : "self" ∉ args.map Prod.fst)
    (declared : ∀ a ∈ args, a.1 ∈ fs.map Field.name)
    (complete : (fs.filter fun f => f.required ∧ f.name ∉ args.map Prod.fst).map Field.name = []) :
    keywordInit fs post args =
      post (fs.map fun f => (f.name, (Value.lookup args f.name).getD (f.default.getD .none))) := by
  rw [keywordInit, any_self_eq_false unnamed, find?_unknown_eq_none declared, missing_eq, complete]
  rfl

/-! ## The message listing missing fields -/

namespace RecordClass

theorem nameList_snoc (ms : List String) (l : String) (several : ms ≠ []) :
    nameList (ms ++ [l]) =
      ", ".intercalate (ms.map fun m => "'" ++ m ++ "'") ++ " and " ++ ("'" ++ l ++ "'") := by
  -- reversed, the quoted names start with the last one and go on with at least one more
  obtain ⟨q, qs, reversed⟩ : ∃ q qs, (ms.map fun m => "'" ++ m ++ "'").reverse = q :: qs := by
    cases h : (ms.map fun m => "'" ++ m ++ "'").reverse with
    | nil => simp_all
    | cons q qs => exact ⟨q, qs, rfl⟩
  have back : qs.reverse ++ [q] = ms.map fun m => "'" ++ m ++ "'" := by
    rw [← List.reverse_cons, ← reversed, List.reverse_reverse]
  simp only [nameList, List.map_append, List.map_cons, List.map_nil, List.reverse_append,
    List.reverse_cons, List.reverse_nil, List.nil_append, List.cons_append, reversed]
  rw [back]

theorem missingMessage_one (n : String) :
    missingMessage [n] = "__init__() missing 1 required keyword-only argument: '" ++ n ++ "'" := rfl

theorem missingMessage_several (ms : List String) (l : String) (several : ms ≠ []) :
    missingMessage (ms ++ [l]) = "__init__() missing " ++ toString (ms.length + 1) ++
      " required keyword-only arguments: " ++ ", ".intercalate (ms.map fun m => "'" ++ m ++ "'") ++
      " and '" ++ l ++ "'" := by
  obtain ⟨m, ms', rfl⟩ := List.exists_cons_of_ne_nil several
  unfold missingMessage
  split
  · rename_i n one
    -- two names or more are never one
    simp at one
  · have quoted : " and " ++ "'" = " and '" := rfl
    rw [nameList_snoc (m :: ms') l several, List.length_append, List.length_singleton]
    simp only [String.append_assoc, ← quoted]

/-- The record classes are built by the keyword constructor with their fields and hooks. -/
theorem make_keywordOnly {c : RecordClass} (keyword : c.keywordOnly = true)
    (args : List (String × Value)) :
    c.make args = (keywordInit c.fields c.postInit args).map (.record c) := by
  rw [make, if_pos keyword]
  cases keywordInit c.fields c.postInit args <;> rfl

end RecordClass

/-- The keyword-only constructor of a class with declared fields `fs` and hook `post`: a
keyword named self is refused by the runtime before anything else; otherwise the first argument
name that is not a declared field is refused, whatever else is wrong; with all names declared,
the missing required fields are refused, listed in declaration order in one of two forms;
otherwise every field takes its argument, else its default, else none, and the hook runs once on
the result. -/
theorem keyword_constructor_spec (fs : List Field)
    (post : List (String × Value) → Except Failure (List (String × Value)))
    (args : List (String × Value)) :
    ("self" ∈ args.map Prod.fst → keywordInit fs post args = .error (.runtime .typeError)) ∧
    ("self" ∉ args.map Prod.fst →
      (∀ pre n v rest, args = pre ++ (n, v) :: rest → (∀ a ∈ pre, a.1 ∈ fs.map Field.name) →
        n ∉ fs.map Field.name →
        keywordInit fs post args =
          .error (Failure.typeError ("__init__() got an unexpected keyword argument '" ++ n ++ "'"))) ∧
      ((∀ a ∈ args, a.1 ∈ fs.map Field.name) →
        let missing := (fs.filter fun f => f.required ∧ f.name ∉ args.map Prod.fst).map Field.name
        (missing ≠ [] →
          keywordInit fs post args = .error (Failure.typeError (RecordClass.missingMessage missing))) ∧
        (missing = [] →
          keywordInit fs post args =
            post (fs.map fun f => (f.name, (Value.lookup args f.name).getD (f.default.getD .none)))))) ∧
    (∀ n, RecordClass.missingMessage [n] =
      "__init__() missing 1 required keyword-only argument: '" ++ n ++ "'") ∧
    ∀ ms l, ms ≠ [] → RecordClass.missingMessage (ms ++ [l]) =
      "__init__() missing " ++ toString (ms.length + 1) ++ " required keyword-only arguments: " ++
        ", ".intercalate (ms.map fun m => "'" ++ m ++ "'") ++ " and '" ++ l ++ "'" := by
  refine ⟨keywordInit_self, fun unnamed => ⟨?_, fun declared =>
    ⟨keywordInit_missing unnamed declared, keywordInit_given unnamed declared⟩⟩,
    RecordClass.missingMessage_one, fun ms l several => ?_⟩
  · rintro pre n v rest rfl declared unknown
    exact keywordInit_unknown unnamed declared unknown
  · exact RecordClass.missingMessage_several ms l several

/-- A task built with no arguments lacks its four required fields, named in declaration order. -/
theorem task_without_arguments_lists_required :
    "self" ∉ ([] : List (String × Value)).map Prod.fst ∧
      (∀ a ∈ ([] : List (String × Value)), a.1 ∈ RecordClass.task.fields.map Field.name) ∧
      RecordClass.task.make [] = .error (Failure.typeError
        "__init__() missing 4 required keyword-only arguments: 'id', 'submission_time', 'order_id' and 'task_code'") := by
  have missing : (RecordClass.task.fields.filter fun f => f.required ∧ f.name ∉ ([] : List (String × Value)).map Prod.fst).map Field.name =
      ["id", "submission_time", "order_id", "task_code"] := by
    simp [RecordClass.fields, RecordClass.req, RecordClass.optStr, Field.required, Hint.optional,
      Hint.optionalBase, Hint.optionalOf, Hint.unionOf, Hint.dedup, Hint.members, Hint.asMember,
      Hint.key, Hint.anyOptional, Kind.name, RecordClass.name]
  refine ⟨by simp, by simp, ?_⟩
  rw [RecordClass.make_keywordOnly rfl,
    (((keyword_constructor_spec RecordClass.task.fields RecordClass.task.postInit []).2.1
      (by simp)).2 (by simp)).1 (by rw [missing]; simp), missing]
  rfl

/-- A keyword named self is refused by the runtime, with no text of the constructor's own, even
after an unknown name that the constructor would have reported. -/
theorem self_keyword_hides_unknown_name :
    RecordClass.person.make [("zzz", .int 1), ("self", .int 2)] = .error (.runtime .typeError) ∧
      RecordClass.person.make [("zzz", .int 1), ("self", .int 2)] ≠
        .error (Failure.typeError "__init__() got an unexpected keyword argument 'zzz'") := by
  have refused : RecordClass.person.make [("zzz", .int 1), ("self", .int 2)] =
      .error (.runtime .typeError) := by
    rw [RecordClass.make_keywordOnly rfl, keywordInit_self (by simp)]
    rfl
  refine ⟨refused, ?_⟩
  rw [refused]
  simp [Failure.typeError]

end Storefront
