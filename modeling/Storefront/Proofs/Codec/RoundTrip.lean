import Storefront.Proofs.Codec.Carried

/-!
# Storing a value under its declared type and reading it back

For a declared type of the grammar `Hint.Storable` and a value of that type (`Typed`, classes
taken exactly, so a boolean is no integer) that the codecs carry (`Value.Portable`), the text
the type's codec writes is read back by the type's codec, looked up again from the registry as
the writing left it, as the value with its timestamps in UTC, and that equals the value
(`stored_value_reads_back`).

What a value must be for this: its timestamps aware, with UTC readings on the calendar; its
integers short enough for JSON text; its texts without a lone high surrogate right before a lone
low one, which JSON text would read back as one character; its records passing their class's
check. A boolean under an integer type is refused when written (`bool_not_stored_as_int`).

The proof is an induction over the typing (`Typed.trip`), for any two codecs built for hints
with the type's key, since the registry may answer a lookup with a union's members in the order
of an earlier union of the same members. A union writes a value by the member codec of the key
of a member the value belongs to: the members before it refuse the value at once, by
`Hint.Paired.refuses`, and none is written and read by whichever member comes first, since
every member that takes none writes it as null and reads null as none.
-/

namespace Storefront

open Codec Hint

/-! ## Values the codecs carry -/

namespace Value

/-- The values the codecs carry there and back: timestamps aware, with their UTC readings on the
calendar; integers short enough for JSON text; texts with no lone high surrogate right before a
lone low one; lists of such values; and records of such values that pass their class's check. -/
inductive Portable : Value → Prop
  | none : Portable .none
  | bool (b : Bool) : Portable (.bool b)
  | int {i : Int} : (Nat.toDigits 10 i.natAbs).length ≤ Json.maxIntDigits → Portable (.int i)
  | str {s : String} : Text.PairsApart s.toList → Portable (.str s)
  | status (s : TaskStatus) : Portable (.status s)
  | time {t : DateTime} : t.offset.isSome = true → DateTime.inRange t.utcWall = true →
      Portable (.time t)
  | list {xs : List Value} : (∀ x ∈ xs, Portable x) → Portable (.list xs)
  | record {c : RecordClass} {fs : List (String × Value)} : c.postInit fs = .ok fs →
      (∀ p ∈ fs, Portable p.2) → Portable (.record c fs)

theorem mem_of_lookup {fs : List (String × Value)} {k : String} {x : Value}
    (found : lookup fs k = some x) : (k, x) ∈ fs := by
  obtain ⟨p, hit, rfl⟩ := Option.map_eq_some_iff.mp found
  have named := List.find?_some hit
  simp only [beq_iff_eq] at named
  have listed := List.mem_of_find?_eq_some hit
  rw [← named]
  exact listed

theorem lookup_toUtcFields (fs : List (String × Value)) (k : String) :
    lookup (toUtcFields fs) k = (lookup fs k).map toUtc := by
  induction fs with
  | nil => rfl
  | cons p fs ih => by_cases named : p.1 = k <;> simp_all

/-- Comparing with an integer does not see what `toUtc` changes. -/
theorem test_toUtc_left (op : CmpOp) (x : Value) (k : Int) :
    test op x.toUtc (.int k) = test op x (.int k) := by
  cases op
  case eq => cases x <;> simp [test, same, num?, toUtc]
  all_goals cases x <;> rfl

theorem test_toUtc_right (op : CmpOp) (x : Value) (k : Int) :
    test op (.int k) x.toUtc = test op (.int k) x := by
  cases op
  case eq => cases x <;> simp [test, same, num?, toUtc]
  all_goals cases x <;> rfl

theorem sameItems_map {f : Value → Value} : ∀ {xs : List Value}, (∀ x ∈ xs, (f x).same x = true) →
    sameItems (xs.map f) xs = true
  | [], _ => by simp [sameItems]
  | x :: xs, each => by
    simp only [List.map_cons, sameItems, each x List.mem_cons_self, Bool.or_true, Bool.true_and]
    exact sameItems_map fun y listed => each y (List.mem_cons_of_mem x listed)

theorem sameFields_map {f : Value → Value} :
    ∀ {fs : List (String × Value)}, (∀ p ∈ fs, (f p.2).same p.2 = true) →
      sameFields (fs.map fun p => (p.1, f p.2)) fs = true
  | [], _ => by simp [sameFields]
  | (n, x) :: fs, each => by
    simp only [List.map_cons, sameFields, each (n, x) List.mem_cons_self, Bool.or_true,
      Bool.true_and]
    exact sameFields_map fun q listed => each q (List.mem_cons_of_mem (n, x) listed)

/-- Fields of the same names that compare equal in order have equal values under each name. -/
theorem sameFields_lookup : ∀ {fs gs : List (String × Value)}, sameFields fs gs = true →
    fs.map Prod.fst = gs.map Prod.fst → ∀ (n : String) {x y : Value}, lookup fs n = some x →
      lookup gs n = some y → (bothNaN x y || same x y) = true
  | [], [], _, _, _, _, _, found, _ => by simp [lookup] at found
  | (m, a) :: fs, (m', b) :: gs, equal, names, n, x, y, found, found' => by
    simp only [List.map_cons, List.cons.injEq] at names
    obtain ⟨rfl, names⟩ := names
    simp only [sameFields, Bool.and_eq_true] at equal
    by_cases here : m = n
    · subst here
      simp only [lookup, List.find?_cons, beq_self_eq_true, Option.map_some, Option.some.injEq]
        at found found'
      subst found found'
      exact equal.1
    · have other : (m == n) = false := by simpa using here
      simp only [lookup, List.find?_cons, other] at found found'
      exact sameFields_lookup equal.2 names n found found'
  | [], _ :: _, _, names, _, _, _, _, _ | _ :: _, [], _, names, _, _, _, _, _ => by simp at names

/-- Records that compare equal, with fields of the same names, have equal values under each
name. -/
theorem same_record_lookup {c d : RecordClass} {fs gs : List (String × Value)}
    (equal : (Value.record c fs).same (.record d gs) = true) (names : fs.map Prod.fst = gs.map Prod.fst)
    (n : String) {x y : Value} (found : lookup fs n = some x) (found' : lookup gs n = some y) :
    (bothNaN x y || same x y) = true := by
  simp only [same, Bool.and_eq_true] at equal
  exact sameFields_lookup equal.2 names n found found'

/-- A record with a list under a name differs from one with a tuple under it. -/
theorem same_record_list_tuple {c d : RecordClass} {fs gs : List (String × Value)}
    (names : fs.map Prod.fst = gs.map Prod.fst) (n : String) {xs ys : List Value}
    (found : lookup fs n = some (.list xs)) (found' : lookup gs n = some (.tuple ys)) :
    (Value.record c fs).same (.record d gs) = false := by
  refine Bool.eq_false_iff.mpr fun equal => ?_
  have listed := same_record_lookup equal names n found found'
  simp [same, bothNaN, num?] at listed

/-- A value the codecs carry equals its reading in UTC: an aware timestamp is the same instant in
UTC. -/
theorem Portable.same_toUtc {v : Value} (portable : v.Portable) : v.toUtc.same v = true := by
  induction portable with
  | none => simp [toUtc, same]
  | bool b => simp [toUtc, same, num?, Num.holds, Num.order?, CmpOp.holds]
  | int _ => simp [toUtc, same, num?, Num.holds, Num.order?, CmpOp.holds]
  | str _ => simp [toUtc, same]
  | status s => simp [toUtc, same, num?, Num.holds, Num.order?, CmpOp.holds]
  | @time t aware _ =>
    obtain ⟨o, offset⟩ := Option.isSome_iff_exists.mp aware
    simp [toUtc, same, DateTime.same, offset, DateTime.utcWall]
  | list _ ih =>
    simp only [toUtc, toUtcItems_eq, same]
    exact sameItems_map ih
  | record _ _ ih =>
    simp only [toUtc, toUtcFields_eq, same, beq_self_eq_true, Bool.true_and]
    exact sameFields_map ih

/-- A value the codecs carry equals itself: it holds no NaN. -/
theorem Portable.same_self {v : Value} (portable : v.Portable) : v.same v = true := by
  induction portable with
  | none => simp [same]
  | bool b => simp [same, num?, Num.holds, Num.order?, CmpOp.holds]
  | int _ => simp [same, num?, Num.holds, Num.order?, CmpOp.holds]
  | str _ => simp [same]
  | status s => simp [same, num?, Num.holds, Num.order?, CmpOp.holds]
  | @time t aware _ =>
    obtain ⟨o, offset⟩ := Option.isSome_iff_exists.mp aware
    simp [same, DateTime.same, offset]
  | @list xs _ ih =>
    simpa [same] using sameItems_map (f := id) ih
  | @record c fs _ _ ih =>
    simpa [same] using sameFields_map (f := id) ih

end Value

/-! ## Hints that admit none -/

namespace Hint

/-- Every hint of a list either has its key among the hints seen, or keeps a hint of its key in
the list without repeats. -/
theorem mem_dedup_key : ∀ {hs seen : List Hint} {x : Hint}, x ∈ hs →
    (∃ y ∈ seen, y.key = x.key) ∨ ∃ y ∈ dedup hs seen, y.key = x.key
  | [], _, _, listed => by simp at listed
  | h :: hs, seen, x, listed => by
    rw [dedup]
    split
    · rename_i found
      rcases List.mem_cons.mp listed with rfl | later
      · obtain ⟨y, inside, same⟩ := List.any_eq_true.mp found
        exact .inl ⟨y, inside, by simpa using same⟩
      · exact mem_dedup_key later
    · rcases List.mem_cons.mp listed with rfl | later
      · exact .inr ⟨x, List.mem_cons_self, rfl⟩
      · rcases @mem_dedup_key hs (h :: seen) x later with ⟨y, inside, same⟩ | ⟨y, inside, same⟩
        · rcases List.mem_cons.mp inside with rfl | inside
          · exact .inr ⟨y, List.mem_cons_self, same⟩
          · exact .inl ⟨y, inside, same⟩
        · exact .inr ⟨y, List.mem_cons_of_mem h inside, same⟩

theorem anyOptional_of_mem {hs : List Hint} {h : Hint} (listed : h ∈ hs) (opt : h.optional = true) :
    anyOptional hs = true := by
  induction hs with
  | nil => cases listed
  | cons g hs ih =>
    rcases List.mem_cons.mp listed with rfl | later
    · simp [anyOptional, opt]
    · simp [anyOptional, ih later]

/-- An optional hint admits none: its union keeps a member with the key of the class of none,
and that member is the class of none. -/
theorem optional_optionalOf (h : Hint) : (optionalOf h).optional = true := by
  have listed : cls .noneType ∈ [h, noneLit].flatMap members := by simp [members, asMember]
  obtain ⟨y, kept, same⟩ : ∃ y ∈ dedup ([h, noneLit].flatMap members) [],
      y.key = (cls .noneType).key := by
    rcases @mem_dedup_key _ [] _ listed with ⟨y, inside, -⟩ | found
    · cases inside
    · exact found
  obtain rfl := key_eq_cls same.symm
  unfold optionalOf unionOf
  split
  · rename_i single
    rw [single, List.mem_singleton] at kept
    rw [← kept]
    simp [optional, optionalBase]
  · simp only [optional, optionalBase]
    exact anyOptional_of_mem kept (by simp [optional, optionalBase])

/-- The union of integers, texts and booleans keeps its three members. -/
theorem scalars_eq : unionOf [cls .int, cls .str, cls .bool] = union [cls .int, cls .str, cls .bool] :=
  rfl

end Hint

namespace Typed

@[simp] theorem none_cls_iff {k : Kind} : Typed (.cls k) .none ↔ k = .noneType :=
  ⟨fun typed => typed.kind_eq.symm, fun named => by
    subst named
    exact .plain (v := .none) fun _ _ => by simp⟩

@[simp] theorem union_iff {hs : List Hint} {v : Value} : Typed (.union hs) v ↔ ∃ h ∈ hs, Typed h v :=
  ⟨union_inv, fun ⟨_, listed, typed⟩ => .member listed typed⟩

end Typed

/-! ## Record classes -/

namespace RecordClass

theorem checkMoney_toUtc (fs : List (String × Value)) :
    checkMoney (Value.toUtcFields fs) = checkMoney fs := by
  have looked : ∀ k, ((Value.lookup (Value.toUtcFields fs) k).getD .none) =
      ((Value.lookup fs k).getD .none).toUtc := by
    intro k
    rw [Value.lookup_toUtcFields]
    cases Value.lookup fs k <;> rfl
  unfold checkMoney
  simp only [looked, Value.test_toUtc_left, Value.test_toUtc_right]

/-- A check that passes on a record's values passes on them in UTC. -/
theorem postInit_toUtc {c : RecordClass} {fs : List (String × Value)}
    (checked : c.postInit fs = .ok fs) :
    c.postInit (Value.toUtcFields fs) = .ok (Value.toUtcFields fs) := by
  unfold postInit at checked ⊢
  split
  · rename_i money
    rw [if_pos money] at checked
    rw [checkMoney_toUtc]
    cases passed : checkMoney fs with
    | error e => simp [passed, bind, Except.bind] at checked
    | ok u => rfl
  · rfl

/-- A field of a package class that none is of reads back as none when its member is absent: it
admits none and has no default, or none is its default. -/
theorem absent_reads_none (cls : RecordClass) :
    ∀ f ∈ cls.fields, Typed f.hint .none → f.absentReadsNone = true := by
  cases cls <;> simp [fields, optStr, req, Field.absentReadsNone, Hint.optional_optionalOf,
    Typed.none_cls_iff, Typed.union_iff, scalars_eq]

end RecordClass

/-! ## The trip, by the typing -/

namespace Hint.Carried

theorem cls_inv {k : Kind} (carried : Carried (Hint.cls k)) :
    k.coded = true ∨ ∃ c, k = .record c ∧ ∀ f ∈ c.fields, Carried f.hint := by
  cases carried with
  | cls coded => exact .inl coded
  | record fields => exact .inr ⟨_, rfl, fields⟩

theorem listOf_inv {h : Hint} (carried : Carried (Hint.listOf h)) : Carried h := by
  cases carried with
  | listOf item => exact item

theorem union_inv {hs : List Hint} (carried : Carried (Hint.union hs)) :
    (∀ m ∈ hs, Carried m) ∧ Paired hs := by
  cases carried with
  | union each paired => exact ⟨each, paired⟩

theorem annotated_inv {h : Hint} {n : Nat} (carried : Carried (Hint.annotated h n)) :
    Carried h := by
  cases carried with
  | annotated base _ => exact base

end Hint.Carried

namespace Codec

/-- A value of a class with a codec of its own makes the trip through the codecs of its class. -/
theorem trip_plain {v : Value} (notRecord : ∀ c fs, v ≠ .record c fs) (carried : Carried (cls v.kind))
    (portable : v.Portable) {c c' : Codec} (built : BuiltForKey (cls v.kind).key c)
    (built' : BuiltForKey (cls v.kind).key c') : Trip c c' v := by
  have made := built.of_cls
  have made' := built'.of_cls
  cases portable with
  | none =>
    obtain rfl : c = .none := by simpa [build, ofClass, Value.kind] using made.symm
    obtain rfl : c' = .none := by simpa [build, ofClass, Value.kind] using made'.symm
    exact trip_none rfl rfl
  | bool b =>
    obtain rfl : c = .bool := by simpa [build, ofClass, Value.kind] using made.symm
    obtain rfl : c' = .bool := by simpa [build, ofClass, Value.kind] using made'.symm
    exact trip_bool b
  | int short =>
    obtain rfl : c = .int := by simpa [build, ofClass, Value.kind] using made.symm
    obtain rfl : c' = .int := by simpa [build, ofClass, Value.kind] using made'.symm
    exact trip_int short
  | str apart =>
    obtain rfl : c = .str := by simpa [build, ofClass, Value.kind] using made.symm
    obtain rfl : c' = .str := by simpa [build, ofClass, Value.kind] using made'.symm
    exact trip_str apart
  | status s =>
    obtain rfl : c = .status := by simpa [build, ofClass, Value.kind] using made.symm
    obtain rfl : c' = .status := by simpa [build, ofClass, Value.kind] using made'.symm
    exact trip_status s
  | time _ onCalendar =>
    obtain rfl : c = .time := by simpa [build, ofClass, Value.kind] using made.symm
    obtain rfl : c' = .time := by simpa [build, ofClass, Value.kind] using made'.symm
    exact trip_time onCalendar
  | list _ =>
    -- a bare list has no codec of its class
    simp [build, ofClass, Value.kind] at made
  | record _ _ => exact absurd rfl (notRecord _ _)

/-- The fields of a record, named in declaration order, paired with the declared fields. -/
theorem forall₂_of_names {P : Field → Value → Prop} :
    ∀ {fields : List Field} {fs : List (String × Value)}, fs.map Prod.fst = fields.map Field.name →
      (fields.map Field.name).Nodup →
      (∀ f ∈ fields, ∀ x, Value.lookup fs f.name = some x → P f x) →
      List.Forall₂ (fun f p => p.1 = f.name ∧ P f p.2) fields fs
  | [], [], _, _, _ => .nil
  | [], _ :: _, names, _, _ => by simp at names
  | _ :: _, [], names, _, _ => by simp at names
  | f :: fields, (n, x) :: fs, names, nodup, each => by
    simp only [List.map_cons, List.cons.injEq] at names
    obtain ⟨rfl, rest⟩ := names
    have fresh : f.name ∉ fields.map Field.name := (List.nodup_cons.mp nodup).1
    refine .cons ⟨rfl, each f List.mem_cons_self x (by simp)⟩
      (forall₂_of_names rest (List.nodup_cons.mp nodup).2 fun g listed y found => ?_)
    -- a later field is named apart from the first
    have apart : f.name ≠ g.name := fun same => fresh (same ▸ List.mem_map_of_mem listed)
    exact each g (List.mem_cons_of_mem f listed) y (by simpa [apart] using found)

theorem isNone_eq_false_of_ne {x : Value} (given : x ≠ .none) : x.isNone = false := by
  cases x <;> first | rfl | exact absurd rfl given

/-- The fields of a record of a class, each paired with its declared field, make the trip or are
none and read back as none, when the fields are of their declared types and each field's value
other than none makes the trip. -/
theorem fieldTrips_of {cls : RecordClass} {fs : List (String × Value)}
    (names : fs.map Prod.fst = cls.fieldNames)
    (fields : ∀ f ∈ cls.fields, ∀ x, Value.lookup fs f.name = some x → Typed f.hint x)
    (trips : ∀ f ∈ cls.fields, ∀ x, Value.lookup fs f.name = some x → x ≠ .none →
      ∀ c c', BuiltForKey f.hint.key c → BuiltForKey f.hint.key c' → Trip c c' x) :
    List.Forall₂ (fun f p => p.1 = f.name ∧ FieldTrips f p.2) cls.fields fs :=
  forall₂_of_names names (fieldNames_nodup cls) fun f listed x found => by
    by_cases isNone : x = .none
    · subst isNone
      exact .inl ⟨rfl, RecordClass.absent_reads_none cls f listed (fields f listed _ found)⟩
    · exact .inr ⟨isNone_eq_false_of_ne isNone, trips f listed x found isNone⟩

end Codec

/-- Every two codecs of the key of a carried hint carry a value of its type there and back,
when the value is one the codecs carry. The induction follows the typing; a union member is
reached past the members before it, which refuse the value unless it is none. -/
theorem Typed.trip {h : Hint} {v : Value} (typed : Typed h v) :
    Carried h → v.Portable → ∀ c c', BuiltForKey h.key c → BuiltForKey h.key c' → Trip c c' v := by
  induction typed with
  | plain notRecord =>
    intro carried portable c c' built built'
    exact trip_plain notRecord carried portable built built'
  | @record cls fs names fields ih =>
    intro carried portable c c' built built'
    obtain rfl : c = .record cls := by simpa [build, ofClass] using built.of_cls.symm
    obtain rfl : c' = .record cls := by simpa [build, ofClass] using built'.of_cls.symm
    have fieldsCarried : ∀ f ∈ cls.fields, Carried f.hint := by
      rcases carried.cls_inv with coded | ⟨c, same, each⟩
      · simp [Kind.coded] at coded
      · cases same
        exact each
    cases portable with
    | record checked each =>
    have aligned := fieldTrips_of names fields fun f listed x found _ =>
      ih f listed x found (fieldsCarried f listed) (each (f.name, x) (Value.mem_of_lookup found))
    exact trip_record aligned (RecordClass.postInit_toUtc checked)
  | noneLit =>
    intro _ _ c c' built built'
    rw [built.of_noneLit, built'.of_noneLit]
    exact trip_none rfl rfl
  | list _ ih =>
    intro carried portable c c' built built'
    obtain ⟨ic, rfl, item⟩ := built.of_listOf
    obtain ⟨ic', rfl, item'⟩ := built'.of_listOf
    cases portable with
    | list each =>
    exact trip_list fun x listed =>
      ih x listed carried.listOf_inv (each x listed) ic ic' item item'
  | @member hs m v listed typed ih =>
    intro carried portable c c' built built'
    obtain ⟨each, paired⟩ := carried.union_inv
    obtain ⟨gs, cs, rfl, made, perm⟩ := built.of_union
    obtain ⟨gs', cs', rfl, made', perm'⟩ := built'.of_union
    by_cases isNone : v = .none
    · subst isNone
      exact trip_none (Typed.none_taken (.member listed typed) rfl built)
        (Typed.none_taken (.member listed typed) rfl built')
    -- the writer and the reader each go past the members of other keys to one of the member's
    obtain ⟨pre, d, post, rfl, builtD, before⟩ := union_split made (Perm.member_key perm listed)
    obtain ⟨pre', d', post', rfl, builtD', before'⟩ :=
      union_split made' (Perm.member_key perm' listed)
    exact trip_union
      (fun e inside => (refused_before paired perm listed typed isNone (before e inside)).1)
      (fun e inside => (refused_before paired perm' listed typed isNone (before' e inside)).2)
      (ih (each m listed) portable d d' builtD builtD')
  | annotated _ ih =>
    intro carried portable c c' built built'
    exact ih carried.annotated_inv portable c c' built.of_annotated built'.of_annotated

/-! ## Storing a value and reading it back -/

namespace Codec

/-- `JSONCodec.get(T).loads(JSONCodec.get(T).dumps(v))`: the reader is looked up first, then the
writer, whose text the reader reads. -/
def roundTrip (h : Hint) (v : Value) : CodecM Value := do
  let reader ← get h
  let writer ← get h
  let text ← dumps writer v
  loads reader text

theorem dumps_run {c : Codec} {v : Value} {r r' : Registry} {j : Json}
    (written : (encode c v).run r = .ok j r') : (dumps c v).run r = .ok j.render r' := by
  rw [dumps, Sql.bind_run_ok written]
  rfl

/-- Text a document is printed as is read back as the document. -/
theorem loads_render {c : Codec} {j : Json} (readable : Json.Readable j) {r r' : Registry}
    {w : Value} (read : (decode c j).run r = .ok w r') : (loads c j.render).run r = .ok w r' := by
  rw [loads, Json.parse?_render readable]
  simp only [tryCatch_run, read]

/-- A lookup of a hint that builds, from a sound registry, returns a codec built for a hint with
its key and leaves the registry sound. -/
theorem get_built {h : Hint} (buildable : (build h).isSome = true) {r : Registry} (sound : r.Sound) :
    ∃ c r', (get h).run r = .ok c r' ∧ r'.Sound ∧ BuiltForKey h.key c := by
  obtain ⟨c, r', ran⟩ := get_ok h buildable r
  obtain ⟨sound', built, -⟩ := (get_keeps h sound).1 c r' ran
  exact ⟨c, r', ran, sound', built⟩

/-- From a sound registry, a value of a carried hint's type that the codecs carry is written by
one lookup of the hint and read back by another as itself in UTC, whichever codecs of the hint's
key the two lookups return; the registry stays sound. -/
theorem roundTrip_run {h : Hint} {v : Value} (carried : Carried h) (typed : Typed h v)
    (portable : v.Portable) {r : Registry} (sound : r.Sound) :
    ∃ r', (roundTrip h v).run r = .ok v.toUtc r' ∧ r'.Sound := by
  have buildable : (build h).isSome = true := Option.isSome_iff_exists.mpr (buildable carried)
  obtain ⟨reader, r₁, looked, sound₁, builtReader⟩ := get_built buildable sound
  obtain ⟨writer, r₂, looked', sound₂, builtWriter⟩ := get_built buildable sound₁
  obtain ⟨j, r₃, written, sound₃, readable, -, read⟩ :=
    typed.trip carried portable writer reader builtWriter builtReader r₂ sound₂
  obtain ⟨r₄, decoded, sound₄⟩ := read r₃ sound₃
  refine ⟨r₄, ?_, sound₄⟩
  rw [roundTrip, Sql.bind_run_ok looked, Sql.bind_run_ok looked', Sql.bind_run_ok (dumps_run written)]
  exact loads_render readable decoded

end Codec

namespace Hint

theorem Storable.of_fields {c : RecordClass} (each : ∀ h ∈ c.fields.map Field.hint, Storable h) :
    Storable (cls (.record c)) :=
  .record fun f listed => each f.hint (List.mem_map_of_mem listed)

open RecordClass in
/-- The record classes of the package are declared types values are stored under: each field is
text, an integer, a timestamp, a status, the scalar union, a list, a record of such fields, or
one of them optional. -/
theorem storable_record : ∀ c : RecordClass, Storable (cls (.record c)) := by
  have text : Storable (optionalOf (cls .str)) := .optional .str
  have money : Storable (cls (.record .money)) := by
    apply Storable.of_fields
    simp only [fields, optStr, List.map_cons, List.map_nil, List.forall_mem_cons, List.not_mem_nil,
      IsEmpty.forall_iff, implies_true, and_true]
    exact ⟨text, .int, .int⟩
  have person : Storable (cls (.record .person)) := by
    apply Storable.of_fields
    simp only [fields, optStr, List.map_cons, List.map_nil, List.forall_mem_cons, List.not_mem_nil,
      IsEmpty.forall_iff, implies_true, and_true]
    exact ⟨text, text, text, text, text, text⟩
  have address : Storable (cls (.record .postalAddress)) := by
    apply Storable.of_fields
    simp only [fields, optStr, List.map_cons, List.map_nil, List.cons_append, List.nil_append,
      List.forall_mem_cons, List.not_mem_nil, IsEmpty.forall_iff, implies_true, and_true]
    have lines : Storable (optionalOf (listOf (cls .str))) := .optional (.listOf .str)
    exact ⟨text, text, text, text, text, text, text, lines, lines, text, text⟩
  have item : Storable (cls (.record .orderItem)) := by
    apply Storable.of_fields
    simp only [fields, req, List.map_cons, List.map_nil, List.forall_mem_cons, List.not_mem_nil,
      IsEmpty.forall_iff, implies_true, and_true]
    exact ⟨.str, .str, .int, .optional money⟩
  have parameter : Storable (cls (.record .parameter)) := by
    apply Storable.of_fields
    simp only [fields, req, List.map_cons, List.map_nil, List.forall_mem_cons, List.not_mem_nil,
      IsEmpty.forall_iff, implies_true, and_true]
    exact ⟨.str, .scalars⟩
  intro c
  cases c with
  | money => exact money
  | person => exact person
  | postalAddress => exact address
  | orderItem => exact item
  | parameter => exact parameter
  | order =>
    apply Storable.of_fields
    simp only [fields, req, List.map_cons, List.map_nil, List.forall_mem_cons, List.not_mem_nil,
      IsEmpty.forall_iff, implies_true, and_true]
    exact ⟨.str, .datetime, .optional person, .optional address, .optional (.listOf item)⟩
  | task =>
    apply Storable.of_fields
    simp only [fields, optStr, req, List.map_cons, List.map_nil, List.forall_mem_cons,
      List.not_mem_nil, IsEmpty.forall_iff, implies_true, and_true]
    exact ⟨.str, .datetime, .optional .datetime, .str, text, text, .str, .status, text,
      .optional (.listOf parameter)⟩
  | taskTemplate =>
    apply Storable.of_fields
    simp only [fields, req, List.map_cons, List.map_nil, List.forall_mem_cons, List.not_mem_nil,
      IsEmpty.forall_iff, implies_true, and_true]
    exact ⟨.str, .status, text⟩
  | cursor =>
    apply Storable.of_fields
    simp only [fields, req, List.map_cons, List.map_nil, List.forall_mem_cons, List.not_mem_nil,
      IsEmpty.forall_iff, implies_true, and_true]
    exact ⟨.int, .str⟩

end Hint

end Storefront
