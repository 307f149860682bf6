import Storefront.Proofs.Codec.RoundTrip

/-!
# Editing a stored document

A table store changes a record by editing its JSON document: a field set to none loses its
member, and a field set to another value gets, in place or at the end, the member that the
codec of the value's class writes. Reading the record back decodes the document by the codec of
the record's class, which finds each field by its name.

A document that holds the fields of a record (`Codec.Holds`) still holds them after a change to
a declared field, with the field's new value, when that value is none or a value of the field's
type with a codec of its own class. Every codec of the field's type writes such a value as the
codec of its class does (`Typed.writes_as_class`), so every reader of the field reads the new
member back, and the members of other names are untouched. Over a list of changes the table's
update gives a row whose document holds the record with each change made (`update_holds`), and
reading that row gives the record in UTC (`read_holds`).

Every codec writes a tuple as the list of its items (`Codec.encode_tuple`), and records whose
fields are written alike are written alike (`Codec.encode_record_congr`), so the table adds them
as one row (`TableStore.create_congr`).
-/

namespace Storefront

open Codec Hint

/-! ## Writing a value by the codec of its class -/

/-- Every codec of the key of a carried type writes a value of the type, other than none or a
list, as the codec of the value's own class does: a union goes past the members of other keys,
which refuse the value at once, to a member of the key of a member the value belongs to. -/
theorem Typed.writes_as_class {h : Hint} {v : Value} (typed : Typed h v) :
    Carried h → v ≠ .none → (∀ xs, v ≠ .list xs) → ∀ {c d : Codec}, BuiltForKey h.key c →
      build (cls v.kind) = some d → ∀ {r r' : Registry} {j : Json},
        (encode d v).run r = .ok j r' → (encode c v).run r = .ok j r' := by
  induction typed with
  | plain _ =>
    intro _ _ _ c d built made r r' j written
    obtain rfl : c = d := Option.some.inj (built.of_cls.symm.trans made)
    exact written
  | record _ _ _ =>
    intro _ _ _ c d built made r r' j written
    obtain rfl : c = d := Option.some.inj (built.of_cls.symm.trans made)
    exact written
  | noneLit => exact fun _ other => absurd rfl other
  | list _ _ => exact fun _ _ notList => absurd rfl (notList _)
  | @member hs m v listed typed ih =>
    intro carried other notList c d built made r r' j written
    obtain ⟨each, paired⟩ := carried.union_inv
    obtain ⟨gs, cs, rfl, members, perm⟩ := built.of_union
    obtain ⟨pre, e, post, rfl, builtE, before⟩ := union_split members (Perm.member_key perm listed)
    rw [encode.eq_1, encodeUnion_skip fun e' inside =>
      (refused_before paired perm listed typed other (before e' inside)).1, encodeUnion.eq_2]
    exact orElse_run_ok (ih (each m listed) other notList builtE made written)
  | annotated _ ih =>
    intro carried other notList c d built made r r' j written
    exact ih carried.annotated_inv other notList built.of_annotated made written

/-- The fields of a record of a package class that the codecs carry make the trip, each paired
with its declared field. -/
theorem Typed.fieldTrips {c : RecordClass} {fs : List (String × Value)}
    (typed : Typed (cls (.record c)) (.record c fs)) (portable : (Value.record c fs).Portable) :
    List.Forall₂ (fun f p => p.1 = f.name ∧ FieldTrips f p.2) c.fields fs := by
  obtain ⟨gs, same, names, fields⟩ := typed.record_inv
  cases same
  have carried : ∀ f ∈ c.fields, Carried f.hint := by
    rcases (storable_record c).carried.cls_inv with coded | ⟨c', same, each⟩
    · simp [Kind.coded] at coded
    · cases same
      exact each
  cases portable with
  | record _ each =>
    exact fieldTrips_of names fields fun f listed x found _ =>
      (fields f listed x found).trip (carried f listed) (each (f.name, x) (Value.mem_of_lookup found))

/-! ## Values written alike -/

namespace Codec

mutual

/-- Every codec writes a tuple as it writes the list of its items. -/
theorem encode_tuple : ∀ (c : Codec) (xs : List Value), encode c (.tuple xs) = encode c (.list xs)
  | .union cs, xs => by
    rw [encode.eq_1, encode.eq_1]
    exact encodeUnion_tuple cs xs
  | .str, _ | .int, _ | .bool, _ | .none, _ | .status, _ | .time, _ | .list _, _ | .record _, _ => by
    simp only [encode]

theorem encodeUnion_tuple : ∀ (cs : List Codec) (xs : List Value),
    encodeUnion cs (.tuple xs) = encodeUnion cs (.list xs)
  | [], _ => by rw [encodeUnion.eq_1, encodeUnion.eq_1]
  | c :: cs, xs => by
    rw [encodeUnion.eq_2, encodeUnion.eq_2, encode_tuple c xs, encodeUnion_tuple cs xs]

end

/-- Fields of the same names, none at the same places, whose values every codec writes alike,
are written alike. -/
theorem encodeFields_congr {fs gs : List (String × Value)}
    (alike : List.Forall₂ (fun p q => p.1 = q.1 ∧ p.2.isNone = q.2.isNone ∧
      ∀ c, encode c p.2 = encode c q.2) fs gs) (cs : List Codec) :
    encodeFields cs fs = encodeFields cs gs := by
  induction alike generalizing cs with
  | nil => cases cs <;> simp only [encodeFields]
  | @cons p q fs gs same _ ih =>
    obtain ⟨named, none, written⟩ := same
    obtain ⟨n, x⟩ := p
    obtain ⟨m, y⟩ := q
    cases named
    cases cs with
    | nil => simp only [encodeFields]
    | cons c cs => simp only [encodeFields, none, written c, ih cs]

mutual

/-- Every codec writes records of one class alike when their fields are written alike. -/
theorem encode_record_congr {k : RecordClass} {fs gs : List (String × Value)}
    (alike : ∀ cs, encodeFields cs fs = encodeFields cs gs) :
    ∀ c, encode c (.record k fs) = encode c (.record k gs)
  | .union cs => by
    rw [encode.eq_1, encode.eq_1]
    exact encodeUnion_record_congr alike cs
  | .record _ => by simp only [encode, alike]
  | .str | .int | .bool | .none | .status | .time | .list _ => by simp only [encode]

theorem encodeUnion_record_congr {k : RecordClass} {fs gs : List (String × Value)}
    (alike : ∀ cs, encodeFields cs fs = encodeFields cs gs) :
    ∀ cs, encodeUnion cs (.record k fs) = encodeUnion cs (.record k gs)
  | [] => by rw [encodeUnion.eq_1, encodeUnion.eq_1]
  | c :: cs => by
    rw [encodeUnion.eq_2, encodeUnion.eq_2, encode_record_congr alike c,
      encodeUnion_record_congr alike cs]

end

end Codec

/-! ## Members after a change -/

namespace Json

variable {ms : List (String × Json)} {k n : String}

theorem find?_filter_key_self : (ms.filter (·.1 != k)).find? (·.1 == k) = Option.none := by
  rw [List.find?_filter, List.find?_eq_none]
  intro m _
  simp

theorem find?_filter_key_other (other : n ≠ k) :
    (ms.filter (·.1 != k)).find? (·.1 == n) = ms.find? (·.1 == n) := by
  rw [List.find?_filter]
  apply List.find?_congr
  intro m _
  by_cases named : m.1 = n
  · simp [named, other]
  · simp [named]

theorem find?_setMember_self (j : Json) : (setMember ms k j).find? (·.1 == k) = some (k, j) := by
  unfold setMember
  split
  · next present =>
    -- the first member of the key is the one replaced
    obtain ⟨m, found⟩ := Option.isSome_iff_exists.mp (List.find?_isSome.mpr (List.any_eq_true.mp present))
    have named : m.1 = k := by simpa using List.find?_some found
    have keyed : ((fun m : String × Json => m.1 == k) ∘
        fun m => if m.1 == k then (k, j) else m) = fun m => m.1 == k := by
      funext m'
      by_cases hit : m'.1 = k <;> simp [hit]
    rw [List.find?_map, keyed, found]
    simp [named]
  · next absent =>
    have unkeyed : ms.find? (·.1 == k) = Option.none :=
      List.find?_eq_none.mpr fun m mem hit => absent (List.any_eq_true.mpr ⟨m, mem, hit⟩)
    simp [List.find?_append, unkeyed]

theorem find?_setMember_other (j : Json) (other : n ≠ k) :
    (setMember ms k j).find? (·.1 == n) = ms.find? (·.1 == n) := by
  unfold setMember
  split
  · have keyed : ((fun m : String × Json => m.1 == n) ∘
        fun m => if m.1 == k then (k, j) else m) = fun m => m.1 == n := by
      funext m
      by_cases hit : m.1 = k
      · simp [hit]
      · simp [hit]
    rw [List.find?_map, keyed]
    cases found : ms.find? (·.1 == n) with
    | none => rfl
    | some m =>
      -- the member found is of the other name, so it is not replaced
      have named : m.1 = n := by simpa using List.find?_some found
      simp [named, other]
  · simp [List.find?_append, Ne.symm other]

theorem Readable.filter_key (readable : Readable (.obj ms)) :
    Readable (.obj (ms.filter (·.1 != k))) := by
  cases readable with
  | obj _ keys names values =>
    exact .obj _ ((List.filter_sublist.map Prod.fst).nodup keys)
      (fun m mem => names m (List.mem_of_mem_filter mem))
      (fun m mem => values m (List.mem_of_mem_filter mem))

theorem Readable.setMember {j : Json} (readable : Readable (.obj ms))
    (name : Text.PairsApart k.toList) (value : Readable j) : Readable (.obj (setMember ms k j)) := by
  cases readable with
  | obj _ keys names values =>
    unfold Json.setMember
    split
    · -- a member replaced keeps its key
      have sameKeys : (ms.map fun m => if m.1 == k then (k, j) else m).map Prod.fst =
          ms.map Prod.fst := by
        rw [List.map_map]
        apply List.map_congr_left
        intro m _
        by_cases hit : m.1 = k <;> simp [hit]
      refine .obj _ (sameKeys ▸ keys) (fun m mem => ?_) (fun m mem => ?_)
      all_goals
        obtain ⟨m₀, mem₀, rfl⟩ := List.mem_map.mp mem
        by_cases hit : m₀.1 = k
      · simpa [hit] using name
      · simpa [hit] using names m₀ mem₀
      · simpa [hit] using value
      · simpa [hit] using values m₀ mem₀
    · next absent =>
      have fresh : ∀ a ∈ ms.map Prod.fst, a ≠ k := fun a mem same => by
        obtain ⟨m, listed, rfl⟩ := List.mem_map.mp mem
        exact absent (List.any_eq_true.mpr ⟨m, listed, by simp [same]⟩)
      refine .obj _ ?_ (fun m mem => ?_) (fun m mem => ?_)
      · rw [List.map_append, List.nodup_append]
        exact ⟨keys, List.nodup_singleton k, fun a mem b single => by
          rw [List.map_cons, List.map_nil, List.mem_singleton] at single
          exact single ▸ fresh a mem⟩
      · rcases List.mem_append.mp mem with old | new
        · exact names m old
        · rw [List.mem_singleton.mp new]
          exact name
      · rcases List.mem_append.mp mem with old | new
        · exact values m old
        · rw [List.mem_singleton.mp new]
          exact value

end Json

/-! ## One change to a document -/

namespace Codec

theorem Found.of_find?_eq {ms ms' : List (String × Json)} {f : Field} {x : Value}
    (same : ms'.find? (·.1 == f.name) = ms.find? (·.1 == f.name)) (found : Found ms f x) :
    Found ms' f x := by
  rw [Found, same]
  exact found

/-- What a change may set a field of a stored document to so that the field reads it back:
none, which removes the field's member, or a value of the field's type that the codecs carry,
of a class with a codec of its own. -/
inductive Settable (f : Field) : Value → Prop
  | none : Settable f .none
  | coded {v : Value} : v.isNone = false → v.kind.coded = true → Typed f.hint v →
      Carried f.hint → v.Portable → Settable f v

/-- A change to the field named `k` gives an object: without the member for none, and otherwise
with the member the codec of the value's class writes, which every codec of the field's key
reads back as the value. Members of other names are found as before. -/
theorem change_run {ms : List (String × Json)} {k : String} {v : Value} {f : Field}
    (named : f.name = k) (settable : Settable f v) {r : Registry} (sound : r.Sound) :
    ∃ ms' r', (TableStore.change (.obj ms) k v).run r = .ok (.obj ms') r' ∧ r'.Sound ∧
      (Json.Readable (.obj ms) → Text.PairsApart k.toList → Json.Readable (.obj ms')) ∧
      Found ms' f v ∧ ∀ n, n ≠ k → ms'.find? (·.1 == n) = ms.find? (·.1 == n) := by
  cases settable with
  | none =>
    refine ⟨ms.filter (·.1 != k), r, rfl, sound, fun readable _ => readable.filter_key,
      .inl ⟨rfl, named ▸ Json.find?_filter_key_self⟩, fun n other => Json.find?_filter_key_other other⟩
  | coded present coded typed carried portable =>
    have other : v ≠ .none := fun isNone => by simp [isNone, Value.isNone] at present
    have notList : ∀ xs, v ≠ .list xs := fun xs isList => by
      simp [isList, Value.kind, Kind.coded] at coded
    have notRecord : ∀ c fs, v ≠ .record c fs := fun c fs isRecord => by
      simp [isRecord, Value.kind, Kind.coded] at coded
    -- the value's class has a codec of its own, which the change looks up and writes with
    obtain ⟨d, r₁, looked, sound₁, built⟩ :=
      get_built (Option.isSome_iff_exists.mpr (buildable (.cls coded))) sound
    obtain ⟨j, r₂, written, sound₂, readable, -, -⟩ :=
      (Typed.plain notRecord).trip (.cls coded) portable d d built built r₁ sound₁
    refine ⟨Json.setMember ms k j, r₂, ?_, sound₂, fun whole name => whole.setMember name readable,
      .inr ⟨present, j, named ▸ Json.find?_setMember_self j, fun c' built' => ?_⟩,
      fun n other => Json.find?_setMember_other j other⟩
    · rw [TableStore.change, if_neg (by simp [present]), Sql.bind_run_ok looked,
        Sql.bind_run_ok written]
      rfl
    · -- the field's own codec writes the same document, and reads it back
      obtain ⟨j', r', written', -, -, -, read⟩ :=
        typed.trip carried portable c' c' built' built' r₁ sound₁
      rw [typed.writes_as_class carried other notList built' built.of_cls written] at written'
      cases written'
      exact read

/-- A change to a declared field keeps a document holding the fields of a record, with that field
set to the change's value. -/
theorem Holds.change {c : RecordClass} {ms : List (String × Json)} {fs : List (String × Value)}
    (holds : Holds c ms fs) {k : String} {v : Value} (declared : k ∈ c.fieldNames)
    (settable : ∀ f ∈ c.fields, f.name = k → Settable f v) {r : Registry} (sound : r.Sound) :
    ∃ ms' r', (TableStore.change (.obj ms) k v).run r = .ok (.obj ms') r' ∧ r'.Sound ∧
      Holds c ms' (fs.map fun p => if p.1 == k then (k, v) else p) := by
  obtain ⟨f₀, listed₀, named₀⟩ := List.mem_map.mp declared
  obtain ⟨ms', r', ran, sound', readable, found₀, others⟩ :=
    change_run named₀ (settable f₀ listed₀ named₀) sound
  refine ⟨ms', r', ran, sound', ⟨readable holds.readable (named₀ ▸ fieldNames_apart c f₀ listed₀), ?_⟩⟩
  apply List.forall₂_map_right_iff.mpr
  refine ((List.forall₂_and_left _ _).mpr ⟨fun f listed => listed, holds.found⟩).imp ?_
  rintro f p ⟨listed, named, found⟩
  by_cases hit : p.1 = k
  · -- the field changed is the one declared under the name
    obtain rfl : f = f₀ := List.inj_on_of_nodup_map (fieldNames_nodup c) listed listed₀
      (named.symm.trans (hit.trans named₀.symm))
    simpa [hit, named₀] using found₀
  · simp only [hit, beq_iff_eq, if_false]
    exact ⟨named, found.of_find?_eq (others f.name (named ▸ hit))⟩

/-- Changes to declared fields, made in turn, keep a document holding the fields of a record,
with each change made. -/
theorem Holds.changes {c : RecordClass} :
    ∀ {changes : List (String × Value)} {ms : List (String × Json)} {fs : List (String × Value)},
      Holds c ms fs →
      (∀ ch ∈ changes, ch.1 ∈ c.fieldNames ∧ ∀ f ∈ c.fields, f.name = ch.1 → Settable f ch.2) →
      ∀ {r : Registry}, r.Sound →
        ∃ ms' fs' r', (changes.foldlM (fun doc ch => TableStore.change doc ch.1 ch.2)
            (.obj ms)).run r = .ok (.obj ms') r' ∧ r'.Sound ∧
          changes.foldl (fun t ch => Service.Value.setField t ch.1 ch.2) (.record c fs) =
            .record c fs' ∧ Holds c ms' fs'
  | [], ms, fs, holds, _, r, sound => ⟨ms, fs, r, rfl, sound, rfl, holds⟩
  | (k, v) :: rest, ms, fs, holds, each, r, sound => by
    obtain ⟨declared, settable⟩ := each (k, v) List.mem_cons_self
    obtain ⟨ms₁, r₁, first, sound₁, holds₁⟩ := holds.change declared settable sound
    obtain ⟨ms', fs', r', more, sound', set, holds'⟩ :=
      holds₁.changes (fun ch listed => each ch (List.mem_cons_of_mem _ listed)) sound₁
    refine ⟨ms', fs', r', ?_, sound', set, holds'⟩
    rw [List.foldlM_cons, Sql.bind_run_ok first]
    exact more

end Codec

/-! ## Rows of the table -/

namespace TableStore

theorem find?_insertRaw (s : TableStore) (coll id doc : String) :
    (s.insertRaw coll id doc).find? coll id = some ⟨coll, id, doc⟩ := by
  unfold insertRaw find?
  split
  · next present =>
    -- the rows replaced are those the lookup finds, and they keep their collection and id
    obtain ⟨row, found⟩ := Option.isSome_iff_exists.mp present
    have matched := List.find?_some found
    have keyed : ((fun r : Row => r.collection == coll && r.id == id) ∘
        fun r => if r.collection == coll && r.id == id then ⟨coll, id, doc⟩ else r) =
        fun r => r.collection == coll && r.id == id := by
      funext r
      by_cases hit : (r.collection == coll && r.id == id) = true
      · simp only [Function.comp, hit, if_true, beq_self_eq_true, Bool.and_self]
      · simp only [Function.comp, hit, if_false, Bool.false_eq_true]
    rw [List.find?_map, keyed, found, Option.map_some, if_pos matched]
  · next absent =>
    simp only [Option.isSome_iff_ne_none, ne_eq, Decidable.not_not] at absent
    simp [List.find?_append, absent]

/-- A text id names the row of that text, when it has one as UTF-8. -/
theorem findValue?_str {s : TableStore} {coll id : String} {row : Row}
    (found : s.findValue? coll (.str id) = .ok (some row)) :
    Failure.unencodable? id = Option.none ∧ s.find? coll id = some row := by
  unfold findValue? idText SqlValue.bind at found
  cases encodable : Failure.unencodable? id with
  | some e => simp [encodable, bind, Except.bind, throw, throwThe, MonadExceptOf.throw] at found
  | none =>
    simp only [encodable, bind, Except.bind, pure, Except.pure, SqlValue.affineText] at found
    exact ⟨rfl, Except.ok.inj found⟩

theorem findValue?_of_find? {s : TableStore} {coll id : String}
    (encodable : Failure.unencodable? id = Option.none) :
    s.findValue? coll (.str id) = .ok (s.find? coll id) := by
  simp [findValue?, idText, SqlValue.bind, encodable, SqlValue.affineText, bind, Except.bind, pure,
    Except.pure]

theorem find?_id {s : TableStore} {coll id : String} {row : Row} (found : s.find? coll id = some row) :
    row.id = id := by
  have matched := List.find?_some found
  simp only [Bool.and_eq_true, beq_iff_eq] at matched
  exact matched.2

theorem liftExcept_ok_run {α : Type} (a : α) (r : Registry) :
    (Sql.liftExcept (.ok a : Except Failure α)).run r = .ok a r := rfl

theorem idText_str {id : String} (encodable : Failure.unencodable? id = Option.none) :
    idText (.str id) = .ok (some id) := by
  simp [idText, SqlValue.bind, encodable, SqlValue.affineText, bind, Except.bind, pure, Except.pure]

/-- The codec of a record class, looked up in a sound registry, is the record codec. -/
theorem get_record (c : RecordClass) {r : Registry} (sound : r.Sound) :
    ∃ r', (get (cls (.record c))).run r = .ok (.record c) r' ∧ r'.Sound := by
  obtain ⟨d, r', looked, sound', built⟩ := get_built (h := cls (.record c)) rfl sound
  obtain rfl : d = .record c := by simpa [build, ofClass] using built.of_cls.symm
  exact ⟨r', looked, sound'⟩

/-- Records of one class that every codec writes alike are added alike. -/
theorem create_congr {s : TableStore} {coll : String} {id v w : Value}
    (alike : ∀ c, encode c v = encode c w) (kind : v.kind = w.kind) :
    s.create coll id v = s.create coll id w := by
  simp only [create, dumps, kind, alike]

/-- A record whose fields make the trip is added under a text id that has a UTF-8 form and names
no row yet. -/
theorem create_run {s : TableStore} {coll id : String} {c : RecordClass}
    {fs : List (String × Value)} {r : Registry} (encodable : Failure.unencodable? id = Option.none)
    (fresh : s.find? coll id = Option.none)
    (aligned : List.Forall₂ (fun f p => p.1 = f.name ∧ FieldTrips f p.2) c.fields fs)
    (sound : r.Sound) : ∃ s' r', (s.create coll (.str id) (.record c fs)).run r = .ok s' r' := by
  obtain ⟨r₁, looked, sound₁⟩ := get_record c sound
  obtain ⟨ms, r₂, written, -, -⟩ := encode_record_holds aligned sound₁
  have kind : (Value.record c fs).kind = .record c := rfl
  refine ⟨⟨s.rows ++ [⟨coll, id, (Json.obj ms).render⟩]⟩, r₂, ?_⟩
  rw [create, kind, Sql.bind_run_ok looked, Sql.bind_run_ok (dumps_run written), idText_str encodable,
    Sql.bind_run_ok (liftExcept_ok_run _ r₂)]
  simp only [fresh, Option.isSome_none, Bool.false_eq_true, if_false]
  rfl

/-- Adding a record whose fields make the trip, under a text id, gives a row of that id whose
document holds the record's fields. -/
theorem create_holds {s s' : TableStore} {coll id : String} {c : RecordClass}
    {fs : List (String × Value)} {r r' : Registry}
    (created : (s.create coll (.str id) (.record c fs)).run r = .ok s' r')
    (aligned : List.Forall₂ (fun f p => p.1 = f.name ∧ FieldTrips f p.2) c.fields fs)
    (sound : r.Sound) :
    ∃ ms, s'.findValue? coll (.str id) = .ok (some ⟨coll, id, (Json.obj ms).render⟩) ∧
      Holds c ms fs ∧ r'.Sound := by
  obtain ⟨r₁, looked, sound₁⟩ := get_record c sound
  obtain ⟨ms, r₂, written, sound₂, holds⟩ := encode_record_holds aligned sound₁
  have kind : (Value.record c fs).kind = .record c := rfl
  rw [create, kind, Sql.bind_run_ok looked, Sql.bind_run_ok (dumps_run written)] at created
  cases encodable : Failure.unencodable? id with
  | some e =>
    -- an id with no UTF-8 form is refused before the row is added
    have refused : idText (.str id) = .error e := by
      simp [idText, SqlValue.bind, encodable, bind, Except.bind, throw, throwThe, MonadExceptOf.throw]
    rw [refused] at created
    cases created
  | none =>
    rw [idText_str encodable, Sql.bind_run_ok (liftExcept_ok_run _ r₂)] at created
    cases fresh : s.find? coll id with
    | some row =>
      simp only [fresh, Option.isSome_some, if_true] at created
      cases created
    | none =>
      simp only [fresh, Option.isSome_none, Bool.false_eq_true, if_false] at created
      cases created
      refine ⟨ms, ?_, holds, sound₂⟩
      rw [findValue?_of_find? encodable]
      unfold find? at fresh ⊢
      simp [List.find?_append, fresh]

/-- Changes to declared fields of the record a row holds, made by the table's update: the row's
document becomes one that holds the record with each change made. -/
theorem update_holds {s : TableStore} {coll id : String} {row : Row} {c : RecordClass}
    {ms : List (String × Json)} {fs : List (String × Value)}
    (found : s.findValue? coll (.str id) = .ok (some row)) (document : row.document = (Json.obj ms).render)
    (holds : Holds c ms fs) {changes : List (String × Value)}
    (each : ∀ ch ∈ changes, ch.1 ∈ c.fieldNames ∧ ∀ f ∈ c.fields, f.name = ch.1 → Settable f ch.2)
    {r : Registry} (sound : r.Sound) :
    ∃ ms' fs' r', (s.update coll (.str id) changes).run r = .ok (s.insertRaw coll id (Json.obj ms').render) r' ∧
      r'.Sound ∧ changes.foldl (fun t ch => Service.Value.setField t ch.1 ch.2) (.record c fs) =
        .record c fs' ∧ Holds c ms' fs' := by
  obtain ⟨ms', fs', r', edited, sound', set, holds'⟩ := holds.changes each sound
  refine ⟨ms', fs', r', ?_, sound', set, holds'⟩
  have parsed : Json.parse row.document = .ok (.obj ms) := by
    rw [document, Json.parse_render holds.readable]
  rw [update, found, Sql.bind_run_ok (liftExcept_ok_run _ r)]
  simp only [parsed]
  rw [Sql.bind_run_ok (pure_run _ r), Sql.bind_run_ok edited, find?_id (findValue?_str found).2]
  rfl

/-- Reading the row of a record whose document holds its fields gives the record in UTC, when its
fields make the trip and its class's check passes on the values read back. -/
theorem read_holds {s : TableStore} {coll id : String} {row : Row} {c : RecordClass}
    {ms : List (String × Json)} {fs : List (String × Value)}
    (found : s.findValue? coll (.str id) = .ok (some row)) (document : row.document = (Json.obj ms).render)
    (holds : Holds c ms fs)
    (aligned : List.Forall₂ (fun f p => p.1 = f.name ∧ FieldTrips f p.2) c.fields fs)
    (checked : c.postInit (Value.toUtcFields fs) = .ok (Value.toUtcFields fs))
    {r : Registry} (sound : r.Sound) :
    ∃ r', (s.read coll (.str id) (cls (.record c))).run r =
      .ok (.record c (Value.toUtcFields fs)) r' ∧ r'.Sound := by
  obtain ⟨r₁, looked, sound₁⟩ := get_record c sound
  obtain ⟨r₂, decoded, sound₂⟩ := decode_record_holds holds aligned checked sound₁
  refine ⟨r₂, ?_, sound₂⟩
  rw [read, found, Sql.bind_run_ok (liftExcept_ok_run _ r)]
  show (do let c ← get (cls (.record c)); decodeRow c row (.str id)).run r = _
  rw [Sql.bind_run_ok looked, decodeRow, tryCatch_run, document, loads_render holds.readable decoded]

end TableStore

end Storefront
