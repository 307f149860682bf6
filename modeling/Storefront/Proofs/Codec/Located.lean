import Storefront.Proofs.Codec.Cache
import Storefront.Codec.Transcode

/-!
# Where reading a document fails

A failure of reading a JSON document by a codec is located: there is a path of list indices
and field names from the document's root to a part of it, and the codec that reads that part
(an item codec under an index, the codec of a field under its name, a member of a union with
no step of its own) fails on it by its own checks. A codec failure then carries that path, or
none at the root. The one exception is a float that is not a number, or is infinite, read as
an integer: its conversion fails in the runtime, with a value or an overflow failure that no
path is put on and that no union passes over. Reading text, every failure is a codec failure.
-/

namespace Storefront

namespace Json

/-- The part of a document one step down: an array's item by index, an object's first member
of a name. -/
def child : Json → PathStep → Option Json
  | .arr xs, .index i => xs[i]?
  | .obj ms, .field k => (ms.find? (·.1 == k)).map (·.2)
  | _, _ => none

/-- The part of a document at a path. -/
def atPath (j : Json) : List PathStep → Option Json
  | [] => some j
  | s :: p => (j.child s).bind fun x => x.atPath p

end Json

namespace Codec

/-- The codec failure that locates its cause at a path: no path for the document itself. -/
def failureAt : List PathStep → Failure
  | [] => .decode Option.none
  | p => .decode (some p)

/-- The codec that reads the part of a document at a path, within a codec: a list's item codec
under an index, under a field's name a codec built for a hint with the key of the field's
hint, and any member of a union, which adds no step. -/
inductive Reads : Codec → List PathStep → Codec → Prop
  | here {c : Codec} : Reads c [] c
  | item {item c : Codec} {i : Nat} {p : List PathStep} :
      Reads item p c → Reads (.list item) (.index i :: p) c
  | field {cls : RecordClass} {f : Field} {fc c : Codec} {p : List PathStep} :
      f ∈ cls.fields → BuiltForKey f.hint.key fc → Reads fc p c →
      Reads (.record cls) (.field f.name :: p) c
  | member {cs : List Codec} {m c : Codec} {p : List PathStep} :
      m ∈ cs → Reads m p c → Reads (.union cs) p c

/-- The codec refuses the document by its own checks: reading it fails with no path. -/
def RefusesItself (c : Codec) (v : Json) : Prop :=
  ∃ r r', (decode c v).run r = .error (.decode Option.none) r'

/-- How reading the part at path `p` by its codec fails: the codec refuses the part itself,
with the codec failure of that path; or the part is a float read as an integer that is not a
number or is infinite (it has no exact value), with the runtime's value or overflow failure. -/
def FailsOn (p : List PathStep) (c : Codec) (v : Json) (e : Failure) : Prop :=
  (e = failureAt p ∧ RefusesItself c v) ∨
    (c = .int ∧ ∃ x, v = .float x ∧
      ((x.isNaN = true ∧ e = .runtime .valueError) ∨
        (x.isNaN = false ∧ exactOfFloat? x = Option.none ∧ e = .runtime .overflowError)))

/-- A failure of reading `j` by `c`, located at the path `p`. -/
def LocatedAt (c : Codec) (j : Json) (e : Failure) (p : List PathStep) : Prop :=
  ∃ c' v, Reads c p c' ∧ j.atPath p = some v ∧ FailsOn p c' v e

theorem failureAt_under (s : PathStep) (p : List PathStep) :
    (failureAt p).under s = failureAt (s :: p) := by
  cases p <;> rfl

theorem FailsOn.under {p : List PathStep} {c : Codec} {v : Json} {e : Failure} (s : PathStep)
    (fails : FailsOn p c v e) : FailsOn (s :: p) c v (e.under s) := by
  rcases fails with ⟨rfl, refuses⟩ | ⟨rfl, x, rfl, ⟨nan, rfl⟩ | ⟨number, inexact, rfl⟩⟩
  · exact .inl ⟨failureAt_under s p, refuses⟩
  · exact .inr ⟨rfl, x, rfl, .inl ⟨nan, rfl⟩⟩
  · exact .inr ⟨rfl, x, rfl, .inr ⟨number, inexact, rfl⟩⟩

section Located

variable {e : Failure} {p : List PathStep}

/-- A failure on a list item is located under the item's index. -/
theorem LocatedAt.item {item : Codec} {xs : List Json} {k : Nat} {x : Json} (at_ : xs[k]? = some x)
    (located : LocatedAt item x e p) :
    LocatedAt (.list item) (.arr xs) (e.under (.index k)) (.index k :: p) := by
  obtain ⟨c', v, reads, found, fails⟩ := located
  exact ⟨c', v, .item reads, by simp [Json.atPath, Json.child, at_, found], fails.under _⟩

/-- A failure on a field's value is located under the field's name. -/
theorem LocatedAt.field {cls : RecordClass} {f : Field} {fc : Codec} {ms : List (String × Json)}
    {x : Json} (declared : f ∈ cls.fields) (built : BuiltForKey f.hint.key fc)
    (member : (ms.find? (·.1 == f.name)).map (·.2) = some x) (located : LocatedAt fc x e p) :
    LocatedAt (.record cls) (.obj ms) (e.under (.field f.name)) (.field f.name :: p) := by
  obtain ⟨c', v, reads, found, fails⟩ := located
  exact ⟨c', v, .field declared built reads, by simp [Json.atPath, Json.child, member, found],
    fails.under _⟩

/-- A failure of a union's member is located where the member's is. -/
theorem LocatedAt.member {cs : List Codec} {m : Codec} {j : Json} (listed : m ∈ cs)
    (located : LocatedAt m j e p) : LocatedAt (.union cs) j e p := by
  obtain ⟨c', v, reads, found, fails⟩ := located
  exact ⟨c', v, .member listed reads, found, fails⟩

end Located

/-! ## Codec work and its failures -/

/-- Codec work from a registry: every registry it leaves is sound, and every failure it ends
in satisfies `L`. -/
def Fails {α : Type} (r : Registry) (act : CodecM α) (L : Failure → Prop) : Prop :=
  (∀ a r', act.run r = .ok a r' → r'.Sound) ∧ ∀ e r', act.run r = .error e r' → r'.Sound ∧ L e

namespace Fails

variable {α β : Type} {r : Registry} {L L' : Failure → Prop}

theorem pure (sound : r.Sound) {a : α} : Fails r (Pure.pure a : CodecM α) L := by
  refine ⟨fun a' r' ran => ?_, fun e r' ran => ?_⟩
  · cases ran
    exact sound
  · cases ran

theorem throw (sound : r.Sound) {e : Failure} (holds : L e) :
    Fails r (MonadExcept.throw e : CodecM α) L := by
  refine ⟨fun a' r' ran => ?_, fun e' r' ran => ?_⟩
  · cases ran
  · cases ran
    exact ⟨sound, holds⟩

theorem mono {x : CodecM α} (fails : Fails r x L) (implies : ∀ e, L e → L' e) : Fails r x L' :=
  ⟨fails.1, fun e r' ran => (fails.2 e r' ran).imp_right (implies e)⟩

theorem bind {x : CodecM α} {f : α → CodecM β} (first : Fails r x L)
    (rest : ∀ a r₁, r₁.Sound → Fails r₁ (f a) L) : Fails r (x >>= f) L := by
  cases ran : x.run r with
  | ok a r₁ =>
    rw [Fails, Sql.bind_run_ok ran]
    exact rest a r₁ (first.1 a r₁ ran)
  | error e r₁ =>
    rw [Fails, Sql.bind_run_error ran]
    refine ⟨fun b r' failed => ?_, fun e' r' failed => ?_⟩
    · cases failed
    · cases failed
      exact first.2 e r₁ ran

/-- A step that is known to go through, then the rest. -/
theorem of_ok {x : CodecM α} {f : α → CodecM β} {a : α} {r₁ : Registry} (ran : x.run r = .ok a r₁)
    (rest : Fails r₁ (f a) L) : Fails r (x >>= f) L := by
  rw [Fails, Sql.bind_run_ok ran]
  exact rest

/-- A step under a path step fails as the step does, with the path step put in front. -/
theorem within {x : CodecM α} (s : PathStep) (fails : Fails r x L) :
    Fails r (Codec.within s x) fun e => ∃ e₀, L e₀ ∧ e = e₀.under s := by
  rw [Fails, Codec.within, Codec.tryCatch_run]
  cases ran : x.run r with
  | ok a r' =>
    refine ⟨fun a' r'' done => ?_, fun e r'' done => nomatch done⟩
    cases done
    exact fails.1 a r' ran
  | error e r' =>
    refine ⟨fun a' r'' done => (nomatch done), fun e' r'' done => ?_⟩
    cases done
    obtain ⟨sound, holds⟩ := fails.2 e r' ran
    exact ⟨sound, e, holds, rfl⟩

/-- Trying a step and on a codec failure an alternative: a failure is the step's own when it is
not a codec failure, and otherwise the alternative's. -/
theorem orElse {x : CodecM α} {alt : Unit → CodecM α} (first : Fails r x L)
    (rest : ∀ r₁, r₁.Sound → Fails r₁ (alt ()) L') :
    Fails r (Codec.orElse x alt) fun e => (L e ∧ e.isCodec = false) ∨ L' e := by
  rw [Fails, Codec.orElse, Codec.tryCatch_run]
  cases ran : x.run r with
  | ok a r' =>
    refine ⟨fun a' r'' done => ?_, fun e r'' done => nomatch done⟩
    cases done
    exact first.1 a r' ran
  | error e r' =>
    obtain ⟨sound, holds⟩ := first.2 e r' ran
    by_cases codec : e.isCodec = true
    · simp only [codec, if_true]
      exact (rest r' sound).mono fun e' holds' => .inr holds'
    · simp only [codec, Bool.false_eq_true, if_false]
      exact Fails.throw (L := fun e => (L e ∧ e.isCodec = false) ∨ L' e) sound
        (.inl ⟨holds, by simpa using codec⟩)

end Fails

/-! ## The codecs of a record's fields -/

theorem getThe_run (r : Registry) : (getThe Registry : CodecM Registry).run r = .ok r r := rfl

theorem ofClass_run {h : Hint} {k : Kind} {c : Codec} (built : (ofClass h k).run' {} = some c)
    (r : Registry) : (ofClass h k).run r = .ok c r := by
  cases k <;> cases built <;> rfl

/-- Recording a codec goes through. -/
theorem recorded_run (k : String) (c : Codec) (r : Registry) :
    (do modify fun r : Registry => r.insert k c; Pure.pure c : CodecM Codec).run r =
      .ok c (r.insert k c) := rfl

mutual

/-- A lookup of a hint that can be built goes through, whatever the registry holds. -/
theorem get_ok (h : Hint) (buildable : (build h).isSome = true) (r : Registry) :
    ∃ c r', (get h).run r = .ok c r' := by
  rw [get.eq_1, Sql.bind_run_ok (getThe_run r)]
  cases found : r.find? h.key with
  | some c => exact ⟨c, r, rfl⟩
  | none =>
    -- on a miss the parts are looked up in turn, and each of them can be built
    cases h with
    | cls k =>
      obtain ⟨c, built⟩ := Option.isSome_iff_exists.mp buildable
      exact ⟨c, _, by rw [Sql.bind_run_ok (ofClass_run built r), recorded_run]⟩
    | noneLit => exact ⟨_, _, recorded_run _ _ r⟩
    | listOf item =>
      obtain ⟨ic, r₁, ran⟩ := get_ok item (by simpa [build] using buildable) r
      exact ⟨_, _, by rw [Sql.bind_run_ok ran]; rfl⟩
    | union hs =>
      obtain ⟨cs, r₁, ran⟩ := getAll_ok hs (by simpa [build] using buildable) r
      exact ⟨_, _, by rw [Sql.bind_run_ok ran]; rfl⟩
    | annotated base n =>
      cases base with
      | cls k =>
        obtain ⟨c, built⟩ := Option.isSome_iff_exists.mp buildable
        exact ⟨c, _, by rw [Sql.bind_run_ok (ofClass_run built r), recorded_run]⟩
      | noneLit => exact ⟨_, _, recorded_run _ _ r⟩
      | listOf item =>
        obtain ⟨ic, r₁, ran⟩ := get_ok item (by simpa [build] using buildable) r
        exact ⟨_, _, by rw [Sql.bind_run_ok ran]; rfl⟩
      | union hs =>
        obtain ⟨cs, r₁, ran⟩ := getAll_ok hs (by simpa [build] using buildable) r
        exact ⟨_, _, by rw [Sql.bind_run_ok ran]; rfl⟩
      | annotated base m => simp [build] at buildable

/-- Looking up hints that can all be built goes through. -/
theorem getAll_ok (hs : List Hint) (buildable : (buildAll hs).isSome = true) (r : Registry) :
    ∃ cs r', (getAll hs).run r = .ok cs r' := by
  cases hs with
  | nil => exact ⟨[], r, by rw [getAll.eq_1]; rfl⟩
  | cons h hs =>
    have parts : (build h).isSome = true ∧ (buildAll hs).isSome = true := by
      cases built : build h <;> cases builtAll : buildAll hs <;> simp_all [buildAll]
    obtain ⟨c, r₁, first⟩ := get_ok h parts.1 r
    obtain ⟨cs, r₂, rest⟩ := getAll_ok hs parts.2 r₁
    exact ⟨c :: cs, r₂, getAll_cons_run first rest⟩

end

/-- Every field hint of every record class can be built. -/
theorem fields_buildable (cls : RecordClass) : ∀ f ∈ cls.fields, (build f.hint).isSome = true := by
  cases cls <;> decide

theorem buildAll_isSome {hs : List Hint} (each : ∀ h ∈ hs, (build h).isSome = true) :
    (buildAll hs).isSome = true := by
  induction hs with
  | nil => rfl
  | cons h hs ih =>
    obtain ⟨c, built⟩ := Option.isSome_iff_exists.mp (each h (by simp))
    obtain ⟨cs, builtAll⟩ := Option.isSome_iff_exists.mp (ih fun h' member => each h' (by simp [member]))
    simp [buildAll, built, builtAll]

/-- Codecs built for hints with the keys of `hs`, paired with `hs` in order. -/
theorem builtForKey_of_buildAll :
    ∀ {hs hs' : List Hint} {cs : List Codec}, Hint.keys hs' = Hint.keys hs → buildAll hs' = some cs →
      ∀ hc ∈ hs.zip cs, BuiltForKey hc.1.key hc.2
  | [], _, _, _, _, hc, member => by simp at member
  | _ :: _, [], _, keys, _, _, _ => by simp [Hint.keys] at keys
  | h :: hs, h' :: hs', cs, keys, built, hc, member => by
    simp only [Hint.keys, List.cons.injEq] at keys
    obtain ⟨c, first, cs', rest, rfl⟩ : ∃ c, build h' = some c ∧ ∃ cs', buildAll hs' = some cs' ∧
        cs = c :: cs' := by
      cases first : build h' <;> cases rest : buildAll hs' <;> simp_all [buildAll]
    rcases List.mem_cons.mp member with rfl | later
    · exact ⟨h', keys.1, first⟩
    · exact builtForKey_of_buildAll keys.2 rest hc later

/-- From a sound registry the codecs of a record's fields are found, the registry stays sound,
and each is built for a hint with the key of its field's hint. -/
theorem fieldCodecs_run (cls : RecordClass) {r : Registry} (sound : r.Sound) :
    ∃ cs r₁, (fieldCodecs cls).run r = .ok cs r₁ ∧ r₁.Sound ∧
      ∀ fc ∈ cls.fields.zip cs, fc.1 ∈ cls.fields ∧ BuiltForKey fc.1.hint.key fc.2 := by
  obtain ⟨cs, r₁, ran⟩ := getAll_ok (cls.fields.map (·.hint))
    (buildAll_isSome (by simpa using fields_buildable cls)) r
  obtain ⟨sound₁, hs', keys, built⟩ := (getAll_keeps _ sound).1 cs r₁ ran
  refine ⟨cs, r₁, ran, sound₁, fun fc member => ⟨(List.of_mem_zip member).1, ?_⟩⟩
  have paired : (fc.1.hint, fc.2) ∈ (cls.fields.map (·.hint)).zip cs := by
    rw [List.zip_map_left]
    exact List.mem_map.mpr ⟨fc, member, rfl⟩
  exact builtForKey_of_buildAll keys built _ paired

/-! ## Every failure of reading is located -/

theorem intOfFloat_fails {x : Float} {r : Registry} (sound : r.Sound) :
    Fails r (intOfFloat x) fun e => e = .decode Option.none ∨
      (x.isNaN = true ∧ e = .runtime .valueError) ∨
      (x.isNaN = false ∧ exactOfFloat? x = Option.none ∧ e = .runtime .overflowError) := by
  unfold intOfFloat
  by_cases nan : x.isNaN = true
  · rw [if_pos nan]
    exact Fails.throw sound (.inr (.inl ⟨nan, rfl⟩))
  · rw [if_neg nan]
    have number : x.isNaN = false := by simpa using nan
    cases value : exactOfFloat? x with
    | none => exact Fails.throw sound (.inr (.inr ⟨number, rfl, rfl⟩))
    | some me =>
      obtain ⟨m, e⟩ := me
      dsimp only
      split_ifs
      · exact Fails.pure sound
      · exact Fails.pure sound
      · exact Fails.throw sound (.inl rfl)

theorem construct_fails {cls : RecordClass} {args : List (String × Value)} {r : Registry}
    (sound : r.Sound) : Fails r (construct cls args) fun e => e = .decode Option.none := by
  unfold construct
  cases cls.make args with
  | ok v => exact Fails.pure sound
  | error _ => exact Fails.throw sound rfl

/-- A failure of reading a document with no path is located at the document itself. -/
theorem located_here {c : Codec} {j : Json} {r : Registry}
    (fails : Fails r (decode c j) fun e => e = .decode Option.none ∨ ∃ p, LocatedAt c j e p) :
    Fails r (decode c j) fun e => ∃ p, LocatedAt c j e p := by
  refine ⟨fails.1, fun e r' failed => ?_⟩
  obtain ⟨sound, rfl | located⟩ := fails.2 e r' failed
  · exact ⟨sound, [], c, j, .here, rfl, .inl ⟨rfl, r, r', failed⟩⟩
  · exact ⟨sound, located⟩

/-- Reading a document from a sound registry: each failure is located. -/
def DecodeLocated (c : Codec) (j : Json) : Prop :=
  ∀ r, r.Sound → Fails r (decode c j) fun e => ∃ p, LocatedAt c j e p

/-- Reading declared fields: a failure is that of one field's value, under its name. -/
def FieldsLocated (fs : List (Field × Codec)) (ms : List (String × Json)) : Prop :=
  ∀ r, r.Sound → Fails r (decodeFields fs ms) fun e => ∃ fc ∈ fs, ∃ x e₀ p,
    (ms.find? (·.1 == fc.1.name)).map (·.2) = some x ∧ LocatedAt fc.2 x e₀ p ∧
      e = e₀.under (.field fc.1.name)

/-- Reading one declared field: a failure is that of its value, under its name. -/
def MemberLocated (f : Field) (c : Codec) (ms : List (String × Json)) : Prop :=
  ∀ r, r.Sound → Fails r (decodeMember f c ms) fun e => ∃ x e₀ p,
    (ms.find? (·.1 == f.name)).map (·.2) = some x ∧ LocatedAt c x e₀ p ∧
      e = e₀.under (.field f.name)

/-- Reading list items numbered from `i`: a failure is that of one item, under its index. -/
def ItemsLocated (item : Codec) (xs : List Json) (i : Nat) : Prop :=
  ∀ r, r.Sound → Fails r (decodeItems item xs i) fun e => ∃ k x e₀ p,
    xs[k]? = some x ∧ LocatedAt item x e₀ p ∧ e = e₀.under (.index (i + k))

/-- Trying a union's members: every member failed with a codec failure, or one failed otherwise. -/
def UnionLocated (cs : List Codec) (j : Json) : Prop :=
  ∀ r, r.Sound → Fails r (decodeUnion cs j) fun e =>
    e = .decode Option.none ∨ ∃ m ∈ cs, ∃ p, LocatedAt m j e p

theorem decode_located : ∀ c j, DecodeLocated c j := by
  refine (decode.mutual_induct DecodeLocated FieldsLocated MemberLocated ItemsLocated UnionLocated
    ?union ?strOk ?strNo ?intOk ?intFloat ?intNo ?boolOk ?boolNo ?noneOk ?noneNo ?statusOk ?statusNo
    ?timeOk ?timeBad ?timeNo ?list ?listNo ?record ?recordNo ?fieldsNil ?fieldsCons ?memberNil
    ?memberHit ?memberMiss ?itemsNil ?itemsCons ?unionNil ?unionCons).1
  -- a union fails where a member fails other than by a codec failure, or at itself
  case union =>
    intro j cs members r sound
    apply located_here
    rw [decode.eq_1]
    exact (members r sound).mono fun e => Or.imp_right fun ⟨m, listed, p, located⟩ =>
      ⟨p, located.member listed⟩
  case strOk => intro s r sound; rw [decode.eq_2]; exact Fails.pure sound
  case strNo =>
    intro j mismatch r sound
    apply located_here
    rw [decode.eq_3 j mismatch]
    exact Fails.throw sound (.inl rfl)
  case intOk => intro i r sound; rw [decode.eq_4]; exact Fails.pure sound
  -- a float read as an integer: a fraction is refused, NaN and infinities fail in the runtime
  case intFloat =>
    intro x r sound
    apply located_here
    rw [decode.eq_5]
    refine Fails.bind ((intOfFloat_fails sound).mono ?_) fun _ r₁ sound₁ => Fails.pure sound₁
    rintro e (rfl | failure)
    · exact .inl rfl
    · exact .inr ⟨[], .int, .float x, .here, rfl, .inr ⟨rfl, x, rfl, failure⟩⟩
  case intNo =>
    intro j notInt notFloat r sound
    apply located_here
    rw [decode.eq_6 j notInt notFloat]
    exact Fails.throw sound (.inl rfl)
  case boolOk => intro b r sound; rw [decode.eq_7]; exact Fails.pure sound
  case boolNo =>
    intro j mismatch r sound
    apply located_here
    rw [decode.eq_8 j mismatch]
    exact Fails.throw sound (.inl rfl)
  case noneOk => intro r sound; rw [decode.eq_9]; exact Fails.pure sound
  case noneNo =>
    intro j mismatch r sound
    apply located_here
    rw [decode.eq_10 j mismatch]
    exact Fails.throw sound (.inl rfl)
  case statusOk => intro j s found r sound; rw [decode.eq_11, found]; exact Fails.pure sound
  case statusNo =>
    intro j missing r sound
    apply located_here
    rw [decode.eq_11, missing]
    exact Fails.throw sound (.inl rfl)
  case timeOk => intro s t read r sound; rw [decode.eq_12, read]; exact Fails.pure sound
  case timeBad =>
    intro s unread r sound
    apply located_here
    rw [decode.eq_12, unread]
    exact Fails.throw sound (.inl rfl)
  case timeNo =>
    intro j mismatch r sound
    apply located_here
    rw [decode.eq_13 j mismatch]
    exact Fails.throw sound (.inl rfl)
  case list =>
    intro item xs items r sound
    apply located_here
    rw [decode.eq_14]
    refine Fails.bind ((items r sound).mono ?_) fun _ r₁ sound₁ => Fails.pure sound₁
    rintro e ⟨k, x, e₀, p, at_, located, rfl⟩
    rw [Nat.zero_add]
    exact .inr ⟨_, located.item at_⟩
  case listNo =>
    intro j item mismatch r sound
    apply located_here
    rw [decode.eq_15 j item mismatch]
    exact Fails.throw sound (.inl rfl)
  -- a record: its fields' codecs are found, then a field fails under its name, or the
  -- constructor refuses the fields read
  case record =>
    intro cls ms fields r sound
    apply located_here
    rw [decode.eq_16]
    obtain ⟨cs, r₁, ran, sound₁, built⟩ := fieldCodecs_run cls sound
    refine Fails.of_ok ran (Fails.bind ((fields cs r₁ sound₁).mono ?_)
      fun args r₂ sound₂ => (construct_fails sound₂).mono fun e refused => .inl refused)
    rintro e ⟨fc, member, x, e₀, p, found, located, rfl⟩
    obtain ⟨declared, builtFor⟩ := built fc member
    exact .inr ⟨_, located.field declared builtFor found⟩
  case recordNo =>
    intro j cls mismatch r sound
    apply located_here
    rw [decode.eq_17 j cls mismatch]
    exact Fails.throw sound (.inl rfl)
  case fieldsNil => intro ms r sound; rw [decodeFields.eq_1]; exact Fails.pure sound
  case fieldsCons =>
    intro ms f c rest member more r sound
    rw [decodeFields.eq_2]
    refine Fails.bind ((member r sound).mono ?_) fun _ r₁ sound₁ =>
      Fails.bind ((more r₁ sound₁).mono ?_) fun _ r₂ sound₂ => Fails.pure sound₂
    · rintro e ⟨x, e₀, p, found, located, rfl⟩
      exact ⟨(f, c), by simp, x, e₀, p, found, located, rfl⟩
    · rintro e ⟨fc, listed, failure⟩
      exact ⟨fc, by simp [listed], failure⟩
  case memberNil => intro f c r sound; rw [decodeMember.eq_1]; exact Fails.pure sound
  case memberHit =>
    intro f c k x rest hit value r sound
    rw [decodeMember.eq_2, if_pos hit]
    refine Fails.bind (((value r sound).within _).mono ?_) fun _ r₁ sound₁ => Fails.pure sound₁
    rintro e ⟨e₀, ⟨p, located⟩, rfl⟩
    exact ⟨x, e₀, p, by simp [List.find?_cons_of_pos, hit], located, rfl⟩
  case memberMiss =>
    intro f c k x rest miss later r sound
    rw [decodeMember.eq_2, if_neg miss]
    refine (later r sound).mono ?_
    rintro e ⟨y, e₀, p, found, located, rfl⟩
    exact ⟨y, e₀, p, by simpa [List.find?_cons, miss] using found, located, rfl⟩
  case itemsNil => intro item i r sound; rw [decodeItems.eq_1]; exact Fails.pure sound
  case itemsCons =>
    intro item i x rest first later r sound
    rw [decodeItems.eq_2]
    refine Fails.bind (((first r sound).within _).mono ?_) fun _ r₁ sound₁ =>
      Fails.bind ((later r₁ sound₁).mono ?_) fun _ r₂ sound₂ => Fails.pure sound₂
    · rintro e ⟨e₀, ⟨p, located⟩, rfl⟩
      exact ⟨0, x, e₀, p, rfl, located, rfl⟩
    · rintro e ⟨k, y, e₀, p, at_, located, rfl⟩
      refine ⟨k + 1, y, e₀, p, by simpa using at_, located, ?_⟩
      rw [Nat.add_assoc, Nat.add_comm 1 k]
  case unionNil => intro j r sound; rw [decodeUnion.eq_1]; exact Fails.throw sound (.inl rfl)
  -- a member's codec failure passes to the next member; any other failure ends the union
  case unionCons =>
    intro j c rest first later r sound
    rw [decodeUnion.eq_2]
    refine (Fails.orElse (first r sound) fun r₁ sound₁ => later r₁ sound₁).mono ?_
    rintro e (⟨⟨p, located⟩, _⟩ | none | ⟨m, listed, p, located⟩)
    · exact .inr ⟨c, by simp, p, located⟩
    · exact .inl none
    · exact .inr ⟨m, by simp [listed], p, located⟩

/-- Reading text fails only with codec failures: text that is not one document, and any
failure of reading the document that is not a codec failure, become a codec failure with no
path. -/
theorem loads_failure_decode {c : Codec} {s : String} {r r' : Registry} {e : Failure}
    (failed : (loads c s).run r = .error e r') : ∃ p, e = .decode p := by
  unfold loads at failed
  cases parsed : Json.parse? s with
  | none =>
    simp only [parsed] at failed
    cases failed
    exact ⟨_, rfl⟩
  | some j =>
    simp only [parsed, Codec.tryCatch_run] at failed
    cases ran : (decode c j).run r with
    | ok v r₁ =>
      rw [ran] at failed
      cases failed
    | error e₀ r₁ =>
      rw [ran] at failed
      cases e₀ <;> cases failed <;> exact ⟨_, rfl⟩

end Codec

/-- Every failure of reading a document by a codec from a sound registry is located: there is
a path of list indices and field names from the document to a part of it, and the codec that
reads that part, an item codec, a field's codec or a union's member, fails on it by itself.
The failure is then a codec failure with that path (no path at the document itself), or the
part is a float read as an integer that is NaN or infinite, and the failure is the runtime's
value or overflow failure. The registry stays sound. Reading text fails only with codec
failures. -/
theorem decode_failures_located (c : Codec) (j : Json) (s : String) (r r' : Registry)
    (e : Failure) :
    (r.Sound → (Codec.decode c j).run r = .error e r' → r'.Sound ∧ ∃ p, Codec.LocatedAt c j e p) ∧
      ((Codec.loads c s).run r = .error e r' → ∃ p, e = .decode p) :=
  ⟨fun sound failed => (Codec.decode_located c j r sound).2 e r' failed,
    Codec.loads_failure_decode⟩

/-- A list of integers read from `[1, "a"]` fails at its second item, with the path to it. -/
theorem second_item_refused :
    ({} : Registry).Sound ∧
      (Codec.decode (.list .int) (.arr [.int 1, .str "a"])).run {} =
        .error (.decode (some [.index 1])) {} ∧
      ∃ p, Codec.LocatedAt (.list .int) (.arr [.int 1, .str "a"]) (.decode (some [.index 1])) p := by
  have failed : (Codec.decode (.list .int) (.arr [.int 1, .str "a"])).run {} =
      .error (.decode (some [.index 1])) {} := by
    rw [Codec.decode.eq_14, Codec.decodeItems.eq_2, Codec.decode.eq_4, Codec.decodeItems.eq_2,
      Codec.decode.eq_6 _ (by simp) (by simp)]
    rfl
  exact ⟨Registry.sound_empty, failed,
    ((decode_failures_located _ _ "" _ _ _).1 Registry.sound_empty failed).2⟩

/-- NaN read as an integer fails in the runtime with a value failure: not a codec failure, so
it carries no path and no union passes over it. -/
theorem nan_read_as_int_escapes :
    (Codec.decode .int (.float (0.0 / 0.0))).run ({} : Registry) = .error (.runtime .valueError) {} ∧
      (Failure.runtime .valueError).isCodec = false := by
  refine ⟨?_, rfl⟩
  rw [Codec.decode.eq_5]
  rfl

end Storefront
