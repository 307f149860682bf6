import Storefront.Proofs.Codec.Located
import Storefront.Proofs.Time.ReadBack
import Storefront.Proofs.Record.Keyword

/-!
# Writing a value and reading it back

`Codec.Trip c c' v` says that the codec `c` writes `v` to a document that JSON text carries, of
the class the value's kind gives, and that the codec `c'` reads that document back as `v` with
its timestamps in UTC (`Value.toUtc`), from every sound registry. Writer and reader are two
codecs because the registry may answer the two lookups of one hint with codecs built for hints
whose union members differ in order. This module proves the trip codec by codec: scalars, a
timestamp on the calendar, lists item by item, a union whose members before the one that writes
refuse the value and whose members before the one that reads refuse the document, and a record
whose fields each make the trip or are none and read back as none when absent, and whose check
passes on the fields read back.
-/

namespace Storefront

/-! ## What a document reads back as -/

/-- The class of the document a codec writes a value as. -/
def Value.jsonClass : Value → String
  | .none => "NoneType"
  | .bool _ => "bool"
  | .int _ | .status _ => "int"
  | .float _ => "float"
  | .str _ | .time _ => "str"
  | .list _ | .tuple _ => "list"
  | .dict _ | .record _ _ => "dict"

mutual

/-- The value as the codecs read it back: each timestamp as its UTC reading. -/
def Value.toUtc : Value → Value
  | .time t => .time ⟨t.utcWall, some 0⟩
  | .list xs => .list (Value.toUtcItems xs)
  | .record c fs => .record c (Value.toUtcFields fs)
  | v => v

/-- `toUtc` of each item. -/
def Value.toUtcItems : List Value → List Value
  | [] => []
  | x :: xs => x.toUtc :: Value.toUtcItems xs

/-- `toUtc` of each field's value. -/
def Value.toUtcFields : List (String × Value) → List (String × Value)
  | [] => []
  | (n, x) :: fs => (n, x.toUtc) :: Value.toUtcFields fs

end

@[simp] theorem Value.toUtcItems_eq (xs : List Value) : Value.toUtcItems xs = xs.map Value.toUtc := by
  induction xs with
  | nil => rfl
  | cons x xs ih => rw [Value.toUtcItems, ih, List.map_cons]

@[simp] theorem Value.toUtcFields_eq (fs : List (String × Value)) :
    Value.toUtcFields fs = fs.map fun p => (p.1, p.2.toUtc) := by
  induction fs with
  | nil => rfl
  | cons p fs ih => rw [Value.toUtcFields, ih, List.map_cons]

/-- A field whose member is absent reads back as none: it admits none and has no default, so it
is read as none, or its default is none. -/
def Field.absentReadsNone (f : Field) : Bool :=
  f.hint.optional && f.default.isNone || f.default matches some Value.none

namespace Text

/-- Characters below the surrogates stand for themselves, so no pair of them is a surrogate
pair. -/
theorem pairsApart_of_below : ∀ {cs : List Char}, (∀ c ∈ cs, c.toNat < 0xD800) → PairsApart cs
  | [], _ => List.IsChain.nil
  | [_], _ => List.IsChain.singleton _
  | a :: b :: rest, below => by
    refine List.isChain_cons_cons.mpr ⟨fun ⟨high, _⟩ => ?_, pairsApart_of_below fun c mem =>
      below c (List.mem_cons_of_mem a mem)⟩
    have small := below a List.mem_cons_self
    have itself : codePoint a = a.toNat := by
      unfold codePoint
      rw [if_neg (by unfold surrogateShelf; omega)]
    simp only [highSurrogate, itself, Bool.and_eq_true, decide_eq_true_eq] at high
    omega

end Text

namespace Codec

/-! ## What a codec refuses at once -/

mutual

/-- Whether writing by a codec may take a value: every value it does not take is refused at
once. -/
def takes : Codec → Value → Bool
  | .str, v => v.kind == .str
  | .int, v => v.kind == .int || v.kind == .taskStatus
  | .bool, v => v.kind == .bool
  | .none, v => v.kind == .noneType
  | .status, v => v.kind == .taskStatus
  | .time, v => v.kind == .datetime
  | .list _, v => v.kind == .list || v.kind == .tuple
  | .record cls, v => v.kind == .record cls
  | .union cs, v => takesAny cs v

/-- Some codec of a list may take the value. -/
def takesAny : List Codec → Value → Bool
  | [], _ => false
  | c :: cs, v => takes c v || takesAny cs v

end

mutual

/-- Whether reading by a codec may accept a document of a class: every document of another
class is refused at once. -/
def reads : Codec → String → Bool
  | .str, n => n == "str"
  | .int, n => n == "int" || n == "float"
  | .bool, n => n == "bool"
  | .none, n => n == "NoneType"
  | .status, n => n == "int" || n == "bool" || n == "float"
  | .time, n => n == "str"
  | .list _, n => n == "list"
  | .record _, n => n == "dict"
  | .union cs, n => readsAny cs n

/-- Some codec of a list may read a document of the class. -/
def readsAny : List Codec → String → Bool
  | [], _ => false
  | c :: cs, n => reads c n || readsAny cs n

end

theorem throw_run {α : Type} (e : Failure) (r : Registry) :
    (throw e : CodecM α).run r = .error e r := rfl

theorem pure_run {α : Type} (a : α) (r : Registry) : (pure a : CodecM α).run r = .ok a r := rfl

/-- A codec failure tried by a union moves on to the next member. -/
theorem orElse_run_error {α : Type} {act : CodecM α} {alt : Unit → CodecM α} {r r' : Registry}
    {e : Failure} (failed : act.run r = .error e r') (codec : e.isCodec = true) :
    (orElse act alt).run r = (alt ()).run r' := by
  rw [orElse, tryCatch_run, failed]
  simp [codec]

theorem orElse_run_ok {α : Type} {act : CodecM α} {alt : Unit → CodecM α} {r r' : Registry}
    {a : α} (ran : act.run r = .ok a r') : (orElse act alt).run r = .ok a r' := by
  rw [orElse, tryCatch_run, ran]

theorem within_run_ok {α : Type} {act : CodecM α} {s : PathStep} {r r' : Registry} {a : α}
    (ran : act.run r = .ok a r') : (within s act).run r = .ok a r' := by
  rw [within, tryCatch_run, ran]

mutual

/-- A codec that does not take a value refuses it with a codec failure, touching nothing. -/
theorem encode_refused : ∀ (c : Codec) (v : Value) (r : Registry), c.takes v = false →
    (encode c v).run r = .error (.encode Option.none) r
  | .union cs, v, r, refused => by
    rw [encode.eq_1]
    exact encodeUnion_refused cs v r refused
  | .record cls, v, r, refused => by
    cases v with
    | record c fs =>
      have other : (c == cls) = false := by simpa [takes, Value.kind] using refused
      simp [encode, other, throw_run]
    | _ => simp [encode, throw_run]
  | .str, v, r, refused | .int, v, r, refused | .bool, v, r, refused | .none, v, r, refused
  | .status, v, r, refused | .time, v, r, refused | .list _, v, r, refused => by
    cases v <;> simp_all [takes, Value.kind, encode, throw_run]

/-- A union whose members all refuse a value refuses it, touching nothing. -/
theorem encodeUnion_refused : ∀ (cs : List Codec) (v : Value) (r : Registry), takesAny cs v = false →
    (encodeUnion cs v).run r = .error (.encode Option.none) r
  | [], v, r, _ => by rw [encodeUnion.eq_1]; rfl
  | c :: cs, v, r, refused => by
    simp only [takesAny, Bool.or_eq_false_iff] at refused
    rw [encodeUnion.eq_2, orElse_run_error (encode_refused c v r refused.1) rfl]
    exact encodeUnion_refused cs v r refused.2

end

mutual

/-- A codec that does not read a document's class refuses it with a codec failure, touching
nothing. -/
theorem decode_refused : ∀ (c : Codec) (j : Json) (r : Registry), c.reads j.className = false →
    (decode c j).run r = .error (.decode Option.none) r
  | .union cs, j, r, refused => by
    rw [decode.eq_1]
    exact decodeUnion_refused cs j r refused
  | .status, j, r, refused => by
    cases j <;> simp_all [reads, Json.className, decode, statusOf?, throw_run]
  | .str, j, r, refused | .int, j, r, refused | .bool, j, r, refused | .none, j, r, refused
  | .time, j, r, refused | .list _, j, r, refused | .record _, j, r, refused => by
    cases j <;> simp_all [reads, Json.className, decode, throw_run]

/-- A union whose members all refuse a document refuses it, touching nothing. -/
theorem decodeUnion_refused : ∀ (cs : List Codec) (j : Json) (r : Registry),
    readsAny cs j.className = false → (decodeUnion cs j).run r = .error (.decode Option.none) r
  | [], j, r, _ => by rw [decodeUnion.eq_1]; rfl
  | c :: cs, j, r, refused => by
    simp only [readsAny, Bool.or_eq_false_iff] at refused
    rw [decodeUnion.eq_2, orElse_run_error (decode_refused c j r refused.1) rfl]
    exact decodeUnion_refused cs j r refused.2

end

mutual

/-- A codec reads a document of none exactly when it takes none. -/
theorem reads_null : ∀ c : Codec, c.reads "NoneType" = c.takes .none
  | .union cs => readsAny_null cs
  | .str | .int | .bool | .none | .status | .time | .list _ | .record _ => rfl

theorem readsAny_null : ∀ cs : List Codec, readsAny cs "NoneType" = takesAny cs .none
  | [] => rfl
  | c :: cs => by rw [readsAny, takesAny, reads_null c, readsAny_null cs]

end

mutual

/-- A codec that takes none writes it as null. -/
theorem encode_none : ∀ (c : Codec) (r : Registry), c.takes .none = true →
    (encode c .none).run r = .ok .null r
  | .union cs, r, taken => by
    rw [encode.eq_1]
    exact encodeUnion_none cs r taken
  | .none, r, _ => by simp only [encode]; rfl
  | .str, _, taken | .int, _, taken | .bool, _, taken | .status, _, taken | .time, _, taken
  | .list _, _, taken | .record _, _, taken => by simp [takes, Value.kind] at taken

theorem encodeUnion_none : ∀ (cs : List Codec) (r : Registry), takesAny cs .none = true →
    (encodeUnion cs .none).run r = .ok .null r
  | [], _, taken => by simp [takesAny] at taken
  | c :: cs, r, taken => by
    rw [encodeUnion.eq_2]
    cases first : c.takes .none with
    | true => exact orElse_run_ok (encode_none c r first)
    | false =>
      rw [orElse_run_error (encode_refused c .none r first) rfl]
      exact encodeUnion_none cs r (by simpa [takesAny, first] using taken)

end

mutual

/-- A codec that takes none reads null as none. -/
theorem decode_null : ∀ (c : Codec) (r : Registry), c.takes .none = true →
    (decode c .null).run r = .ok .none r
  | .union cs, r, taken => by
    rw [decode.eq_1]
    exact decodeUnion_null cs r taken
  | .none, r, _ => by simp only [decode]; rfl
  | .str, _, taken | .int, _, taken | .bool, _, taken | .status, _, taken | .time, _, taken
  | .list _, _, taken | .record _, _, taken => by simp [takes, Value.kind] at taken

theorem decodeUnion_null : ∀ (cs : List Codec) (r : Registry), takesAny cs .none = true →
    (decodeUnion cs .null).run r = .ok .none r
  | [], _, taken => by simp [takesAny] at taken
  | c :: cs, r, taken => by
    rw [decodeUnion.eq_2]
    cases first : c.takes .none with
    | true => exact orElse_run_ok (decode_null c r first)
    | false =>
      rw [orElse_run_error (decode_refused c .null r (by rw [← reads_null c] at first; exact first))
        rfl]
      exact decodeUnion_null cs r (by simpa [takesAny, first] using taken)

end

/-! ## The trip -/

/-- Reading a document by a codec gives `w` from every sound registry, which stays sound. -/
def ReadsBack (c : Codec) (j : Json) (w : Value) : Prop :=
  ∀ r : Registry, r.Sound → ∃ r', (decode c j).run r = .ok w r' ∧ r'.Sound

/-- Writing `v` by `c` and reading the document back by `c'`. -/
def Trip (c c' : Codec) (v : Value) : Prop :=
  ∀ r : Registry, r.Sound → ∃ j r', (encode c v).run r = .ok j r' ∧ r'.Sound ∧ Json.Readable j ∧
    j.className = v.jsonClass ∧ ReadsBack c' j v.toUtc

/-- A step that leaves the registry as it is and gives a result. -/
theorem ReadsBack.of_run {c : Codec} {j : Json} {w : Value}
    (ran : ∀ r : Registry, (decode c j).run r = .ok w r) : ReadsBack c j w :=
  fun r sound => ⟨r, ran r, sound⟩

theorem Trip.of_run {c c' : Codec} {v : Value} {j : Json}
    (written : ∀ r : Registry, (encode c v).run r = .ok j r) (readable : Json.Readable j)
    (cls : j.className = v.jsonClass) (read : ∀ r : Registry, (decode c' j).run r = .ok v.toUtc r) :
    Trip c c' v :=
  fun r sound => ⟨j, r, written r, sound, readable, cls, ReadsBack.of_run read⟩

theorem trip_str {s : String} (apart : Text.PairsApart s.toList) : Trip .str .str (.str s) :=
  Trip.of_run (fun _ => by simp only [encode]; rfl) (.str s apart) rfl
    (fun _ => by simp only [decode]; rfl)

theorem trip_int {i : Int} (short : (Nat.toDigits 10 i.natAbs).length ≤ Json.maxIntDigits) :
    Trip .int .int (.int i) :=
  Trip.of_run (fun _ => by simp only [encode]; rfl) (.int i short) rfl
    (fun _ => by simp only [decode]; rfl)

theorem trip_bool (b : Bool) : Trip .bool .bool (.bool b) :=
  Trip.of_run (fun _ => by simp only [encode]; rfl) (.bool b) rfl
    (fun _ => by simp only [decode]; rfl)

/-- A status is written as its code and read back from it. -/
theorem trip_status (s : TaskStatus) : Trip .status .status (.status s) := by
  have short : (Nat.toDigits 10 (s.code : Int).natAbs).length ≤ Json.maxIntDigits := by
    cases s <;> decide
  have coded : TaskStatus.ofCode? (s.code : Int) = some s := by cases s <;> rfl
  exact Trip.of_run (fun _ => by simp only [encode]; rfl) (.int _ short) rfl fun r => by
    simp [decode, statusOf?, coded, Value.toUtc]

/-- Codecs that take none write it as null and read null back as none. -/
theorem trip_none {c c' : Codec} (taken : c.takes .none = true) (taken' : c'.takes .none = true) :
    Trip c c' .none :=
  Trip.of_run (encode_none c · taken) .null rfl (decode_null c' · taken')

/-- Every character of a numeral is ASCII. -/
theorem pad_below (k n : Nat) : ∀ c ∈ (DateTime.pad k n).toList, c.toNat < 0xD800 := by
  intro c mem
  rw [pad_toList] at mem
  rcases List.mem_append.mp mem with zero | digit
  · rw [List.eq_of_mem_replicate zero]
    decide
  · have := Nat.isDigit_of_mem_toDigits (by decide) (by decide) digit
    simp only [Char.isDigit, Bool.and_eq_true, decide_eq_true_eq] at this
    have : c.toNat ≤ 57 := this.2
    omega

/-- Every character of a stamp is ASCII. -/
theorem stampChars_below (u : DateTime) : ∀ c ∈ stampChars u, c.toNat < 0xD800 := by
  intro c mem
  simp only [stampChars, stampFields, List.mem_append, List.mem_cons, List.not_mem_nil, or_false,
    or_assoc] at mem
  rcases mem with h | rfl | h | rfl | h | rfl | h | rfl | h | rfl | h | rfl | h | rfl
  all_goals first | exact pad_below _ _ c h | decide

/-- A timestamp on the calendar is written as its stamp and read back as its UTC reading. -/
theorem trip_time {t : DateTime} (onCalendar : DateTime.inRange t.utcWall) :
    Trip .time .time (.time t) := by
  obtain ⟨s, written, chars⟩ := encode_time onCalendar
  have apart : Text.PairsApart s.toList := chars ▸ Text.pairsApart_of_below (stampChars_below _)
  refine Trip.of_run (fun r => by rw [written]; rfl) (.str s apart) rfl fun r => ?_
  simp [decode, DateTime.readBroad?_stamp onCalendar chars, Value.toUtc]

/-! ## Lists -/

/-- Items each written by one codec and read back by another. -/
theorem encodeItems_trip {item item' : Codec} :
    ∀ (xs : List Value) (i : Nat) (r : Registry), r.Sound → (∀ x ∈ xs, Trip item item' x) →
      ∃ js r', (encodeItems item xs i).run r = .ok js r' ∧ r'.Sound ∧ (∀ j ∈ js, Json.Readable j) ∧
        List.Forall₂ (fun x j => ReadsBack item' j x.toUtc) xs js
  | [], i, r, sound, _ => ⟨[], r, by rw [encodeItems.eq_1]; rfl, sound, by simp, .nil⟩
  | x :: xs, i, r, sound, trips => by
    obtain ⟨j, r₁, written, sound₁, readable, -, read⟩ := trips x List.mem_cons_self r sound
    obtain ⟨js, r₂, rest, sound₂, readables, each⟩ := encodeItems_trip xs (i + 1) r₁ sound₁
      fun y mem => trips y (List.mem_cons_of_mem x mem)
    refine ⟨j :: js, r₂, ?_, sound₂, ?_, .cons read each⟩
    · rw [encodeItems.eq_2, Sql.bind_run_ok (within_run_ok written), Sql.bind_run_ok rest]
      rfl
    · intro j' mem
      rcases List.mem_cons.mp mem with rfl | mem
      · exact readable
      · exact readables j' mem

theorem decodeItems_trip {item : Codec} {xs : List Value} {js : List Json}
    (read : List.Forall₂ (fun x j => ReadsBack item j x.toUtc) xs js) :
    ∀ (i : Nat) (r : Registry), r.Sound →
      ∃ r', (decodeItems item js i).run r = .ok (xs.map Value.toUtc) r' ∧ r'.Sound := by
  induction read with
  | nil => exact fun i r sound => ⟨r, by rw [decodeItems.eq_1]; rfl, sound⟩
  | @cons x j xs js first _ ih =>
    intro i r sound
    obtain ⟨r₁, head, sound₁⟩ := first r sound
    obtain ⟨r₂, more, sound₂⟩ := ih (i + 1) r₁ sound₁
    refine ⟨r₂, ?_, sound₂⟩
    rw [decodeItems.eq_2, Sql.bind_run_ok (within_run_ok head), Sql.bind_run_ok more]
    rfl

/-- A list makes the trip when its items do. -/
theorem trip_list {item item' : Codec} {xs : List Value} (items : ∀ x ∈ xs, Trip item item' x) :
    Trip (.list item) (.list item') (.list xs) := by
  intro r sound
  obtain ⟨js, r', written, sound', readable, each⟩ := encodeItems_trip xs 0 r sound items
  refine ⟨.arr js, r', ?_, sound', .arr js readable, rfl, fun r₁ sound₁ => ?_⟩
  · rw [encode.eq_def]
    simp only
    rw [Sql.bind_run_ok written]
    rfl
  · obtain ⟨r₂, read, sound₂⟩ := decodeItems_trip each 0 r₁ sound₁
    refine ⟨r₂, ?_, sound₂⟩
    rw [decode.eq_14, Sql.bind_run_ok read]
    simp [Value.toUtc]

/-! ## Unions -/

theorem encodeUnion_skip {pre rest : List Codec} {v : Value} (refused : ∀ d ∈ pre, d.takes v = false)
    (r : Registry) : (encodeUnion (pre ++ rest) v).run r = (encodeUnion rest v).run r := by
  induction pre with
  | nil => rfl
  | cons d pre ih =>
    rw [List.cons_append, encodeUnion.eq_2,
      orElse_run_error (encode_refused d v r (refused d List.mem_cons_self)) rfl]
    exact ih fun d' mem => refused d' (List.mem_cons_of_mem d mem)

theorem decodeUnion_skip {pre rest : List Codec} {j : Json}
    (refused : ∀ d ∈ pre, d.reads j.className = false) (r : Registry) :
    (decodeUnion (pre ++ rest) j).run r = (decodeUnion rest j).run r := by
  induction pre with
  | nil => rfl
  | cons d pre ih =>
    rw [List.cons_append, decodeUnion.eq_2,
      orElse_run_error (decode_refused d j r (refused d List.mem_cons_self)) rfl]
    exact ih fun d' mem => refused d' (List.mem_cons_of_mem d mem)

/-- A union makes the trip through the first member that takes the value, when the members
before the one that reads it back refuse its document. -/
theorem trip_union {pre post pre' post' : List Codec} {c c' : Codec} {v : Value}
    (refused : ∀ d ∈ pre, d.takes v = false) (passed : ∀ d ∈ pre', d.reads v.jsonClass = false)
    (trip : Trip c c' v) : Trip (.union (pre ++ c :: post)) (.union (pre' ++ c' :: post')) v := by
  intro r sound
  obtain ⟨j, r₁, written, sound₁, readable, cls, read⟩ := trip r sound
  refine ⟨j, r₁, ?_, sound₁, readable, cls, fun r₂ sound₂ => ?_⟩
  · rw [encode.eq_1, encodeUnion_skip refused, encodeUnion.eq_2]
    exact orElse_run_ok written
  · obtain ⟨r₃, first, sound₃⟩ := read r₂ sound₂
    refine ⟨r₃, ?_, sound₃⟩
    rw [decode.eq_1, decodeUnion_skip (cls ▸ passed), decodeUnion.eq_2]
    exact orElse_run_ok first

/-! ## Records -/

/-- What a record's field value needs for the trip: a none that reads back as none when its
member is absent, or a value that every two codecs of the field's key carry. -/
def FieldTrips (f : Field) (x : Value) : Prop :=
  (x = .none ∧ f.absentReadsNone = true) ∨
    (x.isNone = false ∧ ∀ c c', BuiltForKey f.hint.key c → BuiltForKey f.hint.key c' → Trip c c' x)

/-- One writer and a family of readers that each make the trip with it: the writer's document is
one, and every reader of the family reads it back. -/
theorem Trip.common {c c₀ : Codec} {v : Value} {Reader : Codec → Prop}
    (trips : ∀ c', Reader c' → Trip c c' v) (inhabited : Reader c₀) {r : Registry} (sound : r.Sound) :
    ∃ j r', (encode c v).run r = .ok j r' ∧ r'.Sound ∧ Json.Readable j ∧
      j.className = v.jsonClass ∧ ∀ c', Reader c' → ReadsBack c' j v.toUtc := by
  obtain ⟨j, r', written, sound', readable, cls, -⟩ := trips c₀ inhabited r sound
  refine ⟨j, r', written, sound', readable, cls, fun c' reader => ?_⟩
  -- the reader's own trip writes the same document, the writer being one and the same
  obtain ⟨j', r'', written', -, -, -, read⟩ := trips c' reader r sound
  rw [written] at written'
  cases written'
  exact read

/-- Codecs built for hints with the keys of `hs`, one for each hint in order. -/
theorem buildAll_forall₂ :
    ∀ {hs hs' : List Hint} {cs : List Codec}, Hint.keys hs' = Hint.keys hs → buildAll hs' = some cs →
      List.Forall₂ (fun h c => BuiltForKey h.key c) hs cs
  | [], [], cs, _, built => by
    simp only [buildAll, Option.some.injEq] at built
    rw [← built]
    exact .nil
  | [], _ :: _, _, keys, _ => by simp [Hint.keys] at keys
  | _ :: _, [], _, keys, _ => by simp [Hint.keys] at keys
  | h :: hs, h' :: hs', cs, keys, built => by
    simp only [Hint.keys, List.cons.injEq] at keys
    obtain ⟨c, first, cs', rest, rfl⟩ : ∃ c, build h' = some c ∧ ∃ cs', buildAll hs' = some cs' ∧
        cs = c :: cs' := by
      cases first : build h' <;> cases rest : buildAll hs' <;> simp_all [buildAll]
    exact .cons ⟨h', keys.1, first⟩ (buildAll_forall₂ keys.2 rest)

/-- The codecs of a record's fields, one for each field in order, each built for a hint with its
field's key. -/
theorem fieldCodecs_forall₂ (cls : RecordClass) {r : Registry} (sound : r.Sound) :
    ∃ cs r₁, (fieldCodecs cls).run r = .ok cs r₁ ∧ r₁.Sound ∧
      List.Forall₂ (fun f c => BuiltForKey f.hint.key c) cls.fields cs := by
  obtain ⟨cs, r₁, ran⟩ := getAll_ok (cls.fields.map (·.hint))
    (buildAll_isSome (by simpa using fields_buildable cls)) r
  obtain ⟨sound₁, hs', keys, built⟩ := (getAll_keeps _ sound).1 cs r₁ ran
  have paired := buildAll_forall₂ keys built
  rw [List.forall₂_map_left_iff] at paired
  exact ⟨cs, r₁, ran, sound₁, paired⟩

/-- The members a record's fields are written as, field by field: nothing for a field that is
none, and for any other its name with a readable document that every codec of the field's key
reads back as the value. -/
inductive Written : List Field → List (String × Value) → List (String × Json) → Prop
  | nil : Written [] [] []
  | skip {f : Field} {fields fs ms} : Written fields fs ms →
      Written (f :: fields) ((f.name, .none) :: fs) ms
  | write {f : Field} {fields fs ms} {x : Value} {j : Json} : x.isNone = false → Json.Readable j →
      (∀ c', BuiltForKey f.hint.key c' → ReadsBack c' j x.toUtc) → Written fields fs ms →
      Written (f :: fields) ((f.name, x) :: fs) ((f.name, j) :: ms)

theorem encodeFields_written {fields : List Field} {cs : List Codec}
    (codecs : List.Forall₂ (fun f c => BuiltForKey f.hint.key c) fields cs) :
    ∀ {fs : List (String × Value)},
      List.Forall₂ (fun f p => p.1 = f.name ∧ FieldTrips f p.2) fields fs →
      ∀ r : Registry, r.Sound →
        ∃ ms r', (encodeFields cs fs).run r = .ok ms r' ∧ r'.Sound ∧ Written fields fs ms := by
  induction codecs with
  | nil =>
    intro fs aligned r sound
    cases aligned
    exact ⟨[], r, by rw [encodeFields.eq_2 _ _ (by simp)]; rfl, sound, .nil⟩
  | @cons f c fields cs built codecs ih =>
    intro fs aligned r sound
    obtain _ | @⟨_, ⟨n, x⟩, _, fs, ⟨named, trips⟩, rest⟩ := aligned
    subst named
    rcases trips with ⟨rfl, -⟩ | ⟨kept, trips⟩
    · obtain ⟨ms, r', more, sound', written⟩ := ih rest r sound
      refine ⟨ms, r', ?_, sound', .skip written⟩
      have absent : Value.none.isNone = true := rfl
      rw [encodeFields.eq_1, if_pos absent, Sql.bind_run_ok (pure_run _ r), Sql.bind_run_ok more]
      rfl
    · obtain ⟨j, r₁, first, sound₁, readable, -, read⟩ :=
        Trip.common (trips c · built) built sound
      obtain ⟨ms, r₂, more, sound₂, written⟩ := ih rest r₁ sound₁
      refine ⟨(f.name, j) :: ms, r₂, ?_, sound₂, .write kept readable read written⟩
      rw [encodeFields.eq_1, if_neg (by simp [kept]), Sql.bind_run_ok (within_run_ok first),
        Sql.bind_run_ok (pure_run _ r₁), Sql.bind_run_ok more]
      rfl

theorem Written.readable {fields : List Field} {fs : List (String × Value)}
    {ms : List (String × Json)} (written : Written fields fs ms) : ∀ m ∈ ms, Json.Readable m.2 := by
  induction written with
  | nil => simp
  | skip _ ih => exact ih
  | write _ readable _ _ ih =>
    intro m mem
    rcases List.mem_cons.mp mem with rfl | mem
    · exact readable
    · exact ih m mem

theorem Written.names_sublist {fields : List Field} {fs : List (String × Value)}
    {ms : List (String × Json)} (written : Written fields fs ms) :
    (ms.map Prod.fst).Sublist (fields.map Field.name) := by
  induction written with
  | nil => exact .slnil
  | skip _ ih => exact ih.cons _
  | write _ _ _ _ ih => exact ih.cons_cons _

/-- What the members hold for one field: no member of its name when the value is none, and
otherwise a first member of its name whose document every codec of the field's key reads back
as the value. -/
def Found (ms : List (String × Json)) (f : Field) (x : Value) : Prop :=
  (x = .none ∧ ms.find? (·.1 == f.name) = Option.none) ∨
    (x.isNone = false ∧ ∃ j, ms.find? (·.1 == f.name) = some (f.name, j) ∧
      ∀ c', BuiltForKey f.hint.key c' → ReadsBack c' j x.toUtc)

theorem Found.cons_other {ms : List (String × Json)} {f : Field} {x : Value} {k : String} {j : Json}
    (other : k ≠ f.name) (found : Found ms f x) : Found ((k, j) :: ms) f x := by
  have skipped : ((k, j) :: ms).find? (·.1 == f.name) = ms.find? (·.1 == f.name) := by
    simp [other]
  rw [Found, skipped]
  exact found

/-- A relation that holds pairwise holds of each member of the left list with a member of the
right. -/
theorem forall₂_mem_left {α β : Type} {R : α → β → Prop} {a : α} :
    ∀ {l : List α} {u : List β}, List.Forall₂ R l u → a ∈ l → ∃ b ∈ u, R a b
  | _, _, .nil, mem => by simp at mem
  | _, _, .cons here rest, mem => by
    rcases List.mem_cons.mp mem with rfl | mem
    · exact ⟨_, List.mem_cons_self, here⟩
    · obtain ⟨b, inside, related⟩ := forall₂_mem_left rest mem
      exact ⟨b, List.mem_cons_of_mem _ inside, related⟩

/-- Under distinct field names, the written members hold each field as `Found` says. -/
theorem Written.found {fields : List Field} {fs : List (String × Value)} {ms : List (String × Json)}
    (written : Written fields fs ms) (names : (fields.map Field.name).Nodup) :
    List.Forall₂ (fun f p => Found ms f p.2) fields fs := by
  induction written with
  | nil => exact .nil
  | @skip f fields fs ms rest ih =>
    rw [List.map_cons, List.nodup_cons] at names
    refine .cons (.inl ⟨rfl, List.find?_eq_none.mpr fun m mem named => ?_⟩) (ih names.2)
    have listed : m.1 ∈ fields.map Field.name :=
      rest.names_sublist.subset (List.mem_map_of_mem mem)
    have same : m.1 = f.name := beq_iff_eq.mp named
    exact names.1 (same ▸ listed)
  | @write f fields fs ms x j kept _ read rest ih =>
    rw [List.map_cons, List.nodup_cons] at names
    have first : ((f.name, j) :: ms).find? (·.1 == f.name) = some (f.name, j) := by simp
    refine .cons (.inr ⟨kept, j, first, read⟩) ?_
    -- the other fields' names differ from this one's, so its member does not hide theirs
    have others : List.Forall₂ (fun g p => g.name ≠ f.name ∧ Found ms g p.2) fields fs :=
      (List.forall₂_and_left _ _).mpr
        ⟨fun g mem same => names.1 (same ▸ List.mem_map_of_mem mem), ih names.2⟩
    exact others.imp fun g _ ⟨other, found⟩ => found.cons_other (Ne.symm other)

theorem decodeMember_absent {f : Field} {c : Codec} :
    ∀ {ms : List (String × Json)}, ms.find? (·.1 == f.name) = Option.none → ∀ r : Registry,
      (decodeMember f c ms).run r =
        .ok (if f.hint.optional && f.default.isNone then [(f.name, .none)] else []) r
  | [], _, r => by rw [decodeMember.eq_1]; rfl
  | (k, x) :: ms, absent, r => by
    have other : (k == f.name) = false := by
      cases named : k == f.name
      · rfl
      · simp [named] at absent
    rw [decodeMember.eq_2, if_neg (by simp [other])]
    exact decodeMember_absent (by simpa [other] using absent) r

theorem decodeMember_found {f : Field} {c : Codec} {j : Json} {w : Value} (read : ReadsBack c j w) :
    ∀ {ms : List (String × Json)}, ms.find? (·.1 == f.name) = some (f.name, j) →
      ∀ r : Registry, r.Sound → ∃ r', (decodeMember f c ms).run r = .ok [(f.name, w)] r' ∧ r'.Sound
  | [], found, _, _ => by simp at found
  | (k, x) :: ms, found, r, sound => by
    by_cases named : k = f.name
    · -- the first member of the field's name is this one
      subst named
      have same : x = j := by simpa using found
      subst same
      obtain ⟨r', first, sound'⟩ := read r sound
      refine ⟨r', ?_, sound'⟩
      rw [decodeMember.eq_2, if_pos (by simp), Sql.bind_run_ok (within_run_ok first)]
      rfl
    · rw [decodeMember.eq_2, if_neg (by simpa using named)]
      exact decodeMember_found read (by simpa [named] using found) r sound

/-- The arguments a field is read back as: a field that is none is read as none when it admits
none and has no default, and is left out otherwise; any other field is read as its value in
UTC. -/
def readField (f : Field) (x : Value) : List (String × Value) :=
  if x.isNone then (if f.hint.optional && f.default.isNone then [(f.name, .none)] else [])
  else [(f.name, x.toUtc)]

/-- The arguments a record's members are read back as, field by field. -/
def readFields : List Field → List (String × Value) → List (String × Value)
  | f :: fields, (_, x) :: fs => readField f x ++ readFields fields fs
  | _, _ => []

theorem decodeMember_readField {ms : List (String × Json)} {f : Field} {c : Codec} {x : Value}
    (found : Found ms f x) (built : BuiltForKey f.hint.key c) {r : Registry} (sound : r.Sound) :
    ∃ r', (decodeMember f c ms).run r = .ok (readField f x) r' ∧ r'.Sound := by
  rcases found with ⟨rfl, absent⟩ | ⟨kept, j, first, read⟩
  · exact ⟨r, decodeMember_absent absent r, sound⟩
  · obtain ⟨r', ran, sound'⟩ := decodeMember_found (read c built) first r sound
    refine ⟨r', ?_, sound'⟩
    rw [ran, readField, if_neg (by simp [kept])]

theorem decodeFields_read {ms : List (String × Json)} {fields : List Field} {cs : List Codec}
    (codecs : List.Forall₂ (fun f c => BuiltForKey f.hint.key c) fields cs) :
    ∀ {fs : List (String × Value)}, List.Forall₂ (fun f p => Found ms f p.2) fields fs →
      ∀ r : Registry, r.Sound →
        ∃ r', (decodeFields (fields.zip cs) ms).run r = .ok (readFields fields fs) r' ∧ r'.Sound := by
  induction codecs with
  | nil =>
    intro fs found r sound
    cases found
    exact ⟨r, by rw [List.zip_nil_left, decodeFields.eq_1]; rfl, sound⟩
  | @cons f c fields cs built codecs ih =>
    intro fs found r sound
    obtain _ | @⟨_, ⟨n, x⟩, _, fs, here, rest⟩ := found
    obtain ⟨r₁, first, sound₁⟩ := decodeMember_readField here built sound
    obtain ⟨r₂, more, sound₂⟩ := ih rest r₁ sound₁
    refine ⟨r₂, ?_, sound₂⟩
    rw [List.zip_cons_cons, decodeFields.eq_2, Sql.bind_run_ok first, Sql.bind_run_ok more]
    rfl

/-! ## Building the record read back -/

theorem readField_names (f : Field) (x : Value) : ((readField f x).map Prod.fst).Sublist [f.name] := by
  unfold readField
  split
  · split
    · exact .refl _
    · exact List.nil_sublist _
  · exact .refl _

theorem readFields_names : ∀ (fields : List Field) (fs : List (String × Value)),
    ((readFields fields fs).map Prod.fst).Sublist (fields.map Field.name)
  | f :: fields, (_, x) :: fs => by
    rw [readFields, List.map_append, List.map_cons]
    exact (readField_names f x).append (readFields_names fields fs)
  | [], _ => by simp [readFields]
  | _ :: _, [] => by simp [readFields]

/-- Under distinct names, each field is looked up among the arguments read back as among its
own. -/
theorem lookup_readFields {R : Field → String × Value → Prop} {fields : List Field}
    {fs : List (String × Value)} (aligned : List.Forall₂ R fields fs)
    (names : (fields.map Field.name).Nodup) :
    List.Forall₂ (fun f p => R f p ∧ Value.lookup (readFields fields fs) f.name =
      Value.lookup (readField f p.2) f.name) fields fs := by
  induction aligned with
  | nil => exact .nil
  | @cons f p fields fs related rest ih =>
    obtain ⟨n, x⟩ := p
    rw [List.map_cons, List.nodup_cons] at names
    refine .cons ⟨related, ?_⟩ ?_
    · have unread : ∀ a ∈ readFields fields fs, a.1 ≠ f.name := fun a mem same =>
        names.1 (same ▸ (readFields_names fields fs).subset (List.mem_map_of_mem mem))
      rw [readFields, Value.lookup_append, Value.lookup_eq_none_iff.2 unread, Option.or_none]
    · -- the other fields' names differ from this one's, so its argument does not hide theirs
      have others : List.Forall₂ (fun g q => g.name ≠ f.name ∧ R g q ∧
          Value.lookup (readFields fields fs) g.name = Value.lookup (readField g q.2) g.name)
          fields fs :=
        (List.forall₂_and_left _ _).mpr
          ⟨fun g mem same => names.1 (same ▸ List.mem_map_of_mem mem), ih names.2⟩
      refine others.imp fun g q ⟨other, related', looked⟩ => ⟨related', ?_⟩
      have unwritten : Value.lookup (readField f x) g.name = Option.none :=
        Value.lookup_eq_none_iff.2 fun a mem same =>
          other (same.symm.trans (List.mem_singleton.mp
            ((readField_names f x).subset (List.mem_map_of_mem mem))))
      rw [readFields, Value.lookup_append, unwritten, Option.none_or]
      exact looked

/-- A field read from its argument, else its default, else none, is its value in UTC. -/
theorem readField_value {f : Field} {x : Value} (trips : FieldTrips f x) :
    (Value.lookup (readField f x) f.name).getD (f.default.getD .none) = x.toUtc := by
  obtain ⟨name, hint, _ | d⟩ := f
  · rcases trips with ⟨rfl, absent⟩ | ⟨kept, -⟩
    · simp_all [readField, Field.absentReadsNone, Value.toUtc, Value.isNone]
    · simp [readField, kept]
  · rcases trips with ⟨rfl, absent⟩ | ⟨kept, -⟩
    · -- the default is none
      cases d <;> simp_all [readField, Field.absentReadsNone, Value.toUtc, Value.isNone]
    · simp [readField, kept]

/-- A field with no default is named among the arguments its value is read back as. -/
theorem readField_named {f : Field} {x : Value} (trips : FieldTrips f x)
    (noDefault : f.default.isNone = true) : f.name ∈ (readField f x).map Prod.fst := by
  obtain ⟨name, hint, _ | d⟩ := f
  · rcases trips with ⟨rfl, absent⟩ | ⟨kept, -⟩
    · simp_all [readField, Field.absentReadsNone, Value.isNone]
    · simp [readField, kept]
  · simp at noDefault

theorem fieldNames_nodup (cls : RecordClass) : (cls.fields.map Field.name).Nodup := by
  cases cls <;> decide

theorem self_not_field (cls : RecordClass) : "self" ∉ cls.fields.map Field.name := by
  cases cls <;> decide

theorem fieldNames_apart (cls : RecordClass) : ∀ f ∈ cls.fields, Text.PairsApart f.name.toList := by
  cases cls <;> decide

/-- The arguments read back build the record of the values written, with its timestamps in UTC,
when the class's check passes on them. -/
theorem make_readFields {cls : RecordClass} {fs : List (String × Value)}
    (aligned : List.Forall₂ (fun f p => p.1 = f.name ∧ FieldTrips f p.2) cls.fields fs)
    (checked : cls.postInit (Value.toUtcFields fs) = .ok (Value.toUtcFields fs)) :
    cls.make (readFields cls.fields fs) = .ok (.record cls (Value.toUtcFields fs)) := by
  have each := lookup_readFields aligned (fieldNames_nodup cls)
  have declared : ∀ a ∈ readFields cls.fields fs, a.1 ∈ cls.fields.map Field.name :=
    fun a mem => (readFields_names cls.fields fs).subset (List.mem_map_of_mem mem)
  -- each field takes the value it was written with
  have values : (cls.fields.map fun f => (f.name,
      (Value.lookup (readFields cls.fields fs) f.name).getD (f.default.getD .none))) =
      Value.toUtcFields fs := by
    have mapped : List.Forall₂ (· = ·)
        (cls.fields.map fun f => (f.name,
          (Value.lookup (readFields cls.fields fs) f.name).getD (f.default.getD .none)))
        (fs.map fun p => (p.1, p.2.toUtc)) :=
      List.forall₂_map_left_iff.mpr (List.forall₂_map_right_iff.mpr
        (each.imp fun f p ⟨⟨named, trips⟩, looked⟩ => by rw [looked, readField_value trips, named]))
    rw [List.forall₂_eq_eq_eq] at mapped
    rw [mapped, Value.toUtcFields_eq]
  -- each field with no default is named
  have named : ∀ f ∈ cls.fields, f.default.isNone = true →
      f.name ∈ (readFields cls.fields fs).map Prod.fst := by
    intro f mem noDefault
    obtain ⟨p, -, ⟨-, trips⟩, looked⟩ := forall₂_mem_left each mem
    have present : Value.lookup (readField f p.2) f.name ≠ Option.none := fun absent =>
      (List.mem_map.mp (readField_named trips noDefault)).elim fun a ⟨mem, same⟩ =>
        Value.lookup_eq_none_iff.1 absent a mem same
    rw [← looked] at present
    by_contra unnamed
    exact present (Value.lookup_eq_none_iff.2 fun a mem same =>
      unnamed (same ▸ List.mem_map_of_mem mem))
  by_cases keyword : cls.keywordOnly = true
  · have complete : (cls.fields.filter fun f => f.required ∧
        f.name ∉ (readFields cls.fields fs).map Prod.fst).map Field.name = [] := by
      rw [List.map_eq_nil_iff, List.filter_eq_nil_iff]
      intro f mem chosen
      simp only [decide_eq_true_eq] at chosen
      have noDefault : f.default.isNone = true := by
        simp only [Field.required, Bool.and_eq_true] at chosen
        exact chosen.1.2
      exact chosen.2 (named f mem noDefault)
    have unnamed : "self" ∉ (readFields cls.fields fs).map Prod.fst := fun clash =>
      self_not_field cls ((readFields_names cls.fields fs).subset clash)
    rw [RecordClass.make_keywordOnly keyword, keywordInit_given unnamed declared complete, values,
      checked]
    rfl
  · -- a plain record takes no check, and needs only the fields with no default named
    have complete : (cls.fields.filter fun f =>
        f.positional && !(readFields cls.fields fs).any (·.1 == f.name)) = [] := by
      rw [List.filter_eq_nil_iff]
      intro f mem chosen
      simp only [Bool.and_eq_true] at chosen
      have given := (any_key_iff f.name).mpr (named f mem chosen.1)
      simp [given] at chosen
    have built : RecordClass.fieldValues cls.fields (readFields cls.fields fs) =
        Value.toUtcFields fs := values
    rw [RecordClass.make, if_neg keyword, find?_unknown_eq_none declared]
    simp only [complete, built, List.map_nil, List.isEmpty_nil, Bool.not_true, Bool.false_eq_true,
      if_false]
    rfl

/-- An object document holds the fields of a record of a class: JSON text carries it, and each
declared field, paired in order with the record's field, is found in it as that field's value. -/
structure Holds (cls : RecordClass) (ms : List (String × Json)) (fs : List (String × Value)) :
    Prop where
  readable : Json.Readable (.obj ms)
  found : List.Forall₂ (fun f p => p.1 = f.name ∧ Found ms f p.2) cls.fields fs

/-- A record's codec writes a record whose fields make the trip as an object document holding
them. -/
theorem encode_record_holds {cls : RecordClass} {fs : List (String × Value)}
    (aligned : List.Forall₂ (fun f p => p.1 = f.name ∧ FieldTrips f p.2) cls.fields fs)
    {r : Registry} (sound : r.Sound) :
    ∃ ms r', (encode (.record cls) (.record cls fs)).run r = .ok (.obj ms) r' ∧ r'.Sound ∧
      Holds cls ms fs := by
  obtain ⟨cs, r₁, codecs, sound₁, built⟩ := fieldCodecs_forall₂ cls sound
  obtain ⟨ms, r₂, written, sound₂, members⟩ := encodeFields_written built aligned r₁ sound₁
  -- the members are named by distinct field names, each a text JSON carries
  have keys : (ms.map Prod.fst).Nodup := members.names_sublist.nodup (fieldNames_nodup cls)
  have names : ∀ m ∈ ms, Text.PairsApart m.1.toList := fun m mem => by
    obtain ⟨f, listed, same⟩ :=
      List.mem_map.mp (members.names_sublist.subset (List.mem_map_of_mem mem))
    exact same ▸ fieldNames_apart cls f listed
  refine ⟨ms, r₂, ?_, sound₂, .obj ms keys names members.readable,
    aligned.mp (fun _ _ named found => ⟨named.1, found⟩) (members.found (fieldNames_nodup cls))⟩
  rw [encode.eq_def]
  simp only [beq_self_eq_true, if_true]
  rw [Sql.bind_run_ok codecs, Sql.bind_run_ok written]
  rfl

/-- A record's codec reads a document holding the fields of a record back as the record in UTC,
when each field makes the trip and the class's check passes on the values read back. -/
theorem decode_record_holds {cls : RecordClass} {ms : List (String × Json)}
    {fs : List (String × Value)} (holds : Holds cls ms fs)
    (aligned : List.Forall₂ (fun f p => p.1 = f.name ∧ FieldTrips f p.2) cls.fields fs)
    (checked : cls.postInit (Value.toUtcFields fs) = .ok (Value.toUtcFields fs))
    {r : Registry} (sound : r.Sound) :
    ∃ r', (decode (.record cls) (.obj ms)).run r = .ok (.record cls (Value.toUtcFields fs)) r' ∧
      r'.Sound := by
  obtain ⟨cs, r₁, codecs, sound₁, built⟩ := fieldCodecs_forall₂ cls sound
  obtain ⟨r₂, read, sound₂⟩ :=
    decodeFields_read built (holds.found.imp fun _ _ => And.right) r₁ sound₁
  refine ⟨r₂, ?_, sound₂⟩
  rw [decode.eq_16, Sql.bind_run_ok codecs, Sql.bind_run_ok read, construct,
    make_readFields aligned checked]
  rfl

/-- A record makes the trip when each field's value makes it, or is none and reads back as none
when its member is absent, and the class's check passes on the values read back. -/
theorem trip_record {cls : RecordClass} {fs : List (String × Value)}
    (aligned : List.Forall₂ (fun f p => p.1 = f.name ∧ FieldTrips f p.2) cls.fields fs)
    (checked : cls.postInit (Value.toUtcFields fs) = .ok (Value.toUtcFields fs)) :
    Trip (.record cls) (.record cls) (.record cls fs) := by
  intro r sound
  obtain ⟨ms, r₁, written, sound₁, holds⟩ := encode_record_holds aligned sound
  exact ⟨.obj ms, r₁, written, sound₁, holds.readable, rfl,
    fun r₂ sound₂ => decode_record_holds holds aligned checked sound₂⟩

end Codec

end Storefront
