import Storefront.Proofs.Codec.Trip
import Storefront.Proofs.Codec.Keys
import Storefront.Proofs.Service.Expansion

/-!
# Hints whose codecs carry their values

`Hint.Storable` is the grammar of declared types a value is stored under: texts, integers,
booleans, none, the task status, timestamps, records whose fields are of such types, lists,
optional types, the union of integers, texts and booleans, and types with a note. It is written
with the functions that build hints (`optionalOf`, `unionOf`, `annotate`), which flatten unions
and drop repeated members.

`Hint.Carried` says the same of a hint's structure: every class has a codec, notes come once,
and the members of a union are `Paired`, that is of two members with different keys one is the
class of none or both are among integers, texts and booleans. `Storable.carried` shows that the
grammar gives such hints. For them:

* a codec built for a hint with the key of a carried hint has the hint's own shape
  (`BuiltForKey.of_cls` and its kin), though union members may come in another order;
* `Typed.none_taken`: every codec of the key of a type that none belongs to takes none;
* `Paired.refuses`: of two paired members with different keys, the codecs of one refuse a
  value of the other at once, other than none, both as a value and as a document.
-/

namespace Storefront

/-- The classes the codecs read and write by themselves: texts, integers, booleans, none,
statuses and timestamps. -/
def Kind.coded : Kind → Bool
  | .str | .int | .bool | .noneType | .taskStatus | .datetime => true
  | _ => false

/-- Integers, texts and booleans: the members of the scalar union. -/
def Kind.scalar (k : Kind) : Bool := k == .int || k == .str || k == .bool

theorem Kind.scalar_cases {k : Kind} (scalar : k.scalar = true) :
    k = .int ∨ k = .str ∨ k = .bool := by
  cases k <;> simp_all [Kind.scalar]

theorem Value.scalar_cases {v : Value} (scalar : v.kind.scalar = true) :
    (∃ i, v = .int i) ∨ (∃ s, v = .str s) ∨ ∃ b, v = .bool b := by
  cases v <;> simp_all [Value.kind, Kind.scalar]

theorem Value.kind_eq_noneType {v : Value} : v.kind = .noneType ↔ v = .none := by
  cases v <;> simp [Value.kind]

namespace Hint

/-- A hint without notes. -/
def bare : Hint → Bool
  | annotated _ _ => false
  | _ => true

/-- A scalar class. -/
def scalar : Hint → Bool
  | cls k => k.scalar
  | _ => false

theorem scalar_cls {m : Hint} (scalar : m.scalar = true) : ∃ k, m = cls k ∧ k.scalar = true := by
  cases m <;> simp_all [Hint.scalar]

/-- Union members told apart by class: of two members with different keys, one is the class of
none, or both are scalar classes. -/
def Paired (hs : List Hint) : Prop :=
  ∀ m ∈ hs, ∀ m' ∈ hs, m.key ≠ m'.key → m = cls .noneType ∨ m' = cls .noneType ∨
    (m.scalar = true ∧ m'.scalar = true)

theorem Paired.sublist {hs gs : List Hint} (sub : gs.Sublist hs) (paired : Paired hs) : Paired gs :=
  fun m listed m' listed' apart => paired m (sub.subset listed) m' (sub.subset listed') apart

/-- The class of none is told apart from every member. -/
theorem Paired.append_noneType {hs : List Hint} (paired : Paired hs) :
    Paired (hs ++ [cls .noneType]) := by
  intro m listed m' listed' apart
  rcases List.mem_append.mp listed with listed | noneType
  · rcases List.mem_append.mp listed' with listed' | noneType
    · exact paired m listed m' listed' apart
    · exact .inr (.inl (List.mem_singleton.mp noneType))
  · exact .inl (List.mem_singleton.mp noneType)

theorem paired_single (h : Hint) : Paired [h] := by
  intro m listed m' listed' apart
  rw [List.mem_singleton.mp listed, List.mem_singleton.mp listed'] at apart
  exact absurd rfl apart

/-- The hints whose codecs carry every value of their type there and back: the classes with a
codec of their own, records whose fields are such hints, the literal none, lists of such hints,
unions of such hints whose members are paired, and such hints with notes, once. -/
inductive Carried : Hint → Prop
  | cls {k : Kind} : k.coded = true → Carried (cls k)
  | record {c : RecordClass} : (∀ f ∈ c.fields, Carried f.hint) → Carried (cls (.record c))
  | noneLit : Carried noneLit
  | listOf {h : Hint} : Carried h → Carried (listOf h)
  | union {hs : List Hint} : (∀ m ∈ hs, Carried m) → Paired hs → Carried (union hs)
  | annotated {h : Hint} {n : Nat} : Carried h → h.bare = true → Carried (annotated h n)

/-- The declared types a value is stored under: text, integer, boolean, the class of none and
the literal none, the task status, timestamps, records whose fields are of such types, lists
of such types, an optional one, the union of integers, texts and booleans, and one with a
note. -/
inductive Storable : Hint → Prop
  | str : Storable (cls .str)
  | int : Storable (cls .int)
  | bool : Storable (cls .bool)
  | noneType : Storable (cls .noneType)
  | noneLit : Storable noneLit
  | status : Storable (cls .taskStatus)
  | datetime : Storable (cls .datetime)
  | record {c : RecordClass} : (∀ f ∈ c.fields, Storable f.hint) → Storable (cls (.record c))
  | listOf {h : Hint} : Storable h → Storable (listOf h)
  | optional {h : Hint} : Storable h → Storable (optionalOf h)
  | scalars : Storable (unionOf [cls .int, cls .str, cls .bool])
  | annotate {h : Hint} : Storable h → Storable h.annotate

/-! ## The grammar gives carried hints -/

theorem Carried.asMember {h : Hint} (carried : Carried h) : Carried h.asMember := by
  cases h with
  | noneLit => exact .cls rfl
  | _ => exact carried

/-- What a carried hint gives a union: carried members, paired. -/
theorem Carried.members {h : Hint} (carried : Carried h) :
    (∀ m ∈ h.members, Carried m) ∧ Paired h.members := by
  cases h with
  | union hs => cases carried with | union each paired => exact ⟨each, paired⟩
  | _ => exact ⟨fun m listed => List.mem_singleton.mp listed ▸ carried.asMember, paired_single _⟩

theorem dedup_sublist : ∀ (hs seen : List Hint), (dedup hs seen).Sublist hs
  | [], _ => .slnil
  | h :: hs, seen => by
    rw [dedup]
    split
    · exact (dedup_sublist hs seen).cons h
    · exact (dedup_sublist hs (h :: seen)).cons_cons h

/-- The union of carried, paired members is carried, whether it keeps one member or several. -/
theorem carried_unionOf {hs : List Hint}
    (each : ∀ m ∈ hs.flatMap Hint.members, Carried m) (paired : Paired (hs.flatMap Hint.members)) :
    Carried (unionOf hs) := by
  have sub := dedup_sublist (hs.flatMap Hint.members) []
  unfold unionOf
  split
  · rename_i h single
    exact each h (sub.subset (by rw [single]; exact List.mem_singleton_self h))
  · exact .union (fun m listed => each m (sub.subset listed)) (paired.sublist sub)

theorem carried_optionalOf {h : Hint} (carried : Carried h) : Carried (optionalOf h) := by
  have flat : [h, noneLit].flatMap Hint.members = h.members ++ [cls .noneType] := by
    simp [Hint.members, asMember]
  obtain ⟨each, paired⟩ := carried.members
  apply carried_unionOf
  · rw [flat]
    intro m listed
    rcases List.mem_append.mp listed with listed | noneType
    · exact each m listed
    · rw [List.mem_singleton.mp noneType]
      exact .cls rfl
  · rw [flat]
    exact paired.append_noneType

theorem carried_scalars : Carried (unionOf [cls .int, cls .str, cls .bool]) := by
  have flat : [cls .int, cls .str, cls .bool].flatMap Hint.members =
      [cls .int, cls .str, cls .bool] := rfl
  apply carried_unionOf
  · rw [flat]
    intro m listed
    simp only [List.mem_cons, List.not_mem_nil, or_false] at listed
    rcases listed with rfl | rfl | rfl <;> exact .cls rfl
  · rw [flat]
    intro m listed m' listed' _
    simp only [List.mem_cons, List.not_mem_nil, or_false] at listed listed'
    refine .inr (.inr ⟨?_, ?_⟩)
    · rcases listed with rfl | rfl | rfl <;> rfl
    · rcases listed' with rfl | rfl | rfl <;> rfl

theorem carried_annotate {h : Hint} (carried : Carried h) : Carried h.annotate := by
  cases carried with
  | annotated base bare => exact .annotated base bare
  | noneLit => exact .annotated (.cls rfl) rfl
  | cls coded => exact .annotated (.cls coded) rfl
  | record fields => exact .annotated (.record fields) rfl
  | listOf item => exact .annotated (.listOf item) rfl
  | union each paired => exact .annotated (.union each paired) rfl

/-- The declared types a value is stored under are carried hints. -/
theorem Storable.carried {h : Hint} (storable : Storable h) : Carried h := by
  induction storable with
  | str | int | bool | noneType | status | datetime => exact .cls rfl
  | noneLit => exact .noneLit
  | record _ fields => exact .record fields
  | listOf _ item => exact .listOf item
  | optional _ base => exact carried_optionalOf base
  | scalars => exact carried_scalars
  | annotate _ base => exact carried_annotate base

end Hint

/-! ## Codecs of the key of a hint -/

namespace Codec

open Hint

/-- A note changes nothing in a codec: a hint with notes builds the codec of its base. -/
theorem build_annotated {b : Hint} {n : Nat} {c : Codec} (made : build (.annotated b n) = some c) :
    build b = some c := by
  cases b with
  | cls k => cases k <;> exact made
  | noneLit => exact made
  | listOf item => exact made
  | union hs => exact made
  | annotated b m => simp [build] at made

theorem buildable {h : Hint} (carried : Carried h) : ∃ c, build h = some c := by
  induction carried with
  | cls coded => rename_i k; cases k <;> simp_all [Kind.coded, build, ofClass]
  | record _ _ => exact ⟨_, rfl⟩
  | noneLit => exact ⟨_, rfl⟩
  | listOf _ item =>
    obtain ⟨c, made⟩ := item
    exact ⟨.list c, by simp [build, made]⟩
  | union _ _ each =>
    obtain ⟨cs, made⟩ := Option.isSome_iff_exists.mp
      (buildAll_isSome fun m listed => Option.isSome_iff_exists.mpr (each m listed))
    exact ⟨.union cs, by simp [build, made]⟩
  | @annotated h n _ bare base =>
    obtain ⟨c, made⟩ := base
    refine ⟨c, ?_⟩
    cases h with
    | cls k => cases k <;> exact made
    | noneLit => exact made
    | listOf item => exact made
    | union hs => exact made
    | annotated b m => simp [Hint.bare] at bare

theorem BuiltForKey.of_cls {k : Kind} {c : Codec} (built : BuiltForKey (cls k).key c) :
    build (cls k) = some c := by
  obtain ⟨b, key, made⟩ := built
  rwa [key_eq_cls key.symm] at made

theorem BuiltForKey.of_noneLit {c : Codec} (built : BuiltForKey noneLit.key c) : c = .none := by
  obtain ⟨b, key, made⟩ := built
  rw [key_eq_noneLit key.symm] at made
  exact (Option.some.inj made).symm

theorem BuiltForKey.of_listOf {h : Hint} {c : Codec} (built : BuiltForKey (listOf h).key c) :
    ∃ ic, c = .list ic ∧ BuiltForKey h.key ic := by
  obtain ⟨b, key, made⟩ := built
  obtain ⟨b', rfl, key'⟩ := key_eq_listOf key.symm
  obtain ⟨ic, made', rfl⟩ := Option.map_eq_some_iff.mp (by simpa [build] using made)
  exact ⟨ic, rfl, b', key'.symm, made'⟩

theorem BuiltForKey.of_union {hs : List Hint} {c : Codec}
    (built : BuiltForKey (Hint.union hs).key c) :
    ∃ gs cs, c = .union cs ∧ buildAll gs = some cs ∧ (hs.map key).Perm (gs.map key) := by
  obtain ⟨b, key, made⟩ := built
  obtain ⟨gs, rfl, perm⟩ := key_eq_union key.symm
  obtain ⟨cs, made', rfl⟩ := Option.map_eq_some_iff.mp (by simpa [build] using made)
  exact ⟨gs, cs, rfl, made', perm⟩

theorem BuiltForKey.of_annotated {h : Hint} {n : Nat} {c : Codec}
    (built : BuiltForKey (annotated h n).key c) : BuiltForKey h.key c := by
  obtain ⟨b, key, made⟩ := built
  obtain ⟨b', rfl, key'⟩ := key_eq_annotated key.symm
  exact ⟨b', key'.symm, build_annotated made⟩

/-- Each hint of a list that builds has its codec among the codecs built. -/
theorem buildAll_mem : ∀ {gs : List Hint} {cs : List Codec}, buildAll gs = some cs →
    ∀ {g : Hint}, g ∈ gs → ∃ d ∈ cs, build g = some d
  | [], _, _, _, listed => by simp at listed
  | g :: gs, cs, made, g', listed => by
    obtain ⟨d, first, cs', rest, rfl⟩ : ∃ d, build g = some d ∧ ∃ cs', buildAll gs = some cs' ∧
        cs = d :: cs' := by
      cases first : build g <;> cases rest : buildAll gs <;> simp_all [buildAll]
    rcases List.mem_cons.mp listed with rfl | later
    · exact ⟨d, List.mem_cons_self, first⟩
    · obtain ⟨d', inside, made'⟩ := buildAll_mem rest later
      exact ⟨d', List.mem_cons_of_mem d inside, made'⟩

theorem takesAny_of_mem {v : Value} : ∀ {cs : List Codec} {d : Codec}, d ∈ cs → d.takes v = true →
    takesAny cs v = true
  | d' :: cs, d, listed, taken => by
    rw [takesAny, Bool.or_eq_true]
    rcases List.mem_cons.mp listed with rfl | later
    · exact .inl taken
    · exact .inr (takesAny_of_mem later taken)

/-- The codec of a union built for a hint with a member's key splits at the first member codec
of that key: the member codecs before it are built for hints of other keys of the union. -/
theorem union_split {K : String} : ∀ {gs : List Hint} {cs : List Codec}, buildAll gs = some cs →
    (∃ g ∈ gs, g.key = K) → ∃ pre d post, cs = pre ++ d :: post ∧ BuiltForKey K d ∧
      ∀ e ∈ pre, ∃ g ∈ gs, g.key ≠ K ∧ BuiltForKey g.key e
  | [], _, _, found => by simp at found
  | g :: gs, cs, made, found => by
    obtain ⟨d, first, cs', rest, rfl⟩ : ∃ d, build g = some d ∧ ∃ cs', buildAll gs = some cs' ∧
        cs = d :: cs' := by
      cases first : build g <;> cases rest : buildAll gs <;> simp_all [buildAll]
    by_cases named : g.key = K
    · exact ⟨[], d, cs', rfl, ⟨g, named, first⟩, by simp⟩
    · -- the first member of the key comes later
      have later : ∃ g' ∈ gs, g'.key = K := by
        obtain ⟨g', listed, key⟩ := found
        rcases List.mem_cons.mp listed with rfl | listed
        · exact absurd key named
        · exact ⟨g', listed, key⟩
      obtain ⟨pre, d', post, rfl, built, before⟩ := union_split rest later
      refine ⟨d :: pre, d', post, rfl, built, fun e listed => ?_⟩
      rcases List.mem_cons.mp listed with rfl | listed
      · exact ⟨g, List.mem_cons_self, named, g, rfl, first⟩
      · obtain ⟨g', inside, other, built'⟩ := before e listed
        exact ⟨g', List.mem_cons_of_mem g inside, other, built'⟩

end Codec

/-! ## None and the members of a union -/

open Codec Hint

/-- Every codec of the key of a type that none belongs to takes none. -/
theorem Typed.none_taken {h : Hint} {v : Value} (typed : Typed h v) :
    v = .none → ∀ {c : Codec}, BuiltForKey h.key c → c.takes .none = true := by
  induction typed with
  | plain _ =>
    intro isNone c built
    subst isNone
    obtain rfl := Option.some.inj built.of_cls
    rfl
  | record _ _ _ => intro isNone; cases isNone
  | noneLit =>
    intro _ c built
    rw [built.of_noneLit]
    rfl
  | list _ _ => intro isNone; cases isNone
  | member listed _ ih =>
    intro isNone c built
    -- the member's codec in the union codec takes none
    obtain ⟨gs, cs, rfl, made, perm⟩ := built.of_union
    obtain ⟨g, inside, key⟩ := Perm.member_key perm listed
    obtain ⟨d, member, made'⟩ := buildAll_mem made inside
    exact takesAny_of_mem member (ih isNone ⟨g, key, made'⟩)
  | annotated _ ih =>
    intro isNone c built
    exact ih isNone built.of_annotated

/-- The codec of none refuses every other value, as a value and as a document. -/
theorem none_refuses {v : Value} (other : v ≠ .none) :
    Codec.none.takes v = false ∧ Codec.none.reads v.jsonClass = false := by
  cases v <;> simp_all [takes, reads, Value.kind, Value.jsonClass]

/-- The codec of one scalar class refuses a value of another, as a value and as a document. -/
theorem scalar_refuses {k k' : Kind} (scalar' : k'.scalar = true) (apart : k ≠ k') {v : Value}
    (kind : v.kind = k) (scalar : k.scalar = true) {c : Codec} (made : build (cls k') = some c) :
    c.takes v = false ∧ c.reads v.jsonClass = false := by
  obtain ⟨i, rfl⟩ | ⟨s, rfl⟩ | ⟨b, rfl⟩ := Value.scalar_cases (kind ▸ scalar)
  all_goals
    subst kind
    rcases Kind.scalar_cases scalar' with rfl | rfl | rfl <;> cases Option.some.inj made <;>
      simp_all [takes, reads, Value.kind, Value.jsonClass]

/-- Of two paired members with different keys, every codec of the one's key refuses a value of
the other, other than none, at once: as a value and as a document. -/
theorem Hint.Paired.refuses {hs : List Hint} (paired : Paired hs) {m m' : Hint} (listed : m ∈ hs)
    (listed' : m' ∈ hs) (apart : m.key ≠ m'.key) {v : Value} (typed : Typed m v)
    (other : v ≠ .none) {c : Codec} (built : BuiltForKey m'.key c) :
    c.takes v = false ∧ c.reads v.jsonClass = false := by
  rcases paired m listed m' listed' apart with rfl | rfl | ⟨scalar, scalar'⟩
  · exact absurd (Value.kind_eq_noneType.1 typed.kind_eq) other
  · obtain rfl := Option.some.inj built.of_cls
    exact none_refuses other
  · obtain ⟨k, rfl, scalarK⟩ := scalar_cls scalar
    obtain ⟨k', rfl, scalarK'⟩ := scalar_cls scalar'
    have differ : k ≠ k' := fun same => apart (by rw [same])
    exact scalar_refuses scalarK' differ typed.kind_eq scalarK built.of_cls

/-- In a union codec built for a hint with the key of a paired union, a member codec built for
a key other than that of a member a value belongs to refuses the value, other than none. -/
theorem refused_before {hs gs : List Hint} (paired : Paired hs) (perm : (hs.map key).Perm (gs.map key))
    {m : Hint} (listed : m ∈ hs) {v : Value} (typed : Typed m v) (other : v ≠ .none) {e : Codec}
    (before : ∃ g ∈ gs, g.key ≠ m.key ∧ BuiltForKey g.key e) :
    e.takes v = false ∧ e.reads v.jsonClass = false := by
  obtain ⟨g, inside, apart, built⟩ := before
  obtain ⟨m', listed', same⟩ := Perm.member_key perm.symm inside
  exact paired.refuses listed listed' (fun key => apart (key.trans same).symm) typed other
    (same ▸ built)

end Storefront
