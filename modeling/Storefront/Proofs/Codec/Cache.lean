import Storefront.Proofs.Page.Execute

/-!
# The codec registry

A lookup answers from the registry when the hint's key is recorded, and otherwise builds the
codec from the codecs of the hint's parts, looked up in turn, and records it under the key. The
key counts the members of a union as a set, so a lookup can answer with a codec recorded for a
hint that differs from the one asked for in the order of its union members. This module shows
that this is all a lookup can do. `build` is the codec a hint is built into when nothing is
recorded, and over any history of lookups, failed ones included, every codec recorded is the
one built for some hint with its key. The first hint of a key that is looked up fixes the codec
that every later hint of that key gets: looking up `str | datetime` and then `datetime | str`
gives the second the members in the order of the first.
-/

namespace Storefront

namespace Codec

mutual

/-- The codec a hint is built into when none of its parts is recorded. -/
def build : Hint → Option Codec
  | .listOf item => (build item).map .list
  | .annotated (.listOf item) _ => (build item).map .list
  | .union hs => (buildAll hs).map .union
  | .annotated (.union hs) _ => (buildAll hs).map .union
  | .cls k => (ofClass (.cls k) k).run' {}
  | .annotated (.cls k) n => (ofClass (.annotated (.cls k) n) k).run' {}
  | .noneLit => some .none
  | .annotated .noneLit _ => some .none
  | .annotated (.annotated _ _) _ => Option.none

/-- `build` of each hint, in order. -/
def buildAll : List Hint → Option (List Codec)
  | [] => some []
  | h :: hs => do
    let c ← build h
    let cs ← buildAll hs
    pure (c :: cs)

end

/-- A codec built for some hint with this key. -/
def BuiltForKey (k : String) (c : Codec) : Prop := ∃ h : Hint, h.key = k ∧ build h = some c

end Codec

/-! ## Sound registries -/

namespace Registry

/-- Every codec recorded is built for a hint with the key it is recorded under. -/
def Sound (r : Registry) : Prop :=
  ∀ e ∈ r.entries, Codec.BuiltForKey e.1 e.2

theorem sound_empty : ({} : Registry).Sound := by
  intro e mem
  cases mem

theorem Sound.insert {r : Registry} (sound : r.Sound) {k : String} {c : Codec}
    (built : Codec.BuiltForKey k c) : (r.insert k c).Sound := by
  intro e mem
  rcases List.mem_cons.mp mem with rfl | mem
  · exact built
  · exact sound e mem

theorem Sound.find? {r : Registry} (sound : r.Sound) {k : String} {c : Codec}
    (found : r.find? k = some c) : Codec.BuiltForKey k c := by
  obtain ⟨e, hit, rfl⟩ := Option.map_eq_some_iff.mp found
  have same : e.1 = k := by simpa using List.find?_some hit
  rw [← same]
  exact sound e (List.mem_of_find?_eq_some hit)

theorem find?_insert (r : Registry) (k : String) (c : Codec) :
    (r.insert k c).find? k = some c := by
  simp [Registry.find?, Registry.insert]

end Registry

namespace Codec

/-! ## Codec work that keeps the registry sound -/

/-- Codec work from a registry: every registry it leaves, whatever its end, is sound, and a
result it returns satisfies `P` with the registry it leaves. -/
def Keeps {α : Type} (r : Registry) (act : CodecM α) (P : α → Registry → Prop) : Prop :=
  (∀ a r', act.run r = .ok a r' → r'.Sound ∧ P a r') ∧ ∀ e r', act.run r = .error e r' → r'.Sound

namespace Keeps

variable {α β γ : Type} {r : Registry} {P : α → Registry → Prop} {Q : β → Registry → Prop}

theorem pure (sound : r.Sound) {a : α} (holds : P a r) : Keeps r (Pure.pure a : CodecM α) P := by
  refine ⟨fun a' r' ran => ?_, fun e r' ran => ?_⟩
  · cases ran
    exact ⟨sound, holds⟩
  · cases ran

theorem throw (sound : r.Sound) (e : Failure) : Keeps r (MonadExcept.throw e : CodecM α) P := by
  refine ⟨fun a' r' ran => ?_, fun e' r' ran => ?_⟩
  · cases ran
  · cases ran
    exact sound

theorem bind {x : CodecM α} {f : α → CodecM β} (first : Keeps r x P)
    (rest : ∀ a r₁, r₁.Sound → P a r₁ → Keeps r₁ (f a) Q) : Keeps r (x >>= f) Q := by
  cases ran : x.run r with
  | ok a r₁ =>
    obtain ⟨sound₁, holds⟩ := first.1 a r₁ ran
    rw [Keeps, Sql.bind_run_ok ran]
    exact rest a r₁ sound₁ holds
  | error e r₁ =>
    rw [Keeps, Sql.bind_run_error ran]
    refine ⟨fun b r' failed => ?_, fun e' r' failed => ?_⟩
    · cases failed
    · cases failed
      exact first.2 e r₁ ran

theorem tryCatch {x : CodecM α} {handle : Failure → CodecM α} (first : Keeps r x P)
    (handled : ∀ e r₁, r₁.Sound → Keeps r₁ (handle e) P) : Keeps r (tryCatch x handle) P := by
  rw [Keeps, Codec.tryCatch_run]
  cases ran : x.run r with
  | ok a r' =>
    exact ⟨fun a' r'' done => first.1 a' r'' (ran.trans done), fun e r'' failed => by cases failed⟩
  | error e r₁ => exact handled e r₁ (first.2 e r₁ ran)

theorem weaken {x : CodecM α} {P' : α → Registry → Prop} (keeps : Keeps r x P)
    (implies : ∀ a r', P a r' → P' a r') : Keeps r x P' :=
  ⟨fun a r' ran => (keeps.1 a r' ran).imp_right (implies a r'), keeps.2⟩

theorem get (sound : r.Sound) :
    Keeps r (MonadStateOf.get : CodecM Registry) fun a r' => a = r' := by
  refine ⟨fun a r' ran => ?_, fun e r' ran => ?_⟩
  · cases ran
    exact ⟨sound, rfl⟩
  · cases ran

/-- Recording a codec built for a hint with the key keeps the registry sound, and the key then
finds that codec. -/
theorem recorded (sound : r.Sound) {k : String} {c : Codec} (built : BuiltForKey k c) :
    Keeps r (do modify fun r : Registry => r.insert k c; Pure.pure c)
      fun c' r' => BuiltForKey k c' ∧ r'.find? k = some c' := by
  refine ⟨fun a r' ran => ?_, fun e r' ran => ?_⟩
  · cases ran
    exact ⟨sound.insert built, built, Registry.find?_insert r k c⟩
  · cases ran

/-- Building a codec around what a step returns and recording it under a key, when each such
codec is built for a hint with the key. -/
theorem wrap {x : CodecM γ} {P : γ → Prop} (first : Keeps r x fun a _ => P a)
    (wrapper : γ → Codec) {k : String} (built : ∀ a, P a → BuiltForKey k (wrapper a)) :
    Keeps r (do
      let a ← x
      let c ← Pure.pure (wrapper a)
      modify fun r : Registry => r.insert k c
      Pure.pure c) fun c' r' => BuiltForKey k c' ∧ r'.find? k = some c' :=
  bind first fun a _ sound₁ holds =>
    bind (pure (P := fun c _ => BuiltForKey k c) sound₁ (built a holds)) fun _ _ sound₂ built =>
      recorded sound₂ built

end Keeps

theorem ofClass_keeps {r : Registry} (sound : r.Sound) (h : Hint) (k : Kind) :
    Keeps r (ofClass h k) fun c _ => (ofClass h k).run' {} = some c := by
  refine ⟨fun a r' ran => ?_, fun e r' ran => ?_⟩
  · cases k <;> cases ran <;> exact ⟨sound, rfl⟩
  · cases k <;> cases ran <;> exact sound

/-! ## Lookups -/

mutual

/-- A lookup from a sound registry leaves it sound, and the codec it returns is built for a
hint with the key of the one looked up, and recorded under that key. -/
theorem get_keeps (h : Hint) {r : Registry} (sound : r.Sound) :
    Keeps r (get h) fun c r' => BuiltForKey h.key c ∧ r'.find? h.key = some c := by
  rw [get.eq_1]
  refine Keeps.bind (Keeps.get sound) fun a r₁ sound₁ read => ?_
  subst read
  cases found : a.find? h.key with
  | some c => exact Keeps.pure sound₁ ⟨sound₁.find? found, found⟩
  | none =>
    -- on a miss the codec is built from the codecs of the parts, then recorded under the key;
    -- the parts' codecs are built for hints of the parts' keys, so the whole is too
    cases h with
    | cls k =>
      exact Keeps.bind (ofClass_keeps sound₁ _ k)
        (fun c _ sound₂ built => Keeps.recorded sound₂ ⟨.cls k, rfl, built⟩)
    | noneLit =>
      exact Keeps.bind (Keeps.pure (P := fun c _ => BuiltForKey Hint.noneLit.key c) sound₁
          ⟨.noneLit, rfl, rfl⟩)
        (fun c _ sound₂ built => Keeps.recorded sound₂ built)
    | listOf item =>
      exact Keeps.wrap ((get_keeps item sound₁).weaken fun _ _ found => found.1) Codec.list
        (fun ic ⟨item', key, built⟩ =>
          ⟨.listOf item', by simp [Hint.key, key], by simp [build, built]⟩)
    | union hs =>
      exact Keeps.wrap (getAll_keeps hs sound₁) Codec.union
        (fun cs ⟨hs', keys, built⟩ => ⟨.union hs', by simp [Hint.key, keys], by simp [build, built]⟩)
    | annotated base n =>
      cases base with
      | cls k =>
        exact Keeps.bind (ofClass_keeps sound₁ _ k)
          (fun c _ sound₂ built => Keeps.recorded sound₂ ⟨.annotated (.cls k) n, rfl, built⟩)
      | noneLit =>
        exact Keeps.bind (Keeps.pure (P := fun c _ => BuiltForKey (Hint.annotated .noneLit n).key c)
            sound₁ ⟨.annotated .noneLit n, rfl, rfl⟩)
          (fun c _ sound₂ built => Keeps.recorded sound₂ built)
      | listOf item =>
        exact Keeps.wrap ((get_keeps item sound₁).weaken fun _ _ found => found.1) Codec.list
          (fun ic ⟨item', key, built⟩ =>
            ⟨.annotated (.listOf item') n, by simp [Hint.key, key], by simp [build, built]⟩)
      | union hs =>
        exact Keeps.wrap (getAll_keeps hs sound₁) Codec.union
          (fun cs ⟨hs', keys, built⟩ =>
            ⟨.annotated (.union hs') n, by simp [Hint.key, keys], by simp [build, built]⟩)
      | annotated base m =>
        exact Keeps.bind (Keeps.throw (P := fun _ _ => False) sound₁ _)
          (fun _ _ _ never => never.elim)

/-- Looking up hints in turn from a sound registry leaves it sound, and the codecs are built for
hints with the same keys, in order. -/
theorem getAll_keeps (hs : List Hint) {r : Registry} (sound : r.Sound) :
    Keeps r (getAll hs) fun cs _ => ∃ hs', Hint.keys hs' = Hint.keys hs ∧ buildAll hs' = some cs := by
  cases hs with
  | nil =>
    rw [getAll.eq_1]
    exact Keeps.pure sound ⟨[], rfl, rfl⟩
  | cons h hs =>
    rw [getAll.eq_2]
    exact Keeps.bind (get_keeps h sound) fun c _ sound₁ ⟨⟨h', key, built⟩, _⟩ =>
      Keeps.bind (getAll_keeps hs sound₁) fun cs _ sound₂ ⟨hs', keys, builtAll⟩ =>
        Keeps.pure sound₂ ⟨h' :: hs', by simp [Hint.keys, key, keys], by simp [buildAll, built, builtAll]⟩

end

/-- A lookup of a recorded key answers with the recorded codec and leaves the registry. -/
theorem get_hit {h : Hint} {r : Registry} {c : Codec} (found : r.find? h.key = some c) :
    (get h).run r = .ok c r := by
  rw [get.eq_1]
  simp only [EStateM.run, bind, EStateM.bind, getThe, MonadStateOf.get, EStateM.get, found]
  rfl

theorem get_miss_cls {k : Kind} {r : Registry} {c : Codec}
    (missing : r.find? (Hint.cls k).key = Option.none) (built : (ofClass (.cls k) k).run r = .ok c r) :
    (get (.cls k)).run r = .ok c (r.insert (Hint.cls k).key c) := by
  rw [get.eq_1]
  simp only [EStateM.run, bind, EStateM.bind, getThe, MonadStateOf.get, EStateM.get,
    missing] at built ⊢
  simp only [built]
  rfl

theorem get_miss_union {hs : List Hint} {r r₁ : Registry} {cs : List Codec}
    (missing : r.find? (Hint.union hs).key = Option.none) (parts : (getAll hs).run r = .ok cs r₁) :
    (get (.union hs)).run r = .ok (.union cs) (r₁.insert (Hint.union hs).key (.union cs)) := by
  rw [get.eq_1]
  simp only [EStateM.run, bind, EStateM.bind, getThe, MonadStateOf.get, EStateM.get,
    missing] at parts ⊢
  simp only [parts]
  rfl

theorem getAll_nil_run (r : Registry) : (getAll []).run r = .ok [] r := by
  rw [getAll.eq_1]
  rfl

theorem getAll_cons_run {h : Hint} {hs : List Hint} {r r₁ r₂ : Registry} {c : Codec}
    {cs : List Codec} (first : (get h).run r = .ok c r₁) (rest : (getAll hs).run r₁ = .ok cs r₂) :
    (getAll (h :: hs)).run r = .ok (c :: cs) r₂ := by
  rw [getAll.eq_2, Sql.bind_run_ok first, Sql.bind_run_ok rest]
  rfl

/-! ## Histories of lookups -/

/-- Look up each hint in turn, going on past the lookups that fail, as the service does over its
life. -/
def lookUpEach (hs : List Hint) : CodecM Unit :=
  hs.forM fun h => tryCatch (do let _ ← get h; Pure.pure ()) fun _ => Pure.pure ()

theorem lookUpEach_ok (hs : List Hint) (r : Registry) :
    ∃ r', (lookUpEach hs).run r = .ok () r' := by
  induction hs generalizing r with
  | nil => exact ⟨r, rfl⟩
  | cons h hs ih =>
    -- a failed lookup is passed over, so the first step ends in some registry
    obtain ⟨r₁, first⟩ : ∃ r₁, (tryCatch (do let _ ← get h; Pure.pure ())
        fun _ => (Pure.pure () : CodecM Unit)).run r = .ok () r₁ := by
      rw [Codec.tryCatch_run]
      cases (do let _ ← get h; Pure.pure () : CodecM Unit).run r with
      | ok u r₁ => exact ⟨r₁, rfl⟩
      | error e r₁ => exact ⟨r₁, rfl⟩
    obtain ⟨r', rest⟩ := ih r₁
    refine ⟨r', ?_⟩
    rw [lookUpEach, List.forM.eq_2, Sql.bind_run_ok first]
    exact rest

theorem lookUpEach_keeps (hs : List Hint) {r : Registry} (sound : r.Sound) :
    Keeps r (lookUpEach hs) fun _ _ => True := by
  induction hs generalizing r with
  | nil => exact Keeps.pure sound trivial
  | cons h hs ih =>
    rw [lookUpEach, List.forM.eq_2]
    refine Keeps.bind (Keeps.tryCatch (P := fun _ _ => True) ?first
      fun e r₁ sound₁ => Keeps.pure sound₁ trivial) fun _ r₁ sound₁ _ => ih sound₁
    exact Keeps.bind (get_keeps h sound) fun _ r₁ sound₁ _ => Keeps.pure sound₁ trivial

/-- After any history of lookups, some of which may have failed, a lookup of a hint returns the
codec built for a hint with the same key, which may differ from it in the order of its union
members. That codec is then recorded: every later lookup of a hint with the same key, members in
any order, returns it and leaves the registry as it is. -/
theorem lookup_returns_codec_of_key_equal_hint (earlier : List Hint) (h : Hint) :
    ∃ r, (lookUpEach earlier).run {} = .ok () r ∧
      ∀ c r', (get h).run r = .ok c r' →
        (∃ h', h'.key = h.key ∧ build h' = some c) ∧
        ∀ g, g.key = h.key → (get g).run r' = .ok c r' := by
  obtain ⟨r, history⟩ := lookUpEach_ok earlier {}
  have sound := ((lookUpEach_keeps earlier Registry.sound_empty).1 () r history).1
  refine ⟨r, history, fun c r' found => ?_⟩
  obtain ⟨-, built, recorded⟩ := (get_keeps h sound).1 c r' found
  exact ⟨built, fun g same => get_hit (by rw [same]; exact recorded)⟩

/-- Looking up `str | datetime` and then `datetime | str` gives the second lookup the codec of
the first, text tried before timestamps, though the codec built for `datetime | str` tries
timestamps first. -/
theorem reordered_union_lookup_keeps_first_order :
    (∃ r, (do
        let _ ← get (.union [.cls .str, .cls .datetime])
        get (.union [.cls .datetime, .cls .str])).run ({} : Registry) =
      .ok (.union [.str, .time]) r) ∧
    build (.union [.cls .datetime, .cls .str]) = some (.union [.time, .str]) := by
  have keyAfter : (Hint.union [.cls .datetime, .cls .str]).key = "Union[datetime,str]" := by
    simp [Hint.key, Hint.keys, Kind.name, List.mergeSort]
  have keyFirst : (Hint.union [.cls .str, .cls .datetime]).key = "Union[datetime,str]" := by
    simp [Hint.key, Hint.keys, Kind.name, List.mergeSort]
  -- the first lookup builds both members and the union, in the first's order
  have text := get_miss_cls (r := {}) (k := .str) rfl rfl
  have time := get_miss_cls (r := ({} : Registry).insert (Hint.cls .str).key .str) (k := .datetime)
    (by decide) rfl
  have parts := getAll_cons_run text (getAll_cons_run time (getAll_nil_run _))
  have first := get_miss_union (by rw [keyFirst]; rfl) parts
  -- the second finds it under the shared key
  have found : (((({} : Registry).insert (Hint.cls .str).key .str).insert (Hint.cls .datetime).key
      .time).insert (Hint.union [.cls .str, .cls .datetime]).key (.union [.str, .time])).find?
        (Hint.union [.cls .datetime, .cls .str]).key = some (.union [.str, .time]) := by
    rw [keyAfter, ← keyFirst]
    exact Registry.find?_insert _ _ _
  exact ⟨⟨_, by rw [Sql.bind_run_ok first]; exact get_hit found⟩, rfl⟩

end Codec

end Storefront
