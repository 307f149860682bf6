import Storefront.Proofs.Page.Walk
import Mathlib.Logic.Relation

/-!
# Listing while the store changes

Between the fetches of a walk through a listing the memory store may change: records are
created with new ids, and records are updated in fields other than their timestamp, their id
and the fields the equality filters read. Each page is served from the store as it is at that
fetch, after the key of the record that ended the page before. So the records a walk delivers
come in strictly ascending order of key, and a walk that comes to a page without a token has
delivered every record its listing admitted when it began, exactly once.
-/

namespace Storefront

/-! ## Writes to a memory store -/

namespace MemoryStore

theorem records_withRecords (s : MemoryStore) (coll coll' : String) (rs : List (Value × Value)) :
    (s.withRecords coll rs).records coll' = if coll' = coll then rs else s.records coll' := by
  unfold withRecords records
  split
  · next present =>
    rw [List.find?_map]
    -- replacing the records of a collection keeps every collection's name
    have sameNames : ((fun c : String × List (Value × Value) => c.1 == coll') ∘
        fun c => if c.1 == coll then (coll, rs) else c) = fun c => c.1 == coll' := by
      funext c
      by_cases named : c.1 = coll <;> simp [named]
    rw [sameNames]
    by_cases same : coll' = coll
    · subst same
      obtain ⟨e, found⟩ :=
        Option.isSome_iff_exists.mp (List.find?_isSome.mpr (List.any_eq_true.mp present))
      have named : e.1 = coll' := by simpa using List.find?_some found
      simp [found, named]
    · simp only [same, if_false]
      cases found : s.collections.find? (·.1 == coll') with
      | none => rfl
      | some e =>
        have named : e.1 = coll' := by simpa using List.find?_some found
        have other : ¬ e.1 = coll := by rw [named]; exact same
        simp [other]
  · next absent =>
    rw [List.find?_append]
    by_cases same : coll' = coll
    · subst same
      have none : s.collections.find? (·.1 == coll') = none :=
        List.find?_eq_none.mpr fun e mem named => absent (List.any_eq_true.mpr ⟨e, mem, named⟩)
      simp [none]
    · simp [same, Ne.symm same]

theorem create_eq {s s' : MemoryStore} {coll : String} {id record : Value}
    (created : s.create coll id record = .ok s') :
    s' = s.withRecords coll (s.records coll ++ [(id, record)]) := by
  unfold create at created
  cases found : find? (s.records coll) id with
  | error e => simp [found] at created
  | ok o =>
    cases o with
    | some v => simp [found] at created
    | none =>
      simp only [found] at created
      exact (Except.ok.inj created).symm

theorem update_eq {s s' : MemoryStore} {coll : String} {id : Value}
    {changes : List (String × Value)} (updated : s.update coll id changes = .ok s') :
    ∃ rs, s' = s.withRecords coll rs := by
  unfold update at updated
  cases found : find? (s.records coll) id with
  | error e => simp [found] at updated
  | ok o =>
    cases o with
    | none => simp [found] at updated
    | some v =>
      cases rebuilt : v.replaceFields changes with
      | error e => simp [found, rebuilt] at updated
      | ok v' =>
        simp only [found, rebuilt, except_ok_bind] at updated
        exact ⟨_, (Except.ok.inj updated).symm⟩

theorem records_create {s s' : MemoryStore} {coll : String} {id record : Value}
    (created : s.create coll id record = .ok s') (coll' : String) :
    s'.records coll' = if coll' = coll then s.records coll ++ [(id, record)] else s.records coll' := by
  rw [create_eq created, records_withRecords]

theorem records_update_of_ne {s s' : MemoryStore} {coll : String} {id : Value}
    {changes : List (String × Value)} (updated : s.update coll id changes = .ok s')
    {coll' : String} (other : coll' ≠ coll) : s'.records coll' = s.records coll' := by
  obtain ⟨rs, rfl⟩ := update_eq updated
  rw [records_withRecords, if_neg other]

end MemoryStore

/-! ## What a write keeps of a listing -/

/-- A record keeps what a listing reads of it: its timestamp, its id and the fields the
equality filters compare. -/
def Collection.Keeps (c : Collection) (r r' : Value) : Prop :=
  r'.atPath c.timestamp = r.atPath c.timestamp ∧ r'.atPath c.id = r.atPath c.id ∧
    ∀ e ∈ c.equality, r'.atPath e.2 = r.atPath e.2

namespace Collection.Keeps

variable {c : Collection} {r r' : Value} (keeps : c.Keeps r r')
include keeps

theorem keyOf_eq : c.keyOf r' = c.keyOf r := by
  simp only [Collection.keyOf, keeps.1, keeps.2.1]

theorem listable (listable : c.Listable r) : c.Listable r' := by
  obtain ⟨t, x, time, aware, id⟩ := listable
  exact ⟨t, x, keeps.1.trans time, aware, keeps.2.1.trans id⟩

theorem admits_eq (filters : List (String × Value)) :
    c.admits filters r' = c.admits filters r := by
  have equalities : c.equality.all (equalityAdmits filters r') =
      c.equality.all (equalityAdmits filters r) := by
    apply Bool.eq_iff_iff.mpr
    simp only [List.all_eq_true]
    apply forall₂_congr
    intro e mem
    simp only [equalityAdmits, keeps.2.2 e mem]
  simp only [Collection.admits, equalities, keeps.keyOf_eq]

end Collection.Keeps

/-- Records that keep what the listing reads, one for one, keep its ids, and each side's
records have a partner on the other. -/
theorem Collection.keeps_records {c : Collection} :
    ∀ {l l' : List (Value × Value)}, List.Forall₂ (fun e e' => c.Keeps e.2 e'.2) l l' →
      l'.map (fun e => e.2.atPath c.id) = l.map (fun e => e.2.atPath c.id) ∧
        (∀ r' ∈ l'.map (·.2), ∃ r ∈ l.map (·.2), c.Keeps r r') ∧
        ∀ r ∈ l.map (·.2), ∃ r' ∈ l'.map (·.2), c.Keeps r r'
  | _, _, .nil => by simp
  | e :: l, e' :: l', .cons keeps rest => by
    obtain ⟨ids, back, forth⟩ := Collection.keeps_records rest
    refine ⟨by simp [ids, keeps.2.1], ?_, ?_⟩
    · intro r' mem
      rcases List.mem_cons.mp mem with rfl | later
      · exact ⟨e.2, List.mem_cons_self, keeps⟩
      · obtain ⟨r, found, kept⟩ := back r' later
        exact ⟨r, List.mem_cons_of_mem _ found, kept⟩
    · intro r mem
      rcases List.mem_cons.mp mem with rfl | later
      · exact ⟨e'.2, List.mem_cons_self, keeps⟩
      · obtain ⟨r', found, kept⟩ := forth r later
        exact ⟨r', List.mem_cons_of_mem _ found, kept⟩

/-- A world whose plain store keeps the records of a collection in memory, every one listable
and their ids distinct. -/
structure Kept (c : Collection) (w : World) (m : MemoryStore) : Prop where
  plain : w.store.Plain m
  listable : ∀ r ∈ (m.records c.name).map (·.2), c.Listable r
  distinct : ((m.records c.name).map fun e => e.2.atPath c.id).Nodup

/-- The world whose store keeps another memory store. -/
def World.keeping (w : World) (m : MemoryStore) : World :=
  { w with store := { w.store with backend := .memory m } }

theorem World.keeping_plain {w : World} {m : MemoryStore} (plain : w.store.Plain m)
    (m' : MemoryStore) : (w.keeping m').store.Plain m' :=
  ⟨rfl, plain.2⟩

theorem Store.Plain.same {s : Store} {m m' : MemoryStore} (plain : s.Plain m)
    (plain' : s.Plain m') : m = m' := by
  have backends := plain.1.symm.trans plain'.1
  injection backends

/-- A write to the memory store between two fetches of a listing of a collection: the creation
of a record, which, if it joins the collection, is listable and has an id none of its records
has; or an update that keeps what the listing reads of every record of the collection. -/
inductive ListingWrite (c : Collection) : World → World → Prop
  | create {w : World} {m m' : MemoryStore} {coll : String} {id record : Value} :
      w.store.Plain m → m.create coll id record = .ok m' →
      (coll = c.name → c.Listable record ∧
        record.atPath c.id ∉ (m.records coll).map fun e => e.2.atPath c.id) →
      ListingWrite c w (w.keeping m')
  | update {w : World} {m m' : MemoryStore} {coll : String} {id : Value}
      {changes : List (String × Value)} :
      w.store.Plain m → m.update coll id changes = .ok m' →
      (coll = c.name →
        List.Forall₂ (fun e e' => c.Keeps e.2 e'.2) (m.records coll) (m'.records coll)) →
      ListingWrite c w (w.keeping m')

section Writes

variable {c : Collection} (filters : List (String × Value))

/-- A write keeps the store plain, its records listable with distinct ids, and every record the
listing admitted admitted still, under its key. -/
theorem ListingWrite.kept {w w' : World} {m : MemoryStore} (write : ListingWrite c w w')
    (kept : Kept c w m) :
    ∃ m', Kept c w' m' ∧
      ∀ r ∈ c.admitted filters m, ∃ r' ∈ c.admitted filters m', c.keyOf r' = c.keyOf r := by
  cases write with
  | @create m₀ m' coll id record plain created fresh =>
    cases plain.same kept.plain
    refine ⟨m', ?_⟩
    by_cases joins : coll = c.name
    · subst joins
      obtain ⟨listable, newId⟩ := fresh rfl
      have records := MemoryStore.records_create created c.name
      rw [if_pos rfl] at records
      refine ⟨⟨World.keeping_plain plain m', ?_, ?_⟩, ?_⟩
      · intro r mem
        rw [records, List.map_append, List.mem_append] at mem
        rcases mem with old | added
        · exact kept.listable r old
        · have same : r = record := by simpa using added
          rw [same]
          exact listable
      · rw [records, List.map_append, List.nodup_append]
        exact ⟨kept.distinct, List.nodup_singleton _,
          fun a old b added same => newId (by simp_all)⟩
      · intro r mem
        refine ⟨r, ?_, rfl⟩
        unfold Collection.admitted at mem ⊢
        rw [records, List.map_append, List.filter_append]
        exact List.mem_append_left _ mem
    · have records := MemoryStore.records_create created c.name
      rw [if_neg (Ne.symm joins)] at records
      refine ⟨⟨World.keeping_plain plain m', ?_, ?_⟩, ?_⟩
      · rw [records]
        exact kept.listable
      · rw [records]
        exact kept.distinct
      · intro r mem
        refine ⟨r, ?_, rfl⟩
        unfold Collection.admitted at mem ⊢
        rw [records]
        exact mem
  | @update m₀ m' coll id changes plain updated keeps =>
    cases plain.same kept.plain
    refine ⟨m', ?_⟩
    by_cases joins : coll = c.name
    · subst joins
      obtain ⟨ids, back, forth⟩ := Collection.keeps_records (keeps rfl)
      refine ⟨⟨World.keeping_plain plain m', ?_, ?_⟩, ?_⟩
      · intro r' mem
        obtain ⟨r, old, kept'⟩ := back r' mem
        exact kept'.listable (kept.listable r old)
      · rw [ids]
        exact kept.distinct
      · intro r mem
        obtain ⟨present, admitted⟩ := List.mem_filter.mp mem
        obtain ⟨r', found, kept'⟩ := forth r present
        refine ⟨r', List.mem_filter.mpr ⟨found, ?_⟩, kept'.keyOf_eq⟩
        rw [kept'.admits_eq]
        exact admitted
    · have records := MemoryStore.records_update_of_ne updated (Ne.symm joins)
      refine ⟨⟨World.keeping_plain plain m', ?_, ?_⟩, ?_⟩
      · rw [records]
        exact kept.listable
      · rw [records]
        exact kept.distinct
      · intro r mem
        refine ⟨r, ?_, rfl⟩
        unfold Collection.admitted at mem ⊢
        rw [records]
        exact mem

/-- Any number of writes keep what one write keeps. -/
theorem ListingWrite.kept_of_writes {w w' : World} {m : MemoryStore}
    (writes : Relation.ReflTransGen (ListingWrite c) w w') (kept : Kept c w m) :
    ∃ m', Kept c w' m' ∧
      ∀ r ∈ c.admitted filters m, ∃ r' ∈ c.admitted filters m', c.keyOf r' = c.keyOf r := by
  induction writes with
  | refl => exact ⟨m, kept, fun r mem => ⟨r, mem, rfl⟩⟩
  | tail _ write ih =>
    obtain ⟨m₁, kept₁, carried₁⟩ := ih
    obtain ⟨m₂, kept₂, carried₂⟩ := write.kept filters kept₁
    refine ⟨m₂, kept₂, fun r mem => ?_⟩
    obtain ⟨r₁, mem₁, key₁⟩ := carried₁ r mem
    obtain ⟨r₂, mem₂, key₂⟩ := carried₂ r₁ mem₁
    exact ⟨r₂, mem₂, key₂.trans key₁⟩

end Writes

/-! ## Pages after a key -/

namespace ListingKey

/-- Keys past a resume key; with none, every key. -/
def beyond : Option ListingKey → ListingKey → Bool
  | none, _ => true
  | some lo, k => lo.before k

theorem beyond_of_before {lo : Option ListingKey} {k k' : ListingKey} (past : beyond lo k)
    (earlier : k.before k') : beyond lo k' := by
  cases lo with
  | none => rfl
  | some l => exact before_trans past earlier

/-- A key no later than another comes before every key after that one. -/
theorem before_of_not_before {p q r : ListingKey} (notAfter : q.before p = false)
    (after : q.before r) : p.before r := by
  rcases before_or_eq_of_not_before notAfter with earlier | same
  · exact before_trans earlier after
  · rw [← same]
    exact after

variable {α : Type} {key : α → ListingKey} {l : List α}

/-- In a list ascending by key, nothing among the first `i + 1` things comes after the `i`-th. -/
theorem not_before_of_mem_take (ascending : l.Pairwise fun a b => (key a).before (key b))
    {i : Nat} (h : i < l.length) {a : α} (mem : a ∈ l.take (i + 1)) :
    (key l[i]).before (key a) = false := by
  obtain ⟨j, hj, rfl⟩ := List.mem_iff_getElem.mp mem
  have bound : j < i + 1 := by simp at hj; omega
  rw [List.getElem_take]
  cases after : (key l[i]).before (key l[j])
  · rfl
  · by_cases same : j = i
    · subst same
      rw [before_self] at after
      cases after
    · have earlier := List.pairwise_iff_getElem.mp ascending j i (by omega) h (by omega)
      have := before_trans earlier after
      rw [before_self] at this
      cases this

/-- In a list ascending by key, a thing of the list that does not come after the `i`-th is among
the first `i + 1`. -/
theorem mem_take_of_not_before (ascending : l.Pairwise fun a b => (key a).before (key b))
    {i : Nat} (h : i < l.length) {a : α} (mem : a ∈ l)
    (notAfter : (key l[i]).before (key a) = false) : a ∈ l.take (i + 1) := by
  obtain ⟨j, hj, rfl⟩ := List.mem_iff_getElem.mp mem
  by_cases early : j ≤ i
  · have inside : j < (l.take (i + 1)).length := by simp; omega
    have same : (l.take (i + 1))[j] = l[j] := List.getElem_take
    rw [← same]
    exact List.getElem_mem inside
  · have later := List.pairwise_iff_getElem.mp ascending i j h hj (by omega)
    rw [notAfter] at later
    cases later

/-- In a list strictly ascending by key, each of its things is the only one of its key. -/
theorem countP_key_eq_one (ascending : l.Pairwise fun a b => (key a).before (key b)) {a : α}
    (mem : a ∈ l) : l.countP (fun b => key b == key a) = 1 := by
  induction l with
  | nil => cases mem
  | cons b l ih =>
    obtain ⟨later, rest⟩ := List.pairwise_cons.mp ascending
    rcases List.mem_cons.mp mem with rfl | inRest
    · -- every thing after the first has a later key
      have none : l.countP (fun b => key b == key a) = 0 :=
        List.countP_eq_zero.mpr fun b' found same => by
          have := later b' found
          rw [(beq_iff_eq.mp same)] at this
          rw [before_self] at this
          cases this
      simp [none]
    · have differ : ¬ key b = key a := by
        intro same
        have := later a inRest
        rw [same, before_self] at this
        cases this
      simp [differ, ih rest inRest]

end ListingKey

theorem resumesPast_eq (c : Collection) (position : Option Cursor) (r : Value) :
    resumesPast c position r = ListingKey.beyond (position.map Cursor.key) (c.keyOf r) := by
  cases position <;> rfl

/-- A page token reads as a position on the calendar that resumes after a key, or from the
start. -/
def ResumesAfter (token : Value) (lo : Option ListingKey) : Prop :=
  ∃ position, positionOfToken token = .ok position ∧
    (∀ cur ∈ position, DateTime.inRange cur.resumeWall) ∧ position.map Cursor.key = lo

theorem resumesAfter_start : ResumesAfter .none none :=
  ⟨none, rfl, by simp, rfl⟩

/-- The token of a listable record safe for tokens resumes after the record's key. -/
theorem resumesAfter_of_safe {c : Collection} {r : Value} (listable : c.Listable r)
    (safe : c.TokenSafe r) :
    ∃ cur, recordCursor c r = .ok cur ∧ ResumesAfter (.str cur.token) (some (c.keyOf r)) := by
  obtain ⟨cur, cursor, reads, onCalendar, key⟩ := position_of_safe listable safe
  exact ⟨cur, cursor, some cur, reads, by simpa using onCalendar, by simp [key]⟩

/-- A page served from some records holds all of them and no token, or the first `s` of them and
the token of the last of those. -/
theorem servedPage_ok {c : Collection} {s : Nat} {rest : List Value} {w w' : World} {p : Page}
    (served : servedPage c s rest w = .ok p w') :
    w' = w ∧ ((rest.length < s ∧ p = ⟨rest, none⟩) ∨
      (s ≤ rest.length ∧ ∃ cur, recordCursor c (rest.getD (s - 1) .none) = .ok cur ∧
        p = ⟨rest.take s, some cur.token⟩)) := by
  by_cases short : rest.length < s
  · rw [servedPage_short short] at served
    obtain ⟨rfl, rfl⟩ := EStateM.Result.ok.inj served
    exact ⟨rfl, .inl ⟨short, rfl⟩⟩
  · rw [servedPage_full short] at served
    split at served
    · next cur cursor =>
      obtain ⟨rfl, rfl⟩ := EStateM.Result.ok.inj served
      exact ⟨rfl, .inr ⟨by omega, cur, cursor, rfl⟩⟩
    · cases served

section Fetch

variable {c : Collection} {filters : List (String × Value)} {limit : Value} {d M : Int}

/-- A page fetched from a kept world is served from its listing past the key the token resumes
after. -/
theorem Kept.fetch {w : World} {m : MemoryStore} (kept : Kept c w m)
    (startReadable : BoundReadable (timeBound filters "start_time"))
    (stopReadable : BoundReadable (timeBound filters "end_time"))
    (request : limit = .none ∨ ∃ k : Int, limit = .int k) (positive : 1 ≤ d) (bounded : d ≤ M)
    {token : Value} {lo : Option ListingKey} (resumes : ResumesAfter token lo)
    (operation timeout : Value) :
    ∃ (S : List Value) (w' : World), S.Perm (c.admitted filters m) ∧
      (S.Pairwise fun a b => (c.keyOf a).before (c.keyOf b)) ∧ w'.store.Plain m ∧
      fetchPage c filters limit token operation (.int d) (.int M) timeout w =
        servedPage c (pageSize limit d M).toNat (S.filter fun r => ListingKey.beyond lo (c.keyOf r))
          w' := by
  obtain ⟨S, perm, ascending⟩ := Collection.exists_listing filters kept.listable kept.distinct
  obtain ⟨position, reads, onCalendar, rfl⟩ := resumes
  obtain ⟨w', plain', fetched⟩ := fetchPage_plain kept.plain kept.listable startReadable
    stopReadable request positive bounded reads onCalendar perm ascending operation timeout
  refine ⟨S, w', perm, ascending, plain', ?_⟩
  rw [fetched, funext (resumesPast_eq c position)]

end Fetch

/-- Pages fetched one after another, each with the token of the page before, while writes change
the world between fetches. A walk may stop after any page; it ends at a page without a token. -/
inductive InterleavedWalk (fetch : Value → ServiceM Page) (write : World → World → Prop) :
    Value → World → List Page → Prop
  | stop {token : Value} {w : World} : InterleavedWalk fetch write token w []
  | last {token : Value} {w w' : World} {items : List Value} :
      fetch token w = .ok ⟨items, none⟩ w' → InterleavedWalk fetch write token w [⟨items, none⟩]
  | next {token : Value} {w w' w'' : World} {items : List Value} {t : String} {pages : List Page} :
      fetch token w = .ok ⟨items, some t⟩ w' → Relation.ReflTransGen write w' w'' →
      InterleavedWalk fetch write (.str t) w'' pages →
      InterleavedWalk fetch write token w (⟨items, some t⟩ :: pages)

theorem InterleavedWalk.stopped_or_fetched {fetch : Value → ServiceM Page}
    {write : World → World → Prop} {token : Value} {w : World} {pages : List Page}
    (walk : InterleavedWalk fetch write token w pages) :
    pages = [] ∨ ∃ p w', fetch token w = .ok p w' := by
  cases walk with
  | stop => exact .inl rfl
  | last fetched => exact .inr ⟨_, _, fetched⟩
  | next fetched _ _ => exact .inr ⟨_, _, fetched⟩

/-- A walk without writes between its fetches. -/
theorem PageRun.interleaved {fetch : Value → ServiceM Page} {write : World → World → Prop}
    {token : Value} {w w' : World} {pages : List Page} (run : PageRun fetch token w pages w') :
    InterleavedWalk fetch write token w pages := by
  induction run with
  | last fetched => exact .last fetched
  | next fetched _ ih => exact .next fetched .refl ih

/-- A walk whose first page has a token comes to a page without one only after it. -/
theorem ends_of_cons {p₀ : Page} {pages : List Page} (token : p₀.cursor.isSome)
    (ends : ∃ p, (p₀ :: pages).getLast? = some p ∧ p.cursor = none) :
    ∃ p, pages.getLast? = some p ∧ p.cursor = none := by
  obtain ⟨p, lastPage, noToken⟩ := ends
  cases pages with
  | nil =>
    obtain rfl : p₀ = p := by simpa using lastPage
    simp [noToken] at token
  | cons q qs => exact ⟨p, by rwa [List.getLast?_cons_cons] at lastPage, noToken⟩

section Walk

variable {c : Collection} {filters : List (String × Value)} {limit : Value} {d M : Int}
  {operation timeout : Value}

/-- Along a walk that resumes after a key, with the listing's writes between its fetches, the
records delivered are strictly ascending and past that key; and if the walk comes to a page
without a token, it has delivered every record past that key that the listing admitted when
the walk began. -/
theorem InterleavedWalk.delivers
    (startDomain : timeBound filters "start_time" = .none ∨
      ∃ t, timeBound filters "start_time" = .time t)
    (stopDomain : timeBound filters "end_time" = .none ∨
      ∃ t, timeBound filters "end_time" = .time t)
    (request : limit = .none ∨ ∃ k : Int, limit = .int k) (positive : 1 ≤ d) (bounded : d ≤ M)
    {token : Value} {w : World} {pages : List Page}
    (walk : InterleavedWalk (fun token => fetchPage c filters limit token operation (.int d)
      (.int M) timeout) (ListingWrite c) token w pages) :
    ∀ {m : MemoryStore} {lo : Option ListingKey}, Kept c w m → ResumesAfter token lo →
      (pages.flatMap Page.items).Pairwise (fun a b => (c.keyOf a).before (c.keyOf b)) ∧
      (∀ q ∈ pages.flatMap Page.items, ListingKey.beyond lo (c.keyOf q)) ∧
      ((∃ p, pages.getLast? = some p ∧ p.cursor = none) →
        ∀ r ∈ c.admitted filters m, ListingKey.beyond lo (c.keyOf r) →
          ∃ q ∈ pages.flatMap Page.items, c.keyOf q = c.keyOf r) := by
  have sized : 0 < (pageSize limit d M).toNat := by
    have := pageSize_pos limit positive bounded
    omega
  induction walk with
  | stop =>
    intro m lo _ _
    simp
  | last fetched =>
    intro m lo kept resumes
    obtain ⟨startReadable, stopReadable⟩ :=
      fetchPage_readable request startDomain stopDomain fetched
    obtain ⟨S, w₁, perm, ascending, -, served⟩ :=
      kept.fetch startReadable stopReadable request positive bounded resumes operation timeout
    rw [served] at fetched
    obtain ⟨-, ⟨-, page⟩ | ⟨-, cur, -, page⟩⟩ := servedPage_ok fetched
    · -- the last page is all of the listing past the key
      cases page
      simp only [List.flatMap_cons, List.flatMap_nil, List.append_nil]
      refine ⟨ascending.filter _, fun q mem => (List.mem_filter.mp mem).2, ?_⟩
      intro _ r mem past
      exact ⟨r, List.mem_filter.mpr ⟨perm.mem_iff.mpr mem, past⟩, rfl⟩
    · cases page
  | @next token w w' w'' items t pages fetched writes tail ih =>
    intro m lo kept resumes
    obtain ⟨startReadable, stopReadable⟩ :=
      fetchPage_readable request startDomain stopDomain fetched
    obtain ⟨S, w₁, perm, ascending, plain₁, served⟩ :=
      kept.fetch startReadable stopReadable request positive bounded resumes operation timeout
    rw [served] at fetched
    obtain ⟨rfl, ⟨-, page⟩ | ⟨full, cur, cursor, page⟩⟩ := servedPage_ok fetched
    · cases page
    cases page
    -- the page is the first `i + 1` records of the listing past the key
    generalize (pageSize limit d M).toNat = s at full cursor sized ⊢
    obtain ⟨i, rfl⟩ := Nat.exists_eq_add_one.mpr sized
    generalize restIs : S.filter (fun r => ListingKey.beyond lo (c.keyOf r)) = rest at full cursor
    have restAscending : rest.Pairwise fun a b => (c.keyOf a).before (c.keyOf b) := by
      rw [← restIs]
      exact ascending.filter _
    have inRest : ∀ {r}, r ∈ rest ↔ r ∈ c.admitted filters m ∧ ListingKey.beyond lo (c.keyOf r) := by
      intro r
      rw [← restIs, List.mem_filter, perm.mem_iff]
    have inside : i < rest.length := by omega
    have lastIs : rest.getD i .none = rest[i] := (List.getElem_eq_getD Value.none).symm
    rw [Nat.add_sub_cancel, lastIs] at cursor
    have listable : c.Listable rest[i] :=
      kept.listable _ (List.mem_of_mem_filter (inRest.mp (List.getElem_mem inside)).1)
    -- the rest of the walk, from the world the writes leave
    obtain ⟨m'', kept'', carried⟩ :=
      ListingWrite.kept_of_writes filters writes ⟨plain₁, kept.listable, kept.distinct⟩
    have later : (pages.flatMap Page.items).Pairwise (fun a b => (c.keyOf a).before (c.keyOf b)) ∧
        (∀ q ∈ pages.flatMap Page.items, (c.keyOf rest[i]).before (c.keyOf q)) ∧
        ((∃ p, pages.getLast? = some p ∧ p.cursor = none) →
          ∀ r ∈ c.admitted filters m'', (c.keyOf rest[i]).before (c.keyOf r) →
            ∃ q ∈ pages.flatMap Page.items, c.keyOf q = c.keyOf r) := by
      rcases tail.stopped_or_fetched with rfl | ⟨_, _, next⟩
      · simp
      · -- the next fetch went through, so the token of the page's last record reads
        have safe := tokenSafe_of_reads listable cursor (fetchPage_reads request next)
        obtain ⟨cur', cursor', resumes'⟩ := resumesAfter_of_safe listable safe
        rw [cursor] at cursor'
        cases cursor'
        exact ih kept'' resumes'
    obtain ⟨laterAscending, laterPast, laterComplete⟩ := later
    rw [List.flatMap_cons]
    refine ⟨?_, ?_, ?_⟩
    · refine List.pairwise_append.mpr ⟨restAscending.sublist (List.take_sublist _ _),
        laterAscending, fun a onPage b after => ?_⟩
      exact ListingKey.before_of_not_before
        (ListingKey.not_before_of_mem_take restAscending inside onPage) (laterPast b after)
    · intro q mem
      rcases List.mem_append.mp mem with onPage | after
      · exact (inRest.mp (List.mem_of_mem_take onPage)).2
      · exact ListingKey.beyond_of_before (inRest.mp (List.getElem_mem inside)).2
          (laterPast q after)
    · intro ends r mem past
      by_cases beyondPage : (c.keyOf rest[i]).before (c.keyOf r)
      · obtain ⟨r'', mem'', key''⟩ := carried r mem
        obtain ⟨q, found, key⟩ := laterComplete (ends_of_cons rfl ends) r'' mem''
          (by rw [key'']; exact beyondPage)
        exact ⟨q, List.mem_append_right _ found, key.trans key''⟩
      · have onPage := ListingKey.mem_take_of_not_before restAscending inside
          (inRest.mpr ⟨mem, past⟩) (by simpa using beyondPage)
        exact ⟨r, List.mem_append_left _ onPage, rfl⟩

/-- A walk from no page token, with records created and updated between its fetches, delivers
records in strictly ascending order of instant and id; and once it comes to a page without a
token, it has delivered each record its listing admitted when it began exactly once, under the
record's key. -/
theorem walk_stable_under_writes
    (startDomain : timeBound filters "start_time" = .none ∨
      ∃ t, timeBound filters "start_time" = .time t)
    (stopDomain : timeBound filters "end_time" = .none ∨
      ∃ t, timeBound filters "end_time" = .time t)
    (request : limit = .none ∨ ∃ k : Int, limit = .int k) (positive : 1 ≤ d) (bounded : d ≤ M)
    {w : World} {m : MemoryStore} (kept : Kept c w m) {pages : List Page}
    (walk : InterleavedWalk (fun token => fetchPage c filters limit token operation (.int d)
      (.int M) timeout) (ListingWrite c) .none w pages) :
    (pages.flatMap Page.items).Pairwise (fun a b => (c.keyOf a).before (c.keyOf b)) ∧
      ((∃ p, pages.getLast? = some p ∧ p.cursor = none) →
        ∀ r ∈ c.admitted filters m,
          (pages.flatMap Page.items).countP (fun q => c.keyOf q == c.keyOf r) = 1) := by
  obtain ⟨ascending, -, complete⟩ :=
    walk.delivers startDomain stopDomain request positive bounded kept resumesAfter_start
  refine ⟨ascending, fun ends r admitted => ?_⟩
  obtain ⟨q, delivered, key⟩ := complete ends r admitted rfl
  rw [← key]
  exact ListingKey.countP_key_eq_one ascending delivered

end Walk

/-- Two tasks listed two to a page, with a third task created after the first page: the walk
takes a second page for the new task, and delivers each task of the first listing once. -/
theorem walk_past_created_task :
    ∃ pages, InterleavedWalk (fun token => fetchPage Collection.tasks [] (.int 2) token
        (.str "tasks") (.int 20) (.int 100) .none) (ListingWrite Collection.tasks) .none
        (World.ofTasks [("a", 18262), ("b", 18263)]) pages ∧
      (pages.flatMap Page.items).Pairwise
        (fun a b => (Collection.tasks.keyOf a).before (Collection.tasks.keyOf b)) ∧
      (∃ p, pages.getLast? = some p ∧ p.cursor = none) ∧
      ∀ r ∈ Collection.tasks.admitted [] (MemoryStore.ofTasks [("a", 18262), ("b", 18263)]),
        (pages.flatMap Page.items).countP
          (fun q => Collection.tasks.keyOf q == Collection.tasks.keyOf r) = 1 := by
  have listing₀ : Listing Collection.tasks [] (MemoryStore.ofTasks [("a", 18262), ("b", 18263)])
      (.int 2) 20 100 [taskOn "a" 18262, taskOn "b" 18263] :=
    { listable := ofTasks_listable _
      startReadable := .inl rfl
      stopReadable := .inl rfl
      request := .inr ⟨2, rfl⟩
      positive := by decide
      bounded := by decide
      perm := .of_eq rfl
      ascending := by decide +kernel }
  have listing₁ : Listing Collection.tasks []
      (MemoryStore.ofTasks [("a", 18262), ("b", 18263), ("c", 18264)]) (.int 2) 20 100
      [taskOn "a" 18262, taskOn "b" 18263, taskOn "c" 18264] :=
    { listing₀ with
      listable := ofTasks_listable _
      perm := .of_eq rfl
      ascending := by decide +kernel }
  have size : (pageSize (.int 2) 20 100).toNat = 2 := by decide
  -- the first page ends with task "b", whose token resumes the grown listing after two tasks
  obtain ⟨cur, cursor, resumes⟩ := listing₁.resumes_of_safe (i := 1) (by decide)
    ⟨_, 18263 * 86400000000000, rfl, by decide +kernel, by decide, by decide, by decide⟩
  obtain ⟨w₁, plain₁, first⟩ :=
    listing₀.fetch_resumes (resumes_start _ _) (w := World.ofTasks [("a", 18262), ("b", 18263)])
      ⟨rfl, rfl⟩ (.str "tasks") .none
  have lastB : ([taskOn "a" 18262, taskOn "b" 18263].drop 0).getD (2 - 1) .none =
      taskOn "b" 18263 := rfl
  have cursorB : recordCursor Collection.tasks (taskOn "b" 18263) = .ok cur := cursor
  rw [size, servedPage_full (by decide), lastB, cursorB] at first
  -- task "c" is created under a new id
  have created : (MemoryStore.ofTasks [("a", 18262), ("b", 18263)]).create "tasks" (.str "c")
      (taskOn "c" 18264) = .ok (MemoryStore.ofTasks [("a", 18262), ("b", 18263), ("c", 18264)]) := by
    simp [MemoryStore.create, MemoryStore.find?, MemoryStore.records, MemoryStore.ofTasks,
      MemoryStore.withRecords, Value.unhashablePart, Value.alike, Value.bothNaN, Value.same]
  have write : ListingWrite Collection.tasks w₁ (w₁.keeping _) :=
    .create plain₁ created fun _ => ⟨taskOn_listable "c" 18264, by
      change Value.str "c" ∉ [Value.str "a", .str "b"]
      simp⟩
  obtain ⟨w₂, -, second⟩ := listing₁.fetch_resumes resumes (World.keeping_plain plain₁ _)
    (.str "tasks") .none
  rw [size, servedPage_short (by decide)] at second
  have walk : InterleavedWalk (fun token => fetchPage Collection.tasks [] (.int 2) token
      (.str "tasks") (.int 20) (.int 100) .none) (ListingWrite Collection.tasks) .none
      (World.ofTasks [("a", 18262), ("b", 18263)])
      [⟨[taskOn "a" 18262, taskOn "b" 18263], some cur.token⟩, ⟨[taskOn "c" 18264], none⟩] :=
    .next first (.single write) (.last second)
  have kept : Kept Collection.tasks (World.ofTasks [("a", 18262), ("b", 18263)])
      (MemoryStore.ofTasks [("a", 18262), ("b", 18263)]) :=
    ⟨⟨rfl, rfl⟩, ofTasks_listable _, by change [Value.str "a", .str "b"].Nodup; simp⟩
  obtain ⟨ascending, complete⟩ := walk_stable_under_writes (.inl rfl) (.inl rfl) (.inr ⟨2, rfl⟩)
    (by decide) (by decide) kept walk
  exact ⟨_, walk, ascending, ⟨_, rfl, rfl⟩, complete ⟨_, rfl, rfl⟩⟩

end Storefront
