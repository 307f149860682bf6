import Storefront.Proofs.Page.Fetch

/-!
# Walking through a listing

A walk fetches the first page without a token and each later page with the token of the page
before, until a page comes without a token. For a listing kept by a plain memory store, a
walk cuts the listing into full pages followed by a last page of what is left, exactly when
every record that ends a full page has a token that reads back; otherwise the walk stops with
a failure at the page after that record.
-/

namespace Storefront

/-- Pages fetched one after another from a page token, each with the token the page before
gave, up to the first page without one. -/
inductive PageRun (fetch : Value → ServiceM Page) : Value → World → List Page → World → Prop
  | last {token : Value} {w w' : World} {items : List Value} :
      fetch token w = .ok ⟨items, none⟩ w' → PageRun fetch token w [⟨items, none⟩] w'
  | next {token : Value} {w w' w'' : World} {items : List Value} {t : String} {pages : List Page} :
      fetch token w = .ok ⟨items, some t⟩ w' → PageRun fetch (.str t) w' pages w'' →
      PageRun fetch token w (⟨items, some t⟩ :: pages) w''

theorem PageRun.first {fetch : Value → ServiceM Page} {token : Value} {w w' : World}
    {pages : List Page} (run : PageRun fetch token w pages w') :
    ∃ p w₁, fetch token w = .ok p w₁ := by
  cases run with
  | last fetched => exact ⟨_, _, fetched⟩
  | next fetched _ => exact ⟨_, _, fetched⟩

/-- Pages that cut some records into full pages of `s`, each with a token, and a last page of
the rest, without one. -/
structure Paged (s : Nat) (rest : List Value) (pages : List Page) : Prop where
  items : pages.flatMap Page.items = rest
  count : pages.length = rest.length / s + 1
  full : ∀ p ∈ pages.dropLast, p.items.length = s ∧ p.cursor.isSome
  last : ∃ p, pages.getLast? = some p ∧ p.items.length = rest.length % s ∧ p.cursor = none

theorem Paged.single {s : Nat} {rest : List Value} (short : rest.length < s) :
    Paged s rest [⟨rest, none⟩] where
  items := by simp
  count := by simp [Nat.div_eq_of_lt short]
  full := by simp
  last := ⟨_, rfl, (Nat.mod_eq_of_lt short).symm, rfl⟩

theorem Paged.cons {s : Nat} {rest : List Value} {pages : List Page} (positive : 0 < s)
    (full : s ≤ rest.length) (paged : Paged s (rest.drop s) pages) (t : String) :
    Paged s rest (⟨rest.take s, some t⟩ :: pages) where
  items := by rw [List.flatMap_cons, paged.items, List.take_append_drop]
  count := by
    rw [List.length_cons, paged.count, List.length_drop, Nat.div_eq_sub_div positive full]
  full := by
    have nonempty : pages ≠ [] := fun empty => by simpa [empty] using paged.count
    rw [List.dropLast_cons_of_ne_nil nonempty]
    intro p mem
    rcases List.mem_cons.mp mem with rfl | later
    · exact ⟨List.length_take_of_le full, rfl⟩
    · exact paged.full p later
  last := by
    obtain ⟨p, lastPage, size, noToken⟩ := paged.last
    refine ⟨p, by simp [List.getLast?_cons, lastPage], ?_, noToken⟩
    rw [size, List.length_drop, ← Nat.mod_eq_sub_mod full]

/-- No multiple of `s` lies strictly between a multiple of `s` and the next one. -/
theorem not_dvd_between {s a j : Nat} (divides : s ∣ a) (above : a < j) (below : j < a + s) :
    ¬ s ∣ j := by
  rintro ⟨q', rfl⟩
  obtain ⟨q, rfl⟩ := divides
  have low : q < q' := Nat.lt_of_mul_lt_mul_left above
  have high : q' < q + 1 := Nat.lt_of_mul_lt_mul_left (by rw [Nat.mul_add, Nat.mul_one]; exact below)
  omega

/-- What a walk through a listing kept in memory relies on: every record of the collection can
be listed, the time bounds can be read in UTC, the page size requested is missing or an
integer and the default is at least one and at most the maximum, and `S` is the listing: the
admitted records in ascending order of key. -/
structure Listing (c : Collection) (filters : List (String × Value)) (m : MemoryStore)
    (limit : Value) (d M : Int) (S : List Value) : Prop where
  listable : ∀ r ∈ (m.records c.name).map (·.2), c.Listable r
  startReadable : BoundReadable (timeBound filters "start_time")
  stopReadable : BoundReadable (timeBound filters "end_time")
  request : limit = .none ∨ ∃ k : Int, limit = .int k
  positive : 1 ≤ d
  bounded : d ≤ M
  perm : S.Perm (((m.records c.name).map (·.2)).filter (c.admits filters))
  ascending : S.Pairwise fun a b => (c.keyOf a).before (c.keyOf b)

/-- A page token resumes a listing after its first `a` records. -/
def Resumes (c : Collection) (S : List Value) (token : Value) (a : Nat) : Prop :=
  ∃ position, positionOfToken token = .ok position ∧
    (∀ cur ∈ position, DateTime.inRange cur.resumeWall) ∧ S.filter (resumesPast c position) = S.drop a

theorem resumes_start (c : Collection) (S : List Value) : Resumes c S .none 0 :=
  ⟨none, rfl, by simp, by simp [resumesPast]⟩

/-- The key a read position resumes after. -/
def Cursor.key (cur : Cursor) : ListingKey := ⟨cur.resumeWall, cur.id⟩

/-- The token of a listable record reads only if the record is safe for tokens. -/
theorem tokenSafe_of_reads {c : Collection} {r : Value} (listable : c.Listable r) {cur : Cursor}
    (cursor : recordCursor c r = .ok cur)
    (reads : ∃ position, positionOfToken (.str cur.token) = .ok position) : c.TokenSafe r := by
  obtain ⟨t, x, time, -, id⟩ := listable
  obtain ⟨position, read⟩ := reads
  obtain ⟨-, low, high, noComma⟩ := positionOfToken_token.1 read
  rw [recordCursor_listable time id] at cursor
  cases nanos : t.toNanos? with
  | none => simp [nanos] at cursor
  | some n =>
    simp only [nanos, Except.ok.injEq] at cursor
    subst cursor
    exact ⟨t, n, time, nanos, low, high, by rwa [Collection.keyOf_eq time id]⟩

/-- The token of a listable record safe for tokens reads back as a position on the calendar at
the record's key. -/
theorem position_of_safe {c : Collection} {r : Value} (listable : c.Listable r)
    (safe : c.TokenSafe r) :
    ∃ cur, recordCursor c r = .ok cur ∧ positionOfToken (.str cur.token) = .ok (some cur) ∧
      DateTime.inRange cur.resumeWall ∧ cur.key = c.keyOf r := by
  obtain ⟨t, x, time, -, id⟩ := listable
  obtain ⟨t', n, time', nanos, low, high, noComma⟩ := safe
  rw [time] at time'
  cases time'
  rw [Collection.keyOf_eq time id] at noComma ⊢
  obtain ⟨wall, onCalendar⟩ := resumeWall_of_toNanos nanos x
  refine ⟨⟨n, x⟩, by rw [recordCursor_listable time id, nanos], ?_, onCalendar, ?_⟩
  · exact positionOfToken_token.2 ⟨rfl, low, high, noComma⟩
  · rw [Cursor.key, wall]

theorem last_of_page {S : List Value} {a s : Nat} (positive : 0 < s)
    (inside : a + s - 1 < S.length) : (S.drop a).getD (s - 1) .none = S[a + s - 1] := by
  simp [List.getD_eq_getElem?_getD, List.getElem?_drop, show a + (s - 1) = a + s - 1 by omega,
    inside]

namespace Listing

variable {c : Collection} {filters : List (String × Value)} {m : MemoryStore} {limit : Value}
  {d M : Int} {S : List Value} (listing : Listing c filters m limit d M S)
include listing

theorem listable_mem {r : Value} (mem : r ∈ S) : c.Listable r :=
  listing.listable r (List.mem_of_mem_filter (listing.perm.subset mem))

theorem size_pos : 0 < (pageSize limit d M).toNat := by
  have := pageSize_pos limit listing.positive listing.bounded
  omega

/-- A page fetched with a token that resumes after `a` records is served from the rest. -/
theorem fetch_resumes {token : Value} {a : Nat} (resumes : Resumes c S token a) {w : World}
    (plain : w.store.Plain m) (operation timeout : Value) :
    ∃ w', w'.store.Plain m ∧
      fetchPage c filters limit token operation (.int d) (.int M) timeout w =
        servedPage c (pageSize limit d M).toNat (S.drop a) w' := by
  obtain ⟨position, reads, onCalendar, rest⟩ := resumes
  rw [← rest]
  exact fetchPage_plain plain listing.listable listing.startReadable listing.stopReadable
    listing.request listing.positive listing.bounded reads onCalendar listing.perm
    listing.ascending operation timeout

/-- The token of a record safe for tokens resumes the listing after it. -/
theorem resumes_of_safe {i : Nat} (h : i < S.length) (safe : c.TokenSafe S[i]) :
    ∃ cur, recordCursor c S[i] = .ok cur ∧ Resumes c S (.str cur.token) (i + 1) := by
  obtain ⟨cur, cursor, reads, onCalendar, key⟩ :=
    position_of_safe (listing.listable_mem (List.getElem_mem h)) safe
  refine ⟨cur, cursor, some cur, reads, by simpa using onCalendar, ?_⟩
  show S.filter (fun r => cur.key.before (c.keyOf r)) = S.drop (i + 1)
  rw [key]
  exact ListingKey.filter_after_getElem listing.ascending h

/-- Along a walk that resumes after `a` records, every record that ends a full page is safe
for tokens, and the pages cut the rest of the listing into full pages and a last page. -/
theorem paged_of_run (operation timeout : Value) {token : Value} {w w' : World}
    {pages : List Page}
    (run : PageRun (fun token => fetchPage c filters limit token operation (.int d) (.int M)
      timeout) token w pages w') :
    ∀ a, (pageSize limit d M).toNat ∣ a → Resumes c S token a → w.store.Plain m →
      (∀ i (h : i < S.length), a ≤ i → (pageSize limit d M).toNat ∣ i + 1 → c.TokenSafe S[i]) ∧
        Paged (pageSize limit d M).toNat (S.drop a) pages := by
  have positive := listing.size_pos
  generalize sizeIs : (pageSize limit d M).toNat = s at positive ⊢
  induction run with
  | last fetched =>
    intro a divides resumes plain
    obtain ⟨w₁, -, served⟩ := listing.fetch_resumes resumes plain operation timeout
    rw [sizeIs] at served
    have page := fetched.symm.trans served
    by_cases short : (S.drop a).length < s
    · rw [servedPage_short short] at page
      obtain ⟨rfl, -⟩ := Page.mk.inj (EStateM.Result.ok.inj page).1
      refine ⟨fun i h lower ends => ?_, Paged.single short⟩
      rw [List.length_drop] at short
      exact absurd ends (not_dvd_between divides (by omega) (by omega))
    · rw [servedPage_full short] at page
      split at page <;> cases page
  | next fetched rest ih =>
    intro a divides resumes plain
    obtain ⟨w₁, plain₁, served⟩ := listing.fetch_resumes resumes plain operation timeout
    rw [sizeIs] at served
    have page := fetched.symm.trans served
    by_cases short : (S.drop a).length < s
    · rw [servedPage_short short] at page
      cases page
    have full : a + s ≤ S.length := by
      rw [List.length_drop] at short
      omega
    have inside : a + s - 1 < S.length := by omega
    rw [servedPage_full short, last_of_page positive inside] at page
    cases cursor : recordCursor c S[a + s - 1] with
    | error e =>
      rw [cursor] at page
      cases page
    | ok cur =>
      rw [cursor] at page
      obtain ⟨⟨rfl, token⟩, rfl⟩ := And.intro (Page.mk.inj (EStateM.Result.ok.inj page).1)
        (EStateM.Result.ok.inj page).2
      cases Option.some.inj token
      -- the rest of the walk starts with a fetch, so the token reads
      obtain ⟨_, _, next⟩ := rest.first
      have safe := tokenSafe_of_reads (listing.listable_mem (List.getElem_mem inside)) cursor
        (fetchPage_reads listing.request next)
      obtain ⟨cur', cursor', resumes'⟩ := listing.resumes_of_safe inside safe
      rw [cursor] at cursor'
      cases cursor'
      rw [show a + s - 1 + 1 = a + s by omega] at resumes'
      obtain ⟨safeRest, paged⟩ := ih (a + s) (Nat.dvd_add divides (Nat.dvd_refl s)) resumes' plain₁
      refine ⟨fun i h lower ends => ?_, ?_⟩
      · by_cases beyond : a + s ≤ i
        · exact safeRest i h beyond ends
        · by_cases endsPage : i = a + s - 1
          · subst endsPage
            exact safe
          · exact absurd ends (not_dvd_between divides (by omega) (by omega))
      · rw [← List.drop_drop] at paged
        exact Paged.cons positive (by rw [List.length_drop]; omega) paged cur.token

/-- When every record that ends a full page is safe for tokens, a walk goes through from any
token that resumes after a whole number of pages. -/
theorem run_of_safe (operation timeout : Value)
    (safe : ∀ i (h : i < S.length), (pageSize limit d M).toNat ∣ i + 1 → c.TokenSafe S[i]) :
    ∀ n a token (w : World), S.length - a < n → (pageSize limit d M).toNat ∣ a →
      Resumes c S token a → w.store.Plain m →
      ∃ pages w', PageRun (fun token => fetchPage c filters limit token operation (.int d) (.int M)
        timeout) token w pages w'
  | 0, _, _, _, bound, _, _, _ => absurd bound (Nat.not_lt_zero _)
  | n + 1, a, token, w, bound, divides, resumes, plain => by
    obtain ⟨w₁, plain₁, served⟩ := listing.fetch_resumes resumes plain operation timeout
    by_cases short : (S.drop a).length < (pageSize limit d M).toNat
    · rw [servedPage_short short] at served
      exact ⟨_, _, .last served⟩
    have positive := listing.size_pos
    have inside : a + (pageSize limit d M).toNat - 1 < S.length := by
      rw [List.length_drop] at short
      omega
    obtain ⟨cur, cursor, resumes'⟩ := listing.resumes_of_safe inside
      (safe _ inside (by rw [show a + (pageSize limit d M).toNat - 1 + 1 =
        a + (pageSize limit d M).toNat by omega]; exact Nat.dvd_add divides (Nat.dvd_refl _)))
    rw [servedPage_full short, last_of_page positive inside, cursor] at served
    rw [show a + (pageSize limit d M).toNat - 1 + 1 = a + (pageSize limit d M).toNat by omega]
      at resumes'
    obtain ⟨pages, w', run⟩ := run_of_safe operation timeout safe n _ _ w₁ (by omega)
      (Nat.dvd_add divides (Nat.dvd_refl _)) resumes' plain₁
    exact ⟨_, _, .next served run⟩

end Listing

/-! ## Walking a whole listing -/

/-- The records of a collection kept in memory that a listing with these filters admits. -/
def Collection.admitted (c : Collection) (filters : List (String × Value)) (m : MemoryStore) :
    List Value :=
  ((m.records c.name).map (·.2)).filter (c.admits filters)

/-- The place of a record in a listing of some records, counting from one: how many of them
come no later than it. -/
def Collection.place (c : Collection) (records : List Value) (r : Value) : Nat :=
  (records.filter fun q => !(c.keyOf r).before (c.keyOf q)).length

/-- Listable records with distinct ids have distinct keys. -/
theorem Collection.keys_nodup {c : Collection} {rs : List Value}
    (listable : ∀ r ∈ rs, c.Listable r) (distinct : (rs.map fun r => r.atPath c.id).Nodup) :
    (rs.map c.keyOf).Nodup := by
  apply List.Nodup.of_map fun k : ListingKey => Value.str k.id
  rw [List.map_map]
  convert distinct using 1
  apply List.map_congr_left
  intro r mem
  obtain ⟨t, x, time, -, id⟩ := listable r mem
  simp [Collection.keyOf_eq time id, id]

/-- Listable records with distinct ids have a listing: the admitted ones in strictly ascending
order of key. -/
theorem Collection.exists_listing {c : Collection} (filters : List (String × Value))
    {m : MemoryStore} (listable : ∀ r ∈ (m.records c.name).map (·.2), c.Listable r)
    (distinct : ((m.records c.name).map fun e => e.2.atPath c.id).Nodup) :
    ∃ S : List Value, S.Perm (c.admitted filters m) ∧
      S.Pairwise fun a b => (c.keyOf a).before (c.keyOf b) := by
  have keys : ((c.admitted filters m).map c.keyOf).Nodup := by
    have all := Collection.keys_nodup listable
      (by simpa [List.map_map, Function.comp_def] using distinct)
    exact ((List.filter_sublist).map _).nodup all
  exact ListingKey.exists_ascending c.keyOf _ keys

/-- In a list ascending by key, the `i`-th thing has place `i + 1`. -/
theorem place_getElem {c : Collection} {S : List Value}
    (ascending : S.Pairwise fun a b => (c.keyOf a).before (c.keyOf b)) {i : Nat}
    (h : i < S.length) : c.place S S[i] = i + 1 := by
  have split := List.length_eq_length_filter_add (l := S) fun q => (c.keyOf S[i]).before (c.keyOf q)
  rw [ListingKey.filter_after_getElem ascending h, List.length_drop] at split
  unfold Collection.place
  omega

/-- A walk through a listing kept by a plain memory store, from no page token, goes through
exactly when the listing's time bounds can be read in UTC and every admitted record whose
place is a multiple of the page size, so that it ends a full page, has a page token that reads
back. Every such walk takes one page more than there are full pages; every page but the last is
full and has a token, and the last has the rest and none; and the pages together are the
admitted records, each once, in strictly ascending order of instant and id. -/
theorem walk_lists_admitted_records {c : Collection} {filters : List (String × Value)}
    {m : MemoryStore} {w : World} (plain : w.store.Plain m)
    (listable : ∀ r ∈ (m.records c.name).map (·.2), c.Listable r)
    (distinct : ((m.records c.name).map fun e => e.2.atPath c.id).Nodup)
    (startDomain : timeBound filters "start_time" = .none ∨
      ∃ t, timeBound filters "start_time" = .time t)
    (stopDomain : timeBound filters "end_time" = .none ∨
      ∃ t, timeBound filters "end_time" = .time t)
    {limit : Value} (request : limit = .none ∨ ∃ k : Int, limit = .int k) {d M : Int}
    (positive : 1 ≤ d) (bounded : d ≤ M) (operation timeout : Value) :
    ((∃ pages w', PageRun (fun token => fetchPage c filters limit token operation (.int d)
        (.int M) timeout) .none w pages w') ↔
      BoundReadable (timeBound filters "start_time") ∧
        BoundReadable (timeBound filters "end_time") ∧
        ∀ r ∈ c.admitted filters m,
          (pageSize limit d M).toNat ∣ c.place (c.admitted filters m) r → c.TokenSafe r) ∧
    ∀ pages w', PageRun (fun token => fetchPage c filters limit token operation (.int d)
        (.int M) timeout) .none w pages w' →
      pages.length = (c.admitted filters m).length / (pageSize limit d M).toNat + 1 ∧
      (∀ p ∈ pages.dropLast, p.items.length = (pageSize limit d M).toNat ∧ p.cursor.isSome) ∧
      (∃ p, pages.getLast? = some p ∧
        p.items.length = (c.admitted filters m).length % (pageSize limit d M).toNat ∧
        p.cursor = none) ∧
      (pages.flatMap Page.items).Perm (c.admitted filters m) ∧
      (pages.flatMap Page.items).Pairwise fun a b => (c.keyOf a).before (c.keyOf b) := by
  -- the listing: the admitted records in ascending order of key
  obtain ⟨S, perm, ascending⟩ := Collection.exists_listing filters listable distinct
  have listing : BoundReadable (timeBound filters "start_time") →
      BoundReadable (timeBound filters "end_time") → Listing c filters m limit d M S :=
    fun startReadable stopReadable =>
      ⟨listable, startReadable, stopReadable, request, positive, bounded, perm, ascending⟩
  have places : ∀ i (h : i < S.length), c.place (c.admitted filters m) S[i] = i + 1 := by
    intro i h
    rw [Collection.place, ← (perm.filter _).length_eq]
    exact place_getElem ascending h
  -- what every walk from no token shows
  have walked : ∀ pages w', PageRun (fun token => fetchPage c filters limit token operation
      (.int d) (.int M) timeout) .none w pages w' →
      BoundReadable (timeBound filters "start_time") ∧
        BoundReadable (timeBound filters "end_time") ∧
        (∀ i (h : i < S.length), (pageSize limit d M).toNat ∣ i + 1 → c.TokenSafe S[i]) ∧
        Paged (pageSize limit d M).toNat S pages := by
    intro pages w' run
    obtain ⟨_, _, first⟩ := run.first
    obtain ⟨startReadable, stopReadable⟩ := fetchPage_readable request startDomain stopDomain first
    obtain ⟨safe, paged⟩ := (listing startReadable stopReadable).paged_of_run operation timeout
      run 0 (Nat.dvd_zero _) (resumes_start c S) plain
    exact ⟨startReadable, stopReadable, fun i h ends => safe i h (Nat.zero_le _) ends,
      by simpa using paged⟩
  refine ⟨⟨?_, ?_⟩, ?_⟩
  · rintro ⟨pages, w', run⟩
    obtain ⟨startReadable, stopReadable, safe, -⟩ := walked pages w' run
    refine ⟨startReadable, stopReadable, fun r mem ends => ?_⟩
    obtain ⟨i, h, rfl⟩ := List.mem_iff_getElem.mp (perm.symm.subset mem)
    rw [places i h] at ends
    exact safe i h ends
  · rintro ⟨startReadable, stopReadable, safe⟩
    exact (listing startReadable stopReadable).run_of_safe operation timeout
      (fun i h ends => safe S[i] (perm.subset (List.getElem_mem h)) (by rw [places i h]; exact ends))
      (S.length + 1) 0 .none w (by omega) (Nat.dvd_zero _) (resumes_start c S) plain
  · intro pages w' run
    obtain ⟨-, -, -, paged⟩ := walked pages w' run
    have size := perm.length_eq
    refine ⟨by rw [paged.count, size], paged.full, by rw [← size]; exact paged.last, ?_, ?_⟩
    · rw [paged.items]
      exact perm
    · rw [paged.items]
      exact ascending

/-- A task of order "o", submitted at midnight UTC of a day counted from the Unix epoch. -/
def taskOn (id : String) (day : Int) : Value :=
  .record .task [("id", .str id), ("order_id", .str "o"),
    ("submission_time", .time ⟨DateTime.epochWall + day * microsPerDay, some 0⟩),
    ("task_code", .str "ship")]

/-- A memory store that keeps just these tasks, each under its id. -/
def MemoryStore.ofTasks (tasks : List (String × Int)) : MemoryStore :=
  ⟨[("tasks", tasks.map fun (id, day) => (.str id, taskOn id day))]⟩

/-- A world whose plain store keeps these tasks in memory. -/
def World.ofTasks (tasks : List (String × Int)) : World where
  store := { backend := .memory (MemoryStore.ofTasks tasks) }
  now := ⟨DateTime.epochWall, some 0⟩

theorem taskOn_listable (id : String) (day : Int) : Collection.tasks.Listable (taskOn id day) :=
  ⟨_, id, rfl, rfl, rfl⟩

theorem ofTasks_listable (tasks : List (String × Int)) :
    ∀ r ∈ ((MemoryStore.ofTasks tasks).records Collection.tasks.name).map (·.2),
      Collection.tasks.Listable r := by
  intro r mem
  change r ∈ (tasks.map fun (id, day) => (Value.str id, taskOn id day)).map (·.2) at mem
  simp only [List.map_map, List.mem_map, Function.comp_def] at mem
  obtain ⟨⟨id, day⟩, -, rfl⟩ := mem
  exact taskOn_listable id day

theorem walk_through_two_tasks :
    ∃ pages w', PageRun (fun token => fetchPage Collection.tasks [] (.int 1) token (.str "tasks")
      (.int 20) (.int 100) .none) .none (World.ofTasks [("a", 18262), ("b", 18263)]) pages w' ∧
      pages.length = 3 := by
  have walk := @walk_lists_admitted_records Collection.tasks [] _
    (World.ofTasks [("a", 18262), ("b", 18263)]) ⟨rfl, rfl⟩ (ofTasks_listable _)
    (by change [Value.str "a", .str "b"].Nodup; simp) (.inl rfl) (.inl rfl) (.int 1)
    (.inr ⟨1, rfl⟩) 20 100 (by decide) (by decide) (.str "tasks") .none
  -- with pages of one record every record ends a page, and both tokens read back
  obtain ⟨pages, w', run⟩ := walk.1.2 ⟨.inl rfl, .inl rfl, by
    intro r mem _
    change r ∈ [taskOn "a" 18262, taskOn "b" 18263] at mem
    simp only [List.mem_cons, List.not_mem_nil, or_false] at mem
    rcases mem with rfl | rfl
    · exact ⟨_, 18262 * 86400000000000, rfl, by decide +kernel, by decide, by decide, by decide⟩
    · exact ⟨_, 18263 * 86400000000000, rfl, by decide +kernel, by decide, by decide, by decide⟩⟩
  exact ⟨pages, w', run, (walk.2 pages w' run).1.trans (by decide +kernel)⟩

/-- A task whose id holds a comma ends the first page of one record, and its token does not
read back: no walk through the listing comes to a page without a token. -/
theorem walk_stops_after_comma_id :
    ¬ ∃ pages w', PageRun (fun token => fetchPage Collection.tasks [] (.int 1) token
      (.str "tasks") (.int 20) (.int 100) .none) .none
      (World.ofTasks [("a,1", 18262), ("b", 18263)]) pages w' := by
  rintro ⟨pages, w', run⟩
  have listing : Listing Collection.tasks [] (MemoryStore.ofTasks [("a,1", 18262), ("b", 18263)])
      (.int 1) 20 100 [taskOn "a,1" 18262, taskOn "b" 18263] :=
    { listable := ofTasks_listable _
      startReadable := .inl rfl
      stopReadable := .inl rfl
      request := .inr ⟨1, rfl⟩
      positive := by decide
      bounded := by decide
      perm := .of_eq rfl
      ascending := by decide +kernel }
  obtain ⟨safe, -⟩ := listing.paged_of_run (.str "tasks") .none run 0 (Nat.dvd_zero _)
    (resumes_start _ _) ⟨rfl, rfl⟩
  obtain ⟨t, n, -, -, -, -, noComma⟩ := safe 0 (by decide) (Nat.zero_le _) (by decide)
  exact noComma (by decide +kernel)

end Storefront
