import Storefront.Proofs.Time.Stamp
import Storefront.Time.Read

/-!
# A stamp reads back as its instant

The timestamp codec reads text by the broad ISO 8601 grammar, whose scanner lists every reading
of a prefix, the preferred first, and takes the first reading that ends the text. On a stamp
`YYYY-MM-DDTHH:MM:SS.ffffffZ` the preferred reading takes every part in full and ends the text,
so it is the one taken; its numerals are the stamp's fields, and the instant they form is the
one the stamp was written from (`readBroad?_stamp`).
-/

-- powers of naturals and integers are the core ones, whatever else is in scope
attribute [local instance (1100)] instPowNat

namespace Storefront

namespace Scan

/-- The preferred reading of a scanner on an input: the first of its readings. -/
def Leads {α : Type} (p : Scan α) (cs : List Char) (a : α) (rest : List Char) : Prop :=
  ∃ more, p cs = (a, rest) :: more

variable {α β : Type} {p q : Scan α} {cs rest : List Char} {a : α}

theorem Leads.pure (a : α) (cs : List Char) : Leads (Scan.pure a) cs a cs := ⟨[], rfl⟩

theorem Leads.bind {f : α → Scan β} {b : β} {rest' : List Char} (first : Leads p cs a rest)
    (next : Leads (f a) rest b rest') : Leads (p >>= f) cs b rest' := by
  obtain ⟨more, ran⟩ := first
  obtain ⟨more', ran'⟩ := next
  refine ⟨more' ++ more.flatMap fun r => f r.1 r.2, ?_⟩
  show Scan.bind p f cs = _
  simp [Scan.bind, ran, ran']

theorem Leads.orElse (first : Leads p cs a rest) : Leads (Scan.orElse p q) cs a rest := by
  obtain ⟨more, ran⟩ := first
  exact ⟨more ++ q cs, by simp [Scan.orElse, ran]⟩

theorem Leads.opt (first : Leads p cs a rest) : Leads (Scan.opt p) cs (some a) rest := by
  obtain ⟨more, ran⟩ := first
  exact ⟨more.map (fun r => (some r.1, r.2)) ++ [(none, cs)], by simp [Scan.opt, ran]⟩

theorem Leads.sat {ok : Char → Bool} {c : Char} (passes : ok c = true) :
    Leads (Scan.sat ok) (c :: cs) c cs :=
  ⟨[], by simp [Scan.sat, passes]⟩

theorem Leads.char (c : Char) : Leads (Scan.char c) (c :: cs) c cs :=
  Leads.sat (by simp)

/-- A run of digits of the length asked for is read as itself. -/
theorem Leads.digits : ∀ {ds : List Char}, (∀ d ∈ ds, isDigit d = true) →
    Leads (Scan.digits ds.length) (ds ++ rest) ds rest
  | [], _ => Leads.pure _ _
  | d :: ds, digits => by
    show Leads (Scan.bind (Scan.sat isDigit) fun d =>
      Scan.bind (Scan.digits ds.length) fun ds => Scan.pure (d :: ds)) (d :: (ds ++ rest)) _ _
    exact (Leads.sat (digits d List.mem_cons_self)).bind
      ((Leads.digits fun x mem => digits x (List.mem_cons_of_mem d mem)).bind (Leads.pure _ _))

theorem Leads.digits12 {ds : List Char} (two : ds.length = 2) (digits : ∀ d ∈ ds, isDigit d = true) :
    Leads Scan.digits12 (ds ++ rest) ds rest :=
  Leads.orElse (two ▸ Leads.digits digits)

/-- A run of digits that the text does not go on with is read whole. -/
theorem Leads.digitsPlus {ds : List Char} (nonempty : ds ≠ []) (digits : ∀ d ∈ ds, isDigit d = true)
    (stop : ∀ c r, rest = c :: r → isDigit c = false) :
    Leads Scan.digitsPlus (ds ++ rest) ds rest := by
  have run : (ds ++ rest).takeWhile isDigit = ds := by
    rw [List.takeWhile_append_of_pos digits]
    cases rest with
    | nil => simp
    | cons c r => simp [stop c r rfl]
  obtain ⟨n, length⟩ : ∃ n, ds.length = n + 1 := Nat.exists_eq_succ_of_ne_zero (by simpa using nonempty)
  refine ⟨((List.range n).reverse).map fun i => (ds.take (i + 1), (ds ++ rest).drop (i + 1)), ?_⟩
  simp only [Scan.digitsPlus, run, length, List.range_succ, List.reverse_append,
    List.reverse_cons, List.reverse_nil, List.nil_append, List.cons_append, List.map_cons]
  rw [← length, List.take_length, List.drop_left]

/-- A preferred reading that ends the text is the reading taken. -/
theorem firstComplete_of_leads (leads : Leads p cs a []) : firstComplete p cs = some a := by
  obtain ⟨more, ran⟩ := leads.bind (f := fun a => Scan.bind atEnd fun _ => Scan.pure a)
    ((Leads.pure () []).bind (f := fun _ => Scan.pure a) (Leads.pure a []))
  unfold firstComplete
  rw [show Scan.bind p (fun a => Scan.bind atEnd fun _ => Scan.pure a) cs = _ from ran]

end Scan

namespace DateTime

open Storefront.Scan

/-- The parts of a stamp as the broad grammar captures them. -/
def stampParts (Y M D H m S F : List Char) : BroadParts :=
  { year := Y, month := some M, day := some D, hour := some H, minute := some m, second := some S,
    fraction := some F, zone := some .utc }

section

variable {Y M D H m S F : List Char}

/-- Two-digit runs, as each of the clock's and the date's fields but the year is. -/
def TwoDigits (ds : List Char) : Prop := ds.length = 2 ∧ ∀ d ∈ ds, isDigit d = true

theorem leads_zoneScan : Leads zoneScan ['Z'] .utc [] :=
  Leads.orElse ((Leads.char 'Z').bind (Leads.pure _ _))

theorem leads_secondScan (second : TwoDigits S) (nonempty : F ≠ [])
    (fraction : ∀ d ∈ F, isDigit d = true) :
    Leads secondScan (':' :: (S ++ '.' :: (F ++ ['Z']))) (S, some F) ['Z'] :=
  (Leads.opt (Leads.char ':')).bind <| (Leads.digits12 second.1 second.2).bind <|
    (Leads.opt ((Leads.sat (by decide)).bind (Leads.digitsPlus nonempty fraction
      (fun c r same => by cases same; rfl)))).bind (Leads.pure _ _)

theorem leads_timeScan (hour : TwoDigits H) (minute : TwoDigits m) (second : TwoDigits S)
    (nonempty : F ≠ []) (fraction : ∀ d ∈ F, isDigit d = true) :
    Leads (timeScan { year := Y, month := some M, day := some D })
      ('T' :: (H ++ ':' :: (m ++ ':' :: (S ++ '.' :: (F ++ ['Z']))))) (stampParts Y M D H m S F) [] :=
  (Leads.sat (by decide)).bind <| (hour.1 ▸ Leads.digits hour.2).bind <|
    (Leads.opt ((Leads.opt (Leads.char ':')).bind (minute.1 ▸ Leads.digits minute.2))).bind <|
    (Leads.opt (leads_secondScan second nonempty fraction)).bind <|
    (Leads.opt leads_zoneScan).bind (Leads.pure _ _)

/-- Every part of a stamp is taken in full, and the reading ends the text. -/
theorem leads_broadScan (year : Y.length = 4 ∧ ∀ d ∈ Y, isDigit d = true) (month : TwoDigits M)
    (day : TwoDigits D) (hour : TwoDigits H) (minute : TwoDigits m) (second : TwoDigits S)
    (nonempty : F ≠ []) (fraction : ∀ d ∈ F, isDigit d = true) :
    Leads broadScan (Y ++ '-' :: (M ++ '-' :: (D ++ 'T' :: (H ++ ':' :: (m ++ ':' ::
      (S ++ '.' :: (F ++ ['Z']))))))) (stampParts Y M D H m S F) [] := by
  have time := leads_timeScan (Y := Y) (M := M) (D := D) hour minute second nonempty fraction
  have dayed : Leads (dayScan { year := Y, month := some M }) ('-' :: (D ++ 'T' :: (H ++ ':' ::
      (m ++ ':' :: (S ++ '.' :: (F ++ ['Z'])))))) (stampParts Y M D H m S F) [] :=
    (Leads.orElse ((Leads.char '-').bind (Leads.digits12 day.1 day.2))).bind <|
      (Leads.opt time).bind (Leads.pure _ _)
  have monthed : Leads (monthScan { year := Y }) ('-' :: (M ++ '-' :: (D ++ 'T' :: (H ++ ':' ::
      (m ++ ':' :: (S ++ '.' :: (F ++ ['Z']))))))) (stampParts Y M D H m S F) [] :=
    (Leads.orElse ((Leads.char '-').bind (Leads.digits12 month.1 month.2))).bind <|
      (Leads.opt dayed).bind (Leads.pure _ _)
  exact (year.1 ▸ Leads.digits year.2).bind ((Leads.opt monthed).bind (Leads.pure _ _))

end

theorem digitsNat_eq (ds : List Char) : digitsNat ds = Json.digitsValue ds := rfl

/-- Six digits of a fraction are that many microseconds. -/
theorem fractionMicros_six {F : List Char} (six : F.length = 6) (digits : ∀ d ∈ F, Json.isDigit d) :
    fractionMicros F = digitsNat F := by
  have small := Json.digitsValue_lt digits
  rw [six, ← digitsNat_eq] at small
  -- the fraction times ten million has at most 13 digits, well within the 28 kept exactly
  have fits : digitsNat F * 10 ^ (7 : Nat) < 10 ^ 13 :=
    calc digitsNat F * 10 ^ (7 : Nat) < 10 ^ 6 * 10 ^ 7 := Nat.mul_lt_mul_of_pos_right small (by decide)
      _ = 10 ^ 13 := by rw [← Nat.pow_add]
  have short : (toString (digitsNat F * 10 ^ (7 : Nat))).length ≤ 28 := by
    have := Nat.toDigits_length 10 _ 13 (by decide) fits
    simp only [Nat.toString_eq_ofList_toDigits, String.length_ofList]
    omega
  simp only [fractionMicros, round28, short, if_true, six]
  simp

/-- The fields of a UTC reading on the calendar put together again. -/
theorem ofParts?_fields {w : Int} (onCalendar : inRange w) :
    let u : DateTime := ⟨w, some 0⟩
    ofParts? u.year u.month u.day u.hour u.minute u.second u.microsecond (some 0) = some u := by
  intro u
  obtain ⟨n, tod, low, high, short, wall, date, time⟩ := utc_day onCalendar
  obtain ⟨y, mo, d, dated, valid, ordinal⟩ := Calendar.ofOrdinal_spec low high
  have offset : validOffset 0 = true := by decide
  simp only [u, ofParts?, DateTime.year, DateTime.month, DateTime.day, date, dated, valid, ordinal,
    DateTime.hour, DateTime.minute, DateTime.second, DateTime.microsecond, time, Option.all_some,
    offset, Bool.and_true, Bool.true_and, microsPerDay, Bool.and_eq_true, decide_eq_true_eq]
  rw [if_pos (by omega), Option.some.injEq, DateTime.mk.injEq]
  exact ⟨by omega, rfl⟩

/-- The stamp of a reading on the calendar reads back as that reading, in UTC. -/
theorem readBroad?_stamp {w : Int} (onCalendar : inRange w) {s : String}
    (text : s.toList = stampChars ⟨w, some 0⟩) : readBroad? s = some ⟨w, some 0⟩ := by
  obtain ⟨year, month, day, hour, minute, second, micro⟩ := utc_fits onCalendar
  have two {n : Nat} (fits : n < 10 ^ 2) : TwoDigits (pad 2 n).toList :=
    ⟨(pad_digits (by decide) fits).1, (pad_digits (by decide) fits).2.1⟩
  have fraction := pad_digits (by decide) micro
  have leads := leads_broadScan ⟨(pad_digits (by decide) year).1, (pad_digits (by decide) year).2.1⟩
    (two month) (two day) (two hour) (two minute) (two second)
    (by rw [← List.length_pos_iff, fraction.1]; decide) fraction.2.1
  have parts := firstComplete_of_leads leads
  have read (k : Nat) {n : Nat} (pos : 0 < k) (fits : n < 10 ^ k) : digitsNat (pad k n).toList = n :=
    (pad_digits pos fits).2.2
  rw [readBroad?, text, stampChars, stampFields]
  simp only [List.append_assoc, List.cons_append]
  rw [parts]
  simp only [stampParts, Option.bind_eq_bind, Option.bind, Option.map_some, Option.getD_some,
    read 4 (by decide) year, read 2 (by decide) month, read 2 (by decide) day,
    read 2 (by decide) hour, read 2 (by decide) minute, read 2 (by decide) second,
    fractionMicros_six fraction.1 fraction.2.1, read 6 (by decide) micro, zoneOffset]
  rw [ofParts?_fields onCalendar]
  simp [asUtc, utcWall, onCalendar]

end DateTime

end Storefront
