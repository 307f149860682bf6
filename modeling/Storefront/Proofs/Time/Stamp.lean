import Storefront.Proofs.Time.Calendar
import Storefront.Proofs.Json.Reading
import Storefront.Codec.Transcode

/-!
# Timestamps written in UTC

The codec writes a timestamp as its UTC reading, `YYYY-MM-DDTHH:MM:SS.ffffffZ`: year, month,
day, hour, minute, second and microsecond as decimal numerals of fixed widths, between
separators that stand at the same places in every stamp. Numerals of one width compare as
their values (`lt_iff_digitsValue_lt`), a field decides the comparison unless it is equal
(`field_lt_iff`), and later days of the calendar have later dates (`Calendar.ofOrdinal_before`).
So stamps compare as the instants they write (`stampChars_lt_iff`), and two readings share a
stamp exactly when they are one instant.
-/

namespace Storefront

namespace Json

theorem digitsValue_from (a : Nat) (cs : List Char) :
    cs.foldl (fun n c => n * 10 + (c.toNat - '0'.toNat)) a = a * 10 ^ cs.length + digitsValue cs := by
  induction cs generalizing a with
  | nil => simp [digitsValue]
  | cons c cs ih =>
    simp only [digitsValue, List.foldl_cons, List.length_cons] at ih ⊢
    rw [ih, ih (0 * 10 + _)]
    ring

theorem digitsValue_cons (c : Char) (cs : List Char) :
    digitsValue (c :: cs) = (c.toNat - 48) * 10 ^ cs.length + digitsValue cs := by
  rw [digitsValue, List.foldl_cons, digitsValue_from]
  simp

theorem digitsValue_zeros_append (k : Nat) (cs : List Char) :
    digitsValue (List.replicate k '0' ++ cs) = digitsValue cs := by
  induction k with
  | zero => rfl
  | succ k ih =>
    rw [List.replicate_succ, List.cons_append, digitsValue_cons, ih]
    simp

theorem digitsValue_lt {cs : List Char} (digits : ∀ c ∈ cs, isDigit c) :
    digitsValue cs < 10 ^ cs.length := by
  induction cs with
  | nil => simp [digitsValue]
  | cons c cs ih =>
    have rest := ih fun d mem => digits d (List.mem_cons_of_mem c mem)
    have small := isDigit_toNat (digits c List.mem_cons_self)
    rw [digitsValue_cons, List.length_cons, pow_succ]
    have : c.toNat - 48 ≤ 9 := by omega
    nlinarith

/-- A leading digit outweighs all the digits after it. -/
theorem lead_lt_iff {a b x y P : Nat} (hx : x < P) (hy : y < P) :
    a * P + x < b * P + y ↔ a < b ∨ a = b ∧ x < y := by
  constructor
  · intro lt
    rcases Nat.lt_trichotomy a b with less | same | more
    · exact .inl less
    · subst same
      exact .inr ⟨rfl, by omega⟩
    · have : (b + 1) * P ≤ a * P := Nat.mul_le_mul_right P more
      nlinarith
  · rintro (less | ⟨rfl, less⟩)
    · have : (a + 1) * P ≤ b * P := Nat.mul_le_mul_right P less
      nlinarith
    · omega

/-- Digit strings of one length are ordered as their values. -/
theorem lt_iff_digitsValue_lt {cs ds : List Char} (digits : ∀ c ∈ cs, isDigit c)
    (digits' : ∀ d ∈ ds, isDigit d) (same : cs.length = ds.length) :
    cs < ds ↔ digitsValue cs < digitsValue ds := by
  induction cs generalizing ds with
  | nil =>
    cases ds with
    | nil => simp [digitsValue]
    | cons d ds => simp at same
  | cons c cs ih =>
    cases ds with
    | nil => simp at same
    | cons d ds =>
      simp only [List.length_cons, Nat.add_right_cancel_iff] at same
      have rest := ih (fun x mem => digits x (List.mem_cons_of_mem c mem))
        (fun x mem => digits' x (List.mem_cons_of_mem d mem)) same
      have bound := digitsValue_lt (fun x mem => digits x (List.mem_cons_of_mem c mem))
      have bound' := digitsValue_lt (fun x mem => digits' x (List.mem_cons_of_mem d mem))
      have lead := isDigit_toNat (digits c List.mem_cons_self)
      have lead' := isDigit_toNat (digits' d List.mem_cons_self)
      rw [same] at bound
      rw [List.cons_lt_cons_iff, rest, digitsValue_cons, digitsValue_cons, same,
        lead_lt_iff bound bound', ← Char.toNat_inj]
      show c.toNat < d.toNat ∨ _ ↔ _
      omega

end Json

/-! ## Numerals of a fixed width -/

theorem pad_toList (k n : Nat) : (DateTime.pad k n).toList =
    List.replicate (k - (Nat.toDigits 10 n).length) '0' ++ Nat.toDigits 10 n := by
  simp [DateTime.pad, Nat.repr]

/-- A number padded to a width it fits in has that many digits and reads back as itself. -/
theorem pad_digits {k n : Nat} (pos : 0 < k) (fits : n < 10 ^ k) :
    (DateTime.pad k n).toList.length = k ∧ (∀ c ∈ (DateTime.pad k n).toList, Json.isDigit c) ∧
      Json.digitsValue (DateTime.pad k n).toList = n := by
  obtain ⟨ds, written, small, -, -, value⟩ := Numeral.decimal_digits n
  have short := Nat.toDigits_length 10 n k pos fits
  rw [pad_toList]
  refine ⟨by simp; omega, fun c mem => ?_, by rw [Json.digitsValue_zeros_append]; exact value⟩
  rcases List.mem_append.mp mem with zero | digit
  · rw [List.eq_of_mem_replicate zero]
    rfl
  · rw [written] at digit
    obtain ⟨d, member, rfl⟩ := List.mem_map.mp digit
    exact Json.isDigit_digitChar (small d member)

theorem pad_lt_pad_iff {k n m : Nat} (pos : 0 < k) (fits : n < 10 ^ k) (fits' : m < 10 ^ k) :
    (DateTime.pad k n).toList < (DateTime.pad k m).toList ↔ n < m := by
  obtain ⟨length, digits, value⟩ := pad_digits pos fits
  obtain ⟨length', digits', value'⟩ := pad_digits pos fits'
  rw [Json.lt_iff_digitsValue_lt digits digits' (length.trans length'.symm), value, value']

/-- Of two texts whose first parts are equally long, the first parts decide unless equal. -/
theorem append_lt_append_iff {a a' b b' : List Char} (same : a.length = a'.length) :
    a ++ b < a' ++ b' ↔ a < a' ∨ a = a' ∧ b < b' := by
  induction a generalizing a' with
  | nil =>
    cases a' with
    | nil => simp
    | cons _ _ => simp at same
  | cons c a ih =>
    cases a' with
    | nil => simp at same
    | cons c' a' =>
      simp only [List.length_cons, Nat.add_right_cancel_iff] at same
      simp only [List.cons_append, List.cons_lt_cons_iff, ih same, List.cons.injEq]
      constructor
      · rintro (less | ⟨rfl, less | ⟨rfl, rest⟩⟩)
        · exact .inl (.inl less)
        · exact .inl (.inr ⟨rfl, less⟩)
        · exact .inr ⟨⟨rfl, rfl⟩, rest⟩
      · rintro ((less | ⟨rfl, less⟩) | ⟨⟨rfl, rfl⟩, rest⟩)
        · exact .inl less
        · exact .inr ⟨rfl, .inl less⟩
        · exact .inr ⟨rfl, .inr ⟨rfl, rest⟩⟩

/-- A field of a fixed width followed by a separator decides the order of two texts unless it
is equal, and then what follows it does. -/
theorem field_lt_iff {k n m : Nat} (pos : 0 < k) (fits : n < 10 ^ k) (fits' : m < 10 ^ k)
    (c : Char) (r r' : List Char) :
    (DateTime.pad k n).toList ++ c :: r < (DateTime.pad k m).toList ++ c :: r' ↔
      n < m ∨ n = m ∧ r < r' := by
  obtain ⟨length, -, value⟩ := pad_digits pos fits
  obtain ⟨length', -, value'⟩ := pad_digits pos fits'
  rw [append_lt_append_iff (length.trans length'.symm), pad_lt_pad_iff pos fits fits',
    List.cons_lt_cons_iff]
  constructor
  · rintro (less | ⟨same, self | ⟨-, rest⟩⟩)
    · exact .inl less
    · exact absurd self (Nat.lt_irrefl c.toNat)
    · exact .inr ⟨by rw [← value, same, value'], rest⟩
  · rintro (less | ⟨rfl, rest⟩)
    · exact .inl less
    · exact .inr ⟨rfl, .inr ⟨rfl, rest⟩⟩

/-! ## The stamp of a reading -/

/-- The fields of a reading's stamp: its date and time of day as numerals of fixed widths,
between their separators. -/
def stampFields (u : DateTime) : List Char :=
  (DateTime.pad 4 u.year).toList ++ '-' :: ((DateTime.pad 2 u.month).toList ++ '-' ::
    ((DateTime.pad 2 u.day).toList ++ 'T' :: ((DateTime.pad 2 u.hour).toList ++ ':' ::
    ((DateTime.pad 2 u.minute).toList ++ ':' :: ((DateTime.pad 2 u.second).toList ++ '.' ::
    (DateTime.pad 6 u.microsecond).toList)))))

/-- The characters of a reading's stamp: its fields, then `Z` for UTC. -/
def stampChars (u : DateTime) : List Char := stampFields u ++ ['Z']

/-- A reading on the calendar is written as the stamp of its UTC wall clock. -/
theorem timeText?_eq {t : DateTime} (onCalendar : DateTime.inRange t.utcWall) :
    ∃ s, Codec.timeText? t = some s ∧ s.toList = stampChars ⟨t.utcWall, some 0⟩ := by
  have utc : t.asUtc = some ⟨t.utcWall, some 0⟩ := by simp [DateTime.asUtc, onCalendar]
  refine ⟨_, by rw [Codec.timeText?, utc, Option.map_some], ?_⟩
  -- the ISO text of a UTC reading is its stamp's fields and the offset `+00:00`
  have iso : (DateTime.isoText ⟨t.utcWall, some 0⟩ "T" true).toList =
      stampFields ⟨t.utcWall, some 0⟩ ++ "+00:00".toList := by
    have offset : DateTime.offsetText 0 = "+00:00" := rfl
    simp [DateTime.isoText, stampFields, offset, DateTime.year, DateTime.month, DateTime.day]
  rw [String.toList_append, String.Slice.toString_eq, String.toList_copy_dropEnd, iso, stampChars]
  simp

theorem DateTime.inRange_iff {w : Int} :
    DateTime.inRange w ↔ 0 ≤ w ∧ w < 3652059 * 86400000000 := by
  simp only [DateTime.inRange, Bool.and_eq_true, decide_eq_true_eq]
  rfl

/-- A UTC wall clock on the calendar is a day of the calendar and a time of that day. -/
theorem utc_day {w : Int} (onCalendar : DateTime.inRange w) :
    ∃ n tod : Nat, 1 ≤ n ∧ n ≤ Calendar.lastOrdinal ∧ tod < 86400000000 ∧
      w = ((n : Int) - 1) * 86400000000 + tod ∧
      (⟨w, some 0⟩ : DateTime).date = Calendar.ofOrdinal n ∧
      (⟨w, some 0⟩ : DateTime).timeOfDay = tod := by
  have bounds := DateTime.inRange_iff.1 onCalendar
  refine ⟨(w / microsPerDay).toNat + 1, (w % microsPerDay).toNat, ?_, ?_, ?_, ?_, rfl, rfl⟩ <;>
    simp only [microsPerDay, Calendar.lastOrdinal] <;> omega

/-- The fields of a UTC reading on the calendar fit their widths. -/
theorem utc_fits {w : Int} (onCalendar : DateTime.inRange w) :
    let u : DateTime := ⟨w, some 0⟩
    u.year < 10 ^ 4 ∧ u.month < 10 ^ 2 ∧ u.day < 10 ^ 2 ∧ u.hour < 10 ^ 2 ∧
      u.minute < 10 ^ 2 ∧ u.second < 10 ^ 2 ∧ u.microsecond < 10 ^ 6 := by
  intro u
  obtain ⟨n, tod, low, high, short, -, date, time⟩ := utc_day onCalendar
  obtain ⟨y, m, d, dated, valid, -⟩ := Calendar.ofOrdinal_spec low high
  have monthLong : Calendar.daysInMonth y m ≤ 31 := by
    unfold Calendar.daysInMonth
    split <;> (try split) <;> omega
  simp only [Calendar.valid, Bool.and_eq_true, decide_eq_true_eq] at valid
  simp only [u, DateTime.year, DateTime.month, DateTime.day, date, dated, DateTime.hour,
    DateTime.minute, DateTime.second, DateTime.microsecond, time]
  omega

/-- The clock fields of a reading compare as its time of day: the hour first, then the minute,
the second and the microsecond. -/
theorem clock_lt_iff (u u' : DateTime) :
    u.hour < u'.hour ∨ u.hour = u'.hour ∧ (u.minute < u'.minute ∨ u.minute = u'.minute ∧
      (u.second < u'.second ∨ u.second = u'.second ∧ u.microsecond < u'.microsecond)) ↔
    u.timeOfDay < u'.timeOfDay := by
  simp only [DateTime.hour, DateTime.minute, DateTime.second, DateTime.microsecond]
  omega

/-- Stamps of UTC readings on the calendar compare as the readings' wall clocks. -/
theorem stampChars_lt_iff {w w' : Int} (onCalendar : DateTime.inRange w)
    (onCalendar' : DateTime.inRange w') :
    stampChars ⟨w, some 0⟩ < stampChars ⟨w', some 0⟩ ↔ w < w' := by
  obtain ⟨year, month, day, hour, minute, second, micro⟩ := utc_fits onCalendar
  obtain ⟨year', month', day', hour', minute', second', micro'⟩ := utc_fits onCalendar'
  simp only [stampChars, stampFields, List.append_assoc, List.cons_append]
  rw [field_lt_iff (by decide) year year', field_lt_iff (by decide) month month',
    field_lt_iff (by decide) day day', field_lt_iff (by decide) hour hour',
    field_lt_iff (by decide) minute minute', field_lt_iff (by decide) second second',
    field_lt_iff (by decide) micro micro']
  obtain ⟨n, tod, low, high, short, wall, date, time⟩ := utc_day onCalendar
  obtain ⟨n', tod', low', high', short', wall', date', time'⟩ := utc_day onCalendar'
  simp only [List.not_lt_nil, and_false, or_false, DateTime.year, DateTime.month, DateTime.day,
    date, date']
  -- the day of the calendar decides, then the time of day
  rcases Nat.lt_trichotomy n n' with earlier | same | later
  · have dates := Calendar.ofOrdinal_before low earlier high'
    omega
  · subst same
    simp only [lt_self_iff_false, false_or, true_and]
    rw [clock_lt_iff, time, time', wall, wall']
    omega
  · have dates := Calendar.ofOrdinal_before low' later high
    omega

/-! ## The shape of a stamp -/

/-- The shape of a stamp: `#` stands for a decimal digit, every other character for itself. -/
def stampShape : List Char := "####-##-##T##:##:##.######Z".toList

/-- Text has a shape: as long as the shape, with a decimal digit at each `#` and the shape's own
character everywhere else. -/
def hasShape : List Char → List Char → Bool
  | [], [] => true
  | p :: ps, c :: cs => (if p = '#' then Json.isDigit c else c == p) && hasShape ps cs
  | _, _ => false

theorem hasShape_digits {k n : Nat} (pos : 0 < k) (fits : n < 10 ^ k) (rest text : List Char) :
    hasShape (List.replicate k '#' ++ rest) ((DateTime.pad k n).toList ++ text) =
      hasShape rest text := by
  obtain ⟨length, digits, -⟩ := pad_digits pos fits
  generalize (DateTime.pad k n).toList = ds at length digits
  subst length
  clear pos fits
  induction ds with
  | nil => rfl
  | cons d ds ih =>
    simp only [List.length_cons, List.replicate_succ, List.cons_append, hasShape, if_true,
      digits d List.mem_cons_self, Bool.true_and]
    exact ih fun c mem => digits c (List.mem_cons_of_mem d mem)

theorem hasShape_mark (c : Char) (notDigit : c ≠ '#') (rest text : List Char) :
    hasShape (c :: rest) (c :: text) = hasShape rest text := by
  simp [hasShape, notDigit]

/-- Every stamp of a UTC reading on the calendar has the shape `YYYY-MM-DDTHH:MM:SS.ffffffZ`. -/
theorem stampChars_shape {w : Int} (onCalendar : DateTime.inRange w) :
    hasShape stampShape (stampChars ⟨w, some 0⟩) = true := by
  obtain ⟨year, month, day, hour, minute, second, micro⟩ := utc_fits onCalendar
  have shape : stampShape = List.replicate 4 '#' ++ '-' :: (List.replicate 2 '#' ++ '-' ::
      (List.replicate 2 '#' ++ 'T' :: (List.replicate 2 '#' ++ ':' :: (List.replicate 2 '#' ++
      ':' :: (List.replicate 2 '#' ++ '.' :: (List.replicate 6 '#' ++ ['Z'])))))) := rfl
  simp only [shape, stampChars, stampFields, List.append_assoc, List.cons_append]
  rw [hasShape_digits (by decide) year, hasShape_mark _ (by decide),
    hasShape_digits (by decide) month, hasShape_mark _ (by decide),
    hasShape_digits (by decide) day, hasShape_mark _ (by decide),
    hasShape_digits (by decide) hour, hasShape_mark _ (by decide),
    hasShape_digits (by decide) minute, hasShape_mark _ (by decide),
    hasShape_digits (by decide) second, hasShape_mark _ (by decide),
    hasShape_digits (by decide) micro, hasShape_mark _ (by decide)]
  rfl

/-! ## The codec's text of a timestamp -/

/-- The timestamp codec writes a reading on the calendar as its stamp, touching nothing else. -/
theorem encode_time {t : DateTime} (onCalendar : DateTime.inRange t.utcWall) :
    ∃ s : String, Codec.encode .time (.time t) = pure (.str s) ∧
      s.toList = stampChars ⟨t.utcWall, some 0⟩ := by
  obtain ⟨s, text, chars⟩ := timeText?_eq onCalendar
  refine ⟨s, ?_, chars⟩
  rw [Codec.encode]
  simp only [text]

/-- The timestamp codec is an order embedding of instants into texts. For two readings, naive
(read as UTC) or aware, whose UTC readings lie in the years 1 to 9999, the texts it writes compare
in code-point order as the instants do, are equal exactly when the instants are, and each has
the shape `YYYY-MM-DDTHH:MM:SS.ffffffZ`. -/
theorem timeText_order_embedding (a b : DateTime) (onCalendar : DateTime.inRange a.utcWall)
    (onCalendar' : DateTime.inRange b.utcWall) :
    ∃ sa sb : String, Codec.encode .time (.time a) = pure (.str sa) ∧
      Codec.encode .time (.time b) = pure (.str sb) ∧
      (sa < sb ↔ a.utcWall < b.utcWall) ∧ (sa = sb ↔ a.utcWall = b.utcWall) ∧
      hasShape stampShape sa.toList ∧ hasShape stampShape sb.toList := by
  obtain ⟨sa, encodedA, charsA⟩ := encode_time onCalendar
  obtain ⟨sb, encodedB, charsB⟩ := encode_time onCalendar'
  have order : sa < sb ↔ a.utcWall < b.utcWall := by
    rw [String.lt_iff, charsA, charsB, stampChars_lt_iff onCalendar onCalendar']
  have reverse : sb < sa ↔ b.utcWall < a.utcWall := by
    rw [String.lt_iff, charsA, charsB, stampChars_lt_iff onCalendar' onCalendar]
  refine ⟨sa, sb, encodedA, encodedB, order, ⟨fun same => ?_, fun same => ?_⟩,
    by rw [charsA]; exact stampChars_shape onCalendar,
    by rw [charsB]; exact stampChars_shape onCalendar'⟩
  · -- equal texts are neither before nor after one another
    subst same
    have := mt order.mpr (fun self => (String.lt_irrefl sa) self)
    have := mt reverse.mpr (fun self => (String.lt_irrefl sa) self)
    omega
  · apply String.ext
    rw [charsA, charsB, same]

/-- Midnight of 2020-01-01 an hour east of UTC is an hour before the naive midnight of that day,
read as UTC, and its stamp is written before that one's. -/
theorem stamp_east_before_naive :
    DateTime.inRange (⟨737424 * microsPerDay, some 3600000000⟩ : DateTime).utcWall ∧
    DateTime.inRange (⟨737424 * microsPerDay, none⟩ : DateTime).utcWall ∧
    ∃ sa sb : String, Codec.encode .time (.time ⟨737424 * microsPerDay, some 3600000000⟩) =
        pure (.str sa) ∧ Codec.encode .time (.time ⟨737424 * microsPerDay, none⟩) = pure (.str sb) ∧
      sa < sb := by
  have east : DateTime.inRange (⟨737424 * microsPerDay, some 3600000000⟩ : DateTime).utcWall := by
    decide
  have naive : DateTime.inRange (⟨737424 * microsPerDay, none⟩ : DateTime).utcWall := by decide
  obtain ⟨sa, sb, encodedA, encodedB, order, -⟩ := timeText_order_embedding _ _ east naive
  exact ⟨east, naive, sa, sb, encodedA, encodedB, order.mpr (by decide)⟩

end Storefront
