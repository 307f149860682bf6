import Storefront.Json.Parse
import Storefront.Json.Print
import Storefront.Proofs.Text.Numerals
import Mathlib.Data.List.Chain

/-!
# Reading back what is written

The reader takes the compact text of a document back to the document, for every document that
JSON text can carry: no floats, integers of at most 4300 digits, object keys that differ, and
texts in which no lone high surrogate comes right before a lone low one. Both surrogates are
written as escapes, and the reader joins such escapes into one character, as it must for the
pair of a character beyond the first plane.

The proof follows the reader: one lemma per escape form of a character, the body of a string,
an integer, then value, items and members together, with the length of the text as fuel.
-/

namespace Storefront

namespace Text

/-- A character's code is a Unicode scalar value. -/
theorem toNat_valid (c : Char) : c.toNat < 0xD800 ∨ (0xDFFF < c.toNat ∧ c.toNat < 0x110000) :=
  c.valid

theorem codePoint_lt (c : Char) : codePoint c < 0x110000 := by
  have valid := toNat_valid c
  unfold codePoint surrogateShelf
  split <;> omega

/-- Outside the surrogates a character's code point is its code. -/
theorem codePoint_eq_toNat {c : Char} (outside : codePoint c < 0xD800 ∨ 0xDFFF < codePoint c) :
    codePoint c = c.toNat := by
  have valid := toNat_valid c
  unfold codePoint surrogateShelf at *
  by_cases shelf : 1112064 ≤ c.toNat
  · rw [if_pos shelf] at outside; omega
  · rw [if_neg shelf]

/-- The character of a character's code point is the character: the shelf of lone surrogates
is left as it was found. -/
theorem charOfCode_codePoint (c : Char) : charOfCode (codePoint c) = c := by
  have valid := toNat_valid c
  unfold charOfCode codePoint isSurrogate surrogateShelf
  split
  · rw [if_pos (by simp; omega),
      show 1112064 + (c.toNat - 1112064 + 55296 - 55296) = c.toNat by omega]
    exact Char.ofNat_toNat c
  · rw [if_neg (by simp; omega), if_pos (by omega)]
    exact Char.ofNat_toNat c

/-- A character that stands for a lone high surrogate. -/
def highSurrogate (c : Char) : Bool := 0xD800 ≤ codePoint c && codePoint c ≤ 0xDBFF

/-- A character that stands for a lone low surrogate. -/
def lowSurrogate (c : Char) : Bool := 0xDC00 ≤ codePoint c && codePoint c ≤ 0xDFFF

/-- No lone high surrogate comes right before a lone low one. -/
def PairsApart (cs : List Char) : Prop :=
  cs.IsChain fun a b => ¬ (highSurrogate a = true ∧ lowSurrogate b = true)

instance : DecidablePred PairsApart := fun cs => inferInstanceAs (Decidable (cs.IsChain _))

end Text

namespace Json

/-! ## Strings -/

theorem hexDigit?_hexChar {d : Nat} (small : d < 16) : hexDigit? (hexChar d) = some d := by
  interval_cases d <;> rfl

theorem hex4?_unitEscape {n : Nat} (small : n < 0x10000) :
    ∃ a b c d, unitEscape n = ['\\', 'u', a, b, c, d] ∧ hex4? a b c d = some n := by
  refine ⟨_, _, _, _, rfl, ?_⟩
  simp only [hex4?, hexDigit?_hexChar (Nat.mod_lt _ (by decide : 16 > 0))]
  simp only [Option.bind_eq_bind, Option.bind_some, Option.pure_def, Option.some.injEq]
  omega

/-- The text after an escape starts with no escape of a low surrogate. -/
def NoLowEscape (rest : List Char) : Prop :=
  ∀ e f g h more, rest = '\\' :: 'u' :: e :: f :: g :: h :: more →
    ∃ lo, hex4? e f g h = some lo ∧ ¬ (0xDC00 ≤ lo ∧ lo ≤ 0xDFFF)

theorem stringBody_plain {start acc rest : List Char} {c : Char} (quote : c ≠ '"')
    (back : c ≠ '\\') (printable : 0x20 ≤ c.toNat) :
    stringBody start (c :: rest) acc = stringBody start rest (c :: acc) := by
  rw [stringBody.eq_19 _ _ _ _ quote back, if_neg (by omega)]

example : stringBody [] "ok\"".toList [] = .ok ("ok", []) := by cbv

theorem stringBody_unit {start acc rest : List Char} {a b c d : Char} {n : Nat}
    (hex : hex4? a b c d = some n) (closed : rest ≠ [])
    (alone : 0xD800 ≤ n ∧ n ≤ 0xDBFF → NoLowEscape rest) :
    stringBody start ('\\' :: 'u' :: a :: b :: c :: d :: rest) acc =
      stringBody start rest (charOfCode n :: acc) := by
  rw [stringBody.eq_9 _ _ _ _ _ _ _ closed]
  simp only [hex]
  split
  · rename_i high
    split
    · rename_i e f g h more
      obtain ⟨lo, hexLo, notLow⟩ := alone ⟨high.1, high.2.1⟩ e f g h more rfl
      simp only [hexLo, if_neg notLow]
    · rfl
  · rfl

theorem stringBody_pair {start acc more : List Char} {a b c d e f g h : Char} {hi lo : Nat}
    (hexHi : hex4? a b c d = some hi) (high : 0xD800 ≤ hi ∧ hi ≤ 0xDBFF)
    (hexLo : hex4? e f g h = some lo) (low : 0xDC00 ≤ lo ∧ lo ≤ 0xDFFF) (closed : more ≠ []) :
    stringBody start ('\\' :: 'u' :: a :: b :: c :: d :: '\\' :: 'u' :: e :: f :: g :: h :: more)
        acc =
      stringBody start more (charOfCode (0x10000 + (hi - 0xD800) * 0x400 + (lo - 0xDC00)) :: acc) := by
  rw [stringBody.eq_9 _ _ _ _ _ _ _ (by simp)]
  simp only [hexHi, hexLo, List.drop_succ_cons, List.drop_zero]
  rw [if_pos ⟨high.1, high.2, by simpa using closed⟩]
  simp only [if_pos low]

/-- The reader takes the escaped form of a character back to the character, unless it is a lone
high surrogate and an escaped low one follows. -/
theorem stringBody_escapeChar {start acc rest : List Char} (c : Char) (closed : rest ≠ [])
    (alone : Text.highSurrogate c = true → NoLowEscape rest) :
    stringBody start (escapeChar c ++ rest) acc = stringBody start rest (c :: acc) := by
  unfold escapeChar
  split
  iterate 7 simp [stringBody]
  rename_i notQuote notBack _ _ _ _ _
  dsimp only
  have valid := Text.codePoint_lt c
  split
  · rename_i printable
    have code : Text.codePoint c = c.toNat := Text.codePoint_eq_toNat (by omega)
    exact stringBody_plain notQuote notBack (by omega)
  split
  · rename_i _ bmp
    obtain ⟨a, b, d, e, unit, hex⟩ := hex4?_unitEscape bmp
    simp only [unit, List.cons_append, List.nil_append]
    rw [stringBody_unit hex closed (fun high => alone (by simp [Text.highSurrogate]; omega)),
      charOfCode, Text.charOfCode_codePoint]
  · -- beyond the first plane: a surrogate pair, which the reader joins again
    obtain ⟨a, b, d, e, unitHi, hexHi⟩ :=
      hex4?_unitEscape (n := 0xD800 + (Text.codePoint c - 0x10000) / 0x400) (by omega)
    obtain ⟨f, g, h, i, unitLo, hexLo⟩ :=
      hex4?_unitEscape (n := 0xDC00 + (Text.codePoint c - 0x10000) % 0x400) (by omega)
    have whole : 0x10000 + (0xD800 + (Text.codePoint c - 0x10000) / 0x400 - 0xD800) * 0x400 +
        (0xDC00 + (Text.codePoint c - 0x10000) % 0x400 - 0xDC00) = Text.codePoint c := by omega
    simp only [unitHi, unitLo, List.cons_append, List.nil_append]
    rw [stringBody_pair hexHi (by omega) hexLo (by omega) closed, whole, charOfCode,
      Text.charOfCode_codePoint]

/-- An escaped character starts with no escape of a low surrogate unless it is one. -/
theorem noLowEscape_escapeChar (c : Char) (rest : List Char)
    (notLow : Text.lowSurrogate c = false) : NoLowEscape (escapeChar c ++ rest) := by
  intro e f g h more written
  have valid := Text.codePoint_lt c
  unfold escapeChar at written
  split at written
  iterate 7 simp at written
  rename_i _ notBack _ _ _ _ _
  dsimp only at written
  split at written
  · simp only [List.cons_append, List.nil_append, List.cons.injEq] at written
    exact absurd written.1 notBack
  split at written
  · rename_i _ bmp
    obtain ⟨a, b, d, e', unit, hex⟩ := hex4?_unitEscape bmp
    simp only [unit, List.cons_append, List.nil_append, List.cons.injEq] at written
    obtain ⟨-, -, rfl, rfl, rfl, rfl, -⟩ := written
    refine ⟨_, hex, fun low => ?_⟩
    simp [Text.lowSurrogate, low.1, low.2] at notLow
  · -- the escape in front is that of the high half of a pair
    obtain ⟨a, b, d, e', unit, hex⟩ :=
      hex4?_unitEscape (n := 0xD800 + (Text.codePoint c - 0x10000) / 0x400) (by omega)
    simp only [unit, List.cons_append, List.nil_append, List.cons.injEq] at written
    obtain ⟨-, -, rfl, rfl, rfl, rfl, -⟩ := written
    exact ⟨_, hex, by omega⟩

/-- The body of a written string reads back as its text. -/
theorem stringBody_escaped (start rest : List Char) :
    ∀ (cs acc : List Char), Text.PairsApart cs →
      stringBody start (cs.flatMap escapeChar ++ '"' :: rest) acc =
        .ok (String.ofList (acc.reverse ++ cs), rest)
  | [], acc, _ => by simp [stringBody]
  | c :: cs, acc, apart => by
    have closed : cs.flatMap escapeChar ++ '"' :: rest ≠ [] := by simp
    have alone : Text.highSurrogate c = true → NoLowEscape (cs.flatMap escapeChar ++ '"' :: rest) := by
      intro high
      cases cs with
      | nil => intro e f g h more written; simp at written
      | cons c' cs =>
        have notLow : Text.lowSurrogate c' = false := by
          have := (List.isChain_cons_cons.mp apart).1
          simpa [high] using this
        simpa [List.flatMap_cons, List.append_assoc] using
          noLowEscape_escapeChar c' (cs.flatMap escapeChar ++ '"' :: rest) notLow
    rw [List.flatMap_cons, List.append_assoc, stringBody_escapeChar c closed alone,
      stringBody_escaped start rest cs (c :: acc) apart.tail]
    simp

/-! ## Integers -/

/-- What may follow a value inside a document: nothing, or a delimiter. -/
def Closes (rest : List Char) : Prop := ∀ c r, rest = c :: r → c = ',' ∨ c = ']' ∨ c = '}'

theorem isDigit_digitChar {d : Nat} (small : d < 10) : isDigit (Nat.digitChar d) = true := by
  interval_cases d <;> rfl

theorem isDigit_toNat {c : Char} (digit : isDigit c = true) : 48 ≤ c.toNat ∧ c.toNat ≤ 57 := by
  simp only [isDigit, Bool.and_eq_true, decide_eq_true_eq] at digit
  exact digit

theorem digitChar_eq_zero {d : Nat} (small : d < 10) (zero : Nat.digitChar d = '0') : d = 0 := by
  interval_cases d <;> simp_all [Nat.digitChar]

theorem intPart_lead {c : Char} {rest : List Char} (digit : isDigit c = true) (nonzero : c ≠ '0') :
    intPart (c :: rest) = some (c :: rest.takeWhile isDigit, rest.dropWhile isDigit) := by
  unfold intPart
  split
  · simp_all
  · simp_all
  · contradiction

theorem intPart_decimal (n : Nat) {rest : List Char} (stop : Closes rest) :
    intPart (Nat.toDigits 10 n ++ rest) = some (Nat.toDigits 10 n, rest) := by
  obtain ⟨ds, digits, small, nonempty, noZero, -⟩ := Numeral.decimal_digits n
  have restStop : rest.takeWhile isDigit = [] ∧ rest.dropWhile isDigit = rest := by
    cases rest with
    | nil => simp
    | cons c r =>
      have : isDigit c = false := by rcases stop c r rfl with h | h | h <;> subst h <;> rfl
      simp [this]
  rw [digits]
  obtain ⟨d, ds, rfl⟩ := List.exists_cons_of_ne_nil nonempty
  by_cases zero : d = 0
  · -- a single zero: no digit may follow a leading zero
    obtain ⟨rfl, rfl⟩ := noZero (by simp [zero])
    rfl
  · have tailDigits : ∀ c ∈ ds.map Nat.digitChar, isDigit c = true := by
      simp only [List.mem_map]
      rintro c ⟨e, member, rfl⟩
      exact isDigit_digitChar (small e (by simp [member]))
    rw [List.map_cons, List.cons_append,
      intPart_lead (isDigit_digitChar (small d (by simp)))
        (fun eq => zero (digitChar_eq_zero (small d (by simp)) eq)),
      List.takeWhile_append_of_pos tailDigits, List.dropWhile_append_of_pos tailDigits,
      restStop.1, restStop.2, List.append_nil]

theorem fracPart_closes {rest : List Char} (stop : Closes rest) : fracPart rest = ([], rest) := by
  cases rest with
  | nil => rfl
  | cons c r => rcases stop c r rfl with rfl | rfl | rfl <;> rfl

theorem expPart_closes {rest : List Char} (stop : Closes rest) : expPart rest = (none, rest) := by
  cases rest with
  | nil => rfl
  | cons c r => rcases stop c r rfl with rfl | rfl | rfl <;> rfl

/-- A number without fraction or exponent is an integer, signed by a leading minus. -/
theorem number_integer {cs ip rest : List Char} (neg : Bool) (body : List Char)
    (sign : cs = (if neg then ['-'] else []) ++ body) (notMinus : ∀ r, body ≠ '-' :: r)
    (parts : intPart body = some (ip, rest)) (noFrac : fracPart rest = ([], rest))
    (noExp : expPart rest = (none, rest)) (short : ip.length ≤ maxIntDigits) :
    number cs = some (.ok (.int (if neg then -(digitsValue ip : Int) else digitsValue ip), rest)) := by
  unfold number
  split
  rename_i neg' r split
  -- the sign is read off the first character
  have read : neg' = neg ∧ r = body := by
    split at split
    · cases neg
      · exact absurd (by simpa using sign.symm) (notMinus _)
      · simp_all
    · rename_i plain
      cases neg
      · simp_all
      · exact absurd sign (plain body)
  obtain ⟨rfl, rfl⟩ := read
  simp [parts, noFrac, noExp, Nat.not_lt.mpr short]

theorem toString_int (i : Int) :
    (toString i).toList = (if i < 0 then ['-'] else []) ++ Nat.toDigits 10 i.natAbs := by
  cases i with
  | ofNat n => simp [toString, Int.repr, Nat.repr]
  | negSucc n => simp [toString, Int.repr, Nat.repr, Int.negSucc_lt_zero]

/-- The first character of a written integer, and the one after a minus sign, is a digit. -/
theorem toDigits_head (n : Nat) : ∃ c t, Nat.toDigits 10 n = c :: t ∧ isDigit c = true := by
  obtain ⟨ds, digits, small, nonempty, -⟩ := Numeral.decimal_digits n
  obtain ⟨d, ds, rfl⟩ := List.exists_cons_of_ne_nil nonempty
  exact ⟨_, _, by rw [digits, List.map_cons], isDigit_digitChar (small d (by simp))⟩

theorem number_int (i : Int) {rest : List Char}
    (short : (Nat.toDigits 10 i.natAbs).length ≤ maxIntDigits) (stop : Closes rest) :
    number ((toString i).toList ++ rest) = some (.ok (.int i, rest)) := by
  obtain ⟨ds, -, -, -, -, value⟩ := Numeral.decimal_digits i.natAbs
  obtain ⟨c, t, first, digit⟩ := toDigits_head i.natAbs
  have read : digitsValue (Nat.toDigits 10 i.natAbs) = i.natAbs := value
  have notMinus : ∀ r, Nat.toDigits 10 i.natAbs ++ rest ≠ '-' :: r := by
    intro r eq
    rw [first, List.cons_append, List.cons.injEq] at eq
    rw [eq.1] at digit
    contradiction
  rw [number_integer (decide (i < 0)) _ (by rw [toString_int, List.append_assoc]; simp)
    notMinus (intPart_decimal _ stop) (fracPart_closes stop) (expPart_closes stop) short, read]
  congr
  split
  · rename_i negative
    rw [Int.ofNat_natAbs_of_nonpos (by simp at negative; omega), Int.neg_neg]
  · rename_i nonnegative
    exact Int.natAbs_of_nonneg (by simp at nonnegative; omega)

/-- A written integer starts with a digit, or with a minus sign and a digit. -/
theorem toString_int_head (i : Int) : ∃ c t, (toString i).toList = c :: t ∧
    (isDigit c = true ∨ c = '-' ∧ ∃ d t', t = d :: t' ∧ isDigit d = true) := by
  obtain ⟨c, t, first, digit⟩ := toDigits_head i.natAbs
  rw [toString_int, first]
  by_cases negative : i < 0
  · exact ⟨'-', c :: t, by simp [negative], .inr ⟨rfl, c, t, rfl, digit⟩⟩
  · exact ⟨c, t, by simp [negative], .inl digit⟩

theorem value_int (i : Int) (fuel : Nat) {rest : List Char}
    (short : (Nat.toDigits 10 i.natAbs).length ≤ maxIntDigits) (stop : Closes rest) :
    value (fuel + 1) ((toString i).toList ++ rest) = .ok (.int i, rest) := by
  obtain ⟨c, t, spelled, sign⟩ := toString_int_head i
  -- no other form of value starts as an integer does
  rw [value, number_int i short stop]
  · rfl
  all_goals
    intro r written
    rw [spelled, List.cons_append] at written
    rcases sign with digit | ⟨rfl, d, t', rfl, digit⟩ <;> simp_all [isDigit]

/-! ## Documents -/

/-- A document that JSON text carries: no floats, integers of at most 4300 digits, keys that
differ, and texts with no lone high surrogate right before a lone low one. -/
inductive Readable : Json → Prop
  | null : Readable .null
  | bool (b : Bool) : Readable (.bool b)
  | int (i : Int) (short : (Nat.toDigits 10 i.natAbs).length ≤ maxIntDigits) : Readable (.int i)
  | str (s : String) (apart : Text.PairsApart s.toList) : Readable (.str s)
  | arr (xs : List Json) (items : ∀ x ∈ xs, Readable x) : Readable (.arr xs)
  | obj (ms : List (String × Json)) (keys : (ms.map (·.1)).Nodup)
      (names : ∀ m ∈ ms, Text.PairsApart m.1.toList) (values : ∀ m ∈ ms, Readable m.2) :
      Readable (.obj ms)

theorem quote_toList (s : String) :
    (quote s).toList = '"' :: (s.toList.flatMap escapeChar ++ ['"']) := by
  simp [quote]

/-- The first character of a written document, which is no blank and closes nothing. -/
theorem render_head {j : Json} (readable : Readable j) :
    ∃ c t, (render j).toList = c :: t ∧ isBlank c = false ∧ c ≠ ']' ∧ c ≠ '}' ∧ c ≠ '﻿' := by
  cases readable with
  | null => exact ⟨'n', ['u', 'l', 'l'], rfl, rfl, by decide, by decide, by decide⟩
  | bool b =>
    cases b
    · exact ⟨'f', ['a', 'l', 's', 'e'], rfl, rfl, by decide, by decide, by decide⟩
    · exact ⟨'t', ['r', 'u', 'e'], rfl, rfl, by decide, by decide, by decide⟩
  | int i =>
    obtain ⟨c, t, first, digit⟩ := toDigits_head i.natAbs
    have rendered : (render (.int i)).toList = (toString i).toList := by simp [render]
    rw [rendered, toString_int]
    by_cases negative : i < 0
    · exact ⟨'-', Nat.toDigits 10 i.natAbs, by simp [negative], rfl, by decide, by decide,
        by decide⟩
    · have code := isDigit_toNat digit
      refine ⟨c, t, by simp [negative, first], ?_, ?_, ?_, ?_⟩
      · simp only [isBlank, Bool.or_eq_false_iff, beq_eq_false_iff_ne]
        refine ⟨⟨⟨?_, ?_⟩, ?_⟩, ?_⟩ <;> · rintro rfl; simp at code
      all_goals · rintro rfl; simp at code
  | str s => exact ⟨'"', _, quote_toList s, rfl, by decide, by decide, by decide⟩
  | arr xs =>
    exact ⟨'[', (renderItems xs).toList ++ [']'], by simp [render], rfl, by decide, by decide,
      by decide⟩
  | obj ms =>
    exact ⟨'{', (renderMembers ms).toList ++ ['}'], by simp [render], rfl, by decide, by decide,
      by decide⟩

theorem closes_cons {c : Char} (rest : List Char) (delimiter : c = ',' ∨ c = ']' ∨ c = '}') :
    Closes (c :: rest) := by
  intro d r written
  rw [List.cons.injEq] at written
  rw [← written.1]
  exact delimiter

theorem skipBlank_cons {c : Char} (rest : List Char) (notBlank : isBlank c = false) :
    skipBlank (c :: rest) = c :: rest :=
  List.dropWhile_cons_of_neg (by simp [notBlank])

theorem skipBlank_render {j : Json} (readable : Readable j) (rest : List Char) :
    skipBlank ((render j).toList ++ rest) = (render j).toList ++ rest := by
  obtain ⟨c, t, first, notBlank, -⟩ := render_head readable
  rw [first, List.cons_append, skipBlank, List.dropWhile_cons_of_neg (by simp [notBlank])]

/-- A new key goes last. -/
theorem setMember_fresh {ms : List (String × Json)} {k : String} (v : Json)
    (fresh : k ∉ ms.map (·.1)) : setMember ms k v = ms ++ [(k, v)] := by
  have none : ms.any (·.1 == k) = false := by
    simpa [List.any_eq_false] using fun m member same => fresh (List.mem_map.mpr ⟨m, member, same⟩)
  simp [setMember, none]

theorem renderItems_cons_cons (x y : Json) (ys : List Json) :
    (renderItems (x :: y :: ys)).toList = (render x).toList ++ ',' :: (renderItems (y :: ys)).toList := by
  simp [renderItems]

theorem renderMembers_single (k : String) (v : Json) :
    (renderMembers [(k, v)]).toList = (quote k).toList ++ ':' :: (render v).toList := by
  simp [renderMembers]

theorem renderMembers_cons_cons (k : String) (v : Json) (m : String × Json)
    (ms : List (String × Json)) :
    (renderMembers ((k, v) :: m :: ms)).toList =
      (quote k).toList ++ ':' :: ((render v).toList ++ ',' :: (renderMembers (m :: ms)).toList) := by
  obtain ⟨k', v'⟩ := m
  simp [renderMembers]

/-- Items start as their first item does. -/
theorem renderItems_head {x : Json} (xs : List Json) (readable : Readable x) :
    ∃ c t, (renderItems (x :: xs)).toList = c :: t ∧ isBlank c = false ∧ c ≠ ']' := by
  obtain ⟨c, t, first, notBlank, notClose, -⟩ := render_head readable
  cases xs with
  | nil => exact ⟨c, t, by simp [renderItems, first], notBlank, notClose⟩
  | cons y ys =>
    exact ⟨c, t ++ ',' :: (renderItems (y :: ys)).toList, by rw [renderItems_cons_cons, first]; rfl,
      notBlank, notClose⟩

/-- A written key, its colon and what follows, as the reader meets them. -/
theorem quote_colon (k : String) (more : List Char) :
    (quote k).toList ++ ':' :: more = '"' :: (k.toList.flatMap escapeChar ++ '"' :: ':' :: more) := by
  rw [quote_toList]
  simp

theorem renderMembers_head (k : String) (v : Json) (ms : List (String × Json)) :
    ∃ t, (renderMembers ((k, v) :: ms)).toList = '"' :: t := by
  cases ms with
  | nil => exact ⟨_, by rw [renderMembers_single, quote_colon]⟩
  | cons m ms => exact ⟨_, by rw [renderMembers_cons_cons, quote_colon]⟩

mutual

/-- A readable document reads back from its text, whatever may close it, with the length of
its text as fuel. -/
theorem value_render : ∀ (j : Json) (fuel : Nat) (rest : List Char), Readable j →
    (render j).toList.length ≤ fuel → Closes rest →
    value fuel ((render j).toList ++ rest) = .ok (j, rest)
  | .null => by
    intro fuel rest _ fits _
    obtain ⟨fuel, rfl⟩ : ∃ f, fuel = f + 1 := ⟨fuel - 1, by simp [render] at fits; omega⟩
    simp [render, value]
  | .bool b => by
    intro fuel rest _ fits _
    obtain ⟨fuel, rfl⟩ : ∃ f, fuel = f + 1 := ⟨fuel - 1, by cases b <;> simp [render] at fits <;> omega⟩
    cases b <;> simp [render, value]
  | .int i => by
    intro fuel rest readable fits stop
    cases readable with
    | int _ short =>
      obtain ⟨c, t, spelled, -⟩ := toString_int_head i
      have rendered : (render (.int i)).toList = (toString i).toList := by simp [render]
      obtain ⟨fuel, rfl⟩ : ∃ f, fuel = f + 1 :=
        ⟨fuel - 1, by rw [rendered, spelled] at fits; simp at fits; omega⟩
      rw [rendered, value_int i fuel short stop]
  | .float _ => fun _ _ readable _ _ => nomatch readable
  | .str s => by
    intro fuel rest readable fits _
    cases readable with
    | str _ apart =>
      obtain ⟨fuel, rfl⟩ : ∃ f, fuel = f + 1 :=
        ⟨fuel - 1, by simp [render, quote_toList] at fits; omega⟩
      have rendered : (render (.str s)).toList = (quote s).toList := by simp [render]
      rw [rendered, quote_toList, List.cons_append, List.append_assoc, List.cons_append,
        List.nil_append]
      simp [value, stringBody_escaped _ _ _ _ apart]
  | .arr [] => by
    intro fuel rest _ fits _
    obtain ⟨fuel, rfl⟩ : ∃ f, fuel = f + 1 :=
      ⟨fuel - 1, by simp [render, renderItems] at fits; omega⟩
    simp [render, renderItems, value, skipBlank, isBlank]
  | .arr (x :: xs) => by
    intro fuel rest readable fits stop
    cases readable with
    | arr _ items =>
      have rendered : (render (.arr (x :: xs))).toList =
          '[' :: ((renderItems (x :: xs)).toList ++ [']']) := by simp [render]
      obtain ⟨fuel, rfl⟩ : ∃ f, fuel = f + 1 :=
        ⟨fuel - 1, by rw [rendered] at fits; simp at fits; omega⟩
      obtain ⟨c, t, first, notBlank, notClose⟩ := renderItems_head xs (items x (by simp))
      rw [rendered, List.cons_append, List.append_assoc, List.singleton_append, value]
      -- the first item is neither blank nor the closing bracket, so the items are read
      have skipped : skipBlank ((renderItems (x :: xs)).toList ++ ']' :: rest) =
          (renderItems (x :: xs)).toList ++ ']' :: rest := by
        rw [first, List.cons_append, skipBlank, List.dropWhile_cons_of_neg (by simp [notBlank])]
      rw [skipped]
      split
      · rename_i r closing
        rw [first, List.cons_append, List.cons.injEq] at closing
        exact absurd closing.1 notClose
      · rw [items_render (x :: xs) fuel rest [] (by simp) items
          (by rw [rendered] at fits; simp at fits; omega)]
        simp
  | .obj [] => by
    intro fuel rest _ fits _
    obtain ⟨fuel, rfl⟩ : ∃ f, fuel = f + 1 :=
      ⟨fuel - 1, by simp [render, renderMembers] at fits; omega⟩
    simp [render, renderMembers, value, skipBlank, isBlank]
  | .obj ((k, v) :: ms) => by
    intro fuel rest readable fits stop
    cases readable with
    | obj _ keys names values =>
      have rendered : (render (.obj ((k, v) :: ms))).toList =
          '{' :: ((renderMembers ((k, v) :: ms)).toList ++ ['}']) := by simp [render]
      obtain ⟨fuel, rfl⟩ : ∃ f, fuel = f + 1 :=
        ⟨fuel - 1, by rw [rendered] at fits; simp at fits; omega⟩
      obtain ⟨t, first⟩ := renderMembers_head k v ms
      rw [rendered, List.cons_append, List.append_assoc, List.singleton_append, value]
      -- the members start with the quote of the first key
      have skipped : skipBlank ((renderMembers ((k, v) :: ms)).toList ++ '}' :: rest) =
          (renderMembers ((k, v) :: ms)).toList ++ '}' :: rest := by
        rw [first, List.cons_append, skipBlank, List.dropWhile_cons_of_neg (by decide)]
      rw [skipped]
      split
      · rename_i r closing
        rw [first, List.cons_append, List.cons.injEq] at closing
        exact absurd closing.1 (by decide)
      · rw [members_render ((k, v) :: ms) fuel rest [] (by simp)
          (fun m member => ⟨names m member, values m member⟩) (by simpa using keys)
          (by rw [rendered] at fits; simp at fits; omega)]
        simp

/-- Items after the opening bracket read back, the first one next. -/
theorem items_render : ∀ (xs : List Json) (fuel : Nat) (rest : List Char) (acc : List Json), xs ≠ [] →
    (∀ x ∈ xs, Readable x) → (renderItems xs).toList.length + 1 ≤ fuel →
    items fuel ((renderItems xs).toList ++ ']' :: rest) acc = .ok (.arr (acc.reverse ++ xs), rest)
  | [] => fun _ _ _ nonempty _ _ => absurd rfl nonempty
  | [x] => by
    intro fuel rest acc _ readable fits
    obtain ⟨fuel, rfl⟩ : ∃ f, fuel = f + 1 := ⟨fuel - 1, by omega⟩
    have single : (renderItems [x]).toList = (render x).toList := by simp [renderItems]
    rw [single] at fits ⊢
    rw [items, value_render x fuel (']' :: rest) (readable x (by simp)) (by omega)
      (closes_cons rest (by simp))]
    simp [bind, Except.bind, pure, Except.pure, skipBlank, isBlank]
  | x :: y :: ys => by
    intro fuel rest acc _ readable fits
    obtain ⟨fuel, rfl⟩ : ∃ f, fuel = f + 1 := ⟨fuel - 1, by omega⟩
    rw [renderItems_cons_cons] at fits ⊢
    obtain ⟨c, t, first, notBlank, -⟩ := renderItems_head ys (readable y (by simp))
    have skipped : skipBlank ((renderItems (y :: ys)).toList ++ ']' :: rest) =
        (renderItems (y :: ys)).toList ++ ']' :: rest := by
      rw [first, List.cons_append, skipBlank, List.dropWhile_cons_of_neg (by simp [notBlank])]
    rw [List.append_assoc, List.cons_append, items,
      value_render x fuel _ (readable x (by simp)) (by simp at fits; omega)
        (closes_cons _ (by simp))]
    have comma : skipBlank (',' :: ((renderItems (y :: ys)).toList ++ ']' :: rest)) =
        ',' :: ((renderItems (y :: ys)).toList ++ ']' :: rest) :=
      List.dropWhile_cons_of_neg (by decide)
    simp only [bind, Except.bind, comma]
    rw [skipped, items_render (y :: ys) fuel rest (x :: acc) (by simp)
      (fun z member => readable z (List.mem_cons_of_mem x member)) (by simp at fits; omega)]
    simp

/-- Members after the opening brace read back, the first key next; each new key goes last. -/
theorem members_render : ∀ (ms : List (String × Json)) (fuel : Nat) (rest : List Char)
    (acc : List (String × Json)), ms ≠ [] →
    (∀ m ∈ ms, Text.PairsApart m.1.toList ∧ Readable m.2) → ((acc ++ ms).map (·.1)).Nodup →
    (renderMembers ms).toList.length + 1 ≤ fuel →
    members fuel ((renderMembers ms).toList ++ '}' :: rest) acc = .ok (.obj (acc ++ ms), rest)
  | [] => fun _ _ _ nonempty _ _ _ => absurd rfl nonempty
  | (k, v) :: ms => by
    intro fuel rest acc _ readable keys fits
    obtain ⟨apart, readableV⟩ := readable (k, v) (by simp)
    have fresh : k ∉ acc.map (·.1) := by
      intro member
      rw [List.map_append, List.nodup_append] at keys
      exact keys.2.2 k member k (by simp) rfl
    obtain ⟨fuel, rfl⟩ : ∃ f, fuel = f + 1 := ⟨fuel - 1, by omega⟩
    -- the members after this one are read by the same lemma, this one's key added
    have more : ms ≠ [] → (renderMembers ms).toList.length + 1 ≤ fuel →
        members fuel ((renderMembers ms).toList ++ '}' :: rest) (acc ++ [(k, v)]) =
          .ok (.obj (acc ++ [(k, v)] ++ ms), rest) :=
      fun nonempty fitsMore => members_render ms fuel rest (acc ++ [(k, v)]) nonempty
        (fun m member => readable m (List.mem_cons_of_mem _ member)) (by simpa using keys) fitsMore
    cases ms with
    | nil =>
      rw [renderMembers_single] at fits ⊢
      rw [List.append_assoc, List.cons_append, quote_colon, members,
        stringBody_escaped _ _ _ _ apart]
      simp only [bind, Except.bind, List.reverse_nil, List.nil_append, String.ofList_toList,
        skipBlank_cons _ (by decide : isBlank ':' = false), skipBlank_render readableV]
      rw [value_render v fuel ('}' :: rest) readableV (by simp at fits; omega)
        (closes_cons rest (by simp))]
      simp only [setMember_fresh v fresh, skipBlank_cons _ (by decide : isBlank '}' = false)]
      rfl
    | cons m ms =>
      rw [renderMembers_cons_cons] at fits ⊢
      rw [List.append_assoc, List.cons_append, quote_colon, members,
        stringBody_escaped _ _ _ _ apart]
      simp only [bind, Except.bind, List.reverse_nil, List.nil_append, String.ofList_toList,
        skipBlank_cons _ (by decide : isBlank ':' = false), List.append_assoc, List.cons_append,
        skipBlank_render readableV]
      rw [value_render v fuel _ readableV (by simp at fits; omega) (closes_cons _ (by simp))]
      obtain ⟨t, first⟩ := renderMembers_head m.1 m.2 ms
      have skipped : skipBlank ((renderMembers (m :: ms)).toList ++ '}' :: rest) =
          (renderMembers (m :: ms)).toList ++ '}' :: rest := by
        rw [first, List.cons_append, skipBlank_cons _ (by decide)]
      simp only [setMember_fresh v fresh, skipBlank_cons _ (by decide : isBlank ',' = false), skipped]
      rw [more (by simp) (by simp at fits; omega)]
      simp

end

/-- Every document JSON text can carry reads back from its compact text. -/
theorem parse_render {j : Json} (readable : Readable j) : parse (render j) = .ok j := by
  obtain ⟨c, t, first, -, -, -, notMark⟩ := render_head readable
  have whole := value_render j ((render j).toList.length + 1) [] readable (by omega)
    (fun _ _ none => nomatch none)
  rw [List.append_nil] at whole
  have skipped := skipBlank_render readable []
  rw [List.append_nil] at skipped
  unfold parse
  dsimp only
  split
  · rename_i mark
    rw [first, List.cons.injEq] at mark
    exact absurd mark.1 notMark
  · simp only [skipped, whole, bind, Except.bind]
    rfl

theorem parse?_render {j : Json} (readable : Readable j) : parse? (render j) = some j := by
  simp [parse?, parse_render readable]

end Json

end Storefront
