import Storefront.Page.Cursor
import Mathlib.Data.Nat.Digits.Defs
import Mathlib.Data.List.Forall2
import Mathlib.Tactic.Ring

/-!
# Reading page tokens back

A token is the position's timestamp as a canonical hexadecimal numeral, a comma, and the id.
Reading splits the token on every comma, so a token reads exactly when it has one comma and the
text before it is a signed hexadecimal numeral of 64 bits. A position whose id holds a comma is
written as a token with more commas and is refused when read back; every other position reads
back as itself, and a token that reads is written again with its numeral made canonical.
-/

namespace Storefront.Cursor

/-! ## Hexadecimal numerals -/

/-- `c` is an ASCII hexadecimal digit, of either case, of value `d`. -/
def HexDigit (c : Char) (d : Nat) : Prop :=
  d < 16 ∧ (c = d.digitChar ∨ c = d.digitChar.toUpper)

/-- The number that hexadecimal digits stand for, most significant first. -/
def hexValue (ds : List Nat) : Nat := Nat.ofDigits 16 ds.reverse

/-- A numeral `[+-]?[0-9a-fA-F]+` and the number it stands for. -/
@[mk_iff]
inductive HexNumeral : List Char → Int → Prop
  | unsigned {cs : List Char} {ds : List Nat} :
      List.Forall₂ HexDigit cs ds → ds ≠ [] → HexNumeral cs (hexValue ds)
  | plus {cs : List Char} {ds : List Nat} :
      List.Forall₂ HexDigit cs ds → ds ≠ [] → HexNumeral ('+' :: cs) (hexValue ds)
  | minus {cs : List Char} {ds : List Nat} :
      List.Forall₂ HexDigit cs ds → ds ≠ [] → HexNumeral ('-' :: cs) (-(hexValue ds : Int))

/-- The canonical numeral of a number: `-` before a negative one only, then lowercase
hexadecimal digits, the first of them not `0` unless it is the only one. -/
def CanonicalHex (cs : List Char) (v : Int) : Prop :=
  ∃ ds : List Nat, cs = (if v < 0 then ['-'] else []) ++ ds.map Nat.digitChar ∧
    (∀ d ∈ ds, d < 16) ∧ ds ≠ [] ∧ (ds.head? = some 0 → ds = [0]) ∧ hexValue ds = v.natAbs

theorem hexValue_snoc (ds : List Nat) (d : Nat) : hexValue (ds ++ [d]) = d + 16 * hexValue ds := by
  simp [hexValue, Nat.ofDigits_cons]

theorem hexValue_cons (d : Nat) (ds : List Nat) :
    hexValue (d :: ds) = d * 16 ^ ds.length + hexValue ds := by
  simp only [hexValue, List.reverse_cons, Nat.ofDigits_append, Nat.ofDigits_singleton,
    List.length_reverse]
  ring

theorem char_le_iff_toNat {c d : Char} : c ≤ d ↔ c.toNat ≤ d.toNat := by
  rw [Char.le_def, UInt32.le_iff_toNat_le, Char.toNat_val, Char.toNat_val]

-- The digits as printed and their upper case are the characters 0-9, a-f and A-F.
theorem digitChar_toNat : ∀ d < 16,
    (Nat.digitChar d).toNat = if d < 10 then 48 + d else 87 + d := by
  decide

theorem digitChar_toUpper_toNat : ∀ d < 16,
    (Nat.digitChar d).toUpper.toNat = if d < 10 then 48 + d else 55 + d := by
  decide

/-- The digit table reads exactly the hexadecimal digits, with their values. -/
theorem hexValue?_eq_some_iff {c : Char} {d : Nat} : hexValue? c = some d ↔ HexDigit c d := by
  constructor
  · intro value
    unfold hexValue? at value
    simp only [char_le_iff_toNat] at value
    split at value
    · rename_i range
      obtain rfl : c.toNat - 48 = d := by simpa using value
      have bounds : 48 ≤ c.toNat ∧ c.toNat ≤ 57 := by simpa using range
      refine ⟨by omega, .inl (Char.toNat_inj.mp ?_)⟩
      rw [digitChar_toNat _ (by omega), if_pos (by omega)]
      omega
    split at value
    · rename_i range
      obtain rfl : c.toNat - 97 + 10 = d := by simpa using value
      have bounds : 97 ≤ c.toNat ∧ c.toNat ≤ 102 := by simpa using range
      refine ⟨by omega, .inl (Char.toNat_inj.mp ?_)⟩
      rw [digitChar_toNat _ (by omega), if_neg (by omega)]
      omega
    split at value
    · rename_i range
      obtain rfl : c.toNat - 65 + 10 = d := by simpa using value
      have bounds : 65 ≤ c.toNat ∧ c.toNat ≤ 70 := by simpa using range
      refine ⟨by omega, .inr (Char.toNat_inj.mp ?_)⟩
      rw [digitChar_toUpper_toNat _ (by omega), if_neg (by omega)]
      omega
    · cases value
  · rintro ⟨small, rfl | rfl⟩
    · exact (by decide : ∀ d < 16, hexValue? d.digitChar = some d) d small
    · exact (by decide : ∀ d < 16, hexValue? d.digitChar.toUpper = some d) d small

/-- No sign and no comma is a digit. -/
theorem HexDigit.ne {c : Char} {d : Nat} (digit : HexDigit c d) : c ≠ '+' ∧ c ≠ '-' ∧ c ≠ ',' := by
  obtain ⟨small, rfl | rfl⟩ := digit
  · exact (by decide : ∀ d < 16, d.digitChar ≠ '+' ∧ d.digitChar ≠ '-' ∧ d.digitChar ≠ ',')
      d small
  · exact (by decide : ∀ d < 16, d.digitChar.toUpper ≠ '+' ∧ d.digitChar.toUpper ≠ '-' ∧
      d.digitChar.toUpper ≠ ',') d small

theorem comma_not_mem_of_digits {cs : List Char} {ds : List Nat}
    (digits : List.Forall₂ HexDigit cs ds) : ',' ∉ cs := by
  induction digits with
  | nil => exact List.not_mem_nil
  | cons digit _ rest =>
    rw [List.mem_cons, not_or]
    exact ⟨fun same => digit.ne.2.2 same.symm, rest⟩

theorem HexNumeral.comma_not_mem {cs : List Char} {v : Int} (numeral : HexNumeral cs v) :
    ',' ∉ cs := by
  cases numeral with
  | unsigned digits _ => exact comma_not_mem_of_digits digits
  | plus digits _ => simpa using comma_not_mem_of_digits digits
  | minus digits _ => simpa using comma_not_mem_of_digits digits

/-- Reading digits left to right, the value so far shifted by each new digit. -/
theorem foldlM_hexDigits : ∀ (cs : List Char) (acc n : Nat),
    cs.foldlM (fun n c => (hexValue? c).map (n * 16 + ·)) acc = some n ↔
      ∃ ds, List.Forall₂ HexDigit cs ds ∧ n = acc * 16 ^ cs.length + hexValue ds
  | [], acc, n => by
    simp only [List.foldlM_nil, List.forall₂_nil_left_iff, exists_eq_left, List.length_nil]
    simp [hexValue, eq_comm]
  | c :: cs, acc, n => by
    rw [List.foldlM_cons]
    cases digit : hexValue? c with
    | none =>
      simp only [Option.map_none, Option.bind_eq_bind, Option.bind_none, reduceCtorEq, false_iff]
      rintro ⟨_ | ⟨d, ds⟩, digits, _⟩
      · cases digits
      · rw [List.forall₂_cons, ← hexValue?_eq_some_iff, digit] at digits
        cases digits.1
    | some d =>
      simp only [Option.map_some, Option.bind_eq_bind, Option.bind_some]
      rw [foldlM_hexDigits cs (acc * 16 + d) n]
      constructor
      · rintro ⟨ds, digits, rfl⟩
        refine ⟨d :: ds, .cons (hexValue?_eq_some_iff.1 digit) digits, ?_⟩
        rw [hexValue_cons, ← digits.length_eq, List.length_cons, Nat.pow_succ]
        ring
      · rintro ⟨_ | ⟨d', ds⟩, digits, rfl⟩
        · cases digits
        rw [List.forall₂_cons, ← hexValue?_eq_some_iff, digit, Option.some.injEq] at digits
        obtain ⟨rfl, digits⟩ := digits
        refine ⟨ds, digits, ?_⟩
        rw [hexValue_cons, ← digits.length_eq, List.length_cons, Nat.pow_succ]
        ring

theorem hexDigitsValue?_eq_some_iff {cs : List Char} {n : Nat} :
    hexDigitsValue? cs = some n ↔ ∃ ds, List.Forall₂ HexDigit cs ds ∧ n = hexValue ds := by
  simpa [hexDigitsValue?] using foldlM_hexDigits cs 0 n

-- The digits after the sign, and the sign applied to their value.
theorem signed_digits_iff {ds : List Char} {neg : Bool} {v : Int} :
    (if ds.isEmpty = true then none else
      Option.map (fun n : Int => if neg = true then -n else n)
        (hexDigitsValue? ds >>= fun a => pure (a : Int))) = some v ↔
      ∃ es, List.Forall₂ HexDigit ds es ∧ es ≠ [] ∧
        v = if neg = true then -(hexValue es : Int) else hexValue es := by
  by_cases empty : ds = []
  · subst empty
    simp only [List.isEmpty_nil, if_true, reduceCtorEq, false_iff]
    rintro ⟨es, digits, nonempty, _⟩
    exact nonempty (List.forall₂_nil_left_iff.mp digits)
  rw [if_neg (by simpa using empty)]
  constructor
  · intro read
    obtain ⟨m, value, rfl⟩ := Option.map_eq_some_iff.mp read
    obtain ⟨n, digitsRead, rfl⟩ : ∃ n, hexDigitsValue? ds = some n ∧ m = n := by
      cases digitsRead : hexDigitsValue? ds with
      | none => simp [digitsRead] at value
      | some n => simpa [digitsRead, eq_comm] using value
    obtain ⟨es, digits, rfl⟩ := hexDigitsValue?_eq_some_iff.1 digitsRead
    refine ⟨es, digits, fun none => empty ?_, rfl⟩
    exact List.forall₂_nil_right_iff.mp (none ▸ digits)
  · rintro ⟨es, digits, _, rfl⟩
    rw [hexDigitsValue?_eq_some_iff.2 ⟨es, digits, rfl⟩]
    rfl

theorem digits_head_ne_sign {c : Char} {cs : List Char} {es : List Nat}
    (digits : List.Forall₂ HexDigit (c :: cs) es) : c ≠ '+' ∧ c ≠ '-' := by
  cases digits with
  | cons digit _ => exact ⟨digit.ne.1, digit.ne.2.1⟩

/-- Reading a numeral accepts exactly `[+-]?[0-9a-fA-F]+`, with its value. -/
theorem readHex?_eq_some_iff {cs : List Char} {v : Int} :
    readHex? cs = some v ↔ HexNumeral cs v := by
  rw [hexNumeral_iff]
  rcases cs with _ | ⟨c, ds⟩
  · simp only [readHex?]
    rw [signed_digits_iff]
    simp
  -- a sign first: the digits follow it
  by_cases plus : c = '+'
  · subst plus
    unfold readHex?
    dsimp only
    rw [signed_digits_iff]
    constructor
    · rintro ⟨es, digits, nonempty, rfl⟩
      exact .inr (.inl ⟨ds, es, digits, nonempty, rfl, rfl⟩)
    · rintro (⟨es, digits, _⟩ | ⟨ds', es, digits, nonempty, same, rfl⟩ | ⟨_, _, _, _, same, _⟩)
      · exact absurd rfl (digits_head_ne_sign digits).1
      · obtain rfl := (List.cons.inj same).2
        exact ⟨es, digits, nonempty, rfl⟩
      · exact absurd (List.cons.inj same).1 (by decide)
  by_cases minus : c = '-'
  · subst minus
    unfold readHex?
    dsimp only
    rw [signed_digits_iff]
    constructor
    · rintro ⟨es, digits, nonempty, rfl⟩
      exact .inr (.inr ⟨ds, es, digits, nonempty, rfl, rfl⟩)
    · rintro (⟨es, digits, _⟩ | ⟨_, _, _, _, same, _⟩ | ⟨ds', es, digits, nonempty, same, rfl⟩)
      · exact absurd rfl (digits_head_ne_sign digits).2
      · exact absurd (List.cons.inj same).1 (by decide)
      · obtain rfl := (List.cons.inj same).2
        exact ⟨es, digits, nonempty, rfl⟩
  -- no sign: the whole text is the digits
  simp only [readHex?]
  split
  next _ _ same => exact absurd (List.cons.inj same).1 plus
  next _ _ same => exact absurd (List.cons.inj same).1 minus
  dsimp only
  rw [signed_digits_iff]
  constructor
  · rintro ⟨es, digits, nonempty, rfl⟩
    exact .inl ⟨es, digits, nonempty, rfl⟩
  · rintro (⟨es, digits, nonempty, rfl⟩ | ⟨_, _, _, _, same, _⟩ | ⟨_, _, _, _, same, _⟩)
    · exact ⟨es, digits, nonempty, rfl⟩
    · exact absurd (List.cons.inj same).1 plus
    · exact absurd (List.cons.inj same).1 minus

/-! ## Splitting a token at its commas -/

theorem comma_not_mem_of_mem_splitOn : ∀ {xs part : List Char},
    part ∈ xs.splitOn ',' → ',' ∉ part
  | [], part, member => by
    rw [List.splitOn_nil, List.mem_singleton] at member
    subst member
    exact List.not_mem_nil
  | y :: ys, part, member => by
    rw [List.splitOn_cons_eq_if_modifyHead] at member
    split at member
    · rcases List.mem_cons.mp member with rfl | later
      · exact List.not_mem_nil
      · exact comma_not_mem_of_mem_splitOn later
    · rename_i notComma
      obtain ⟨first, others, split⟩ := List.exists_cons_of_ne_nil (List.splitOn_ne_nil ',' ys)
      rw [split, List.modifyHead_cons] at member
      rcases List.mem_cons.mp member with rfl | later
      · rw [List.mem_cons, not_or]
        refine ⟨fun same => notComma (by simp [← same]), ?_⟩
        exact comma_not_mem_of_mem_splitOn (split ▸ List.mem_cons_self)
      · exact comma_not_mem_of_mem_splitOn (split ▸ List.mem_cons_of_mem _ later)

/-- Splitting on every comma gives two parts exactly when there is one comma. -/
theorem splitOn_comma_eq_pair {xs a b : List Char} :
    xs.splitOn ',' = [a, b] ↔ xs = a ++ ',' :: b ∧ ',' ∉ a ∧ ',' ∉ b := by
  constructor
  · intro split
    have whole : [','].intercalate (xs.splitOn ',') = xs := List.intercalate_splitOn ','
    rw [split] at whole
    refine ⟨by simpa using whole.symm, ?_, ?_⟩
    · exact comma_not_mem_of_mem_splitOn (split ▸ List.mem_cons_self)
    · exact comma_not_mem_of_mem_splitOn (split ▸ List.mem_cons_of_mem _ List.mem_cons_self)
  · rintro ⟨rfl, left, right⟩
    rw [List.splitOn_append_cons_self_of_not_mem left, List.splitOn_eq_singleton right]

/-! ## Which tokens read -/

/-- A token reads exactly when it is a numeral of 64 bits, one comma and the id. -/
theorem ofToken?_eq_some_iff {t : String} {c : Cursor} :
    ofToken? t = some c ↔ ∃ numeral rest, t.toList = numeral ++ ',' :: rest ∧ ',' ∉ rest ∧
      HexNumeral numeral c.timestamp ∧ least ≤ c.timestamp ∧ c.timestamp ≤ greatest ∧
      c.id = String.ofList rest := by
  unfold ofToken?
  split
  · rename_i a b split
    obtain ⟨whole, aNoComma, bNoComma⟩ := splitOn_comma_eq_pair.1 split
    constructor
    · intro read
      cases numeral : readHex? a with
      | none => simp [numeral] at read
      | some ts =>
        simp only [numeral, Option.bind_eq_bind, Option.bind_some, Option.ite_none_right_eq_some,
          Option.some.injEq] at read
        obtain ⟨⟨low, high⟩, rfl⟩ := read
        exact ⟨a, b, whole, bNoComma, readHex?_eq_some_iff.1 numeral, low, high, rfl⟩
    · rintro ⟨numeral, rest, shape, restNoComma, isNumeral, low, high, idIs⟩
      -- the comma is the first one in both readings, so the parts agree
      have same := splitOn_comma_eq_pair.2 ⟨shape, isNumeral.comma_not_mem, restNoComma⟩
      rw [split, List.cons.injEq, List.cons.injEq] at same
      obtain ⟨rfl, rfl, -⟩ := same
      simp only [readHex?_eq_some_iff.2 isNumeral, Option.bind_eq_bind, Option.bind_some]
      rw [if_pos ⟨low, high⟩, ← idIs]
  · rename_i notPair
    simp only [reduceCtorEq, false_iff]
    rintro ⟨numeral, rest, shape, restNoComma, isNumeral, -⟩
    exact notPair numeral rest
      (splitOn_comma_eq_pair.2 ⟨shape, isNumeral.comma_not_mem, restNoComma⟩)

theorem ofToken_eq_ok_iff {t : String} {c : Cursor} : ofToken t = .ok c ↔ ofToken? t = some c := by
  unfold ofToken
  split <;> simp_all

/-- A token is refused only as an invalid cursor, carrying the token. -/
theorem ofToken_refused {t : String} {e : Failure} (refused : ofToken t = .error e) :
    e = .invalidCursor (.str t) := by
  unfold ofToken at refused
  split at refused
  · cases refused
  · exact (Except.error.inj refused).symm

/-! ## The canonical numeral of a timestamp -/

/-- Printing in base 16 gives lowercase digits without a leading zero, of the number's value. -/
theorem toDigits_hex (n : Nat) : ∃ ds : List Nat, Nat.toDigits 16 n = ds.map Nat.digitChar ∧
    (∀ d ∈ ds, d < 16) ∧ ds ≠ [] ∧ (ds.head? = some 0 → ds = [0]) ∧ hexValue ds = n := by
  induction n using Nat.strong_induction_on with
  | _ n ih =>
  rw [Nat.toDigits_eq_if (by omega)]
  split
  · rename_i small
    refine ⟨[n], rfl, by simpa using small, by simp, fun first => ?_, by simp [hexValue]⟩
    simp only [List.head?_cons, Option.some.injEq] at first
    rw [first]
  · rename_i large
    obtain ⟨ds, digits, small, nonempty, noZero, value⟩ := ih (n / 16) (by omega)
    refine ⟨ds ++ [n % 16], by simp [digits], ?_, by simp, ?_, ?_⟩
    · intro d member
      rcases List.mem_append.mp member with inFront | last
      · exact small d inFront
      · rw [List.mem_singleton.mp last]
        exact Nat.mod_lt n (by omega)
    · -- the leading digit is that of n / 16, which is not zero
      intro first
      rw [List.head?_append_of_ne_nil _ nonempty] at first
      have : hexValue ds = 0 := by rw [noZero first]; rfl
      omega
    · rw [hexValue_snoc, value]
      omega

theorem hexText_canonical (v : Int) : CanonicalHex (hexText v).toList v := by
  cases v with
  | ofNat n =>
    obtain ⟨ds, digits, small, nonempty, noZero, value⟩ := toDigits_hex n
    exact ⟨ds, by simp [hexText, digits], small, nonempty, noZero, by simpa using value⟩
  | negSucc n =>
    obtain ⟨ds, digits, small, nonempty, noZero, value⟩ := toDigits_hex (n + 1)
    exact ⟨ds, by simp [hexText, digits, Int.negSucc_lt_zero], small, nonempty, noZero,
      by simpa using value⟩

/-- The canonical numeral is a numeral of the same number. -/
theorem CanonicalHex.numeral {cs : List Char} {v : Int} (canonical : CanonicalHex cs v) :
    HexNumeral cs v := by
  obtain ⟨ds, rfl, small, nonempty, -, value⟩ := canonical
  have digits : List.Forall₂ HexDigit (ds.map Nat.digitChar) ds := by
    rw [List.forall₂_map_left_iff, List.forall₂_same]
    exact fun d member => ⟨small d member, .inl rfl⟩
  by_cases negative : v < 0
  · rw [if_pos negative]
    have : v = -(hexValue ds : Int) := by omega
    rw [this]
    exact .minus digits nonempty
  · rw [if_neg negative]
    have : v = hexValue ds := by omega
    rw [this]
    exact .unsigned digits nonempty

/-! ## Writing and reading back -/

theorem token_toList (c : Cursor) :
    c.token.toList = (hexText c.timestamp).toList ++ ',' :: c.id.toList := by
  simp [token]

/-- A position of 64 bits reads back from its token just when its id has no comma. -/
theorem ofToken?_token (c : Cursor) (low : least ≤ c.timestamp) (high : c.timestamp ≤ greatest) :
    ofToken? c.token = some c ↔ ',' ∉ c.id.toList := by
  constructor
  · intro read
    obtain ⟨numeral, rest, _, restNoComma, -, -, -, idIs⟩ := ofToken?_eq_some_iff.1 read
    rwa [idIs, String.toList_ofList]
  · intro idNoComma
    exact ofToken?_eq_some_iff.2 ⟨_, _, token_toList c, idNoComma,
      (hexText_canonical c.timestamp).numeral, low, high, String.ofList_toList.symm⟩

/-- The token of a position reads, if at all, as that position, and only when the position is
of 64 bits and its id has no comma. -/
theorem ofToken?_token_eq_some {c c' : Cursor} (read : ofToken? c.token = some c') :
    c' = c ∧ least ≤ c.timestamp ∧ c.timestamp ≤ greatest ∧ ',' ∉ c.id.toList := by
  obtain ⟨numeral, rest, shape, restNoComma, isNumeral, low, high, idIs⟩ :=
    ofToken?_eq_some_iff.1 read
  have hex := (hexText_canonical c.timestamp).numeral
  -- the first comma ends both the numeral read and the canonical numeral written
  have split := splitOn_comma_eq_pair.2 ⟨rfl, isNumeral.comma_not_mem, restNoComma⟩
  rw [← shape, token_toList, List.splitOn_append_cons_self_of_not_mem hex.comma_not_mem,
    List.cons.injEq] at split
  obtain ⟨sameNumeral, idSplit⟩ := split
  have idIsRest : c.id.toList = rest := by
    have whole : [','].intercalate (c.id.toList.splitOn ',') = c.id.toList :=
      List.intercalate_splitOn ','
    rw [idSplit] at whole
    simpa using whole.symm
  have sameTime : c'.timestamp = c.timestamp := by
    have readBack := readHex?_eq_some_iff.2 isNumeral
    rw [← sameNumeral, readHex?_eq_some_iff.2 hex] at readBack
    exact (Option.some.inj readBack).symm
  refine ⟨?_, sameTime ▸ low, sameTime ▸ high, idIsRest ▸ restNoComma⟩
  cases c
  cases c'
  simp only at sameTime idIs idIsRest
  rw [sameTime, idIs, ← idIsRest, String.ofList_toList]

/-- Tokens read back exactly: a position of 64 bits reads back from its token just when its id
has no comma; a token reads unless it is refused as an invalid cursor carrying the token, and
it reads just when it is a numeral of 64 bits, one comma and a text; and a token that reads is
written again as the canonical numeral of its number, the comma and the same text. -/
theorem token_reads_back_exactly (c : Cursor) (t : String) :
    (least ≤ c.timestamp → c.timestamp ≤ greatest →
      (ofToken c.token = .ok c ↔ ',' ∉ c.id.toList)) ∧
    (∀ e, ofToken t = .error e → e = .invalidCursor (.str t)) ∧
    ((∃ c', ofToken t = .ok c') ↔ ∃ numeral rest v, t.toList = numeral ++ ',' :: rest ∧
      ',' ∉ rest ∧ HexNumeral numeral v ∧ least ≤ v ∧ v ≤ greatest) ∧
    (∀ c', ofToken t = .ok c' → ∃ numeral rest, t.toList = numeral ++ ',' :: rest ∧
      HexNumeral numeral c'.timestamp ∧ CanonicalHex (hexText c'.timestamp).toList c'.timestamp ∧
      c'.token.toList = (hexText c'.timestamp).toList ++ ',' :: rest) := by
  refine ⟨fun low high => ?_, fun e => ofToken_refused, ⟨?_, ?_⟩, ?_⟩
  · rw [ofToken_eq_ok_iff]
    exact ofToken?_token c low high
  · rintro ⟨c', read⟩
    obtain ⟨numeral, rest, shape, restNoComma, isNumeral, low, high, -⟩ :=
      ofToken?_eq_some_iff.1 (ofToken_eq_ok_iff.1 read)
    exact ⟨numeral, rest, _, shape, restNoComma, isNumeral, low, high⟩
  · rintro ⟨numeral, rest, v, shape, restNoComma, isNumeral, low, high⟩
    exact ⟨⟨v, String.ofList rest⟩, ofToken_eq_ok_iff.2
      (ofToken?_eq_some_iff.2 ⟨numeral, rest, shape, restNoComma, isNumeral, low, high, rfl⟩)⟩
  · intro c' read
    obtain ⟨numeral, rest, shape, -, isNumeral, -, -, idIs⟩ :=
      ofToken?_eq_some_iff.1 (ofToken_eq_ok_iff.1 read)
    refine ⟨numeral, rest, shape, isNumeral, hexText_canonical _, ?_⟩
    rw [token_toList, idIs, String.toList_ofList]

/-- A position whose id holds a comma is written as a token with two commas, which is
refused. -/
theorem token_with_comma_refused :
    ofToken (Cursor.token ⟨0, "a,b"⟩) = .error (.invalidCursor (.str "0,a,b")) := rfl

end Storefront.Cursor
