import Mathlib.Data.Nat.Digits.Defs
import Mathlib.Data.List.Forall2
import Mathlib.Data.List.Induction
import Mathlib.Tactic.IntervalCases
import Mathlib.Tactic.Ring

/-!
# Numerals

What `Nat.toDigits` writes: the digits of the number in its base, most significant first,
without a leading zero unless the number is zero. Read back one digit after another they give
the number again; in base ten that is the fold every decimal reader of the library performs.
-/

namespace Storefront.Numeral

/-- Printing in a base gives digits of that base without a leading zero, of the number's value. -/
theorem toDigits_spec (b n : Nat) (base : 1 < b) : ∃ ds : List Nat,
    Nat.toDigits b n = ds.map Nat.digitChar ∧ (∀ d ∈ ds, d < b) ∧ ds ≠ [] ∧
      (ds.head? = some 0 → ds = [0]) ∧ Nat.ofDigits b ds.reverse = n := by
  induction n using Nat.strong_induction_on with
  | _ n ih =>
  rw [Nat.toDigits_eq_if base]
  split
  · rename_i small
    refine ⟨[n], rfl, by simpa using small, by simp, fun first => ?_, by simp⟩
    simp only [List.head?_cons, Option.some.injEq] at first
    rw [first]
  · rename_i large
    obtain ⟨ds, digits, small, nonempty, noZero, value⟩ :=
      ih (n / b) (Nat.div_lt_self (by omega) base)
    refine ⟨ds ++ [n % b], by simp [digits], ?_, by simp, ?_, ?_⟩
    · intro d member
      rcases List.mem_append.mp member with inFront | last
      · exact small d inFront
      · rw [List.mem_singleton.mp last]
        exact Nat.mod_lt n (by omega)
    · -- the leading digit is that of n / b, which is not zero
      intro first
      rw [List.head?_append_of_ne_nil _ nonempty] at first
      have zero : n / b = 0 := by rw [← value, noZero first]; simp
      exact absurd ((Nat.div_eq_zero_iff_lt (by omega)).mp zero) large
    · simp only [List.reverse_append, List.reverse_singleton, List.singleton_append,
        Nat.ofDigits_cons, value]
      exact Nat.mod_add_div n b

theorem digitChar_toNat {d : Nat} (small : d < 10) : (Nat.digitChar d).toNat = d + 48 := by
  interval_cases d <;> rfl

/-- Reading decimal digits one after another, most significant first. -/
theorem foldl_decimal (ds : List Nat) (small : ∀ d ∈ ds, d < 10) :
    (ds.map Nat.digitChar).foldl (fun n c => n * 10 + (c.toNat - '0'.toNat)) 0 =
      Nat.ofDigits 10 ds.reverse := by
  induction ds using List.reverseRecOn with
  | nil => rfl
  | append_singleton ds d ih =>
    have last : d < 10 := small d (by simp)
    rw [List.map_append, List.foldl_append, ih (fun e member => small e (by simp [member]))]
    simp [Nat.ofDigits_cons, digitChar_toNat last]
    ring

/-- The decimal digits of a number read back as the number. -/
theorem decimal_digits (n : Nat) : ∃ ds : List Nat,
    Nat.toDigits 10 n = ds.map Nat.digitChar ∧ (∀ d ∈ ds, d < 10) ∧ ds ≠ [] ∧
      (ds.head? = some 0 → ds = [0]) ∧
      (Nat.toDigits 10 n).foldl (fun n c => n * 10 + (c.toNat - '0'.toNat)) 0 = n := by
  obtain ⟨ds, digits, small, nonempty, noZero, value⟩ := toDigits_spec 10 n (by decide)
  exact ⟨ds, digits, small, nonempty, noZero, by rw [digits, foldl_decimal ds small, value]⟩

end Storefront.Numeral
