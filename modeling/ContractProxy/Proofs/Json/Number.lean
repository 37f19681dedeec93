import ContractProxy.Json.Printer
import Mathlib.Data.List.TakeWhile

/-!
Natural numbers in decimal digits: their spelling begins with a zero only if it is zero, and it is
read back as the number.
-/

set_option autoImplicit false

namespace ContractProxy

namespace Text

theorem isDigit_of_mem_decimal {n : Nat} {c : Char} (h : c ∈ decimal n) : c.isDigit = true :=
  Nat.isDigit_of_mem_toDigits (by decide) (by decide) h

theorem decimal_of_lt {n : Nat} (h : n < 10) : decimal n = [n.digitChar] :=
  Nat.toDigits_of_lt_base h

theorem decimal_of_le {n : Nat} (h : 10 ≤ n) :
    decimal n = decimal (n / 10) ++ [(n % 10).digitChar] :=
  Nat.toDigits_of_base_le (by decide) h

theorem digitChar_ne_zero : ∀ digit < 10, 0 < digit → Nat.digitChar digit ≠ '0' := by
  decide

theorem decimal_eq_cons {n : Nat} (h : 0 < n) :
    ∃ first others, decimal n = first :: others ∧ first ≠ '0' := by
  induction n using Nat.strongRecOn with
  | ind n ih =>
    by_cases hsmall : n < 10
    · exact ⟨_, [], decimal_of_lt hsmall, digitChar_ne_zero n hsmall h⟩
    · obtain ⟨first, others, heq, hne⟩ := ih (n / 10) (by omega) (by omega)
      refine ⟨first, others ++ [(n % 10).digitChar], ?_, hne⟩
      rw [decimal_of_le (by omega), heq, List.cons_append]

end Text

namespace Json

open Number (digit wholeDigits wordLimit)

theorem digit_digitChar : ∀ value < 10, digit (Nat.digitChar value) = value := by
  decide

theorem wholeDigits_decimal {n : Nat} (h : n < wordLimit) :
    wholeDigits (Text.decimal n) = (n, 0) := by
  induction n using Nat.strongRecOn with
  | ind n ih =>
    by_cases hsmall : n < 10
    · rw [Text.decimal_of_lt hsmall, wholeDigits]
      simp [digit_digitChar n hsmall, h]
    · have hlast := digit_digitChar (n % 10) (Nat.mod_lt n (by decide))
      have hn : n / 10 * 10 + n % 10 = n := by omega
      have hfront := ih (n / 10) (by omega) (by omega)
      rw [wholeDigits] at hfront
      rw [Text.decimal_of_le (by omega), wholeDigits, List.foldl_append, hfront]
      simp [hlast, hn, h]

theorem ofSpelling?_decimal {n : Nat} (h : n < wordLimit) :
    Number.ofSpelling? (Text.decimal n) = some (.natural n) := by
  have hdigits : ∀ c ∈ Text.decimal n, c.isDigit = true := fun c => Text.isDigit_of_mem_decimal
  have htake : (Text.decimal n).takeWhile Char.isDigit = Text.decimal n :=
    List.takeWhile_eq_self_iff.mpr hdigits
  have hdrop : (Text.decimal n).dropWhile Char.isDigit = [] := List.dropWhile_eq_nil_iff.mpr hdigits
  have hminus : ∀ body, Text.decimal n ≠ '-' :: body := by
    intro body heq
    have hdigit := hdigits '-' (by simp [heq])
    cases hdigit
  unfold Number.ofSpelling?
  split
  rename_i minus body hspelling
  split at hspelling
  · rename_i heq
    exact absurd heq (hminus _)
  · cases hspelling
    rw [htake, hdrop, wholeDigits_decimal h]
    rfl

end Json

end ContractProxy
