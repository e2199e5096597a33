/-!
# Decimal numbers

The decimal digits of a number, as they are written and read: there is at least one, they are
digits, and the first one is not a zero unless the number is.

## Main results

* `isDigit_of_mem`: what is written are digits
* `exists_digits`: the first digit and the others
* `eq_zero_of_head`: a zero in front is the number zero
-/

namespace ConverterKit

namespace Decimal

theorem isDigit_of_mem {n : Nat} {c : Char} (h : c ∈ Nat.toDigits 10 n) : c.isDigit = true :=
  Nat.isDigit_of_mem_toDigits (by decide) (by decide) h

/-- A number has a first digit. -/
theorem exists_digits (n : Nat) :
    ∃ d ds, Nat.toDigits 10 n = d :: ds ∧ d.isDigit = true ∧ ∀ c ∈ ds, c.isDigit = true := by
  obtain ⟨d, ds, hds⟩ := List.exists_cons_of_ne_nil (Nat.toDigits_ne_nil (n := n) (b := 10))
  refine ⟨d, ds, hds, isDigit_of_mem (n := n) (hds ▸ List.mem_cons_self), fun c hc => ?_⟩
  exact isDigit_of_mem (n := n) (hds ▸ List.mem_cons_of_mem _ hc)

/-- Only the number zero has a zero in front. -/
theorem eq_zero_of_head {n : Nat} (h : (Nat.toDigits 10 n).head? = some '0') : n = 0 := by
  induction n using Nat.strongRecOn with
  | _ n ih =>
    by_cases hn : n < 10
    · rw [Nat.toDigits_of_lt_base hn] at h
      have hall : ∀ m < 10, m.digitChar = '0' → m = 0 := by decide
      exact hall n hn (Option.some.inj h)
    · have hbase : 10 ≤ n := Nat.le_of_not_lt hn
      rw [Nat.toDigits_of_base_le (by decide) hbase, List.head?_append] at h
      obtain ⟨d, ds, hds, -, -⟩ := exists_digits (n / 10)
      have hhead : (Nat.toDigits 10 (n / 10)).head? = some '0' := by
        rw [hds] at h ⊢
        exact h
      have hzero := ih (n / 10) (by omega) hhead
      omega

end Decimal

end ConverterKit
