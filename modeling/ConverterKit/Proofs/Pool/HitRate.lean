import ConverterKit.Proofs.Binary64.Rounding
import ConverterKit.Proofs.Pool.Counters

/-!
# When the hit rate is a fraction

The number of gets is the sum of two counters, in one word. If the sum fits into a word, the gets
are no fewer than the hits, and the hit rate lies between zero and one, although the hits and the
gets are both rounded before they are divided. If the sum does not fit, there is neither a number
of gets nor a hit rate, but a panic.

The counters wrap around one by one, so they say nothing about their sum. A pool gets there only by
a number of gets that does not fit into a word.

## Main definitions

* `Stats.IsFraction`: what a hit rate is meant to be
* `Stats.Overrun`: what becomes of it otherwise

## Main results

* `Stats.isFraction_iff`: there is a hit rate as it is meant to be if the number of gets fits into a
  word, and only then; otherwise there is none at all
* `Chronicle.isFraction`: there is one in a pool that has not handed out too much
-/

namespace ConverterKit

namespace Pool

namespace Stats

/-- The gets have this number, and the hit rate is a fraction of them. -/
structure IsFraction (s : Stats) (total : UInt64) (rate : Binary64) : Prop where
  /-- There is a number of gets. -/
  gets : s.gets = .ok total
  /-- They are the hits and the misses. -/
  gets_eq : total.toNat = s.hits.toNat + s.misses.toNat
  /-- They are no fewer than the hits. -/
  hits_le : s.hits ≤ total
  /-- There are none only where there are neither hits nor misses. -/
  gets_eq_zero_iff : total = 0 ↔ s.hits = 0 ∧ s.misses = 0
  /-- There is a hit rate. -/
  hitRate : s.hitRate = .ok rate
  /-- What the hits are divided by is not zero and no smaller than they are. -/
  divisor : total ≠ 0 → 0 < (Binary64.ofNat total.toNat).toRat ∧
    (Binary64.ofNat s.hits.toNat).toRat ≤ (Binary64.ofNat total.toNat).toRat
  /-- The rate is zero only where there are no hits. -/
  hitRate_eq_zero_iff : rate.toRat = 0 ↔ s.hits = 0
  /-- The rate lies between zero and one. -/
  hitRate_mem : 0 ≤ rate.toRat ∧ rate.toRat ≤ 1

/-- The number of gets does not fit into a word, so there is none, and no hit rate. -/
structure Overrun (s : Stats) : Prop where
  /-- There is no number of gets. -/
  gets : s.gets = .panicked "attempt to add with overflow"
  /-- There is no hit rate. -/
  hitRate : s.hitRate = .panicked "attempt to add with overflow"

variable {s : Stats}

theorem gets_of_lt (h : s.hits.toNat + s.misses.toNat < 2 ^ 64) :
    s.gets = .ok (s.hits + s.misses) := if_pos h

theorem overrun_of_le (h : 2 ^ 64 ≤ s.hits.toNat + s.misses.toNat) : s.Overrun := by
  have hgets : s.gets = .panicked "attempt to add with overflow" := if_neg h.not_gt
  exact ⟨hgets, by rw [Stats.hitRate, hgets, Ending.map]⟩

section

variable {hits total : UInt64}

theorem share_of_ne_zero (h : total ≠ 0) :
    share hits total = (Binary64.ofNat hits.toNat).div (Binary64.ofNat total.toNat) := if_neg h

theorem toRat_ofNat_toNat_pos {a : UInt64} (h : a ≠ 0) : 0 < (Binary64.ofNat a.toNat).toRat :=
  Binary64.toRat_ofNat_pos (Nat.pos_of_ne_zero fun hzero => h (UInt64.toNat_inj.mp hzero))

/-- A share is zero only where no gets or no hits are seen. -/
theorem toRat_share_eq_zero_iff (hits total : UInt64) :
    (share hits total).toRat = 0 ↔ total = 0 ∨ hits = 0 := by
  by_cases htotal : total = 0
  · simp [share, htotal, Binary64.toRat_zero]
  rw [share_of_ne_zero htotal]
  by_cases hhits : hits = 0
  · have hzero : (Binary64.ofNat hits.toNat).significand = 0 := by
      rw [hhits]
      decide +kernel
    exact iff_of_true (Binary64.toRat_div_of_eq_zero hzero _) (.inr hhits)
  · have hpos := toRat_ofNat_toNat_pos hhits
    simp [(Binary64.toRat_div_pos hpos (toRat_ofNat_toNat_pos htotal)).ne', htotal, hhits]

/-- Where the gets are no fewer than the hits, the share is at most one. -/
theorem toRat_share_le_one (h : hits ≤ total) : (share hits total).toRat ≤ 1 := by
  by_cases htotal : total = 0
  · rw [share, if_pos htotal, Binary64.toRat_zero]
    exact zero_le_one
  · rw [share_of_ne_zero htotal]
    exact Binary64.toRat_div_le_one (toRat_ofNat_toNat_pos htotal)
      (Binary64.toRat_ofNat_mono (UInt64.le_iff_toNat_le.mp h))

end

theorem isFraction_of_lt (h : s.hits.toNat + s.misses.toNat < 2 ^ 64) :
    s.IsFraction (s.hits + s.misses) (share s.hits (s.hits + s.misses)) := by
  have hgets : (s.hits + s.misses).toNat = s.hits.toNat + s.misses.toNat := by
    rw [UInt64.toNat_add, Nat.mod_eq_of_lt h]
  have hle : s.hits ≤ s.hits + s.misses := by
    rw [UInt64.le_iff_toNat_le, hgets]
    exact Nat.le_add_right _ _
  have hzero : s.hits + s.misses = 0 ↔ s.hits = 0 ∧ s.misses = 0 := by
    simp only [← UInt64.toNat_inj, hgets, UInt64.toNat_zero, Nat.add_eq_zero_iff]
  exact {
    gets := gets_of_lt h
    gets_eq := hgets
    hits_le := hle
    gets_eq_zero_iff := hzero
    hitRate := by rw [Stats.hitRate, gets_of_lt h, Ending.map]
    divisor := fun hne => ⟨toRat_ofNat_toNat_pos hne,
      Binary64.toRat_ofNat_mono (UInt64.le_iff_toNat_le.mp hle)⟩
    hitRate_eq_zero_iff := by
      rw [toRat_share_eq_zero_iff, hzero]
      exact ⟨fun h => h.elim And.left id, .inr⟩
    hitRate_mem := ⟨Binary64.toRat_nonneg _, toRat_share_le_one hle⟩ }

/-- **There is a hit rate, and it is a fraction, just where the number of gets fits into a word.**
Where it does not, both the gets and the hit rate panic. -/
theorem isFraction_iff (s : Stats) :
    ((∃ total rate, s.IsFraction total rate) ↔ s.hits.toNat + s.misses.toNat < 2 ^ 64) ∧
      (s.Overrun ↔ 2 ^ 64 ≤ s.hits.toNat + s.misses.toNat) := by
  refine ⟨⟨?_, fun h => ⟨_, _, isFraction_of_lt h⟩⟩, fun h => ?_, overrun_of_le⟩
  · rintro ⟨total, rate, h⟩
    rw [← h.gets_eq]
    exact total.toNat_lt
  · by_contra hlt
    cases (gets_of_lt (Nat.lt_of_not_le hlt)).symm.trans h.gets

/-- A word is just enough for the gets, and the rate is a fraction; one get more, and there is
none. -/
theorem isFraction_iff_brim :
    (∃ total rate, ({ hits := 9223372036854775808, misses := 9223372036854775807 } :
        Stats).IsFraction total rate) ∧
      ({ hits := 9223372036854775808, misses := 9223372036854775808 } : Stats).Overrun :=
  ⟨(isFraction_iff _).1.mpr (by decide), (isFraction_iff _).2.mpr (by decide)⟩

/-- With a word full of hits, the first miss is one get too many, and so is every other. -/
theorem hitRate_of_full_word :
    ({ hits := 18446744073709551615, misses := 1 } : Stats).gets =
        .panicked "attempt to add with overflow" ∧
      ({ hits := 18446744073709551615, misses := 1 } : Stats).hitRate =
        .panicked "attempt to add with overflow" ∧
      ({ hits := 18446744073709551615, misses := 2 } : Stats).gets =
        .panicked "attempt to add with overflow" ∧
      ({ hits := 18446744073709551615, misses := 2 } : Stats).hitRate =
        .panicked "attempt to add with overflow" := by
  decide

end Stats

/-- A pool that has handed out no more instances than fit into a word has a hit rate, and it is a
fraction, whatever its factory did. -/
theorem Chronicle.isFraction {ε α : Type} {kind : Kind} {J : List (Deed ε α)} {p : Pool α}
    (h : Chronicle kind J p) (hgot : occurrences .got J < 2 ^ 64) :
    ∃ total rate, p.stats.IsFraction total rate := by
  have hlaw := (lawful_of_total h.total_eq_zero).got
  have hle {counter : UInt64} {n : Nat} (h : counter = .ofNat n) : counter.toNat ≤ n := by
    rw [h, UInt64.toNat_ofNat']
    exact Nat.mod_le _ _
  have hhits : p.stats.hits.toNat ≤ occurrences (.counted .hit) J :=
    hle ((congrArg Counters.hits h.counters_eq).trans (UInt64.zero_add _))
  have hmisses : p.stats.misses.toNat ≤ occurrences (.counted .miss) J :=
    hle ((congrArg Counters.misses h.counters_eq).trans (UInt64.zero_add _))
  exact ⟨_, _, Stats.isFraction_of_lt (by omega)⟩

end Pool

end ConverterKit
