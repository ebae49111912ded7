import Mathlib.Algebra.Group.Nat.Defs
import Mathlib.Algebra.Ring.Int.Defs

/-!
# Signed words read as unsigned ones

A cast from a signed 64-bit word to an unsigned one keeps the numbers from
zero on and moves the negative ones above all of them.  So the order survives
the cast within one sign only, and a monotone function of the unsigned word
respects the signed order of two arguments of different sign only where it
maps them to one value.
-/

namespace Capstomp.General

variable {a b : Int64}

/-- What the cast makes of a word of either sign. -/
theorem toUInt64_cases (a : Int64) :
    (0 ≤ a ∧ (a.toUInt64.toNat : Int) = a.toInt ∧
        a.toUInt64.toNat < 2 ^ 63) ∨
      (a < 0 ∧ (a.toUInt64.toNat : Int) = a.toInt + 2 ^ 64 ∧
        2 ^ 63 ≤ a.toUInt64.toNat) := by
  have cast := BitVec.toInt_eq_toNat_cond a.toBitVec
  have below := a.toBitVec.isLt
  rw [Int64.toInt_toBitVec, Int64.toNat_toBitVec] at cast
  rw [Int64.toNat_toBitVec] at below
  have zero : (0 : Int64).toInt = 0 := rfl
  rw [Int64.le_iff_toInt_le, Int64.lt_iff_toInt_lt, zero]
  split at cast
  · exact .inl (by omega)
  · exact .inr (by omega)

theorem toUInt64_of_nonneg (nonneg : 0 ≤ a) :
    (a.toUInt64.toNat : Int) = a.toInt ∧ a.toUInt64.toNat < 2 ^ 63 := by
  rcases toUInt64_cases a with ⟨_, same⟩ | ⟨negative, _⟩
  · exact same
  · exact absurd negative (Int64.not_lt.mpr nonneg)

theorem toUInt64_of_neg (negative : a < 0) :
    (a.toUInt64.toNat : Int) = a.toInt + 2 ^ 64 ∧
      2 ^ 63 ≤ a.toUInt64.toNat := by
  rcases toUInt64_cases a with ⟨nonneg, _⟩ | ⟨_, moved⟩
  · exact absurd nonneg (Int64.not_le.mpr negative)
  · exact moved

theorem toUInt64_le_of_sameSign (le : a ≤ b) (sameSign : 0 ≤ a ∨ b < 0) :
    a.toUInt64 ≤ b.toUInt64 := by
  have signed : a.toInt ≤ b.toInt := Int64.le_iff_toInt_le.mp le
  rw [UInt64.le_iff_toNat_le]
  rcases sameSign with nonneg | negative
  · have first := toUInt64_of_nonneg nonneg
    have second := toUInt64_of_nonneg (Int64.le_trans nonneg le)
    omega
  · have first := toUInt64_of_neg (Int64.lt_of_le_of_lt le negative)
    have second := toUInt64_of_neg negative
    omega

theorem toUInt64_lt_of_signs (negative : a < 0) (nonneg : 0 ≤ b) :
    b.toUInt64 < a.toUInt64 := by
  rw [UInt64.lt_iff_toNat_lt]
  have small := (toUInt64_of_nonneg nonneg).2
  have large := (toUInt64_of_neg negative).2
  omega

/-- Exactly when a monotone function of the cast word respects the signed
order. -/
theorem monotone_cast_iff {f : UInt64 → UInt64}
    (monotone : ∀ x y, x ≤ y → f x ≤ f y) (le : a ≤ b) :
    f a.toUInt64 ≤ f b.toUInt64 ↔
      0 ≤ a ∨ b < 0 ∨ f a.toUInt64 = f b.toUInt64 := by
  constructor
  · intro respected
    by_cases nonneg : 0 ≤ a
    · exact .inl nonneg
    · by_cases negative : b < 0
      · exact .inr (.inl negative)
      · have wraps := toUInt64_lt_of_signs (Int64.not_le.mp nonneg)
          (Int64.not_lt.mp negative)
        have reversed := monotone _ _ (UInt64.le_of_lt wraps)
        exact .inr (.inr (UInt64.le_antisymm respected reversed))
  · rintro (nonneg | negative | same)
    · exact monotone _ _ (toUInt64_le_of_sameSign le (.inl nonneg))
    · exact monotone _ _ (toUInt64_le_of_sameSign le (.inr negative))
    · exact same ▸ UInt64.le_refl _

end Capstomp.General
