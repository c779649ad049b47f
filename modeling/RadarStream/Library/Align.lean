import Mathlib.Data.Nat.Bitwise
import Mathlib.Order.Bounds.Defs
import Mathlib.Algebra.Order.Ring.Nat

/-!
# Rounding up to a multiple

`alignUp a n` is the least multiple of `n` at or above `a`, computed by a
division. On machine words the same rounding is usually written with a mask, as
`(a + n - 1) &&& ~~~(n - 1)` for a power of two `n`; `toNat_alignMask` reads
that mask as the division, up to the wrap of the rounded value.
-/

namespace Align

/-- The least multiple of `n` at or above `a`. -/
def alignUp (a n : ℕ) : ℕ := (a + n - 1) / n * n

theorem dvd_alignUp (a n : ℕ) : n ∣ alignUp a n := Nat.dvd_mul_left n _

theorem le_alignUp (a : ℕ) {n : ℕ} (hn : 0 < n) : a ≤ alignUp a n := by
  have hmod : (a + n - 1) % n < n := Nat.mod_lt _ hn
  have hdiv : n * ((a + n - 1) / n) + (a + n - 1) % n = a + n - 1 :=
    Nat.div_add_mod _ _
  rw [alignUp, Nat.mul_comm]
  omega

theorem alignUp_lt_add (a : ℕ) {n : ℕ} (hn : 0 < n) : alignUp a n < a + n := by
  have hdiv : (a + n - 1) / n * n ≤ a + n - 1 := Nat.div_mul_le_self _ _
  rw [alignUp]
  omega

theorem alignUp_le_of_dvd {a m n : ℕ} (hn : 0 < n) (ham : a ≤ m) (hm : n ∣ m) :
    alignUp a n ≤ m := by
  obtain ⟨q, rfl⟩ := hm
  have hq : (a + n - 1) / n ≤ q := by
    rw [← Nat.lt_succ_iff, Nat.div_lt_iff_lt_mul hn, Nat.succ_mul, Nat.mul_comm q n]
    omega
  calc alignUp a n = (a + n - 1) / n * n := rfl
    _ ≤ q * n := Nat.mul_le_mul_right n hq
    _ = n * q := Nat.mul_comm q n

/-- `alignUp a n` is the least multiple of `n` at or above `a`. -/
theorem isLeast_alignUp (a : ℕ) {n : ℕ} (hn : 0 < n) :
    IsLeast {m | a ≤ m ∧ n ∣ m} (alignUp a n) :=
  ⟨⟨le_alignUp a hn, dvd_alignUp a n⟩, fun _ hm => alignUp_le_of_dvd hn hm.1 hm.2⟩

section Mask

variable {w : ℕ}

theorem toNat_clearLow (x : BitVec w) {k : ℕ} (hk : k < w) :
    (x &&& ~~~(BitVec.twoPow w k - 1)).toNat = x.toNat / 2 ^ k * 2 ^ k := by
  have hmask : (BitVec.twoPow w k - 1).toNat = 2 ^ k - 1 := by
    have hlt : 2 ^ k < 2 ^ w := Nat.pow_lt_pow_right (by omega) hk
    have hpos : 0 < 2 ^ k := Nat.two_pow_pos k
    have hone : (1 : BitVec w).toNat = 1 := BitVec.toNat_one (by omega)
    rw [BitVec.toNat_sub, BitVec.toNat_twoPow, Nat.mod_eq_of_lt hlt, hone,
      show 2 ^ w - 1 + 2 ^ k = 2 ^ w + (2 ^ k - 1) by omega, Nat.add_mod_left,
      Nat.mod_eq_of_lt (by omega)]
  have hshift : x.toNat / 2 ^ k * 2 ^ k = (x.toNat >>> k) <<< k := by
    rw [Nat.shiftLeft_eq, Nat.shiftRight_eq_div_pow]
  rw [hshift]
  apply Nat.eq_of_testBit_eq
  intro i
  rw [Nat.testBit_shiftLeft, BitVec.testBit_toNat, BitVec.getLsbD_and, BitVec.getLsbD_not,
    ← BitVec.testBit_toNat, ← BitVec.testBit_toNat, hmask, Nat.testBit_two_pow_sub_one]
  by_cases hik : i < k
  · have hiw : i < w := by omega
    simp [hik, hiw]
  · have hki : k ≤ i := by omega
    rw [Nat.testBit_shiftRight, Nat.add_sub_cancel' hki]
    by_cases hiw : i < w
    · simp [hik, hiw, hki]
    · have hzero : x.toNat.testBit i = false :=
        Nat.testBit_lt_two_pow (lt_of_lt_of_le x.isLt (Nat.pow_le_pow_right (by omega) (by omega)))
      simp [hzero]

/-- Rounding by a mask wraps as the rounded value would. -/
theorem toNat_alignMask (x : BitVec w) {k : ℕ} (hk : k < w) :
    ((x + BitVec.twoPow w k - 1) &&& ~~~(BitVec.twoPow w k - 1)).toNat =
      alignUp x.toNat (2 ^ k) % 2 ^ w := by
  have hlt : 2 ^ k < 2 ^ w := Nat.pow_lt_pow_right (by omega) hk
  have hpos : 0 < 2 ^ k := Nat.two_pow_pos k
  have hone : (1 : BitVec w).toNat = 1 := BitVec.toNat_one (by omega)
  have hsum : (x + BitVec.twoPow w k - 1).toNat = (x.toNat + 2 ^ k - 1) % 2 ^ w := by
    rw [BitVec.toNat_sub, BitVec.toNat_add, BitVec.toNat_twoPow, Nat.mod_eq_of_lt hlt,
      hone, Nat.add_mod_mod,
      show 2 ^ w - 1 + (x.toNat + 2 ^ k) = 2 ^ w + (x.toNat + 2 ^ k - 1) by omega,
      Nat.add_mod_left]
  have hword : 2 ^ w = 2 ^ (w - k) * 2 ^ k := by
    rw [← Nat.pow_add, Nat.sub_add_cancel hk.le]
  rw [toNat_clearLow _ hk, hsum, alignUp, hword, Nat.mod_mul_left_div_self,
    Nat.mul_mod_mul_right]

theorem alignUp_le_two_pow {a k : ℕ} (hk : k ≤ w) (ha : a ≤ 2 ^ w) : alignUp a (2 ^ k) ≤ 2 ^ w :=
  alignUp_le_of_dvd (Nat.two_pow_pos k) ha (Nat.pow_dvd_pow 2 hk)

end Mask

end Align
