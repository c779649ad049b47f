import Mathlib.Data.Rat.Floor
import Mathlib.Tactic.Linarith

/-!
# Numbers kept by integer types

A conversion to an integer type cuts off the fraction and keeps what is left modulo a
power of two. `Near n q` says that the integer `n` stands for the number `q` up to its
fraction, and `near_iff` that this survives the conversion exactly when the number lies
in the range of the type.
-/

namespace Conversion

/-- The number without its fraction. -/
def truncate (q : ℚ) : ℤ := q.num.tdiv q.den

def Near (n : ℤ) (q : ℚ) : Prop := |(n : ℚ) - q| < 1

variable {q : ℚ}

theorem truncate_of_nonneg (h : 0 ≤ q) : truncate q = ⌊q⌋ := by
  rw [truncate, Int.tdiv_eq_ediv_of_nonneg (Rat.num_nonneg.mpr h), Rat.floor_def']

theorem truncate_neg (q : ℚ) : truncate (-q) = -truncate q := by
  rw [truncate, truncate, Rat.num_neg_eq_neg_num, Rat.den_neg_eq_den, Int.neg_tdiv]

theorem truncate_of_nonpos (h : q ≤ 0) : truncate q = ⌈q⌉ := by
  rw [← neg_neg q, truncate_neg, truncate_of_nonneg (by linarith), Int.floor_neg, neg_neg, neg_neg]

theorem near_truncate (q : ℚ) : Near (truncate q) q := by
  rw [Near, abs_lt]
  rcases le_total 0 q with h | h
  · rw [truncate_of_nonneg h]
    have hle := Int.floor_le q
    have hlt := Int.lt_floor_add_one q
    constructor <;> linarith
  · rw [truncate_of_nonpos h]
    have hle := Int.le_ceil q
    have hlt := Int.ceil_lt_add_one q
    constructor <;> linarith

/-- The fraction that is cut off does not take a number out of a range around zero. -/
theorem truncate_mem {lo hi : ℤ} (hlo : lo ≤ 0) (hhi : 0 < hi) (hlower : (lo : ℚ) - 1 < q)
    (hupper : q < hi) : lo ≤ truncate q ∧ truncate q < hi := by
  rcases le_total 0 q with h | h
  · rw [truncate_of_nonneg h]
    exact ⟨hlo.trans (Int.floor_nonneg.mpr h), Int.floor_lt.mpr hupper⟩
  · rw [truncate_of_nonpos h]
    have hceil : ⌈q⌉ ≤ 0 := Int.ceil_le.mpr (by simpa using h)
    refine ⟨?_, by omega⟩
    have hlt : ((lo - 1 : ℤ) : ℚ) < q := by
      push_cast
      exact hlower
    have := Int.lt_ceil.mpr hlt
    omega

/-- A type with the range from `lo` to `lo + size` keeps the integer of the range that
is congruent to what is left of the number. -/
theorem near_iff (lo size : ℤ) {n : ℤ} (hlo : lo ≤ 0) (hhi : 0 < lo + size) (hle : lo ≤ n)
    (hlt : n < lo + size) (hmod : n % size = truncate q % size) :
    Near n q ↔ (lo : ℚ) - 1 < q ∧ q < ((lo + size : ℤ) : ℚ) := by
  constructor
  · intro hnear
    obtain ⟨hlower, hupper⟩ := abs_lt.mp hnear
    have hle' : (lo : ℚ) ≤ n := by exact_mod_cast hle
    have hlt' : (n : ℚ) + 1 ≤ ((lo + size : ℤ) : ℚ) := by exact_mod_cast hlt
    constructor <;> linarith
  · rintro ⟨hlower, hupper⟩
    obtain ⟨hcut, hcut'⟩ := truncate_mem hlo hhi hlower hupper
    have hsub : size ∣ n - truncate q :=
      Int.dvd_of_emod_eq_zero (Int.emod_eq_emod_iff_emod_sub_eq_zero.mp hmod)
    have heq : n - truncate q = 0 :=
      Int.eq_zero_of_abs_lt_dvd hsub (abs_lt.mpr ⟨by omega, by omega⟩)
    rw [show n = truncate q by omega]
    exact near_truncate q

end Conversion
