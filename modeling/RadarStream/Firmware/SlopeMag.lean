import Mathlib.Algebra.Order.Round
import Mathlib.Tactic.Linarith
import RadarStream.Firmware.Sensor

/-!
# The slope of the ramp down

`Mmwave_populateDefaultProfileCfg` stores the magnitude of the ramp-down slope as
an integer of 16 bits. It adds 0.5 to round, but inside `fabs`: for a negative
slope this moves the value towards zero. The divisor is the idle time less 1 µs,
at most 6 µs; nothing keeps it from being zero or negative.
-/

namespace RadarStream

open Conversion

section Rounding

variable {v : ℚ}

theorem truncate_abs (v : ℚ) : truncate |v| = ⌊|v|⌋ := truncate_of_nonneg (abs_nonneg v)

theorem truncate_abs_add_half_of_nonneg (h : 0 ≤ v) : truncate |v + 1 / 2| = round |v| := by
  rw [truncate_abs, abs_of_nonneg h, abs_of_nonneg (by linarith), round_eq]

/-- With a negative value, the half is taken away from the magnitude. -/
theorem truncate_abs_add_half_of_le (h : v ≤ -(1 / 2)) :
    truncate |v + 1 / 2| = round |v| - 1 := by
  have habs : |v + 1 / 2| = |v| + 1 / 2 - 1 := by
    rw [abs_of_nonpos (by linarith), abs_of_nonpos (by linarith)]
    ring
  rw [truncate_abs, habs, Int.floor_sub_one, round_eq]

theorem truncate_abs_add_half_of_lt (h : |v| < 1 / 2) : truncate |v + 1 / 2| = round |v| := by
  obtain ⟨hlower, hupper⟩ := abs_lt.mp h
  have hround : round |v| = 0 := by
    rw [round_eq_zero_iff]
    exact ⟨by linarith [abs_nonneg v], h⟩
  rw [truncate_abs, hround, Int.floor_eq_zero_iff]
  exact ⟨abs_nonneg _, abs_lt.mpr ⟨by linarith, by linarith⟩⟩

theorem toNat_toU16 (v : ℚ) : ((toU16 v).toNat : ℤ) = truncate v % 2 ^ 16 := by
  rw [toU16, UInt16.ofInt, UInt16.toNat_ofNat']
  omega

end Rounding

namespace Defines

variable (d : Defines)

/-- The ramp end time in µs, as the profile keeps it. -/
def rampEnd : ℚ := (toU16 d.cliChirpRampEndTime).toNat / 10

def rampDownTime : ℚ := min ((toU16 d.cliChirpIdleTime).toNat / 10 - 1) 6

/-- The slope of the ramp down in the unit of `h_CrdNSlopeMag`, with its sign. -/
def rampDownSlope : ℚ := 65536 / 30000 * d.chirpSlope * d.rampEnd / d.rampDownTime

/-- The same chirp with the slope turned over. -/
def turned : Defines := { d with chirpSlope := -d.chirpSlope }

theorem rampDownSlope_turned : d.turned.rampDownSlope = -d.rampDownSlope := by
  have hkeep : d.turned.rampEnd = d.rampEnd ∧ d.turned.rampDownTime = d.rampDownTime := ⟨rfl, rfl⟩
  rw [rampDownSlope, rampDownSlope, hkeep.1, hkeep.2, turned]
  ring

end Defines

section Stored

variable {d : Defines} {b : Board}

/-- The divisor is positive, and the field holds the nearest integer to the
magnitude of the slope, which had 16 bits before the cast. -/
structure SlopeMagNearest (d : Defines) (crdNSlopeMag : UInt16) : Prop where
  divisor_pos : 0 < d.rampDownTime
  fits : 0 ≤ truncate |d.rampDownSlope + 1 / 2| ∧ truncate |d.rampDownSlope + 1 / 2| ≤ 65535
  nearest : (crdNSlopeMag.toNat : ℤ) = round |d.rampDownSlope|

/-- `Mmwave_populateDefaultProfileCfg` stores the nearest magnitude. -/
def StoresNearest (d : Defines) (b : Board) : Prop :=
  ∃ res t, (mmwavePopulateDefaultProfileCfg d).run b = .ok res t ∧
    SlopeMagNearest d t.ctx.profileComCfg.crdNSlopeMag

/-- It stores the same magnitude when the slope is turned over. -/
def StoresSame (d : Defines) (b : Board) : Prop :=
  ∃ res t res' t', (mmwavePopulateDefaultProfileCfg d).run b = .ok res t ∧
    (mmwavePopulateDefaultProfileCfg d.turned).run b = .ok res' t' ∧
    t.ctx.profileComCfg.crdNSlopeMag = t'.ctx.profileComCfg.crdNSlopeMag

theorem mmwavePopulateDefaultProfileCfg_run (d : Defines) (b : Board) :
    ∃ res t, (mmwavePopulateDefaultProfileCfg d).run b = .ok res t ∧
      t.ctx.profileComCfg.crdNSlopeMag = toU16 |d.rampDownSlope + 1 / 2| := by
  refine ⟨_, _, rfl, ?_⟩
  have hvalue : d.rampDownSlope = 65536 / (3 * 100 * 100) *
      ((toU16 d.cliChirpRampEndTime).toNat / 10 * d.chirpSlope) /
        min (((toU16 d.cliChirpIdleTime).toNat : ℚ) / 10 - 1) 6 := by
    rw [Defines.rampDownSlope, Defines.rampEnd, Defines.rampDownTime]
    ring
  rw [hvalue]
  rfl

theorem storesNearest_iff_nearest :
    StoresNearest d b ↔ SlopeMagNearest d (toU16 |d.rampDownSlope + 1 / 2|) := by
  obtain ⟨res, t, hrun, hmag⟩ := mmwavePopulateDefaultProfileCfg_run d b
  rw [← hmag]
  constructor
  · rintro ⟨res', t', hrun', hnearest⟩
    rw [hrun] at hrun'
    cases hrun'
    exact hnearest
  · exact fun hnearest => ⟨res, t, hrun, hnearest⟩

/-- Within 16 bits the field is the truncated value. -/
theorem slopeMagNearest_iff : SlopeMagNearest d (toU16 |d.rampDownSlope + 1 / 2|) ↔
    0 < d.rampDownTime ∧ truncate |d.rampDownSlope + 1 / 2| ≤ 65535 ∧
      truncate |d.rampDownSlope + 1 / 2| = round |d.rampDownSlope| := by
  have hnat := toNat_toU16 |d.rampDownSlope + 1 / 2|
  have hnonneg : 0 ≤ truncate |d.rampDownSlope + 1 / 2| := by
    rw [truncate_abs]
    exact Int.floor_nonneg.mpr (abs_nonneg _)
  constructor
  · rintro ⟨hpos, ⟨_, hle⟩, hnearest⟩
    refine ⟨hpos, hle, ?_⟩
    omega
  · rintro ⟨hpos, hle, hnearest⟩
    refine ⟨hpos, ⟨hnonneg, hle⟩, ?_⟩
    omega

/-- Rounding to the nearest integer goes wrong for a negative slope only. -/
theorem truncate_eq_round_iff (v : ℚ) :
    truncate |v + 1 / 2| = round |v| ↔ 0 ≤ v ∨ |v| < 1 / 2 := by
  constructor
  · intro heq
    by_contra hcond
    rw [not_or, not_le, not_lt] at hcond
    obtain ⟨hneg, hhalf⟩ := hcond
    rw [abs_of_neg hneg] at hhalf
    have hdown := truncate_abs_add_half_of_le (v := v) (by linarith)
    omega
  · rintro (hnonneg | hlt)
    · exact truncate_abs_add_half_of_nonneg hnonneg
    · exact truncate_abs_add_half_of_lt hlt

theorem truncate_le_iff (v : ℚ) : truncate |v + 1 / 2| ≤ 65535 ↔ |v + 1 / 2| < 65536 := by
  rw [truncate_abs, ← Int.lt_add_one_iff, Int.floor_lt]
  norm_num

theorem storesNearest_iff_slope : StoresNearest d b ↔
    0 < d.rampDownTime ∧
      (0 ≤ d.rampDownSlope ∧ d.rampDownSlope + 1 / 2 < 65536 ∨ |d.rampDownSlope| < 1 / 2) := by
  rw [storesNearest_iff_nearest, slopeMagNearest_iff, truncate_eq_round_iff, truncate_le_iff]
  refine and_congr_right fun _ => ?_
  constructor
  · rintro ⟨hfits, hnonneg | hlt⟩
    · exact Or.inl ⟨hnonneg, (abs_lt.mp hfits).2⟩
    · exact Or.inr hlt
  · rintro (⟨hnonneg, hfits⟩ | hlt)
    · exact ⟨abs_lt.mpr ⟨by linarith, hfits⟩, Or.inl hnonneg⟩
    · obtain ⟨hlower, hupper⟩ := abs_lt.mp hlt
      exact ⟨abs_lt.mpr ⟨by linarith, by linarith⟩, Or.inr hlt⟩

theorem storesSame_iff_truncate : StoresSame d b ↔
    toU16 |d.rampDownSlope + 1 / 2| = toU16 |-d.rampDownSlope + 1 / 2| := by
  obtain ⟨res, t, hrun, hmag⟩ := mmwavePopulateDefaultProfileCfg_run d b
  obtain ⟨res', t', hrun', hmag'⟩ := mmwavePopulateDefaultProfileCfg_run d.turned b
  rw [d.rampDownSlope_turned] at hmag'
  rw [← hmag, ← hmag']
  constructor
  · rintro ⟨_, u, _, u', hu, hu', hsame⟩
    rw [hrun] at hu
    rw [hrun'] at hu'
    cases hu
    cases hu'
    exact hsame
  · exact fun hsame => ⟨res, t, res', t', hrun, hrun', hsame⟩

/-- From a half on, one of the two signs stores one less. -/
theorem toU16_ne_of_half_le {v : ℚ} (h : 1 / 2 ≤ v) :
    toU16 |v + 1 / 2| ≠ toU16 |-v + 1 / 2| := by
  intro heq
  have hup := truncate_abs_add_half_of_nonneg (v := v) (by linarith)
  have hdown := truncate_abs_add_half_of_le (v := -v) (by linarith)
  have hnat := congrArg (fun m : UInt16 => (m.toNat : ℤ)) heq
  rw [abs_neg] at hdown
  simp only [toNat_toU16, hup, hdown] at hnat
  omega

theorem toU16_eq_iff (v : ℚ) :
    toU16 |v + 1 / 2| = toU16 |-v + 1 / 2| ↔ |v| < 1 / 2 := by
  constructor
  · intro heq
    by_contra hhalf
    rcases le_abs.mp (not_lt.mp hhalf) with hpos | hneg
    · exact toU16_ne_of_half_le hpos heq
    · refine toU16_ne_of_half_le hneg ?_
      rw [neg_neg]
      exact heq.symm
  · intro hlt
    have hround := truncate_abs_add_half_of_lt hlt
    have hround' := truncate_abs_add_half_of_lt (v := -v) (by rwa [abs_neg])
    rw [abs_neg, ← hround] at hround'
    rw [toU16, toU16, hround']

end Stored

/-- The nearest magnitude is stored for positive slopes of 16 bits, and the two
signs of a slope agree only when it rounds to zero. -/
theorem storesNearest_iff (d : Defines) (b : Board) :
    (StoresNearest d b ↔ 0 < d.rampDownTime ∧
      (0 ≤ d.rampDownSlope ∧ d.rampDownSlope + 1 / 2 < 65536 ∨ |d.rampDownSlope| < 1 / 2)) ∧
    (0 < d.rampDownTime → (StoresSame d b ↔ |d.rampDownSlope| < 1 / 2)) := by
  refine ⟨storesNearest_iff_slope, fun _ => ?_⟩
  rw [storesSame_iff_truncate, toU16_eq_iff]

/-- The slope of the repository's profile gives 1180, turned over it gives another value. -/
theorem storesNearest_iff_defaultDefines :
    StoresNearest defaultDefines ⟨default, ⟨fun _ => false, fun _ => 0⟩, []⟩ ∧
      ¬ StoresSame defaultDefines ⟨default, ⟨fun _ => false, fun _ => 0⟩, []⟩ := by
  obtain ⟨hnearest, hsame⟩ :=
    storesNearest_iff defaultDefines ⟨default, ⟨fun _ => false, fun _ => 0⟩, []⟩
  rw [hnearest, hsame (by decide +kernel)]
  decide +kernel

/-- The slope of the repository's profile turned over gives 1179, not 1180. -/
theorem not_storesNearest_turned :
    ¬ StoresNearest defaultDefines.turned ⟨default, ⟨fun _ => false, fun _ => 0⟩, []⟩ := by
  rw [storesNearest_iff_slope]
  decide +kernel

end RadarStream
