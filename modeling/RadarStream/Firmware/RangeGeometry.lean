import Mathlib.Data.Nat.Log
import RadarStream.Firmware.RadarCube
import RadarStream.Script.Summary

/-!
# The geometry of the range FFT

The size of the range FFT and the number of its bins are in the configuration of
the DPU, the bins again in the size of the radar cube and in the summary that the
script prints. The FFT size is the sample count itself, the macro `CLI_NUM_RBINS`
rounds the sample count up to a power of two, and the script does not round. Where
`RangeProc_config` leaves without a window it has set the bins and no FFT size.
-/

namespace RadarStream

/-- `mathUtils_pow2roundup`, wherever the result is a word. -/
def RoundsUp (p : Platform) : Prop :=
  ∀ n : UInt32, 2 ≤ n.toNat → n.toNat ≤ 2 ^ 31 →
    IsLeast {m | m.isPowerOfTwo ∧ n.toNat ≤ m} (p.pow2roundup n).toNat

/-- The script and the firmware are given the same number of samples. -/
def SameSamples {α F : Type} (num : Numbers α F) (data : ConfigData α) (d : Defines) : Prop :=
  ∃ v, getParam data "chirpComnCfg".toList "numOfAdcSamples".toList = .ok v ∧
    num.int v = .ok (d.numAdcSamples.toNat : ℤ)

/-- The DPU, the radar cube and the summary are for the same FFT. -/
structure GeometryAgrees {α F : Type} (num : Numbers α F) (data : ConfigData α) (d : Defines)
    (cfg : RangeProcCfg) : Prop where
  rangeFftSize : IsLeast {m | m.isPowerOfTwo ∧ d.numAdcSamples.toNat ≤ m}
    cfg.staticCfg.rangeFftSize.toNat
  numRangeBins : cfg.staticCfg.numRangeBins.toNat = cfg.staticCfg.rangeFftSize.toNat / 2
  radarCubeDataSize : cfg.radarCubeDataSize = cfg.staticCfg.numRangeBins *
    cfg.staticCfg.numVirtualAntennas * 4 * cfg.staticCfg.numDopplerChirpsPerFrame
  nBins : ∀ s, printBasicConfigInfo num data = .ok s →
    s.nBins = (cfg.staticCfg.numRangeBins.toNat : ℤ)

/-- A power of two that the fields of the DPU hold. -/
structure GeometryExact (p : Platform) (d : Defines) : Prop where
  isPowerOfTwo : d.numAdcSamples.toNat.isPowerOfTwo
  fft_fits : d.numAdcSamples.toNat < 2 ^ p.rangeFftSize.val
  bins_fit : d.numAdcSamples.toNat / 2 < 2 ^ p.numRangeBins.val

section Geometry

variable {α F : Type} {num : Numbers α F} {data : ConfigData α} {p : Platform} {d : Defines}
  {b t : Board} {q : UInt32}

theorem pow2roundup_of_isPowerOfTwo (hround : RoundsUp p) {n : UInt32} (htwo : 2 ≤ n.toNat)
    (hn : n.toNat.isPowerOfTwo) : p.pow2roundup n = n := by
  have hle : n.toNat ≤ 2 ^ 31 := by
    obtain ⟨k, hk⟩ := hn
    have hlt : 2 ^ k < 2 ^ 32 := hk ▸ n.toNat_lt
    have hexp : k < 32 := (Nat.pow_lt_pow_iff_right (by decide)).mp hlt
    rw [hk]
    exact Nat.pow_le_pow_right (by decide) (by omega)
  obtain ⟨⟨-, hbound⟩, hleast⟩ := hround n htwo hle
  exact UInt32.toNat_inj.mp (le_antisymm (hleast ⟨hn, le_rfl⟩) hbound)

theorem cliNumRbins_of_isPowerOfTwo (hround : RoundsUp p) (htwo : 2 ≤ d.numAdcSamples.toNat)
    (hn : d.numAdcSamples.toNat.isPowerOfTwo) :
    (cliNumRbins p d).toNat = d.numAdcSamples.toNat / 2 := by
  rw [cliNumRbins, pow2roundup_of_isPowerOfTwo hround htwo hn, UInt32.toNat_div]
  rfl

theorem nBins_of_sameSamples (hsame : SameSamples num data d) {s : Summary F}
    (hs : printBasicConfigInfo num data = .ok s) :
    s.nBins = ((d.numAdcSamples.toNat / 2 : ℕ) : ℤ) := by
  obtain ⟨v, n, hv, hn, hbins⟩ := nBins_of_printed hs
  obtain ⟨w, hw, hint⟩ := hsame
  obtain rfl : v = w := Except.ok.inj (hv.symm.trans hw)
  rw [hbins, Except.ok.inj (hn.symm.trans hint)]
  rfl

theorem geometryAgrees_iff_of_configured (ht : Configured p d q b t) (hround : RoundsUp p)
    (htwo : 2 ≤ d.numAdcSamples.toNat) (hsame : SameSamples num data d) :
    GeometryAgrees num data d t.ctx.rangeProcDpuCfg ↔ GeometryExact p d := by
  have hfft : t.ctx.rangeProcDpuCfg.staticCfg.rangeFftSize =
      p.rangeFftSize.store d.numAdcSamples := ht.rangeFftSize
  have hbins : t.ctx.rangeProcDpuCfg.staticCfg.numRangeBins =
      p.numRangeBins.store (cliNumRbins p d) := ht.numRangeBins
  have hstore := p.rangeFftSize.toNat_store d.numAdcSamples
  constructor
  · rintro ⟨⟨⟨hpow, hle⟩, -⟩, hhalf, -, -⟩
    rw [hfft] at hpow hle hhalf
    -- a field keeps no more than it is given, so the FFT size is the sample count
    have hkept : (p.rangeFftSize.store d.numAdcSamples).toNat = d.numAdcSamples.toNat := by
      refine le_antisymm ?_ hle
      rw [hstore]
      exact Nat.mod_le _ _
    rw [hkept] at hpow hhalf
    refine ⟨hpow, (p.rangeFftSize.store_eq_self_iff _).mp (UInt32.toNat_inj.mp hkept), ?_⟩
    rw [← hhalf, hbins, FieldWidth.toNat_store]
    exact Nat.mod_lt _ (Nat.two_pow_pos _)
  · rintro ⟨hpow, hfits, hbinsFit⟩
    have hround' := cliNumRbins_of_isPowerOfTwo hround htwo hpow
    have hsize := hfft.trans ((p.rangeFftSize.store_eq_self_iff _).mpr hfits)
    have hkept := hbins.trans ((p.numRangeBins.store_eq_self_iff _).mpr (hround' ▸ hbinsFit))
    refine ⟨?_, ?_, ?_, fun s hs => ?_⟩
    · rw [hsize]
      exact ⟨⟨hpow, le_rfl⟩, fun m hm => hm.2⟩
    · rw [hsize, hkept, hround']
    · have hantennas := ht.numVirtualAntennas
      have hchirps := ht.numDopplerChirpsPerFrame
      rw [SysContext.params] at hantennas hchirps
      rw [ht.radarCubeDataSize, hkept, hantennas, hchirps, radarCubeBytes]
    · rw [hkept, hround', nBins_of_sameSamples hsame hs]

theorem not_geometryAgrees_of_leftEarly (ht : LeftEarly b t) (htwo : 2 ≤ d.numAdcSamples.toNat) :
    ¬ GeometryAgrees num data d t.ctx.rangeProcDpuCfg := by
  rintro ⟨⟨⟨-, hle⟩, -⟩, -, -, -⟩
  rw [show t.ctx.rangeProcDpuCfg.staticCfg.rangeFftSize = 0 from ht.rangeFftSize,
    UInt32.toNat_zero] at hle
  omega

end Geometry

/-- Whatever configuration is built, its geometry agrees exactly when the sample count
is a power of two and fits the fields of the DPU, and the window was handed out. -/
theorem geometryAgrees_iff {α F : Type} {num : Numbers α F} {data : ConfigData α} {p : Platform}
    {d : Defines} {r : SdkReturns} {regs : AdcBufRegs} {b : Board} {cfg : RangeProcCfg}
    (hstart : DpcStart p d r regs b) (hbuilt : Builds p d r b cfg) (hround : RoundsUp p)
    (htwo : 2 ≤ d.numAdcSamples.toNat) (hsame : SameSamples num data d) :
    GeometryAgrees num data d cfg ↔ GeometryExact p d ∧ (WindowFits p d ∨ WindowWraps p d) := by
  rw [← dpuWindow_ne_null_iff]
  rcases hbuilt.leftEarly_or_configured hstart.post with
    ⟨hnull, t, ht, rfl⟩ | ⟨hwindow, q, t, ht, rfl⟩
  · exact ⟨fun hagree => absurd hagree (not_geometryAgrees_of_leftEarly ht htwo),
      fun hexact => absurd hnull hexact.2⟩
  · rw [geometryAgrees_iff_of_configured ht hround htwo hsame]
    exact ⟨fun hexact => ⟨hexact, hwindow⟩, And.left⟩

theorem roundsUp_samplePlatform : RoundsUp samplePlatform := by
  intro n _ hn
  have hclog : Nat.clog 2 n.toNat ≤ 31 := Nat.clog_le_of_le_pow hn
  have hcount : (List.range 32).countP (fun k => 2 ^ k < n.toNat) = Nat.clog 2 n.toNat := by
    simp only [← Nat.lt_clog_iff_pow_lt (one_lt_two)]
    revert hclog
    generalize Nat.clog 2 n.toNat = c
    revert c
    decide
  have hvalue : (samplePlatform.pow2roundup n).toNat = 2 ^ Nat.clog 2 n.toNat := by
    change (UInt32.ofNat (2 ^ (List.range 32).countP fun k => 2 ^ k < n.toNat)).toNat = _
    rw [hcount]
    exact UInt32.toNat_ofNat_of_lt' ((Nat.pow_le_pow_right (by decide) hclog).trans_lt (by decide))
  rw [hvalue]
  refine ⟨⟨⟨_, rfl⟩, Nat.le_pow_clog one_lt_two _⟩, ?_⟩
  rintro _ ⟨⟨k, rfl⟩, hle⟩
  exact Nat.pow_le_pow_right (by decide) (Nat.clog_le_of_le_pow hle)

theorem geometryAgrees_iff_defaultDefines :
    ∃ b cfg, DpcStart samplePlatform defaultDefines allSucceed ⟨fun _ => true, fun _ => 7⟩ b ∧
      Builds samplePlatform defaultDefines allSucceed b cfg ∧
      GeometryAgrees decimalNumbers (uniformData "128".toList) defaultDefines cfg := by
  obtain ⟨b, t, hb, hrun, _⟩ := exists_configured_sample (d := defaultDefines) (q := 64)
    (by decide) (by decide) (by decide)
  have hbuilt : Builds samplePlatform defaultDefines allSucceed b t.ctx.rangeProcDpuCfg :=
    Or.inl ⟨t, hrun, rfl⟩
  have hsame : SameSamples decimalNumbers (uniformData "128".toList) defaultDefines :=
    ⟨_, rfl, rfl⟩
  exact ⟨b, _, hb, hbuilt, (geometryAgrees_iff hb hbuilt roundsUp_samplePlatform (by decide)
    hsame).mpr ⟨⟨⟨7, rfl⟩, by decide, by decide⟩, by decide⟩⟩

def hundredSamples : Defines := { defaultDefines with numAdcSamples := 100 }

/-- With 100 samples the FFT has 100 points, the DPU 64 bins and the summary 50. -/
theorem not_geometryAgrees_hundredSamples :
    ∃ b cfg, DpcStart samplePlatform hundredSamples allSucceed ⟨fun _ => true, fun _ => 7⟩ b ∧
      Builds samplePlatform hundredSamples allSucceed b cfg ∧
      RoundsUp samplePlatform ∧
      SameSamples decimalNumbers (uniformData "100".toList) hundredSamples ∧
      ¬ GeometryAgrees decimalNumbers (uniformData "100".toList) hundredSamples cfg := by
  obtain ⟨b, t, hb, hrun, ht⟩ := exists_configured_sample (d := hundredSamples) (q := 64)
    (by decide) (by decide) (by decide)
  have hsame : SameSamples decimalNumbers (uniformData "100".toList) hundredSamples :=
    ⟨_, rfl, rfl⟩
  refine ⟨b, _, hb, Or.inl ⟨t, hrun, rfl⟩, roundsUp_samplePlatform, hsame, ?_⟩
  rw [geometryAgrees_iff_of_configured ht roundsUp_samplePlatform (by decide) hsame]
  rintro ⟨⟨k, hk⟩, -, -⟩
  have hlow : 2 ^ 6 < 2 ^ k := hk ▸ (by decide)
  have hhigh : 2 ^ k < 2 ^ 7 := hk ▸ (by decide)
  have hlow' := (Nat.pow_lt_pow_iff_right (by decide)).mp hlow
  have hhigh' := (Nat.pow_lt_pow_iff_right (by decide)).mp hhigh
  omega

end RadarStream
