import RadarStream.Firmware.AdcLayout

/-!
# The size of the radar cube

The cube is to hold every range bin of every RX channel of every chirp of the
frame. Its size is a product of words, and its factors come from fields and from
a division by the number of TX antennas; `CubeExact` says when none of this loses
anything.
-/

namespace RadarStream

/-- A quotient that goes through two fields loses nothing exactly when both hold
what they are given and the division has no remainder. -/
theorem mod_div_mod_mul_eq_iff {n c t q : ℕ} (hc : 0 < c) (hq : 0 < q) :
    n % c / t % q * t = n ↔ n < c ∧ t ∣ n ∧ n / t < q := by
  constructor
  · intro h
    have hquotient : n % c / t % q * t ≤ n % c / t * t :=
      Nat.mul_le_mul_right t (Nat.mod_le _ _)
    have hdiv : n % c / t * t ≤ n % c := Nat.div_mul_le_self _ _
    have hmod : n % c ≤ n := Nat.mod_le _ _
    have hfirst : n % c = n := by omega
    have hlt : n < c := by
      rw [← hfirst]
      exact Nat.mod_lt _ hc
    rw [hfirst] at h
    refine ⟨hlt, Dvd.intro_left _ h, ?_⟩
    by_cases ht : t = 0
    · simpa [ht] using hq
    · rw [← h, Nat.mul_div_cancel _ (by omega)]
      exact Nat.mod_lt _ hq
  · rintro ⟨hlt, hdvd, hquotient⟩
    rw [Nat.mod_eq_of_lt hlt, Nat.mod_eq_of_lt hquotient, Nat.div_mul_cancel hdvd]

def frameChirps (d : Defines) : ℕ := d.numBurstsPerFrame.toNat * d.numChirpsPerBurst.toNat

/-- The bytes of one frame: four for each bin of each channel of each chirp. -/
def frameBytes (p : Platform) (d : Defines) : ℕ :=
  (cliNumRbins p d).toNat * (enabledChannels d).length * frameChirps d * 4

/-- A configuration of the DPU has room for the whole frame. -/
structure CubeHoldsFrame (p : Platform) (d : Defines) (cfg : RangeProcCfg) : Prop where
  no_division_by_zero : (txCount d).toNat ≠ 0
  every_bin : cfg.staticCfg.numRangeBins = cliNumRbins p d
  every_chirp : cfg.staticCfg.numDopplerChirpsPerFrame.toNat * (txCount d).toNat = frameChirps d
  dataSize : cfg.radarCubeDataSize.toNat =
    cfg.staticCfg.numRangeBins.toNat * (enabledChannels d).length * frameChirps d * 4

/-- No field, no division and no product loses anything. -/
structure CubeExact (p : Platform) (d : Defines) : Prop where
  tx_enabled : (txCount d).toNat ≠ 0
  bins_fit : (cliNumRbins p d).toNat < 2 ^ p.numRangeBins.val
  chirps_fit : frameChirps d < 2 ^ p.numChirpsPerFrame.val
  tx_divides : (txCount d).toNat ∣ frameChirps d
  quotient_fits : frameChirps d / (txCount d).toNat < 2 ^ p.numDopplerChirpsPerFrame.val
  bytes_fit : frameBytes p d < 2 ^ 32

section Cube

variable {p : Platform} {d : Defines} {r : SdkReturns} {regs : AdcBufRegs} {b t : Board}
  {q : UInt32}

theorem toNat_rxCount : (rxCount d).toNat = (enabledChannels d).length := by
  rw [rxCount, toNat_countEnabled _ (by decide), List.countP_eq_length_filter]
  rfl

theorem toNat_chirpsPerFrame :
    (chirpsPerFrame p d).toNat = frameChirps d % 2 ^ p.numChirpsPerFrame.val := by
  have hdvd : 2 ^ p.numChirpsPerFrame.val ∣ 2 ^ 32 :=
    Nat.pow_dvd_pow 2 p.numChirpsPerFrame.property.2
  rw [chirpsPerFrame, FieldWidth.toNat_store, UInt32.toNat_mul, Nat.mod_mod_of_dvd _ hdvd]
  rfl

theorem toNat_numVirtualAntennas :
    (p.numVirtualAntennas.store ((txCount d).toUInt32 * (rxCount d).toUInt32)).toNat =
      (txCount d).toNat * (rxCount d).toNat := by
  have htx : (txCount d).toNat ≤ 2 := toNat_countEnabled_le _ (by decide)
  have hrx : (rxCount d).toNat ≤ 3 := toNat_countEnabled_le _ (by decide)
  have hprod : (txCount d).toNat * (rxCount d).toNat ≤ 2 * 3 := Nat.mul_le_mul htx hrx
  have hnat : ((txCount d).toUInt32 * (rxCount d).toUInt32).toNat =
      (txCount d).toNat * (rxCount d).toNat := by
    rw [UInt32.toNat_mul, UInt16.toNat_toUInt32, UInt16.toNat_toUInt32]
    exact Nat.mod_eq_of_lt (by omega)
  rw [p.numVirtualAntennas.store_of_lt (by omega), hnat]

theorem toNat_radarCubeBytes : (radarCubeBytes p d q).toNat =
    (cliNumRbins p d).toNat * ((txCount d).toNat * (rxCount d).toNat) * 4 *
      (p.numDopplerChirpsPerFrame.store q).toNat % 2 ^ 32 := by
  rw [radarCubeBytes, UInt32.toNat_mul, UInt32.toNat_mul, UInt32.toNat_mul,
    toNat_numVirtualAntennas]
  simp only [Nat.mod_mul_mod, UInt32.reduceToNat]

theorem every_chirp_iff (htx : (txCount d).toNat ≠ 0) (hq : chirpsPerTx p d = some q) :
    (p.numDopplerChirpsPerFrame.store q).toNat * (txCount d).toNat = frameChirps d ↔
      frameChirps d < 2 ^ p.numChirpsPerFrame.val ∧ (txCount d).toNat ∣ frameChirps d ∧
        frameChirps d / (txCount d).toNat < 2 ^ p.numDopplerChirpsPerFrame.val := by
  have hne : (txCount d).toUInt32 ≠ 0 := by
    intro hzero
    have hnat := congrArg UInt32.toNat hzero
    rw [UInt16.toNat_toUInt32] at hnat
    exact htx hnat
  have hquotient : q.toNat = frameChirps d % 2 ^ p.numChirpsPerFrame.val / (txCount d).toNat := by
    rw [chirpsPerTx, Platform.quotient, if_neg hne, Option.some.injEq] at hq
    rw [← hq, UInt32.toNat_div, toNat_chirpsPerFrame, UInt16.toNat_toUInt32]
  rw [FieldWidth.toNat_store, hquotient]
  exact mod_div_mod_mul_eq_iff (Nat.two_pow_pos _) (Nat.two_pow_pos _)

theorem toNat_radarCubeBytes_of_every_chirp
    (h : (p.numDopplerChirpsPerFrame.store q).toNat * (txCount d).toNat = frameChirps d) :
    (radarCubeBytes p d q).toNat = frameBytes p d % 2 ^ 32 := by
  rw [toNat_radarCubeBytes, frameBytes, ← h, ← toNat_rxCount]
  congr 1
  ring

theorem cubeHoldsFrame_iff_of_configured (ht : Configured p d q b t)
    (hq : chirpsPerTx p d = some q) :
    CubeHoldsFrame p d t.ctx.rangeProcDpuCfg ↔ CubeExact p d := by
  have hbins : t.ctx.rangeProcDpuCfg.staticCfg.numRangeBins =
      p.numRangeBins.store (cliNumRbins p d) := ht.numRangeBins
  have hdoppler : t.ctx.rangeProcDpuCfg.staticCfg.numDopplerChirpsPerFrame =
      p.numDopplerChirpsPerFrame.store q := ht.numDopplerChirpsPerFrame
  constructor
  · rintro ⟨htx, hbin, hchirp, hsize⟩
    rw [hdoppler] at hchirp
    obtain ⟨hfit, hdvd, hquotient⟩ := (every_chirp_iff htx hq).mp hchirp
    rw [hbin, ht.radarCubeDataSize, toNat_radarCubeBytes_of_every_chirp hchirp] at hsize
    refine ⟨htx, (p.numRangeBins.store_eq_self_iff _).mp (hbins.symm.trans hbin), hfit, hdvd,
      hquotient, ?_⟩
    have hbytes : frameBytes p d % 2 ^ 32 = frameBytes p d := hsize
    rw [← hbytes]
    exact Nat.mod_lt _ (by decide)
  · rintro ⟨htx, hbin, hfit, hdvd, hquotient, hbytes⟩
    have hchirp := (every_chirp_iff htx hq).mpr ⟨hfit, hdvd, hquotient⟩
    have hkept := hbins.trans ((p.numRangeBins.store_eq_self_iff _).mpr hbin)
    refine ⟨htx, hkept, by rw [hdoppler, hchirp], ?_⟩
    rw [hkept, ht.radarCubeDataSize, toNat_radarCubeBytes_of_every_chirp hchirp,
      Nat.mod_eq_of_lt hbytes]
    rfl

end Cube

/-- Whenever the DPU is configured, the cube holds the whole frame exactly when
nothing is lost on the way to its size. -/
theorem cubeHoldsFrame_iff {p : Platform} {d : Defines} {r : SdkReturns} {regs : AdcBufRegs}
    {b : Board} {handle : UInt32} {cfg : RangeProcCfg} (hstart : DpcStart p d r regs b)
    (hcall : .rangeProcConfig handle cfg ∈ newCalls b ((dpcConfigure p d r).run b)) :
    CubeHoldsFrame p d cfg ↔ CubeExact p d := by
  obtain ⟨q, t, hq, -, ht, rfl⟩ := configured_of_mem_newCalls hstart.post hcall
  exact cubeHoldsFrame_iff_of_configured ht hq

theorem cubeHoldsFrame_iff_defaultDefines :
    ∃ b handle cfg,
      DpcStart samplePlatform defaultDefines allSucceed ⟨fun _ => true, fun _ => 7⟩ b ∧
      .rangeProcConfig handle cfg ∈
        newCalls b ((dpcConfigure samplePlatform defaultDefines allSucceed).run b) ∧
      CubeHoldsFrame samplePlatform defaultDefines cfg := by
  obtain ⟨b, t, hb, hrun, ht⟩ := exists_configured_sample (d := defaultDefines) (q := 64)
    (by decide) (by decide) (by decide)
  have hcall := mem_newCalls_of_configured hrun ht
  exact ⟨b, _, _, hb, hcall, (cubeHoldsFrame_iff hb hcall).mpr (by constructor <;> decide)⟩

def threeChirps : Defines :=
  { defaultDefines with
    numChirpsPerBurst := 3
    numBurstsPerFrame := 1 }

/-- The third chirp has no room in the cube. -/
theorem not_cubeHoldsFrame_threeChirps :
    ∃ b handle cfg, DpcStart samplePlatform threeChirps allSucceed ⟨fun _ => true, fun _ => 7⟩ b ∧
      .rangeProcConfig handle cfg ∈
        newCalls b ((dpcConfigure samplePlatform threeChirps allSucceed).run b) ∧
      cfg.radarCubeData ≠ null ∧ ¬ CubeHoldsFrame samplePlatform threeChirps cfg := by
  obtain ⟨b, t, hb, hrun, ht⟩ := exists_configured_sample (d := threeChirps) (q := 1)
    (by decide) (by decide) (by decide)
  refine ⟨b, _, _, hb, mem_newCalls_of_configured hrun ht, ?_, ?_⟩
  · rw [ht.radarCubeData]
    decide
  · rw [cubeHoldsFrame_iff_of_configured ht (by decide)]
    exact fun h => absurd h.tx_divides (by decide)

end RadarStream
