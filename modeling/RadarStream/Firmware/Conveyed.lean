import RadarStream.Firmware.RadarCube
import RadarStream.Firmware.StartUp

/-!
# What the SDK is told

The header gives numbers, and the fields of the SDK's structures keep what they have
room for. `SdkCall.Conveys` says that the arguments of a call still are the numbers of
the header, exact for integers and up to the fraction for the others: a conversion to an
integer cuts it off, so what is kept is less than one step away. `Defines.FitsIn` says
that these numbers have room.

The numbers are the exact ones of `Defines`. A compiler computes in `float` and `double`
and may cut a quotient just below an integer to the integer before it.
-/

namespace RadarStream

open Conversion Checklist

section Fields

theorem toNat_toUInt16_eq_iff (v : UInt32) : v.toUInt16.toNat = v.toNat ↔ v.toNat < 2 ^ 16 := by
  rw [UInt32.toNat_toUInt16]
  omega

theorem toNat_toUInt8_eq_iff (v : UInt32) : v.toUInt8.toNat = v.toNat ↔ v.toNat < 2 ^ 8 := by
  rw [UInt32.toNat_toUInt8]
  omega

variable (q : ℚ)

theorem near_toU16_iff : Near (toU16 q).toNat q ↔ -1 < q ∧ q < 2 ^ 16 := by
  have hlt := (toU16 q).toNat_lt
  have hmod : ((toU16 q).toNat : ℤ) % 2 ^ 16 = truncate q % 2 ^ 16 := by
    rw [toU16, UInt16.ofInt, UInt16.toNat_ofNat']
    omega
  rw [near_iff 0 (2 ^ 16) le_rfl (by decide) (by omega) (by omega) hmod]
  norm_num

theorem near_toU32_iff : Near (toU32 q).toNat q ↔ -1 < q ∧ q < 2 ^ 32 := by
  have hlt := (toU32 q).toNat_lt
  have hmod : ((toU32 q).toNat : ℤ) % 2 ^ 32 = truncate q % 2 ^ 32 := by
    rw [toU32, UInt32.ofInt, UInt32.toNat_ofNat']
    omega
  rw [near_iff 0 (2 ^ 32) le_rfl (by decide) (by omega) (by omega) hmod]
  norm_num

theorem near_toI16_iff : Near (toI16 q).toInt q ↔ -2 ^ 15 - 1 < q ∧ q < 2 ^ 15 := by
  have hlt := (toI16 q).toInt_lt
  have hle := (toI16 q).le_toInt
  have hmod : (toI16 q).toInt % 2 ^ 16 = truncate q % 2 ^ 16 := by
    rw [toI16, Int16.toInt_ofInt]
    exact Int.bmod_emod
  rw [near_iff (-2 ^ 15) (2 ^ 16) (by decide) (by decide) (by omega) (by omega) hmod]
  norm_num

end Fields

section Conveys

variable (d : Defines)

@[mk_iff] structure ChannelCfg.Conveys (cfg : ChannelCfg) : Prop where
  txChCtrlBitMask : cfg.txChCtrlBitMask.toNat = d.txBitmask.toNat
  rxChCtrlBitMask : cfg.rxChCtrlBitMask.toNat = d.rxBitmask.toNat
  miscCtrl : cfg.miscCtrl.toNat = d.miscCtrl.toNat

@[mk_iff] structure ProfileComCfg.Conveys (cfg : ProfileComCfg) : Prop where
  digOutputSampRate : cfg.digOutputSampRate.toNat = d.digOutSamplingRate.toNat
  digOutputBitsSel : cfg.digOutputBitsSel.toNat = d.digOutBitsSel.toNat
  dfeFirSel : cfg.dfeFirSel.toNat = d.dfeFirSel.toNat
  numOfAdcSamples : cfg.numOfAdcSamples.toNat = d.numAdcSamples.toNat
  chirpTxMimoPatSel : cfg.chirpTxMimoPatSel.toNat = d.mimoSel.toNat
  chirpRampEndTime : Near cfg.chirpRampEndTime.toNat d.cliChirpRampEndTime
  chirpRxHpfSel : cfg.chirpRxHpfSel.toNat = d.chirpRxHpfSel.toNat

/-- The start of the ADC is given in samples, in the bits from the tenth on. -/
@[mk_iff] structure ProfileTimeCfg.Conveys (cfg : ProfileTimeCfg) : Prop where
  chirpIdleTime : Near cfg.chirpIdleTime.toNat d.cliChirpIdleTime
  chirpAdcStartTime : cfg.chirpAdcStartTime.toNat = d.chirpAdcSkipSamples.toNat * 2 ^ 10
  chirpTxStartTime : Near cfg.chirpTxStartTime.toInt d.cliChirpTxStartTime
  chirpRfFreqSlope : Near cfg.chirpRfFreqSlope.toInt d.cliChirpFreqSlope
  chirpRfFreqStart : Near cfg.chirpRfFreqStart.toNat d.cliChirpStartFreq
  chirpTxEnSel : cfg.chirpTxEnSel.toNat = d.txBitmask.toNat

@[mk_iff] structure FrameCfg.Conveys (cfg : FrameCfg) : Prop where
  numOfChirpsInBurst : cfg.numOfChirpsInBurst.toNat = d.numChirpsPerBurst.toNat
  numOfChirpsAccum : cfg.numOfChirpsAccum.toNat = d.numChirpsAccum.toNat
  burstPeriodicity : Near cfg.burstPeriodicity.toNat d.cliWBurstPeriod
  numOfBurstsInFrame : cfg.numOfBurstsInFrame.toNat = d.numBurstsPerFrame.toNat
  framePeriodicity : Near cfg.framePeriodicity.toNat d.cliFramePeriod
  numOfFrames : cfg.numOfFrames.toNat = d.numFrames.toNat

/-- Back-offs are given in steps of half a dB. -/
@[mk_iff] structure CalibCfg.Conveys (cfg : CalibCfg) : Prop where
  calRxGainSel : cfg.calRxGainSel.toNat = d.rxGain.toNat
  calTxBackOffSel0 : cfg.calTxBackOffSel0.toNat = d.txBackoff.toNat * 2
  calTxBackOffSel1 : cfg.calTxBackOffSel1.toNat = d.txBackoff.toNat * 2

@[mk_iff] structure StrtCfg.Conveys (cfg : StrtCfg) : Prop where
  frameTrigMode : cfg.frameTrigMode.toNat = d.frmTrig.toNat
  chirpStartSigLbEn : cfg.chirpStartSigLbEn.toNat = d.lbEn.toNat
  frameLivMonEn : cfg.frameLivMonEn.toNat = d.monEn.toNat
  frameTrigTimerVal : cfg.frameTrigTimerVal = d.trigTimer

/-- The samples of a chirp, and a radar cube for the whole frame. -/
@[mk_iff] structure RangeProcCfg.Conveys (p : Platform) (cfg : RangeProcCfg) : Prop where
  numAdcSamples : cfg.staticCfg.numAdcSamples = d.numAdcSamples
  rangeFftSize : cfg.staticCfg.rangeFftSize = d.numAdcSamples
  radarCube : CubeHoldsFrame p d cfg

def SdkCall.Conveys (p : Platform) : SdkCall → Prop
  | .rfPwrOnOff channelCfg => channelCfg.Conveys d
  | .mmWaveOpen _ openCfg => openCfg.rdifSampleCount.toNat = d.numAdcSamples.toNat
  | .addProfile _ profileCfg timeCfg => profileCfg.Conveys d ∧ timeCfg.Conveys d
  | .mmWaveConfig _ ctrlCfg => ctrlCfg.frameCfg.Conveys d
  | .flashRead _ offset => offset = d.flashOffset
  | .factoryCalibConfig _ calibCfg => calibCfg.Conveys d
  | .rangeProcConfig _ cfg => cfg.Conveys d p
  | .mmWaveStart _ _ startCfg => startCfg.Conveys d
  | .mmWaveInit | .hwaOpen | .rangeProcInit _ | .synthTrimValid | .addChirp _ _ _
  | .createDpcTask | .createSpiTask => True

end Conveys

section Fits

/-- A number whose integer part has room in an unsigned field of `n` bits. -/
def FitsUnsigned (n : ℕ) (q : ℚ) : Prop := -1 < q ∧ q < 2 ^ n

def FitsSigned (n : ℕ) (q : ℚ) : Prop := -2 ^ n - 1 < q ∧ q < 2 ^ n

instance (n : ℕ) (q : ℚ) : Decidable (FitsUnsigned n q) := inferInstanceAs (Decidable (_ ∧ _))

instance (n : ℕ) (q : ℚ) : Decidable (FitsSigned n q) := inferInstanceAs (Decidable (_ ∧ _))

variable (d : Defines)

@[mk_iff] structure Defines.ChannelFits : Prop where
  txBitmask : d.txBitmask.toNat < 2 ^ 16
  rxBitmask : d.rxBitmask.toNat < 2 ^ 16
  miscCtrl : d.miscCtrl.toNat < 2 ^ 8

@[mk_iff] structure Defines.ProfileFits : Prop where
  digOutSamplingRate : d.digOutSamplingRate.toNat < 2 ^ 8
  digOutBitsSel : d.digOutBitsSel.toNat < 2 ^ 8
  dfeFirSel : d.dfeFirSel.toNat < 2 ^ 8
  numAdcSamples : d.numAdcSamples.toNat < 2 ^ 16
  mimoSel : d.mimoSel.toNat < 2 ^ 8
  chirpRampEndTime : FitsUnsigned 16 d.cliChirpRampEndTime
  chirpRxHpfSel : d.chirpRxHpfSel.toNat < 2 ^ 8

@[mk_iff] structure Defines.TimesFit : Prop where
  chirpIdleTime : FitsUnsigned 16 d.cliChirpIdleTime
  chirpAdcSkipSamples : d.chirpAdcSkipSamples.toNat < 2 ^ 6
  chirpTxStartTime : FitsSigned 15 d.cliChirpTxStartTime
  chirpFreqSlope : FitsSigned 15 d.cliChirpFreqSlope
  chirpStartFreq : FitsUnsigned 32 d.cliChirpStartFreq
  txBitmask : d.txBitmask.toNat < 2 ^ 16

@[mk_iff] structure Defines.FrameFits : Prop where
  numChirpsPerBurst : d.numChirpsPerBurst.toNat < 2 ^ 16
  numChirpsAccum : d.numChirpsAccum.toNat < 2 ^ 8
  burstPeriod : FitsUnsigned 32 d.cliWBurstPeriod
  numBurstsPerFrame : d.numBurstsPerFrame.toNat < 2 ^ 16
  framePeriod : FitsUnsigned 32 d.cliFramePeriod
  numFrames : d.numFrames.toNat < 2 ^ 16

@[mk_iff] structure Defines.CalibrationFits : Prop where
  rxGain : d.rxGain.toNat < 2 ^ 8
  txBackoff : d.txBackoff.toNat < 2 ^ 7

@[mk_iff] structure Defines.StartFits : Prop where
  frmTrig : d.frmTrig.toNat < 2 ^ 8
  lbEn : d.lbEn.toNat < 2 ^ 8
  monEn : d.monEn.toNat < 2 ^ 8

@[mk_iff] structure Defines.DpuFits (p : Platform) : Prop where
  numAdcSamples : d.numAdcSamples.toNat < 2 ^ p.numAdcSamples.val
  rangeFftSize : d.numAdcSamples.toNat < 2 ^ p.rangeFftSize.val
  radarCube : CubeExact p d

/-- The numbers that a call carries have room in its arguments. -/
def Defines.FitsIn (p : Platform) : SdkCall → Prop
  | .rfPwrOnOff _ => d.ChannelFits
  | .mmWaveOpen _ _ => d.numAdcSamples.toNat < 2 ^ 16
  | .addProfile _ _ _ => d.ProfileFits ∧ d.TimesFit
  | .mmWaveConfig _ _ => d.FrameFits
  | .factoryCalibConfig _ _ => d.CalibrationFits
  | .rangeProcConfig _ _ => d.DpuFits p
  | .mmWaveStart _ _ _ => d.StartFits
  | .mmWaveInit | .hwaOpen | .rangeProcInit _ | .synthTrimValid | .addChirp _ _ _
  | .flashRead _ _ | .createDpcTask | .createSpiTask => True

end Fits

section Exact

variable {p : Platform} {d : Defines} {r : SdkReturns}

theorem channelCfg_conveys_iff : d.channelCfg.Conveys d ↔ d.ChannelFits := by
  rw [ChannelCfg.conveys_iff, Defines.channelFits_iff]
  exact and_congr (toNat_toUInt16_eq_iff _)
    (and_congr (toNat_toUInt16_eq_iff _) (toNat_toUInt8_eq_iff _))

theorem profileCfg_conveys_iff : d.profileCfg.Conveys d ↔ d.ProfileFits := by
  rw [ProfileComCfg.conveys_iff, Defines.profileFits_iff]
  refine and_congr (toNat_toUInt8_eq_iff _) (and_congr (toNat_toUInt8_eq_iff _) ?_)
  refine and_congr (toNat_toUInt8_eq_iff _) (and_congr (toNat_toUInt16_eq_iff _) ?_)
  exact and_congr (toNat_toUInt8_eq_iff _)
    (and_congr (near_toU16_iff _) (toNat_toUInt8_eq_iff _))

theorem toNat_adcStartTime_eq_iff (v : UInt32) :
    (v <<< 10).toUInt16.toNat = v.toNat * 2 ^ 10 ↔ v.toNat < 2 ^ 6 := by
  have hlt := v.toNat_lt
  rw [UInt32.toNat_toUInt16, UInt32.toNat_shiftLeft, Nat.shiftLeft_eq]
  change v.toNat * 2 ^ 10 % 2 ^ 32 % 2 ^ 16 = _ ↔ _
  omega

theorem profileTimeCfg_conveys_iff : d.profileTimeCfg.Conveys d ↔ d.TimesFit := by
  rw [ProfileTimeCfg.conveys_iff, Defines.timesFit_iff]
  refine and_congr (near_toU16_iff _) (and_congr (toNat_adcStartTime_eq_iff _) ?_)
  refine and_congr (near_toI16_iff _) (and_congr (near_toI16_iff _) ?_)
  exact and_congr (near_toU32_iff _) (toNat_toUInt16_eq_iff _)

theorem frameCfg_conveys_iff : d.frameCfg.Conveys d ↔ d.FrameFits := by
  rw [FrameCfg.conveys_iff, Defines.frameFits_iff]
  refine and_congr (toNat_toUInt16_eq_iff _) (and_congr (toNat_toUInt8_eq_iff _) ?_)
  refine and_congr (near_toU32_iff _) (and_congr (toNat_toUInt16_eq_iff _) ?_)
  exact and_congr (near_toU32_iff _) (toNat_toUInt16_eq_iff _)

theorem toNat_txBackoff_eq_iff (v : UInt32) :
    (v * 2).toUInt8.toNat = v.toNat * 2 ↔ v.toNat < 2 ^ 7 := by
  have hlt := v.toNat_lt
  rw [UInt32.toNat_toUInt8, UInt32.toNat_mul]
  change v.toNat * 2 % 2 ^ 32 % 2 ^ 8 = _ ↔ _
  omega

theorem restoredCalCfg_conveys_iff (ctx : SysContext) :
    (restoredCalCfg d r ctx).Conveys d ↔ d.CalibrationFits := by
  have hcfg : (restoredCalCfg d r ctx).calRxGainSel = d.rxGain.toUInt8 ∧
      (restoredCalCfg d r ctx).calTxBackOffSel0 = (d.txBackoff * 2).toUInt8 ∧
      (restoredCalCfg d r ctx).calTxBackOffSel1 = (d.txBackoff * 2).toUInt8 := by
    unfold restoredCalCfg factoryCalCfg
    split_ifs <;> exact ⟨rfl, rfl, rfl⟩
  rw [CalibCfg.conveys_iff, Defines.calibrationFits_iff, hcfg.1, hcfg.2.1, hcfg.2.2, and_self]
  exact and_congr (toNat_toUInt8_eq_iff _) (toNat_txBackoff_eq_iff _)

theorem startCfg_conveys_iff :
    (mmwavePopulateDefaultStartCfg d default).Conveys d ↔ d.StartFits := by
  rw [StrtCfg.conveys_iff, Defines.startFits_iff]
  refine and_congr (toNat_toUInt8_eq_iff _) (and_congr (toNat_toUInt8_eq_iff _) ?_)
  exact (and_iff_left rfl).trans (toNat_toUInt8_eq_iff _)

/-- The configuration of the DPU is the same whatever the other calls return. -/
theorem builtRangeProcCfg_holds_iff {q : UInt32} (hq : chirpsPerTx p d = some q) :
    CubeHoldsFrame p d (builtRangeProcCfg p d q) ↔ CubeExact p d := by
  obtain ⟨b, hb⟩ := exists_dpcStart p d ⟨fun _ => false, fun _ => 0⟩ checksPass_allSucceed
  rw [← rangeProcDpuCfg_configuredBoard hb.post q]
  exact cubeHoldsFrame_iff_of_configured (configured_configuredBoard hb.post q) hq

theorem builtRangeProcCfg_conveys_iff {q : UInt32} (hq : chirpsPerTx p d = some q) :
    (builtRangeProcCfg p d q).Conveys d p ↔ d.DpuFits p := by
  rw [RangeProcCfg.conveys_iff, Defines.dpuFits_iff]
  exact and_congr (p.numAdcSamples.store_eq_self_iff _)
    (and_congr (p.rangeFftSize.store_eq_self_iff _) (builtRangeProcCfg_holds_iff hq))

theorem profileItems_convey :
    ∀ c ∈ performed (profileItems p d r), (c.Conveys d p ↔ d.FitsIn p c) := by
  rw [profileItems, forall_performed_call]
  refine ⟨and_congr profileCfg_conveys_iff profileTimeCfg_conveys_iff, ?_⟩
  by_cases hprofile : r.addProfile = null <;>
    simp [hprofile, SdkCall.Conveys, Defines.FitsIn]

theorem calibrationItems_convey :
    ∀ c ∈ performed (calibrationItems d r), (c.Conveys d p ↔ d.FitsIn p c) := by
  rw [calibrationItems, forall_performed_call]
  refine ⟨iff_of_true rfl trivial, ?_⟩
  by_cases haccepted : ReadAccepted r
  · simpa [haccepted, SdkCall.Conveys, Defines.FitsIn] using
      restoredCalCfg_conveys_iff (calContext d)
  · simp [haccepted]

theorem dpuItems_convey :
    ∀ c ∈ performed (dpuItems p d r (chirpsPerTx p d)), (c.Conveys d p ↔ d.FitsIn p c) := by
  cases hq : chirpsPerTx p d with
  | none => simp [dpuItems]
  | some q =>
      rw [dpuItems, forall_performed_check]
      intro _
      by_cases hwindow : dpuWindow p d = null
      · simp [hwindow]
      · simpa [hwindow, SdkCall.Conveys, Defines.FitsIn] using builtRangeProcCfg_conveys_iff hq

/-- A control configuration that is not half built. -/
theorem builtCtrlCfg_conveys_iff (hprofile : r.addProfile ≠ null) (hchirp : r.addChirp ≠ null) :
    (builtCtrlCfg d r).frameCfg.Conveys d ↔ d.FrameFits := by
  rw [builtCtrlCfg, if_neg (not_or.mpr ⟨hprofile, hchirp⟩)]
  exact frameCfg_conveys_iff

theorem sensorItems_convey :
    ∀ c ∈ performed (sensorItems p d r), (c.Conveys d p ↔ d.FitsIn p c) := by
  simp only [sensorItems, forall_performed_call, forall_performed_check]
  refine ⟨Iff.rfl, fun _ => ⟨Iff.rfl, fun _ _ => ⟨Iff.rfl, fun _ => ?_⟩⟩⟩
  refine ⟨channelCfg_conveys_iff, fun _ => ⟨Iff.rfl, fun _ => ?_⟩⟩
  exact ⟨toNat_toUInt16_eq_iff _, fun _ => forall_performed_nil⟩

theorem controlItems_convey (hprofile : r.addProfile ≠ null) (hchirp : r.addChirp ≠ null) :
    ∀ c ∈ performed (controlItems p d r), (c.Conveys d p ↔ d.FitsIn p c) := by
  simp only [controlItems, forall_performed_append, forall_performed_call, forall_performed_check]
  refine ⟨⟨⟨profileItems_convey, fun _ => ⟨?_, fun _ => forall_performed_nil⟩⟩, ?_⟩, ?_⟩
  · exact builtCtrlCfg_conveys_iff hprofile hchirp
  · exact fun _ => calibrationItems_convey
  · exact fun _ => ⟨Iff.rfl, forall_performed_nil⟩

theorem startItems_convey :
    ∀ c ∈ performed (startItems d r), (c.Conveys d p ↔ d.FitsIn p c) := by
  simp only [startItems, forall_performed_call, forall_performed_check]
  exact ⟨Iff.rfl, startCfg_conveys_iff, fun _ => forall_performed_nil⟩

end Exact

/-- When profile and chirp are added, every call of a start-up is told the numbers of
the header exactly when those that it carries have room in its arguments. -/
theorem startUp_conveys (p : Platform) (d : Defines) (regs : AdcBufRegs) {r : SdkReturns}
    (hprofile : r.addProfile ≠ null) (hchirp : r.addChirp ≠ null) :
    ∀ c ∈ (endBoard ((startUp p d r).run (powerOn regs))).calls,
      (c.Conveys d p ↔ d.FitsIn p c) := by
  rw [calls_startUp]
  simp only [startUpItems, forall_performed_append]
  refine ⟨⟨⟨sensorItems_convey, fun _ => ?_⟩, fun _ => dpuItems_convey⟩, fun _ => ?_⟩
  · exact controlItems_convey hprofile hchirp
  · exact startItems_convey

end RadarStream
