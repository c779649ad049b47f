import RadarStream.Script.HeaderMeaning

/-!
# One header, one configuration

A header means at most one `Defines`: every value behind a macro can be read off it, the
ones that are only given scaled included. So what a firmware that was compiled with a
header works with is fixed by its text.
-/

namespace RadarStream

open CText

section Unique

variable {p : Platform} {d d' : Defines} {ms : Macros Empty} {name : String}

theorem MacrosMean.word_eq (h : MacrosMean p d ms) (h' : MacrosMean p d' ms) {w w' : UInt32}
    (i : ℕ) (hm : (d.macros p)[i]? = some (name, .word w))
    (hm' : (d'.macros p)[i]? = some (name, .word w')) : w = w' := by
  obtain ⟨v, hv, rfl⟩ := h.value _ (List.mem_of_getElem? hm)
  obtain ⟨v', hv', hw⟩ := h'.value _ (List.mem_of_getElem? hm')
  rw [hv] at hv'
  obtain rfl := Option.some.inj hv'
  have hnat : (w.toNat : ℤ) = w'.toNat := Value.int.inj hw
  exact UInt32.toNat_inj.mp (by exact_mod_cast hnat)

theorem MacrosMean.rational_eq (h : MacrosMean p d ms) (h' : MacrosMean p d' ms) {q q' : ℚ}
    (i : ℕ) (hm : (d.macros p)[i]? = some (name, .rational q))
    (hm' : (d'.macros p)[i]? = some (name, .rational q')) : q = q' := by
  obtain ⟨v, hv, hq⟩ := h.value _ (List.mem_of_getElem? hm)
  obtain ⟨v', hv', hq'⟩ := h'.value _ (List.mem_of_getElem? hm')
  rw [hv] at hv'
  obtain rfl := Option.some.inj hv'
  exact hq.symm.trans hq'

theorem shiftLeft_ten_inj {v w : UInt32} (hv : v.toNat < 2 ^ 21) (hw : w.toNat < 2 ^ 21)
    (h : v <<< 10 = w <<< 10) : v = w := by
  have hnat := congrArg UInt32.toNat h
  rw [UInt32.toNat_shiftLeft, UInt32.toNat_shiftLeft, Nat.shiftLeft_eq, Nat.shiftLeft_eq] at hnat
  change v.toNat * 2 ^ 10 % 2 ^ 32 = w.toNat * 2 ^ 10 % 2 ^ 32 at hnat
  exact UInt32.toNat_inj.mp (by omega)

theorem mul_two_inj {v w : UInt32} (hv : v.toNat < 2 ^ 30) (hw : w.toNat < 2 ^ 30)
    (h : v * 2 = w * 2) : v = w := by
  have hnat := congrArg UInt32.toNat h
  rw [UInt32.toNat_mul, UInt32.toNat_mul] at hnat
  change v.toNat * 2 % 2 ^ 32 = w.toNat * 2 % 2 ^ 32 at hnat
  exact UInt32.toNat_inj.mp (by omega)

/-- The values that the macros only give scaled. -/
theorem MacrosMean.scaled_eq (h : MacrosMean p d ms) (h' : MacrosMean p d' ms) (hd : d.InRange)
    (hd' : d'.InRange) :
    d.framePeriod = d'.framePeriod ∧ d.chirpIdleTime = d'.chirpIdleTime ∧
      d.chirpAdcSkipSamples = d'.chirpAdcSkipSamples ∧ d.chirpTxStartTime = d'.chirpTxStartTime ∧
      d.chirpRampEndTime = d'.chirpRampEndTime ∧ d.txBackoff = d'.txBackoff := by
  have hframe : d.cliFramePeriod = d'.cliFramePeriod := h.rational_eq h' 23 rfl rfl
  have hidle : d.cliChirpIdleTime = d'.cliChirpIdleTime := h.rational_eq h' 24 rfl rfl
  have hskip : d.cliChirpAdcStartTime = d'.cliChirpAdcStartTime := h.word_eq h' 25 rfl rfl
  have hstart : d.cliChirpTxStartTime = d'.cliChirpTxStartTime := h.rational_eq h' 26 rfl rfl
  have hramp : d.cliChirpRampEndTime = d'.cliChirpRampEndTime := h.rational_eq h' 30 rfl rfl
  have hbackoff : d.cliFaccalcfgTxBackoffSel = d'.cliFaccalcfgTxBackoffSel :=
    h.word_eq h' 31 rfl rfl
  simp only [Defines.cliFramePeriod, Defines.cliChirpIdleTime, Defines.cliChirpTxStartTime,
    Defines.cliChirpRampEndTime] at hframe hidle hstart hramp
  refine ⟨by linarith, by linarith, ?_, by linarith, by linarith, ?_⟩
  · exact shiftLeft_ten_inj hd.chirpAdcSkipSamples hd'.chirpAdcSkipSamples hskip
  · exact mul_two_inj hd.txBackoff hd'.txBackoff hbackoff

theorem MacrosMean.unique (h : MacrosMean p d ms) (h' : MacrosMean p d' ms) (hd : d.InRange)
    (hd' : d'.InRange) : d = d' := by
  obtain ⟨hframe, hidle, hskip, hstart, hramp, hbackoff⟩ := h.scaled_eq h' hd hd'
  have hburst : d.numChirpsPerBurst = d'.numChirpsPerBurst := h.word_eq h' 0 rfl rfl
  have haccum : d.numChirpsAccum = d'.numChirpsAccum := h.word_eq h' 1 rfl rfl
  have hperiod : d.burstPeriod = d'.burstPeriod := h.rational_eq h' 2 rfl rfl
  have hbursts : d.numBurstsPerFrame = d'.numBurstsPerFrame := h.word_eq h' 3 rfl rfl
  have hframes : d.numFrames = d'.numFrames := h.word_eq h' 4 rfl rfl
  have hslope : d.chirpSlope = d'.chirpSlope := h.rational_eq h' 5 rfl rfl
  have hfreq : d.startFreq = d'.startFreq := h.rational_eq h' 6 rfl rfl
  have hrx : d.rxBitmask = d'.rxBitmask := h.word_eq h' 7 rfl rfl
  have htx : d.txBitmask = d'.txBitmask := h.word_eq h' 8 rfl rfl
  have hmisc : d.miscCtrl = d'.miscCtrl := h.word_eq h' 9 rfl rfl
  have hsamples : d.numAdcSamples = d'.numAdcSamples := h.word_eq h' 10 rfl rfl
  have hrate : d.digOutSamplingRate = d'.digOutSamplingRate := h.word_eq h' 11 rfl rfl
  have hbits : d.digOutBitsSel = d'.digOutBitsSel := h.word_eq h' 12 rfl rfl
  have hfir : d.dfeFirSel = d'.dfeFirSel := h.word_eq h' 13 rfl rfl
  have hmimo : d.mimoSel = d'.mimoSel := h.word_eq h' 14 rfl rfl
  have hhpf : d.chirpRxHpfSel = d'.chirpRxHpfSel := h.word_eq h' 15 rfl rfl
  have hgain : d.rxGain = d'.rxGain := h.word_eq h' 16 rfl rfl
  have hflash : d.flashOffset = d'.flashOffset := h.word_eq h' 17 rfl rfl
  have htrig : d.frmTrig = d'.frmTrig := h.word_eq h' 18 rfl rfl
  have hlb : d.lbEn = d'.lbEn := h.word_eq h' 19 rfl rfl
  have hmon : d.monEn = d'.monEn := h.word_eq h' 20 rfl rfl
  have htimer : d.trigTimer = d'.trigTimer := h.word_eq h' 21 rfl rfl
  cases d
  cases d'
  simp only at *
  subst_vars
  rfl

theorem HeaderMeans.unique {text : Text} (h : HeaderMeans p d text) (h' : HeaderMeans p d' text)
    (hd : d.InRange) (hd' : d'.InRange) : d = d' := by
  obtain ⟨⟨ms, hread, hms⟩, -⟩ := h
  obtain ⟨⟨ms', hread', hms'⟩, -⟩ := h'
  obtain rfl : ms = ms' := Option.some.inj (hread.symm.trans hread')
  exact hms.unique hms' hd hd'

end Unique

end RadarStream
