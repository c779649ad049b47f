import RadarStream.Firmware.AdcRegions
import RadarStream.Firmware.RangeProc

/-!
# The layout of the ADC buffer

The sensor writes the samples of a channel where `Mmwave_ADCBufConfig` put the
channel, and the DPU reads them where `rxChanOffset` says. Both lay the enabled
channels out one after the other, but the first is asked before the profile has
its sample count: it places all channels at the start of the buffer.
-/

namespace RadarStream

section Agreement

variable {p : Platform} {d : Defines} {r : SdkReturns} {regs : AdcBufRegs} {b t : Board}

/-- The RX channels that are enabled. -/
def enabledChannels (d : Defines) : List ℕ := channelsOf d.rxBitmask.toUInt16

/-- Sensor and DPU agree on where the channels lie. -/
def AdcLayoutAgrees (d : Defines) (t : Board) : Prop :=
  ∀ i channel, (enabledChannels d)[i]? = some channel →
    16 * (t.adcBuf.addr channel).toNat = (t.ctx.params.rxChanOffset i).toNat

theorem lt_of_enabledChannels {i channel : ℕ} (h : (enabledChannels d)[i]? = some channel) :
    i < sysCommonNumRxChannel := by
  obtain ⟨hlt, _⟩ := List.getElem?_eq_some_iff.mp h
  have hle := List.length_filter_le (d.rxBitmask.toUInt16.toNat.testBit ·)
    (List.range sysCommonNumRxChannel)
  rw [List.length_range] at hle
  exact hlt.trans_le hle

theorem foldl_update_of_mem {α β : Type} [DecidableEq α] (g : α → β) (f : α → β) {l : List α}
    {a : α} (h : a ∈ l) : l.foldl (fun f a => Function.update f a (g a)) f a = g a := by
  induction l using List.reverseRecOn with
  | nil => simp at h
  | append_singleton l c ih =>
      rw [List.foldl_append, List.foldl_cons, List.foldl_nil]
      by_cases hac : a = c
      · rw [hac, Function.update_self]
      · rw [Function.update_of_ne hac]
        exact ih (by simpa [hac] using h)

theorem toNat_rxChanOffsets (p : Platform) (d : Defines) (offsets : ℕ → UInt32) {i : ℕ}
    (hi : i < sysCommonNumRxChannel) : (rxChanOffsets p d offsets i).toNat =
      i * (bytesPerRxChan d).toNat % 2 ^ p.rxChanOffset.val := by
  have hstore : rxChanOffsets p d offsets i =
      p.rxChanOffset.store (UInt32.ofNat i * bytesPerRxChan d) :=
    foldl_update_of_mem _ offsets (List.mem_range.mpr hi)
  have hdvd : 2 ^ p.rxChanOffset.val ∣ 2 ^ 32 := Nat.pow_dvd_pow 2 p.rxChanOffset.property.2
  rw [hstore, FieldWidth.toNat_store, UInt32.toNat_mul, Nat.mod_mod_of_dvd _ hdvd,
    UInt32.toNat_ofNat_of_lt' (hi.trans (by decide))]

theorem addr_eq_zero (h : InitPost p d r regs b) {i channel : ℕ}
    (hi : (enabledChannels d)[i]? = some channel) : (b.adcBuf.addr channel).toNat = 0 := by
  rw [h.adcBuf, programmed, adcBufRegs_addr List.nodup_range hi]
  simp

theorem adcLayoutAgrees_of_leftEarly (h : InitPost p d r regs b) (ht : LeftEarly b t) :
    AdcLayoutAgrees d t := by
  intro i channel hi
  rw [ht.adcBuf, ht.rxChanOffset, addr_eq_zero h hi]
  rfl

/-- With all channels at the start, a second channel is read from where it is
only when the offset of one channel is lost in the field. -/
theorem adcLayoutAgrees_iff_of_configured (h : InitPost p d r regs b) {q : UInt32}
    (ht : Configured p d q b t) : AdcLayoutAgrees d t ↔
      (enabledChannels d).length ≤ 1 ∨
        2 ^ p.rxChanOffset.val ∣ (bytesPerRxChan d).toNat := by
  have hoffset : ∀ i channel, (enabledChannels d)[i]? = some channel →
      (16 * (t.adcBuf.addr channel).toNat = (t.ctx.params.rxChanOffset i).toNat ↔
        2 ^ p.rxChanOffset.val ∣ i * (bytesPerRxChan d).toNat) := by
    intro i channel hi
    rw [ht.adcBuf, ht.rxChanOffset, addr_eq_zero h hi,
      toNat_rxChanOffsets p d _ (lt_of_enabledChannels hi), Nat.dvd_iff_mod_eq_zero]
    exact eq_comm
  constructor
  · intro hagree
    by_cases hlength : (enabledChannels d).length ≤ 1
    · exact Or.inl hlength
    · have hsecond := List.getElem?_eq_getElem (l := enabledChannels d) (i := 1) (by omega)
      have hdvd := (hoffset 1 _ hsecond).mp (hagree 1 _ hsecond)
      rw [Nat.one_mul] at hdvd
      exact Or.inr hdvd
  · rintro (hlength | hdvd) i channel hi
    · obtain ⟨hlt, _⟩ := List.getElem?_eq_some_iff.mp hi
      obtain rfl : i = 0 := by omega
      exact (hoffset 0 channel hi).mpr (by simp)
    · exact (hoffset i channel hi).mpr (Dvd.dvd.mul_left hdvd i)

/-- Sensor and DPU agree exactly when there is no second channel, when
`RangeProc_config` leaves early, or when the offsets are lost in their field. -/
theorem adcLayoutAgrees_iff (hstart : DpcStart p d r regs b)
    (hconfig : (dpcConfigure p d r).run b = .ok ⟨⟩ t) : AdcLayoutAgrees d t ↔
      (enabledChannels d).length ≤ 1 ∨ ¬ (WindowFits p d ∨ WindowWraps p d) ∨
        2 ^ p.rxChanOffset.val ∣ (bytesPerRxChan d).toNat := by
  have houtcome := dpcConfigure_outcome hstart.post
  rw [hconfig] at houtcome
  rw [← dpuWindow_ne_null_iff, not_not]
  cases houtcome with
  | leftEarly _ _ hwindow ht =>
      exact ⟨fun _ => Or.inr (Or.inl hwindow), fun _ => adcLayoutAgrees_of_leftEarly hstart.post ht⟩
  | configured _ _ hwindow ht =>
      rw [adcLayoutAgrees_iff_of_configured hstart.post ht]
      exact ⟨Or.imp_right Or.inr, Or.imp_right (Or.resolve_left · hwindow)⟩

def oneChannel : Defines := { defaultDefines with rxBitmask := 4 }

theorem adcLayoutAgrees_iff_oneChannel :
    ∃ b t, DpcStart samplePlatform oneChannel allSucceed ⟨fun _ => true, fun _ => 7⟩ b ∧
      (dpcConfigure samplePlatform oneChannel allSucceed).run b = .ok ⟨⟩ t ∧
      AdcLayoutAgrees oneChannel t := by
  obtain ⟨b, t, hb, hrun, _⟩ := exists_configured_sample (d := oneChannel) (q := 64)
    (by decide) (by decide) (by decide)
  exact ⟨b, t, hb, hrun, (adcLayoutAgrees_iff hb hrun).mpr (Or.inl (by decide))⟩

/-- With the configuration of the repository the DPU reads the second channel from
byte 256 and finds it at byte 0. -/
theorem not_adcLayoutAgrees_defaultDefines :
    ∃ b t, DpcStart samplePlatform defaultDefines allSucceed ⟨fun _ => true, fun _ => 7⟩ b ∧
      (dpcConfigure samplePlatform defaultDefines allSucceed).run b = .ok ⟨⟩ t ∧
      ¬ AdcLayoutAgrees defaultDefines t := by
  obtain ⟨b, t, hb, hrun, ht⟩ := exists_configured_sample (d := defaultDefines) (q := 64)
    (by decide) (by decide) (by decide)
  refine ⟨b, t, hb, hrun, ?_⟩
  rw [adcLayoutAgrees_iff_of_configured hb.post ht]
  decide

end Agreement

end RadarStream
