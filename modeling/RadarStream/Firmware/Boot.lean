import RadarStream.Firmware.Sensor
import RadarStream.Library.FailStop

/-!
# The boot of the firmware

`freertos_main` and what its functions do. Each function that cannot stop has a
`_run` lemma or a postcondition, and `freertosInit_guarded` follows the start-up
sequence with the rules for fail-stop programs: it gets to its end exactly when
the checks on the way pass (`ChecksPass`), and what is in place then is
`InitPost`. `MMWave_addProfile` and `MMWave_addChirp` are not among the checks:
their failures are lost in a `void` function.
-/

namespace RadarStream

open Fw FailStop

section Programs

variable (p : Platform) (d : Defines) (r : SdkReturns)

/-- `freertos_main` up to the creation of `dpcTask`. A flash handle that is `NULL` and
the result of `restoreFactoryCal` are only logged. -/
def freertosInit : Fw PUnit := do
  mempoolInit p
  exitIf ((← mmwaveInitSensor r) = systemPFailure)
  exitIf ((← hwaOpenHandler r) = systemPFailure)
  rangeProcDpuInit r
  mmWavePopulateChannelCfg d
  let ctx ← sysContext
  call (.rfPwrOnOff ctx.channelCfg)
  exitIf (r.rfPwrOnOff ≠ 0)
  call .synthTrimValid
  exitIf (r.synthTrimValid ≠ 1)
  exitIf ((← mmwaveOpenSensor p d r) = systemPFailure)
  exitIf ((← mmwaveConfigSensor p d r) = systemPFailure)
  let _ ← restoreFactoryCal d r
  call .createDpcTask

/-- `freertos_main` from the creation of `spiTask` on. -/
def freertosStart : Fw PUnit := do
  call .createSpiTask
  exitIf ((← mmwaveStartSensor d r) = systemPFailure)

/-- `freertos_main`; `dpcCfgDone` says whether `dpcTask` posts the semaphore that
it waits for. The program ends where the task waits for good. -/
def freertosMain (dpcCfgDone : Bool) : Fw PUnit := do
  freertosInit p d r
  if dpcCfgDone then freertosStart d r else pure ⟨⟩

end Programs

/-- The board at power-on: `gSysContext` is zero, the registers hold anything. -/
def powerOn (regs : AdcBufRegs) : Board := ⟨default, regs, []⟩

def endBoard : EStateM.Result Stop Board PUnit → Board
  | .ok _ b => b
  | .error _ b => b

def SdkCall.isStart : SdkCall → Bool
  | .mmWaveStart .. => true
  | _ => false

def Board.Started (b : Board) : Prop := ∃ c ∈ b.calls, c.isStart = true

/-- Boot stopped by `exit` or an assertion, with the sensor not started. -/
def StopsQuietly (e : Stop) (b : Board) : Prop := e ≠ .divisionTrap ∧ ¬ b.Started

/-- The checks of `freertos_main` and of the functions it calls that stop boot. -/
structure ChecksPass (r : SdkReturns) : Prop where
  mmWaveInit : r.mmWaveInit ≠ null
  hwaOpen : r.hwaOpen ≠ null
  hwaOpenStatus : r.hwaOpenStatus ≠ systemPFailure
  rangeProcInit : r.rangeProcInit ≠ null
  rfPwrOnOff : r.rfPwrOnOff = 0
  synthTrimValid : r.synthTrimValid = 1
  mmWaveOpen : ¬ r.mmWaveOpen < 0
  mmWaveConfig : ¬ r.mmWaveConfig < 0

def Defines.frameCfg (d : Defines) : FrameCfg where
  numOfChirpsInBurst := d.numChirpsPerBurst.toUInt16
  numOfChirpsAccum := d.numChirpsAccum.toUInt8
  burstPeriodicity := toU32 d.cliWBurstPeriod
  numOfBurstsInFrame := d.numBurstsPerFrame.toUInt16
  framePeriodicity := toU32 d.cliFramePeriod
  numOfFrames := d.numFrames.toUInt16
  frameEvent0TimeCfg := 0
  frameEvent1TimeCfg := 0

def Defines.profileCfg (d : Defines) : ProfileComCfg where
  digOutputSampRate := d.digOutSamplingRate.toUInt8
  digOutputBitsSel := d.digOutBitsSel.toUInt8
  dfeFirSel := d.dfeFirSel.toUInt8
  vcoMultiChipMode := 0
  numOfAdcSamples := d.numAdcSamples.toUInt16
  chirpTxMimoPatSel := d.mimoSel.toUInt8
  miscSettings := 0
  hpfFastInitDuration := 15
  crdNSlopeMag := crdNSlopeMag d (toU16 d.cliChirpRampEndTime) (toU16 d.cliChirpIdleTime)
  chirpRampEndTime := toU16 d.cliChirpRampEndTime
  chirpRxHpfSel := d.chirpRxHpfSel.toUInt8

def Defines.profileTimeCfg (d : Defines) : ProfileTimeCfg where
  chirpIdleTime := toU16 d.cliChirpIdleTime
  chirpAdcStartTime := d.cliChirpAdcStartTime.toUInt16
  chirpTxStartTime := toI16 d.cliChirpTxStartTime
  chirpRfFreqSlope := toI16 d.cliChirpFreqSlope
  chirpRfFreqStart := toU32 d.cliChirpStartFreq
  chirpTxEnSel := d.txBitmask.toUInt16
  chirpTxBpmEnSel := 0

/-- The control configuration has its profile, chirp and frame fields. -/
structure ControlFilled (d : Defines) (b : Board) : Prop where
  profile : b.ctx.mmwCtrlCfg.profileHandle ≠ null ∧
    ∃ handle, .addProfile handle d.profileCfg d.profileTimeCfg ∈ b.calls
  chirp : ∃ chirpCfg chirpCtrl,
    .addChirp b.ctx.mmwCtrlCfg.profileHandle chirpCfg chirpCtrl ∈ b.calls
  frame : b.ctx.mmwCtrlCfg.frameCfg = d.frameCfg ∧ b.ctx.mmwCtrlCfg.tempCtrlBitMask = 0x311

theorem ControlFilled.mono {d : Defines} {b t : Board} (h : ControlFilled d b)
    (hctrl : t.ctx.mmwCtrlCfg = b.ctx.mmwCtrlCfg) (hcalls : ∀ c ∈ b.calls, c ∈ t.calls) :
    ControlFilled d t := by
  obtain ⟨⟨hprofile, handle, hadd⟩, ⟨chirpCfg, chirpCtrl, hchirp⟩, hframe⟩ := h
  rw [← hctrl] at hprofile hchirp hframe
  exact ⟨⟨hprofile, handle, hcalls _ hadd⟩, ⟨chirpCfg, chirpCtrl, hcalls _ hchirp⟩, hframe⟩

section AdcBuf

def adcBufRegs (rxChannelEn : UInt16) (chanDataSize : UInt32) :
    List ℕ → UInt16 → AdcBufRegs → AdcBufRegs
  | [], _, regs => regs
  | channel :: channels, offset, regs =>
      if rxChannelEn.toNat.testBit channel then
        adcBufRegs rxChannelEn chanDataSize channels (offset + chanDataSize.toUInt16)
          { rxEn := Function.update regs.rxEn channel true
            addr := Function.update regs.addr channel (offset.toUInt32 >>> 4) }
      else adcBufRegs rxChannelEn chanDataSize channels offset regs

/-- The registers after `Mmwave_ADCBufConfig`. -/
def programmed (rxChannelEn : UInt16) (chanDataSize : UInt32) (regs : AdcBufRegs) : AdcBufRegs :=
  adcBufRegs rxChannelEn chanDataSize (List.range sysCommonNumRxChannel) 0 regs.disable

theorem mmwaveEnChannelSetOffset_run (b : Board) {channel : ℕ}
    (h : channel < sysCommonNumRxChannel) (offset : UInt16) :
    (mmwaveEnChannelSetOffset channel offset).run b = .ok ⟨⟩ { b with adcBuf :=
      { rxEn := Function.update b.adcBuf.rxEn channel true
        addr := Function.update b.adcBuf.addr channel (offset.toUInt32 >>> 4) } } := by
  simp only [mmwaveEnChannelSetOffset, if_pos h]
  rfl

/-- The loop meets supported channels only, so its assertion is never reached. -/
theorem adcBufLoop_run (b : Board) (mask : UInt16) (size : UInt32) (channels : List ℕ)
    (offset : UInt16) (h : ∀ c ∈ channels, c < sysCommonNumRxChannel) :
    (adcBufLoop mask size channels offset).run b =
      .ok ⟨⟩ { b with adcBuf := (adcBufRegs mask size channels offset b.adcBuf) } := by
  induction channels generalizing offset b with
  | nil => rfl
  | cons channel channels ih =>
      have hc : channel < sysCommonNumRxChannel := h channel List.mem_cons_self
      have hrest := fun c hc => h c (List.mem_cons_of_mem channel hc)
      rw [adcBufLoop, adcBufRegs]
      by_cases hbit : mask.toNat.testBit channel
      · rw [if_pos hbit, if_pos hbit,
          run_bind_of_ok (mmwaveEnChannelSetOffset_run b hc offset), ih _ _ hrest]
      · rw [if_neg hbit, if_neg hbit, ih _ _ hrest]

theorem mmwaveADCBufConfig_run (b : Board) (mask : UInt16) (size : UInt32) :
    (mmwaveADCBufConfig mask size).run b =
      .ok ⟨⟩ { b with adcBuf := programmed mask size b.adcBuf } := by
  exact adcBufLoop_run { b with adcBuf := b.adcBuf.disable } _ _ _ _ (by simp)

end AdcBuf

section Posts

variable {p : Platform} {d : Defines} {r : SdkReturns} {b t : Board}
  {stop : Stop → Board → Prop}

/-- What `Mmwave_populateDefaultChirpControlCfg` leaves. -/
structure ChirpControlPost (d : Defines) (r : SdkReturns) (b t : Board) : Prop where
  adcBuf : t.adcBuf = programmed b.ctx.channelCfg.rxChCtrlBitMask
    (b.ctx.profileComCfg.numOfAdcSamples.toUInt32 * 2) b.adcBuf
  frame : t.ctx = { b.ctx with
    mmwCtrlCfg := t.ctx.mmwCtrlCfg
    frameCfg := t.ctx.frameCfg
    profileComCfg := t.ctx.profileComCfg
    profileTimeCfg := t.ctx.profileTimeCfg }
  quiet : ¬ b.Started → ¬ t.Started
  filled : r.addProfile ≠ null → r.addChirp ≠ null → ControlFilled d t

theorem not_started_issue {c : SdkCall} (hb : ¬ b.Started) (hc : c.isStart = false) :
    ¬ (b.issue c).Started := by
  rintro ⟨c', hc', hstart⟩
  rcases List.mem_append.mp hc' with hc' | hc'
  · exact hb ⟨c', hc', hstart⟩
  · rw [List.mem_singleton.mp hc', hc] at hstart
    exact absurd hstart (by decide)

theorem mem_issue_self (b : Board) (c : SdkCall) : c ∈ (b.issue c).calls :=
  List.mem_append_right _ (List.mem_singleton.mpr rfl)

theorem mem_issue_of_mem {c c' : SdkCall} (h : c ∈ b.calls) : c ∈ (b.issue c').calls :=
  List.mem_append_left _ h

theorem mmwavePopulateDefaultChirpControlCfg_guarded :
    Guarded stop (mmwavePopulateDefaultChirpControlCfg p d r) b True
      fun _ t => ChirpControlPost d r b t := by
  unfold mmwavePopulateDefaultChirpControlCfg
  refine .bind_run (sysContext_run b) (.bind_run (mmwaveADCBufConfig_run _ _ _) ?_)
  refine .bind_run (assign_run _ _) (.bind_run rfl (.bind_run (sysContext_run _) ?_))
  refine .bind_run (call_run _ _) (.bind_run (assign_run _ _) (.bind_run (sysContext_run _) ?_))
  refine .ite (fun hprofile => .pure ⟨rfl, rfl, ?_, ?_⟩) (fun hprofile => ?_)
  · exact fun hb => not_started_issue hb rfl
  · exact fun h => absurd hprofile h
  refine .bind_run (call_run _ _) ?_
  refine .ite (fun hchirp => .pure ⟨rfl, rfl, ?_, ?_⟩) (fun hchirp => ?_)
  · exact fun hb => not_started_issue (not_started_issue hb rfl) rfl
  · exact fun _ h => absurd hchirp h
  refine .of_run (assign_run _ _) ⟨rfl, rfl, ?_, ?_⟩
  · exact fun hb => not_started_issue (not_started_issue hb rfl) rfl
  · intro _ _
    exact ⟨⟨hprofile, _, mem_issue_of_mem (mem_issue_self _ _)⟩, ⟨_, _, mem_issue_self _ _⟩,
      rfl, rfl⟩

/-- What `restoreFactoryCal` leaves: it only touches the CLPC command. -/
structure FactoryCalPost (b t : Board) : Prop where
  adcBuf : t.adcBuf = b.adcBuf
  frame : t.ctx = { b.ctx with fecTxclpcCalCmd := t.ctx.fecTxclpcCalCmd }
  quiet : ¬ b.Started → ¬ t.Started
  calls : ∀ c ∈ b.calls, c ∈ t.calls

theorem restoreFactoryCal_guarded :
    Guarded stop (restoreFactoryCal d r) b True fun _ t => FactoryCalPost b t := by
  unfold restoreFactoryCal
  refine .bind_run (sysContext_run b) (.bind_run (call_run _ _) ?_)
  have hread : FactoryCalPost b (b.issue (.flashRead r.flashHandle d.flashOffset)) :=
    ⟨rfl, rfl, fun hb => not_started_issue hb rfl, fun _ => mem_issue_of_mem⟩
  refine .ite (fun _ => .pure hread) fun _ => .ite (fun _ => .pure hread) fun _ => ?_
  refine .bind_run (call_run _ _) ?_
  have hquiet : ∀ cfg, ¬ b.Started → ¬ ((b.issue (.flashRead r.flashHandle d.flashOffset)).issue
      (.factoryCalibConfig b.ctx.gCtrlHandle cfg)).Started :=
    fun cfg hb => not_started_issue (hread.quiet hb) rfl
  refine .ite (fun _ => .pure ⟨rfl, rfl, hquiet _, ?_⟩) fun _ => ?_
  · exact fun _ hc => mem_issue_of_mem (mem_issue_of_mem hc)
  refine .bind_run (assign_run _ _) (.pure ⟨rfl, rfl, hquiet _, ?_⟩)
  exact fun _ hc => mem_issue_of_mem (mem_issue_of_mem hc)

/-- What is in place when the sensor is open. -/
structure OpenPost (p : Platform) (d : Defines) (regs : AdcBufRegs) (b : Board) : Prop where
  txAntennas : b.ctx.numTxAntennas = countEnabled d.txBitmask.toUInt16 sysCommonNumTxAntennas
  rxAntennas : b.ctx.numRxAntennas = countEnabled d.rxBitmask.toUInt16 sysCommonNumRxChannel
  l3Ram : b.ctx.l3RamObj.cfg = ⟨p.gMmwL3, l3MemSize⟩
  coreLocalRam : b.ctx.coreLocalRamObj.cfg = ⟨p.gMmwCoreLocMem, coreLocalMemSize⟩
  rxMask : b.ctx.channelCfg.rxChCtrlBitMask = d.rxBitmask.toUInt16
  numOfAdcSamples : b.ctx.profileComCfg.numOfAdcSamples = 0
  adcBuf : b.adcBuf = regs
  quiet : ¬ b.Started

/-- What is in place when `dpcTask` is created. -/
structure InitPost (p : Platform) (d : Defines) (r : SdkReturns) (regs : AdcBufRegs) (t : Board) :
    Prop where
  txAntennas : t.ctx.numTxAntennas = countEnabled d.txBitmask.toUInt16 sysCommonNumTxAntennas
  rxAntennas : t.ctx.numRxAntennas = countEnabled d.rxBitmask.toUInt16 sysCommonNumRxChannel
  l3Ram : t.ctx.l3RamObj.cfg = ⟨p.gMmwL3, l3MemSize⟩
  coreLocalRam : t.ctx.coreLocalRamObj.cfg = ⟨p.gMmwCoreLocMem, coreLocalMemSize⟩
  adcBuf : t.adcBuf = programmed d.rxBitmask.toUInt16 0 regs
  quiet : ¬ t.Started
  filled : r.addProfile ≠ null → r.addChirp ≠ null → ControlFilled d t

/-- Configuration and calibration keep antennas and pools, and the first lays out
the ADC buffer with the sample count it finds. -/
theorem OpenPost.initPost {regs : AdcBufRegs} {u : Board} {c c' : SdkCall}
    (h : OpenPost p d regs b) (ht : ChirpControlPost d r b t)
    (hu : FactoryCalPost (t.issue c) u) (hc : c.isStart = false)
    (hc' : c'.isStart = false) : InitPost p d r regs (u.issue c') := by
  have hkeep {α : Type} (field : SysContext → α)
      (hcal : ∀ ctx cmd, field { ctx with fecTxclpcCalCmd := cmd } = field ctx)
      (hctrl : ∀ ctx m f c i, field { ctx with
        mmwCtrlCfg := m, frameCfg := f, profileComCfg := c, profileTimeCfg := i } = field ctx) :
      field u.ctx = field b.ctx :=
    (congrArg field hu.frame).trans ((hcal _ _).trans
      ((congrArg field ht.frame).trans (hctrl _ _ _ _ _)))
  have hctrlCfg : u.ctx.mmwCtrlCfg = t.ctx.mmwCtrlCfg := by
    rw [hu.frame]
    rfl
  have hadcBuf : u.adcBuf = t.adcBuf := hu.adcBuf
  exact {
    txAntennas := (hkeep SysContext.numTxAntennas (fun _ _ => rfl) fun _ _ _ _ _ => rfl).trans
      h.txAntennas
    rxAntennas := (hkeep SysContext.numRxAntennas (fun _ _ => rfl) fun _ _ _ _ _ => rfl).trans
      h.rxAntennas
    l3Ram := (hkeep (fun ctx => ctx.l3RamObj.cfg) (fun _ _ => rfl) fun _ _ _ _ _ => rfl).trans
      h.l3Ram
    coreLocalRam := (hkeep (fun ctx => ctx.coreLocalRamObj.cfg) (fun _ _ => rfl)
      fun _ _ _ _ _ => rfl).trans h.coreLocalRam
    adcBuf := by
      rw [Board.issue_adcBuf, hadcBuf, ht.adcBuf, h.rxMask, h.numOfAdcSamples, h.adcBuf]
      rfl
    quiet := not_started_issue (hu.quiet (not_started_issue (ht.quiet h.quiet) hc)) hc'
    filled := fun hprofile hchirp => (ht.filled hprofile hchirp).mono
      hctrlCfg fun c hc => mem_issue_of_mem (hu.calls c (mem_issue_of_mem hc)) }

theorem failure_of_ite {c : Prop} [Decidable c] :
    (if c then systemPFailure else systemPSuccess) = systemPFailure ↔ c := by
  by_cases h : c
  · simp [h]
  · simpa [h] using (by decide : systemPSuccess ≠ systemPFailure)

theorem exitIf_guarded {c g : Prop} [Decidable c] (hb : ¬ b.Started) (hc : ¬ c ↔ g) :
    Guarded StopsQuietly (exitIf c) b g fun _ t => t = b :=
  Guarded.guard_congr (.check (fun _ => ⟨by decide, hb⟩) rfl) hc

theorem assertNot_guarded {c g : Prop} [Decidable c] (hb : ¬ b.Started) (hc : ¬ c ↔ g) :
    Guarded StopsQuietly (assertNot c) b g fun _ t => t = b :=
  Guarded.guard_congr (.check (fun _ => ⟨by decide, hb⟩) rfl) hc

theorem hwaOpenHandler_guarded (hb : ¬ b.Started) :
    Guarded StopsQuietly (hwaOpenHandler r) b (r.hwaOpen ≠ null) fun a t =>
      a = r.hwaOpenStatus ∧
        t = (b.issue .hwaOpen).assign fun ctx => { ctx with hwaHandle := r.hwaOpen } := by
  unfold hwaOpenHandler
  refine .bind_run (call_run _ _) (.bind_run (assign_run _ _) (.bind_run (sysContext_run _) ?_))
  exact .check_pure (assertNot_guarded (not_started_issue hb rfl) Iff.rfl) ⟨rfl, rfl⟩

theorem rangeProcDpuInit_guarded (hb : ¬ b.Started) :
    Guarded StopsQuietly (rangeProcDpuInit r) b (r.rangeProcInit ≠ null) fun _ t =>
      t = (b.issue (.rangeProcInit b.ctx.hwaHandle)).assign
        fun ctx => { ctx with rangeProcHWADpuHandle := r.rangeProcInit } := by
  unfold rangeProcDpuInit
  refine .bind_run (sysContext_run _) (.bind_run (call_run _ _) ?_)
  refine .bind_run (assign_run _ _) (.bind_run (sysContext_run _) ?_)
  exact assertNot_guarded (not_started_issue hb rfl) Iff.rfl

theorem mmwaveConfigSensor_guarded :
    Guarded stop (mmwaveConfigSensor p d r) b True fun a t =>
      a = (if r.mmWaveConfig < 0 then systemPFailure else systemPSuccess) ∧
        ∃ u, ChirpControlPost d r b u ∧
          t = u.issue (.mmWaveConfig u.ctx.gCtrlHandle u.ctx.mmwCtrlCfg) := by
  unfold mmwaveConfigSensor
  refine (mmwavePopulateDefaultChirpControlCfg_guarded.bind (h := True)
    fun _ u hu => ?_).guard_congr (and_iff_left trivial)
  exact .bind_run (sysContext_run _) (.bind_run (call_run _ _) (.pure ⟨rfl, u, hu, rfl⟩))

/-- The rest of the start-up, from an open sensor on. -/
theorem OpenPost.guarded {regs : AdcBufRegs} (h : OpenPost p d regs b) :
    Guarded StopsQuietly (do
      exitIf ((← mmwaveConfigSensor p d r) = systemPFailure)
      let _ ← restoreFactoryCal d r
      call .createDpcTask) b (¬ r.mmWaveConfig < 0) fun _ t => InitPost p d r regs t := by
  refine (mmwaveConfigSensor_guarded.bind (h := ¬ r.mmWaveConfig < 0) ?_).guard_congr
    (and_iff_right trivial)
  rintro _ _ ⟨rfl, t, ht, rfl⟩
  refine (Guarded.bind_check (exitIf_guarded ?_ (not_congr failure_of_ite))
    (restoreFactoryCal_guarded.bind (h := True) ?_)).guard_congr ?_
  · exact not_started_issue (ht.quiet h.quiet) rfl
  · exact fun _ u hu => .of_run (call_run _ _) (h.initPost ht hu rfl rfl)
  · rw [and_true, and_true]

theorem freertosInit_guarded (p : Platform) (d : Defines) (r : SdkReturns) (regs : AdcBufRegs) :
    Guarded StopsQuietly (freertosInit p d r) (powerOn regs) (ChecksPass r)
      fun _ t => InitPost p d r regs t := by
  have hsteps : Guarded StopsQuietly (freertosInit p d r) (powerOn regs)
      (r.mmWaveInit ≠ null ∧ r.hwaOpen ≠ null ∧ r.hwaOpenStatus ≠ systemPFailure ∧
        r.rangeProcInit ≠ null ∧ r.rfPwrOnOff = 0 ∧ r.synthTrimValid = 1 ∧
        ¬ r.mmWaveOpen < 0 ∧ ¬ r.mmWaveConfig < 0)
      fun _ t => InitPost p d r regs t := by
    have hoff : ¬ (powerOn regs).Started := by simp [powerOn, Board.Started]
    unfold freertosInit
    refine .bind_run (assign_run _ _) (.bind_run rfl (.bind_check (exitIf_guarded ?_ ?_) ?_))
    · exact not_started_issue hoff rfl
    · exact not_congr failure_of_ite
    refine .bind (hwaOpenHandler_guarded (not_started_issue hoff rfl)) ?_
    rintro _ _ ⟨rfl, rfl⟩
    have hhwa : ¬ ((powerOn regs).issue .mmWaveInit |>.issue .hwaOpen).Started :=
      not_started_issue (not_started_issue hoff rfl) rfl
    refine .bind_check (exitIf_guarded hhwa Iff.rfl) ?_
    refine .bind (rangeProcDpuInit_guarded hhwa) ?_
    rintro _ _ rfl
    refine .bind_run rfl (.bind_run (sysContext_run _) (.bind_run (call_run _ _) ?_))
    have hrf := not_started_issue (not_started_issue hhwa (c := .rangeProcInit r.hwaOpen) rfl)
      (c := .rfPwrOnOff ⟨d.txBitmask.toUInt16, d.rxBitmask.toUInt16, d.miscCtrl.toUInt8⟩) rfl
    refine .bind_check (exitIf_guarded hrf not_not) (.bind_run (call_run _ _) ?_)
    have htrim := not_started_issue hrf (c := .synthTrimValid) rfl
    refine .bind_check (exitIf_guarded htrim not_not) (.bind_run rfl ?_)
    refine .bind_check (exitIf_guarded ?_ (not_congr failure_of_ite)) (OpenPost.guarded ?_)
    · exact not_started_issue htrim rfl
    · exact ⟨rfl, rfl, rfl, rfl, rfl, rfl, rfl, not_started_issue htrim rfl⟩
  refine hsteps.guard_congr ⟨?_, ?_⟩
  · rintro ⟨h1, h2, h3, h4, h5, h6, h7, h8⟩
    exact ⟨h1, h2, h3, h4, h5, h6, h7, h8⟩
  · rintro ⟨h1, h2, h3, h4, h5, h6, h7, h8⟩
    exact ⟨h1, h2, h3, h4, h5, h6, h7, h8⟩

end Posts

end RadarStream
