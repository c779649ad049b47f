import RadarStream.Firmware.FactoryCal
import RadarStream.Firmware.RangeProc
import RadarStream.Library.Checklist

/-!
# The calls of a start-up

A start-up is `freertos_main` with `dpcTask` up to the post of `dpcCfgDone` in its
middle: the one waits for the other. Its functions hand their data on through
`gSysContext`. `startUpItems` says what comes of it: the calls of the SDK, with
arguments that are functions of the macros and of what earlier calls returned, and the
checks between them. `startUp_follows` goes through the program and shows that it
follows this checklist.
-/

namespace RadarStream

open Fw FailStop Checklist

section Arguments

variable (p : Platform) (d : Defines) (r : SdkReturns)

def Defines.channelCfg : ChannelCfg where
  txChCtrlBitMask := d.txBitmask.toUInt16
  rxChCtrlBitMask := d.rxBitmask.toUInt16
  miscCtrl := d.miscCtrl.toUInt8

/-- The control configuration, which is half built when the profile or the chirp
cannot be added. -/
def builtCtrlCfg : CtrlCfg :=
  if r.addProfile = null ∨ r.addChirp = null then
    { (default : CtrlCfg) with profileHandle := r.addProfile }
  else
    { profileHandle := r.addProfile
      frameCfg := d.frameCfg
      tempCtrlBitMask := 0x311 }

/-- The part of `gSysContext` that `restoreFactoryCal` reads. -/
def calContext : SysContext :=
  { (default : SysContext) with
    channelCfg := d.channelCfg
    profileComCfg := d.profileCfg
    profileTimeCfg := d.profileTimeCfg }

def builtStaticCfg (quotient : UInt32) : StaticCfg where
  lowPowerMode := 0
  numTxAntennas := p.numTxAntennas.store (txCount d).toUInt32
  numVirtualAntennas :=
    p.numVirtualAntennas.store ((txCount d).toUInt32 * (rxCount d).toUInt32)
  numRangeBins := p.numRangeBins.store (cliNumRbins p d)
  numChirpsPerFrame := chirpsPerFrame p d
  numDopplerChirpsPerFrame := p.numDopplerChirpsPerFrame.store quotient
  numDopplerChirpsPerProc := p.numDopplerChirpsPerFrame.store quotient
  isBpmEnabled := d.mimoSel = 4
  windowSize := windowSize d
  window := dpuWindow p d
  adcBufData := p.adcBufRdBase
  adcBufDataSize := d.numAdcSamples * (rxCount d).toUInt32 * 2 * 2
  adcBits := 2
  numChirpsPerChirpEvent := 1
  numRxAntennas := (rxCount d).toUInt8.toUInt32
  numAdcSamples := p.numAdcSamples.store d.numAdcSamples
  rxChanOffset := rxChanOffsets p d fun _ => 0
  fftOutputDivShift := 2
  numLastButterflyStagesToScale := 0
  rangeFftSize := p.rangeFftSize.store d.numAdcSamples
  enableMajorMotion := true
  enableMinorMotion := false
  numMinorMotionChirpsPerFrame := 0

def builtRangeProcCfg (quotient : UInt32) : RangeProcCfg where
  staticCfg := builtStaticCfg p d quotient
  radarCubeData := firstBlock (l3Pool p) (radarCubeBytes p d quotient) 4
  radarCubeDataSize := radarCubeBytes p d quotient

end Arguments

section Items

variable (p : Platform) (d : Defines) (r : SdkReturns)

def sensorItems : List (Item SdkCall) :=
  [.call .mmWaveInit, .check (r.mmWaveInit ≠ null),
    .call .hwaOpen, .check (r.hwaOpen ≠ null), .check (r.hwaOpenStatus ≠ systemPFailure),
    .call (.rangeProcInit r.hwaOpen), .check (r.rangeProcInit ≠ null),
    .call (.rfPwrOnOff d.channelCfg), .check (r.rfPwrOnOff = 0),
    .call .synthTrimValid, .check (r.synthTrimValid = 1),
    .call (.mmWaveOpen r.mmWaveInit (mmwavePopulateDefaultOpenCfg p d default)),
    .check (¬ r.mmWaveOpen < 0)]

def profileItems : List (Item SdkCall) :=
  .call (.addProfile r.mmWaveInit d.profileCfg d.profileTimeCfg) ::
    if r.addProfile = null then []
    else [.call (.addChirp r.addProfile (mmwavePopulateDefaultChirpCfg p).1
      (mmwavePopulateDefaultChirpCfg p).2)]

instance : Decidable (ReadAccepted r) := inferInstanceAs (Decidable (_ ∧ _))

def calibrationItems : List (Item SdkCall) :=
  .call (.flashRead r.flashHandle d.flashOffset) ::
    if ReadAccepted r then
      [.call (.factoryCalibConfig r.mmWaveInit (restoredCalCfg d r (calContext d)))]
    else []

def controlItems : List (Item SdkCall) :=
  profileItems p d r ++
    [.call (.mmWaveConfig r.mmWaveInit (builtCtrlCfg d r)), .check (¬ r.mmWaveConfig < 0)] ++
    calibrationItems d r ++ [.call .createDpcTask]

/-- `none` when the division of the chirps traps. -/
def dpuItems : Option UInt32 → List (Item SdkCall)
  | none => [.check false]
  | some quotient =>
      .check (MimoSupported d) ::
        if dpuWindow p d = null then []
        else [.call (.rangeProcConfig r.rangeProcInit (builtRangeProcCfg p d quotient)),
          .check (¬ r.rangeProcConfig < 0)]

def startItems : List (Item SdkCall) :=
  [.call .createSpiTask,
    .call (.mmWaveStart r.mmWaveInit (mmwavePopulateDefaultCalibrationCfg default)
      (mmwavePopulateDefaultStartCfg d default)),
    .check (¬ r.mmWaveStart < 0)]

def startUpItems : List (Item SdkCall) :=
  sensorItems p d r ++ controlItems p d r ++ dpuItems p d r (chirpsPerTx p d) ++ startItems d r

def startUp : Fw PUnit := do
  freertosInit p d r
  dpcConfigure p d r
  freertosStart d r

end Items

section Steps

variable {p : Platform} {d : Defines} {r : SdkReturns} {b t : Board}

theorem exitIf_follows {c : Prop} [Decidable c] {ok : Bool} (hok : ok = true ↔ ¬ c) :
    Follows Board.calls (exitIf c) b [.check ok] fun _ t => t = b :=
  .check hok rfl

theorem assertNot_follows {c : Prop} [Decidable c] {ok : Bool} (hok : ok = true ↔ ¬ c) :
    Follows Board.calls (assertNot c) b [.check ok] fun _ t => t = b :=
  .check hok rfl

/-- What the start-up has put into `gSysContext` when the sensor is open. -/
structure Opened (p : Platform) (d : Defines) (r : SdkReturns) (ctx : SysContext) : Prop where
  gCtrlHandle : ctx.gCtrlHandle = r.mmWaveInit
  dpuHandle : ctx.rangeProcHWADpuHandle = r.rangeProcInit
  txAntennas : ctx.numTxAntennas = txCount d
  rxAntennas : ctx.numRxAntennas = rxCount d
  l3Ram : ctx.l3RamObj.cfg = l3Pool p
  coreLocalRam : ctx.coreLocalRamObj.cfg = coreLocalPool p
  channelCfg : ctx.channelCfg = d.channelCfg
  sensorStartCfg : ctx.sensorStartCfg = default

/-- What `Mmwave_populateDefaultChirpControlCfg` leaves. -/
structure ControlBuilt (d : Defines) (r : SdkReturns) (ctx new : SysContext) : Prop where
  kept : new = { ctx with
    mmwCtrlCfg := new.mmwCtrlCfg
    frameCfg := new.frameCfg
    profileComCfg := new.profileComCfg
    profileTimeCfg := new.profileTimeCfg }
  ctrlCfg : new.mmwCtrlCfg = builtCtrlCfg d r
  rampEndTime : new.profileComCfg.chirpRampEndTime = d.profileCfg.chirpRampEndTime
  timeCfg : new.profileTimeCfg = d.profileTimeCfg

theorem ControlBuilt.opened {ctx new : SysContext} (h : ControlBuilt d r ctx new)
    (hctx : Opened p d r ctx) : Opened p d r new := by
  rw [h.kept]
  exact ⟨hctx.gCtrlHandle, hctx.dpuHandle, hctx.txAntennas, hctx.rxAntennas, hctx.l3Ram,
    hctx.coreLocalRam, hctx.channelCfg, hctx.sensorStartCfg⟩

theorem chirpControl_follows (h : b.ctx.gCtrlHandle = r.mmWaveInit) :
    Follows Board.calls (mmwavePopulateDefaultChirpControlCfg p d r) b (profileItems p d r)
      fun _ t => ControlBuilt d r b.ctx t.ctx := by
  unfold mmwavePopulateDefaultChirpControlCfg profileItems
  rw [← h]
  refine .bind_run (sysContext_run b) rfl (.bind_run (mmwaveADCBufConfig_run _ _ _) rfl ?_)
  refine .bind_run (assign_run _ _) rfl (.bind_run rfl rfl (.bind_run (sysContext_run _) rfl ?_))
  refine .bind_call (call_run _ _) rfl (.bind_run (assign_run _ _) rfl ?_)
  refine .bind_run (sysContext_run _) rfl (.ite (fun hprofile => .pure ?_) fun hprofile => ?_)
  · have hbuilt : builtCtrlCfg d r = _ := if_pos (Or.inl hprofile)
    exact ⟨rfl, hbuilt.symm, rfl, rfl⟩
  refine .bind_call (call_run _ _) rfl ?_
  by_cases hchirp : r.addChirp = null
  · have hbuilt : builtCtrlCfg d r = _ := if_pos (Or.inr hchirp)
    rw [if_pos hchirp]
    exact .pure ⟨rfl, hbuilt.symm, rfl, rfl⟩
  · have hbuilt : builtCtrlCfg d r = _ := if_neg (not_or.mpr ⟨hprofile, hchirp⟩)
    rw [if_neg hchirp]
    exact .of_run (assign_run _ _) rfl ⟨rfl, hbuilt.symm, rfl, rfl⟩

theorem restoredCalCfg_congr {ctx ctx' : SysContext} (hchannel : ctx.channelCfg = ctx'.channelCfg)
    (hramp : ctx.profileComCfg.chirpRampEndTime = ctx'.profileComCfg.chirpRampEndTime)
    (htime : ctx.profileTimeCfg = ctx'.profileTimeCfg) :
    restoredCalCfg d r ctx = restoredCalCfg d r ctx' := by
  rw [restoredCalCfg, restoredCalCfg, factoryCalCfg, factoryCalCfg, hchannel, hramp, htime]

theorem restoreFactoryCal_follows (h : b.ctx.gCtrlHandle = r.mmWaveInit)
    (hcfg : restoredCalCfg d r b.ctx = restoredCalCfg d r (calContext d)) :
    Follows Board.calls (restoreFactoryCal d r) b (calibrationItems d r)
      fun _ t => t.ctx = { b.ctx with fecTxclpcCalCmd := t.ctx.fecTxclpcCalCmd } := by
  unfold calibrationItems
  rw [← h, ← hcfg]
  by_cases haccepted : ReadAccepted r
  · have hrun := restoreFactoryCal_run_of_accepted (d := d) (b := b) haccepted
    have hcalls := calls_calibratedBoard (d := d) (r := r) (b := b)
    rw [if_pos haccepted]
    by_cases hconfig : r.factoryCalibConfig = systemPSuccess
    · rw [if_pos hconfig] at hrun
      exact .of_ok hrun rfl hcalls rfl
    · rw [if_neg hconfig] at hrun
      exact .of_ok hrun rfl hcalls rfl
  · rw [if_neg haccepted]
    exact .of_call (restoreFactoryCal_run_of_rejected haccepted) rfl rfl

theorem hwaOpenHandler_follows :
    Follows Board.calls (hwaOpenHandler r) b [.call .hwaOpen, .check (r.hwaOpen ≠ null)]
      fun a t => a = r.hwaOpenStatus ∧
        t = (b.issue .hwaOpen).assign fun ctx => { ctx with hwaHandle := r.hwaOpen } := by
  unfold hwaOpenHandler
  refine .bind_call (call_run _ _) rfl (.bind_run (assign_run _ _) rfl ?_)
  refine .bind_run (sysContext_run _) rfl (.bind_check (assertNot_follows ?_) (.pure ⟨rfl, rfl⟩))
  exact decide_eq_true_iff

theorem rangeProcDpuInit_follows :
    Follows Board.calls (rangeProcDpuInit r) b
      [.call (.rangeProcInit b.ctx.hwaHandle), .check (r.rangeProcInit ≠ null)]
      fun _ t => t = (b.issue (.rangeProcInit b.ctx.hwaHandle)).assign
        fun ctx => { ctx with rangeProcHWADpuHandle := r.rangeProcInit } := by
  unfold rangeProcDpuInit
  refine .bind_run (sysContext_run _) rfl (.bind_call (call_run _ _) rfl ?_)
  refine .bind_run (assign_run _ _) rfl (.bind_run (sysContext_run _) rfl ?_)
  exact assertNot_follows decide_eq_true_iff

theorem mmwaveConfigSensor_follows (h : Opened p d r b.ctx) :
    Follows Board.calls (mmwaveConfigSensor p d r) b
      (profileItems p d r ++ [.call (.mmWaveConfig r.mmWaveInit (builtCtrlCfg d r))])
      fun a t => a = (if r.mmWaveConfig < 0 then systemPFailure else systemPSuccess) ∧
        ControlBuilt d r b.ctx t.ctx := by
  unfold mmwaveConfigSensor
  refine (chirpControl_follows h.gCtrlHandle).bind rfl fun _ t ht => ?_
  refine .bind_run (sysContext_run _) rfl ?_
  have hhandle := (ht.opened h).gCtrlHandle
  have hctrl := ht.ctrlCfg
  rw [hhandle, hctrl]
  exact .bind_call (call_run _ _) rfl (.pure ⟨rfl, ht⟩)

/-- The start-up from an open sensor on. -/
theorem Opened.control_follows (h : Opened p d r b.ctx) :
    Follows Board.calls (do
      exitIf ((← mmwaveConfigSensor p d r) = systemPFailure)
      let _ ← restoreFactoryCal d r
      call .createDpcTask) b (controlItems p d r) fun _ t => Opened p d r t.ctx := by
  have hitems : controlItems p d r =
      (profileItems p d r ++ [.call (.mmWaveConfig r.mmWaveInit (builtCtrlCfg d r))]) ++
        .check (¬ r.mmWaveConfig < 0) :: (calibrationItems d r ++ [.call .createDpcTask]) := by
    simp [controlItems]
  refine (mmwaveConfigSensor_follows h).bind hitems ?_
  rintro _ t ⟨rfl, ht⟩
  have hopened := ht.opened h
  refine .bind_check (exitIf_follows ?_) ?_
  · exact decide_eq_true_iff.trans (not_congr failure_of_ite.symm)
  refine .bind (restoreFactoryCal_follows hopened.gCtrlHandle ?_) rfl fun _ u hu => ?_
  · exact restoredCalCfg_congr hopened.channelCfg ht.rampEndTime ht.timeCfg
  · refine .of_call (call_run _ _) rfl ?_
    rw [Board.issue_ctx, hu]
    exact ⟨hopened.gCtrlHandle, hopened.dpuHandle, hopened.txAntennas, hopened.rxAntennas,
      hopened.l3Ram, hopened.coreLocalRam, hopened.channelCfg, hopened.sensorStartCfg⟩

theorem freertosInit_follows (regs : AdcBufRegs) :
    Follows Board.calls (freertosInit p d r) (powerOn regs)
      (sensorItems p d r ++ controlItems p d r) fun _ t => Opened p d r t.ctx := by
  unfold freertosInit
  refine .bind_run (assign_run _ _) rfl (.bind_call rfl rfl (.bind_check (exitIf_follows ?_) ?_))
  · exact decide_eq_true_iff.trans (not_congr failure_of_ite.symm)
  refine hwaOpenHandler_follows.bind rfl ?_
  rintro _ _ ⟨rfl, rfl⟩
  refine .bind_check (exitIf_follows decide_eq_true_iff) ?_
  refine rangeProcDpuInit_follows.bind rfl ?_
  rintro _ _ rfl
  refine .bind_run rfl rfl (.bind_run (sysContext_run _) rfl (.bind_call (call_run _ _) rfl ?_))
  refine .bind_check (exitIf_follows (by simp)) (.bind_call (call_run _ _) rfl ?_)
  refine .bind_check (exitIf_follows (by simp)) (.bind_call rfl rfl ?_)
  refine .bind_check (exitIf_follows ?_) (Opened.control_follows ?_)
  · exact decide_eq_true_iff.trans (not_congr failure_of_ite.symm)
  · exact ⟨rfl, rfl, rfl, rfl, rfl, rfl, rfl, rfl⟩

/-- The handle and the start configuration that `mmwave_startSensor` finds. -/
def StartReady (r : SdkReturns) (ctx : SysContext) : Prop :=
  ctx.gCtrlHandle = r.mmWaveInit ∧ ctx.sensorStartCfg = default

theorem params_configuredBoard {regs : AdcBufRegs} (h : InitPost p d r regs b) (q : UInt32) :
    (configuredBoard p d q b).ctx.params = builtStaticCfg p d q := by
  simp only [configuredBoard, windowBoard, countsBoard, Board.assign_ctx, Board.issue_ctx,
    SysContext.setRadarCube, SysContext.setAdcBuf, SysContext.setWindow, SysContext.setBpm,
    SysContext.setDopplerChirps, SysContext.setCounts, SysContext.setParams, SysContext.params,
    h.txAntennas, h.rxAntennas, firstBlock_of_reset, h.coreLocalRam, builtStaticCfg, txCount,
    rxCount, chirpsPerFrame, dpuWindow, coreLocalPool]
  rfl

theorem rangeProcDpuCfg_configuredBoard {regs : AdcBufRegs} (h : InitPost p d r regs b)
    (q : UInt32) : (configuredBoard p d q b).ctx.rangeProcDpuCfg = builtRangeProcCfg p d q := by
  have ht := configured_configuredBoard h q
  have hstatic := params_configuredBoard h q
  have hdata := ht.radarCubeData
  have hsize := ht.radarCubeDataSize
  rw [SysContext.params] at hstatic
  generalize (configuredBoard p d q b).ctx.rangeProcDpuCfg = cfg at hstatic hdata hsize
  rw [builtRangeProcCfg, ← hstatic, ← hdata, ← hsize]

theorem setMimo_follows : Follows Board.calls (setMimo d) b [.check (MimoSupported d)]
    fun _ t => t = b.assign (SysContext.setBpm (d.mimoSel = 4)) := by
  by_cases hmimo : MimoSupported d
  · exact .of_ok (setMimo_run_of_supported hmimo b) (by simp [hmimo]) (by simp) rfl
  · exact .of_error (setMimo_run_of_not_supported hmimo b) (by simp [hmimo]) (by simp)

/-- `RangeProc_config` keeps what `mmwave_startSensor` finds, and the handle of the DPU. -/
theorem Opened.kept (h : Opened p d r b.ctx) (q : UInt32) :
    StartReady r (windowBoard p d q b).ctx ∧ StartReady r (configuredBoard p d q b).ctx ∧
      (configuredBoard p d q b).ctx.rangeProcHWADpuHandle = r.rangeProcInit := by
  simp only [StartReady, configuredBoard, windowBoard, countsBoard, Board.assign_ctx,
    Board.issue_ctx, SysContext.setRadarCube, SysContext.setAdcBuf, SysContext.setWindow,
    SysContext.setBpm, SysContext.setDopplerChirps, SysContext.setCounts, SysContext.setParams,
    h.gCtrlHandle, h.sensorStartCfg, h.dpuHandle, and_self]

theorem rangeProcConfigDpu_follows {regs : AdcBufRegs} (h : Opened p d r b.ctx)
    (hinit : InitPost p d r regs b) (q : UInt32) :
    Follows Board.calls (rangeProcConfigDpu p d r) (windowBoard p d q b)
      [.call (.rangeProcConfig r.rangeProcInit (builtRangeProcCfg p d q)),
        .check (¬ r.rangeProcConfig < 0)] fun _ t => StartReady r t.ctx := by
  have hcalls : (configuredBoard p d q b).calls = (windowBoard p d q b).calls ++
      [.rangeProcConfig r.rangeProcInit (builtRangeProcCfg p d q)] := by
    rw [(configured_configuredBoard hinit q).calls, windowBoard_calls,
      rangeProcDpuCfg_configuredBoard hinit, (h.kept q).2.2]
  have hrun := rangeProcConfigDpu_run (p := p) (d := d) (r := r) (b := b) q
  by_cases hret : r.rangeProcConfig < 0
  · rw [if_pos hret] at hrun
    exact .of_error hrun (by simp [hret]) (by simp [hret, hcalls])
  · rw [if_neg hret] at hrun
    exact .of_ok hrun (by simp [hret]) (by simp [hret, hcalls]) (h.kept q).2.1

theorem dpcConfigure_follows {regs : AdcBufRegs} (h : Opened p d r b.ctx)
    (hinit : InitPost p d r regs b) :
    Follows Board.calls (dpcConfigure p d r) b (dpuItems p d r (chirpsPerTx p d))
      fun _ t => StartReady r t.ctx := by
  have hquotient := countsBoard_quotient hinit
  unfold dpcConfigure rangeProcConfig
  refine .bind_run (assign_run _ _) rfl (.bind_run (assign_run _ _) rfl ?_)
  refine .bind_run (assign_run _ _) rfl (.bind_run (sysContext_run _) rfl ?_)
  cases hq : chirpsPerTx p d with
  | none =>
      refine .of_error (run_bind_of_error (divide_run_of_none (hquotient.trans hq) _)) rfl ?_
      simp [dpuItems]
  | some q =>
      refine .bind_run (divide_run_of_some (hquotient.trans hq) _) rfl ?_
      refine .bind_run (assign_run _ _) rfl (setMimo_follows.bind rfl ?_)
      rintro _ _ rfl
      refine .bind_run (assign_run _ _) rfl (.bind_run (sysContext_run _) rfl ?_)
      change Follows Board.calls (if (windowBoard p d q b).ctx.params.window = null then
        pure ⟨⟩ else rangeProcConfigDpu p d r : Fw PUnit) (windowBoard p d q b) _ _
      have hwindow := windowBoard_window hinit q
      generalize (windowBoard p d q b).ctx.params.window = window at hwindow
      rw [← hwindow]
      exact .ite (fun _ => .pure (h.kept q).1) fun _ => rangeProcConfigDpu_follows h hinit q

theorem freertosStart_follows (h : StartReady r b.ctx) :
    Follows Board.calls (freertosStart d r) b (startItems d r) fun _ _ => True := by
  unfold freertosStart mmwaveStartSensor startItems
  rw [← h.1, ← h.2]
  refine .bind_call (call_run _ _) rfl (.bind_call rfl rfl ?_)
  exact .check (decide_eq_true_iff.trans (not_congr failure_of_ite.symm)) trivial

/-- A start-up follows its checklist. -/
theorem startUp_follows (p : Platform) (d : Defines) (r : SdkReturns) (regs : AdcBufRegs) :
    Follows Board.calls (startUp p d r) (powerOn regs) (startUpItems p d r) fun _ _ => True := by
  have hitems : startUpItems p d r = (sensorItems p d r ++ controlItems p d r) ++
      (dpuItems p d r (chirpsPerTx p d) ++ startItems d r) := by
    simp [startUpItems]
  unfold startUp
  refine ((freertosInit_follows regs).and_of_ok (P := fun _ t => InitPost p d r regs t)
    fun a t hrun => ((freertosInit_guarded p d r regs).of_ok hrun).2).bind hitems ?_
  rintro ⟨⟩ t ⟨hopened, hinit⟩
  refine (dpcConfigure_follows hopened hinit).bind rfl fun _ u hu => ?_
  exact freertosStart_follows hu

end Steps

/-- The object that a call works on. -/
def SdkCall.handle? : SdkCall → Option UInt32
  | .rangeProcInit handle | .mmWaveOpen handle _ | .addProfile handle _ _ | .addChirp handle _ _
  | .mmWaveConfig handle _ | .flashRead handle _ | .factoryCalibConfig handle _
  | .rangeProcConfig handle _ | .mmWaveStart handle _ _ => some handle
  | .mmWaveInit | .hwaOpen | .rfPwrOnOff _ | .synthTrimValid | .createDpcTask | .createSpiTask =>
      none

/-- The call has an object, or reads a flash that is not open: that the flash handle is
`NULL` is only logged. -/
def SdkCall.GivenObject (d : Defines) (r : SdkReturns) (c : SdkCall) : Prop :=
  c.handle? = some null → r.flashHandle = null ∧ c = .flashRead null d.flashOffset

section Handles

variable (p : Platform) (d : Defines) (r : SdkReturns)

theorem handles_of_sensorItems (h : passes (sensorItems p d r) = true) :
    r.mmWaveInit ≠ null ∧ r.rangeProcInit ≠ null := by
  simp only [sensorItems, passes_call, passes_check, passes_nil, Bool.and_eq_true,
    decide_eq_true_eq] at h
  exact ⟨h.1, h.2.2.2.1⟩

theorem handles_sensorItems : ∀ c ∈ performed (sensorItems p d r), c.handle? ≠ some null := by
  simp only [sensorItems, forall_performed_call, forall_performed_check, decide_eq_true_eq]
  refine ⟨by simp [SdkCall.handle?], fun hinit => ⟨by simp [SdkCall.handle?], fun hhwa _ => ?_⟩⟩
  refine ⟨by simpa [SdkCall.handle?] using hhwa, fun _ => ⟨by simp [SdkCall.handle?], fun _ => ?_⟩⟩
  refine ⟨by simp [SdkCall.handle?], fun _ => ⟨by simpa [SdkCall.handle?] using hinit, fun _ => ?_⟩⟩
  exact forall_performed_nil

variable {p d r}

theorem SdkCall.givenObject {c : SdkCall} (h : c.handle? ≠ some null) : c.GivenObject d r :=
  fun hnull => absurd hnull h

theorem handles_calibrationItems (h : r.mmWaveInit ≠ null) :
    ∀ c ∈ performed (calibrationItems d r), c.GivenObject d r := by
  rw [calibrationItems, forall_performed_call]
  refine ⟨fun hnull => ?_, ?_⟩
  · have hflash : r.flashHandle = null := Option.some.inj hnull
    exact ⟨hflash, by rw [hflash]⟩
  · by_cases haccepted : ReadAccepted r
    · rw [if_pos haccepted, forall_performed_call]
      exact ⟨SdkCall.givenObject (by simpa [SdkCall.handle?] using h), forall_performed_nil⟩
    · rw [if_neg haccepted]
      exact forall_performed_nil

theorem handles_controlItems (h : r.mmWaveInit ≠ null) :
    ∀ c ∈ performed (controlItems p d r), c.GivenObject d r := by
  have hprofile : ∀ c ∈ performed (profileItems p d r), c.handle? ≠ some null := by
    by_cases hnull : r.addProfile = null <;>
      simp [profileItems, SdkCall.handle?, h, hnull]
  simp only [controlItems, forall_performed_append, forall_performed_call, forall_performed_check]
  refine ⟨⟨⟨fun c hc => SdkCall.givenObject (hprofile c hc), fun _ => ⟨?_, fun _ => ?_⟩⟩, ?_⟩, ?_⟩
  · exact SdkCall.givenObject (by simpa [SdkCall.handle?] using h)
  · exact forall_performed_nil
  · exact fun _ => handles_calibrationItems h
  · exact fun _ => ⟨SdkCall.givenObject (by simp [SdkCall.handle?]), forall_performed_nil⟩

theorem handles_dpuItems (h : r.rangeProcInit ≠ null) (quotient : Option UInt32) :
    ∀ c ∈ performed (dpuItems p d r quotient), c.handle? ≠ some null := by
  cases quotient with
  | none => simp [dpuItems]
  | some q =>
      rw [dpuItems, forall_performed_check]
      intro _
      by_cases hwindow : dpuWindow p d = null <;> simp [SdkCall.handle?, h, hwindow]

theorem handles_startItems (h : r.mmWaveInit ≠ null) :
    ∀ c ∈ performed (startItems d r), c.handle? ≠ some null := by
  simp [startItems, SdkCall.handle?, h]

/-- The checks stand between the calls that return handles and those that use them. -/
theorem handles_startUpItems : ∀ c ∈ performed (startUpItems p d r), c.GivenObject d r := by
  simp only [startUpItems, forall_performed_append, passes_append, Bool.and_eq_true]
  refine ⟨⟨⟨fun c hc => ?_, fun hsensor => ?_⟩, fun hsensor c hc => ?_⟩, fun hsensor c hc => ?_⟩
  · exact SdkCall.givenObject (handles_sensorItems p d r c hc)
  · exact handles_controlItems (handles_of_sensorItems p d r hsensor).1
  · exact SdkCall.givenObject
      (handles_dpuItems (handles_of_sensorItems p d r hsensor.1).2 _ c hc)
  · exact SdkCall.givenObject
      (handles_startItems (handles_of_sensorItems p d r hsensor.1.1).1 c hc)

end Handles

theorem calls_startUp (p : Platform) (d : Defines) (r : SdkReturns) (regs : AdcBufRegs) :
    (endBoard ((startUp p d r).run (powerOn regs))).calls = performed (startUpItems p d r) := by
  have hfollows := startUp_follows p d r regs
  cases hrun : (startUp p d r).run (powerOn regs) with
  | ok a t => exact (Ends.of_ok hfollows hrun).2.1
  | error e t => exact (Ends.of_error hfollows hrun).2

/-- The calls of a start-up, for all results of these calls: they are those of the
checklist up to the first check that fails, the start-up gets to its end when none
does, and no call works on `NULL` but the read of a flash that is not open. -/
theorem startUp_calls (p : Platform) (d : Defines) (r : SdkReturns) (regs : AdcBufRegs) :
    let res := (startUp p d r).run (powerOn regs)
    (endBoard res).calls = performed (startUpItems p d r) ∧
      ((∃ t, res = .ok ⟨⟩ t) ↔ passes (startUpItems p d r) = true) ∧
      ∀ c ∈ (endBoard res).calls, c.GivenObject d r := by
  have hfollows := startUp_follows p d r regs
  refine ⟨calls_startUp p d r regs, ⟨?_, ?_⟩, ?_⟩
  · rintro ⟨t, hrun⟩
    exact (Ends.of_ok hfollows hrun).1
  · intro hpasses
    obtain ⟨a, t, hrun⟩ := hfollows.returns_iff.mpr hpasses
    exact ⟨t, hrun⟩
  · rw [calls_startUp p d r regs]
    exact handles_startUpItems

end RadarStream
