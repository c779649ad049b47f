import RadarStream.Firmware.Context

/-!
# Bringing up the sensor

The functions of `mmwave_basic.c`, `mmwave_control_config.c` and `factory_cal.c`
in the order in which `freertos_main` gets to them, under their names in camel
case. A function that fills a structure of its caller returns it; one that works
on `gSysContext` assigns to it. `r` has what the calls of the SDK return.
-/

namespace RadarStream

open Fw

variable (p : Platform) (d : Defines) (r : SdkReturns)

def mempoolInit : Fw PUnit :=
  assign fun ctx => { ctx with
    l3RamObj := { ctx.l3RamObj with cfg := ⟨p.gMmwL3, l3MemSize⟩ }
    coreLocalRamObj := { ctx.coreLocalRamObj with cfg := ⟨p.gMmwCoreLocMem, coreLocalMemSize⟩ } }

def hwaOpenHandler : Fw Int32 := do
  call .hwaOpen
  assign fun ctx => { ctx with hwaHandle := r.hwaOpen }
  let ctx ← sysContext
  assertNot (ctx.hwaHandle = null)
  return r.hwaOpenStatus

def mmwaveInitSensor : Fw Int32 := do
  call .mmWaveInit
  assign fun ctx => { ctx with gCtrlHandle := r.mmWaveInit }
  let ctx ← sysContext
  return if ctx.gCtrlHandle = null then systemPFailure else systemPSuccess

def rangeProcDpuInit : Fw PUnit := do
  let ctx ← sysContext
  call (.rangeProcInit ctx.hwaHandle)
  assign fun ctx => { ctx with rangeProcHWADpuHandle := r.rangeProcInit }
  let ctx ← sysContext
  assertNot (ctx.rangeProcHWADpuHandle = null)

/-- The loops that count the enabled antennas among the first `n` bits of a mask. -/
def countEnabled (mask : UInt16) (n : ℕ) : UInt16 :=
  (List.range n).foldl (fun count i => if mask.toNat.testBit i then count + 1 else count) 0

def mmWavePopulateChannelCfg : Fw PUnit := do
  assign fun ctx => { ctx with channelCfg :=
    { txChCtrlBitMask := d.txBitmask.toUInt16
      rxChCtrlBitMask := d.rxBitmask.toUInt16
      miscCtrl := d.miscCtrl.toUInt8 } }
  assign fun ctx => { ctx with
    numTxAntennas := countEnabled ctx.channelCfg.txChCtrlBitMask sysCommonNumTxAntennas
    numRxAntennas := countEnabled ctx.channelCfg.rxChCtrlBitMask sysCommonNumRxChannel }

def mmwavePopulateDefaultOpenCfg (openCfg : OpenCfg) : OpenCfg :=
  { openCfg with
    useRunTimeCalib := false
    useCustomCalibration := false
    runTxCLPCCalib := false
    customCalibrationEnableMask := 0
    rdifEnable := p.rdifDis
    rdifSampleCount := d.numAdcSamples.toUInt16 }

def mmwaveOpenSensor : Fw Int32 := do
  assign fun ctx => { ctx with mmwOpenCfg := mmwavePopulateDefaultOpenCfg p d ctx.mmwOpenCfg }
  let ctx ← sysContext
  call (.mmWaveOpen ctx.gCtrlHandle ctx.mmwOpenCfg)
  return if r.mmWaveOpen < 0 then systemPFailure else systemPSuccess

/-- `Mmwave_EnChannelSetOffset`. The three channels of the switch differ in the
fields they set only. -/
def mmwaveEnChannelSetOffset (channel : ℕ) (offset : UInt16) : Fw PUnit :=
  if channel < sysCommonNumRxChannel then
    modify fun b => { b with adcBuf :=
      { rxEn := Function.update b.adcBuf.rxEn channel true
        addr := Function.update b.adcBuf.addr channel (offset.toUInt32 >>> 4) } }
  else throw .assertion

/-- The loop of `Mmwave_ADCBufConfig` over the channels that are left. -/
def adcBufLoop (rxChannelEn : UInt16) (chanDataSize : UInt32) : List ℕ → UInt16 → Fw PUnit
  | [], _ => return
  | channel :: channels, offset => do
      if rxChannelEn.toNat.testBit channel then
        mmwaveEnChannelSetOffset channel offset
        adcBufLoop rxChannelEn chanDataSize channels (offset + chanDataSize.toUInt16)
      else adcBufLoop rxChannelEn chanDataSize channels offset

def AdcBufRegs.disable (regs : AdcBufRegs) : AdcBufRegs :=
  { regs with rxEn := fun _ => false }

def mmwaveADCBufConfig (rxChannelEn : UInt16) (chanDataSize : UInt32) : Fw PUnit := do
  modify fun b => { b with adcBuf := b.adcBuf.disable }
  adcBufLoop rxChannelEn chanDataSize (List.range sysCommonNumRxChannel) 0

/-- `h_CrdNSlopeMag` of the profile. -/
def crdNSlopeMag (chirpRampEndTime chirpIdleTime : UInt16) : UInt16 :=
  let scale : ℚ := 65536 / (3 * 100 * 100)
  let rfBandwidth : ℚ := chirpRampEndTime.toNat / 10 * d.chirpSlope
  let rampDownTime : ℚ := min (chirpIdleTime.toNat / 10 - 1) 6
  toU16 |scale * rfBandwidth / rampDownTime + 1 / 2|

/-- The profile fields of `gSysContext` that `Mmwave_populateDefaultProfileCfg`
sets from the macros. -/
def SysContext.setProfile (ctx : SysContext) : SysContext :=
  { ctx with
    profileComCfg := { ctx.profileComCfg with
      digOutputSampRate := d.digOutSamplingRate.toUInt8
      digOutputBitsSel := d.digOutBitsSel.toUInt8
      dfeFirSel := d.dfeFirSel.toUInt8
      numOfAdcSamples := d.numAdcSamples.toUInt16
      chirpTxMimoPatSel := d.mimoSel.toUInt8
      miscSettings := 0
      hpfFastInitDuration := 15
      chirpRampEndTime := toU16 d.cliChirpRampEndTime
      chirpRxHpfSel := d.chirpRxHpfSel.toUInt8 }
    profileTimeCfg := { ctx.profileTimeCfg with
      chirpIdleTime := toU16 d.cliChirpIdleTime
      chirpAdcStartTime := d.cliChirpAdcStartTime.toUInt16
      chirpTxStartTime := toI16 d.cliChirpTxStartTime
      chirpRfFreqSlope := toI16 d.chirpSlope
      chirpRfFreqStart := toU32 d.cliChirpStartFreq
      chirpTxEnSel := d.txBitmask.toUInt16
      chirpTxBpmEnSel := 0 } }

/-- The two slopes that it computes from them. -/
def SysContext.setSlopes (ctx : SysContext) : SysContext :=
  { ctx with
    profileComCfg := { ctx.profileComCfg with
      crdNSlopeMag :=
        crdNSlopeMag d ctx.profileComCfg.chirpRampEndTime ctx.profileTimeCfg.chirpIdleTime }
    profileTimeCfg := { ctx.profileTimeCfg with
      chirpRfFreqSlope := toI16 d.cliChirpFreqSlope } }

def mmwavePopulateDefaultProfileCfg : Fw (ProfileComCfg × ProfileTimeCfg) := do
  assign (SysContext.setProfile d)
  assign (SysContext.setSlopes d)
  let ctx ← sysContext
  return ({ ctx.profileComCfg with vcoMultiChipMode := 0 }, ctx.profileTimeCfg)

def mmwavePopulateDefaultChirpCfg : PerChirpCfg × PerChirpCtrl :=
  ({ paramArrayLen := fun _ => 4, paramRptCount := fun _ => 1 },
    { paramArrayStartAdd := p.perChirpLut, perChirpParamCtrl := p.perChirpCtrlMax })

/-- The frame fields of `gSysContext`, and the control configuration cleared. -/
def SysContext.setFrame (ctx : SysContext) : SysContext :=
  { ctx with
    mmwCtrlCfg := default
    frameCfg := { ctx.frameCfg with
      numOfChirpsInBurst := d.numChirpsPerBurst.toUInt16
      numOfChirpsAccum := d.numChirpsAccum.toUInt8
      burstPeriodicity := toU32 d.cliWBurstPeriod
      numOfBurstsInFrame := d.numBurstsPerFrame.toUInt16
      framePeriodicity := toU32 d.cliFramePeriod
      numOfFrames := d.numFrames.toUInt16 } }

def SysContext.setProfileHandle (handle : UInt32) (ctx : SysContext) : SysContext :=
  { ctx with mmwCtrlCfg := { ctx.mmwCtrlCfg with profileHandle := handle } }

def SysContext.setCtrlFrame (ctx : SysContext) : SysContext :=
  { ctx with mmwCtrlCfg := { ctx.mmwCtrlCfg with
      frameCfg := { ctx.frameCfg with frameEvent0TimeCfg := 0, frameEvent1TimeCfg := 0 }
      tempCtrlBitMask := 0x311 } }

/-- `Mmwave_populateDefaultChirpControlCfg`, on the control configuration in
`gSysContext`. It returns early, and `void`, when a profile or a chirp cannot be
added. -/
def mmwavePopulateDefaultChirpControlCfg : Fw PUnit := do
  let ctx ← sysContext
  mmwaveADCBufConfig ctx.channelCfg.rxChCtrlBitMask
    (ctx.profileComCfg.numOfAdcSamples.toUInt32 * 2)
  assign (SysContext.setFrame d)
  let (profileCfg, profileTimeCfg) ← mmwavePopulateDefaultProfileCfg d
  let ctx ← sysContext
  call (.addProfile ctx.gCtrlHandle profileCfg profileTimeCfg)
  assign (SysContext.setProfileHandle r.addProfile)
  let ctx ← sysContext
  if ctx.mmwCtrlCfg.profileHandle = null then return
  let (chirpCfg, chirpCtrl) := mmwavePopulateDefaultChirpCfg p
  call (.addChirp ctx.mmwCtrlCfg.profileHandle chirpCfg chirpCtrl)
  if r.addChirp = null then return
  assign SysContext.setCtrlFrame

def mmwaveConfigSensor : Fw Int32 := do
  mmwavePopulateDefaultChirpControlCfg p d r
  let ctx ← sysContext
  call (.mmWaveConfig ctx.gCtrlHandle ctx.mmwCtrlCfg)
  return if r.mmWaveConfig < 0 then systemPFailure else systemPSuccess

/-- The configuration `restoreFactoryCal` builds before it reads the flash. -/
def factoryCalCfg (ctx : SysContext) : CalibCfg :=
  let cfg : CalibCfg := { (default : CalibCfg) with
    isFactoryCalEnabled := true
    calCtrlBitMask := 0xCE
    miscCalCtrl := 0
    calRxGainSel := d.rxGain.toUInt8
    calTxBackOffSel0 := d.cliFaccalcfgTxBackoffSel.toUInt8
    calTxBackOffSel1 := d.cliFaccalcfgTxBackoffSel.toUInt8
    calRfSlope := 0x4D
    calRfFreq := toU16 (ctx.profileTimeCfg.chirpRfFreqStart.toNat +
      d.chirpSlope * 256 / 300 * (ctx.profileComCfg.chirpRampEndTime.toNat / 10) / 2)
    ptrAteCalibration := null
    isATECalibEfused := true }
  if ctx.channelCfg.txChCtrlBitMask = 0x3 then
    { cfg with txPwrCalTxEnaMask0 := 0x3, txPwrCalTxEnaMask1 := 0x1 }
  else if ctx.channelCfg.txChCtrlBitMask = 0x1 then
    { cfg with txPwrCalTxEnaMask0 := 0x1, txPwrCalTxEnaMask1 := 0x1 }
  else if ctx.channelCfg.txChCtrlBitMask = 0x2 then
    { cfg with txPwrCalTxEnaMask0 := 0x2, txPwrCalTxEnaMask1 := 0x2 }
  else cfg

def restoreFactoryCal : Fw Int32 := do
  let ctx ← sysContext
  let cfg := factoryCalCfg d ctx
  call (.flashRead r.flashHandle d.flashOffset)
  if r.flashRead = systemPFailure then return -1
  if r.calibData.magic ≠ calibStoreMagic then return -1
  let cfg := { cfg with
    factoryCalibData := some r.calibData.calibData
    isFactoryCalEnabled := false }
  call (.factoryCalibConfig ctx.gCtrlHandle cfg)
  if r.factoryCalibConfig ≠ systemPSuccess then return -1
  assign fun ctx => { ctx with fecTxclpcCalCmd :=
    { calMode := 0
      calTxBackOffSel0 := cfg.calTxBackOffSel0
      calTxBackOffSel1 := cfg.calTxBackOffSel1
      calRfFreq := cfg.calRfFreq
      calRfSlope := cfg.calRfSlope
      txPwrCalTxEnaMask0 := cfg.txPwrCalTxEnaMask0
      txPwrCalTxEnaMask1 := cfg.txPwrCalTxEnaMask1 } }
  return r.factoryCalibConfig

def mmwavePopulateDefaultCalibrationCfg (cfg : CalibrationCfg) : CalibrationCfg :=
  { cfg with
    enableCalibration := false
    enablePeriodicity := false
    periodicTimeInFrames := 10 }

def mmwavePopulateDefaultStartCfg (cfg : StrtCfg) : StrtCfg :=
  { cfg with
    frameTrigMode := d.frmTrig.toUInt8
    chirpStartSigLbEn := d.lbEn.toUInt8
    frameLivMonEn := d.monEn.toUInt8
    frameTrigTimerVal := d.trigTimer }

def mmwaveStartSensor : Fw Int32 := do
  let calibrationCfg := mmwavePopulateDefaultCalibrationCfg default
  assign fun ctx => { ctx with
    sensorStartCfg := mmwavePopulateDefaultStartCfg d ctx.sensorStartCfg }
  let ctx ← sysContext
  call (.mmWaveStart ctx.gCtrlHandle calibrationCfg ctx.sensorStartCfg)
  return if r.mmWaveStart < 0 then systemPFailure else systemPSuccess

end RadarStream
