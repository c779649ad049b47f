import RadarStream.Library.Conversion
import RadarStream.MemPool.Basic

/-!
# The firmware's data

`Defines` is what the macros of `defines.h` stand for, `SysContext` is
`gSysContext`, and `Board` adds the registers of the ADC buffer and the calls of
the SDK so far. What the SDK brings along is in two records: `Platform` has what
is fixed by the device and the link (helper functions, widths of fields, where
the pools lie), `SdkReturns` what the calls return in one run. A function of the
firmware is a program `Fw` on the board that may stop in an `exit`, in
`DebugP_assert(0)` or in a division by zero that traps.

A macro `CLI_…` that the header computes is the function `cli…` of `Defines`;
two macros that the header defines as one value of the input file are one field.
The structures of `MMWave_` and `Mmw_` keep their name without that prefix. Those
of `T_RL_API_` are `ChannelCfg` (`FECSS_RF_PWR_CFG_CMD`), `ProfileComCfg` and
`ProfileTimeCfg` (`SENS_CHIRP_PROF_COMN_CFG` and `_TIME_CFG`), `PerChirpCfg`,
`PerChirpCtrl`, `FrameCfg` and `TxClpcCalCmd` (`FECSS_RUNTIME_TX_CLPC_CAL_CMD`);
`StaticCfg` and `RangeProcCfg` are those of `DPU_RangeProcHWA`. The prefix of a
field gives its type: `c` for 8, `h` for 16 and `w` for 32 bits, with `x` in
front when signed. The default of a record is the one of zero bytes, which
`memset` and the start of the program give.

Macros with a decimal point are read as exact rationals, and a conversion to an
integer type cuts off the fraction. The compiler computes them in `float` or `double`:
where that arithmetic rounds below an integer that the exact value reaches, as with a
frame period of 33.3, the code keeps one less than the model.
-/

namespace RadarStream

open Conversion (truncate)

/-- The values behind the macros of `defines.h`, as in the input file. -/
structure Defines where
  numChirpsPerBurst : UInt32
  numChirpsAccum : UInt32
  burstPeriod : ℚ
  numBurstsPerFrame : UInt32
  framePeriod : ℚ
  numFrames : UInt32
  chirpIdleTime : ℚ
  chirpAdcSkipSamples : UInt32
  chirpTxStartTime : ℚ
  chirpSlope : ℚ
  startFreq : ℚ
  rxBitmask : UInt32
  txBitmask : UInt32
  miscCtrl : UInt32
  numAdcSamples : UInt32
  digOutSamplingRate : UInt32
  digOutBitsSel : UInt32
  dfeFirSel : UInt32
  mimoSel : UInt32
  chirpRampEndTime : ℚ
  chirpRxHpfSel : UInt32
  rxGain : UInt32
  txBackoff : UInt32
  flashOffset : UInt32
  frmTrig : UInt32
  lbEn : UInt32
  monEn : UInt32
  trigTimer : UInt32

/-- The `defines.h` of the repository, made from `default.cfg`. -/
def defaultDefines : Defines where
  numChirpsPerBurst := 2
  numChirpsAccum := 0
  burstPeriod := 403
  numBurstsPerFrame := 64
  framePeriod := 100
  numFrames := 0
  chirpIdleTime := 6
  chirpAdcSkipSamples := 28
  chirpTxStartTime := 0
  chirpSlope := 90
  startFreq := 60
  rxBitmask := 7
  txBitmask := 3
  miscCtrl := 0
  numAdcSamples := 128
  digOutSamplingRate := 20
  digOutBitsSel := 0
  dfeFirSel := 0
  mimoSel := 4
  chirpRampEndTime := 30
  chirpRxHpfSel := 0
  rxGain := 40
  txBackoff := 0
  flashOffset := 0x1ff000
  frmTrig := 0
  lbEn := 0
  monEn := 0
  trigTimer := 0

/-! The macros that the header computes; those with a decimal point are exact here, and of
a floating-point type in C. -/

namespace Defines

variable (d : Defines)

def cliWBurstPeriod : ℚ := 10 * d.burstPeriod

def cliFramePeriod : ℚ := d.framePeriod * 40000000 / 1000

def cliChirpIdleTime : ℚ := 10 * d.chirpIdleTime

def cliChirpAdcStartTime : UInt32 := d.chirpAdcSkipSamples <<< 10

def cliChirpTxStartTime : ℚ := 50 * d.chirpTxStartTime

def cliChirpFreqSlope : ℚ := d.chirpSlope * 1048576 / (3 * 100 * 100)

def cliChirpStartFreq : ℚ := d.startFreq * 1000 * 256 / 300

def cliChirpRampEndTime : ℚ := 10 * d.chirpRampEndTime

def cliFaccalcfgTxBackoffSel : UInt32 := d.txBackoff * 2

end Defines

/-- What a conversion to an integer type keeps of a number. -/
def toU16 (q : ℚ) : UInt16 := UInt16.ofInt (truncate q)

def toI16 (q : ℚ) : Int16 := Int16.ofInt (truncate q)

def toU32 (q : ℚ) : UInt32 := UInt32.ofInt (truncate q)

/-- A width in bits of an unsigned field of the SDK's structures. -/
def FieldWidth : Type := { bits : ℕ // 8 ≤ bits ∧ bits ≤ 32 }

/-- What a field of this width keeps of a value. -/
def FieldWidth.store (w : FieldWidth) (v : UInt32) : UInt32 := UInt32.ofNat (v.toNat % 2 ^ w.val)

inductive PerChirpParam where
  | freqStart
  | freqSlope
  | idleTime
  | adcStartTime
  | txStartTime
  | txEnable
  | bpmEnable
deriving DecidableEq

abbrev sysCommonNumRxChannel : ℕ := 3

abbrev sysCommonNumTxAntennas : ℕ := 2

def l3MemSize : UInt32 := 0x40000 + 160 * 1024

def coreLocalMemSize : UInt32 := (8 + 6 + 4 + 2 + 8) * 1024

/-- What the device, the SDK and the linker fix. -/
structure Platform where
  pow2roundup : UInt32 → UInt32
  /-- What a division of this value by zero gives, or `none` when it traps. -/
  divByZero : UInt32 → Option UInt32
  /-- The widths of the fields of `DPU_RangeProcHWA_StaticConfig`. -/
  numTxAntennas : FieldWidth
  numVirtualAntennas : FieldWidth
  numRangeBins : FieldWidth
  numChirpsPerFrame : FieldWidth
  numDopplerChirpsPerFrame : FieldWidth
  numAdcSamples : FieldWidth
  rxChanOffset : FieldWidth
  rangeFftSize : FieldWidth
  /-- Where the linker puts `gMmwL3` and `gMmwCoreLocMem`. -/
  gMmwL3 : UInt32
  gMmwCoreLocMem : UInt32
  l3_placed : MemCfg.Placed ⟨gMmwL3, l3MemSize⟩
  coreLocal_placed : MemCfg.Placed ⟨gMmwCoreLocMem, coreLocalMemSize⟩
  adcBufRdBase : UInt32
  /-- Where the per-chirp tables start, masked with `M_RL_SENS_PER_CHIRP_LUT_ADD_MASK`. -/
  perChirpLut : PerChirpParam → UInt16
  perChirpCtrlMax : UInt16
  rdifDis : UInt8

/-- A device on which a division by zero gives zero, with antenna counts of 8 and
the other fields of 16 bits. -/
def samplePlatform : Platform where
  pow2roundup n := UInt32.ofNat (2 ^ ((List.range 32).countP fun k => 2 ^ k < n.toNat))
  divByZero _ := some 0
  numTxAntennas := ⟨8, by decide⟩
  numVirtualAntennas := ⟨8, by decide⟩
  numRangeBins := ⟨16, by decide⟩
  numChirpsPerFrame := ⟨16, by decide⟩
  numDopplerChirpsPerFrame := ⟨16, by decide⟩
  numAdcSamples := ⟨16, by decide⟩
  rxChanOffset := ⟨16, by decide⟩
  rangeFftSize := ⟨16, by decide⟩
  gMmwL3 := 0x60000000
  gMmwCoreLocMem := 0x22000000
  l3_placed := ⟨by decide, by decide⟩
  coreLocal_placed := ⟨by decide, by decide⟩
  adcBufRdBase := 0x50000000
  perChirpLut _ := 0
  perChirpCtrlMax := 0
  rdifDis := 0

structure ChannelCfg where
  txChCtrlBitMask : UInt16
  rxChCtrlBitMask : UInt16
  miscCtrl : UInt8
deriving DecidableEq, Inhabited

structure ProfileComCfg where
  digOutputSampRate : UInt8
  digOutputBitsSel : UInt8
  dfeFirSel : UInt8
  vcoMultiChipMode : UInt8
  numOfAdcSamples : UInt16
  chirpTxMimoPatSel : UInt8
  miscSettings : UInt8
  hpfFastInitDuration : UInt8
  crdNSlopeMag : UInt16
  chirpRampEndTime : UInt16
  chirpRxHpfSel : UInt8
deriving DecidableEq, Inhabited

structure ProfileTimeCfg where
  chirpIdleTime : UInt16
  chirpAdcStartTime : UInt16
  chirpTxStartTime : Int16
  chirpRfFreqSlope : Int16
  chirpRfFreqStart : UInt32
  chirpTxEnSel : UInt16
  chirpTxBpmEnSel : UInt16
deriving DecidableEq, Inhabited

structure PerChirpCfg where
  paramArrayLen : PerChirpParam → UInt16
  paramRptCount : PerChirpParam → UInt16

structure PerChirpCtrl where
  paramArrayStartAdd : PerChirpParam → UInt16
  perChirpParamCtrl : UInt16

structure FrameCfg where
  numOfChirpsInBurst : UInt16
  numOfChirpsAccum : UInt8
  burstPeriodicity : UInt32
  numOfBurstsInFrame : UInt16
  framePeriodicity : UInt32
  numOfFrames : UInt16
  frameEvent0TimeCfg : UInt32
  frameEvent1TimeCfg : UInt32
deriving DecidableEq, Inhabited

/-- The first frame of `MMWave_CtrlCfg`, the only one used. -/
structure CtrlCfg where
  profileHandle : UInt32
  frameCfg : FrameCfg
  tempCtrlBitMask : UInt16
deriving DecidableEq, Inhabited

structure OpenCfg where
  useRunTimeCalib : Bool
  useCustomCalibration : Bool
  runTxCLPCCalib : Bool
  customCalibrationEnableMask : UInt32
  rdifEnable : UInt8
  rdifSampleCount : UInt16
deriving DecidableEq, Inhabited

structure StrtCfg where
  frameTrigMode : UInt8
  chirpStartSigLbEn : UInt8
  frameLivMonEn : UInt8
  frameTrigTimerVal : UInt32
deriving DecidableEq, Inhabited

structure CalibrationCfg where
  enableCalibration : Bool
  enablePeriodicity : Bool
  periodicTimeInFrames : UInt16
deriving DecidableEq, Inhabited

structure TxClpcCalCmd where
  calMode : UInt8
  calTxBackOffSel0 : UInt8
  calTxBackOffSel1 : UInt8
  calRfFreq : UInt16
  calRfSlope : Int16
  txPwrCalTxEnaMask0 : UInt8
  txPwrCalTxEnaMask1 : UInt8
deriving DecidableEq, Inhabited

/-- `Mmw_calibData`; the calibration data proper is handed on as it is. -/
structure CalibData where
  magic : UInt32
  calibData : List UInt8

def calibStoreMagic : UInt32 := 0x7CB28DF9

/-- `MMWave_calibCfg`, with the command in it and the data it points to. -/
structure CalibCfg where
  isFactoryCalEnabled : Bool
  calCtrlBitMask : UInt16
  miscCalCtrl : UInt8
  calRxGainSel : UInt8
  calTxBackOffSel0 : UInt8
  calTxBackOffSel1 : UInt8
  calRfSlope : Int16
  calRfFreq : UInt16
  txPwrCalTxEnaMask0 : UInt8
  txPwrCalTxEnaMask1 : UInt8
  ptrAteCalibration : UInt32
  isATECalibEfused : Bool
  factoryCalibData : Option (List UInt8)
deriving Inhabited

structure StaticCfg where
  lowPowerMode : UInt32
  numTxAntennas : UInt32
  numVirtualAntennas : UInt32
  numRangeBins : UInt32
  numChirpsPerFrame : UInt32
  numDopplerChirpsPerFrame : UInt32
  numDopplerChirpsPerProc : UInt32
  isBpmEnabled : Bool
  windowSize : UInt32
  window : UInt32
  adcBufData : UInt32
  adcBufDataSize : UInt32
  adcBits : UInt32
  numChirpsPerChirpEvent : UInt32
  numRxAntennas : UInt32
  numAdcSamples : UInt32
  rxChanOffset : ℕ → UInt32
  fftOutputDivShift : UInt32
  numLastButterflyStagesToScale : UInt32
  rangeFftSize : UInt32
  enableMajorMotion : Bool
  enableMinorMotion : Bool
  numMinorMotionChirpsPerFrame : UInt32
deriving Inhabited

/-- `DPU_RangeProcHWA_Config`: the static part, but for the fixed data formats, and the
radar cube of `hwRes`. -/
structure RangeProcCfg where
  staticCfg : StaticCfg
  radarCubeData : UInt32
  radarCubeDataSize : UInt32
deriving Inhabited

structure SysContext where
  numTxAntennas : UInt16
  numRxAntennas : UInt16
  gCtrlHandle : UInt32
  hwaHandle : UInt32
  mmwOpenCfg : OpenCfg
  mmwCtrlCfg : CtrlCfg
  sensorStartCfg : StrtCfg
  l3RamObj : MemPoolObj
  coreLocalRamObj : MemPoolObj
  rangeProcHWADpuHandle : UInt32
  rangeProcDpuCfg : RangeProcCfg
  profileComCfg : ProfileComCfg
  profileTimeCfg : ProfileTimeCfg
  channelCfg : ChannelCfg
  frameCfg : FrameCfg
  fecTxclpcCalCmd : TxClpcCalCmd
deriving Inhabited

/-- The registers of the ADC buffer: which channels are enabled, and `ADCBUFADDRXn`. -/
structure AdcBufRegs where
  rxEn : ℕ → Bool
  addr : ℕ → UInt32

/-- The calls of the SDK that the firmware makes, in the order it makes them. -/
inductive SdkCall where
  | mmWaveInit
  | hwaOpen
  | rangeProcInit (hwaHandle : UInt32)
  | rfPwrOnOff (channelCfg : ChannelCfg)
  | synthTrimValid
  | mmWaveOpen (handle : UInt32) (openCfg : OpenCfg)
  | addProfile (handle : UInt32) (profileCfg : ProfileComCfg) (timeCfg : ProfileTimeCfg)
  | addChirp (profile : UInt32) (chirpCfg : PerChirpCfg) (chirpCtrl : PerChirpCtrl)
  | mmWaveConfig (handle : UInt32) (ctrlCfg : CtrlCfg)
  | flashRead (handle offset : UInt32)
  | factoryCalibConfig (handle : UInt32) (calibCfg : CalibCfg)
  | createDpcTask
  | rangeProcConfig (handle : UInt32) (cfg : RangeProcCfg)
  | createSpiTask
  | mmWaveStart (handle : UInt32) (calibrationCfg : CalibrationCfg) (startCfg : StrtCfg)

/-- What the calls of the SDK return in one run: a handle, a code, or both where
the call has an `errCode` that the firmware looks at. -/
structure SdkReturns where
  mmWaveInit : UInt32
  hwaOpen : UInt32
  hwaOpenStatus : Int32
  rangeProcInit : UInt32
  rfPwrOnOff : Int32
  synthTrimValid : UInt32
  mmWaveOpen : Int32
  addProfile : UInt32
  addChirp : UInt32
  mmWaveConfig : Int32
  /-- `gFlashHandle[0]` behind `Board_driversOpen`, `NULL` when the flash is not open. -/
  flashHandle : UInt32
  flashRead : Int32
  calibData : CalibData
  factoryCalibConfig : Int32
  rangeProcConfig : Int32
  mmWaveStart : Int32

def allSucceed : SdkReturns where
  mmWaveInit := 0x1000
  hwaOpen := 0x1004
  hwaOpenStatus := systemPSuccess
  rangeProcInit := 0x1008
  rfPwrOnOff := 0
  synthTrimValid := 1
  mmWaveOpen := 0
  addProfile := 0x100c
  addChirp := 0x1010
  mmWaveConfig := 0
  flashHandle := 0x1014
  flashRead := systemPSuccess
  calibData := ⟨calibStoreMagic, []⟩
  factoryCalibConfig := 0
  rangeProcConfig := 0
  mmWaveStart := 0

/-- How a program of the firmware stops. -/
inductive Stop where
  | exit (code : Int32)
  | assertion
  | divisionTrap
deriving DecidableEq

structure Board where
  ctx : SysContext
  adcBuf : AdcBufRegs
  calls : List SdkCall

def Board.assign (b : Board) (f : SysContext → SysContext) : Board := { b with ctx := f b.ctx }

def Board.issue (b : Board) (c : SdkCall) : Board := { b with calls := b.calls ++ [c] }

namespace Board

variable (b : Board) (f : SysContext → SysContext) (c : SdkCall)

@[simp] theorem assign_ctx : (b.assign f).ctx = f b.ctx := rfl

@[simp] theorem assign_adcBuf : (b.assign f).adcBuf = b.adcBuf := rfl

@[simp] theorem assign_calls : (b.assign f).calls = b.calls := rfl

@[simp] theorem issue_ctx : (b.issue c).ctx = b.ctx := rfl

@[simp] theorem issue_adcBuf : (b.issue c).adcBuf = b.adcBuf := rfl

@[simp] theorem issue_calls : (b.issue c).calls = b.calls ++ [c] := rfl

end Board

/-- The programs of the firmware. -/
abbrev Fw := EStateM Stop Board

namespace Fw

def exitIf (c : Prop) [Decidable c] : Fw PUnit := if c then throw (.exit 1) else pure ⟨⟩

def assertNot (c : Prop) [Decidable c] : Fw PUnit := if c then throw .assertion else pure ⟨⟩

def sysContext : Fw SysContext := do return (← get).ctx

def assign (f : SysContext → SysContext) : Fw PUnit := modify (Board.assign · f)

def call (c : SdkCall) : Fw PUnit := modify (Board.issue · c)

variable (b : Board)

theorem assign_run (f : SysContext → SysContext) :
    (assign f).run b = .ok ⟨⟩ (b.assign f) := rfl

theorem call_run (c : SdkCall) : (call c).run b = .ok ⟨⟩ (b.issue c) := rfl

theorem sysContext_run : sysContext.run b = .ok b.ctx b := rfl

end Fw

end RadarStream
