import RadarStream.Firmware.Boot
import RadarStream.MemPool.FirstBlock

/-!
# Configuring the range DPU

`RangeProc_config` and what `dpcTask` does before it reports that the DPU is
configured. The function assigns through `params`, a pointer into `gSysContext`,
in the blocks `setCounts` to `setRadarCube`. A field of the DPU's configuration
keeps what fits in its width, and all sizes are computed with words of 32 bits,
so the model carries every wrap. `dpcConfigure_outcome` lists the ways the
function ends and what it leaves on the board in each.
-/

namespace RadarStream

open Fw FailStop

section Programs

variable (p : Platform) (d : Defines) (r : SdkReturns)

def cliNumRbins : UInt32 := p.pow2roundup d.numAdcSamples / 2

/-- What a division gives, or `none` when it traps. -/
def Platform.quotient (a b : UInt32) : Option UInt32 :=
  if b = 0 then p.divByZero a else some (a / b)

def divide (a b : UInt32) : Fw UInt32 :=
  match p.quotient a b with
  | some q => pure q
  | none => throw .divisionTrap

def SysContext.params (ctx : SysContext) : StaticCfg := ctx.rangeProcDpuCfg.staticCfg

def SysContext.setParams (ctx : SysContext) (params : StaticCfg) : SysContext :=
  { ctx with rangeProcDpuCfg := { ctx.rangeProcDpuCfg with staticCfg := params } }

/-- The configuration cleared, and the counts of antennas, bins and chirps. -/
def SysContext.setCounts (ctx : SysContext) : SysContext :=
  { ctx with rangeProcDpuCfg := { (default : RangeProcCfg) with
      staticCfg := { (default : StaticCfg) with
        lowPowerMode := 0
        numTxAntennas := p.numTxAntennas.store ctx.numTxAntennas.toUInt32
        numVirtualAntennas := p.numVirtualAntennas.store
          (ctx.numTxAntennas.toUInt32 * ctx.numRxAntennas.toUInt32)
        numRangeBins := p.numRangeBins.store (cliNumRbins p d)
        numChirpsPerFrame := p.numChirpsPerFrame.store
          (d.numBurstsPerFrame * d.numChirpsPerBurst) } } }

/-- The Doppler chirps, from the quotient of the chirps and the TX antennas. -/
def SysContext.setDopplerChirps (quotient : UInt32) (ctx : SysContext) : SysContext :=
  let numDopplerChirpsPerFrame := p.numDopplerChirpsPerFrame.store quotient
  ctx.setParams { ctx.params with
    numDopplerChirpsPerFrame := numDopplerChirpsPerFrame
    numDopplerChirpsPerProc := numDopplerChirpsPerFrame }

def SysContext.setBpm (isBpmEnabled : Bool) (ctx : SysContext) : SysContext :=
  ctx.setParams { ctx.params with isBpmEnabled := isBpmEnabled }

/-- `windowSize`, half of the symmetric window. -/
def windowSize : UInt32 := 4 * ((d.numAdcSamples + 1) / 2)

def SysContext.setWindow (ctx : SysContext) : SysContext :=
  let (window, coreLocalRamObj) := memPoolAlloc ctx.coreLocalRamObj (windowSize d) 4
  { ctx with coreLocalRamObj := coreLocalRamObj }.setParams
    { ctx.params with
      windowSize := windowSize d
      window := window }

/-- `bytesPerRxChan`, rounded up to a multiple of 16. -/
def bytesPerRxChan : UInt32 := (d.numAdcSamples * 2 + 15) / 16 * 16

/-- The loop that fills `rxChanOffset`. -/
def rxChanOffsets (offsets : ℕ → UInt32) : ℕ → UInt32 :=
  (List.range sysCommonNumRxChannel).foldl (fun offsets index => Function.update offsets index
    (p.rxChanOffset.store (UInt32.ofNat index * bytesPerRxChan d))) offsets

/-- The ADC buffer, the FFT and the motion mode. -/
def SysContext.setAdcBuf (ctx : SysContext) : SysContext :=
  ctx.setParams { ctx.params with
    adcBits := 2
    numChirpsPerChirpEvent := 1
    adcBufData := p.adcBufRdBase
    numRxAntennas := ctx.numRxAntennas.toUInt8.toUInt32
    adcBufDataSize := d.numAdcSamples * ctx.numRxAntennas.toUInt32 * 2 * 2
    numAdcSamples := p.numAdcSamples.store d.numAdcSamples
    fftOutputDivShift := 2
    numLastButterflyStagesToScale := 0
    rangeFftSize := p.rangeFftSize.store d.numAdcSamples
    rxChanOffset := rxChanOffsets p d ctx.params.rxChanOffset
    enableMajorMotion := true
    enableMinorMotion := false
    numMinorMotionChirpsPerFrame := 0 }

def SysContext.setRadarCube (ctx : SysContext) : SysContext :=
  let dataSize := cliNumRbins p d * ctx.params.numVirtualAntennas * 4 *
    ctx.params.numDopplerChirpsPerFrame
  let (data, l3RamObj) := memPoolAlloc ctx.l3RamObj dataSize 4
  { ctx with
    l3RamObj := l3RamObj
    rangeProcDpuCfg := { ctx.rangeProcDpuCfg with
      radarCubeData := data
      radarCubeDataSize := dataSize } }

def setMimo : Fw PUnit :=
  if d.mimoSel = 1 ∨ d.mimoSel = 0 then assign (SysContext.setBpm false)
  else if d.mimoSel = 4 then assign (SysContext.setBpm true)
  else throw (.exit 1)

/-- The part of `RangeProc_config` behind the allocation of the window. -/
def rangeProcConfigDpu : Fw PUnit := do
  assign (SysContext.setAdcBuf p d)
  assign (SysContext.setRadarCube p d)
  let ctx ← sysContext
  call (.rangeProcConfig ctx.rangeProcHWADpuHandle ctx.rangeProcDpuCfg)
  assertNot (r.rangeProcConfig < 0)

def rangeProcConfig : Fw PUnit := do
  assign (SysContext.setCounts p d)
  let ctx ← sysContext
  let quotient ← divide p ctx.params.numChirpsPerFrame ctx.numTxAntennas.toUInt32
  assign (SysContext.setDopplerChirps p quotient)
  setMimo d
  assign (SysContext.setWindow d)
  let ctx ← sysContext
  if ctx.params.window = null then return
  rangeProcConfigDpu p d r

/-- `dpcTask` up to the post of `dpcCfgDone`. -/
def dpcConfigure : Fw PUnit := do
  assign fun ctx => { ctx with l3RamObj := memPoolReset ctx.l3RamObj }
  assign fun ctx => { ctx with coreLocalRamObj := memPoolReset ctx.coreLocalRamObj }
  rangeProcConfig p d r

end Programs

section Values

variable (p : Platform) (d : Defines)

def txCount : UInt16 := countEnabled d.txBitmask.toUInt16 sysCommonNumTxAntennas

def rxCount : UInt16 := countEnabled d.rxBitmask.toUInt16 sysCommonNumRxChannel

/-- The chirps of a frame, as the DPU is told. -/
def chirpsPerFrame : UInt32 :=
  p.numChirpsPerFrame.store (d.numBurstsPerFrame * d.numChirpsPerBurst)

def chirpsPerTx : Option UInt32 := p.quotient (chirpsPerFrame p d) (txCount d).toUInt32

/-- The bytes of the radar cube, for this quotient. -/
def radarCubeBytes (quotient : UInt32) : UInt32 :=
  cliNumRbins p d * p.numVirtualAntennas.store ((txCount d).toUInt32 * (rxCount d).toUInt32) * 4 *
    p.numDopplerChirpsPerFrame.store quotient

def coreLocalPool : MemCfg := ⟨p.gMmwCoreLocMem, coreLocalMemSize⟩

def l3Pool : MemCfg := ⟨p.gMmwL3, l3MemSize⟩

/-- The selectors that `RangeProc_config` accepts. -/
def MimoSupported : Prop := d.mimoSel = 1 ∨ d.mimoSel = 0 ∨ d.mimoSel = 4

instance : Decidable (MimoSupported d) := inferInstanceAs (Decidable (_ ∨ _))

def dpuWindow : UInt32 := firstBlock (coreLocalPool p) (windowSize d) 4

/-- The window ends in the pool, and it ends behind the last address. -/
def WindowFits : Prop :=
  (coreLocalPool p).firstAddr 4 + (windowSize d).toNat ≤ (coreLocalPool p).stop

def WindowWraps : Prop := 2 ^ 32 ≤ (coreLocalPool p).firstAddr 4 + (windowSize d).toNat

instance : Decidable (WindowFits p d) := inferInstanceAs (Decidable (_ ≤ _))

instance : Decidable (WindowWraps p d) := inferInstanceAs (Decidable (_ ≤ _))

theorem roomFor_coreLocalPool : (coreLocalPool p).RoomFor 4 where
  placed := p.coreLocal_placed
  aligned := by decide
  room := show UInt8.toNat 4 ≤ coreLocalMemSize.toNat by decide

theorem roomFor_l3Pool : (l3Pool p).RoomFor 4 where
  placed := p.l3_placed
  aligned := by decide
  room := show UInt8.toNat 4 ≤ l3MemSize.toNat by decide

theorem dpuWindow_ne_null_iff : dpuWindow p d ≠ null ↔ WindowFits p d ∨ WindowWraps p d :=
  (roomFor_coreLocalPool p).firstBlock_ne_null_iff

theorem toNat_countEnabled (mask : UInt16) {n : ℕ} (hn : n < 2 ^ 16) :
    (countEnabled mask n).toNat = (List.range n).countP (mask.toNat.testBit ·) := by
  induction n with
  | zero => rfl
  | succ n ih =>
      have hcount := ih (by omega)
      have hle : (List.range n).countP (mask.toNat.testBit ·) ≤ n := by
        simpa using List.countP_le_length (l := List.range n) (p := (mask.toNat.testBit ·))
      rw [countEnabled] at hcount ⊢
      rw [List.range_succ, List.foldl_append, List.countP_append]
      by_cases hbit : mask.toNat.testBit n
      · simp only [List.foldl_cons, List.foldl_nil, if_pos hbit, List.countP_singleton]
        rw [UInt16.toNat_add, hcount, UInt16.toNat_one, Nat.mod_eq_of_lt (by omega)]
      · simp [hcount, hbit]

theorem toNat_countEnabled_le (mask : UInt16) {n : ℕ} (hn : n < 2 ^ 16) :
    (countEnabled mask n).toNat ≤ n := by
  rw [toNat_countEnabled mask hn]
  simpa using List.countP_le_length (l := List.range n) (p := (mask.toNat.testBit ·))

theorem FieldWidth.toNat_store (w : FieldWidth) (v : UInt32) :
    (w.store v).toNat = v.toNat % 2 ^ w.val := by
  have hle : v.toNat % 2 ^ w.val ≤ v.toNat := Nat.mod_le _ _
  exact UInt32.toNat_ofNat_of_lt' (lt_of_le_of_lt hle v.toNat_lt)

theorem FieldWidth.store_eq_self_iff (w : FieldWidth) (v : UInt32) :
    w.store v = v ↔ v.toNat < 2 ^ w.val := by
  rw [← UInt32.toNat_inj, FieldWidth.toNat_store]
  constructor
  · intro h
    rw [← h]
    exact Nat.mod_lt _ (Nat.two_pow_pos _)
  · exact Nat.mod_eq_of_lt

theorem FieldWidth.store_of_lt (w : FieldWidth) {v : UInt32} (h : v.toNat < 2 ^ 8) :
    w.store v = v := by
  have hpow : 2 ^ 8 ≤ 2 ^ w.val := Nat.pow_le_pow_right (by decide) w.property.1
  exact (w.store_eq_self_iff v).mpr (h.trans_le hpow)

end Values

section Outcome

def DpcStart (p : Platform) (d : Defines) (r : SdkReturns) (regs : AdcBufRegs) (b : Board) :
    Prop :=
  (freertosInit p d r).run (powerOn regs) = .ok ⟨⟩ b

variable {p : Platform} {d : Defines} {r : SdkReturns} {regs : AdcBufRegs} {b t : Board}

theorem DpcStart.post (h : DpcStart p d r regs b) : InitPost p d r regs b :=
  ((freertosInit_guarded p d r regs).of_ok h).2

theorem exists_dpcStart (p : Platform) (d : Defines) (regs : AdcBufRegs) (h : ChecksPass r) :
    ∃ b, DpcStart p d r regs b := by
  obtain ⟨_, b, hrun, _⟩ := (freertosInit_guarded p d r regs).returns h
  exact ⟨b, hrun⟩

/-- `RangeProc_config` left early, without a window. -/
structure LeftEarly (b t : Board) : Prop where
  calls : t.calls = b.calls
  adcBuf : t.adcBuf = b.adcBuf
  radarCubeData : t.ctx.rangeProcDpuCfg.radarCubeData = null
  radarCubeDataSize : t.ctx.rangeProcDpuCfg.radarCubeDataSize = 0
  rxChanOffset : t.ctx.params.rxChanOffset = fun _ => 0
  rangeFftSize : t.ctx.params.rangeFftSize = 0

/-- `RangeProc_config` handed its configuration to the DPU. -/
structure Configured (p : Platform) (d : Defines) (quotient : UInt32) (b t : Board) : Prop where
  calls : t.calls =
    b.calls ++ [.rangeProcConfig t.ctx.rangeProcHWADpuHandle t.ctx.rangeProcDpuCfg]
  adcBuf : t.adcBuf = b.adcBuf
  window : t.ctx.params.window = dpuWindow p d
  windowSize : t.ctx.params.windowSize = windowSize d
  rxChanOffset : t.ctx.params.rxChanOffset = rxChanOffsets p d fun _ => 0
  numVirtualAntennas : t.ctx.params.numVirtualAntennas =
    p.numVirtualAntennas.store ((txCount d).toUInt32 * (rxCount d).toUInt32)
  numRangeBins : t.ctx.params.numRangeBins = p.numRangeBins.store (cliNumRbins p d)
  rangeFftSize : t.ctx.params.rangeFftSize = p.rangeFftSize.store d.numAdcSamples
  numDopplerChirpsPerFrame :
    t.ctx.params.numDopplerChirpsPerFrame = p.numDopplerChirpsPerFrame.store quotient
  radarCubeData : t.ctx.rangeProcDpuCfg.radarCubeData =
    firstBlock (l3Pool p) (radarCubeBytes p d quotient) 4
  radarCubeDataSize : t.ctx.rangeProcDpuCfg.radarCubeDataSize = radarCubeBytes p d quotient

/-- The ways in which `dpcTask` gets, or does not get, to the post of `dpcCfgDone`. -/
inductive DpcOutcome (p : Platform) (d : Defines) (r : SdkReturns) (b : Board) :
    EStateM.Result Stop Board PUnit → Prop
  | trapped {t : Board} (hquotient : chirpsPerTx p d = none) (hcalls : t.calls = b.calls) :
      DpcOutcome p d r b (.error .divisionTrap t)
  | rejected {q : UInt32} {t : Board} (hquotient : chirpsPerTx p d = some q)
      (hmimo : ¬ MimoSupported d) (hcalls : t.calls = b.calls) :
      DpcOutcome p d r b (.error (.exit 1) t)
  | leftEarly {q : UInt32} {t : Board} (hquotient : chirpsPerTx p d = some q)
      (hmimo : MimoSupported d) (hwindow : dpuWindow p d = null) (ht : LeftEarly b t) :
      DpcOutcome p d r b (.ok ⟨⟩ t)
  | asserted {q : UInt32} {t : Board} (hquotient : chirpsPerTx p d = some q)
      (hmimo : MimoSupported d) (hwindow : dpuWindow p d ≠ null) (ht : Configured p d q b t)
      (hret : r.rangeProcConfig < 0) : DpcOutcome p d r b (.error .assertion t)
  | configured {q : UInt32} {t : Board} (hquotient : chirpsPerTx p d = some q)
      (hmimo : MimoSupported d) (hwindow : dpuWindow p d ≠ null) (ht : Configured p d q b t)
      (hret : ¬ r.rangeProcConfig < 0) : DpcOutcome p d r b (.ok ⟨⟩ t)

theorem divide_run_of_some {a c q : UInt32} (h : p.quotient a c = some q) (b : Board) :
    (divide p a c).run b = .ok q b := by
  rw [divide, h]
  rfl

theorem divide_run_of_none {a c : UInt32} (h : p.quotient a c = none) (b : Board) :
    (divide p a c).run b = .error .divisionTrap b := by
  rw [divide, h]
  rfl

theorem setMimo_run_of_supported (h : MimoSupported d) (b : Board) :
    (setMimo d).run b = .ok ⟨⟩ (b.assign (SysContext.setBpm (d.mimoSel = 4))) := by
  rcases h with h | h | h <;> (rw [setMimo, h]; rfl)

theorem setMimo_run_of_not_supported (h : ¬ MimoSupported d) (b : Board) :
    (setMimo d).run b = .error (.exit 1) b := by
  rw [MimoSupported, not_or, not_or] at h
  rw [setMimo, if_neg (fun hsel => hsel.elim h.1 h.2.1), if_neg h.2.2]
  rfl

def countsBoard (p : Platform) (d : Defines) (b : Board) : Board :=
  ((b.assign fun ctx => { ctx with l3RamObj := memPoolReset ctx.l3RamObj }).assign
    fun ctx => { ctx with coreLocalRamObj := memPoolReset ctx.coreLocalRamObj }).assign
      (SysContext.setCounts p d)

def windowBoard (p : Platform) (d : Defines) (quotient : UInt32) (b : Board) : Board :=
  (((countsBoard p d b).assign (SysContext.setDopplerChirps p quotient)).assign
    (SysContext.setBpm (d.mimoSel = 4))).assign (SysContext.setWindow d)

def configuredBoard (p : Platform) (d : Defines) (quotient : UInt32) (b : Board) : Board :=
  let t := ((windowBoard p d quotient b).assign (SysContext.setAdcBuf p d)).assign
    (SysContext.setRadarCube p d)
  t.issue (.rangeProcConfig t.ctx.rangeProcHWADpuHandle t.ctx.rangeProcDpuCfg)

theorem windowBoard_calls (q : UInt32) : (windowBoard p d q b).calls = b.calls := by
  simp [windowBoard, countsBoard]

theorem windowBoard_adcBuf (q : UInt32) : (windowBoard p d q b).adcBuf = b.adcBuf := by
  simp [windowBoard, countsBoard]

theorem countsBoard_quotient (h : InitPost p d r regs b) :
    p.quotient (countsBoard p d b).ctx.params.numChirpsPerFrame
      (countsBoard p d b).ctx.numTxAntennas.toUInt32 = chirpsPerTx p d := by
  rw [show (countsBoard p d b).ctx.numTxAntennas = txCount d from h.txAntennas]
  rfl

theorem windowBoard_window (h : InitPost p d r regs b) (q : UInt32) :
    (windowBoard p d q b).ctx.params.window = dpuWindow p d := by
  change (memPoolAlloc (memPoolReset b.ctx.coreLocalRamObj) (windowSize d) 4).1 = _
  rw [firstBlock_of_reset, h.coreLocalRam]
  rfl

theorem leftEarly_windowBoard (q : UInt32) : LeftEarly b (windowBoard p d q b) :=
  ⟨windowBoard_calls q, windowBoard_adcBuf q, rfl, rfl, rfl, rfl⟩

theorem configured_configuredBoard (h : InitPost p d r regs b) (q : UInt32) :
    Configured p d q b (configuredBoard p d q b) := by
  have hantennas : (configuredBoard p d q b).ctx.params.numVirtualAntennas =
      p.numVirtualAntennas.store ((txCount d).toUInt32 * (rxCount d).toUInt32) := by
    change p.numVirtualAntennas.store
      (b.ctx.numTxAntennas.toUInt32 * b.ctx.numRxAntennas.toUInt32) = _
    rw [h.txAntennas, h.rxAntennas]
    rfl
  have hsize : (configuredBoard p d q b).ctx.rangeProcDpuCfg.radarCubeDataSize =
      radarCubeBytes p d q := by
    change cliNumRbins p d * (configuredBoard p d q b).ctx.params.numVirtualAntennas * 4 *
      p.numDopplerChirpsPerFrame.store q = _
    rw [hantennas]
    rfl
  have hdata : (configuredBoard p d q b).ctx.rangeProcDpuCfg.radarCubeData =
      firstBlock (l3Pool p) (radarCubeBytes p d q) 4 := by
    rw [← hsize]
    change (memPoolAlloc (memPoolReset b.ctx.l3RamObj) _ 4).1 = _
    rw [firstBlock_of_reset, h.l3Ram]
    rfl
  have hcalls : (configuredBoard p d q b).calls = b.calls ++ [.rangeProcConfig
      (configuredBoard p d q b).ctx.rangeProcHWADpuHandle
      (configuredBoard p d q b).ctx.rangeProcDpuCfg] := by
    simp only [configuredBoard, Board.issue_calls, Board.assign_calls, Board.issue_ctx,
      windowBoard_calls]
  exact {
    calls := hcalls
    adcBuf := by simp only [configuredBoard, Board.issue_adcBuf, Board.assign_adcBuf,
      windowBoard_adcBuf]
    window := windowBoard_window h q
    windowSize := rfl
    rxChanOffset := rfl
    numVirtualAntennas := hantennas
    numRangeBins := rfl
    rangeFftSize := rfl
    numDopplerChirpsPerFrame := rfl
    radarCubeData := hdata
    radarCubeDataSize := hsize }

theorem rangeProcConfigDpu_run (q : UInt32) :
    (rangeProcConfigDpu p d r).run (windowBoard p d q b) =
      if r.rangeProcConfig < 0 then .error .assertion (configuredBoard p d q b)
      else .ok ⟨⟩ (configuredBoard p d q b) := by
  rw [rangeProcConfigDpu, run_bind_of_ok (assign_run _ _), run_bind_of_ok (assign_run _ _),
    run_bind_of_ok (sysContext_run _), run_bind_of_ok (call_run _ _)]
  change (assertNot (r.rangeProcConfig < 0)).run (configuredBoard p d q b) = _
  rw [assertNot]
  split <;> rfl

/-- `dpcTask` gets to the post of `dpcCfgDone` past a window, or without one. -/
theorem dpcConfigure_outcome (h : InitPost p d r regs b) :
    DpcOutcome p d r b ((dpcConfigure p d r).run b) := by
  have hquotient := countsBoard_quotient h
  rw [dpcConfigure, run_bind_of_ok (assign_run _ _), run_bind_of_ok (assign_run _ _),
    rangeProcConfig, run_bind_of_ok (assign_run _ _), run_bind_of_ok (sysContext_run _)]
  change DpcOutcome p d r b ((divide p (countsBoard p d b).ctx.params.numChirpsPerFrame
    (countsBoard p d b).ctx.numTxAntennas.toUInt32 >>= _).run (countsBoard p d b))
  cases hq : chirpsPerTx p d with
  | none =>
      rw [run_bind_of_error (divide_run_of_none (hquotient.trans hq) _)]
      exact .trapped hq (by simp [countsBoard])
  | some q =>
      rw [run_bind_of_ok (divide_run_of_some (hquotient.trans hq) _),
        run_bind_of_ok (assign_run _ _)]
      by_cases hmimo : MimoSupported d
      · rw [run_bind_of_ok (setMimo_run_of_supported hmimo _), run_bind_of_ok (assign_run _ _),
          run_bind_of_ok (sysContext_run _)]
        have hwindow := windowBoard_window h q
        change DpcOutcome p d r b ((if (windowBoard p d q b).ctx.params.window = null then
          pure ⟨⟩ else rangeProcConfigDpu p d r : Fw PUnit).run (windowBoard p d q b))
        by_cases hnull : dpuWindow p d = null
        · rw [if_pos (hwindow.trans hnull)]
          exact .leftEarly hq hmimo hnull (leftEarly_windowBoard q)
        · rw [if_neg (fun heq => hnull (hwindow.symm.trans heq)), rangeProcConfigDpu_run]
          by_cases hret : r.rangeProcConfig < 0
          · rw [if_pos hret]
            exact .asserted hq hmimo hnull (configured_configuredBoard h q) hret
          · rw [if_neg hret]
            exact .configured hq hmimo hnull (configured_configuredBoard h q) hret
      · rw [run_bind_of_error (setMimo_run_of_not_supported hmimo _)]
        exact .rejected hq hmimo (by simp [countsBoard])

/-- The calls that a program adds to those made before it. -/
def newCalls (b : Board) (res : EStateM.Result Stop Board PUnit) : List SdkCall :=
  (endBoard res).calls.drop b.calls.length

theorem newCalls_of_calls {res : EStateM.Result Stop Board PUnit} {l : List SdkCall}
    (h : (endBoard res).calls = b.calls ++ l) : newCalls b res = l := by
  rw [newCalls, h, List.drop_left]

/-- What is known when `RangeProc_config` reaches `DPU_RangeProcHWA_config`. -/
theorem configured_of_mem_newCalls (h : InitPost p d r regs b) {handle : UInt32}
    {cfg : RangeProcCfg}
    (hcall : .rangeProcConfig handle cfg ∈ newCalls b ((dpcConfigure p d r).run b)) :
    ∃ q t, chirpsPerTx p d = some q ∧ dpuWindow p d ≠ null ∧ Configured p d q b t ∧
      t.ctx.rangeProcDpuCfg = cfg := by
  have houtcome := dpcConfigure_outcome h
  generalize (dpcConfigure p d r).run b = res at houtcome hcall
  have hnone : ∀ {t : Board}, endBoard res = t → t.calls = b.calls → False := by
    intro t hend ht
    rw [newCalls_of_calls (l := []) (by rw [hend, ht, List.append_nil])] at hcall
    exact List.not_mem_nil hcall
  have hsome : ∀ {q : UInt32} {t : Board}, endBoard res = t → Configured p d q b t →
      t.ctx.rangeProcDpuCfg = cfg := by
    intro q t hend ht
    rw [newCalls_of_calls (by rw [hend, ht.calls])] at hcall
    cases List.mem_singleton.mp hcall
    rfl
  cases houtcome with
  | trapped _ hcalls => exact (hnone rfl hcalls).elim
  | rejected _ _ hcalls => exact (hnone rfl hcalls).elim
  | leftEarly _ _ _ ht => exact (hnone rfl ht.calls).elim
  | asserted hq _ hwindow ht => exact ⟨_, _, hq, hwindow, ht, hsome rfl ht⟩
  | configured hq _ hwindow ht => exact ⟨_, _, hq, hwindow, ht, hsome rfl ht⟩

/-- `RangeProc_config` leaves the configuration when it returns, or hands it to the
DPU. -/
def Builds (p : Platform) (d : Defines) (r : SdkReturns) (b : Board) (cfg : RangeProcCfg) : Prop :=
  (∃ t, (dpcConfigure p d r).run b = .ok ⟨⟩ t ∧ t.ctx.rangeProcDpuCfg = cfg) ∨
    ∃ handle, .rangeProcConfig handle cfg ∈ newCalls b ((dpcConfigure p d r).run b)

/-- A configuration is built past a window, or without one. -/
theorem Builds.leftEarly_or_configured {cfg : RangeProcCfg} (hbuilt : Builds p d r b cfg)
    (h : InitPost p d r regs b) :
    (dpuWindow p d = null ∧ ∃ t, LeftEarly b t ∧ t.ctx.rangeProcDpuCfg = cfg) ∨
      (dpuWindow p d ≠ null ∧ ∃ q t, Configured p d q b t ∧ t.ctx.rangeProcDpuCfg = cfg) := by
  rcases hbuilt with ⟨t, hrun, rfl⟩ | ⟨handle, hcall⟩
  · have houtcome := dpcConfigure_outcome h
    rw [hrun] at houtcome
    cases houtcome with
    | leftEarly _ _ hwindow ht => exact Or.inl ⟨hwindow, t, ht, rfl⟩
    | configured _ _ hwindow ht => exact Or.inr ⟨hwindow, _, t, ht, rfl⟩
  · obtain ⟨q, t, -, hwindow, ht, hcfg⟩ := configured_of_mem_newCalls h hcall
    exact Or.inr ⟨hwindow, q, t, ht, hcfg⟩

theorem mem_newCalls_of_configured {q : UInt32} (hrun : (dpcConfigure p d r).run b = .ok ⟨⟩ t)
    (ht : Configured p d q b t) :
    .rangeProcConfig t.ctx.rangeProcHWADpuHandle t.ctx.rangeProcDpuCfg ∈
      newCalls b ((dpcConfigure p d r).run b) := by
  rw [newCalls_of_calls (by rw [hrun]; exact ht.calls)]
  exact List.mem_singleton.mpr rfl

/-- The DPU is configured when nothing on the way fails. -/
theorem exists_configured (h : InitPost p d r regs b) {q : UInt32} (hq : chirpsPerTx p d = some q)
    (hmimo : MimoSupported d) (hwindow : dpuWindow p d ≠ null) (hret : ¬ r.rangeProcConfig < 0) :
    ∃ t, (dpcConfigure p d r).run b = .ok ⟨⟩ t ∧ Configured p d q b t := by
  have houtcome := dpcConfigure_outcome h
  generalize (dpcConfigure p d r).run b = res at houtcome
  cases houtcome with
  | trapped hnone => exact absurd (hq.symm.trans hnone) (by simp)
  | rejected _ hbad => exact absurd hmimo hbad
  | leftEarly _ _ hnull => exact absurd hnull hwindow
  | asserted _ _ _ _ hbad => exact absurd hbad hret
  | @configured q' t hsome _ _ ht =>
      obtain rfl : q = q' := Option.some.inj (hq.symm.trans hsome)
      exact ⟨t, rfl, ht⟩

theorem checksPass_allSucceed : ChecksPass allSucceed := by
  constructor <;> decide

/-- On the sample device the DPU is configured when no call fails. -/
theorem exists_configured_sample {q : UInt32} (hq : chirpsPerTx samplePlatform d = some q)
    (hmimo : MimoSupported d) (hwindow : dpuWindow samplePlatform d ≠ null) :
    ∃ b t, DpcStart samplePlatform d allSucceed ⟨fun _ => true, fun _ => 7⟩ b ∧
      (dpcConfigure samplePlatform d allSucceed).run b = .ok ⟨⟩ t ∧
      Configured samplePlatform d q b t := by
  obtain ⟨b, hb⟩ := exists_dpcStart samplePlatform d ⟨fun _ => true, fun _ => 7⟩
    checksPass_allSucceed
  obtain ⟨t, hrun, ht⟩ := exists_configured hb.post hq hmimo hwindow (by decide)
  exact ⟨b, t, hb, hrun, ht⟩

end Outcome

end RadarStream
