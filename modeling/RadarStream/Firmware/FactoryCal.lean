import RadarStream.Firmware.Boot

/-!
# Restoring the factory calibration

What a call of `restoreFactoryCal` does, for every code of `Flash_read`, every
content it leaves in `calibData` and every outcome of
`MMWave_factoryCalibConfig`. A call of the SDK is taken as failed when its code
is not `SystemP_SUCCESS`, but the code of `Flash_read` is compared with
`SystemP_FAILURE` only: after a read that fails with another code, whatever is in
`calibData` is restored if it starts with the magic word.
-/

namespace RadarStream

open Fw FailStop

section Restore

variable (d : Defines) (r : SdkReturns) (b : Board)

/-- The configuration handed to `MMWave_factoryCalibConfig`. -/
def restoredCalCfg (ctx : SysContext) : CalibCfg :=
  { factoryCalCfg d ctx with
    factoryCalibData := some r.calibData.calibData
    isFactoryCalEnabled := false }

def clpcCalCmd (cfg : CalibCfg) : TxClpcCalCmd where
  calMode := 0
  calTxBackOffSel0 := cfg.calTxBackOffSel0
  calTxBackOffSel1 := cfg.calTxBackOffSel1
  calRfFreq := cfg.calRfFreq
  calRfSlope := cfg.calRfSlope
  txPwrCalTxEnaMask0 := cfg.txPwrCalTxEnaMask0
  txPwrCalTxEnaMask1 := cfg.txPwrCalTxEnaMask1

/-- `restoreFactoryCal` goes on with what `Flash_read` left. -/
def ReadAccepted : Prop := r.flashRead ≠ systemPFailure ∧ r.calibData.magic = calibStoreMagic

def readBoard : Board := b.issue (.flashRead r.flashHandle d.flashOffset)

def calibratedBoard : Board :=
  (readBoard d r b).issue (.factoryCalibConfig b.ctx.gCtrlHandle (restoredCalCfg d r b.ctx))

variable {d r b}

theorem restoreFactoryCal_run_of_rejected (h : ¬ ReadAccepted r) :
    (restoreFactoryCal d r).run b = .ok (-1) (readBoard d r b) := by
  rw [restoreFactoryCal, run_bind_of_ok (sysContext_run b), run_bind_of_ok (call_run _ _)]
  by_cases hread : r.flashRead = systemPFailure
  · rw [if_pos hread]
    rfl
  · rw [if_neg hread, if_pos fun hmagic => h ⟨hread, hmagic⟩]
    rfl

theorem restoreFactoryCal_run_of_accepted (h : ReadAccepted r) :
    (restoreFactoryCal d r).run b =
      if r.factoryCalibConfig = systemPSuccess then
        .ok systemPSuccess ((calibratedBoard d r b).assign fun ctx =>
          { ctx with fecTxclpcCalCmd := clpcCalCmd (restoredCalCfg d r b.ctx) })
      else .ok (-1) (calibratedBoard d r b) := by
  rw [restoreFactoryCal, run_bind_of_ok (sysContext_run b), run_bind_of_ok (call_run _ _),
    if_neg h.1, if_neg (not_not.mpr h.2), run_bind_of_ok (call_run _ _)]
  by_cases hconfig : r.factoryCalibConfig = systemPSuccess
  · rw [if_neg (not_not.mpr hconfig), if_pos hconfig, run_bind_of_ok (assign_run _ _), ← hconfig]
    rfl
  · rw [if_pos hconfig, if_neg hconfig]
    rfl

end Restore

/-- The calibration is applied after a good read only, success means that it was
applied, and anything else leaves `gSysContext` as it was. `new` are the calls of
the SDK on the way from `b` to `t`. -/
structure AppliedAtomically (r : SdkReturns) (b : Board) (new : List SdkCall) (res : Int32)
    (t : Board) : Prop where
  applied : (∃ handle cfg, .factoryCalibConfig handle cfg ∈ new) →
    r.flashRead = systemPSuccess ∧ r.calibData.magic = calibStoreMagic
  success : res = systemPSuccess →
    (∃ handle cfg, .factoryCalibConfig handle cfg ∈ new) ∧ r.factoryCalibConfig = systemPSuccess
  unchanged : res ≠ systemPSuccess → t.ctx = b.ctx

def CalibrationAtomic (d : Defines) (r : SdkReturns) (b : Board) : Prop :=
  ∃ res t new, (restoreFactoryCal d r).run b = .ok res t ∧ t.calls = b.calls ++ new ∧
    AppliedAtomically r b new res t

section Atomic

variable {d : Defines} {r : SdkReturns} {b : Board}

theorem calls_calibratedBoard :
    (calibratedBoard d r b).calls = b.calls ++ [.flashRead r.flashHandle d.flashOffset,
      .factoryCalibConfig b.ctx.gCtrlHandle (restoredCalCfg d r b.ctx)] := by
  rw [calibratedBoard, readBoard, Board.issue_calls, Board.issue_calls, List.append_assoc]
  rfl

theorem calibrationAtomic_of_rejected (h : ¬ ReadAccepted r) : CalibrationAtomic d r b := by
  refine ⟨-1, readBoard d r b, _, restoreFactoryCal_run_of_rejected h, rfl, ?_, ?_, fun _ => rfl⟩
  · rintro ⟨handle, cfg, hmem⟩
    cases List.mem_singleton.mp hmem
  · exact fun hres => absurd hres (by decide)

theorem calibrationAtomic_of_accepted (h : ReadAccepted r) (hread : r.flashRead = systemPSuccess) :
    CalibrationAtomic d r b := by
  have hrun := restoreFactoryCal_run_of_accepted (d := d) (b := b) h
  have hgood : r.flashRead = systemPSuccess ∧ r.calibData.magic = calibStoreMagic := ⟨hread, h.2⟩
  by_cases hconfig : r.factoryCalibConfig = systemPSuccess
  · rw [if_pos hconfig] at hrun
    refine ⟨systemPSuccess, _, _, hrun, calls_calibratedBoard, fun _ => hgood, fun _ => ?_, ?_⟩
    · exact ⟨⟨_, _, List.mem_cons_of_mem _ (List.mem_singleton.mpr rfl)⟩, hconfig⟩
    · exact fun hres => absurd rfl hres
  · rw [if_neg hconfig] at hrun
    refine ⟨-1, _, _, hrun, calls_calibratedBoard, fun _ => hgood, ?_, fun _ => rfl⟩
    exact fun hres => absurd hres (by decide)

/-- After a read that failed with another code the calibration is applied. -/
theorem flashRead_eq_success (h : CalibrationAtomic d r b) (haccepted : ReadAccepted r) :
    r.flashRead = systemPSuccess := by
  obtain ⟨res, t, new, hrun, hcalls, hatomic⟩ := h
  have hnew : new = [.flashRead r.flashHandle d.flashOffset,
      .factoryCalibConfig b.ctx.gCtrlHandle (restoredCalCfg d r b.ctx)] := by
    have htcalls : t.calls = (calibratedBoard d r b).calls := by
      rw [restoreFactoryCal_run_of_accepted haccepted] at hrun
      split at hrun
      · cases hrun
        rfl
      · cases hrun
        rfl
    exact List.append_cancel_left (hcalls.symm.trans (htcalls.trans calls_calibratedBoard))
  refine (hatomic.applied ⟨b.ctx.gCtrlHandle, restoredCalCfg d r b.ctx, ?_⟩).1
  rw [hnew]
  exact List.mem_cons_of_mem _ (List.mem_singleton.mpr rfl)

end Atomic

/-- The calibration is restored atomically exactly when the read is good, fails
with the one code that is checked, or leaves no magic word. -/
theorem calibrationAtomic_iff (d : Defines) (r : SdkReturns) (b : Board) :
    CalibrationAtomic d r b ↔ r.flashRead = systemPSuccess ∨ r.flashRead = systemPFailure ∨
      r.calibData.magic ≠ calibStoreMagic := by
  constructor
  · intro h
    by_contra hcond
    rw [not_or, not_or, not_not] at hcond
    obtain ⟨hread, haccepted⟩ := hcond
    exact hread (flashRead_eq_success h haccepted)
  · intro hcond
    by_cases haccepted : ReadAccepted r
    · refine calibrationAtomic_of_accepted haccepted (hcond.resolve_right ?_)
      rintro (hread | hmagic)
      · exact haccepted.1 hread
      · exact hmagic haccepted.2
    · exact calibrationAtomic_of_rejected haccepted

/-- A read that times out and leaves the magic word of an earlier one. -/
def readTimesOut : SdkReturns := { allSucceed with flashRead := -2 }

theorem not_calibrationAtomic_readTimesOut :
    ¬ CalibrationAtomic defaultDefines readTimesOut (powerOn ⟨fun _ => false, fun _ => 0⟩) := by
  intro h
  exact absurd (flashRead_eq_success h ⟨by decide, rfl⟩) (by decide)

end RadarStream
