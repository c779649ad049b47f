import RadarStream.Firmware.Boot

/-!
# Fail-stop of the sensor bring-up

Boot is to start the sensor only when every call on the way succeeded, and to
stop in an `exit` or an assertion otherwise (`BringUpFailStop`). The checks of
`freertos_main` give this for all calls but two: a profile or a chirp that
cannot be added leaves `Mmwave_populateDefaultChirpControlCfg` early, and boot
goes on with a control configuration that is half built.
-/

namespace RadarStream

open Fw FailStop

/-- Every call that brings up the sensor succeeded. A call that returns a handle
succeeds by its handle: beside one, a status of `HWA_open` other than -1 stops
nothing. -/
structure Succeeded (r : SdkReturns) : Prop where
  mmWaveInit : r.mmWaveInit ≠ null
  hwaOpen : r.hwaOpen ≠ null
  rangeProcInit : r.rangeProcInit ≠ null
  rfPwrOnOff : r.rfPwrOnOff = 0
  mmWaveOpen : ¬ r.mmWaveOpen < 0
  addProfile : r.addProfile ≠ null
  addChirp : r.addChirp ≠ null
  mmWaveConfig : ¬ r.mmWaveConfig < 0

/-- The sensor is started only after every call succeeded and with a filled
control configuration; otherwise boot stops in an `exit` or an assertion. -/
def BringUpFailStop (p : Platform) (d : Defines) (r : SdkReturns) (regs : AdcBufRegs)
    (dpcCfgDone : Bool) : Prop :=
  let res := (freertosMain p d r dpcCfgDone).run (powerOn regs)
  ((endBoard res).Started → Succeeded r ∧ ControlFilled d (endBoard res)) ∧
    (¬ Succeeded r → ∃ e b, res = .error e b ∧ e ≠ .divisionTrap)

section Start

variable (d : Defines) (r : SdkReturns) (b : Board)

def startBoard : Board :=
  let b := (b.issue .createSpiTask).assign fun ctx =>
    { ctx with sensorStartCfg := mmwavePopulateDefaultStartCfg d ctx.sensorStartCfg }
  b.issue (.mmWaveStart b.ctx.gCtrlHandle (mmwavePopulateDefaultCalibrationCfg default)
    b.ctx.sensorStartCfg)

theorem freertosStart_run : (freertosStart d r).run b =
    if r.mmWaveStart < 0 then .error (.exit 1) (startBoard d b) else .ok ⟨⟩ (startBoard d b) := by
  have hsensor : (mmwaveStartSensor d r).run (b.issue .createSpiTask) =
      .ok (if r.mmWaveStart < 0 then systemPFailure else systemPSuccess) (startBoard d b) := rfl
  rw [freertosStart, run_bind_of_ok (call_run _ _), run_bind_of_ok hsensor]
  by_cases h : r.mmWaveStart < 0
  · rw [if_pos h, if_pos h]
    rfl
  · rw [if_neg h, if_neg h]
    rfl

theorem started_startBoard : (startBoard d b).Started := ⟨_, mem_issue_self _ _, rfl⟩

theorem endBoard_freertosStart : endBoard ((freertosStart d r).run b) = startBoard d b := by
  rw [freertosStart_run]
  split <;> rfl

end Start

section Main

variable {p : Platform} {d : Defines} {r : SdkReturns} {regs : AdcBufRegs}

theorem freertosMain_run_of_checksPass (p : Platform) (d : Defines) (regs : AdcBufRegs)
    (h : ChecksPass r) (dpcCfgDone : Bool) :
    ∃ t, InitPost p d r regs t ∧ (freertosMain p d r dpcCfgDone).run (powerOn regs) =
      if dpcCfgDone then (freertosStart d r).run t else .ok ⟨⟩ t := by
  obtain ⟨_, t, hrun, ht⟩ := (freertosInit_guarded p d r regs).returns h
  refine ⟨t, ht, ?_⟩
  rw [freertosMain, run_bind_of_ok hrun]
  cases dpcCfgDone <;> rfl

theorem freertosMain_run_of_not_checksPass (p : Platform) (d : Defines) (regs : AdcBufRegs)
    (h : ¬ ChecksPass r) (dpcCfgDone : Bool) :
    ∃ e t, StopsQuietly e t ∧
      (freertosMain p d r dpcCfgDone).run (powerOn regs) = .error e t := by
  obtain ⟨e, t, hrun, ht⟩ := (freertosInit_guarded p d r regs).stops h
  exact ⟨e, t, ht, by rw [freertosMain, run_bind_of_error hrun]⟩

theorem ControlFilled.startBoard {b : Board} (h : ControlFilled d b) :
    ControlFilled d (startBoard d b) :=
  h.mono rfl fun _ hc => mem_issue_of_mem (mem_issue_of_mem hc)

theorem succeeded_of_checksPass (h : ChecksPass r) (hprofile : r.addProfile ≠ null)
    (hchirp : r.addChirp ≠ null) : Succeeded r :=
  ⟨h.mmWaveInit, h.hwaOpen, h.rangeProcInit, h.rfPwrOnOff, h.mmWaveOpen, hprofile, hchirp,
    h.mmWaveConfig⟩

theorem bringUpFailStop_of_not_checksPass (h : ¬ ChecksPass r) (dpcCfgDone : Bool) :
    BringUpFailStop p d r regs dpcCfgDone := by
  obtain ⟨e, t, ⟨he, ht⟩, hrun⟩ := freertosMain_run_of_not_checksPass p d regs h dpcCfgDone
  rw [BringUpFailStop, hrun]
  exact ⟨fun hstart => absurd hstart ht, fun _ => ⟨e, t, rfl, he⟩⟩

theorem bringUpFailStop_of_added (h : ChecksPass r) (hprofile : r.addProfile ≠ null)
    (hchirp : r.addChirp ≠ null) (dpcCfgDone : Bool) :
    BringUpFailStop p d r regs dpcCfgDone := by
  obtain ⟨t, ht, hrun⟩ := freertosMain_run_of_checksPass p d regs h dpcCfgDone
  have hok := succeeded_of_checksPass h hprofile hchirp
  rw [BringUpFailStop, hrun]
  refine ⟨fun hstart => ⟨hok, ?_⟩, fun hbad => absurd hok hbad⟩
  cases dpcCfgDone with
  | false => exact ht.filled hprofile hchirp
  | true =>
      rw [if_pos rfl, endBoard_freertosStart]
      exact (ht.filled hprofile hchirp).startBoard

theorem not_bringUpFailStop (h : ChecksPass r) (hbad : ¬ Succeeded r) (dpcCfgDone : Bool) :
    ¬ BringUpFailStop p d r regs dpcCfgDone := by
  obtain ⟨t, ht, hrun⟩ := freertosMain_run_of_checksPass p d regs h dpcCfgDone
  rw [BringUpFailStop, hrun]
  rintro ⟨hstart, hstop⟩
  cases dpcCfgDone with
  | false =>
      obtain ⟨e, b, herror, _⟩ := hstop hbad
      cases herror
  | true =>
      refine hbad (hstart ?_).1
      rw [if_pos rfl, endBoard_freertosStart]
      exact started_startBoard d t

end Main

/-- Bring-up is fail-stop exactly when profile and chirp are added or a check
stops boot. -/
theorem bringUpFailStop_iff (p : Platform) (d : Defines) (r : SdkReturns) (regs : AdcBufRegs)
    (dpcCfgDone : Bool) :
    BringUpFailStop p d r regs dpcCfgDone ↔
      (r.addProfile ≠ null ∧ r.addChirp ≠ null) ∨ ¬ ChecksPass r := by
  constructor
  · intro h
    by_contra hcond
    rw [not_or, not_not] at hcond
    obtain ⟨hadded, hpass⟩ := hcond
    exact not_bringUpFailStop hpass (fun hok => hadded ⟨hok.addProfile, hok.addChirp⟩)
      dpcCfgDone h
  · rintro (⟨hprofile, hchirp⟩ | hfail)
    · by_cases hpass : ChecksPass r
      · exact bringUpFailStop_of_added hpass hprofile hchirp dpcCfgDone
      · exact bringUpFailStop_of_not_checksPass hpass dpcCfgDone
    · exact bringUpFailStop_of_not_checksPass hfail dpcCfgDone

/-- A run in which the profile cannot be added and all else succeeds. -/
def profileNotAdded : SdkReturns := { allSucceed with addProfile := null }

theorem not_bringUpFailStop_profileNotAdded :
    ¬ BringUpFailStop samplePlatform defaultDefines profileNotAdded
      ⟨fun _ => false, fun _ => 0⟩ true := by
  refine not_bringUpFailStop ?_ (fun h => h.addProfile rfl) true
  constructor <;> decide

end RadarStream
