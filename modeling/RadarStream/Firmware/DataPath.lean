import RadarStream.Firmware.RadarCube
import RadarStream.Tasks.Frames

/-!
# Fail-stop of the data path

`dpcTask` is to trigger the DPU only when the DPU was given a window and a radar
cube that lie in their pools, and to stop otherwise before it reports that the
configuration is done (`DataPathFailStop`). What the tasks do is decided by the
cube that `RangeProc_config` leaves behind: the two models meet in `storedCube`.
`RangeProc_config` returns without an error when there is no window, and does not
look at the cube, so this fails for configurations that do not fit.
-/

namespace RadarStream

open Replay

/-- The radar cube in `gSysContext` when `RangeProc_config` has returned. -/
def storedCube : EStateM.Result Stop Board PUnit → Option RadarCube
  | .ok _ t => some ⟨t.ctx.rangeProcDpuCfg.radarCubeData, t.ctx.rangeProcDpuCfg.radarCubeDataSize⟩
  | .error _ _ => none

/-- The DPU was configured with memory of the pools, and accepted it. -/
structure DpuReady (p : Platform) (r : SdkReturns) (b t : Board) : Prop where
  accepted : ¬ r.rangeProcConfig < 0
  configured : ∃ handle, .rangeProcConfig handle t.ctx.rangeProcDpuCfg ∈ newCalls b (.ok ⟨⟩ t)
  window : (coreLocalPool p).Inside t.ctx.params.window t.ctx.params.windowSize
  radarCube : (l3Pool p).Inside t.ctx.rangeProcDpuCfg.radarCubeData
    t.ctx.rangeProcDpuCfg.radarCubeDataSize

/-- Under every schedule the DPU is triggered only when it is ready, and nothing is
sent from `NULL`; when the DPU is not ready the task stops in an `exit` or an
assertion. -/
def DataPathFailStop (p : Platform) (d : Defines) (r : SdkReturns) (b : Board) : Prop :=
  let res := (dpcConfigure p d r).run b
  (∀ mem s, Reachable (step (storedCube res)) (boot mem) s →
    (0 < s.triggers → ∃ t, res = .ok ⟨⟩ t ∧ DpuReady p r b t) ∧
      (s.spi.running = true → s.cached.data = null → s.cached.dataSize = 0)) ∧
    ((¬ ∃ t, res = .ok ⟨⟩ t ∧ DpuReady p r b t) → ∃ e t, res = .error e t ∧ e ≠ .divisionTrap)

def CubeFits (p : Platform) (d : Defines) (quotient : UInt32) : Prop :=
  (l3Pool p).firstAddr 4 + (radarCubeBytes p d quotient).toNat ≤ (l3Pool p).stop

instance (p : Platform) (d : Defines) (q : UInt32) : Decidable (CubeFits p d q) :=
  inferInstanceAs (Decidable (_ ≤ _))

/-- The division does not trap, and then the selector is rejected, or the DPU is
called and rejects its configuration, or window and cube fit. -/
def StopsOrFits (p : Platform) (d : Defines) (r : SdkReturns) : Prop :=
  ∃ q, chirpsPerTx p d = some q ∧
    (¬ MimoSupported d ∨ ((WindowFits p d ∨ WindowWraps p d) ∧ r.rangeProcConfig < 0) ∨
      (WindowFits p d ∧ CubeFits p d q))

section Unconfigured

variable {s : State} {a : Action}

structure Unconfigured (s : State) : Prop where
  dpc : s.dpc = .notCreated ∨ s.dpc = .resetPools ∨ s.dpc = .rangeProcConfig
  main : s.main = .createDpcTask ∨ s.main = .pendDpcCfgDone
  spi : s.spi = .notCreated
  dpcCfgDone : s.sem .dpcCfgDone = false
  triggers : s.triggers = 0
  dpuArmed : s.dpuArmed = false

theorem unconfigured_boot (mem : Memory) : Unconfigured (boot mem) :=
  ⟨Or.inl rfl, Or.inl rfl, rfl, rfl, rfl, rfl⟩

theorem unconfigured_next (h : Unconfigured s) (ha : Enabled none s a) :
    Unconfigured (next s a) := by
  obtain ⟨hdpc, hmain, hspi, hsem, htriggers, harmed⟩ := h
  cases a with
  | createDpcTask => exact ⟨Or.inr (Or.inl rfl), Or.inr rfl, hspi, hsem, htriggers, harmed⟩
  | resetPools => exact ⟨Or.inr (Or.inr rfl), hmain, hspi, hsem, htriggers, harmed⟩
  | dpuWrite mem =>
      rw [show s.dpuArmed = true from ha] at harmed
      exact absurd harmed (by decide)
  | _ => simp_all [Enabled]

theorem unconfigured_of_reachable {mem : Memory} (h : Reachable (step none) (boot mem) s) :
    Unconfigured s := by
  refine h.invariant (fun s a t hs hstep => ?_) (unconfigured_boot mem)
  obtain ⟨ha, rfl⟩ := step_eq_some.mp hstep
  exact unconfigured_next hs ha

end Unconfigured

section DataPath

variable {p : Platform} {d : Defines} {r : SdkReturns} {regs : AdcBufRegs} {b t : Board}

theorem dpuReady_iff_of_configured {q : UInt32} (ht : Configured p d q b t)
    (hret : ¬ r.rangeProcConfig < 0) : DpuReady p r b t ↔ WindowFits p d ∧ CubeFits p d q := by
  have hwindow : (coreLocalPool p).Inside t.ctx.params.window t.ctx.params.windowSize ↔
      WindowFits p d := by
    rw [ht.window, ht.windowSize]
    exact (roomFor_coreLocalPool p).inside_firstBlock_iff
  have hcube : (l3Pool p).Inside t.ctx.rangeProcDpuCfg.radarCubeData
      t.ctx.rangeProcDpuCfg.radarCubeDataSize ↔ CubeFits p d q := by
    rw [ht.radarCubeData, ht.radarCubeDataSize]
    exact (roomFor_l3Pool p).inside_firstBlock_iff
  have hcall : .rangeProcConfig t.ctx.rangeProcHWADpuHandle t.ctx.rangeProcDpuCfg ∈
      newCalls b (.ok ⟨⟩ t) := by
    have hnew : newCalls b (.ok ⟨⟩ t) = _ := newCalls_of_calls ht.calls
    rw [hnew]
    exact List.mem_singleton.mpr rfl
  rw [← hwindow, ← hcube]
  exact ⟨fun h => ⟨h.window, h.radarCube⟩, fun h => ⟨hret, ⟨_, hcall⟩, h.1, h.2⟩⟩

theorem not_dpuReady_of_leftEarly (ht : LeftEarly b t) : ¬ DpuReady p r b t := by
  rintro ⟨_, _, _, hcube⟩
  exact hcube.ne_null ht.radarCubeData

theorem dataPathFailStop_of_error {e : Stop} (hrun : (dpcConfigure p d r).run b = .error e t) :
    DataPathFailStop p d r b ↔ e ≠ .divisionTrap := by
  rw [DataPathFailStop, hrun]
  constructor
  · rintro ⟨_, hstop⟩
    obtain ⟨e', t', herror, he'⟩ := hstop (by rintro ⟨_, hok, _⟩; cases hok)
    cases herror
    exact he'
  · intro he
    refine ⟨fun mem s hs => ?_, fun _ => ⟨e, t, rfl, he⟩⟩
    have hun : Unconfigured s := unconfigured_of_reachable hs
    refine ⟨fun htrigger => ?_, fun hrunning => ?_⟩
    · rw [hun.triggers] at htrigger
      exact absurd htrigger (by decide)
    · rw [hun.spi] at hrunning
      exact absurd hrunning (by decide)

theorem dataPathFailStop_of_ok (hrun : (dpcConfigure p d r).run b = .ok ⟨⟩ t) :
    DataPathFailStop p d r b ↔ DpuReady p r b t := by
  rw [DataPathFailStop, hrun]
  constructor
  · rintro ⟨_, hstop⟩
    by_contra hnot
    obtain ⟨e, u, herror, _⟩ := hstop (by rintro ⟨u, hok, hu⟩; cases hok; exact hnot hu)
    cases herror
  · intro hready
    refine ⟨fun mem s hs => ⟨fun _ => ⟨t, rfl, hready⟩, fun hrunning hnull => ?_⟩,
      fun hnot => absurd ⟨t, rfl, hready⟩ hnot⟩
    have hspi : s.spi ≠ .notCreated ∧ s.spi ≠ .cacheRadarCube := by
      constructor <;> (intro hpc; rw [hpc] at hrunning; exact absurd hrunning (by decide))
    have hcached := (streaming_of_reachable hs).transfer.cached hspi.1 hspi.2
    rw [hcached] at hnull
    exact absurd hnull hready.radarCube.ne_null

/-- The data path is fail-stop exactly when the division of the chirps does not
trap and the task stops or window and cube fit. -/
theorem dataPathFailStop_iff (hstart : DpcStart p d r regs b) :
    DataPathFailStop p d r b ↔ StopsOrFits p d r := by
  have houtcome := dpcConfigure_outcome hstart.post
  have hwindow := dpuWindow_ne_null_iff p d
  generalize hrun : (dpcConfigure p d r).run b = res at houtcome
  cases houtcome with
  | trapped hnone =>
      rw [dataPathFailStop_of_error hrun]
      exact ⟨fun he => absurd rfl he, fun ⟨q, hq, _⟩ => absurd (hnone.symm.trans hq) (by simp)⟩
  | rejected hq hmimo =>
      rw [dataPathFailStop_of_error hrun]
      exact ⟨fun _ => ⟨_, hq, Or.inl hmimo⟩, fun _ => by decide⟩
  | leftEarly hq hmimo hnull ht =>
      rw [dataPathFailStop_of_ok hrun]
      refine ⟨fun hready => absurd hready (not_dpuReady_of_leftEarly ht), ?_⟩
      rintro ⟨_, _, hbad | ⟨hfits, _⟩ | ⟨hfits, _⟩⟩
      · exact absurd hmimo hbad
      · exact absurd hnull (hwindow.mpr hfits)
      · exact absurd hnull (hwindow.mpr (Or.inl hfits))
  | asserted hq hmimo hne ht hret =>
      rw [dataPathFailStop_of_error hrun]
      exact ⟨fun _ => ⟨_, hq, Or.inr (Or.inl ⟨hwindow.mp hne, hret⟩)⟩, fun _ => by decide⟩
  | @configured q t hq hmimo hne ht hret =>
      rw [dataPathFailStop_of_ok hrun, dpuReady_iff_of_configured ht hret]
      refine ⟨fun hfits => ⟨q, hq, Or.inr (Or.inr hfits)⟩, ?_⟩
      rintro ⟨q', hq', hbad | ⟨_, hbad⟩ | hfits⟩
      · exact absurd hmimo hbad
      · exact absurd hbad hret
      · obtain rfl : q = q' := Option.some.inj (hq.symm.trans hq')
        exact hfits

theorem dataPathFailStop_iff_defaultDefines :
    ∃ b, DpcStart samplePlatform defaultDefines allSucceed ⟨fun _ => true, fun _ => 7⟩ b ∧
      DataPathFailStop samplePlatform defaultDefines allSucceed b := by
  obtain ⟨b, hb⟩ := exists_dpcStart samplePlatform defaultDefines ⟨fun _ => true, fun _ => 7⟩
    checksPass_allSucceed
  refine ⟨b, hb, (dataPathFailStop_iff hb).mpr ⟨64, by decide, Or.inr (Or.inr ?_)⟩⟩
  exact ⟨by decide, by decide⟩

def manyChirps : Defines := { defaultDefines with numBurstsPerFrame := 1024 }

/-- Their cube does not fit, and its size is sent from `NULL`. -/
theorem not_dataPathFailStop_manyChirps :
    ∃ b, DpcStart samplePlatform manyChirps allSucceed ⟨fun _ => true, fun _ => 7⟩ b ∧
      ¬ DataPathFailStop samplePlatform manyChirps allSucceed b := by
  obtain ⟨b, t, hb, hrun, ht⟩ := exists_configured_sample (d := manyChirps) (q := 1024)
    (by decide) (by decide) (by decide)
  refine ⟨b, hb, ?_⟩
  rw [dataPathFailStop_of_ok hrun, dpuReady_iff_of_configured ht (by decide)]
  decide

end DataPath

end RadarStream
