import RadarStream.Firmware.Conveyed
import RadarStream.Firmware.DataPath
import RadarStream.Script.HeaderRun
import RadarStream.Tasks.Stream
import RadarStream.Whole.HeaderUnique

/-!
# From the input file to the wire

The whole way of a configuration: the script writes a header from the input file, a
firmware is compiled with this header, its start-up configures sensor and DPU, and its
tasks send the radar cube of each frame. The results are about the numbers in the input
file, and hold for every firmware that was compiled with what a run of the script wrote.
Numbers with a fraction are exact on the whole way, as in `Defines`.
-/

namespace RadarStream

open CText Paths Replay

/-- What a firmware compiled with this header works with. -/
structure CompiledWith (p : Platform) (text : Text) (d : Defines) : Prop where
  means : HeaderMeans p d text
  inRange : d.InRange

section Written

variable {α F β : Type} {host : Host α F β} {inv : Invocation} {fs : FileTree β} {args : Args}
  {conf : Configuration} {d : Defines}

/-- A firmware compiled with what a run wrote works with the numbers of the input. -/
theorem compiledWith_iff_of_wrote (p : Platform) (hargs : inv.args = some args)
    (hinput : InputGives host fs args conf) (hw : conf.Writes d) (hd : d.InRange)
    (htime : '/' ∉ inv.timestamp) {path : Text}
    (hpath : .wrote path ∈ (endWorld (runMain host inv fs)).log) :
    ∃ loc text, fs.locate path = some loc ∧
      (endWorld (runMain host inv fs)).fs.fileAt loc = some (host.encode text) ∧
      ∀ d', CompiledWith p text d' ↔ d' = d := by
  obtain ⟨loc, text, hloc, hfile, hmeans⟩ :=
    headerMeans_of_wrote p hargs hinput hw hd htime hpath
  refine ⟨loc, text, hloc, hfile, fun d' => ⟨fun h => ?_, ?_⟩⟩
  · exact h.means.unique hmeans h.inRange hd
  · rintro rfl
    exact ⟨hmeans, hd⟩

end Written

/-- A configuration that the device has room for. -/
structure Defines.Deliverable (d : Defines) (p : Platform) : Prop where
  mimo : MimoSupported d
  cube : CubeExact p d
  window : WindowFits p d
  room : (l3Pool p).firstAddr 4 + frameBytes p d ≤ (l3Pool p).stop

/-- Every transfer sends `n` bytes, which are the radar cube as it was captured with its
frame, or stops early and says so. -/
structure Delivers (n : ℕ) (cube : RadarCube) (s : State) : Prop where
  length : ∀ mem, (frame cube mem).length = n
  transferred : ∀ (k : ℕ) run, s.calls[k]? = some run → ∃ captured, s.cubes[k]? = some captured ∧
    sentBytes captured run.events <+: frame cube captured ∧
    (run.ret = systemPSuccess ↔ sentBytes captured run.events = frame cube captured)
  in_order : (∀ run ∈ s.calls, run.ret = systemPSuccess) →
    (stream cube s).transfers.flatMap Prod.fst =
      (s.cubes.take s.calls.length).flatMap (frame cube)

section Delivery

variable {p : Platform} {d : Defines} {r : SdkReturns} {regs : AdcBufRegs}

theorem Defines.Deliverable.exists_quotient (h : d.Deliverable p) :
    ∃ q, chirpsPerTx p d = some q ∧ (radarCubeBytes p d q).toNat = frameBytes p d := by
  have hne : (txCount d).toUInt32 ≠ 0 := by
    intro hzero
    have hnat := congrArg UInt32.toNat hzero
    rw [UInt16.toNat_toUInt32] at hnat
    exact h.cube.tx_enabled hnat
  refine ⟨_, if_neg hne, ?_⟩
  have hchirp := (every_chirp_iff h.cube.tx_enabled (p := p) (d := d) (if_neg hne)).mpr
    ⟨h.cube.chirps_fit, h.cube.tx_divides, h.cube.quotient_fits⟩
  rw [toNat_radarCubeBytes_of_every_chirp hchirp, Nat.mod_eq_of_lt h.cube.bytes_fit]

theorem Defines.Deliverable.exists_cube (h : d.Deliverable p) (hpass : ChecksPass r)
    (hret : ¬ r.rangeProcConfig < 0) (regs : AdcBufRegs) :
    ∃ b t cube, DpcStart p d r regs b ∧ (dpcConfigure p d r).run b = .ok ⟨⟩ t ∧
      storedCube (.ok ⟨⟩ t) = some cube ∧ (l3Pool p).Inside cube.data cube.dataSize ∧
      cube.dataSize.toNat = frameBytes p d := by
  obtain ⟨q, hq, hbytes⟩ := h.exists_quotient
  obtain ⟨b, hb⟩ := exists_dpcStart p d regs hpass
  have hwindow : dpuWindow p d ≠ null := (dpuWindow_ne_null_iff p d).mpr (Or.inl h.window)
  obtain ⟨t, hrun, ht⟩ := exists_configured hb.post hq h.mimo hwindow hret
  have hfits : CubeFits p d q := by
    rw [CubeFits, hbytes]
    exact h.room
  refine ⟨b, t, _, hb, hrun, rfl, ?_, ?_⟩
  · exact ((dpuReady_iff_of_configured ht hret).mpr ⟨h.window, hfits⟩).radarCube
  · change t.ctx.rangeProcDpuCfg.radarCubeDataSize.toNat = _
    rw [ht.radarCubeDataSize, hbytes]

theorem delivers_of_replay {cube : RadarCube} {n : ℕ} (hsize : cube.dataSize.toNat = n)
    (h4 : 4 ∣ n) {mem : Memory} {s : State} {as : List Action}
    (h : replay (step (some cube)) (boot mem) as = some s) : Delivers n cube s := by
  subst hsize
  exact ⟨fun _ => length_bufferBytes _ _, fun _ _ hrun => sent_of_call h4 h hrun,
    sent_of_success h4 h⟩

end Delivery

section Whole

variable {α F β : Type} (host : Host α F β) (inv : Invocation) (fs : FileTree β) (p : Platform)
  {args : Args} {conf : Configuration} {d : Defines}

end Whole

theorem fits_defaultDefines (c : SdkCall) : defaultDefines.FitsIn samplePlatform c := by
  cases c with
  | rfPwrOnOff => constructor <;> decide
  | mmWaveOpen => exact (by decide : defaultDefines.numAdcSamples.toNat < 2 ^ 16)
  | addProfile =>
      constructor
      · constructor <;> decide +kernel
      · constructor <;> decide +kernel
  | mmWaveConfig => constructor <;> decide +kernel
  | factoryCalibConfig => constructor <;> decide
  | rangeProcConfig =>
      refine ⟨by decide, by decide, ?_⟩
      constructor <;> decide
  | mmWaveStart => constructor <;> decide
  | mmWaveInit | hwaOpen | rangeProcInit | synthTrimValid | addChirp | flashRead | createDpcTask
  | createSpiTask => trivial

def anyRegs : AdcBufRegs := ⟨fun _ => false, fun _ => 0⟩

theorem deliverable_defaultDefines : defaultDefines.Deliverable samplePlatform := by
  refine ⟨by decide, ?_, by decide, by decide⟩
  constructor <;> decide

end RadarStream
