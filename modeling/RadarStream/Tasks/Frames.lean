import RadarStream.Tasks.Handoff

/-!
# Frames and transfers

What the hand-off is for: the `k`-th call of `spi_transfer_buffer` reads the cube
of the `k`-th `process`, slice after slice, and nothing writes the cube meanwhile.
`Capture` is what `dpcTask` and the DPU keep, `Transfer` what `spiTask` keeps; the
counters of both are tied together by the cube token. A call that runs has done some
chunks of the loop of `spi_transfer_buffer`, and a call that has returned is a run of
that function, so what is proved of the function holds of every call of the system.
-/

namespace RadarStream

open Replay

/-- The transaction `MCSPI_transfer` is at work on. -/
def SpiPc.inFlight (txBuf : UInt32) : SpiPc → List McspiTransaction
  | .mcspiTransfer l => [l.spiTransaction txBuf]
  | _ => []

/-- The cubes captured and not offered to `spiTask` yet. -/
def DpcPc.unoffered : DpcPc → ℕ
  | .postSpiTxStart => 1
  | _ => 0

/-- What `dpcTask` and the DPU keep, at each statement of `dpcTask`. -/
def Capture (cube : RadarCube) (s : State) : Prop :=
  match s.dpc with
  | .notCreated | .resetPools | .rangeProcConfig =>
      s.dpuArmed = false ∧ s.triggers = s.cubes.length
  | .postDpcCfgDone | .registerInterrupt _ | .triggerProc =>
      s.dpuArmed = false ∧ s.triggers = s.cubes.length ∧ s.radarCube = cube
  | .process => s.triggers = s.cubes.length + 1 ∧ s.radarCube = cube
  | .postSpiTxStart | .pendSpiTxDone =>
      s.dpuArmed = false ∧ s.triggers = s.cubes.length ∧ s.cubes.getLast? = some s.mem ∧
        s.radarCube = cube
  | .stopped =>
      s.cubes.length ≤ s.triggers ∧ s.triggers ≤ s.cubes.length + 1 ∧ s.radarCube = cube

/-- The chunks a running call has done are those of the loop of
`spi_transfer_buffer`. -/
def ChunksDone (cube : RadarCube) (spi : SpiPc) (events : List SpiEvent) : Prop :=
  match spi with
  | .loopHead l =>
      ∃ i ≤ chunkCount cube.dataSize.toNat, l = chunkLocals cube.dataSize.toNat i ∧
        events = (List.range i).flatMap (chunkEvents cube.data cube.dataSize.toNat)
  | .mcspiTransfer l =>
      ∃ i < chunkCount cube.dataSize.toNat, l = chunkLocals cube.dataSize.toNat i ∧
        events = (List.range i).flatMap (chunkEvents cube.data cube.dataSize.toNat) ++
          [.iteration l, .pinWriteLow]
  | _ => True

structure Transfer (cube : RadarCube) (s : State) : Prop where
  cached : s.spi ≠ .notCreated → s.spi ≠ .cacheRadarCube → s.cached = cube
  chunks : ChunksDone cube s.spi s.events
  returned : ∀ run ∈ s.calls, ∃ mcspi, run = spiTransferBuffer cube.data cube.dataSize mcspi 0

structure Counted (s : State) : Prop where
  captured : s.cubes.length = s.begun + s.dpc.unoffered + (s.sem .spiTxStart).toNat
  begun : s.begun = s.calls.length + s.spi.running.toNat

theorem DpcPc.unless_cases (p : DpcPc) (b : Bool) :
    p.unless b = .stopped ∨ b = false ∧ p.unless b = p := by
  cases b
  · exact Or.inr ⟨rfl, rfl⟩
  · exact Or.inl rfl

section Step

variable {cube : RadarCube} {s : State} {a : Action}

theorem capture_boot (mem : Memory) : Capture cube (boot mem) := ⟨rfl, rfl⟩

theorem transfer_boot (mem : Memory) : Transfer cube (boot mem) := by
  constructor <;> simp [boot, ChunksDone]

theorem counted_boot (mem : Memory) : Counted (boot mem) := by
  constructor <;> simp [boot, DpcPc.unoffered, SpiPc.running]

theorem capture_next (hs : Handoff s) (h : Capture cube s) (ha : Enabled (some cube) s a) :
    Capture cube (next s a) := by
  cases a with
  | dpuWrite mem =>
      have harmed : s.dpuArmed = true := ha
      cases hdpc : s.dpc <;> simp_all [Capture, next]
  | createDpcTask =>
      have hdpc := hs.dpc_created.mpr ha
      simp_all [Capture, next]
  | resetPools | postDpcCfgDone | postSpiTxStart =>
      have hdpc : s.dpc = _ := ha
      simp_all [Capture, next]
  | rangeProcConfig radarCube | pendSpiTxDone =>
      obtain ⟨hdpc, _⟩ := ha
      simp_all [Capture, next]
  | registerInterrupt i retVal =>
      have hdpc : s.dpc = .registerInterrupt i := ha
      cases hret : decide (retVal ≠ 0) <;> cases i <;>
        simp_all [Capture, next, DpcPc.unless, Interrupt.next]
  | triggerProc retVal =>
      have hdpc : s.dpc = .triggerProc := ha
      rw [Capture, hdpc] at h
      obtain ⟨_, htriggers, hcube⟩ := h
      rcases DpcPc.process.unless_cases (retVal < 0) with hnext | ⟨_, hnext⟩
      · simp only [Capture, next, hnext]
        exact ⟨by omega, by omega, hcube⟩
      · simp only [Capture, next, hnext]
        exact ⟨by rw [htriggers], hcube⟩
  | process retVal =>
      have hdpc : s.dpc = .process := ha
      rw [Capture, hdpc] at h
      obtain ⟨htriggers, hcube⟩ := h
      rcases DpcPc.postSpiTxStart.unless_cases (retVal < 0) with hnext | ⟨hret, hnext⟩
      · simp only [Capture, next, hnext]
        by_cases hret : retVal < 0
        · rw [if_pos hret]
          exact ⟨by omega, by omega, hcube⟩
        · rw [if_neg hret]
          simp [htriggers, hcube]
      · simp only [Capture, next, hnext, if_neg (of_decide_eq_false hret)]
        exact ⟨trivial, by simp [htriggers], by simp, hcube⟩
  | _ => exact h

/-- The counters follow the cube token: a frame is captured, offered, begun and
sent in this order. -/
theorem counted_next (hs : Handoff s) (h : Counted s) (ha : Enabled (some cube) s a) :
    Counted (next s a) := by
  obtain ⟨hcaptured, hbegun⟩ := h
  cases a with
  | createDpcTask =>
      rw [hs.dpc_created.mpr ha] at hcaptured
      exact ⟨hcaptured, hbegun⟩
  | createSpiTask =>
      rw [hs.spi_created.mpr (Or.inr (Or.inr ha))] at hbegun
      exact ⟨hcaptured, hbegun⟩
  | resetPools | postDpcCfgDone =>
      rw [show s.dpc = _ from ha] at hcaptured
      exact ⟨hcaptured, hbegun⟩
  | rangeProcConfig | pendSpiTxDone =>
      rw [ha.1] at hcaptured
      exact ⟨hcaptured, hbegun⟩
  | registerInterrupt i retVal =>
      rw [show s.dpc = .registerInterrupt i from ha] at hcaptured
      have hnext : (i.next.unless (retVal ≠ 0)).unoffered = 0 := by
        rcases i.next.unless_cases (retVal ≠ 0) with hnext | ⟨_, hnext⟩
        · rw [hnext]
          rfl
        · rw [hnext]
          cases i <;> rfl
      refine ⟨?_, hbegun⟩
      rw [next, hnext]
      exact hcaptured
  | triggerProc retVal =>
      rw [show s.dpc = .triggerProc from ha] at hcaptured
      refine ⟨?_, hbegun⟩
      rcases DpcPc.process.unless_cases (retVal < 0) with hnext | ⟨_, hnext⟩ <;>
        rw [next, hnext] <;> exact hcaptured
  | process retVal =>
      rw [show s.dpc = .process from ha] at hcaptured
      have hlength : s.cubes.length = s.begun + 0 + (s.sem .spiTxStart).toNat := hcaptured
      refine ⟨?_, hbegun⟩
      by_cases hret : retVal < 0
      · simp only [next, DpcPc.unless, hret, decide_true, if_true]
        exact hcaptured
      · simp only [next, DpcPc.unless, hret, decide_false, Bool.false_eq_true, if_false,
          List.length_append, List.length_singleton, DpcPc.unoffered]
        omega
  | postSpiTxStart =>
      have hfree := hs.post_free ha rfl
      rw [show s.dpc = .postSpiTxStart from ha, hfree] at hcaptured
      exact ⟨hcaptured, hbegun⟩
  | pendSpiTxStart =>
      obtain ⟨hspi, hsem⟩ := ha
      rw [hsem] at hcaptured
      rw [hspi] at hbegun
      refine ⟨?_, ?_⟩
      · have hlength : s.cubes.length = s.begun + s.dpc.unoffered + 1 := hcaptured
        change s.cubes.length = s.begun + 1 + s.dpc.unoffered + 0
        omega
      · exact congrArg (· + 1) hbegun
  | cacheRadarCube | postSpiTxDone =>
      rw [show s.spi = _ from ha] at hbegun
      exact ⟨hcaptured, hbegun⟩
  | beginChunk =>
      rw [ha.1] at hbegun
      exact ⟨hcaptured, hbegun⟩
  | transferSucceeds l =>
      rw [show s.spi = .mcspiTransfer l from ha] at hbegun
      exact ⟨hcaptured, hbegun⟩
  | transferFails | leaveLoop =>
      rw [ha.1] at hbegun
      refine ⟨hcaptured, ?_⟩
      have hcalls : s.begun = s.calls.length + 1 := hbegun
      simp [next, SpiPc.running, hcalls]
  | _ => exact ⟨hcaptured, hbegun⟩

theorem Capture.stored (h : Capture cube s) (hdpc : s.dpc.configTokens = 0) :
    s.radarCube = cube := by
  rw [Capture] at h
  cases hpc : s.dpc <;> simp_all [DpcPc.configTokens]

theorem radarCube_of_spi_created (hs : Handoff s) (h : Capture cube s)
    (hspi : s.spi ≠ .notCreated) : s.radarCube = cube := by
  have hconfig := hs.config_token
  rw [ne_eq, hs.spi_created, not_or, not_or] at hspi
  have hmain : s.main.configTokens = 1 := by
    cases hpc : s.main <;> simp_all [MainPc.configTokens]
  rw [configTokens, hmain] at hconfig
  exact h.stored (by omega)

theorem transfer_next (hs : Handoff s) (hc : Capture cube s) (h : Transfer cube s)
    (ha : Enabled (some cube) s a) : Transfer cube (next s a) := by
  obtain ⟨hcached, hchunks, hreturned⟩ := h
  have hT : cube.dataSize.toNat < 2 ^ 32 := cube.dataSize.toNat_lt
  cases a with
  | createSpiTask => exact ⟨fun _ h => absurd rfl h, trivial, hreturned⟩
  | cacheRadarCube =>
      have hspi : s.spi = .cacheRadarCube := ha
      refine ⟨fun _ _ => ?_, trivial, hreturned⟩
      exact radarCube_of_spi_created hs hc (by simp [hspi])
  | pendSpiTxStart =>
      have hcube : s.cached = cube := hcached (by simp [ha.1]) (by simp [ha.1])
      refine ⟨fun _ _ => hcube, ⟨0, Nat.zero_le _, ?_, rfl⟩, hreturned⟩
      rw [hcube, chunkLocals, Nat.mul_zero, Nat.sub_zero, UInt32.ofNat_toNat]
      rfl
  | beginChunk l =>
      obtain ⟨hspi, hpos⟩ := ha
      rw [hspi] at hcached hchunks
      obtain ⟨i, hi, rfl, hevents⟩ := hchunks
      refine ⟨fun _ _ => hcached (by simp) (by simp), ⟨i, ?_, rfl, ?_⟩, hreturned⟩
      · have hrem : 0 < cube.dataSize.toNat - 65280 * i := by
          rwa [UInt32.lt_iff_toNat_lt, toNat_chunkLocals_bytesRemaining hT] at hpos
        rw [lt_chunkCount_iff]
        omega
      · rw [next, hevents]
  | transferSucceeds l =>
      have hspi : s.spi = .mcspiTransfer l := ha
      rw [hspi] at hcached hchunks
      obtain ⟨i, hi, rfl, hevents⟩ := hchunks
      have hcube := hcached (by simp) (by simp)
      refine ⟨fun _ _ => hcube, ⟨i + 1, hi, chunkLocals_next hT (lt_chunkCount_iff.mp hi), ?_⟩,
        hreturned⟩
      rw [List.range_succ, List.flatMap_append, next, hevents, hcube]
      simp [chunkEvents]
  | transferFails l transferOK =>
      obtain ⟨hspi, hbad⟩ := ha
      rw [hspi] at hcached hchunks
      obtain ⟨i, hi, rfl, hevents⟩ := hchunks
      have hcube := hcached (by simp) (by simp)
      refine ⟨fun _ _ => hcube, trivial, ?_⟩
      intro run hrun
      rcases List.mem_append.mp hrun with hrun | hrun
      · exact hreturned run hrun
      · -- the call is the run in which transfer `i` is the one that fails
        refine ⟨fun k => if k = i then transferOK else systemPSuccess, ?_⟩
        rw [spiTransferBuffer_failure hi (n := 0) (fun j hj => if_neg (by omega)) (by simpa),
          List.mem_singleton.mp hrun, hevents, hcube]
        simp [failedChunkEvents]
  | leaveLoop l =>
      obtain ⟨hspi, hdone⟩ := ha
      rw [hspi] at hcached hchunks
      obtain ⟨i, hi, rfl, hevents⟩ := hchunks
      have hend : i = chunkCount cube.dataSize.toNat := by
        by_contra hne
        exact hdone (chunkLocals_bytesRemaining_pos hT (lt_chunkCount_iff.mp (by omega)))
      refine ⟨fun _ _ => hcached (by simp) (by simp), trivial, ?_⟩
      intro run hrun
      rcases List.mem_append.mp hrun with hrun | hrun
      · exact hreturned run hrun
      · refine ⟨fun _ => systemPSuccess, ?_⟩
        rw [spiTransferBuffer_success fun _ _ => rfl, List.mem_singleton.mp hrun, hevents, hend]
  | postSpiTxDone =>
      have hspi : s.spi = .postSpiTxDone := ha
      exact ⟨fun _ _ => hcached (by simp [hspi]) (by simp [hspi]), trivial, hreturned⟩
  | _ => exact ⟨hcached, hchunks, hreturned⟩

structure Streaming (cube : RadarCube) (s : State) : Prop where
  handoff : Handoff s
  capture : Capture cube s
  transfer : Transfer cube s
  counted : Counted s

theorem streaming_boot (mem : Memory) : Streaming cube (boot mem) :=
  ⟨handoff_boot mem, capture_boot mem, transfer_boot mem, counted_boot mem⟩

theorem streaming_next (h : Streaming cube s) (ha : Enabled (some cube) s a) :
    Streaming cube (next s a) where
  handoff := handoff_next h.handoff ha
  capture := capture_next h.handoff h.capture ha
  transfer := transfer_next h.handoff h.capture h.transfer ha
  counted := counted_next h.handoff h.counted ha

theorem streaming_of_reachable {mem : Memory}
    (h : Reachable (step (some cube)) (boot mem) s) : Streaming cube s := by
  refine h.invariant (fun s a t hs hstep => ?_) (streaming_boot mem)
  obtain ⟨ha, rfl⟩ := step_eq_some.mp hstep
  exact streaming_next hs ha

theorem Handoff.of_running (h : Handoff s) (hrun : s.spi.running = true) :
    s.dpc = .pendSpiTxDone ∧ s.sem .spiTxStart = false := by
  have hcube := h.cube_token
  have hspi : s.spi.cubeTokens = 1 := by
    cases hpc : s.spi <;> simp_all [SpiPc.running, SpiPc.cubeTokens]
  rw [cubeTokens, hspi] at hcube
  have hdpc : s.dpc.cubeTokens = 0 := by omega
  have hstart : (s.sem .spiTxStart).toNat = 0 := by omega
  refine ⟨?_, by simpa using hstart⟩
  cases hpc : s.dpc <;> simp_all [DpcPc.cubeTokens]

/-- What a running transfer finds: the frame before it is the last one captured,
the DPU is not armed, and the memory holds that frame. -/
theorem Streaming.of_running (h : Streaming cube s) (hrun : s.spi.running = true) :
    s.dpuArmed = false ∧ s.cubes.length = s.begun ∧ s.triggers = s.begun ∧
      s.cubes.getLast? = some s.mem := by
  obtain ⟨hdpc, hstart⟩ := h.handoff.of_running hrun
  have hcapture := h.capture
  have hcaptured := h.counted.captured
  rw [Capture, hdpc] at hcapture
  rw [hdpc, hstart] at hcaptured
  obtain ⟨harmed, htriggers, hfresh, _⟩ := hcapture
  exact ⟨harmed, hcaptured, htriggers.trans hcaptured, hfresh⟩

theorem mem_next (ha : Enabled (some cube) s a) (harmed : s.dpuArmed = false) :
    (next s a).mem = s.mem := by
  cases a with
  | dpuWrite mem =>
      rw [show s.dpuArmed = true from ha] at harmed
      exact absurd harmed (by decide)
  | _ => rfl

/-- What a running call has read, the transaction in flight included. -/
theorem Streaming.reads (h : Streaming cube s) (hrun : s.spi.running = true) :
    ReadsBuffer s.mem cube.data cube.dataSize
      (transactions s.events ++ s.spi.inFlight s.cached.data) := by
  have hcached := h.transfer.cached
  have hchunks := h.transfer.chunks
  cases hspi : s.spi with
  | loopHead l =>
      rw [hspi] at hchunks
      obtain ⟨i, hi, -, hevents⟩ := hchunks
      have hnone : (SpiPc.loopHead l).inFlight s.cached.data = [] := rfl
      rw [hnone, List.append_nil, hevents, (observe_chunkEvents cube.data _ _).1]
      exact readsBuffer_chunks _ _ _ hi
  | mcspiTransfer l =>
      rw [hspi] at hchunks hcached
      obtain ⟨i, hi, rfl, hevents⟩ := hchunks
      have htransactions : transactions s.events ++
          (SpiPc.mcspiTransfer (chunkLocals cube.dataSize.toNat i)).inFlight s.cached.data =
            (List.range (i + 1)).map
              fun j => (chunkLocals cube.dataSize.toNat j).spiTransaction cube.data := by
        rw [hcached (by simp) (by simp), hevents, transactions_append,
          (observe_chunkEvents cube.data cube.dataSize.toNat _).1, List.range_succ,
          List.map_append, List.append_assoc]
        rfl
      rw [htransactions]
      exact readsBuffer_chunks _ _ _ hi
  | notCreated | cacheRadarCube | pendSpiTxStart | postSpiTxDone =>
      rw [hspi] at hrun
      exact absurd hrun (by decide)

/-- Triggers, captured frames, transfers begun and transfers returned follow each
other: none overtakes the one before it, and none falls behind by more than one. -/
theorem Streaming.in_order (h : Streaming cube s) :
    s.calls.length ≤ s.begun ∧ s.begun ≤ s.cubes.length ∧ s.cubes.length ≤ s.triggers ∧
      s.triggers ≤ s.calls.length + 1 := by
  obtain ⟨hcaptured, hbegun⟩ := h.counted
  have hcube := h.handoff.cube_token
  have hcapture := h.capture
  have hrunning : s.spi.running.toNat ≤ s.spi.cubeTokens := by
    cases s.spi <;> simp [SpiPc.running, SpiPc.cubeTokens]
  rw [cubeTokens] at hcube
  rw [Capture] at hcapture
  refine ⟨by omega, by omega, ?_, ?_⟩
  · cases hdpc : s.dpc <;> simp only [hdpc] at hcapture <;> omega
  · cases hdpc : s.dpc <;> simp only [hdpc, DpcPc.cubeTokens, DpcPc.unoffered] at * <;> omega

/-- The `k`-th call has read the cube of the `k`-th `process`, all of its whole frames
when it returned success. -/
theorem Streaming.reads_returned (h : Streaming cube s) {k : ℕ} {run : TransferRun}
    (hrun : s.calls[k]? = some run) : ∃ captured, s.cubes[k]? = some captured ∧
      ReadsBuffer captured cube.data cube.dataSize (transactions run.events) ∧
      (run.ret = systemPSuccess →
        chunkBytes cube.dataSize.toNat (transactions run.events).length =
          4 * (cube.dataSize.toNat / 4)) := by
  obtain ⟨hcalls, hbegun, -, -⟩ := h.in_order
  have hk := (List.getElem?_eq_some_iff.mp hrun).1
  obtain ⟨mcspi, rfl⟩ := h.transfer.returned run (List.mem_of_getElem? hrun)
  exact ⟨_, List.getElem?_eq_getElem (by omega), spiTransferBuffer_reads _ _ _ _ _,
    spiTransferBuffer_reads_whole _ _ _ _⟩

end Step

/-- Under every schedule and every pattern of chunk failures: nothing writes the
cube while a transfer runs; the `k`-th transfer runs between the `k`-th `process`
and the next trigger, on the cube of that `process` and with the pointer and the
size that `RangeProc_config` stored, and what it reads is that cube from its start,
slice after slice, all of it when the call returns success; and transfers and frames
correspond one to one, each transfer that returned being a run of
`spi_transfer_buffer`. -/
theorem transfers_follow_frames (cube : RadarCube) (mem : Memory) {s : State}
    (h : Reachable (step (some cube)) (boot mem) s) :
    (s.spi.running = true → ∀ a t, step (some cube) s a = some t → t.mem = s.mem) ∧
      (s.spi.running = true →
        s.cubes.length = s.begun ∧ s.triggers = s.begun ∧
          s.cubes[s.begun - 1]? = some s.mem ∧ s.cached = cube ∧
          ChunksDone cube s.spi s.events ∧
          ReadsBuffer s.mem cube.data cube.dataSize
            (transactions s.events ++ s.spi.inFlight s.cached.data)) ∧
      (s.calls.length ≤ s.begun ∧ s.begun ≤ s.cubes.length ∧ s.cubes.length ≤ s.triggers ∧
        s.triggers ≤ s.calls.length + 1) ∧
      (∀ run ∈ s.calls, ∃ mcspi, run = spiTransferBuffer cube.data cube.dataSize mcspi 0) ∧
      ∀ (k : ℕ) run, s.calls[k]? = some run → ∃ captured, s.cubes[k]? = some captured ∧
        ReadsBuffer captured cube.data cube.dataSize (transactions run.events) ∧
        (run.ret = systemPSuccess →
          chunkBytes cube.dataSize.toNat (transactions run.events).length =
            4 * (cube.dataSize.toNat / 4)) := by
  have hs := streaming_of_reachable h
  refine ⟨?_, ?_, hs.in_order, hs.transfer.returned, fun _ _ hrun => hs.reads_returned hrun⟩
  · intro hrun a t hstep
    obtain ⟨ha, rfl⟩ := step_eq_some.mp hstep
    exact mem_next ha (hs.of_running hrun).1
  · intro hrun
    obtain ⟨_, hlength, htriggers, hlast⟩ := hs.of_running hrun
    have hspi : s.spi ≠ .notCreated ∧ s.spi ≠ .cacheRadarCube := by
      constructor <;> (intro hpc; rw [hpc] at hrun; exact absurd hrun (by decide))
    refine ⟨hlength, htriggers, ?_, hs.transfer.cached hspi.1 hspi.2, hs.transfer.chunks,
      hs.reads hrun⟩
    rw [← hlength, ← List.getLast?_eq_getElem?]
    exact hlast

def firstTransfer : List Action :=
  firstFrame ++ [.pendDpcCfgDone, .createSpiTask, .cacheRadarCube, .pendSpiTxStart,
    .beginChunk ⟨4, 0⟩]

theorem transfers_follow_frames_firstTransfer :
    ∃ s, replay (step (some ⟨4096, 4⟩)) (boot fun a => a.toUInt8) firstTransfer = some s ∧
      s.spi = .mcspiTransfer ⟨4, 0⟩ ∧ s.triggers = s.begun ∧ s.cached = ⟨4096, 4⟩ ∧
      (∀ mem t, step (some ⟨4096, 4⟩) s (.dpuWrite mem) = some t → t.mem = s.mem) ∧
      ((s.spi.inFlight s.cached.data).flatMap (McspiTransaction.bytes s.mem) =
        bufferBytes s.mem 4096 4) := by
  refine ⟨_, rfl, rfl, ?_⟩
  obtain ⟨hwrite, hcall, _⟩ :=
    transfers_follow_frames ⟨4096, 4⟩ (fun a => a.toUInt8) ⟨firstTransfer, rfl⟩
  obtain ⟨_, htriggers, _, hcached, _, hreads⟩ := hcall rfl
  exact ⟨htriggers, hcached, fun mem => hwrite rfl (.dpuWrite mem), hreads.bytes⟩

end RadarStream
