import RadarStream.Library.BlockStream
import RadarStream.Tasks.Frames

/-!
# What the SPI line carries

The tasks refine `BlockStream`: a frame is the contents of the radar cube when
`process` returns, a transfer is a call of `spi_transfer_buffer`, and the blocks are
the bytes of the transactions that `MCSPI_transfer` reports as sent. `stream` is the
abstraction of a state, and each action of a task shows at most one event.
-/

namespace RadarStream

open Replay BlockStream

/-- The bytes of a radar cube, as they are to be sent. -/
def frame (cube : RadarCube) (mem : Memory) : List UInt8 :=
  bufferBytes mem cube.data cube.dataSize.toNat

/-- The bytes that `MCSPI_transfer` has reported as sent. -/
def sentBytes (mem : Memory) (events : List SpiEvent) : List UInt8 :=
  (completed events).flatMap (McspiTransaction.bytes mem)

/-- What a call that has returned has sent of the cube it ran on. -/
def sentBy (run : TransferRun) (mem : Memory) : List UInt8 × Bool :=
  (sentBytes mem run.events, decide (run.ret = systemPSuccess))

/-- The abstraction of a state of the tasks. -/
def stream (cube : RadarCube) (s : State) : Stream UInt8 where
  frames := s.cubes.map (frame cube)
  transfers := List.zipWith sentBy s.calls s.cubes
  sending := if s.spi.running = true then some (sentBytes s.mem s.events) else none

/-- What an action shows on the line, and at the capture of a frame. -/
def streamEvents (cube : RadarCube) (s : State) : Action → List (Event UInt8)
  | .process retVal => if retVal < 0 then [] else [.captured (frame cube s.mem)]
  | .pendSpiTxStart => [.started]
  | .transferSucceeds l => [.sent ((l.spiTransaction s.cached.data).bytes s.mem)]
  | .transferFails _ _ => [.finished false]
  | .leaveLoop _ => [.finished true]
  | .createDpcTask | .pendDpcCfgDone | .createSpiTask | .startSensor _ | .resetPools
  | .rangeProcConfig _ | .postDpcCfgDone | .registerInterrupt _ _ | .triggerProc _
  | .postSpiTxStart | .pendSpiTxDone | .cacheRadarCube | .beginChunk _ | .postSpiTxDone
  | .dpuWrite _ => []

section Sent

variable {cube : RadarCube} {mem : Memory}

theorem sentBytes_append (xs ys : List SpiEvent) :
    sentBytes mem (xs ++ ys) = sentBytes mem xs ++ sentBytes mem ys := by
  rw [sentBytes, completed_append, List.flatMap_append]
  rfl

/-- After `i` chunks the call has sent the start of the cube. -/
theorem sentBytes_chunkEvents (h4 : 4 ∣ cube.dataSize.toNat) {i : ℕ}
    (hi : i ≤ chunkCount cube.dataSize.toNat) :
    sentBytes mem ((List.range i).flatMap (chunkEvents cube.data cube.dataSize.toNat)) =
      bufferBytes mem cube.data (min (65280 * i) cube.dataSize.toNat) := by
  obtain ⟨_, hcompleted, _⟩ :=
    observe_chunkEvents cube.data cube.dataSize.toNat (List.range i)
  rw [sentBytes, hcompleted, flatMap_bytes cube.dataSize.toNat_lt cube.data mem hi, chunkBytes,
    Nat.mul_div_cancel' h4]

theorem bufferBytes_prefix (txBuf : UInt32) {m n : ℕ} (h : m ≤ n) :
    bufferBytes mem txBuf m <+: bufferBytes mem txBuf n := by
  obtain ⟨k, rfl⟩ := Nat.exists_eq_add_of_le h
  rw [bufferBytes, bufferBytes, List.range_add]
  exact (List.prefix_append _ _).map _

theorem length_bufferBytes (txBuf : UInt32) (n : ℕ) : (bufferBytes mem txBuf n).length = n := by
  rw [bufferBytes, List.length_map, List.length_range]

/-- A call that has not done all its chunks has not sent the whole cube. -/
theorem bufferBytes_ne_frame {i : ℕ} (hi : i < chunkCount cube.dataSize.toNat) :
    bufferBytes mem cube.data (min (65280 * i) cube.dataSize.toNat) ≠ frame cube mem := by
  intro heq
  have hlength := congrArg List.length heq
  rw [frame, length_bufferBytes, length_bufferBytes] at hlength
  have hlt := lt_chunkCount_iff.mp hi
  omega

end Sent

section Step

variable {cube : RadarCube} {s : State} {a : Action}

/-- What is captured and sent depends on these fields only. -/
theorem stream_congr {t : State} (hcubes : t.cubes = s.cubes) (hcalls : t.calls = s.calls)
    (hrun : t.spi.running = s.spi.running)
    (hsent : s.spi.running = true → sentBytes t.mem t.events = sentBytes s.mem s.events) :
    stream cube t = stream cube s := by
  rw [stream, stream, hcubes, hcalls, hrun]
  split
  · rw [hsent (by assumption)]
  · rfl

theorem length_transfers (h : Streaming cube s) :
    (stream cube s).transfers.length = s.calls.length := by
  obtain ⟨hcalls, hbegun, -, -⟩ := h.in_order
  rw [stream, List.length_zipWith]
  omega

theorem length_frames : (stream cube s).frames.length = s.cubes.length := List.length_map _

theorem zipWith_append_right {α β γ : Type} (f : α → β → γ) {xs : List α} {ys : List β}
    (h : xs.length ≤ ys.length) (zs : List β) :
    List.zipWith f xs (ys ++ zs) = List.zipWith f xs ys := by
  induction xs generalizing ys with
  | nil => rw [List.zipWith_nil_left, List.zipWith_nil_left]
  | cons x xs ih =>
      cases ys with
      | nil => simp at h
      | cons y ys =>
          rw [List.cons_append, List.zipWith_cons_cons, List.zipWith_cons_cons,
            ih (Nat.le_of_succ_le_succ h)]

theorem stream_captured (h : Streaming cube s) (hdpc : s.dpc = .process) {retVal : Int32}
    (hret : ¬ retVal < 0) : BlockStream.step (stream cube s) (.captured (frame cube s.mem)) =
      some (stream cube (next s (.process retVal))) := by
  obtain ⟨hcalls, hbegun, -, htriggers⟩ := h.in_order
  have hrun : ¬ s.spi.running = true := by
    intro hrun
    have hpend := (h.handoff.of_running hrun).1
    rw [hdpc] at hpend
    cases hpend
  have hcapture := h.capture
  rw [Capture, hdpc] at hcapture
  have hcubes : (next s (.process retVal)).cubes = s.cubes ++ [s.mem] := if_neg hret
  have hlength : (stream cube s).transfers.length = (stream cube s).frames.length := by
    rw [length_transfers h, length_frames]
    omega
  refine (if_pos ⟨if_neg hrun, hlength⟩).trans (congrArg some (Stream.ext ?_ ?_ rfl))
  · rw [stream, stream, hcubes, List.map_append]
    rfl
  · rw [stream, stream, hcubes]
    exact (zipWith_append_right sentBy (by omega) _).symm

theorem stream_started (h : Streaming cube s)
    (ha : Enabled (some cube) s .pendSpiTxStart) : BlockStream.step (stream cube s) .started =
      some (stream cube (next s .pendSpiTxStart)) := by
  obtain ⟨hspi, hsem⟩ := ha
  obtain ⟨hcalls, hbegun, hcubes, htriggers⟩ := h.in_order
  have hcaptured := h.counted.captured
  have hreturned := h.counted.begun
  have hrun : s.spi.running = false := by rw [hspi]; rfl
  rw [hsem, Bool.toNat_true] at hcaptured
  rw [hrun, Bool.toNat_false] at hreturned
  have hnone : (stream cube s).sending = none := if_neg (by rw [hrun]; decide)
  have hlength : (stream cube s).transfers.length + 1 = (stream cube s).frames.length := by
    rw [length_transfers h, length_frames]
    omega
  exact if_pos ⟨hnone, hlength⟩

/-- What a running transfer finds in the abstraction. -/
theorem stream_of_running (h : Streaming cube s) (hrun : s.spi.running = true) :
    (stream cube s).sending = some (sentBytes s.mem s.events) ∧
      (stream cube s).frames.getLast? = some (frame cube s.mem) := by
  obtain ⟨-, -, -, hlast⟩ := h.of_running hrun
  refine ⟨if_pos hrun, ?_⟩
  rw [stream, List.getLast?_map, hlast]
  rfl

/-- A transfer that returns is added behind those before it. -/
theorem transfers_append (h : Streaming cube s) (hrun : s.spi.running = true)
    (run : TransferRun) : List.zipWith sentBy (s.calls ++ [run]) s.cubes =
      List.zipWith sentBy s.calls s.cubes ++ [sentBy run s.mem] := by
  obtain ⟨-, hlength, -, hlast⟩ := h.of_running hrun
  have hbegun := h.counted.begun
  rw [hrun, Bool.toNat_true] at hbegun
  obtain ⟨before, hcubes⟩ := List.getLast?_eq_some_iff.mp hlast
  have hbefore : s.calls.length = before.length := by
    rw [hcubes, List.length_append, List.length_singleton] at hlength
    omega
  rw [hcubes, List.zipWith_append hbefore, zipWith_append_right sentBy hbefore.le]
  rfl

variable (h4 : 4 ∣ cube.dataSize.toNat)

include h4

/-- What the call has sent when it is at chunk `i`. -/
theorem sentBytes_of_mcspiTransfer (h : Streaming cube s) {l : TransferLocals}
    (hspi : s.spi = .mcspiTransfer l) : ∃ i < chunkCount cube.dataSize.toNat,
      sentBytes s.mem s.events =
        bufferBytes s.mem cube.data (min (65280 * i) cube.dataSize.toNat) := by
  have hchunks := h.transfer.chunks
  rw [hspi] at hchunks
  obtain ⟨i, hi, -, hevents⟩ := hchunks
  refine ⟨i, hi, ?_⟩
  rw [hevents, sentBytes_append, sentBytes_chunkEvents h4 hi.le]
  exact List.append_nil _

theorem stream_sent (h : Streaming cube s) {l : TransferLocals} (hspi : s.spi = .mcspiTransfer l) :
    BlockStream.step (stream cube s) (.sent ((l.spiTransaction s.cached.data).bytes s.mem)) =
      some (stream cube (next s (.transferSucceeds l))) := by
  have hrun : s.spi.running = true := by rw [hspi]; rfl
  obtain ⟨hsending, hframe⟩ := stream_of_running h hrun
  have hbytes : sentBytes s.mem s.events ++ (l.spiTransaction s.cached.data).bytes s.mem =
      sentBytes s.mem (next s (.transferSucceeds l)).events := by
    rw [next, sentBytes_append, sentBytes]
    congr 1
    exact (List.append_nil _).symm
  have hprefix : sentBytes s.mem s.events ++ (l.spiTransaction s.cached.data).bytes s.mem <+:
      frame cube s.mem := by
    -- behind the transaction the call is at the head of its loop
    obtain ⟨i, hi, -, hevents⟩ :=
      (streaming_next h (a := .transferSucceeds l) hspi).transfer.chunks
    rw [hbytes, hevents, sentBytes_chunkEvents h4 hi]
    exact bufferBytes_prefix _ (min_le_right _ _)
  rw [BlockStream.step, hsending, hframe]
  dsimp only
  rw [if_pos hprefix, hbytes]
  rfl

theorem stream_failed (h : Streaming cube s) {l : TransferLocals} {transferOK : Int32}
    (hspi : s.spi = .mcspiTransfer l) (hbad : transferOK ≠ systemPSuccess) :
    BlockStream.step (stream cube s) (.finished false) =
      some (stream cube (next s (.transferFails l transferOK))) := by
  have hrun : s.spi.running = true := by rw [hspi]; rfl
  obtain ⟨i, hi, hsent⟩ := sentBytes_of_mcspiTransfer h4 h hspi
  obtain ⟨hsending, hframe⟩ := stream_of_running h hrun
  have hpart : sentBytes s.mem s.events ≠ frame cube s.mem := by
    rw [hsent]
    exact bufferBytes_ne_frame hi
  have hrunBytes : sentBy ⟨s.events ++ [.transfer (l.spiTransaction s.cached.data) transferOK],
      transferOK⟩ s.mem = (sentBytes s.mem s.events, false) := by
    rw [sentBy, sentBytes_append, sentBytes, sentBytes]
    simp [completed, hbad]
  rw [BlockStream.step, hsending, hframe]
  dsimp only
  rw [if_pos (decide_eq_false hpart).symm]
  refine congrArg some (Stream.ext rfl ?_ rfl)
  rw [stream, stream, next, transfers_append h hrun, hrunBytes]

theorem stream_done (h : Streaming cube s) {l : TransferLocals} (hspi : s.spi = .loopHead l)
    (hdone : ¬ 0 < l.bytesRemaining) : BlockStream.step (stream cube s) (.finished true) =
      some (stream cube (next s (.leaveLoop l))) := by
  have hrun : s.spi.running = true := by rw [hspi]; rfl
  have hT : cube.dataSize.toNat < 2 ^ 32 := cube.dataSize.toNat_lt
  have hchunks := h.transfer.chunks
  rw [hspi] at hchunks
  obtain ⟨i, hi, rfl, hevents⟩ := hchunks
  have hend : i = chunkCount cube.dataSize.toNat := by
    by_contra hne
    exact hdone (chunkLocals_bytesRemaining_pos hT (lt_chunkCount_iff.mp (by omega)))
  obtain ⟨hsending, hframe⟩ := stream_of_running h hrun
  have hwhole : sentBytes s.mem s.events = frame cube s.mem := by
    rw [hevents, sentBytes_chunkEvents h4 hi, hend, min_eq_right (le_chunkCount_mul _), frame]
  have hrunBytes : sentBy ⟨s.events, systemPSuccess⟩ s.mem = (sentBytes s.mem s.events, true) :=
    rfl
  rw [BlockStream.step, hsending, hframe]
  dsimp only
  rw [if_pos (decide_eq_true hwhole).symm]
  refine congrArg some (Stream.ext rfl ?_ rfl)
  rw [stream, stream, next, transfers_append h hrun, hrunBytes]

omit h4 in
/-- An action that shows nothing leaves the abstraction as it is. -/
theorem stream_silent (h : Streaming cube s) (ha : Enabled (some cube) s a)
    (hsilent : streamEvents cube s a = []) : stream cube (next s a) = stream cube s := by
  cases a with
  | process retVal =>
      have hret : retVal < 0 := by
        by_contra hret
        rw [streamEvents, if_neg hret] at hsilent
        cases hsilent
      exact stream_congr (if_pos hret) rfl rfl fun _ => rfl
  | createSpiTask =>
      have hspi := h.handoff.spi_created.mpr (Or.inr (Or.inr ha))
      have hrun : s.spi.running = false := by rw [hspi]; rfl
      exact stream_congr rfl rfl hrun.symm fun hrun' => absurd (hrun.symm.trans hrun') (by decide)
  | cacheRadarCube | postSpiTxDone =>
      have hrun : s.spi.running = false := by rw [show s.spi = _ from ha]; rfl
      exact stream_congr rfl rfl hrun.symm fun hrun' => absurd (hrun.symm.trans hrun') (by decide)
  | beginChunk l =>
      have hrun : s.spi.running = true := by rw [ha.1]; rfl
      refine stream_congr rfl rfl hrun.symm fun _ => ?_
      rw [next, sentBytes_append]
      exact List.append_nil _
  | dpuWrite mem =>
      refine stream_congr rfl rfl rfl fun hrun => ?_
      have harmed := (h.of_running hrun).1
      rw [show s.dpuArmed = true from ha] at harmed
      cases harmed
  | pendSpiTxStart | transferSucceeds | transferFails | leaveLoop => cases hsilent
  | createDpcTask | pendDpcCfgDone | startSensor | resetPools | rangeProcConfig | postDpcCfgDone
  | registerInterrupt | triggerProc | postSpiTxStart | pendSpiTxDone =>
      exact stream_congr rfl rfl rfl fun _ => rfl

/-- An action of a task is what it shows, in the abstraction. -/
theorem stream_next (h : Streaming cube s) (ha : Enabled (some cube) s a) :
    replay BlockStream.step (stream cube s) (streamEvents cube s a) =
      some (stream cube (next s a)) := by
  by_cases hsilent : streamEvents cube s a = []
  · rw [hsilent, stream_silent h ha hsilent]
    rfl
  cases a with
  | process retVal =>
      have hret : ¬ retVal < 0 := fun hret => hsilent (if_pos hret)
      rw [streamEvents, if_neg hret]
      exact replay_singleton (stream_captured h ha hret)
  | pendSpiTxStart => exact replay_singleton (stream_started h ha)
  | transferSucceeds l => exact replay_singleton (stream_sent h4 h ha)
  | transferFails l transferOK => exact replay_singleton (stream_failed h4 h ha.1 ha.2)
  | leaveLoop l => exact replay_singleton (stream_done h4 h ha.1 ha.2)
  | createDpcTask | pendDpcCfgDone | createSpiTask | startSensor | resetPools | rangeProcConfig
  | postDpcCfgDone | registerInterrupt | triggerProc | postSpiTxStart | pendSpiTxDone
  | cacheRadarCube | beginChunk | postSpiTxDone | dpuWrite => exact absurd rfl hsilent

end Step

section Run

variable {cube : RadarCube} {mem : Memory} {s : State} {as : List Action}

/-- What a schedule shows. -/
def shown (cube : RadarCube) (mem : Memory) (as : List Action) : List (Event UInt8) :=
  trace (step (some cube)) (streamEvents cube) (boot mem) as

theorem replay_shown (h4 : 4 ∣ cube.dataSize.toNat)
    (h : replay (step (some cube)) (boot mem) as = some s) :
    replay BlockStream.step start (shown cube mem as) = some (stream cube s) := by
  have hboot : stream cube (boot mem) = start := rfl
  rw [← hboot]
  refine replay_trace (I := Streaming cube) (fun s a t hs hstep => ?_) (streaming_boot mem) h
  obtain ⟨ha, rfl⟩ := step_eq_some.mp hstep
  exact ⟨streaming_next hs ha, stream_next h4 hs ha⟩

theorem getElem?_transfers {k : ℕ} {run : TransferRun} {captured : Memory}
    (hrun : s.calls[k]? = some run) (hcaptured : s.cubes[k]? = some captured) :
    (stream cube s).transfers[k]? = some (sentBy run captured) := by
  rw [stream, List.getElem?_zipWith, hrun, hcaptured]

/-- A call of `spi_transfer_buffer` has sent a prefix of its frame, all of it exactly
when it returns success. -/
theorem sent_of_call (h4 : 4 ∣ cube.dataSize.toNat)
    (h : replay (step (some cube)) (boot mem) as = some s) {k : ℕ} {run : TransferRun}
    (hrun : s.calls[k]? = some run) :
    ∃ captured, s.cubes[k]? = some captured ∧
      sentBytes captured run.events <+: frame cube captured ∧
      (run.ret = systemPSuccess ↔ sentBytes captured run.events = frame cube captured) := by
  have hs : Streaming cube s := streaming_of_reachable ⟨as, h⟩
  have hfaithful := faithful_of_replay (replay_shown h4 h)
  have hk : k < s.cubes.length := by
    obtain ⟨hcalls, hbegun, -, -⟩ := hs.in_order
    have hlt := (List.getElem?_eq_some_iff.mp hrun).1
    omega
  obtain ⟨captured, hcaptured⟩ : ∃ captured, s.cubes[k]? = some captured :=
    ⟨_, List.getElem?_eq_getElem hk⟩
  have hframe : (stream cube s).frames[k]? = some (frame cube captured) := by
    rw [stream, List.getElem?_map, hcaptured]
    rfl
  obtain ⟨hsent, hcomplete⟩ :=
    hfaithful.transferred k _ _ hframe (getElem?_transfers hrun hcaptured)
  exact ⟨captured, hcaptured, hsent, decide_eq_true_iff.symm.trans hcomplete⟩

theorem sent_of_success (h4 : 4 ∣ cube.dataSize.toNat)
    (h : replay (step (some cube)) (boot mem) as = some s)
    (hall : ∀ run ∈ s.calls, run.ret = systemPSuccess) :
    (stream cube s).transfers.flatMap Prod.fst =
      (s.cubes.take s.calls.length).flatMap (frame cube) := by
  have hcomplete : ∀ t ∈ (stream cube s).transfers, t.2 = true := by
    intro t ht
    obtain ⟨k, hk⟩ := List.getElem?_of_mem ht
    rw [stream, List.getElem?_zipWith] at hk
    cases hrun : s.calls[k]? with
    | none => simp [hrun] at hk
    | some run =>
        cases hcaptured : s.cubes[k]? with
        | none => simp [hrun, hcaptured] at hk
        | some captured =>
            rw [hrun, hcaptured] at hk
            obtain rfl := Option.some.inj hk
            exact decide_eq_true (hall run (List.mem_of_getElem? hrun))
  have hdelivered := (faithful_of_replay (replay_shown h4 h)).delivered hcomplete
  rw [length_transfers (streaming_of_reachable ⟨as, h⟩)] at hdelivered
  rw [List.flatMap_def, hdelivered, stream, ← List.map_take, List.flatMap_def]

end Run

/-- Every schedule, with every pattern of failures, refines the stream of frames: what it
shows is a run of the abstract system that ends in the abstraction of its state. So the
`k`-th call of `spi_transfer_buffer` has sent a prefix of the `k`-th frame, all of it
exactly when it returns success, and the calls of a run without a failure have sent
the frames in order. -/
theorem stream_refines (cube : RadarCube) (h4 : 4 ∣ cube.dataSize.toNat) (mem : Memory) {s : State}
    {as : List Action} (h : replay (step (some cube)) (boot mem) as = some s) :
    replay BlockStream.step start (shown cube mem as) = some (stream cube s) ∧
      (∀ (k : ℕ) run, s.calls[k]? = some run → ∃ captured, s.cubes[k]? = some captured ∧
        sentBytes captured run.events <+: frame cube captured ∧
        (run.ret = systemPSuccess ↔ sentBytes captured run.events = frame cube captured)) ∧
      ((∀ run ∈ s.calls, run.ret = systemPSuccess) →
        (stream cube s).transfers.flatMap Prod.fst =
          (s.cubes.take s.calls.length).flatMap (frame cube)) :=
  ⟨replay_shown h4 h, fun _ _ hrun => sent_of_call h4 h hrun, sent_of_success h4 h⟩

def oneFrame : List Action :=
  firstTransfer ++ [.transferSucceeds ⟨4, 0⟩, .leaveLoop ⟨0, 1⟩]

theorem stream_refines_oneFrame :
    ∃ s, replay (step (some ⟨4096, 4⟩)) (boot fun a => a.toUInt8) oneFrame = some s ∧
      s.calls.length = 1 ∧
      (stream ⟨4096, 4⟩ s).transfers.flatMap Prod.fst =
        (s.cubes.take 1).flatMap (frame ⟨4096, 4⟩) := by
  have hrun : replay (step (some ⟨4096, 4⟩)) (boot fun a => a.toUInt8) oneFrame = some _ := rfl
  exact ⟨_, hrun, rfl, (stream_refines ⟨4096, 4⟩ (by decide) _ hrun).2.2 (by decide)⟩

end RadarStream
