import RadarStream.Spi.Busy
import RadarStream.Tasks.Frames

/-!
# The SPI_BUSY line among the tasks

`spiTask` runs `spi_transmit_loop` while the other tasks go on, and the host watches the
`SPI_BUSY` line. `spiRun` is what `spiTask` does in a schedule: always the start of a run
of the loop on its own (`SpiHistory.exists_loop`). The line is low while a chunk is on the
wire, when the cube is not written. A failed transfer leaves it low (`leftLow`) up to the
next chunk, which then has no transition of its own: the host sees one transition less
for each failed transfer, and the DPU may write the cube while the line is low.
-/

namespace RadarStream

open Replay

/-- The events of `spiTask` in an action of the tasks. -/
def spiEvents (s : State) : Action → List SpiEvent
  | .pendSpiTxStart => [.pendStart]
  | .beginChunk l => [.iteration l, .pinWriteLow]
  | .transferSucceeds l =>
      [.transfer (l.spiTransaction s.cached.data) systemPSuccess, .pinWriteHigh]
  | .transferFails l transferOK =>
      [.transfer (l.spiTransaction s.cached.data) transferOK, .returned transferOK]
  | .leaveLoop _ => [.returned systemPSuccess]
  | .postSpiTxDone => [.postDone]
  | .createDpcTask | .pendDpcCfgDone | .createSpiTask | .startSensor _ | .resetPools
  | .rangeProcConfig _ | .postDpcCfgDone | .registerInterrupt _ _ | .triggerProc _ | .process _
  | .postSpiTxStart | .pendSpiTxDone | .cacheRadarCube | .dpuWrite _ => []

/-- What `spiTask` does in a schedule. -/
def spiRun (cube : RadarCube) (mem : Memory) (as : List Action) : List SpiEvent :=
  trace (step (some cube)) spiEvents (boot mem) as

def SpiPc.sends : SpiPc → Bool
  | .mcspiTransfer _ => true
  | .notCreated | .cacheRadarCube | .pendSpiTxStart | .loopHead _ | .postSpiTxDone => false

/-- The last call failed, and no chunk was begun since. -/
def leftLow (s : State) : Bool :=
  (s.calls.getLast?.any fun run => decide (run.ret ≠ systemPSuccess)) &&
    (!s.spi.running || s.events.isEmpty)

/-- The high-to-low transitions of the line, from its level before the events. -/
def pinFalls : Bool → List SpiEvent → ℕ
  | _, [] => 0
  | level, e :: events =>
      (level && !SpiEvent.drive level e).toNat + pinFalls (SpiEvent.drive level e) events

/-- The high-to-low transitions of a line that was high before the events. -/
def busyFalls (events : List SpiEvent) : ℕ := pinFalls true events

def chunksBegun (events : List SpiEvent) : ℕ := events.count .pinWriteLow

def SpiEvent.isFailure : SpiEvent → Bool
  | .transfer _ transferOK => decide (transferOK ≠ systemPSuccess)
  | .iteration _ | .pinWriteLow | .pinWriteHigh | .returned _ | .pendStart | .postDone => false

def failedTransfers (events : List SpiEvent) : ℕ := events.countP SpiEvent.isFailure

section Loop

variable {ptr bytes : UInt32} {mcspi mcspi' : ℕ → Int32} {n : ℕ}

/-- A call depends on the results of its own transfers only. -/
theorem spiTransferBuffer_congr
    (h : ∀ i < (transactions (spiTransferBuffer ptr bytes mcspi 0).events).length,
      mcspi' (n + i) = mcspi i) :
    spiTransferBuffer ptr bytes mcspi' n = spiTransferBuffer ptr bytes mcspi 0 := by
  have hlength : ∀ j, (transactions ((List.range j).flatMap
      (chunkEvents ptr bytes.toNat))).length = j := by
    intro j
    rw [(observe_chunkEvents ptr bytes.toNat _).1, List.length_map, List.length_range]
  rcases success_or_first_failure mcspi 0 (chunkCount bytes.toNat) with hok | ⟨j, hj, hbad, hok⟩
  · rw [spiTransferBuffer_success hok] at h ⊢
    refine spiTransferBuffer_success fun i hi => ?_
    rw [h i ((hlength _).symm ▸ hi), ← hok i hi, Nat.zero_add]
  · rw [spiTransferBuffer_failure hj hok hbad] at h ⊢
    have hsame : ∀ i ≤ j, mcspi' (n + i) = mcspi (0 + i) := by
      intro i hi
      rw [Nat.zero_add]
      refine h i ?_
      rw [transactions_append, List.length_append, hlength]
      exact Nat.lt_succ_of_le hi
    rw [← hsame j le_rfl] at hbad ⊢
    exact spiTransferBuffer_failure hj (fun i hi => (hsame i hi.le).trans (hok i hi)) hbad

theorem spiTransferBuffer_eq_shift (mcspi : ℕ → Int32) (n : ℕ) :
    spiTransferBuffer ptr bytes mcspi n =
      spiTransferBuffer ptr bytes (fun i => mcspi (n + i)) 0 :=
  spiTransferBuffer_congr fun _ _ => rfl

theorem spiTransmitLoop_congr (h : ∀ i, n ≤ i → mcspi i = mcspi' i) (frames : ℕ) :
    spiTransmitLoop ptr bytes mcspi frames n = spiTransmitLoop ptr bytes mcspi' frames n := by
  induction frames generalizing n with
  | zero => rw [spiTransmitLoop, spiTransmitLoop]
  | succ frames ih =>
      have hcall : spiTransferBuffer ptr bytes mcspi n = spiTransferBuffer ptr bytes mcspi' n := by
        rw [spiTransferBuffer_eq_shift mcspi, spiTransferBuffer_eq_shift mcspi']
        have hsame : (fun i => mcspi (n + i)) = fun i => mcspi' (n + i) := by
          funext i
          exact h _ (Nat.le_add_right n i)
        rw [hsame]
      rw [spiTransmitLoop_succ, spiTransmitLoop_succ, hcall,
        ih fun i hi => h i ((Nat.le_add_right n _).trans hi)]

/-- The events of one turn of `spi_transmit_loop`. -/
def frameEvents (run : TransferRun) : List SpiEvent :=
  .pendStart :: run.events ++ [.returned run.ret, .postDone]

/-- The calls of a list are those of one run of the loop, whatever each call found. -/
theorem exists_spiTransmitLoop (calls : List TransferRun)
    (hcalls : ∀ run ∈ calls, ∃ mcspi, run = spiTransferBuffer ptr bytes mcspi 0) (n : ℕ) :
    ∃ mcspi, spiTransmitLoop ptr bytes mcspi calls.length n =
      calls.flatMap frameEvents ++ [.pendStart] := by
  induction calls generalizing n with
  | nil => exact ⟨fun _ => systemPSuccess, rfl⟩
  | cons run calls ih =>
      obtain ⟨first, rfl⟩ := hcalls run List.mem_cons_self
      let k := (transactions (spiTransferBuffer ptr bytes first 0).events).length
      obtain ⟨rest, hrest⟩ := ih (fun run hrun => hcalls run (List.mem_cons_of_mem _ hrun)) (n + k)
      -- the results of the first call, and behind them those of the others
      let mcspi i := if i < n + k then first (i - n) else rest i
      have hfirst : spiTransferBuffer ptr bytes mcspi n = spiTransferBuffer ptr bytes first 0 := by
        refine spiTransferBuffer_congr fun i hi => ?_
        have hlt : n + i < n + k := Nat.add_lt_add_left hi n
        simp only [mcspi, if_pos hlt, Nat.add_sub_cancel_left]
      have hothers : spiTransmitLoop ptr bytes mcspi calls.length (n + k) =
          spiTransmitLoop ptr bytes rest calls.length (n + k) :=
        spiTransmitLoop_congr (fun i hi => if_neg (Nat.not_lt.mpr hi)) _
      refine ⟨mcspi, ?_⟩
      rw [List.length_cons, spiTransmitLoop_succ, hfirst, hothers, hrest, List.flatMap_cons,
        ← List.append_assoc, frameEvents]

theorem exists_loop_of_calls {calls : List TransferRun} {events : List SpiEvent}
    (hcalls : ∀ run ∈ calls, ∃ mcspi, run = spiTransferBuffer ptr bytes mcspi 0)
    (h : events <+: calls.flatMap frameEvents) :
    ∃ mcspi frames, events <+: spiTransmitLoop ptr bytes mcspi frames 0 := by
  obtain ⟨mcspi, hloop⟩ := exists_spiTransmitLoop calls hcalls 0
  exact ⟨mcspi, calls.length, hloop ▸ h.trans (List.prefix_append _ _)⟩

end Loop

section Step

variable {cube : RadarCube} {s : State} {a : Action} {events : List SpiEvent}

/-- What `spiTask` has done is kept in the state: the calls that have returned, and the
events of the call that runs. -/
def SpiHistory (s : State) (events : List SpiEvent) : Prop :=
  match s.spi with
  | .notCreated | .cacheRadarCube | .pendSpiTxStart => events = s.calls.flatMap frameEvents
  | .loopHead _ | .mcspiTransfer _ =>
      events = s.calls.flatMap frameEvents ++ .pendStart :: s.events
  | .postSpiTxDone => events ++ [.postDone] = s.calls.flatMap frameEvents

theorem spiHistory_next (hs : Handoff s) (h : SpiHistory s events)
    (ha : Enabled (some cube) s a) : SpiHistory (next s a) (events ++ spiEvents s a) := by
  cases a with
  | createSpiTask =>
      have hspi := hs.spi_created.mpr (Or.inr (Or.inr ha))
      rw [SpiHistory, hspi] at h
      exact (List.append_nil _).trans h
  | cacheRadarCube =>
      rw [SpiHistory, show s.spi = _ from ha] at h
      exact (List.append_nil _).trans h
  | pendSpiTxStart =>
      rw [SpiHistory, ha.1] at h
      exact congrArg (· ++ [SpiEvent.pendStart]) h
  | beginChunk l =>
      rw [SpiHistory, ha.1] at h
      rw [SpiHistory, h, List.append_assoc]
      rfl
  | transferSucceeds l =>
      rw [SpiHistory, show s.spi = _ from ha] at h
      rw [SpiHistory, h, List.append_assoc]
      rfl
  | transferFails l transferOK =>
      rw [SpiHistory, ha.1] at h
      simp [SpiHistory, next, h, spiEvents, frameEvents]
  | leaveLoop l =>
      rw [SpiHistory, ha.1] at h
      simp [SpiHistory, next, h, spiEvents, frameEvents]
  | postSpiTxDone =>
      rw [SpiHistory, show s.spi = _ from ha] at h
      exact h
  | _ => rwa [spiEvents, List.append_nil]

/-- What a running call has done is the start of what it does when no transfer fails. -/
theorem events_start (h : Streaming cube s) (hrun : s.spi.running = true) :
    s.events <+: (List.range (chunkCount cube.dataSize.toNat)).flatMap
      (chunkEvents cube.data cube.dataSize.toNat) := by
  have hstart : ∀ i ≤ chunkCount cube.dataSize.toNat,
      (List.range i).flatMap (chunkEvents cube.data cube.dataSize.toNat) <+:
        (List.range (chunkCount cube.dataSize.toNat)).flatMap
          (chunkEvents cube.data cube.dataSize.toNat) := by
    intro i hi
    obtain ⟨k, hk⟩ := Nat.exists_eq_add_of_le hi
    rw [hk, List.range_add, List.flatMap_append]
    exact List.prefix_append _ _
  have hchunks := h.transfer.chunks
  cases hspi : s.spi with
  | loopHead l =>
      rw [hspi] at hchunks
      obtain ⟨i, hi, -, hevents⟩ := hchunks
      rw [hevents]
      exact hstart i hi
  | mcspiTransfer l =>
      rw [hspi] at hchunks
      obtain ⟨i, hi, rfl, hevents⟩ := hchunks
      refine List.IsPrefix.trans ?_ (hstart (i + 1) hi)
      rw [hevents, List.range_succ, List.flatMap_append, List.flatMap_singleton]
      exact (List.prefix_append_right_inj _).mpr (List.prefix_append _ _)
  | notCreated | cacheRadarCube | pendSpiTxStart | postSpiTxDone =>
      rw [hspi] at hrun
      cases hrun

theorem exists_loop_of_running (h : Streaming cube s) (hrun : s.spi.running = true)
    (hevents : events = s.calls.flatMap frameEvents ++ .pendStart :: s.events) :
    ∃ mcspi frames, events <+: spiTransmitLoop cube.data cube.dataSize mcspi frames 0 := by
  -- the call that runs, as it goes on when no transfer fails
  let call := spiTransferBuffer cube.data cube.dataSize (fun _ => systemPSuccess) 0
  have hcall : call = ⟨_, systemPSuccess⟩ := spiTransferBuffer_success fun _ _ => rfl
  have hcalls : ∀ run ∈ s.calls ++ [call],
      ∃ mcspi, run = spiTransferBuffer cube.data cube.dataSize mcspi 0 := by
    intro run hmem
    rcases List.mem_append.mp hmem with hmem | hmem
    · exact h.transfer.returned run hmem
    · exact ⟨_, List.mem_singleton.mp hmem⟩
  refine exists_loop_of_calls hcalls ?_
  rw [hevents, List.flatMap_append, List.flatMap_singleton, hcall, frameEvents, List.cons_append]
  refine (List.prefix_append_right_inj _).mpr ((List.prefix_cons_inj _).mpr ?_)
  exact (events_start h hrun).trans (List.prefix_append _ _)

theorem SpiHistory.exists_loop (h : Streaming cube s) (hevents : SpiHistory s events) :
    ∃ mcspi frames, events <+: spiTransmitLoop cube.data cube.dataSize mcspi frames 0 := by
  have hcalls := h.transfer.returned
  cases hspi : s.spi with
  | notCreated | cacheRadarCube | pendSpiTxStart =>
      rw [SpiHistory, hspi] at hevents
      exact exists_loop_of_calls hcalls (hevents ▸ List.prefix_rfl)
  | loopHead l | mcspiTransfer l =>
      rw [SpiHistory, hspi] at hevents
      exact exists_loop_of_running h (by rw [hspi]; rfl) hevents
  | postSpiTxDone =>
      rw [SpiHistory, hspi] at hevents
      exact exists_loop_of_calls hcalls (hevents ▸ List.prefix_append _ _)

theorem pinFalls_append (start : Bool) (xs ys : List SpiEvent) :
    pinFalls start (xs ++ ys) = pinFalls start xs + pinFalls (pinLevel start xs) ys := by
  induction xs generalizing start with
  | nil => rw [List.nil_append, pinFalls, Nat.zero_add, pinLevel, List.foldl_nil]
  | cons e xs ih =>
      rw [List.cons_append, pinFalls, pinFalls, ih, pinLevel, pinLevel, List.foldl_cons,
        Nat.add_assoc]

/-- The level of the line and the transitions counted on it. -/
structure LineLaw (s : State) (events : List SpiEvent) : Prop where
  level : busyLevel events = !(s.spi.sends || leftLow s)
  falls : busyFalls events + failedTransfers events = chunksBegun events + (leftLow s).toNat

theorem leftLow_of_running (hrun : s.spi.running = true) (hevents : s.events ≠ []) :
    leftLow s = false := by
  rw [leftLow, hrun, List.isEmpty_eq_false_iff.mpr hevents]
  exact Bool.and_false _

/-- A call that leaves its loop has found the line high, for where a call has failed there
is a chunk to send. -/
theorem leftLow_of_leaveLoop (h : Streaming cube s) {l : TransferLocals}
    (hspi : s.spi = .loopHead l) (hdone : ¬ 0 < l.bytesRemaining) : leftLow s = false := by
  have hchunks := h.transfer.chunks
  rw [hspi] at hchunks
  obtain ⟨i, hi, rfl, hevents⟩ := hchunks
  by_cases hnone : chunkCount cube.dataSize.toNat = 0
  · have hall : ∀ run ∈ s.calls, run.ret = systemPSuccess := by
      intro run hmem
      obtain ⟨mcspi, rfl⟩ := h.transfer.returned run hmem
      rw [spiTransferBuffer_success (by simp [hnone])]
    rw [leftLow, Bool.and_eq_false_iff]
    refine Or.inl ?_
    cases hlast : s.calls.getLast? with
    | none => rfl
    | some run => simp [hall run (List.mem_of_getLast? hlast)]
  · have hend : i ≠ 0 := by
      rintro rfl
      exact hdone (chunkLocals_bytesRemaining_pos cube.dataSize.toNat_lt
        (lt_chunkCount_iff.mp (Nat.pos_of_ne_zero hnone)))
    refine leftLow_of_running (by rw [hspi]; rfl) ?_
    obtain ⟨j, rfl⟩ := Nat.exists_eq_succ_of_ne_zero hend
    rw [hevents, List.range_succ_eq_map, List.flatMap_cons]
    simp [chunkEvents]

/-- Where no call has begun a chunk, it is the last call that counts. -/
theorem leftLow_eq (h : s.spi.running = true → s.events = []) :
    leftLow s = s.calls.getLast?.any fun run => decide (run.ret ≠ systemPSuccess) := by
  rw [leftLow]
  cases hrun : s.spi.running with
  | false => exact Bool.and_true _
  | true =>
      rw [h hrun]
      exact Bool.and_true _

theorem leftLow_congr {t : State} (hcalls : t.calls = s.calls)
    (hs : s.spi.running = true → s.events = []) (ht : t.spi.running = true → t.events = []) :
    leftLow t = leftLow s := by
  rw [leftLow_eq hs, leftLow_eq ht, hcalls]

theorem leftLow_of_mcspiTransfer (h : Streaming cube s) {l : TransferLocals}
    (hspi : s.spi = .mcspiTransfer l) : leftLow s = false := by
  refine leftLow_of_running (by rw [hspi]; rfl) ?_
  have hchunks := h.transfer.chunks
  rw [hspi] at hchunks
  obtain ⟨i, -, -, hevents⟩ := hchunks
  simp [hevents]

theorem lineLaw_boot (mem : Memory) : LineLaw (boot mem) [] := ⟨rfl, rfl⟩

variable {t : State} {new : List SpiEvent}

theorem LineLaw.append (h : LineLaw s events)
    (hlevel : pinLevel (!(s.spi.sends || leftLow s)) new = !(t.spi.sends || leftLow t))
    (hfalls : pinFalls (!(s.spi.sends || leftLow s)) new + failedTransfers new +
      (leftLow s).toNat = chunksBegun new + (leftLow t).toNat) :
    LineLaw t (events ++ new) where
  level := by
    rw [← h.level] at hlevel
    exact (pinLevel_append true).trans hlevel
  falls := by
    have hbefore := h.falls
    have hsplit : busyFalls (events ++ new) =
        busyFalls events + pinFalls (busyLevel events) new := pinFalls_append true events new
    rw [← h.level] at hfalls
    rw [hsplit, failedTransfers, List.countP_append, chunksBegun, List.count_append]
    rw [failedTransfers, chunksBegun] at hbefore hfalls
    omega

/-- An event that leaves the line as it is, and begins and ends no chunk. -/
theorem LineLaw.quiet (h : LineLaw s events) (hsends : t.spi.sends = s.spi.sends)
    (hlow : leftLow t = leftLow s) (hnew : new = [] ∨ ∃ e, e.isIdle = true ∧ new = [e]) :
    LineLaw t (events ++ new) := by
  rcases hnew with rfl | ⟨e, he, rfl⟩
  · exact h.append (by rw [hsends, hlow]; rfl) (by rw [hlow]; rfl)
  · refine h.append ?_ ?_
    · rw [hsends, hlow]
      cases e <;> first | rfl | cases he
    · rw [hlow]
      cases e with
      | returned | pendStart | postDone => cases s.spi.sends <;> cases leftLow s <;> rfl
      | iteration | pinWriteLow | transfer | pinWriteHigh => cases he

theorem lineLaw_next (hs : Streaming cube s) (h : LineLaw s events)
    (ha : Enabled (some cube) s a) : LineLaw (next s a) (events ++ spiEvents s a) := by
  cases a with
  | createSpiTask =>
      have hspi := hs.handoff.spi_created.mpr (Or.inr (Or.inr ha))
      refine h.quiet (by rw [hspi]; rfl) ?_ (Or.inl rfl)
      exact leftLow_congr rfl (by simp [hspi, SpiPc.running]) (by simp [next, SpiPc.running])
  | cacheRadarCube =>
      have hspi : s.spi = .cacheRadarCube := ha
      refine h.quiet (by rw [hspi]; rfl) ?_ (Or.inl rfl)
      exact leftLow_congr rfl (by simp [hspi, SpiPc.running]) (by simp [next, SpiPc.running])
  | pendSpiTxStart =>
      obtain ⟨hspi, -⟩ := ha
      refine h.quiet (by rw [hspi]; rfl) ?_ (Or.inr ⟨.pendStart, rfl, rfl⟩)
      exact leftLow_congr rfl (by simp [hspi, SpiPc.running]) (by simp [next])
  | postSpiTxDone =>
      have hspi : s.spi = .postSpiTxDone := ha
      refine h.quiet (by rw [hspi]; rfl) ?_ (Or.inr ⟨.postDone, rfl, rfl⟩)
      exact leftLow_congr rfl (by simp [hspi, SpiPc.running]) (by simp [next, SpiPc.running])
  | beginChunk l =>
      obtain ⟨hspi, -⟩ := ha
      have hafter : leftLow (next s (.beginChunk l)) = false :=
        leftLow_of_running rfl (by simp [next])
      refine h.append ?_ ?_
      · rw [hafter]
        rfl
      · rw [hafter, hspi]
        cases leftLow s <;> rfl
  | transferSucceeds l =>
      have hspi : s.spi = .mcspiTransfer l := ha
      have hbefore := leftLow_of_mcspiTransfer hs hspi
      have hafter : leftLow (next s (.transferSucceeds l)) = false :=
        leftLow_of_running rfl (by simp [next])
      refine h.append ?_ ?_
      · rw [hafter]
        rfl
      · rw [hafter, hbefore, hspi]
        rfl
  | transferFails l transferOK =>
      obtain ⟨hspi, hbad⟩ := ha
      have hbefore := leftLow_of_mcspiTransfer hs hspi
      have hafter : leftLow (next s (.transferFails l transferOK)) = true := by
        rw [leftLow_eq (by simp [next, SpiPc.running])]
        simp [next, hbad]
      refine h.append ?_ ?_
      · rw [hafter, hbefore, hspi]
        rfl
      · rw [hafter, hbefore, hspi]
        simp [pinFalls, SpiEvent.drive, failedTransfers, chunksBegun, SpiEvent.isFailure,
          spiEvents, SpiPc.sends, hbad]
  | leaveLoop l =>
      obtain ⟨hspi, hdone⟩ := ha
      have hbefore := leftLow_of_leaveLoop hs hspi hdone
      refine h.quiet (by rw [hspi]; rfl) ?_ (Or.inr ⟨.returned systemPSuccess, rfl, rfl⟩)
      rw [hbefore, leftLow_eq (by simp [next, SpiPc.running])]
      simp [next]
  | createDpcTask | pendDpcCfgDone | startSensor | resetPools | rangeProcConfig | postDpcCfgDone
  | registerInterrupt | triggerProc | process | postSpiTxStart | pendSpiTxDone | dpuWrite =>
      exact h.quiet rfl rfl (Or.inl rfl)

end Step

section Counts

variable {cube : RadarCube} {s : State} {events : List SpiEvent}

theorem chunksBegun_append (xs ys : List SpiEvent) :
    chunksBegun (xs ++ ys) = chunksBegun xs + chunksBegun ys := List.count_append

theorem failedTransfers_append (xs ys : List SpiEvent) :
    failedTransfers (xs ++ ys) = failedTransfers xs + failedTransfers ys := List.countP_append

theorem counts_chunkEvents (txBuf : UInt32) (T : ℕ) (is : List ℕ) :
    chunksBegun (is.flatMap (chunkEvents txBuf T)) = is.length ∧
      failedTransfers (is.flatMap (chunkEvents txBuf T)) = 0 := by
  induction is with
  | nil => exact ⟨rfl, rfl⟩
  | cons i is ih =>
      rw [List.flatMap_cons, chunksBegun_append, failedTransfers_append, ih.1, ih.2,
        List.length_cons, Nat.add_comm]
      exact ⟨rfl, rfl⟩

theorem counts_frameEvents (run : TransferRun) :
    chunksBegun (frameEvents run) = chunksBegun run.events ∧
      failedTransfers (frameEvents run) = failedTransfers run.events := by
  have hsplit : frameEvents run =
      [.pendStart] ++ run.events ++ [.returned run.ret, .postDone] := rfl
  rw [hsplit, chunksBegun_append, chunksBegun_append, failedTransfers_append,
    failedTransfers_append]
  exact ⟨Nat.zero_add _, Nat.zero_add _⟩

theorem counts_of_success {run : TransferRun} {mcspi : ℕ → Int32}
    (hrun : run = spiTransferBuffer cube.data cube.dataSize mcspi 0)
    (hok : run.ret = systemPSuccess) :
    chunksBegun (frameEvents run) = chunkCount cube.dataSize.toNat ∧
      failedTransfers (frameEvents run) = 0 := by
  rw [(counts_frameEvents run).1, (counts_frameEvents run).2]
  rcases success_or_first_failure mcspi 0 (chunkCount cube.dataSize.toNat) with
    hall | ⟨j, hj, hbad, hbefore⟩
  · have hcounts := counts_chunkEvents cube.data cube.dataSize.toNat
      (List.range (chunkCount cube.dataSize.toNat))
    rw [List.length_range] at hcounts
    rw [hrun, spiTransferBuffer_success hall]
    exact hcounts
  · rw [hrun, spiTransferBuffer_failure hj hbefore hbad] at hok
    exact absurd hok hbad

theorem counts_of_calls {calls : List TransferRun}
    (hcalls : ∀ run ∈ calls, ∃ mcspi, run = spiTransferBuffer cube.data cube.dataSize mcspi 0)
    (hok : ∀ run ∈ calls, run.ret = systemPSuccess) :
    chunksBegun (calls.flatMap frameEvents) = chunkCount cube.dataSize.toNat * calls.length ∧
      failedTransfers (calls.flatMap frameEvents) = 0 := by
  induction calls with
  | nil => exact ⟨rfl, rfl⟩
  | cons run calls ih =>
      obtain ⟨mcspi, hrun⟩ := hcalls run List.mem_cons_self
      obtain ⟨hbegun, hfailed⟩ := counts_of_success hrun (hok run List.mem_cons_self)
      obtain ⟨hbegun', hfailed'⟩ := ih (fun run hmem => hcalls run (List.mem_cons_of_mem _ hmem))
        fun run hmem => hok run (List.mem_cons_of_mem _ hmem)
      rw [List.flatMap_cons, chunksBegun_append, failedTransfers_append, hbegun, hfailed, hbegun',
        hfailed', List.length_cons, Nat.mul_succ, Nat.add_comm]
      exact ⟨rfl, rfl⟩

/-- While a chunk is on the wire and no call has failed, the transitions say which chunk of
which frame it is. -/
theorem LineLaw.falls_eq (h : LineLaw s events) (hs : Streaming cube s)
    (hevents : SpiHistory s events) (hok : ∀ run ∈ s.calls, run.ret = systemPSuccess)
    {l : TransferLocals} (hspi : s.spi = .mcspiTransfer l) :
    busyFalls events =
      chunkCount cube.dataSize.toNat * s.calls.length + l.chunkIndex.toNat + 1 := by
  obtain ⟨hbegun, hfailed⟩ := counts_of_calls hs.transfer.returned hok
  have hfalls := h.falls
  have hchunks := hs.transfer.chunks
  rw [SpiHistory, hspi] at hevents
  rw [hspi] at hchunks
  obtain ⟨i, hi, rfl, hrunning⟩ := hchunks
  obtain ⟨hsent, hunfailed⟩ := counts_chunkEvents cube.data cube.dataSize.toNat (List.range i)
  rw [List.length_range] at hsent
  have hlast : chunksBegun [.iteration (chunkLocals cube.dataSize.toNat i), .pinWriteLow] = 1 ∧
      failedTransfers [.iteration (chunkLocals cube.dataSize.toNat i), .pinWriteLow] = 0 :=
    ⟨rfl, rfl⟩
  have hpend : chunksBegun [.pendStart] = 0 ∧ failedTransfers [.pendStart] = 0 := ⟨rfl, rfl⟩
  rw [leftLow_of_mcspiTransfer hs hspi, hevents, hrunning, ← List.singleton_append] at hfalls
  simp only [chunksBegun_append, failedTransfers_append, hbegun, hfailed, hsent, hunfailed,
    hlast.1, hlast.2, hpend.1, hpend.2, Bool.toNat_false] at hfalls
  rw [hevents, hrunning, ← List.singleton_append, toNat_chunkLocals_chunkIndex
    cube.dataSize.toNat_lt (lt_chunkCount_iff.mp hi)]
  omega

end Counts

/-- In every schedule, with every pattern of failures, and for a line that is high at
first: `spiTask` does the start of a run of `spi_transmit_loop` on its own; the line is low
exactly while a chunk is on the wire, and then nothing writes the cube captured last, or
where a failed call has left it low; the transitions to low and the failed transfers
together are the chunks that were begun, and one more where the line is left low; and
while no call has failed, the transitions tell the chunk on the wire and its frame. -/
theorem busy_line (cube : RadarCube) (mem : Memory) {s : State} {as : List Action}
    (h : replay (step (some cube)) (boot mem) as = some s) :
    (∃ mcspi frames, spiRun cube mem as <+:
        spiTransmitLoop cube.data cube.dataSize mcspi frames 0) ∧
      (busyLevel (spiRun cube mem as) = false ↔ s.spi.sends = true ∨ leftLow s = true) ∧
      (s.spi.sends = true → s.dpuArmed = false ∧ s.cubes.getLast? = some s.mem) ∧
      busyFalls (spiRun cube mem as) + failedTransfers (spiRun cube mem as) =
        chunksBegun (spiRun cube mem as) + (leftLow s).toNat ∧
      ((∀ run ∈ s.calls, run.ret = systemPSuccess) → ∀ l, s.spi = .mcspiTransfer l →
        busyFalls (spiRun cube mem as) =
          chunkCount cube.dataSize.toNat * s.calls.length + l.chunkIndex.toNat + 1) := by
  have hkept : Streaming cube s ∧ SpiHistory s (spiRun cube mem as) ∧
      LineLaw s (spiRun cube mem as) := by
    refine replay_trace_invariant
      (I := fun s events => Streaming cube s ∧ SpiHistory s events ∧ LineLaw s events)
      (fun s a t events hs hstep => ?_) ⟨streaming_boot mem, rfl, lineLaw_boot mem⟩ h
    obtain ⟨ha, rfl⟩ := step_eq_some.mp hstep
    obtain ⟨hs, hevents, hline⟩ := hs
    exact ⟨streaming_next hs ha, spiHistory_next hs.handoff hevents ha, lineLaw_next hs hline ha⟩
  obtain ⟨hs, hevents, hline⟩ := hkept
  refine ⟨hevents.exists_loop hs, ?_, fun hsends => ?_, hline.falls,
    fun hok l hspi => hline.falls_eq hs hevents hok hspi⟩
  · rw [hline.level, Bool.not_eq_false', Bool.or_eq_true]
  · have hrun : s.spi.running = true := by
      cases hspi : s.spi <;> simp_all [SpiPc.sends, SpiPc.running]
    obtain ⟨harmed, -, -, hlast⟩ := hs.of_running hrun
    exact ⟨harmed, hlast⟩

/-- The only chunk of the first frame fails, and `dpcTask` triggers the next frame. -/
def failedFrame : List Action :=
  firstTransfer ++ [.transferFails ⟨4, 0⟩ systemPFailure, .postSpiTxDone, .pendSpiTxDone,
    .triggerProc 0]

/-- A failed transfer leaves the line low while the DPU writes the next frame. -/
theorem busy_line_failedFrame :
    ∃ s, replay (step (some ⟨4096, 4⟩)) (boot fun _ => 0) failedFrame = some s ∧
      s.dpuArmed = true ∧ busyLevel (spiRun ⟨4096, 4⟩ (fun _ => 0) failedFrame) = false ∧
      busyFalls (spiRun ⟨4096, 4⟩ (fun _ => 0) failedFrame) +
        failedTransfers (spiRun ⟨4096, 4⟩ (fun _ => 0) failedFrame) =
          chunksBegun (spiRun ⟨4096, 4⟩ (fun _ => 0) failedFrame) + 1 := by
  have hrun : replay (step (some ⟨4096, 4⟩)) (boot fun _ => 0) failedFrame = some _ := rfl
  obtain ⟨-, hlow, -, hfalls, -⟩ := busy_line ⟨4096, 4⟩ (fun _ => 0) hrun
  refine ⟨_, hrun, rfl, hlow.mpr (Or.inr rfl), hfalls.trans ?_⟩
  exact congrArg (chunksBegun _ + Bool.toNat ·) rfl

end RadarStream
