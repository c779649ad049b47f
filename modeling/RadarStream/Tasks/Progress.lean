import RadarStream.Tasks.Frames

/-!
# Frames keep coming

`position` counts the statements the tasks have behind them, and every statement
raises it. It is bounded by the transfers that have returned, so no schedule can run
for long without a transfer; and unless `dpcTask` has stopped, some task can always
run, so a schedule never has to end. The statements that go on are ones that succeed,
so none of them is the `exit(1)` of `freertos_main`, which would end all the tasks.
-/

namespace RadarStream

open Replay

/-- A statement of one of the tasks, and not the DPU at work. -/
def Action.isStatement : Action → Bool
  | .dpuWrite _ => false
  | .createDpcTask | .pendDpcCfgDone | .createSpiTask | .startSensor _ | .resetPools
  | .rangeProcConfig _ | .postDpcCfgDone | .registerInterrupt _ _ | .triggerProc _ | .process _
  | .postSpiTxStart | .pendSpiTxDone | .cacheRadarCube | .pendSpiTxStart | .beginChunk _
  | .transferSucceeds _ | .transferFails _ _ | .leaveLoop _ | .postSpiTxDone => true

/-- A statement in which no SDK function fails. -/
def Action.succeeds : Action → Bool
  | .startSensor retVal | .triggerProc retVal | .process retVal => decide (¬ retVal < 0)
  | .registerInterrupt _ retVal => decide (retVal = 0)
  | .transferFails _ _ | .dpuWrite _ => false
  | .createDpcTask | .pendDpcCfgDone | .createSpiTask | .resetPools | .rangeProcConfig _
  | .postDpcCfgDone | .postSpiTxStart | .pendSpiTxDone | .cacheRadarCube | .pendSpiTxStart
  | .beginChunk _ | .transferSucceeds _ | .leaveLoop _ | .postSpiTxDone => true

def MainPc.position : MainPc → ℕ
  | .createDpcTask => 0
  | .pendDpcCfgDone => 1
  | .createSpiTask => 2
  | .startSensor => 3
  | .pendMain | .stopped => 4

def DpcPc.position (triggers : ℕ) : DpcPc → ℕ
  | .notCreated | .resetPools => 0
  | .rangeProcConfig => 1
  | .postDpcCfgDone => 2
  | .registerInterrupt .frameStart => 3
  | .registerInterrupt .chirp => 4
  | .registerInterrupt .chirpAvailable => 5
  | .triggerProc | .stopped => 6 + 4 * triggers
  | .process => 3 + 4 * triggers
  | .postSpiTxStart => 4 + 4 * triggers
  | .pendSpiTxDone => 5 + 4 * triggers

/-- `n` is the number of chunks of a call. -/
def SpiPc.position (n begun : ℕ) : SpiPc → ℕ
  | .notCreated | .cacheRadarCube => 0
  | .pendSpiTxStart => 1 + (3 + 2 * n) * begun
  | .loopHead l => 2 + 2 * l.chunkIndex.toNat + (3 + 2 * n) * (begun - 1)
  | .mcspiTransfer l => 3 + 2 * l.chunkIndex.toNat + (3 + 2 * n) * (begun - 1)
  | .postSpiTxDone => (3 + 2 * n) * begun

def position (cube : RadarCube) (s : State) : ℕ :=
  s.main.position + s.dpc.position s.triggers +
    s.spi.position (chunkCount cube.dataSize.toNat) s.begun

section Step

variable {cube : RadarCube} {s : State} {a : Action}

theorem Interrupt.position_next (i : Interrupt) (retVal : Int32) (triggers : ℕ) :
    DpcPc.position triggers (.registerInterrupt i) + 1 ≤
      (i.next.unless (retVal ≠ 0)).position triggers := by
  rcases i.next.unless_cases (retVal ≠ 0) with hnext | ⟨-, hnext⟩
  · rw [hnext]
    cases i <;> simp only [DpcPc.position] <;> omega
  · rw [hnext]
    cases i <;> simp only [Interrupt.next, DpcPc.position] <;> omega

/-- The chunk that runs next is one of those of the call. -/
theorem chunkIndex_of_running (h : Streaming cube s) :
    (∀ l, s.spi = .loopHead l → l.chunkIndex.toNat ≤ chunkCount cube.dataSize.toNat) ∧
      ∀ l, s.spi = .mcspiTransfer l → l.chunkIndex.toNat < chunkCount cube.dataSize.toNat ∧
        l.next.chunkIndex.toNat = l.chunkIndex.toNat + 1 := by
  have hT : cube.dataSize.toNat < 2 ^ 32 := cube.dataSize.toNat_lt
  have hchunks := h.transfer.chunks
  constructor
  · intro l hspi
    rw [hspi] at hchunks
    obtain ⟨i, hi, rfl, -⟩ := hchunks
    exact (Nat.mod_le _ _).trans hi
  · intro l hspi
    rw [hspi] at hchunks
    obtain ⟨i, hi, rfl, -⟩ := hchunks
    have hlt := lt_chunkCount_iff.mp hi
    rw [chunkLocals_next hT hlt, toNat_chunkLocals_chunkIndex hT hlt, chunkLocals]
    exact ⟨hi, UInt32.toNat_ofNat_of_lt' (by rw [UInt32.size]; omega)⟩

theorem begun_of_running (h : Streaming cube s) (hrun : s.spi.running = true) :
    s.begun = s.calls.length + 1 := by
  have hbegun := h.counted.begun
  rwa [hrun] at hbegun

/-- A statement raises the position. -/
theorem position_next (h : Streaming cube s) (ha : Enabled (some cube) s a)
    (hstatement : a.isStatement = true) : position cube s + 1 ≤ position cube (next s a) := by
  rw [position, position]
  cases a with
  | dpuWrite => cases hstatement
  | createDpcTask =>
      rw [h.handoff.dpc_created.mpr ha, show s.main = .createDpcTask from ha]
      simp only [next, MainPc.position, DpcPc.position]
      omega
  | createSpiTask =>
      rw [h.handoff.spi_created.mpr (Or.inr (Or.inr ha)), show s.main = .createSpiTask from ha]
      simp only [next, MainPc.position, SpiPc.position]
      omega
  | pendDpcCfgDone =>
      rw [ha.1]
      simp only [next, MainPc.position]
      omega
  | startSensor retVal =>
      rw [show s.main = .startSensor from ha]
      have hmain : (if retVal < 0 then MainPc.stopped else .pendMain).position = 4 := by
        split <;> rfl
      rw [next, hmain, MainPc.position]
      dsimp only
      omega
  | resetPools | postDpcCfgDone | postSpiTxStart =>
      rw [show s.dpc = _ from ha]
      simp only [next, DpcPc.position]
      omega
  | rangeProcConfig | pendSpiTxDone =>
      rw [ha.1]
      simp only [next, DpcPc.position]
      omega
  | registerInterrupt i retVal =>
      have hnext := i.position_next retVal s.triggers
      rw [show s.dpc = .registerInterrupt i from ha]
      simp only [next]
      omega
  | triggerProc retVal =>
      rw [show s.dpc = .triggerProc from ha]
      rcases DpcPc.process.unless_cases (retVal < 0) with hnext | ⟨-, hnext⟩ <;>
        simp only [next, hnext, DpcPc.position] <;> omega
  | process retVal =>
      rw [show s.dpc = .process from ha]
      rcases DpcPc.postSpiTxStart.unless_cases (retVal < 0) with hnext | ⟨-, hnext⟩ <;>
        simp only [next, hnext, DpcPc.position] <;> omega
  | cacheRadarCube | postSpiTxDone =>
      rw [show s.spi = _ from ha]
      simp only [next, SpiPc.position]
      omega
  | pendSpiTxStart =>
      rw [ha.1]
      simp only [next, SpiPc.position, UInt32.toNat_zero, Nat.add_sub_cancel]
      omega
  | beginChunk l =>
      rw [ha.1]
      simp only [next, SpiPc.position]
      omega
  | transferSucceeds l =>
      have hindex := ((chunkIndex_of_running h).2 l ha).2
      rw [show s.spi = .mcspiTransfer l from ha]
      simp only [next, SpiPc.position, hindex]
      omega
  | transferFails l transferOK =>
      obtain ⟨hspi, -⟩ := ha
      have hindex := ((chunkIndex_of_running h).2 l hspi).1
      have hbegun := begun_of_running h (by rw [hspi]; rfl)
      rw [hspi]
      simp only [next, SpiPc.position, hbegun, Nat.add_sub_cancel, Nat.mul_succ]
      omega
  | leaveLoop l =>
      obtain ⟨hspi, -⟩ := ha
      have hindex := (chunkIndex_of_running h).1 l hspi
      have hbegun := begun_of_running h (by rw [hspi]; rfl)
      rw [hspi]
      simp only [next, SpiPc.position, hbegun, Nat.add_sub_cancel, Nat.mul_succ]
      omega

theorem MainPc.position_le (p : MainPc) : p.position ≤ 4 := by
  cases p <;> decide

theorem DpcPc.position_le (p : DpcPc) (triggers : ℕ) : p.position triggers ≤ 6 + 4 * triggers := by
  cases p with
  | registerInterrupt i => cases i <;> simp only [position] <;> omega
  | notCreated | resetPools | rangeProcConfig | postDpcCfgDone | triggerProc | process
  | postSpiTxStart | pendSpiTxDone | stopped =>
      simp only [position]
      omega

theorem spi_position_le (h : Streaming cube s) :
    s.spi.position (chunkCount cube.dataSize.toNat) s.begun ≤
      1 + (3 + 2 * chunkCount cube.dataSize.toNat) * (s.calls.length + 1) := by
  have hbegun := h.counted.begun
  cases hspi : s.spi with
  | notCreated | cacheRadarCube => exact Nat.zero_le _
  | pendSpiTxStart | postSpiTxDone =>
      have hcalls : s.begun = s.calls.length := by
        rw [hspi] at hbegun
        exact hbegun
      simp only [SpiPc.position, hcalls, Nat.mul_succ]
      omega
  | loopHead l =>
      have hindex := (chunkIndex_of_running h).1 l hspi
      rw [begun_of_running h (by rw [hspi]; rfl)]
      simp only [SpiPc.position, Nat.add_sub_cancel, Nat.mul_succ]
      omega
  | mcspiTransfer l =>
      have hindex := ((chunkIndex_of_running h).2 l hspi).1
      rw [begun_of_running h (by rw [hspi]; rfl)]
      simp only [SpiPc.position, Nat.add_sub_cancel, Nat.mul_succ]
      omega

/-- Every transfer that returns makes room for one round of the tasks. -/
theorem position_le (h : Streaming cube s) : position cube s ≤
    11 + (7 + 2 * chunkCount cube.dataSize.toNat) * (s.calls.length + 1) := by
  obtain ⟨hcalls, hbegun, hcubes, htriggers⟩ := h.in_order
  have hmain := s.main.position_le
  have hdpc := s.dpc.position_le s.triggers
  have hspi := spi_position_le h
  have hround : (7 + 2 * chunkCount cube.dataSize.toNat) * (s.calls.length + 1) =
      4 * (s.calls.length + 1) +
        (3 + 2 * chunkCount cube.dataSize.toNat) * (s.calls.length + 1) := by
    rw [← Nat.add_mul]
    congr 1
    omega
  rw [position, hround]
  omega

variable (cube) in
theorem enabled_of_spi_created (hspi : s.spi ≠ .notCreated)
    (hstart : s.spi = .pendSpiTxStart → s.sem .spiTxStart = true) :
    ∃ a, a.isStatement = true ∧ a.succeeds = true ∧ Enabled (some cube) s a ∧
      (next s a).dpc = s.dpc := by
  cases hpc : s.spi with
  | notCreated => exact absurd hpc hspi
  | cacheRadarCube => exact ⟨.cacheRadarCube, rfl, rfl, hpc, rfl⟩
  | pendSpiTxStart => exact ⟨.pendSpiTxStart, rfl, rfl, ⟨hpc, hstart hpc⟩, rfl⟩
  | loopHead l =>
      by_cases hrest : 0 < l.bytesRemaining
      · exact ⟨.beginChunk l, rfl, rfl, ⟨hpc, hrest⟩, rfl⟩
      · exact ⟨.leaveLoop l, rfl, rfl, ⟨hpc, hrest⟩, rfl⟩
  | mcspiTransfer l => exact ⟨.transferSucceeds l, rfl, rfl, hpc, rfl⟩
  | postSpiTxDone => exact ⟨.postSpiTxDone, rfl, rfl, hpc, rfl⟩

variable (cube) in
/-- When `dpcTask` waits for the end of a transfer, some other task can run or the
transfer has ended. -/
theorem enabled_of_pendSpiTxDone (h : Handoff s) (hdpc : s.dpc = .pendSpiTxDone) :
    ∃ a, a.isStatement = true ∧ a.succeeds = true ∧ Enabled (some cube) s a ∧
      (next s a).dpc ≠ .stopped := by
  have hrun : s.dpc ≠ .stopped := by rw [hdpc]; decide
  by_cases hdone : s.sem .spiTxDone = true
  · exact ⟨.pendSpiTxDone, rfl, rfl, ⟨hdpc, hdone⟩, by simp [next]⟩
  by_cases hspi : s.spi = .notCreated
  · rcases h.spi_created.mp hspi with hmain | hmain | hmain
    · rw [h.dpc_created.mpr hmain] at hdpc
      cases hdpc
    · -- `dpcTask` has reported its configuration
      have hconfig := h.config_token
      rw [configTokens, hdpc, hmain] at hconfig
      have hsem : s.sem .dpcCfgDone = true := by
        simpa [DpcPc.configTokens, MainPc.configTokens] using hconfig
      exact ⟨.pendDpcCfgDone, rfl, rfl, ⟨hmain, hsem⟩, hrun⟩
    · exact ⟨.createSpiTask, rfl, rfl, hmain, hrun⟩
  · have hstart : s.spi = .pendSpiTxStart → s.sem .spiTxStart = true := by
      intro hpend
      by_contra hfree
      exact h.not_stuck hdpc hpend ⟨by simpa using hfree, by simpa using hdone⟩
    obtain ⟨a, hstatement, hok, ha, hnext⟩ := enabled_of_spi_created cube hspi hstart
    exact ⟨a, hstatement, hok, ha, hnext ▸ hrun⟩

variable (cube) in
/-- Unless `dpcTask` has stopped, a task can run. -/
theorem exists_enabled (h : Handoff s) (hrun : s.dpc ≠ .stopped) :
    ∃ a, a.isStatement = true ∧ a.succeeds = true ∧ Enabled (some cube) s a ∧
      (next s a).dpc ≠ .stopped := by
  cases hdpc : s.dpc with
  | notCreated =>
      exact ⟨.createDpcTask, rfl, rfl, h.dpc_created.mp hdpc, by simp [next]⟩
  | resetPools => exact ⟨.resetPools, rfl, rfl, hdpc, by simp [next]⟩
  | rangeProcConfig => exact ⟨.rangeProcConfig cube, rfl, rfl, ⟨hdpc, rfl⟩, by simp [next]⟩
  | postDpcCfgDone => exact ⟨.postDpcCfgDone, rfl, rfl, hdpc, by simp [next]⟩
  | registerInterrupt i =>
      refine ⟨.registerInterrupt i 0, rfl, rfl, hdpc, ?_⟩
      cases i <;> simp [next, DpcPc.unless, Interrupt.next]
  | triggerProc => exact ⟨.triggerProc 0, rfl, rfl, hdpc, by simp [next, DpcPc.unless]⟩
  | process => exact ⟨.process 0, rfl, rfl, hdpc, by simp [next, DpcPc.unless]⟩
  | postSpiTxStart => exact ⟨.postSpiTxStart, rfl, rfl, hdpc, by simp [next]⟩
  | pendSpiTxDone => exact enabled_of_pendSpiTxDone cube h hdpc
  | stopped => exact absurd hdpc hrun

end Step

section Run

variable {cube : RadarCube} {mem : Memory} {s : State} {as : List Action}

theorem position_step (h : Streaming cube s) {a : Action} {t : State}
    (hstep : step (some cube) s a = some t) :
    Streaming cube t ∧ position cube s + a.isStatement.toNat ≤ position cube t := by
  obtain ⟨ha, rfl⟩ := step_eq_some.mp hstep
  refine ⟨streaming_next h ha, ?_⟩
  cases hstatement : a.isStatement with
  | true => exact position_next h ha hstatement
  | false =>
      cases a with
      | dpuWrite => exact Nat.le_refl _
      | _ => cases hstatement

theorem exists_replay_of_running (h : Streaming cube s) (hrun : s.dpc ≠ .stopped) (k : ℕ) :
    ∃ bs t, (∀ b ∈ bs, b.isStatement = true ∧ b.succeeds = true) ∧
      replay (step (some cube)) s bs = some t ∧ s.calls.length + k ≤ t.calls.length := by
  have hround : ∀ {m n : ℕ}, m ≤ n → (7 + 2 * chunkCount cube.dataSize.toNat) * m ≤
      (7 + 2 * chunkCount cube.dataSize.toNat) * n := fun hle => Nat.mul_le_mul_left _ hle
  refine exists_replay_of_measure (I := fun s => Streaming cube s ∧ s.dpc ≠ .stopped)
    (fun b : Action => b.isStatement = true ∧ b.succeeds = true)
    (fun t => 12 + (7 + 2 * chunkCount cube.dataSize.toNat) * (s.calls.length + k) -
      position cube t) (fun u hu hshort => ?_) ⟨h, hrun⟩
  obtain ⟨a, hstatement, hok, ha, hnext⟩ := exists_enabled cube hu.1.handoff hu.2
  have hraise := position_next hu.1 ha hstatement
  have hle := (position_le hu.1).trans
    (Nat.add_le_add_left (hround (Nat.lt_of_not_le hshort)) 11)
  exact ⟨a, next u a, ⟨hstatement, hok⟩, step_eq_some.mpr ⟨ha, rfl⟩,
    ⟨streaming_next hu.1 ha, hnext⟩, by omega⟩

end Run

end RadarStream
