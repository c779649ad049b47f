import RadarStream.Tasks.System

/-!
# The hand-off between the tasks

Two tokens go round. One stands for the configuration: `dpcTask` has it until it
posts `dpcCfgDone`, then the semaphore has it until `freertos_main` pends it. The
other stands for the radar cube: `dpcTask` has it except where it waits for
`spi_tx_done`, `spiTask` has it while it transfers, and in between one of the
two semaphores has it. There is exactly one of each in every reachable state,
and the semaphore laws are read off that.
-/

namespace RadarStream

open Replay

/-- `dpcTask` has the configuration until it reports it. -/
def DpcPc.configTokens : DpcPc → ℕ
  | .notCreated => 1
  | .resetPools => 1
  | .rangeProcConfig => 1
  | .postDpcCfgDone => 1
  | _ => 0

def MainPc.configTokens : MainPc → ℕ
  | .createDpcTask => 0
  | .pendDpcCfgDone => 0
  | _ => 1

/-- `dpcTask` has the radar cube unless it waits for it. -/
def DpcPc.cubeTokens : DpcPc → ℕ
  | .pendSpiTxDone => 0
  | _ => 1

def SpiPc.cubeTokens : SpiPc → ℕ
  | .loopHead _ => 1
  | .mcspiTransfer _ => 1
  | .postSpiTxDone => 1
  | _ => 0

def configTokens (s : State) : ℕ :=
  s.dpc.configTokens + (s.sem .dpcCfgDone).toNat + s.main.configTokens

def cubeTokens (s : State) : ℕ :=
  s.dpc.cubeTokens + (s.sem .spiTxStart).toNat + s.spi.cubeTokens + (s.sem .spiTxDone).toNat

/-- The control part of a reachable state. -/
structure Handoff (s : State) : Prop where
  config_token : configTokens s = 1
  cube_token : cubeTokens s = 1
  dpc_created : s.dpc = .notCreated ↔ s.main = .createDpcTask
  spi_created : s.spi = .notCreated ↔
    s.main = .createDpcTask ∨ s.main = .pendDpcCfgDone ∨ s.main = .createSpiTask

theorem handoff_boot (mem : Memory) : Handoff (boot mem) := by
  constructor <;> simp [boot, configTokens, cubeTokens, DpcPc.configTokens, MainPc.configTokens,
    DpcPc.cubeTokens, SpiPc.cubeTokens]

theorem Interrupt.configTokens_next (i : Interrupt) : i.next.configTokens = 0 := by
  cases i <;> rfl

theorem Interrupt.cubeTokens_next (i : Interrupt) : i.next.cubeTokens = 1 := by
  cases i <;> rfl

theorem DpcPc.configTokens_unless {p : DpcPc} (b : Bool) (h : p.configTokens = 0) :
    (p.unless b).configTokens = 0 := by
  cases b
  · exact h
  · rfl

theorem DpcPc.cubeTokens_unless {p : DpcPc} (b : Bool) (h : p.cubeTokens = 1) :
    (p.unless b).cubeTokens = 1 := by
  cases b
  · exact h
  · rfl

@[simp] theorem Interrupt.next_ne_notCreated (i : Interrupt) : i.next ≠ .notCreated := by
  cases i <;> simp [Interrupt.next]

@[simp] theorem DpcPc.unless_eq_notCreated {p : DpcPc} {b : Bool} :
    p.unless b = .notCreated ↔ b = false ∧ p = .notCreated := by
  cases b <;> simp [DpcPc.unless]

section Step

variable {config : Option RadarCube} {s : State} {a : Action}

/-- Three statements move the configuration token; the others leave it where it
is. -/
theorem configTokens_next (h : Handoff s) (ha : Enabled config s a) :
    configTokens (next s a) = 1 := by
  have htoken := h.config_token
  rw [configTokens] at htoken ⊢
  cases a with
  | createDpcTask =>
      have hdpc := h.dpc_created.mpr ha
      rw [hdpc, show s.main = .createDpcTask from ha] at htoken
      exact htoken
  | postDpcCfgDone =>
      rw [show s.dpc = .postDpcCfgDone from ha] at htoken
      have hdone : 1 + (s.sem .dpcCfgDone).toNat + s.main.configTokens = 1 := htoken
      change 0 + 1 + s.main.configTokens = 1
      omega
  | pendDpcCfgDone =>
      obtain ⟨hmain, hsem⟩ := ha
      rw [hmain, hsem] at htoken
      simpa [next, MainPc.configTokens] using htoken
  | createSpiTask =>
      rw [show s.main = .createSpiTask from ha] at htoken
      exact htoken
  | startSensor retVal =>
      rw [show s.main = .startSensor from ha] at htoken
      have hmain : (if retVal < 0 then MainPc.stopped else .pendMain).configTokens = 1 := by
        split <;> rfl
      rw [next, hmain]
      exact htoken
  | resetPools | postSpiTxStart =>
      rw [show s.dpc = _ from ha] at htoken
      exact htoken
  | rangeProcConfig | pendSpiTxDone =>
      rw [ha.1] at htoken
      exact htoken
  | registerInterrupt i retVal =>
      rw [show s.dpc = .registerInterrupt i from ha] at htoken
      rw [next, DpcPc.configTokens_unless _ i.configTokens_next]
      exact htoken
  | triggerProc retVal =>
      rw [show s.dpc = .triggerProc from ha] at htoken
      rw [next, DpcPc.configTokens_unless _ rfl]
      exact htoken
  | process retVal =>
      rw [show s.dpc = .process from ha] at htoken
      rw [next, DpcPc.configTokens_unless _ rfl]
      exact htoken
  | _ => exact htoken

/-- Four statements move the cube token; the others leave it where it is. -/
theorem cubeTokens_next (h : Handoff s) (ha : Enabled config s a) :
    cubeTokens (next s a) = 1 := by
  have htoken := h.cube_token
  rw [cubeTokens] at htoken ⊢
  cases a with
  | postSpiTxStart =>
      rw [show s.dpc = .postSpiTxStart from ha] at htoken
      have hstart : 1 + (s.sem .spiTxStart).toNat + s.spi.cubeTokens +
          (s.sem .spiTxDone).toNat = 1 := htoken
      change 0 + 1 + s.spi.cubeTokens + (s.sem .spiTxDone).toNat = 1
      omega
  | pendSpiTxStart =>
      obtain ⟨hspi, hsem⟩ := ha
      rw [hspi, hsem] at htoken
      simpa [next, SpiPc.cubeTokens] using htoken
  | postSpiTxDone =>
      rw [show s.spi = .postSpiTxDone from ha] at htoken
      have hdone : s.dpc.cubeTokens + (s.sem .spiTxStart).toNat + 1 +
          (s.sem .spiTxDone).toNat = 1 := htoken
      change s.dpc.cubeTokens + (s.sem .spiTxStart).toNat + 0 + 1 = 1
      omega
  | pendSpiTxDone =>
      obtain ⟨hdpc, hsem⟩ := ha
      rw [hdpc, hsem] at htoken
      have hdone : 0 + (s.sem .spiTxStart).toNat + s.spi.cubeTokens + 1 = 1 := htoken
      change 1 + (s.sem .spiTxStart).toNat + s.spi.cubeTokens + 0 = 1
      omega
  | createDpcTask =>
      rw [h.dpc_created.mpr ha] at htoken
      exact htoken
  | createSpiTask =>
      have hspi := h.spi_created.mpr (Or.inr (Or.inr ha))
      rw [hspi] at htoken
      exact htoken
  | resetPools | postDpcCfgDone =>
      rw [show s.dpc = _ from ha] at htoken
      exact htoken
  | rangeProcConfig =>
      rw [ha.1] at htoken
      exact htoken
  | registerInterrupt i retVal =>
      rw [show s.dpc = .registerInterrupt i from ha] at htoken
      rw [next, DpcPc.cubeTokens_unless _ i.cubeTokens_next]
      exact htoken
  | triggerProc retVal =>
      rw [show s.dpc = .triggerProc from ha] at htoken
      rw [next, DpcPc.cubeTokens_unless _ rfl]
      exact htoken
  | process retVal =>
      rw [show s.dpc = .process from ha] at htoken
      rw [next, DpcPc.cubeTokens_unless _ rfl]
      exact htoken
  | cacheRadarCube =>
      rw [show s.spi = .cacheRadarCube from ha] at htoken
      exact htoken
  | transferSucceeds l =>
      rw [show s.spi = .mcspiTransfer l from ha] at htoken
      exact htoken
  | beginChunk | transferFails | leaveLoop =>
      rw [ha.1] at htoken
      exact htoken
  | _ => exact htoken

theorem handoff_next (h : Handoff s) (ha : Enabled config s a) : Handoff (next s a) := by
  have hdpc := h.dpc_created
  have hspi := h.spi_created
  refine ⟨configTokens_next h ha, cubeTokens_next h ha, ?_, ?_⟩
  · cases a <;> simp only [Enabled] at ha <;> simp_all [next]
    split <;> simp
  · cases a <;> simp only [Enabled] at ha <;> simp_all [next]
    split <;> simp

theorem handoff_of_reachable {mem : Memory} (h : Reachable (step config) (boot mem) s) :
    Handoff s := by
  refine h.invariant (fun s a t hs hstep => ?_) (handoff_boot mem)
  obtain ⟨ha, rfl⟩ := step_eq_some.mp hstep
  exact handoff_next hs ha

end Step

def Action.posts : Action → Option Sem
  | .postDpcCfgDone => some .dpcCfgDone
  | .postSpiTxStart => some .spiTxStart
  | .postSpiTxDone => some .spiTxDone
  | _ => none

def Action.leadsToSpiTask : Action → Bool
  | .createDpcTask => true
  | .resetPools => true
  | .rangeProcConfig _ => true
  | .postDpcCfgDone => true
  | .pendDpcCfgDone => true
  | .createSpiTask => true
  | _ => false

def MainPc.toSpiTask : MainPc → ℕ
  | .createDpcTask => 3
  | .pendDpcCfgDone => 2
  | .createSpiTask => 1
  | _ => 0

def DpcPc.toDpcCfgDone : DpcPc → ℕ
  | .notCreated => 4
  | .resetPools => 3
  | .rangeProcConfig => 2
  | .postDpcCfgDone => 1
  | _ => 0

section Laws

variable {s : State} {a : Action}

/-- Whoever is about to post has the token, so the semaphore is at zero. -/
theorem Handoff.post_free {config : Option RadarCube} {k : Sem} (h : Handoff s)
    (ha : Enabled config s a) (hk : a.posts = some k) : s.sem k = false := by
  have hconfig := h.config_token
  have hcube := h.cube_token
  rw [configTokens] at hconfig
  rw [cubeTokens] at hcube
  have hzero : (s.sem k).toNat = 0 := by
    cases a with
    | postDpcCfgDone =>
        obtain rfl : Sem.dpcCfgDone = k := Option.some.inj hk
        rw [show s.dpc = .postDpcCfgDone from ha, show DpcPc.configTokens .postDpcCfgDone = 1 from
          rfl] at hconfig
        omega
    | postSpiTxStart =>
        obtain rfl : Sem.spiTxStart = k := Option.some.inj hk
        rw [show s.dpc = .postSpiTxStart from ha, show DpcPc.cubeTokens .postSpiTxStart = 1 from
          rfl] at hcube
        omega
    | postSpiTxDone =>
        obtain rfl : Sem.spiTxDone = k := Option.some.inj hk
        rw [show s.spi = .postSpiTxDone from ha, show SpiPc.cubeTokens .postSpiTxDone = 1 from
          rfl] at hcube
        omega
    | _ => exact absurd hk (by simp [Action.posts])
  simpa using hzero

theorem Handoff.not_both (h : Handoff s) :
    ¬ (s.sem .spiTxStart = true ∧ s.sem .spiTxDone = true) := by
  rintro ⟨hstart, hdone⟩
  have hcube := h.cube_token
  rw [cubeTokens, hstart, hdone, Bool.toNat_true] at hcube
  omega

/-- When both tasks wait for the other, the token is in one of the semaphores. -/
theorem Handoff.not_stuck (h : Handoff s) (hdpc : s.dpc = .pendSpiTxDone)
    (hspi : s.spi = .pendSpiTxStart) :
    ¬ (s.sem .spiTxStart = false ∧ s.sem .spiTxDone = false) := by
  rintro ⟨hstart, hdone⟩
  have hcube := h.cube_token
  rw [cubeTokens, hstart, hdone, hdpc, hspi] at hcube
  exact absurd hcube (by decide)

/-- Short of the creation of `spiTask` some statement that leads to it can run. -/
theorem Handoff.progress (cube : RadarCube) (h : Handoff s) (hspi : s.spi = .notCreated) :
    ∃ a, a.leadsToSpiTask ∧ Enabled (some cube) s a ∧
      (next s a).main.toSpiTask + (next s a).dpc.toDpcCfgDone <
        s.main.toSpiTask + s.dpc.toDpcCfgDone := by
  rcases h.spi_created.mp hspi with hmain | hmain | hmain
  · refine ⟨.createDpcTask, rfl, hmain, ?_⟩
    rw [h.dpc_created.mpr hmain, hmain]
    exact (show 2 + 3 < 3 + 4 by decide)
  · by_cases hsem : s.sem .dpcCfgDone = true
    · refine ⟨.pendDpcCfgDone, rfl, ⟨hmain, hsem⟩, ?_⟩
      rw [hmain]
      exact Nat.add_lt_add_right (show 1 < 2 by decide) _
    · -- the configuration token is with `dpcTask`, which can run up to its post
      have hconfig := h.config_token
      have hcreated : s.dpc ≠ .notCreated := by simp [h.dpc_created, hmain]
      rw [configTokens, hmain, Bool.eq_false_iff.mpr hsem] at hconfig
      cases hdpc : s.dpc with
      | notCreated => exact absurd hdpc hcreated
      | resetPools =>
          exact ⟨.resetPools, rfl, hdpc, Nat.add_lt_add_left (show 2 < 3 by decide) _⟩
      | rangeProcConfig =>
          exact ⟨.rangeProcConfig cube, rfl, ⟨hdpc, rfl⟩,
            Nat.add_lt_add_left (show 1 < 2 by decide) _⟩
      | postDpcCfgDone =>
          exact ⟨.postDpcCfgDone, rfl, hdpc, Nat.add_lt_add_left (show 0 < 1 by decide) _⟩
      | _ =>
          rw [hdpc] at hconfig
          exact absurd hconfig (by simp [DpcPc.configTokens, MainPc.configTokens])
  · refine ⟨.createSpiTask, rfl, hmain, ?_⟩
    rw [hmain]
    exact Nat.add_lt_add_right (show 0 < 1 by decide) _

theorem Handoff.exists_spiTask (cube : RadarCube) (h : Handoff s) :
    ∃ as t, (∀ a ∈ as, a.leadsToSpiTask = true) ∧
      replay (step (some cube)) s as = some t ∧ t.spi ≠ .notCreated := by
  refine exists_replay_of_measure (fun a : Action => a.leadsToSpiTask = true)
    (fun s => s.main.toSpiTask + s.dpc.toDpcCfgDone) (fun s hs hgoal => ?_) h
  obtain ⟨a, hleads, ha, hlt⟩ := hs.progress cube (not_not.mp hgoal)
  exact ⟨a, next s a, hleads, step_eq_some.mpr ⟨ha, rfl⟩, handoff_next hs ha, hlt⟩

end Laws

/-- No wake-up is lost and the tasks never wait for each other, under every
schedule and every pattern of transfer outcomes. -/
theorem no_lost_wakeup (cube : RadarCube) (mem : Memory) {s : State}
    (h : Reachable (step (some cube)) (boot mem) s) :
    (∀ a k, Enabled (some cube) s a → a.posts = some k → s.sem k = false) ∧
      ¬ (s.sem .spiTxStart = true ∧ s.sem .spiTxDone = true) ∧
      ¬ (s.dpc = .pendSpiTxDone ∧ s.spi = .pendSpiTxStart ∧
        s.sem .spiTxStart = false ∧ s.sem .spiTxDone = false) ∧
      (s.spi = .notCreated →
        ∃ as t, (∀ a ∈ as, a.leadsToSpiTask = true) ∧
          replay (step (some cube)) s as = some t ∧ t.spi ≠ .notCreated) := by
  have hs := handoff_of_reachable h
  refine ⟨fun a k ha hk => hs.post_free ha hk, hs.not_both, ?_, fun _ => hs.exists_spiTask cube⟩
  rintro ⟨hdpc, hspi, hsem⟩
  exact hs.not_stuck hdpc hspi hsem

def firstFrame : List Action :=
  [.createDpcTask, .resetPools, .rangeProcConfig ⟨4096, 4⟩, .postDpcCfgDone,
    .registerInterrupt .frameStart 0, .registerInterrupt .chirp 0,
    .registerInterrupt .chirpAvailable 0, .triggerProc 0, .process 0, .postSpiTxStart]

theorem no_lost_wakeup_firstFrame :
    ∃ s, replay (step (some ⟨4096, 4⟩)) (boot fun _ => 0) firstFrame = some s ∧
      s.spi = .notCreated ∧ s.sem .spiTxStart = true ∧ ¬ s.sem .spiTxDone = true ∧
      ∃ as t, replay (step (some ⟨4096, 4⟩)) s as = some t ∧ t.spi ≠ .notCreated := by
  refine ⟨_, rfl, rfl, rfl, ?_⟩
  obtain ⟨_, hboth, _, hcreate⟩ := no_lost_wakeup ⟨4096, 4⟩ (fun _ => 0) ⟨firstFrame, rfl⟩
  obtain ⟨as, t, _, hreplay, ht⟩ := hcreate rfl
  exact ⟨fun hdone => hboth ⟨rfl, hdone⟩, as, t, hreplay, ht⟩

end RadarStream
