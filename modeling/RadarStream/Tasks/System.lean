import Mathlib.Logic.Function.Basic
import RadarStream.Library.Replay
import RadarStream.Spi.Chunks

/-!
# The three tasks

The task `freertos_main`, the `dpcTask` it creates and the `spiTask` it creates
once the DPU is configured, from boot on. Each program counter stands in front
of the statement that runs next, and an `Action` is that statement: a call of an
SDK function carries the code it returns, `.dpuWrite` is the DPU writing the
radar cube on its own. `step` performs an action of any task that can take it,
so a list of actions is a schedule.

`DebugP_assert(0)` and `exit` end the task that meets them; the others are left
running, which gives the system no fewer schedules than it has: what holds in all
of them holds on the device. Where a schedule is said to exist, the `exit(1)` of
`freertos_main` counts: it ends `freertos_main` alone here and all the tasks on the
device, so there a run goes on only while the sensor did not fail to start.

The fields from `triggers` on record what has happened and are read by no
action.
-/

namespace RadarStream

/-- The contents of the memory that holds the radar cube. -/
abbrev Memory := UInt32 → UInt8

/-- The fields of `rangeProcDpuCfg.hwRes.radarCube` that the tasks share. -/
structure RadarCube where
  data : UInt32
  dataSize : UInt32
deriving DecidableEq

/-- The binary semaphores; their counts are a function to `Bool`, `true` for one. -/
inductive Sem where
  | dpcCfgDone
  | spiTxStart
  | spiTxDone
deriving DecidableEq

section Semaphores

/-- The counts after a post on `k`; one on a semaphore that is at one is absorbed. -/
def post (count : Sem → Bool) (k : Sem) : Sem → Bool := Function.update count k true

/-- The counts after a pend on `k` that found it at one. -/
def pend (count : Sem → Bool) (k : Sem) : Sem → Bool := Function.update count k false

variable {count : Sem → Bool} {k k' : Sem}

@[simp] theorem pend_self : pend count k k = false := by simp [pend]

@[simp] theorem pend_of_ne (h : k' ≠ k) : pend count k k' = count k' := by
  simp [pend, h]

end Semaphores

inductive MainPc where
  | createDpcTask
  | pendDpcCfgDone
  | createSpiTask
  | startSensor
  | pendMain
  | stopped
deriving DecidableEq

/-- The interrupts `dpcTask` registers for debugging. -/
inductive Interrupt where
  | frameStart
  | chirp
  | chirpAvailable
deriving DecidableEq

inductive DpcPc where
  | notCreated
  | resetPools
  | rangeProcConfig
  | postDpcCfgDone
  | registerInterrupt (i : Interrupt)
  | triggerProc
  | process
  | postSpiTxStart
  | pendSpiTxDone
  | stopped
deriving DecidableEq

/-- Where `spiTask` stands; the loop of `spi_transfer_buffer` has its variables. -/
inductive SpiPc where
  | notCreated
  | cacheRadarCube
  | pendSpiTxStart
  | loopHead (l : TransferLocals)
  | mcspiTransfer (l : TransferLocals)
  | postSpiTxDone
deriving DecidableEq

def SpiPc.running : SpiPc → Bool
  | .loopHead _ => true
  | .mcspiTransfer _ => true
  | _ => false

structure State where
  main : MainPc
  dpc : DpcPc
  spi : SpiPc
  sem : Sem → Bool
  /-- `gSysContext.rangeProcDpuCfg.hwRes.radarCube`. -/
  radarCube : RadarCube
  /-- `radarCubePtr` and `radarCubeBytes` of `spi_transmit_loop`. -/
  cached : RadarCube
  mem : Memory
  /-- The DPU was triggered and the next `process` has not returned. -/
  dpuArmed : Bool
  triggers : ℕ
  /-- The contents of the radar cube when each `process` returned. -/
  cubes : List Memory
  /-- The calls of `spi_transfer_buffer` that have begun. -/
  begun : ℕ
  /-- The events of the call that is running. -/
  events : List SpiEvent
  /-- The calls of `spi_transfer_buffer` that have returned. -/
  calls : List TransferRun

/-- The tasks before `freertos_main` creates the first one; the global
configuration is zero and the memory holds anything. -/
def boot (mem : Memory) : State where
  main := .createDpcTask
  dpc := .notCreated
  spi := .notCreated
  sem := fun _ => false
  radarCube := ⟨null, 0⟩
  cached := ⟨null, 0⟩
  mem := mem
  dpuArmed := false
  triggers := 0
  cubes := []
  begun := 0
  events := []
  calls := []

inductive Action where
  | createDpcTask
  | pendDpcCfgDone
  | createSpiTask
  | startSensor (retVal : Int32)
  | resetPools
  | rangeProcConfig (radarCube : RadarCube)
  | postDpcCfgDone
  | registerInterrupt (i : Interrupt) (retVal : Int32)
  | triggerProc (retVal : Int32)
  | process (retVal : Int32)
  | postSpiTxStart
  | pendSpiTxDone
  | cacheRadarCube
  | pendSpiTxStart
  | beginChunk (l : TransferLocals)
  | transferSucceeds (l : TransferLocals)
  | transferFails (l : TransferLocals) (transferOK : Int32)
  | leaveLoop (l : TransferLocals)
  | postSpiTxDone
  | dpuWrite (mem : Memory)

def Interrupt.next : Interrupt → DpcPc
  | .frameStart => .registerInterrupt .chirp
  | .chirp => .registerInterrupt .chirpAvailable
  | .chirpAvailable => .triggerProc

/-- Where `dpcTask` goes after a check that ends in `DebugP_assert(0)` on failure. -/
def DpcPc.unless (failed : Bool) (p : DpcPc) : DpcPc := if failed then .stopped else p

/-- The action can be taken. `config` is the radar cube `RangeProc_config` leaves
in the global configuration, or `none` when it does not return. -/
def Enabled (config : Option RadarCube) (s : State) : Action → Prop
  | .createDpcTask => s.main = .createDpcTask
  | .pendDpcCfgDone => s.main = .pendDpcCfgDone ∧ s.sem .dpcCfgDone = true
  | .createSpiTask => s.main = .createSpiTask
  | .startSensor _ => s.main = .startSensor
  | .resetPools => s.dpc = .resetPools
  | .rangeProcConfig radarCube => s.dpc = .rangeProcConfig ∧ config = some radarCube
  | .postDpcCfgDone => s.dpc = .postDpcCfgDone
  | .registerInterrupt i _ => s.dpc = .registerInterrupt i
  | .triggerProc _ => s.dpc = .triggerProc
  | .process _ => s.dpc = .process
  | .postSpiTxStart => s.dpc = .postSpiTxStart
  | .pendSpiTxDone => s.dpc = .pendSpiTxDone ∧ s.sem .spiTxDone = true
  | .cacheRadarCube => s.spi = .cacheRadarCube
  | .pendSpiTxStart => s.spi = .pendSpiTxStart ∧ s.sem .spiTxStart = true
  | .beginChunk l => s.spi = .loopHead l ∧ 0 < l.bytesRemaining
  | .transferSucceeds l => s.spi = .mcspiTransfer l
  | .transferFails l transferOK => s.spi = .mcspiTransfer l ∧ transferOK ≠ systemPSuccess
  | .leaveLoop l => s.spi = .loopHead l ∧ ¬ 0 < l.bytesRemaining
  | .postSpiTxDone => s.spi = .postSpiTxDone
  | .dpuWrite _ => s.dpuArmed = true

instance (config : Option RadarCube) (s : State) (a : Action) : Decidable (Enabled config s a) := by
  cases a <;> dsimp only [Enabled] <;> infer_instance

def next (s : State) : Action → State
  | .createDpcTask => { s with main := .pendDpcCfgDone, dpc := .resetPools }
  | .pendDpcCfgDone => { s with main := .createSpiTask, sem := pend s.sem .dpcCfgDone }
  | .createSpiTask => { s with main := .startSensor, spi := .cacheRadarCube }
  | .startSensor retVal => { s with main := if retVal < 0 then .stopped else .pendMain }
  | .resetPools => { s with dpc := .rangeProcConfig }
  | .rangeProcConfig radarCube => { s with dpc := .postDpcCfgDone, radarCube := radarCube }
  | .postDpcCfgDone =>
      { s with dpc := .registerInterrupt .frameStart, sem := post s.sem .dpcCfgDone }
  | .registerInterrupt i retVal => { s with dpc := i.next.unless (retVal ≠ 0) }
  | .triggerProc retVal =>
      { s with
        dpc := DpcPc.process.unless (retVal < 0)
        dpuArmed := true
        triggers := s.triggers + 1 }
  | .process retVal =>
      { s with
        dpc := DpcPc.postSpiTxStart.unless (retVal < 0)
        dpuArmed := false
        cubes := if retVal < 0 then s.cubes else s.cubes ++ [s.mem] }
  | .postSpiTxStart => { s with dpc := .pendSpiTxDone, sem := post s.sem .spiTxStart }
  | .pendSpiTxDone => { s with dpc := .triggerProc, sem := pend s.sem .spiTxDone }
  | .cacheRadarCube => { s with spi := .pendSpiTxStart, cached := s.radarCube }
  | .pendSpiTxStart =>
      { s with
        spi := .loopHead ⟨s.cached.dataSize, 0⟩
        sem := pend s.sem .spiTxStart
        begun := s.begun + 1
        events := [] }
  | .beginChunk l =>
      { s with
        spi := .mcspiTransfer l
        events := s.events ++ [.iteration l, .pinWriteLow] }
  | .transferSucceeds l =>
      { s with
        spi := .loopHead l.next
        events := s.events ++
          [.transfer (l.spiTransaction s.cached.data) systemPSuccess, .pinWriteHigh] }
  | .transferFails l transferOK =>
      { s with
        spi := .postSpiTxDone
        calls := s.calls ++
          [⟨s.events ++ [.transfer (l.spiTransaction s.cached.data) transferOK], transferOK⟩] }
  | .leaveLoop _ =>
      { s with spi := .postSpiTxDone, calls := s.calls ++ [⟨s.events, systemPSuccess⟩] }
  | .postSpiTxDone => { s with spi := .pendSpiTxStart, sem := post s.sem .spiTxDone }
  | .dpuWrite mem => { s with mem := mem }

def step (config : Option RadarCube) (s : State) (a : Action) : Option State :=
  if Enabled config s a then some (next s a) else none

theorem step_eq_some {config : Option RadarCube} {s t : State} {a : Action} :
    step config s a = some t ↔ Enabled config s a ∧ next s a = t := by
  by_cases h : Enabled config s a <;> simp [step, h]

end RadarStream
