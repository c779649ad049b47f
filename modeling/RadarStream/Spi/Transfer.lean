import RadarStream.Sdk
import RadarStream.Library.Slices

/-!
# Transferring a buffer over SPI

`spi_transfer_buffer` of `spi_transmit.c`: the buffer goes out in chunks of at
most `MAX_SPI_TRANSFER_SIZE` bytes, one `MCSPI_transfer` each. The loop keeps
the remaining bytes and the chunk index (`TransferLocals`) and recomputes the
offset from the index; `chunkSize`, `frameCount` and `byteOffset` are the
variables of its body. `spiTransferLoop` returns the events of the call next to its result;
`.iteration` records the loop variables with which a loop body starts.

`mcspi n` is the code returned by the `n`-th `MCSPI_transfer` since boot, so
every pattern of outcomes is a function `mcspi`.
-/

namespace RadarStream

open Slices

def maxSpiTransferSize : UInt32 := 65280

def bitsPerFrame : UInt32 := 32

def bytesPerFrame : UInt32 := bitsPerFrame / 8

/-- The fields of `MCSPI_Transaction` that say what is sent and how. The channel, which
is the same configured one in every transaction, is left out. -/
structure McspiTransaction where
  dataSize : UInt32
  csDisable : Bool
  count : UInt32
  txBuf : UInt32
  rxBuf : UInt32
  args : UInt32
deriving DecidableEq

structure TransferLocals where
  bytesRemaining : UInt32
  chunkIndex : UInt32
deriving DecidableEq

namespace TransferLocals

def chunkSize (l : TransferLocals) : UInt32 :=
  if l.bytesRemaining > maxSpiTransferSize then maxSpiTransferSize else l.bytesRemaining

def frameCount (l : TransferLocals) : UInt32 := l.chunkSize / bytesPerFrame

def byteOffset (l : TransferLocals) : UInt32 := maxSpiTransferSize * l.chunkIndex

/-- The transaction the loop body passes to `MCSPI_transfer`. -/
def spiTransaction (txBuf : UInt32) (l : TransferLocals) : McspiTransaction where
  dataSize := bitsPerFrame
  csDisable := true
  count := l.frameCount
  txBuf := txBuf + l.byteOffset
  rxBuf := null
  args := null

def next (l : TransferLocals) : TransferLocals where
  bytesRemaining := l.bytesRemaining - l.chunkSize
  chunkIndex := l.chunkIndex + 1

theorem toNat_chunkSize (l : TransferLocals) :
    l.chunkSize.toNat = min 65280 l.bytesRemaining.toNat := by
  have hmax : maxSpiTransferSize.toNat = 65280 := rfl
  rw [chunkSize]
  split
  · rename_i h
    rw [gt_iff_lt, UInt32.lt_iff_toNat_lt] at h
    omega
  · rename_i h
    rw [gt_iff_lt, UInt32.lt_iff_toNat_lt] at h
    omega

theorem toNat_next_bytesRemaining (l : TransferLocals) :
    l.next.bytesRemaining.toNat = l.bytesRemaining.toNat - l.chunkSize.toNat := by
  have hle : l.chunkSize ≤ l.bytesRemaining := by
    rw [UInt32.le_iff_toNat_le, toNat_chunkSize]
    omega
  rw [next, UInt32.toNat_sub_of_le _ _ hle]

theorem next_bytesRemaining_lt {l : TransferLocals} (h : 0 < l.bytesRemaining) :
    l.next.bytesRemaining.toNat < l.bytesRemaining.toNat := by
  rw [toNat_next_bytesRemaining, toNat_chunkSize]
  rw [UInt32.lt_iff_toNat_lt, UInt32.toNat_zero] at h
  omega

end TransferLocals

/-- What the SPI task does that can be observed. -/
inductive SpiEvent where
  | iteration (l : TransferLocals)
  | pinWriteLow
  | transfer (t : McspiTransaction) (transferOK : Int32)
  | pinWriteHigh
  | returned (transferOK : Int32)
  | pendStart
  | postDone
deriving DecidableEq

/-- The events of a call of `spi_transfer_buffer` and its result. -/
structure TransferRun where
  events : List SpiEvent
  ret : Int32
deriving DecidableEq

namespace TransferRun

def prepend (events : List SpiEvent) (run : TransferRun) : TransferRun :=
  ⟨events ++ run.events, run.ret⟩

@[simp] theorem prepend_nil (run : TransferRun) : run.prepend [] = run := rfl

theorem prepend_append (xs ys : List SpiEvent) (run : TransferRun) :
    run.prepend (xs ++ ys) = (run.prepend ys).prepend xs := by
  simp [prepend]

end TransferRun

/-- The loop of `spi_transfer_buffer`, after `n` calls of `MCSPI_transfer`. -/
def spiTransferLoop (txBuf : UInt32) (mcspi : ℕ → Int32) (l : TransferLocals) (n : ℕ) :
    TransferRun :=
  if 0 < l.bytesRemaining then
    let transferOK := mcspi n
    if transferOK ≠ systemPSuccess then
      -- the early return leaves `SPI_BUSY` as it is
      ⟨[.iteration l, .pinWriteLow, .transfer (l.spiTransaction txBuf) transferOK], transferOK⟩
    else
      (spiTransferLoop txBuf mcspi l.next (n + 1)).prepend
        [.iteration l, .pinWriteLow, .transfer (l.spiTransaction txBuf) transferOK,
          .pinWriteHigh]
  else ⟨[], systemPSuccess⟩
termination_by l.bytesRemaining.toNat
decreasing_by exact TransferLocals.next_bytesRemaining_lt (by assumption)

def spiTransferBuffer (txBuf totalBytes : UInt32) (mcspi : ℕ → Int32) (n : ℕ) : TransferRun :=
  spiTransferLoop txBuf mcspi ⟨totalBytes, 0⟩ n

def transactions (events : List SpiEvent) : List McspiTransaction :=
  events.filterMap fun
    | .transfer t _ => some t
    | _ => none

/-- The transactions that `MCSPI_transfer` reported as successful. -/
def completed (events : List SpiEvent) : List McspiTransaction :=
  events.filterMap fun
    | .transfer t transferOK => if transferOK = systemPSuccess then some t else none
    | _ => none

def iterations (events : List SpiEvent) : List TransferLocals :=
  events.filterMap fun
    | .iteration l => some l
    | _ => none

/-- The number of chunks of a buffer of `T` bytes: `T / 65280`, rounded up. -/
def chunkCount (T : ℕ) : ℕ := (T + 65279) / 65280

theorem lt_chunkCount_iff {T i : ℕ} : i < chunkCount T ↔ 65280 * i < T := by
  rw [chunkCount]
  omega

/-- The loop variables at the head of chunk `i` of a buffer of `T` bytes. -/
def chunkLocals (T i : ℕ) : TransferLocals where
  bytesRemaining := UInt32.ofNat (T - 65280 * i)
  chunkIndex := UInt32.ofNat i

section Chunk

variable {T i : ℕ} (hT : T < 2 ^ 32)

include hT

theorem toNat_chunkLocals_bytesRemaining :
    (chunkLocals T i).bytesRemaining.toNat = T - 65280 * i := by
  rw [chunkLocals, UInt32.toNat_ofNat_of_lt' (by rw [UInt32.size]; omega)]

theorem toNat_chunkLocals_chunkSize :
    (chunkLocals T i).chunkSize.toNat = min 65280 (T - 65280 * i) := by
  rw [TransferLocals.toNat_chunkSize, toNat_chunkLocals_bytesRemaining hT]

theorem toNat_chunkLocals_frameCount :
    (chunkLocals T i).frameCount.toNat = min 65280 (T - 65280 * i) / 4 := by
  rw [TransferLocals.frameCount, UInt32.toNat_div, toNat_chunkLocals_chunkSize hT]
  rfl

theorem toNat_chunkLocals_chunkIndex (hi : 65280 * i < T) :
    (chunkLocals T i).chunkIndex.toNat = i := by
  rw [chunkLocals, UInt32.toNat_ofNat_of_lt' (by rw [UInt32.size]; omega)]

theorem toNat_chunkLocals_byteOffset (hi : 65280 * i < T) :
    (chunkLocals T i).byteOffset.toNat = 65280 * i := by
  rw [TransferLocals.byteOffset, UInt32.toNat_mul, toNat_chunkLocals_chunkIndex hT hi,
    show maxSpiTransferSize.toNat = 65280 from rfl, Nat.mod_eq_of_lt (by omega)]

/-- The remainder, tracked on its own, stays in step with the chunk index. -/
theorem chunkLocals_next (hi : 65280 * i < T) :
    (chunkLocals T i).next = chunkLocals T (i + 1) := by
  have hrem : (chunkLocals T i).next.bytesRemaining = (chunkLocals T (i + 1)).bytesRemaining := by
    apply UInt32.toNat.inj
    rw [TransferLocals.toNat_next_bytesRemaining, toNat_chunkLocals_bytesRemaining hT,
      toNat_chunkLocals_chunkSize hT, toNat_chunkLocals_bytesRemaining hT]
    omega
  have hindex : (chunkLocals T i).next.chunkIndex = (chunkLocals T (i + 1)).chunkIndex := by
    apply UInt32.toNat.inj
    rw [TransferLocals.next, UInt32.toNat_add, toNat_chunkLocals_chunkIndex hT hi, chunkLocals,
      UInt32.toNat_ofNat_of_lt' (by rw [UInt32.size]; omega),
      show (1 : UInt32).toNat = 1 from rfl, Nat.mod_eq_of_lt (by omega)]
  exact congrArg₂ TransferLocals.mk hrem hindex

end Chunk

end RadarStream
