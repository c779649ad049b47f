import RadarStream.Spi.Transfer

/-!
# The chunks of one transfer

A call of `spi_transfer_buffer` sends the chunks `0, 1, 2, ...` in order up to
the first failure or the end of the buffer: `spiTransferLoop_run` moves the loop
over any number of successful chunks at once, and the two ends of a call,
`spiTransferBuffer_success` and `spiTransferBuffer_failure`, follow from it. The
slices passed to `MCSPI_transfer` tile the buffer from offset 0 (`ReadsBuffer`), up to
the last whole frame of four bytes.
-/

namespace RadarStream

open Slices

/-- The events of chunk `i` when its transfer succeeds. -/
def chunkEvents (txBuf : UInt32) (T i : ℕ) : List SpiEvent :=
  [.iteration (chunkLocals T i), .pinWriteLow,
    .transfer ((chunkLocals T i).spiTransaction txBuf) systemPSuccess, .pinWriteHigh]

def failedChunkEvents (txBuf : UInt32) (T i : ℕ) (code : Int32) : List SpiEvent :=
  [.iteration (chunkLocals T i), .pinWriteLow,
    .transfer ((chunkLocals T i).spiTransaction txBuf) code]

/-- The slice of a buffer of `T` bytes that chunk `i` covers, in whole frames. -/
def chunkSlice (T i : ℕ) : Slice := ⟨65280 * i, 4 * (min 65280 (T - 65280 * i) / 4)⟩

/-- Where the first `m` chunks of a buffer of `T` bytes end: a remainder of less than
a frame is not sent. -/
def chunkBytes (T m : ℕ) : ℕ := min (65280 * m) (4 * (T / 4))

/-- The slice a transaction sends, from its pointer and its count of frames. -/
def McspiTransaction.slice (txBuf : UInt32) (t : McspiTransaction) : Slice :=
  ⟨(t.txBuf - txBuf).toNat, 4 * t.count.toNat⟩

/-- The bytes a transaction sends: `4 * count` bytes of memory from `txBuf` on. -/
def McspiTransaction.bytes (mem : UInt32 → UInt8) (t : McspiTransaction) : List UInt8 :=
  (List.range (4 * t.count.toNat)).map fun k => mem (t.txBuf + UInt32.ofNat k)

def bufferBytes (mem : UInt32 → UInt8) (txBuf : UInt32) (n : ℕ) : List UInt8 :=
  (List.range n).map fun k => mem (txBuf + UInt32.ofNat k)

/-- The transactions read a buffer chunk by chunk: their slices follow each other from
its start and stay inside it, and what they send is what the memory holds there. -/
structure ReadsBuffer (mem : UInt32 → UInt8) (txBuf totalBytes : UInt32)
    (ts : List McspiTransaction) : Prop where
  tiles : Tiles 0 (ts.map (McspiTransaction.slice txBuf)) (chunkBytes totalBytes.toNat ts.length)
  inside : chunkBytes totalBytes.toNat ts.length ≤ totalBytes.toNat
  bytes : ts.flatMap (McspiTransaction.bytes mem) =
    bufferBytes mem txBuf (chunkBytes totalBytes.toNat ts.length)

theorem le_chunkCount_mul (T : ℕ) : T ≤ 65280 * chunkCount T := by
  rw [chunkCount]
  omega

theorem chunkBytes_le (T m : ℕ) : chunkBytes T m ≤ T := by
  rw [chunkBytes]
  omega

theorem chunkBytes_of_lt {T m : ℕ} (hm : m < chunkCount T) : chunkBytes T m = 65280 * m := by
  have hlt := lt_chunkCount_iff.mp hm
  rw [chunkBytes]
  omega

theorem chunkBytes_chunkCount (T : ℕ) : chunkBytes T (chunkCount T) = 4 * (T / 4) := by
  have hle := le_chunkCount_mul T
  rw [chunkBytes]
  omega

section Loop

variable {txBuf : UInt32} {mcspi : ℕ → Int32} {T : ℕ} (hT : T < 2 ^ 32)

theorem spiTransferLoop_done (l : TransferLocals) (n : ℕ) (h : l.bytesRemaining = 0) :
    spiTransferLoop txBuf mcspi l n = ⟨[], systemPSuccess⟩ := by
  rw [spiTransferLoop, if_neg (by simp [h])]

include hT

theorem chunkLocals_bytesRemaining_pos {i : ℕ} (hi : 65280 * i < T) :
    0 < (chunkLocals T i).bytesRemaining := by
  rw [UInt32.lt_iff_toNat_lt, toNat_chunkLocals_bytesRemaining hT, UInt32.toNat_zero]
  omega

theorem spiTransferLoop_step {i n : ℕ} (hi : 65280 * i < T) (hok : mcspi n = systemPSuccess) :
    spiTransferLoop txBuf mcspi (chunkLocals T i) n =
      (spiTransferLoop txBuf mcspi (chunkLocals T (i + 1)) (n + 1)).prepend
        (chunkEvents txBuf T i) := by
  rw [spiTransferLoop, if_pos (chunkLocals_bytesRemaining_pos hT hi)]
  simp only [hok, ne_eq, not_true_eq_false, if_false, chunkLocals_next hT hi, chunkEvents]

theorem spiTransferLoop_fail {i n : ℕ} (hi : 65280 * i < T) (hbad : mcspi n ≠ systemPSuccess) :
    spiTransferLoop txBuf mcspi (chunkLocals T i) n =
      ⟨failedChunkEvents txBuf T i (mcspi n), mcspi n⟩ := by
  rw [spiTransferLoop, if_pos (chunkLocals_bytesRemaining_pos hT hi)]
  simp only [hbad, ne_eq, not_false_eq_true, if_true, failedChunkEvents]

theorem spiTransferLoop_run {i m n : ℕ} (hi : i + m ≤ chunkCount T)
    (hok : ∀ j < m, mcspi (n + j) = systemPSuccess) :
    spiTransferLoop txBuf mcspi (chunkLocals T i) n =
      (spiTransferLoop txBuf mcspi (chunkLocals T (i + m)) (n + m)).prepend
        ((List.range' i m).flatMap (chunkEvents txBuf T)) := by
  induction m generalizing i n with
  | zero => simp
  | succ m ih =>
      have hlt : 65280 * i < T := lt_chunkCount_iff.mp (by omega)
      have hhead : mcspi n = systemPSuccess := by simpa using hok 0 (by omega)
      have htail := ih (i := i + 1) (n := n + 1) (by omega) (by
        intro j hj
        have := hok (j + 1) (by omega)
        rwa [show n + (j + 1) = n + 1 + j by omega] at this)
      rw [show i + 1 + m = i + (m + 1) by omega, show n + 1 + m = n + (m + 1) by omega] at htail
      rw [spiTransferLoop_step hT hlt hhead, htail, List.range'_succ, List.flatMap_cons,
        TransferRun.prepend_append]

end Loop

theorem spiTransferBuffer_eq (txBuf totalBytes : UInt32) (mcspi : ℕ → Int32) (n : ℕ) :
    spiTransferBuffer txBuf totalBytes mcspi n =
      spiTransferLoop txBuf mcspi (chunkLocals totalBytes.toNat 0) n := by
  have hlocals : (⟨totalBytes, 0⟩ : TransferLocals) = chunkLocals totalBytes.toNat 0 := by
    simp [chunkLocals]
  rw [spiTransferBuffer, hlocals]

section Result

variable {txBuf totalBytes : UInt32} {mcspi : ℕ → Int32} {n : ℕ}

theorem spiTransferBuffer_success
    (hok : ∀ j < chunkCount totalBytes.toNat, mcspi (n + j) = systemPSuccess) :
    spiTransferBuffer txBuf totalBytes mcspi n =
      ⟨(List.range (chunkCount totalBytes.toNat)).flatMap (chunkEvents txBuf totalBytes.toNat),
        systemPSuccess⟩ := by
  have hT : totalBytes.toNat < 2 ^ 32 := totalBytes.toNat_lt
  have hend : (chunkLocals totalBytes.toNat (chunkCount totalBytes.toNat)).bytesRemaining = 0 := by
    apply UInt32.toNat.inj
    have hle : ¬ chunkCount totalBytes.toNat < chunkCount totalBytes.toNat := lt_irrefl _
    rw [lt_chunkCount_iff] at hle
    rw [toNat_chunkLocals_bytesRemaining hT, UInt32.toNat_zero]
    omega
  rw [spiTransferBuffer_eq, spiTransferLoop_run hT (m := chunkCount totalBytes.toNat) (by omega)
    hok, Nat.zero_add, spiTransferLoop_done _ _ hend, TransferRun.prepend, List.append_nil,
    List.range_eq_range']

theorem spiTransferBuffer_failure {j : ℕ} (hj : j < chunkCount totalBytes.toNat)
    (hok : ∀ i < j, mcspi (n + i) = systemPSuccess) (hbad : mcspi (n + j) ≠ systemPSuccess) :
    spiTransferBuffer txBuf totalBytes mcspi n =
      ⟨(List.range j).flatMap (chunkEvents txBuf totalBytes.toNat) ++
        failedChunkEvents txBuf totalBytes.toNat j (mcspi (n + j)), mcspi (n + j)⟩ := by
  have hT : totalBytes.toNat < 2 ^ 32 := totalBytes.toNat_lt
  rw [spiTransferBuffer_eq, spiTransferLoop_run hT (m := j) (by omega) hok, Nat.zero_add,
    spiTransferLoop_fail hT (lt_chunkCount_iff.mp hj) hbad, TransferRun.prepend,
    List.range_eq_range']

end Result

theorem success_or_first_failure (mcspi : ℕ → Int32) (n k : ℕ) :
    (∀ j < k, mcspi (n + j) = systemPSuccess) ∨
      ∃ j < k, mcspi (n + j) ≠ systemPSuccess ∧ ∀ i < j, mcspi (n + i) = systemPSuccess := by
  induction k with
  | zero => exact Or.inl (by simp)
  | succ k ih =>
      rcases ih with hok | ⟨j, hj, hbad, hok⟩
      · by_cases hk : mcspi (n + k) = systemPSuccess
        · refine Or.inl fun j hj => ?_
          rcases Nat.lt_succ_iff_lt_or_eq.mp hj with hj | rfl
          · exact hok j hj
          · exact hk
        · exact Or.inr ⟨k, by omega, hk, hok⟩
      · exact Or.inr ⟨j, by omega, hbad, hok⟩

section Observation

variable (txBuf : UInt32) (T : ℕ)

@[simp] theorem transactions_append (xs ys : List SpiEvent) :
    transactions (xs ++ ys) = transactions xs ++ transactions ys := List.filterMap_append

@[simp] theorem completed_append (xs ys : List SpiEvent) :
    completed (xs ++ ys) = completed xs ++ completed ys := List.filterMap_append

@[simp] theorem iterations_append (xs ys : List SpiEvent) :
    iterations (xs ++ ys) = iterations xs ++ iterations ys := List.filterMap_append

theorem observe_chunkEvents (is : List ℕ) :
    transactions (is.flatMap (chunkEvents txBuf T)) =
        is.map (fun i => (chunkLocals T i).spiTransaction txBuf) ∧
      completed (is.flatMap (chunkEvents txBuf T)) =
        is.map (fun i => (chunkLocals T i).spiTransaction txBuf) ∧
      iterations (is.flatMap (chunkEvents txBuf T)) = is.map (chunkLocals T) := by
  induction is with
  | nil => exact ⟨rfl, rfl, rfl⟩
  | cons i is ih =>
      obtain ⟨htrans, hcomp, hiter⟩ := ih
      simp only [List.flatMap_cons, transactions_append, completed_append, iterations_append,
        htrans, hcomp, hiter, List.map_cons]
      exact ⟨rfl, rfl, rfl⟩

end Observation

/-- The chunks tile the buffer from its start. -/
theorem tiles_chunkSlice {T m : ℕ} (hm : m ≤ chunkCount T) :
    Tiles 0 ((List.range m).map (chunkSlice T)) (chunkBytes T m) := by
  induction m with
  | zero => simp [chunkBytes]
  | succ m ih =>
      have hlt : 65280 * m < T := lt_chunkCount_iff.mp (by omega)
      rw [List.range_succ, List.map_append]
      refine (ih (by omega)).append ?_
      simp only [List.map_cons, List.map_nil, tiles_cons, tiles_nil, chunkSlice, chunkBytes]
      omega

section Pointer

variable {T i : ℕ} (hT : T < 2 ^ 32) (txBuf : UInt32)

theorem chunkLocals_byteOffset_eq : (chunkLocals T i).byteOffset = UInt32.ofNat (65280 * i) := by
  rw [UInt32.ofNat_mul]
  rfl

include hT

/-- The slice a transaction sends is the one its chunk covers, because its count is
the number of whole frames of the chunk. -/
theorem spiTransaction_slice (hi : 65280 * i < T) :
    ((chunkLocals T i).spiTransaction txBuf).slice txBuf = chunkSlice T i := by
  have hoffset : txBuf + (chunkLocals T i).byteOffset - txBuf = (chunkLocals T i).byteOffset := by
    rw [UInt32.add_comm, UInt32.add_sub_cancel]
  simp only [McspiTransaction.slice, TransferLocals.spiTransaction, chunkSlice, hoffset,
    toNat_chunkLocals_byteOffset hT hi, toNat_chunkLocals_frameCount hT]

theorem spiTransaction_count (h4 : 4 ∣ T) (hi : 65280 * i < T) :
    1 ≤ ((chunkLocals T i).spiTransaction txBuf).count.toNat ∧
      ((chunkLocals T i).spiTransaction txBuf).count.toNat ≤ 16320 := by
  simp only [TransferLocals.spiTransaction, toNat_chunkLocals_frameCount hT]
  omega

theorem spiTransaction_bytes (mem : UInt32 → UInt8) (hi : 65280 * i < T) :
    ((chunkLocals T i).spiTransaction txBuf).bytes mem =
      (chunkSlice T i).read fun k => mem (txBuf + UInt32.ofNat k) := by
  have hlength := congrArg Slice.length (spiTransaction_slice hT txBuf hi)
  simp only [McspiTransaction.slice] at hlength
  rw [McspiTransaction.bytes, hlength, Slice.read, List.range'_eq_map_range, List.map_map]
  apply List.map_congr_left
  intro k _
  simp only [TransferLocals.spiTransaction, chunkLocals_byteOffset_eq, chunkSlice,
    Function.comp_apply, UInt32.ofNat_add, UInt32.add_assoc]

theorem map_slice {m : ℕ} (hm : m ≤ chunkCount T) :
    ((List.range m).map fun i => (chunkLocals T i).spiTransaction txBuf).map
        (McspiTransaction.slice txBuf) =
      (List.range m).map (chunkSlice T) := by
  rw [List.map_map]
  refine List.map_congr_left fun i hi => ?_
  exact spiTransaction_slice hT txBuf
    (lt_chunkCount_iff.mp (lt_of_lt_of_le (List.mem_range.mp hi) hm))

theorem flatMap_bytes (mem : UInt32 → UInt8) {m : ℕ} (hm : m ≤ chunkCount T) :
    ((List.range m).map fun i => (chunkLocals T i).spiTransaction txBuf).flatMap
        (McspiTransaction.bytes mem) =
      bufferBytes mem txBuf (chunkBytes T m) := by
  have hread := (tiles_chunkSlice hm).flatMap_read fun k => mem (txBuf + UInt32.ofNat k)
  rw [Nat.sub_zero, ← List.range_eq_range'] at hread
  rw [bufferBytes, ← hread, List.flatMap_map, List.flatMap_map]
  apply List.flatMap_congr
  intro i hi
  exact spiTransaction_bytes hT txBuf mem
    (lt_chunkCount_iff.mp (lt_of_lt_of_le (List.mem_range.mp hi) hm))

end Pointer

/-- The first chunks of a buffer read it from its start. -/
theorem readsBuffer_chunks (mem : UInt32 → UInt8) (txBuf totalBytes : UInt32) {m : ℕ}
    (hm : m ≤ chunkCount totalBytes.toNat) :
    ReadsBuffer mem txBuf totalBytes
      ((List.range m).map fun i => (chunkLocals totalBytes.toNat i).spiTransaction txBuf) := by
  have hT : totalBytes.toNat < 2 ^ 32 := totalBytes.toNat_lt
  have hlength : ((List.range m).map fun i =>
      (chunkLocals totalBytes.toNat i).spiTransaction txBuf).length = m := by simp
  refine ⟨?_, chunkBytes_le _ _, ?_⟩
  · rw [hlength, map_slice hT txBuf hm]
    exact tiles_chunkSlice hm
  · rw [hlength, flatMap_bytes hT txBuf mem hm]

section Call

variable (txBuf totalBytes : UInt32) (mcspi : ℕ → Int32) (n : ℕ)

/-- The chunks a call starts are an initial segment of the chunks of the
buffer. -/
theorem spiTransferBuffer_observed :
    ∃ m ≤ chunkCount totalBytes.toNat,
      transactions (spiTransferBuffer txBuf totalBytes mcspi n).events =
          (List.range m).map (fun i => (chunkLocals totalBytes.toNat i).spiTransaction txBuf) ∧
        iterations (spiTransferBuffer txBuf totalBytes mcspi n).events =
          (List.range m).map (chunkLocals totalBytes.toNat) := by
  rcases success_or_first_failure mcspi n (chunkCount totalBytes.toNat) with
    hok | ⟨j, hj, hbad, hok⟩
  · obtain ⟨htrans, _, hiter⟩ :=
      observe_chunkEvents txBuf totalBytes.toNat (List.range (chunkCount totalBytes.toNat))
    refine ⟨_, le_rfl, ?_⟩
    rw [spiTransferBuffer_success hok]
    exact ⟨htrans, hiter⟩
  · obtain ⟨htrans, _, hiter⟩ := observe_chunkEvents txBuf totalBytes.toNat (List.range j)
    refine ⟨j + 1, hj, ?_⟩
    rw [spiTransferBuffer_failure hj hok hbad, transactions_append, iterations_append, htrans,
      hiter, List.range_succ, List.map_append, List.map_append]
    exact ⟨rfl, rfl⟩

/-- What a call has read when it returns. -/
theorem spiTransferBuffer_reads (mem : UInt32 → UInt8) : ReadsBuffer mem txBuf totalBytes
    (transactions (spiTransferBuffer txBuf totalBytes mcspi n).events) := by
  obtain ⟨m, hm, htrans, _⟩ := spiTransferBuffer_observed txBuf totalBytes mcspi n
  rw [htrans]
  exact readsBuffer_chunks mem txBuf totalBytes hm

/-- A call that returns success has read the whole buffer. -/
theorem spiTransferBuffer_reads_whole
    (hret : (spiTransferBuffer txBuf totalBytes mcspi n).ret = systemPSuccess) :
    chunkBytes totalBytes.toNat
        (transactions (spiTransferBuffer txBuf totalBytes mcspi n).events).length =
      4 * (totalBytes.toNat / 4) := by
  rcases success_or_first_failure mcspi n (chunkCount totalBytes.toNat) with
    hok | ⟨j, hj, hbad, hok⟩
  · rw [spiTransferBuffer_success hok, (observe_chunkEvents txBuf totalBytes.toNat _).1,
      List.length_map, List.length_range, chunkBytes_chunkCount]
  · rw [spiTransferBuffer_failure hj hok hbad] at hret
    exact absurd hret hbad

variable {mcspi n}

/-- Without a failure the whole buffer is sent. -/
theorem spiTransferBuffer_sends (mem : UInt32 → UInt8) (h4 : 4 ∣ totalBytes.toNat)
    (hok : ∀ i < chunkCount totalBytes.toNat, mcspi (n + i) = systemPSuccess) :
    (transactions (spiTransferBuffer txBuf totalBytes mcspi n).events).length =
        chunkCount totalBytes.toNat ∧
      (transactions (spiTransferBuffer txBuf totalBytes mcspi n).events).flatMap
        (McspiTransaction.bytes mem) = bufferBytes mem txBuf totalBytes.toNat ∧
      (spiTransferBuffer txBuf totalBytes mcspi n).ret = systemPSuccess := by
  rw [spiTransferBuffer_success hok, (observe_chunkEvents txBuf totalBytes.toNat _).1]
  refine ⟨by simp, ?_, rfl⟩
  rw [flatMap_bytes totalBytes.toNat_lt txBuf mem le_rfl, chunkBytes_chunkCount,
    Nat.mul_div_cancel' h4]

/-- The first failure ends the call with its code, after the chunks before it. -/
theorem spiTransferBuffer_stops (mem : UInt32 → UInt8) {j : ℕ}
    (hj : j < chunkCount totalBytes.toNat) (hbad : mcspi (n + j) ≠ systemPSuccess)
    (hok : ∀ i < j, mcspi (n + i) = systemPSuccess) :
    (transactions (spiTransferBuffer txBuf totalBytes mcspi n).events).length = j + 1 ∧
      (spiTransferBuffer txBuf totalBytes mcspi n).ret = mcspi (n + j) ∧
      completed (spiTransferBuffer txBuf totalBytes mcspi n).events =
        (transactions (spiTransferBuffer txBuf totalBytes mcspi n).events).take j ∧
      (completed (spiTransferBuffer txBuf totalBytes mcspi n).events).flatMap
        (McspiTransaction.bytes mem) = bufferBytes mem txBuf (65280 * j) := by
  obtain ⟨htrans, hdone, _⟩ := observe_chunkEvents txBuf totalBytes.toNat (List.range j)
  have hlast : completed (failedChunkEvents txBuf totalBytes.toNat j (mcspi (n + j))) = [] := by
    simp [completed, failedChunkEvents, hbad]
  have hcompleted : completed (spiTransferBuffer txBuf totalBytes mcspi n).events =
      (List.range j).map fun i => (chunkLocals totalBytes.toNat i).spiTransaction txBuf := by
    rw [spiTransferBuffer_failure hj hok hbad, completed_append, hdone, hlast, List.append_nil]
  have htransactions : transactions (spiTransferBuffer txBuf totalBytes mcspi n).events =
      ((List.range j).map fun i => (chunkLocals totalBytes.toNat i).spiTransaction txBuf) ++
        [(chunkLocals totalBytes.toNat j).spiTransaction txBuf] := by
    rw [spiTransferBuffer_failure hj hok hbad, transactions_append, htrans]
    rfl
  refine ⟨?_, ?_, ?_, ?_⟩
  · simp [htransactions]
  · rw [spiTransferBuffer_failure hj hok hbad]
  · rw [hcompleted, htransactions, List.take_left' (by simp)]
  · rw [hcompleted, flatMap_bytes totalBytes.toNat_lt txBuf mem hj.le, chunkBytes_of_lt hj]

variable (mcspi n)

/-- `spi_transfer_buffer` on every buffer of whole frames and every pattern of
outcomes: the slices are consecutive and inside the buffer, the counts are those
the driver takes, no word wraps; without a failure the whole buffer is sent, and
with one the call stops there with its code, after the chunks before it. -/
theorem spiTransferBuffer_spec (mem : UInt32 → UInt8) (h4 : 4 ∣ totalBytes.toNat) :
    (∃ stop ≤ totalBytes.toNat,
      Tiles 0 ((transactions (spiTransferBuffer txBuf totalBytes mcspi n).events).map
        (McspiTransaction.slice txBuf)) stop) ∧
    (∀ t ∈ transactions (spiTransferBuffer txBuf totalBytes mcspi n).events,
      1 ≤ t.count.toNat ∧ t.count.toNat ≤ 16320) ∧
    (∀ l ∈ iterations (spiTransferBuffer txBuf totalBytes mcspi n).events,
      l.byteOffset.toNat = 65280 * l.chunkIndex.toNat ∧
      l.chunkSize.toNat ≤ l.bytesRemaining.toNat ∧
      (l.bytesRemaining - l.chunkSize).toNat = l.bytesRemaining.toNat - l.chunkSize.toNat ∧
      (l.chunkIndex + 1).toNat = l.chunkIndex.toNat + 1) ∧
    ((∀ i < chunkCount totalBytes.toNat, mcspi (n + i) = systemPSuccess) →
      (transactions (spiTransferBuffer txBuf totalBytes mcspi n).events).length =
        chunkCount totalBytes.toNat ∧
      (transactions (spiTransferBuffer txBuf totalBytes mcspi n).events).flatMap
        (McspiTransaction.bytes mem) = bufferBytes mem txBuf totalBytes.toNat ∧
      (spiTransferBuffer txBuf totalBytes mcspi n).ret = systemPSuccess) ∧
    (∀ j < chunkCount totalBytes.toNat, mcspi (n + j) ≠ systemPSuccess →
      (∀ i < j, mcspi (n + i) = systemPSuccess) →
      (transactions (spiTransferBuffer txBuf totalBytes mcspi n).events).length = j + 1 ∧
      (spiTransferBuffer txBuf totalBytes mcspi n).ret = mcspi (n + j) ∧
      completed (spiTransferBuffer txBuf totalBytes mcspi n).events =
        (transactions (spiTransferBuffer txBuf totalBytes mcspi n).events).take j ∧
      (completed (spiTransferBuffer txBuf totalBytes mcspi n).events).flatMap
        (McspiTransaction.bytes mem) = bufferBytes mem txBuf (65280 * j)) := by
  have hT : totalBytes.toNat < 2 ^ 32 := totalBytes.toNat_lt
  obtain ⟨m, hm, htrans, hiter⟩ := spiTransferBuffer_observed txBuf totalBytes mcspi n
  have hchunk : ∀ i ∈ List.range m, 65280 * i < totalBytes.toNat := fun i hi =>
    lt_chunkCount_iff.mp (lt_of_lt_of_le (List.mem_range.mp hi) hm)
  have hreads := spiTransferBuffer_reads txBuf totalBytes mcspi n mem
  refine ⟨⟨_, hreads.inside, hreads.tiles⟩, ?_, ?_,
    spiTransferBuffer_sends txBuf totalBytes mem h4, fun j hj hbad hok =>
      spiTransferBuffer_stops txBuf totalBytes mem hj hbad hok⟩
  · rw [htrans]
    intro t ht
    obtain ⟨i, hi, rfl⟩ := List.mem_map.mp ht
    exact spiTransaction_count hT txBuf h4 (hchunk i hi)
  · rw [hiter]
    intro l hl
    obtain ⟨i, hi, rfl⟩ := List.mem_map.mp hl
    have hlt := hchunk i hi
    refine ⟨?_, ?_, ?_, ?_⟩
    · rw [toNat_chunkLocals_byteOffset hT hlt, toNat_chunkLocals_chunkIndex hT hlt]
    · rw [TransferLocals.toNat_chunkSize]
      exact min_le_right _ _
    · exact TransferLocals.toNat_next_bytesRemaining _
    · rw [UInt32.toNat_add, toNat_chunkLocals_chunkIndex hT hlt,
        show (1 : UInt32).toNat = 1 from rfl, Nat.mod_eq_of_lt (by omega)]

end Call

theorem spiTransferBuffer_spec_second_chunk :
    (transactions (spiTransferBuffer 4096 65284
        (fun k => if k = 1 then -3 else systemPSuccess) 0).events).length = 2 ∧
      (spiTransferBuffer 4096 65284
        (fun k => if k = 1 then -3 else systemPSuccess) 0).ret = -3 := by
  have h := (spiTransferBuffer_spec 4096 65284
    (fun k => if k = 1 then -3 else systemPSuccess) 0 (fun _ => 0) (by decide)).2.2.2.2
    1 (by decide) (by decide) (by decide)
  exact ⟨h.1, h.2.1⟩

end RadarStream
