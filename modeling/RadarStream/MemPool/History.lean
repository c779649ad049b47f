import RadarStream.MemPool.Basic
import RadarStream.Library.Ledger
import RadarStream.Library.Replay

/-!
# Runs of the memory pool

A run starts with a reset and goes on with resets, allocations and rewinds in
any order. `PoolHistory` carries the pool together with what happened since the
last reset: the log of allocated blocks and set addresses, and every value the
running address took. The pool refines the arena of `Ledger`: its running
address is the top of the log (`PoolInv.grows`), so live blocks never meet. The
high-water mark is kept apart from the running address by all three operations
and is the largest address reached (`PoolInv.max_mem`, `PoolInv.le_max`).
-/

namespace RadarStream

open Ledger Replay

/-- The operations a client performs on a pool. -/
inductive PoolOp where
  | reset
  | alloc (size : UInt32) (align : UInt8)
  | set (addr : UInt32)
deriving DecidableEq

/-- A pool and what happened to it since the last reset, newest first. -/
structure PoolHistory where
  pool : MemPoolObj
  log : List (Event ℕ)
  reached : List UInt32
deriving DecidableEq

/-- What a client may ask: an alignment that is a power of two with an exact
end below the end of the address space, or a rewind to an address of the pool. -/
def Allowed (pool : MemPoolObj) : PoolOp → Prop
  | .reset => True
  | .alloc size align => IsAlignment align ∧
      Align.alignUp pool.currAddr.toNat align.toNat + size.toNat < 2 ^ 32
  | .set addr => pool.cfg.addr.toNat ≤ addr.toNat ∧ addr.toNat ≤ pool.cfg.stop

instance (pool : MemPoolObj) : ∀ op, Decidable (Allowed pool op)
  | .reset => inferInstanceAs (Decidable True)
  | .alloc _ _ => inferInstanceAs (Decidable (_ ∧ _))
  | .set _ => inferInstanceAs (Decidable (_ ∧ _))

def PoolHistory.afterReset (pool : MemPoolObj) : PoolHistory where
  pool := memPoolReset pool
  log := []
  reached := [(memPoolReset pool).currAddr]

def poolStep (s : PoolHistory) (op : PoolOp) : Option PoolHistory :=
  if Allowed s.pool op then
    match op with
    | .reset => some (.afterReset s.pool)
    | .alloc size align =>
        let (ret, pool) := memPoolAlloc s.pool size align
        some {
          pool := pool
          log := if ret = null then s.log else
            .alloc ⟨ret.toNat, ret.toNat + size.toNat⟩ :: s.log
          reached := pool.currAddr :: s.reached }
    | .set addr =>
        let pool := memPoolSet s.pool addr
        some {
          pool := pool
          log := .set addr.toNat :: s.log
          reached := pool.currAddr :: s.reached }
  else none

/-- What one allocation does: either the aligned block fits and the pool moves
behind it, or the pool stays as it is and the answer is `NULL`. -/
theorem memPoolAlloc_cases {pool : MemPoolObj} {size : UInt32} {align : UInt8}
    (hcfg : pool.cfg.Placed) (h : Allowed pool (.alloc size align)) :
    (∃ ret, ret.toNat = Align.alignUp pool.currAddr.toNat align.toNat ∧
        (ret + size).toNat = ret.toNat + size.toNat ∧
        ret.toNat + size.toNat ≤ pool.cfg.stop ∧
        memPoolAlloc pool size align = (ret, { pool with
          currAddr := ret + size
          maxCurrAddr := max (ret + size) pool.maxCurrAddr })) ∨
      memPoolAlloc pool size align = (null, pool) := by
  obtain ⟨halign, hfit⟩ := h
  have haddr := toNat_memAlign_of_lt pool.currAddr halign (by omega)
  have hsum : (memAlign pool.currAddr align.toUInt32 + size).toNat =
      (memAlign pool.currAddr align.toUInt32).toNat + size.toNat := by
    rw [UInt32.toNat_add, Nat.mod_eq_of_lt (by rw [haddr]; exact hfit)]
  have hstop := hcfg.toNat_stop
  by_cases hle : memAlign pool.currAddr align.toUInt32 + size ≤ pool.cfg.addr + pool.cfg.size
  · refine Or.inl ⟨memAlign pool.currAddr align.toUInt32, haddr, hsum, ?_, ?_⟩
    · rw [← hsum, ← hstop]
      exact UInt32.le_iff_toNat_le.mp hle
    · simp only [memPoolAlloc, if_pos hle]
  · exact Or.inr (by simp only [memPoolAlloc, if_neg hle])

/-- What holds of a pool with configuration `cfg` at every point of a run. -/
structure PoolInv (cfg : MemCfg) (s : PoolHistory) : Prop where
  cfg_eq : s.pool.cfg = cfg
  lower : cfg.addr.toNat ≤ s.pool.currAddr.toNat
  curr_le_max : s.pool.currAddr.toNat ≤ s.pool.maxCurrAddr.toNat
  upper : s.pool.maxCurrAddr.toNat ≤ cfg.stop
  grows : Grows s.log s.pool.currAddr.toNat
  max_mem : s.pool.maxCurrAddr ∈ s.reached
  le_max : ∀ a ∈ s.reached, a.toNat ≤ s.pool.maxCurrAddr.toNat

namespace PoolInv

variable {cfg : MemCfg}

theorem afterReset {pool : MemPoolObj} (h : pool.cfg = cfg) :
    PoolInv cfg (.afterReset pool) where
  cfg_eq := h
  lower := by simp [PoolHistory.afterReset, memPoolReset, h]
  curr_le_max := le_rfl
  upper := by simp [PoolHistory.afterReset, memPoolReset, h, MemCfg.stop]
  grows := .reset _
  max_mem := by simp [PoolHistory.afterReset, memPoolReset]
  le_max := by simp [PoolHistory.afterReset, memPoolReset]

/-- Moving the running address to `addr` keeps the high-water mark the largest
address reached; it is the part that `Set` and a successful `Alloc` share. -/
theorem move {s : PoolHistory} (hs : PoolInv cfg s) {addr : UInt32} {log : List (Event ℕ)}
    (hlower : cfg.addr.toNat ≤ addr.toNat) (hupper : addr.toNat ≤ cfg.stop)
    (hgrows : Grows log addr.toNat) :
    PoolInv cfg {
      pool := { s.pool with currAddr := addr, maxCurrAddr := max addr s.pool.maxCurrAddr }
      log := log
      reached := addr :: s.reached } where
  cfg_eq := hs.cfg_eq
  lower := hlower
  curr_le_max := by simp [toNat_max]
  upper := by simpa [toNat_max] using ⟨hupper, hs.upper⟩
  grows := hgrows
  max_mem := by
    have hmax : max addr s.pool.maxCurrAddr = addr ∨
        max addr s.pool.maxCurrAddr = s.pool.maxCurrAddr := by
      have hdef : max addr s.pool.maxCurrAddr =
        if addr ≤ s.pool.maxCurrAddr then s.pool.maxCurrAddr else addr := rfl
      rw [hdef]
      split
      · exact Or.inr rfl
      · exact Or.inl rfl
    rcases hmax with hmax | hmax
    · simp [hmax]
    · simp [hmax, hs.max_mem]
  le_max := by
    intro a ha
    rw [toNat_max]
    rcases List.mem_cons.mp ha with rfl | ha
    · exact le_max_left _ _
    · exact (hs.le_max a ha).trans (le_max_right _ _)

theorem stay {s : PoolHistory} (hs : PoolInv cfg s) :
    PoolInv cfg { s with reached := s.pool.currAddr :: s.reached } where
  cfg_eq := hs.cfg_eq
  lower := hs.lower
  curr_le_max := hs.curr_le_max
  upper := hs.upper
  grows := hs.grows
  max_mem := List.mem_cons_of_mem _ hs.max_mem
  le_max := by
    intro a ha
    rcases List.mem_cons.mp ha with rfl | ha
    · exact hs.curr_le_max
    · exact hs.le_max a ha

theorem alloc_ne_null {s : PoolHistory} (hs : PoolInv cfg s) (hcfg : cfg.Placed)
    {align : UInt8} (halign : IsAlignment align) {ret : UInt32}
    (hret : ret.toNat = Align.alignUp s.pool.currAddr.toNat align.toNat) :
    cfg.addr.toNat ≤ ret.toNat ∧ ret ≠ null := by
  have hle := Align.le_alignUp s.pool.currAddr.toNat halign.pos
  have hlower := hs.lower
  have hpos := hcfg.addr_pos
  refine ⟨by omega, ?_⟩
  rintro rfl
  simp only [null, UInt32.toNat_zero] at hret
  omega

theorem step (hcfg : cfg.Placed) (s : PoolHistory) (op : PoolOp) (t : PoolHistory)
    (hs : PoolInv cfg s) (h : poolStep s op = some t) : PoolInv cfg t := by
  by_cases hop : Allowed s.pool op
  · cases op with
    | reset =>
        simp only [poolStep, if_pos hop] at h
        obtain rfl := Option.some.inj h
        exact afterReset hs.cfg_eq
    | alloc size align =>
        have hplaced : s.pool.cfg.Placed := hs.cfg_eq.symm ▸ hcfg
        simp only [poolStep, if_pos hop] at h
        obtain rfl := Option.some.inj h
        rcases memPoolAlloc_cases hplaced hop with ⟨ret, hret, hsum, hstop, heq⟩ | heq
        · obtain ⟨hlower, hnull⟩ := hs.alloc_ne_null hcfg hop.1 hret
          have hle := Align.le_alignUp s.pool.currAddr.toNat hop.1.pos
          simp only [heq, if_neg hnull]
          refine hs.move ?_ ?_ ?_
          · omega
          · rw [hsum, ← hs.cfg_eq]
            exact hstop
          · rw [hsum]
            exact hs.grows.alloc ⟨ret.toNat, ret.toNat + size.toNat⟩
              (hret ▸ hle) (Nat.le_add_right _ _)
        · simp only [heq, if_pos]
          exact hs.stay
    | set addr =>
        have hcfg' := hs.cfg_eq
        simp only [poolStep, if_pos hop] at h
        obtain rfl := Option.some.inj h
        rw [Allowed, hcfg'] at hop
        exact hs.move hop.1 hop.2 (hs.grows.set addr.toNat)
  · simp [poolStep, hop] at h

theorem of_reachable (hcfg : cfg.Placed) {pool : MemPoolObj} (h : pool.cfg = cfg)
    {s : PoolHistory} (hs : Reachable poolStep (.afterReset pool) s) : PoolInv cfg s :=
  hs.invariant (step hcfg) (afterReset h)

theorem toNat_maxUsage {s : PoolHistory} (hs : PoolInv cfg s) :
    (memPoolGetMaxUsage s.pool).toNat =
      s.pool.maxCurrAddr.toNat - cfg.addr.toNat := by
  have hle : s.pool.cfg.addr ≤ s.pool.maxCurrAddr := by
    rw [UInt32.le_iff_toNat_le, hs.cfg_eq]
    exact hs.lower.trans hs.curr_le_max
  rw [memPoolGetMaxUsage, UInt32.toNat_sub_of_le _ _ hle, hs.cfg_eq]

/-- The usage the pool reports is the largest distance of the running address
from the start since the last reset. -/
theorem maxUsage_isGreatest {s : PoolHistory} (hs : PoolInv cfg s) :
    IsGreatest {n | ∃ a ∈ s.reached, n = a.toNat - cfg.addr.toNat}
      (memPoolGetMaxUsage s.pool).toNat := by
  rw [hs.toNat_maxUsage]
  refine ⟨⟨s.pool.maxCurrAddr, hs.max_mem, rfl⟩, ?_⟩
  rintro n ⟨a, ha, rfl⟩
  exact Nat.sub_le_sub_right (hs.le_max a ha) _

theorem alloc_inside {s : PoolHistory} (hs : PoolInv cfg s) (hcfg : cfg.Placed)
    {size : UInt32} {align : UInt8} (hop : Allowed s.pool (.alloc size align))
    (hret : (memPoolAlloc s.pool size align).1 ≠ null) :
    align.toNat ∣ (memPoolAlloc s.pool size align).1.toNat ∧
      cfg.addr.toNat ≤ (memPoolAlloc s.pool size align).1.toNat ∧
      (memPoolAlloc s.pool size align).1.toNat + size.toNat ≤ cfg.stop := by
  have hplaced : s.pool.cfg.Placed := hs.cfg_eq.symm ▸ hcfg
  rcases memPoolAlloc_cases hplaced hop with ⟨ret, haddr, _, hstop, heq⟩ | heq
  · rw [heq]
    refine ⟨?_, (hs.alloc_ne_null hcfg hop.1 haddr).1, ?_⟩
    · rw [haddr]
      exact Align.dvd_alignUp _ _
    · rw [← hs.cfg_eq]
      exact hstop
  · exact absurd (by rw [heq]) hret

theorem alloc_null {s : PoolHistory} (hs : PoolInv cfg s) (hcfg : cfg.Placed)
    {size : UInt32} {align : UInt8} (hop : Allowed s.pool (.alloc size align))
    (hret : (memPoolAlloc s.pool size align).1 = null) :
    (memPoolAlloc s.pool size align).2 = s.pool := by
  have hplaced : s.pool.cfg.Placed := hs.cfg_eq.symm ▸ hcfg
  rcases memPoolAlloc_cases hplaced hop with ⟨ret, haddr, _, _, heq⟩ | heq
  · rw [heq] at hret
    exact absurd hret (hs.alloc_ne_null hcfg hop.1 haddr).2
  · rw [heq]

end PoolInv

/-- The pool over whole runs: its addresses stay ordered inside the pool, what
it hands out is aligned and inside, a refusal changes nothing, live blocks never
meet, and the reported usage is the high-water mark. -/
theorem memPool_run {cfg : MemCfg} (hcfg : cfg.Placed) {pool : MemPoolObj}
    (hpool : pool.cfg = cfg) {s : PoolHistory}
    (hs : Reachable poolStep (.afterReset pool) s) :
    (cfg.addr.toNat ≤ s.pool.currAddr.toNat ∧
      s.pool.currAddr.toNat ≤ s.pool.maxCurrAddr.toNat ∧
      s.pool.maxCurrAddr.toNat ≤ cfg.addr.toNat + cfg.size.toNat) ∧
    (∀ size align, Allowed s.pool (.alloc size align) →
      (memPoolAlloc s.pool size align).1 ≠ null →
        align.toNat ∣ (memPoolAlloc s.pool size align).1.toNat ∧
        cfg.addr.toNat ≤ (memPoolAlloc s.pool size align).1.toNat ∧
        (memPoolAlloc s.pool size align).1.toNat + size.toNat ≤
          cfg.addr.toNat + cfg.size.toNat) ∧
    (∀ size align, Allowed s.pool (.alloc size align) →
      (memPoolAlloc s.pool size align).1 = null →
        (memPoolAlloc s.pool size align).2 = s.pool) ∧
    (live s.log).Pairwise (fun b c => Disjoint b.addresses c.addresses) ∧
    IsGreatest {n | ∃ a ∈ s.reached, n = a.toNat - cfg.addr.toNat}
      (memPoolGetMaxUsage s.pool).toNat := by
  have hinv : PoolInv cfg s := PoolInv.of_reachable hcfg hpool hs
  refine ⟨⟨hinv.lower, hinv.curr_le_max, hinv.upper⟩, ?_, ?_, ?_, ?_⟩
  · intro size align hop hret
    exact hinv.alloc_inside hcfg hop hret
  · intro size align hop hret
    exact hinv.alloc_null hcfg hop hret
  · exact hinv.grows.live_disjoint
  · exact hinv.maxUsage_isGreatest

def samplePool : MemPoolObj := ⟨⟨256, 64⟩, 7, 9⟩

def sampleHistory : PoolHistory where
  pool := ⟨⟨256, 64⟩, 274, 292⟩
  log := [.alloc ⟨266, 274⟩, .set 266, .alloc ⟨272, 292⟩, .alloc ⟨256, 266⟩]
  reached := [274, 266, 292, 266, 256]

theorem memPool_run_sample :
    live sampleHistory.log = [⟨266, 274⟩, ⟨256, 266⟩] ∧
      (memPoolGetMaxUsage sampleHistory.pool).toNat = 36 ∧
      (live sampleHistory.log).Pairwise (fun b c => Disjoint b.addresses c.addresses) := by
  have hrun : replay poolStep (.afterReset samplePool)
      [.alloc 10 4, .alloc 20 8, .set 266, .alloc 8 1] = some sampleHistory := by
    decide +kernel
  refine ⟨by decide +kernel, by decide +kernel, ?_⟩
  have hplaced : (⟨256, 64⟩ : MemCfg).Placed := ⟨by decide, by decide⟩
  have hpool : samplePool.cfg = ⟨256, 64⟩ := rfl
  exact (memPool_run hplaced hpool ⟨_, hrun⟩).2.2.2.1

end RadarStream
