import RadarStream.Sdk

/-!
# The memory pool

The functions `DPC_ObjDet_MemPoolReset`, `Set`, `Get`, `GetMaxUsage` and `Alloc`
of `mem_pool.c` on the object `MemPoolObj` of `system.h`. All arithmetic is that
of 32-bit words, wraps included.
-/

namespace RadarStream

/-- `DPC_ObjectDetection_MemCfg`: the memory a pool allocates from. -/
structure MemCfg where
  addr : UInt32
  size : UInt32
deriving DecidableEq, Inhabited

/-- `MemPoolObj`: a pool, its running address and the largest one. -/
structure MemPoolObj where
  cfg : MemCfg
  currAddr : UInt32
  maxCurrAddr : UInt32
deriving DecidableEq, Inhabited

def memPoolReset (pool : MemPoolObj) : MemPoolObj :=
  let currAddr := pool.cfg.addr
  { pool with currAddr := currAddr, maxCurrAddr := currAddr }

def memPoolSet (pool : MemPoolObj) (addr : UInt32) : MemPoolObj :=
  { pool with currAddr := addr, maxCurrAddr := max addr pool.maxCurrAddr }

def memPoolGet (pool : MemPoolObj) : UInt32 := pool.currAddr

def memPoolGetMaxUsage (pool : MemPoolObj) : UInt32 :=
  pool.maxCurrAddr - pool.cfg.addr

/-- `DPC_ObjDet_MemPoolAlloc`: the address of the block, or `NULL`, and the pool
after the call. -/
def memPoolAlloc (pool : MemPoolObj) (size : UInt32) (align : UInt8) :
    UInt32 × MemPoolObj :=
  let addr := memAlign pool.currAddr align.toUInt32
  if addr + size ≤ pool.cfg.addr + pool.cfg.size then
    (addr, { pool with
      currAddr := addr + size
      maxCurrAddr := max (addr + size) pool.maxCurrAddr })
  else (null, pool)

/-- The pool lies in the address space and does not start at `NULL`. -/
structure MemCfg.Placed (cfg : MemCfg) : Prop where
  addr_pos : 0 < cfg.addr.toNat
  fits : cfg.addr.toNat + cfg.size.toNat < 2 ^ 32

def MemCfg.stop (cfg : MemCfg) : ℕ := cfg.addr.toNat + cfg.size.toNat

theorem toNat_max (a b : UInt32) : (max a b).toNat = max a.toNat b.toNat := by
  have hmax : max a b = if a ≤ b then b else a := rfl
  by_cases h : a ≤ b
  · rw [hmax, if_pos h, max_eq_right (UInt32.le_iff_toNat_le.mp h)]
  · have hba : b.toNat ≤ a.toNat := by
      rw [UInt32.le_iff_toNat_le] at h
      omega
    rw [hmax, if_neg h, max_eq_left hba]

theorem MemCfg.Placed.toNat_stop {cfg : MemCfg} (h : cfg.Placed) :
    (cfg.addr + cfg.size).toNat = cfg.stop := by
  rw [UInt32.toNat_add, Nat.mod_eq_of_lt h.fits, MemCfg.stop]

end RadarStream
