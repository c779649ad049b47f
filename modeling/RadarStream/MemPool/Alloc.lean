import RadarStream.MemPool.Basic

/-!
# The bounds check of an allocation

Which address `DPC_ObjDet_MemPoolAlloc` answers, for every size and alignment a
caller may ask for. The check is to refuse a block exactly when it does not fit
(`AllocExact`). Its sum wraps: a size that takes the end of the block past the
last address back to the pool or below it passes the check.
-/

namespace RadarStream

structure MemCfg.Inside (cfg : MemCfg) (addr size : UInt32) : Prop where
  ne_null : addr ≠ null
  lower : cfg.addr.toNat ≤ addr.toNat
  upper : addr.toNat + size.toNat ≤ cfg.stop

/-- The least multiple of the alignment at or above the running address. -/
def MemPoolObj.nextAddr (pool : MemPoolObj) (align : UInt8) : ℕ :=
  Align.alignUp pool.currAddr.toNat align.toNat

theorem memPoolAlloc_fst {pool : MemPoolObj} (hcfg : pool.cfg.Placed) {align : UInt8}
    (halign : IsAlignment align) (size : UInt32) : (memPoolAlloc pool size align).1 =
      if (pool.nextAddr align + size.toNat) % 2 ^ 32 ≤ pool.cfg.stop then
        UInt32.ofNat (pool.nextAddr align) else null := by
  have haddr : memAlign pool.currAddr align.toUInt32 = UInt32.ofNat (pool.nextAddr align) := by
    apply UInt32.toNat_inj.mp
    rw [toNat_memAlign _ halign, UInt32.toNat_ofNat']
    rfl
  have hcheck : memAlign pool.currAddr align.toUInt32 + size ≤ pool.cfg.addr + pool.cfg.size ↔
      (pool.nextAddr align + size.toNat) % 2 ^ 32 ≤ pool.cfg.stop := by
    rw [UInt32.le_iff_toNat_le, hcfg.toNat_stop, UInt32.toNat_add, haddr, UInt32.toNat_ofNat',
      Nat.mod_add_mod]
  rw [memPoolAlloc]
  by_cases hle : (pool.nextAddr align + size.toNat) % 2 ^ 32 ≤ pool.cfg.stop
  · rw [if_pos hle, if_pos (hcheck.mpr hle), haddr]
  · rw [if_neg hle, if_neg (fun hend => hle (hcheck.mp hend))]

/-- A placed pool whose running address lies in it, and an alignment. -/
structure MemPoolObj.Ready (pool : MemPoolObj) (align : UInt8) : Prop where
  placed : pool.cfg.Placed
  lower : pool.cfg.addr.toNat ≤ pool.currAddr.toNat
  upper : pool.currAddr.toNat ≤ pool.cfg.stop
  aligned : IsAlignment align

/-- An address is handed out exactly for a block that fits, and then the block
lies in the pool. -/
structure AllocExact (pool : MemPoolObj) (size : UInt32) (align : UInt8) : Prop where
  ne_null_iff : (memPoolAlloc pool size align).1 ≠ null ↔
    pool.nextAddr align + size.toNat ≤ pool.cfg.stop
  inside : (memPoolAlloc pool size align).1 ≠ null →
    pool.cfg.Inside (memPoolAlloc pool size align).1 size

namespace MemPoolObj.Ready

variable {pool : MemPoolObj} {size : UInt32} {align : UInt8}

theorem isLeast_nextAddr (h : pool.Ready align) :
    IsLeast {m | pool.currAddr.toNat ≤ m ∧ align.toNat ∣ m} (pool.nextAddr align) :=
  Align.isLeast_alignUp pool.currAddr.toNat h.aligned.pos

theorem nextAddr_pos (h : pool.Ready align) :
    0 < pool.nextAddr align ∧ pool.cfg.addr.toNat ≤ pool.nextAddr align := by
  have hle := h.isLeast_nextAddr.1.1
  have hlower := h.lower
  have hpos := h.placed.addr_pos
  omega

theorem nextAddr_le (h : pool.Ready align) : pool.nextAddr align ≤ 2 ^ 32 := by
  obtain ⟨k, hk, hpow⟩ := h.aligned
  rw [nextAddr, hpow]
  exact Align.alignUp_le_two_pow (by omega) pool.currAddr.toNat_lt.le

theorem ofNat_nextAddr_ne_null_iff (h : pool.Ready align) :
    UInt32.ofNat (pool.nextAddr align) ≠ null ↔ pool.nextAddr align < 2 ^ 32 := by
  have hpos := h.nextAddr_pos.1
  have hle := h.nextAddr_le
  rw [Ne, ← UInt32.toNat_inj, UInt32.toNat_ofNat', UInt32.toNat_zero]
  omega

theorem memPoolAlloc_ne_null_iff (h : pool.Ready align) :
    (memPoolAlloc pool size align).1 ≠ null ↔ pool.nextAddr align < 2 ^ 32 ∧
      (pool.nextAddr align + size.toNat) % 2 ^ 32 ≤ pool.cfg.stop := by
  rw [memPoolAlloc_fst h.placed h.aligned]
  split
  · rename_i hle
    rw [h.ofNat_nextAddr_ne_null_iff, and_iff_left hle]
  · rename_i hle
    exact ⟨fun hnull => absurd rfl hnull, fun hnull => absurd hnull.2 hle⟩

theorem toNat_memPoolAlloc (h : pool.Ready align) (hret : (memPoolAlloc pool size align).1 ≠ null) :
    (memPoolAlloc pool size align).1.toNat = pool.nextAddr align := by
  obtain ⟨hlt, hle⟩ := h.memPoolAlloc_ne_null_iff.mp hret
  rw [memPoolAlloc_fst h.placed h.aligned, if_pos hle]
  exact UInt32.toNat_ofNat_of_lt' hlt

theorem inside_memPoolAlloc_iff (h : pool.Ready align) :
    pool.cfg.Inside (memPoolAlloc pool size align).1 size ↔
      pool.nextAddr align + size.toNat ≤ pool.cfg.stop := by
  have hfits : pool.cfg.stop < 2 ^ 32 := h.placed.fits
  constructor
  · rintro ⟨hret, _, hupper⟩
    rwa [h.toNat_memPoolAlloc hret] at hupper
  · intro hle
    have hret : (memPoolAlloc pool size align).1 ≠ null := by
      rw [h.memPoolAlloc_ne_null_iff, Nat.mod_eq_of_lt (by omega)]
      exact ⟨by omega, hle⟩
    refine ⟨hret, ?_, ?_⟩
    · rw [h.toNat_memPoolAlloc hret]
      exact h.nextAddr_pos.2
    · rw [h.toNat_memPoolAlloc hret]
      exact hle

/-- A block that fits is handed out; any other may be handed out only when its
end wraps. -/
theorem not_allocExact (h : pool.Ready align) (haddr : pool.nextAddr align < 2 ^ 32)
    (hwrap : 2 ^ 32 ≤ pool.nextAddr align + size.toNat)
    (hpass : pool.nextAddr align + size.toNat ≤ pool.cfg.stop + 2 ^ 32) :
    ¬ AllocExact pool size align := by
  have hfits : pool.cfg.stop < 2 ^ 32 := h.placed.fits
  have hsize := size.toNat_lt
  intro hexact
  have hret : (memPoolAlloc pool size align).1 ≠ null := by
    rw [h.memPoolAlloc_ne_null_iff]
    omega
  have hle := hexact.ne_null_iff.mp hret
  omega

end MemPoolObj.Ready

/-- The check is exact when the sum does not wrap, when the alignment has wrapped
to `NULL` before, and when the wrapped sum is still behind the pool. -/
theorem allocExact_iff {pool : MemPoolObj} {align : UInt8} (h : pool.Ready align)
    (size : UInt32) : AllocExact pool size align ↔
      pool.nextAddr align + size.toNat < 2 ^ 32 ∨ 2 ^ 32 ≤ pool.nextAddr align ∨
        pool.cfg.stop + 2 ^ 32 < pool.nextAddr align + size.toNat := by
  have hfits : pool.cfg.stop < 2 ^ 32 := h.placed.fits
  have hsize := size.toNat_lt
  constructor
  · intro hexact
    by_contra hcond
    rw [not_or, not_or, not_lt, not_le, not_lt] at hcond
    exact h.not_allocExact hcond.2.1 hcond.1 hcond.2.2 hexact
  · intro hcond
    have hiff : (memPoolAlloc pool size align).1 ≠ null ↔
        pool.nextAddr align + size.toNat ≤ pool.cfg.stop := by
      rw [h.memPoolAlloc_ne_null_iff]
      omega
    exact ⟨hiff, fun hret => h.inside_memPoolAlloc_iff.mpr (hiff.mp hret)⟩

def emptyPool : MemPoolObj := ⟨⟨256, 64⟩, 256, 256⟩

theorem ready_emptyPool : emptyPool.Ready 4 := by
  exact ⟨⟨by decide, by decide⟩, by decide, by decide, by decide⟩

theorem allocExact_iff_emptyPool : AllocExact emptyPool 64 4 :=
  (allocExact_iff ready_emptyPool 64).mpr (Or.inl (by decide))

/-- A block of nearly 4 GiB is handed out from a pool of 64 bytes. -/
theorem not_allocExact_emptyPool : ¬ AllocExact emptyPool 0xFFFFFF80 4 :=
  ready_emptyPool.not_allocExact (by decide) (by decide) (by decide)

end RadarStream
