import RadarStream.MemPool.Alloc

/-!
# The first block of a pool

What `DPC_ObjDet_MemPoolAlloc` answers right after `DPC_ObjDet_MemPoolReset`, for
every size a caller may ask for. The end of the block is computed with a wrap, so
there are three cases: the block fits, it does not and the answer is `NULL`, or
its end is behind the last address and the block is handed out although it does
not fit.
-/

namespace RadarStream

/-- The first block of a pool. -/
def firstBlock (cfg : MemCfg) (size : UInt32) (align : UInt8) : UInt32 :=
  (memPoolAlloc (memPoolReset ⟨cfg, 0, 0⟩) size align).1

def MemCfg.firstAddr (cfg : MemCfg) (align : UInt8) : ℕ :=
  Align.alignUp cfg.addr.toNat align.toNat

theorem firstBlock_of_reset (pool : MemPoolObj) (size : UInt32) (align : UInt8) :
    (memPoolAlloc (memPoolReset pool) size align).1 = firstBlock pool.cfg size align := by
  rfl

/-- The pool is in the address space and holds at least one aligned address. -/
structure MemCfg.RoomFor (cfg : MemCfg) (align : UInt8) : Prop where
  placed : cfg.Placed
  aligned : IsAlignment align
  room : align.toNat ≤ cfg.size.toNat

namespace MemCfg.RoomFor

variable {cfg : MemCfg} {size : UInt32} {align : UInt8}

theorem firstAddr_lt (h : cfg.RoomFor align) :
    cfg.addr.toNat ≤ cfg.firstAddr align ∧ cfg.firstAddr align < cfg.stop := by
  have hle := Align.le_alignUp cfg.addr.toNat h.aligned.pos
  have hlt := Align.alignUp_lt_add cfg.addr.toNat h.aligned.pos
  have hroom := h.room
  rw [MemCfg.firstAddr, MemCfg.stop]
  omega

theorem ready (h : cfg.RoomFor align) : (memPoolReset ⟨cfg, 0, 0⟩).Ready align where
  placed := h.placed
  lower := le_rfl
  upper := Nat.le_add_right _ _
  aligned := h.aligned

/-- A block is handed out when it fits, and when its end wraps. -/
theorem firstBlock_ne_null_iff (h : cfg.RoomFor align) : firstBlock cfg size align ≠ null ↔
    cfg.firstAddr align + size.toNat ≤ cfg.stop ∨ 2 ^ 32 ≤ cfg.firstAddr align + size.toNat := by
  have hstart := h.firstAddr_lt
  have hfits : cfg.stop < 2 ^ 32 := h.placed.fits
  have hsize := size.toNat_lt
  have hcheck : firstBlock cfg size align ≠ null ↔ cfg.firstAddr align < 2 ^ 32 ∧
      (cfg.firstAddr align + size.toNat) % 2 ^ 32 ≤ cfg.stop :=
    h.ready.memPoolAlloc_ne_null_iff
  rw [hcheck]
  omega

theorem inside_firstBlock_iff (h : cfg.RoomFor align) :
    cfg.Inside (firstBlock cfg size align) size ↔ cfg.firstAddr align + size.toNat ≤ cfg.stop :=
  h.ready.inside_memPoolAlloc_iff

end MemCfg.RoomFor

end RadarStream
