import RadarStream.Library.Arena
import RadarStream.MemPool.Alloc
import RadarStream.MemPool.History

/-!
# Scopes in a pool

`DPC_ObjDet_MemPoolGet` and `Set` let a client keep an address and go back to it
("Helps to rewind for example"). A client that does so in scopes gets its blocks
where the layout of the arena puts them, as long as they lie in the pool, and what
`DPC_ObjDet_MemPoolGetMaxUsage` reports afterwards is the size the pool needs.
-/

namespace RadarStream

open Arena Ledger

/-- A block a client asks for. -/
structure PoolRequest where
  size : UInt32
  align : UInt8
  aligned : IsAlignment align

def poolLayout : Layout PoolRequest where
  place a top :=
    ⟨Align.alignUp top a.align.toNat, Align.alignUp top a.align.toNat + a.size.toNat⟩
  le_start a top := Align.le_alignUp top a.aligned.pos
  start_le_stop _ _ := Nat.le_add_right _ _

/-- The client: it stops at the first `NULL`, keeps the address at the start of a
scope and sets it again at the end. -/
def runPlan : Plan PoolRequest → MemPoolObj → Option (List UInt32 × MemPoolObj)
  | .done, pool => some ([], pool)
  | .block a rest, pool => do
      let (addr, pool) := memPoolAlloc pool a.size a.align
      if addr = null then none
      else
        let (addrs, pool) ← runPlan rest pool
        return (addr :: addrs, pool)
  | .scope inner rest, pool => do
      let mark := memPoolGet pool
      let (addrs, pool) ← runPlan inner pool
      let (addrs', pool) ← runPlan rest (memPoolSet pool mark)
      return (addrs ++ addrs', pool)

/-- The addresses of a pool are in order. -/
structure MemPoolObj.Ordered (pool : MemPoolObj) : Prop where
  placed : pool.cfg.Placed
  lower : pool.cfg.addr.toNat ≤ pool.currAddr.toNat
  curr_le_max : pool.currAddr.toNat ≤ pool.maxCurrAddr.toNat

/-- What a plan that succeeds gives and leaves. -/
structure Served (plan : Plan PoolRequest) (pool : MemPoolObj) (addrs : List UInt32)
    (t : MemPoolObj) : Prop where
  addrs_eq : addrs.map UInt32.toNat =
    (poolLayout.blocks plan pool.currAddr.toNat).map Block.start
  cfg_eq : t.cfg = pool.cfg
  curr_eq : t.currAddr.toNat = poolLayout.finish plan pool.currAddr.toNat
  max_eq : t.maxCurrAddr.toNat =
    max pool.maxCurrAddr.toNat (poolLayout.peak plan pool.currAddr.toNat)

section Run

variable {pool : MemPoolObj}

theorem MemPoolObj.Ordered.allocated (h : pool.Ordered) {a : PoolRequest} {addr : UInt32}
    (haddr : (addr + a.size).toNat = (poolLayout.place a pool.currAddr.toNat).stop) :
    ({ pool with
      currAddr := addr + a.size
      maxCurrAddr := max (addr + a.size) pool.maxCurrAddr } : MemPoolObj).Ordered where
  placed := h.placed
  lower := by
    rw [haddr]
    exact h.lower.trans (poolLayout.le_stop a _)
  curr_le_max := by simp [toNat_max]

theorem MemPoolObj.Ordered.rewound (h : pool.Ordered) {t : MemPoolObj} (hcfg : t.cfg = pool.cfg)
    (hmax : pool.maxCurrAddr.toNat ≤ t.maxCurrAddr.toNat) :
    (memPoolSet t (memPoolGet pool)).Ordered ∧
      (memPoolSet t (memPoolGet pool)).maxCurrAddr.toNat = t.maxCurrAddr.toNat := by
  have heq : (memPoolSet t (memPoolGet pool)).maxCurrAddr.toNat = t.maxCurrAddr.toNat := by
    simp only [memPoolSet, memPoolGet, toNat_max]
    exact max_eq_right (h.curr_le_max.trans hmax)
  refine ⟨⟨?_, ?_, ?_⟩, heq⟩
  · simpa [memPoolSet, hcfg] using h.placed
  · simpa [memPoolSet, memPoolGet, hcfg] using h.lower
  · rw [heq]
    exact h.curr_le_max.trans hmax

/-- An allocation serves a block that lies in the pool, and no other. -/
theorem MemPoolObj.Ordered.alloc (h : pool.Ordered) (a : PoolRequest)
    (hfit : (poolLayout.place a pool.currAddr.toNat).stop < 2 ^ 32) :
    ((poolLayout.place a pool.currAddr.toNat).stop ≤ pool.cfg.stop ∧
      ∃ addr, addr ≠ null ∧ addr.toNat = (poolLayout.place a pool.currAddr.toNat).start ∧
        (addr + a.size).toNat = (poolLayout.place a pool.currAddr.toNat).stop ∧
        memPoolAlloc pool a.size a.align = (addr, { pool with
          currAddr := addr + a.size
          maxCurrAddr := max (addr + a.size) pool.maxCurrAddr })) ∨
      (pool.cfg.stop < (poolLayout.place a pool.currAddr.toNat).stop ∧
        (memPoolAlloc pool a.size a.align).1 = null) := by
  have hpos := h.placed.addr_pos
  have hlower := h.lower
  have hstart : pool.currAddr.toNat ≤ pool.nextAddr a.align := poolLayout.le_start a _
  have hnext : pool.nextAddr a.align + a.size.toNat < 2 ^ 32 := hfit
  have haddr : (UInt32.ofNat (pool.nextAddr a.align)).toNat = pool.nextAddr a.align :=
    UInt32.toNat_ofNat_of_lt' (lt_of_le_of_lt (Nat.le_add_right _ _) hnext)
  have hfst := memPoolAlloc_fst h.placed a.aligned a.size
  rw [Nat.mod_eq_of_lt hnext] at hfst
  by_cases hle : pool.nextAddr a.align + a.size.toNat ≤ pool.cfg.stop
  · have hnull : UInt32.ofNat (pool.nextAddr a.align) ≠ null := by
      intro hnull
      rw [hnull, UInt32.toNat_zero] at haddr
      omega
    rw [if_pos hle] at hfst
    rcases memPoolAlloc_cases h.placed ⟨a.aligned, hfit⟩ with ⟨ret, hret, hsum, -, heq⟩ | heq
    · refine Or.inl ⟨hle, ret, ?_, hret, hsum.trans ?_, heq⟩
      · rw [heq] at hfst
        rw [show ret = _ from hfst]
        exact hnull
      · rw [hret]
        rfl
    · rw [heq] at hfst
      exact absurd hfst.symm hnull
  · rw [if_neg hle] at hfst
    exact Or.inr ⟨not_le.mp hle, hfst⟩

/-- A plan whose blocks all lie in the pool is served. -/
theorem runPlan_of_peak_le (plan : Plan PoolRequest) (h : pool.Ordered)
    (hpeak : poolLayout.peak plan pool.currAddr.toNat ≤ pool.cfg.stop) :
    ∃ addrs t, runPlan plan pool = some (addrs, t) ∧ Served plan pool addrs t := by
  induction plan generalizing pool with
  | done =>
      refine ⟨[], pool, rfl, rfl, rfl, rfl, ?_⟩
      exact (max_eq_left h.curr_le_max).symm
  | block a rest ih =>
      have hfits := h.placed.fits
      have hend : (poolLayout.place a pool.currAddr.toNat).stop ≤ pool.cfg.stop :=
        (poolLayout.le_peak rest _).trans hpeak
      rcases h.alloc a (lt_of_le_of_lt hend hfits) with
        ⟨-, addr, hnull, haddr, hstop, heq⟩ | ⟨hlt, -⟩
      · obtain ⟨addrs, t, hrun, hserved⟩ := ih (h.allocated hstop) (by simpa [hstop] using hpeak)
        refine ⟨addr :: addrs, t, ?_, ?_, hserved.cfg_eq, ?_, ?_⟩
        · simp [runPlan, heq, hnull, hrun]
        · rw [List.map_cons, hserved.addrs_eq, haddr, hstop]
          rfl
        · rw [hserved.curr_eq, hstop]
          rfl
        · have hle := poolLayout.le_peak rest (poolLayout.place a pool.currAddr.toNat).stop
          rw [hserved.max_eq, toNat_max, hstop, Layout.peak_block]
          omega
      · omega
  | scope inner rest ihInner ihRest =>
      rw [Layout.peak_scope, max_le_iff] at hpeak
      obtain ⟨addrs, t, hrun, hserved⟩ := ihInner h hpeak.1
      obtain ⟨hordered, hmax⟩ := h.rewound hserved.cfg_eq
        (by rw [hserved.max_eq]; exact le_max_left _ _)
      have hcfg : (memPoolSet t (memPoolGet pool)).cfg = pool.cfg := hserved.cfg_eq
      obtain ⟨addrs', t', hrun', hserved'⟩ := ihRest hordered (by rw [hcfg]; exact hpeak.2)
      refine ⟨addrs ++ addrs', t', ?_, ?_, hserved'.cfg_eq.trans hcfg, hserved'.curr_eq, ?_⟩
      · simp [runPlan, hrun, hrun']
      · rw [List.map_append, hserved.addrs_eq, hserved'.addrs_eq, ← List.map_append]
        rfl
      · rw [hserved'.max_eq, hmax, hserved.max_eq, Layout.peak_scope, max_assoc]
        rfl

/-- A plan with a block behind the end of the pool is refused. -/
theorem runPlan_of_lt_peak (plan : Plan PoolRequest) (h : pool.Ordered)
    (hupper : pool.currAddr.toNat ≤ pool.cfg.stop)
    (hfit : poolLayout.peak plan pool.currAddr.toNat < 2 ^ 32)
    (hpeak : pool.cfg.stop < poolLayout.peak plan pool.currAddr.toNat) :
    runPlan plan pool = none := by
  induction plan generalizing pool with
  | done => exact absurd hpeak (not_lt.mpr hupper)
  | block a rest ih =>
      have hend : (poolLayout.place a pool.currAddr.toNat).stop < 2 ^ 32 :=
        lt_of_le_of_lt (poolLayout.le_peak rest _) hfit
      rcases h.alloc a hend with ⟨hle, addr, hnull, -, hstop, heq⟩ | ⟨-, hnull⟩
      · have hrest := ih (h.allocated hstop) (by simpa [hstop] using hle)
          (by simpa [hstop] using hfit) (by simpa [hstop] using hpeak)
        simp [runPlan, heq, hnull, hrest]
      · simp [runPlan, hnull]
  | scope inner rest ihInner ihRest =>
      rw [Layout.peak_scope] at hfit hpeak
      by_cases hinner : poolLayout.peak inner pool.currAddr.toNat ≤ pool.cfg.stop
      · obtain ⟨addrs, t, hrun, hserved⟩ := runPlan_of_peak_le inner h hinner
        obtain ⟨hordered, -⟩ := h.rewound hserved.cfg_eq
          (by rw [hserved.max_eq]; exact le_max_left _ _)
        have hcfg : (memPoolSet t (memPoolGet pool)).cfg = pool.cfg := hserved.cfg_eq
        have hrest := ihRest hordered (by rw [hcfg]; exact hupper)
          (lt_of_le_of_lt (le_max_right _ _) hfit)
          (by rw [hcfg]; exact (lt_max_iff.mp hpeak).resolve_left (not_lt.mpr hinner))
        simp [runPlan, hrun, hrest]
      · have hnone := ihInner h hupper (lt_of_le_of_lt (le_max_left _ _) hfit) (not_le.mp hinner)
        simp [runPlan, hnone]

/-- The pool right after a reset. -/
theorem ordered_memPoolReset (hcfg : pool.cfg.Placed) : (memPoolReset pool).Ordered :=
  ⟨hcfg, le_rfl, le_rfl⟩

theorem isSome_runPlan_iff (plan : Plan PoolRequest) (hcfg : pool.cfg.Placed)
    (hfit : poolLayout.peak plan pool.cfg.addr.toNat < 2 ^ 32) :
    (runPlan plan (memPoolReset pool)).isSome ↔
      poolLayout.peak plan pool.cfg.addr.toNat ≤ pool.cfg.stop := by
  have hordered := ordered_memPoolReset hcfg
  by_cases hpeak : poolLayout.peak plan pool.cfg.addr.toNat ≤ pool.cfg.stop
  · obtain ⟨addrs, t, hrun, -⟩ := runPlan_of_peak_le plan hordered hpeak
    simp [hrun, hpeak]
  · have hupper : pool.cfg.addr.toNat ≤ pool.cfg.stop := Nat.le_add_right _ _
    have hnone := runPlan_of_lt_peak plan hordered hupper hfit (not_le.mp hpeak)
    simp [hnone, hpeak]

/-- The usage reported behind a plan is what its peak is above the start. -/
theorem Served.toNat_maxUsage {plan : Plan PoolRequest} {addrs : List UInt32} {t : MemPoolObj}
    (h : Served plan (memPoolReset pool) addrs t) :
    (memPoolGetMaxUsage t).toNat =
      poolLayout.peak plan pool.cfg.addr.toNat - pool.cfg.addr.toNat := by
  have hmax : t.maxCurrAddr.toNat = poolLayout.peak plan pool.cfg.addr.toNat :=
    h.max_eq.trans (max_eq_right (poolLayout.le_peak plan _))
  have hcfg : t.cfg = pool.cfg := h.cfg_eq
  have hle : t.cfg.addr ≤ t.maxCurrAddr := by
    rw [UInt32.le_iff_toNat_le, hcfg, hmax]
    exact poolLayout.le_peak plan _
  rw [memPoolGetMaxUsage, UInt32.toNat_sub_of_le _ _ hle, hmax, hcfg]

end Run

/-- A client with scopes in a fresh pool: it is served exactly when all its blocks lie
in the pool, at the addresses of the layout, and the usage reported then is the least
size of a pool in which it is. No block may end at 2^32 or beyond, where the sum in the
check wraps. -/
theorem maxUsage_suffices {cfg : MemCfg} (hcfg : cfg.Placed) {pool : MemPoolObj}
    (hpool : pool.cfg = cfg) (plan : Plan PoolRequest)
    (hfit : ∀ b ∈ poolLayout.blocks plan cfg.addr.toNat, b.stop < 2 ^ 32) :
    ((runPlan plan (memPoolReset pool)).isSome ↔
      ∀ b ∈ poolLayout.blocks plan cfg.addr.toNat, b.stop ≤ cfg.stop) ∧
    ∀ addrs t, runPlan plan (memPoolReset pool) = some (addrs, t) →
      addrs.map UInt32.toNat = (poolLayout.blocks plan cfg.addr.toNat).map Block.start ∧
      t.currAddr.toNat = poolLayout.finish plan cfg.addr.toNat ∧
      ∀ size, MemCfg.Placed ⟨cfg.addr, size⟩ →
        ((runPlan plan (memPoolReset ⟨⟨cfg.addr, size⟩, 0, 0⟩)).isSome ↔
          memPoolGetMaxUsage t ≤ size) := by
  subst hpool
  have hstart := hcfg.fits
  have hpeak : poolLayout.peak plan pool.cfg.addr.toNat < 2 ^ 32 := by
    have hle := (poolLayout.peak_le_iff plan pool.cfg.addr.toNat (2 ^ 32 - 1)).mpr
      ⟨by omega, fun b hb => Nat.le_sub_one_of_lt (hfit b hb)⟩
    omega
  have hsome := isSome_runPlan_iff plan hcfg hpeak
  constructor
  · rw [hsome, poolLayout.peak_le_iff]
    exact and_iff_right (Nat.le_add_right _ _)
  · intro addrs t hrun
    have hle := hsome.mp (by rw [hrun]; rfl)
    obtain ⟨addrs', t', hrun', hserved⟩ :=
      runPlan_of_peak_le plan (ordered_memPoolReset hcfg) hle
    obtain ⟨rfl, rfl⟩ := Prod.mk.inj (Option.some.inj (hrun.symm.trans hrun'))
    refine ⟨hserved.addrs_eq, hserved.curr_eq, fun size hsize => ?_⟩
    have hsized : (runPlan plan (memPoolReset ⟨⟨pool.cfg.addr, size⟩, 0, 0⟩)).isSome ↔
        poolLayout.peak plan pool.cfg.addr.toNat ≤ pool.cfg.addr.toNat + size.toNat :=
      isSome_runPlan_iff plan hsize hpeak
    rw [hsized, UInt32.le_iff_toNat_le, hserved.toNat_maxUsage]
    exact Nat.sub_le_iff_le_add'.symm

/-- Two blocks in scopes of their own, one on top of the other. -/
def samplePlan : Plan PoolRequest :=
  .block ⟨10, 4, by decide⟩ (.scope (.block ⟨20, 8, by decide⟩ .done)
    (.block ⟨8, 1, by decide⟩ .done))

theorem maxUsage_suffices_sample : ∃ t,
    runPlan samplePlan (memPoolReset samplePool) = some ([256, 272, 266], t) ∧
      (memPoolGetMaxUsage t).toNat = 36 ∧
      ((runPlan samplePlan (memPoolReset ⟨⟨256, 36⟩, 0, 0⟩)).isSome ↔
        memPoolGetMaxUsage t ≤ 36) := by
  have hrun : runPlan samplePlan (memPoolReset samplePool) =
    some ([256, 272, 266], ⟨⟨256, 64⟩, 274, 292⟩) := by decide +kernel
  refine ⟨_, hrun, by decide +kernel, ?_⟩
  have hplaced : (⟨256, 64⟩ : MemCfg).Placed := ⟨by decide, by decide⟩
  have hpool : samplePool.cfg = ⟨256, 64⟩ := rfl
  obtain ⟨-, hall⟩ := maxUsage_suffices hplaced hpool samplePlan (by decide +kernel)
  exact (hall _ _ hrun).2.2 36 ⟨by decide, by decide⟩

end RadarStream
