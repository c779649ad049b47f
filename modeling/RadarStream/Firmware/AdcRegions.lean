import RadarStream.Library.Ledger
import RadarStream.Firmware.Boot

/-!
# The regions of the ADC buffer

`Mmwave_ADCBufConfig` gives each enabled RX channel a region of `chanDataSize`
bytes, one behind the other. The running offset has 16 bits and a register keeps
it in units of 16 bytes, so the regions lie apart only for sizes that are
multiples of 16 and small enough (`rxRegionsApart_iff`).
-/

namespace RadarStream

open Ledger

section Layout

variable {mask : UInt16} {size : UInt32} {channels : List ℕ} {channel : ℕ}

theorem adcBufRegs_addr_of_not_mem (h : channel ∉ channels) (offset : UInt16)
    (regs : AdcBufRegs) :
    (adcBufRegs mask size channels offset regs).addr channel = regs.addr channel := by
  induction channels generalizing offset regs with
  | nil => rfl
  | cons c channels ih =>
      rw [List.mem_cons, not_or] at h
      rw [adcBufRegs]
      split
      · rw [ih h.2]
        exact Function.update_of_ne h.1 _ _
      · rw [ih h.2]

theorem adcBufRegs_addr (hnodup : channels.Nodup) {r : ℕ}
    (h : (channels.filter (mask.toNat.testBit ·))[r]? = some channel) (offset : UInt16)
    (regs : AdcBufRegs) :
    (adcBufRegs mask size channels offset regs).addr channel =
      (offset + UInt16.ofNat r * size.toUInt16).toUInt32 >>> 4 := by
  induction channels generalizing offset regs r with
  | nil => simp at h
  | cons c channels ih =>
      obtain ⟨hc, hnodup⟩ := List.nodup_cons.mp hnodup
      rw [adcBufRegs]
      by_cases hbit : mask.toNat.testBit c
      · rw [List.filter_cons_of_pos hbit] at h
        rw [if_pos hbit]
        cases r with
        | zero =>
            obtain rfl : c = channel := by simpa using h
            rw [adcBufRegs_addr_of_not_mem hc]
            simp
        | succ r =>
            rw [ih hnodup (by simpa using h)]
            congr 2
            rw [UInt16.ofNat_add]
            grind
      · rw [List.filter_cons_of_neg hbit] at h
        rw [if_neg hbit, ih hnodup h]

theorem adcBufRegs_rxEn (offset : UInt16) (regs : AdcBufRegs) (channel : ℕ) :
    (adcBufRegs mask size channels offset regs).rxEn channel =
      (regs.rxEn channel || channels.contains channel && mask.toNat.testBit channel) := by
  induction channels generalizing offset regs with
  | nil => simp [adcBufRegs]
  | cons c channels ih =>
      rw [adcBufRegs]
      by_cases hbit : mask.toNat.testBit c
      · rw [if_pos hbit, ih]
        by_cases hc : channel = c
        · simp [hc, hbit]
        · simp [hc]
      · rw [if_neg hbit, ih]
        by_cases hc : channel = c
        · simp [hc, hbit]
        · simp [hc]

end Layout

/-- The RX channels of a bitmask, in the order of their numbers. -/
def channelsOf (mask : UInt16) : List ℕ :=
  (List.range sysCommonNumRxChannel).filter (mask.toNat.testBit ·)

section Ranks

/-- Where the `r`-th enabled channel starts. -/
def rankStart (size r : ℕ) : ℕ := 16 * (r * size % 2 ^ 16 / 16)

def rankBlock (size r : ℕ) : Block ℕ := ⟨rankStart size r, rankStart size r + size⟩

@[simp] theorem start_rankBlock (size r : ℕ) : (rankBlock size r).start = rankStart size r := rfl

@[simp] theorem stop_rankBlock (size r : ℕ) :
    (rankBlock size r).stop = rankStart size r + size := rfl

/-- The first `n` channels have regions that lie apart and in order. -/
def RanksApart (size n : ℕ) : Prop :=
  ∀ r s, r < s → s < n → Disjoint (rankBlock size r).addresses (rankBlock size s).addresses ∧
    rankStart size r < rankStart size s

variable {size n : ℕ}

theorem rankStart_of_lt (hdvd : 16 ∣ size) {r : ℕ} (hfits : r * size < 2 ^ 16) :
    rankStart size r = r * size := by
  rw [rankStart, Nat.mod_eq_of_lt hfits, Nat.mul_div_cancel' (hdvd.mul_left r)]

theorem ranksApart_of_fits (hpos : 0 < size) (hdvd : 16 ∣ size)
    (hfits : (n - 1) * size < 2 ^ 16) : RanksApart size n := by
  intro r s hrs hsn
  have hs : s * size < 2 ^ 16 := (Nat.mul_le_mul_right size (by omega)).trans_lt hfits
  have hnext : (r + 1) * size ≤ s * size := Nat.mul_le_mul_right size hrs
  have hr : r * size + size ≤ s * size := by rwa [Nat.succ_mul] at hnext
  have hstart := rankStart_of_lt hdvd (r := r) (by omega)
  have hstart' := rankStart_of_lt hdvd hs
  constructor
  · apply Block.disjoint_of_le
    rw [stop_rankBlock, start_rankBlock, hstart, hstart']
    exact hr
  · omega

/-- The second region is behind the first only when the size survives the
register and the counter. -/
theorem RanksApart.second (h : RanksApart size n) (hn : 1 < n) :
    0 < size ∧ 16 ∣ size ∧ size < 2 ^ 16 := by
  obtain ⟨hdisjoint, hlt⟩ := h 0 1 Nat.zero_lt_one hn
  have hzero : rankStart size 0 = 0 := by simp [rankStart]
  have hone : rankStart size 1 = 16 * (size % 2 ^ 16 / 16) := by rw [rankStart, Nat.one_mul]
  have hsize : size ≤ rankStart size 1 := by
    by_contra hinside
    have hfirst : rankStart size 1 ∈ (rankBlock size 0).addresses := by
      refine ⟨hlt.le, ?_⟩
      rw [stop_rankBlock, hzero]
      omega
    have hsecond : rankStart size 1 ∈ (rankBlock size 1).addresses := by
      refine ⟨le_rfl, ?_⟩
      rw [stop_rankBlock]
      omega
    exact Set.disjoint_left.mp hdisjoint hfirst hsecond
  omega

/-- Each further region needs the running offset not to have wrapped: after the
first wrap it would be below the one before it. -/
theorem RanksApart.fits (h : RanksApart size n) {s : ℕ} (hs : s < n) : s * size < 2 ^ 16 := by
  induction s with
  | zero => omega
  | succ s ih =>
      have hfits := ih (by omega)
      obtain ⟨_, hdvd, hsize⟩ := h.second (by omega)
      have hlt := (h s (s + 1) (Nat.lt_succ_self s) hs).2
      have hnext : (s + 1) * size = s * size + size := Nat.succ_mul s size
      rw [rankStart_of_lt hdvd hfits, rankStart, hnext] at hlt
      rw [hnext]
      omega

theorem ranksApart_iff : RanksApart size n ↔
    n ≤ 1 ∨ 0 < size ∧ 16 ∣ size ∧ (n - 1) * size < 2 ^ 16 := by
  constructor
  · intro h
    by_cases hn : n ≤ 1
    · exact Or.inl hn
    · obtain ⟨hpos, hdvd, _⟩ := h.second (by omega)
      exact Or.inr ⟨hpos, hdvd, h.fits (by omega)⟩
  · rintro (hn | ⟨hpos, hdvd, hfits⟩)
    · intro r s hrs hsn
      omega
    · exact ranksApart_of_fits hpos hdvd hfits

end Ranks

section Regions

/-- The bytes that the registers give a channel. -/
def AdcBufRegs.region (regs : AdcBufRegs) (chanDataSize : UInt32) (channel : ℕ) : Block ℕ :=
  ⟨16 * (regs.addr channel).toNat, 16 * (regs.addr channel).toNat + chanDataSize.toNat⟩

/-- The channels of the mask are enabled, no other, and their regions lie apart
and in the order of the channels. -/
structure RegionsApart (mask : UInt16) (chanDataSize : UInt32) (regs : AdcBufRegs) : Prop where
  enabled : ∀ c, regs.rxEn c = true ↔ c < sysCommonNumRxChannel ∧ mask.toNat.testBit c = true
  disjoint : ∀ i j, i < j → regs.rxEn i = true → regs.rxEn j = true →
    Disjoint (regs.region chanDataSize i).addresses (regs.region chanDataSize j).addresses
  increasing : ∀ i j, i < j → regs.rxEn i = true → regs.rxEn j = true →
    (regs.region chanDataSize i).start < (regs.region chanDataSize j).start

/-- `Mmwave_ADCBufConfig` with `n` samples of two bytes for each channel lays the
regions apart. -/
def RxRegionsApart (mask n : UInt16) (b : Board) : Prop :=
  ∃ t, (mmwaveADCBufConfig mask (n.toUInt32 * 2)).run b = .ok ⟨⟩ t ∧
    RegionsApart mask (n.toUInt32 * 2) t.adcBuf

variable {mask : UInt16} {chanDataSize : UInt32} {regs : AdcBufRegs}

theorem programmed_rxEn (regs : AdcBufRegs) (c : ℕ) :
    (programmed mask chanDataSize regs).rxEn c = true ↔
      c < sysCommonNumRxChannel ∧ mask.toNat.testBit c = true := by
  rw [programmed, adcBufRegs_rxEn, AdcBufRegs.disable, Bool.false_or, Bool.and_eq_true,
    List.contains_iff_mem, List.mem_range]

theorem rxEn_iff_mem (mask : UInt16) (chanDataSize : UInt32) (regs : AdcBufRegs) (c : ℕ) :
    (programmed mask chanDataSize regs).rxEn c = true ↔ c ∈ channelsOf mask := by
  rw [programmed_rxEn, channelsOf, List.mem_filter, List.mem_range]

theorem programmed_region {r c : ℕ} (h : (channelsOf mask)[r]? = some c) :
    (programmed mask chanDataSize regs).region chanDataSize c = rankBlock chanDataSize.toNat r := by
  have hoffset : (16 * ((programmed mask chanDataSize regs).addr c).toNat) =
      rankStart chanDataSize.toNat r := by
    rw [programmed, adcBufRegs_addr List.nodup_range h, rankStart, UInt16.zero_add,
      UInt32.toNat_shiftRight, UInt16.toNat_toUInt32, UInt16.toNat_mul, UInt16.toNat_ofNat',
      UInt32.toNat_toUInt16, ← Nat.mul_mod]
    rw [Nat.shiftRight_eq_div_pow]
    rfl
  rw [AdcBufRegs.region, hoffset, rankBlock]

/-- The ranks of two enabled channels are in the order of the channels. -/
theorem exists_ranks {i j : ℕ} (hij : i < j) (hi : i ∈ channelsOf mask)
    (hj : j ∈ channelsOf mask) : ∃ r s, r < s ∧ s < (channelsOf mask).length ∧
      (channelsOf mask)[r]? = some i ∧ (channelsOf mask)[s]? = some j := by
  obtain ⟨r, hr, rfl⟩ := List.getElem_of_mem hi
  obtain ⟨s, hs, rfl⟩ := List.getElem_of_mem hj
  have hsorted : (channelsOf mask).Pairwise (· < ·) := List.pairwise_lt_range.filter _
  refine ⟨r, s, ?_, hs, List.getElem?_eq_getElem hr, List.getElem?_eq_getElem hs⟩
  by_contra hsr
  rcases Nat.lt_or_eq_of_le (not_lt.mp hsr) with hlt | rfl
  · have hji := List.pairwise_iff_getElem.mp hsorted s r hs hr hlt
    omega
  · omega

theorem regionsApart_programmed_iff : RegionsApart mask chanDataSize
      (programmed mask chanDataSize regs) ↔
    RanksApart chanDataSize.toNat (channelsOf mask).length := by
  constructor
  · intro h r s hrs hs
    have hr : r < (channelsOf mask).length := by omega
    have hsorted : (channelsOf mask).Pairwise (· < ·) := List.pairwise_lt_range.filter _
    have hlt := List.pairwise_iff_getElem.mp hsorted r s hr hs hrs
    have henr := (rxEn_iff_mem mask chanDataSize regs _).mpr (List.getElem_mem hr)
    have hens := (rxEn_iff_mem mask chanDataSize regs _).mpr (List.getElem_mem hs)
    have hdisjoint := h.disjoint _ _ hlt henr hens
    have hstart := h.increasing _ _ hlt henr hens
    rw [programmed_region (List.getElem?_eq_getElem hr),
      programmed_region (List.getElem?_eq_getElem hs)] at hdisjoint hstart
    exact ⟨hdisjoint, hstart⟩
  · intro h
    have hpair : ∀ i j, i < j → (programmed mask chanDataSize regs).rxEn i = true →
        (programmed mask chanDataSize regs).rxEn j = true →
        Disjoint ((programmed mask chanDataSize regs).region chanDataSize i).addresses
            ((programmed mask chanDataSize regs).region chanDataSize j).addresses ∧
          ((programmed mask chanDataSize regs).region chanDataSize i).start <
            ((programmed mask chanDataSize regs).region chanDataSize j).start := by
      intro i j hij hi hj
      obtain ⟨r, s, hrs, hs, hri, hsj⟩ :=
        exists_ranks hij ((rxEn_iff_mem _ _ _ i).mp hi) ((rxEn_iff_mem _ _ _ j).mp hj)
      rw [programmed_region hri, programmed_region hsj]
      exact h r s hrs hs
    exact ⟨programmed_rxEn regs, fun i j hij hi hj => (hpair i j hij hi hj).1,
      fun i j hij hi hj => (hpair i j hij hi hj).2⟩

theorem rxRegionsApart_iff_ranksApart (mask n : UInt16) (b : Board) :
    RxRegionsApart mask n b ↔ RanksApart (n.toNat * 2) (channelsOf mask).length := by
  have hsize : (n.toUInt32 * 2).toNat = n.toNat * 2 := by
    have hn := n.toNat_lt
    rw [UInt32.toNat_mul, UInt16.toNat_toUInt32]
    exact Nat.mod_eq_of_lt (by change n.toNat * 2 < 2 ^ 32; omega)
  have hrun := mmwaveADCBufConfig_run b mask (n.toUInt32 * 2)
  have hranks : RegionsApart mask (n.toUInt32 * 2) (programmed mask (n.toUInt32 * 2) b.adcBuf) ↔
      RanksApart (n.toUInt32 * 2).toNat (channelsOf mask).length := regionsApart_programmed_iff
  rw [← hsize, ← hranks]
  constructor
  · rintro ⟨t, ht, happart⟩
    rw [hrun] at ht
    cases ht
    exact happart
  · exact fun happart => ⟨_, hrun, happart⟩

end Regions

/-- The regions lie apart exactly when no second channel is enabled, or the size
of a channel is a positive multiple of 16 and the last offset does not wrap. -/
theorem rxRegionsApart_iff (mask n : UInt16) (b : Board) : RxRegionsApart mask n b ↔
    (channelsOf mask).length ≤ 1 ∨
      0 < n.toNat ∧ 8 ∣ n.toNat ∧ ((channelsOf mask).length - 1) * (n.toNat * 2) < 2 ^ 16 := by
  have hdvd : 16 ∣ n.toNat * 2 ↔ 8 ∣ n.toNat := by omega
  have hpos : 0 < n.toNat * 2 ↔ 0 < n.toNat := by omega
  rw [rxRegionsApart_iff_ranksApart, ranksApart_iff, hdvd, hpos]

/-- With 100 samples a channel has 200 bytes, and the second one starts at byte 192. -/
theorem not_rxRegionsApart_hundredSamples :
    ¬ RxRegionsApart 3 100 (powerOn ⟨fun _ => false, fun _ => 0⟩) := by
  rw [rxRegionsApart_iff_ranksApart, ranksApart_iff]
  decide

end RadarStream
