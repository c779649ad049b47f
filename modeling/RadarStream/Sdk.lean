import Mathlib.Data.UInt
import RadarStream.Library.Align

/-!
# Conventions of the SDK

What the sources take from the SDK and every part of the model shares: the null
pointer, the two status codes the firmware compares with, and `MEM_ALIGN`, which is
the mask `(a + n - 1) & ~(n - 1)`. Pointers, handles and `uintptr_t` are words of
32 bits; a return code is an `int32_t`.
-/

namespace RadarStream

/-- The null pointer. -/
abbrev null : UInt32 := 0

/-- `SystemP_SUCCESS`. -/
abbrev systemPSuccess : Int32 := 0

/-- `SystemP_FAILURE`. -/
abbrev systemPFailure : Int32 := -1

/-- `MEM_ALIGN`, with the alignment already promoted to 32 bits. -/
def memAlign (a n : UInt32) : UInt32 := (a + n - 1) &&& ~~~(n - 1)

/-- An alignment a caller may ask for: a power of two that a `uint8_t` holds. -/
def IsAlignment (align : UInt8) : Prop := ∃ k < 8, align.toNat = 2 ^ k

instance (align : UInt8) : Decidable (IsAlignment align) :=
  inferInstanceAs (Decidable (∃ k < 8, align.toNat = 2 ^ k))

theorem IsAlignment.pos {align : UInt8} (h : IsAlignment align) : 0 < align.toNat := by
  obtain ⟨k, _, hk⟩ := h
  rw [hk]
  exact Nat.two_pow_pos k

theorem toNat_memAlign (a : UInt32) {align : UInt8} (h : IsAlignment align) :
    (memAlign a align.toUInt32).toNat = Align.alignUp a.toNat align.toNat % 2 ^ 32 := by
  obtain ⟨k, hk, hpow⟩ := h
  have hword : align.toUInt32.toBitVec = BitVec.twoPow 32 k := by
    apply BitVec.eq_of_toNat_eq
    have hlt : 2 ^ k < 2 ^ 32 := Nat.pow_lt_pow_right (by omega) (by omega)
    rw [BitVec.toNat_twoPow, Nat.mod_eq_of_lt hlt, ← hpow]
    exact UInt8.toNat_toUInt32 align
  have hmask : (memAlign a align.toUInt32).toBitVec =
      (a.toBitVec + BitVec.twoPow 32 k - 1) &&& ~~~(BitVec.twoPow 32 k - 1) := by
    rw [← hword]
    rfl
  rw [hpow]
  calc (memAlign a align.toUInt32).toNat
      = (memAlign a align.toUInt32).toBitVec.toNat := rfl
    _ = Align.alignUp a.toNat (2 ^ k) % 2 ^ 32 := by
        rw [hmask, Align.toNat_alignMask _ (by omega)]
        rfl

theorem toNat_memAlign_of_lt (a : UInt32) {align : UInt8} (h : IsAlignment align)
    (hfit : Align.alignUp a.toNat align.toNat < 2 ^ 32) :
    (memAlign a align.toUInt32).toNat = Align.alignUp a.toNat align.toNat := by
  rw [toNat_memAlign a h, Nat.mod_eq_of_lt hfit]

end RadarStream
