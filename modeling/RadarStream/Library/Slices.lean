import Mathlib.Data.List.Basic

/-!
# Consecutive slices of a buffer

`Tiles a slices b` says that the slices follow each other without gap or overlap
from offset `a` up to offset `b`. What is read through them, in order, is then
what the buffer holds from `a` to `b` (`Tiles.flatMap_read`), whatever the slice
lengths are.
-/

namespace Slices

@[ext] structure Slice where
  offset : ℕ
  length : ℕ
deriving DecidableEq

def Slice.read {β : Type*} (buf : ℕ → β) (s : Slice) : List β :=
  (List.range' s.offset s.length).map buf

/-- The slices start at `a`, each where the one before it ends, and stop at
`b`. -/
def Tiles : ℕ → List Slice → ℕ → Prop
  | a, [], b => a = b
  | a, s :: slices, b => s.offset = a ∧ Tiles (a + s.length) slices b

@[simp] theorem tiles_nil (a b : ℕ) : Tiles a [] b ↔ a = b := Iff.rfl

@[simp] theorem tiles_cons (a b : ℕ) (s : Slice) (slices : List Slice) :
    Tiles a (s :: slices) b ↔ s.offset = a ∧ Tiles (a + s.length) slices b := Iff.rfl

theorem Tiles.le {a b : ℕ} {slices : List Slice} (h : Tiles a slices b) : a ≤ b := by
  induction slices generalizing a with
  | nil => exact Nat.le_of_eq h
  | cons s slices ih =>
      have hrest := ih h.2
      omega

theorem Tiles.append {a b c : ℕ} {xs ys : List Slice} (hx : Tiles a xs b)
    (hy : Tiles b ys c) : Tiles a (xs ++ ys) c := by
  induction xs generalizing a with
  | nil =>
      obtain rfl : a = b := hx
      exact hy
  | cons s xs ih => exact ⟨hx.1, ih hx.2⟩

/-- Reading through consecutive slices is reading the buffer once. -/
theorem Tiles.flatMap_read {β : Type*} (buf : ℕ → β) {a b : ℕ} {slices : List Slice}
    (h : Tiles a slices b) :
    slices.flatMap (Slice.read buf) = (List.range' a (b - a)).map buf := by
  induction slices generalizing a with
  | nil =>
      obtain rfl : a = b := h
      simp
  | cons s slices ih =>
      obtain ⟨hoffset, hrest⟩ := h
      have hle : a + s.length ≤ b := hrest.le
      have hsplit : List.range' a (b - a) =
          List.range' a s.length ++ List.range' (a + s.length) (b - (a + s.length)) := by
        rw [List.range'_append_1]
        congr 1
        omega
      rw [List.flatMap_cons, ih hrest, hsplit, List.map_append, Slice.read, hoffset]

end Slices
