import Mathlib.Order.Bounds.Basic
import RadarStream.Library.Ledger

/-!
# What a client of an arena needs

A client asks for blocks one after another and may open scopes: what is asked for
in a scope is given back at its end, so that scopes one after another lie on top of
each other. Where its blocks lie is fixed beforehand by a layout (`blocks`), and so
is the largest address it comes to (`peak`).
-/

namespace Arena

open Ledger

inductive Plan (α : Type*) where
  | done
  | block (a : α) (rest : Plan α)
  | scope (inner rest : Plan α)

/-- Where a block lies that is asked for above a top. -/
structure Layout (α : Type*) where
  place : α → ℕ → Block ℕ
  le_start : ∀ a top, top ≤ (place a top).start
  start_le_stop : ∀ a top, (place a top).start ≤ (place a top).stop

namespace Layout

variable {α : Type*} (L : Layout α)

theorem le_stop (a : α) (top : ℕ) : top ≤ (L.place a top).stop :=
  (L.le_start a top).trans (L.start_le_stop a top)

/-- The blocks in the order in which they are asked for. -/
def blocks : Plan α → ℕ → List (Block ℕ)
  | .done, _ => []
  | .block a rest, top => L.place a top :: blocks rest (L.place a top).stop
  | .scope inner rest, top => blocks inner top ++ blocks rest top

/-- The top behind a plan. -/
def finish : Plan α → ℕ → ℕ
  | .done, top => top
  | .block a rest, top => finish rest (L.place a top).stop
  | .scope _ rest, top => finish rest top

def peak : Plan α → ℕ → ℕ
  | .done, top => top
  | .block a rest, top => peak rest (L.place a top).stop
  | .scope inner rest, top => max (peak inner top) (peak rest top)

@[simp] theorem blocks_done (top : ℕ) : L.blocks .done top = [] := rfl

@[simp] theorem blocks_block (a : α) (rest : Plan α) (top : ℕ) :
    L.blocks (.block a rest) top = L.place a top :: L.blocks rest (L.place a top).stop := rfl

@[simp] theorem blocks_scope (inner rest : Plan α) (top : ℕ) :
    L.blocks (.scope inner rest) top = L.blocks inner top ++ L.blocks rest top := rfl

@[simp] theorem finish_done (top : ℕ) : L.finish .done top = top := rfl

@[simp] theorem finish_block (a : α) (rest : Plan α) (top : ℕ) :
    L.finish (.block a rest) top = L.finish rest (L.place a top).stop := rfl

@[simp] theorem finish_scope (inner rest : Plan α) (top : ℕ) :
    L.finish (.scope inner rest) top = L.finish rest top := rfl

@[simp] theorem peak_done (top : ℕ) : L.peak .done top = top := rfl

@[simp] theorem peak_block (a : α) (rest : Plan α) (top : ℕ) :
    L.peak (.block a rest) top = L.peak rest (L.place a top).stop := rfl

@[simp] theorem peak_scope (inner rest : Plan α) (top : ℕ) :
    L.peak (.scope inner rest) top = max (L.peak inner top) (L.peak rest top) := rfl

theorem le_peak (plan : Plan α) (top : ℕ) : top ≤ L.peak plan top := by
  induction plan generalizing top with
  | done => simp
  | block a rest ih => exact (L.le_stop a top).trans (ih _)
  | scope inner rest ihInner _ => exact (ihInner top).trans (le_max_left _ _)

/-- All the blocks of a plan end at or below `n`. -/
theorem peak_le_iff (plan : Plan α) (top n : ℕ) :
    L.peak plan top ≤ n ↔ top ≤ n ∧ ∀ b ∈ L.blocks plan top, b.stop ≤ n := by
  induction plan generalizing top with
  | done => simp
  | block a rest ih =>
      have hle := L.le_stop a top
      rw [peak_block, ih, blocks_block, List.forall_mem_cons]
      constructor
      · rintro ⟨hstop, hrest⟩
        exact ⟨hle.trans hstop, hstop, hrest⟩
      · rintro ⟨_, hstop, hrest⟩
        exact ⟨hstop, hrest⟩
  | scope inner rest ihInner ihRest =>
      rw [peak_scope, max_le_iff, ihInner, ihRest, blocks_scope, List.forall_mem_append]
      tauto

end Layout

end Arena
