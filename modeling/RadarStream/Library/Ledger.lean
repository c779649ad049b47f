import Mathlib.Order.CompletePartialOrder
import Mathlib.Order.Interval.Set.Disjoint

/-!
# Live blocks of a rewindable arena

An arena hands out blocks `[start, stop)` above a running top, and the top may
be set back to any address, which gives the addresses above it to later blocks.
`live` reads off a log, newest event first, the blocks that no later `set` has
cut. `Grows log top` is the discipline of such an arena: a block starts at or
above the top and becomes the new top. Under it the live blocks end at or below
the top, and no two of them meet.
-/

namespace Ledger

variable {α : Type*} [LinearOrder α]

@[ext] structure Block (α : Type*) where
  start : α
  stop : α
deriving DecidableEq

def Block.addresses (b : Block α) : Set α := Set.Ico b.start b.stop

theorem Block.disjoint_of_le {b c : Block α} (h : b.stop ≤ c.start) :
    Disjoint b.addresses c.addresses := by
  rw [addresses, addresses, Set.disjoint_left]
  rintro a ⟨_, hab⟩ ⟨hca, _⟩
  exact absurd (h.trans hca) (not_le.mpr hab)

inductive Event (α : Type*) where
  | alloc (b : Block α)
  | set (a : α)
deriving DecidableEq

/-- The blocks of a log, newest first, that end at or below every address set
after them. -/
def live : List (Event α) → List (Block α)
  | [] => []
  | .alloc b :: log => b :: live log
  | .set a :: log => (live log).filter fun b => b.stop ≤ a

@[simp] theorem live_nil : live ([] : List (Event α)) = [] := rfl

@[simp] theorem live_alloc (b : Block α) (log : List (Event α)) :
    live (.alloc b :: log) = b :: live log := rfl

@[simp] theorem live_set (a : α) (log : List (Event α)) :
    live (.set a :: log) = (live log).filter fun b => b.stop ≤ a := rfl

/-- The discipline of the arena: `Grows log top` says that the events of `log`
lead to the running top `top`. -/
inductive Grows : List (Event α) → α → Prop
  | reset (a : α) : Grows [] a
  | alloc {log : List (Event α)} {top : α} (b : Block α) :
      Grows log top → top ≤ b.start → b.start ≤ b.stop → Grows (.alloc b :: log) b.stop
  | set {log : List (Event α)} {top : α} (a : α) :
      Grows log top → Grows (.set a :: log) a

theorem Grows.stop_le_top {log : List (Event α)} {top : α} (h : Grows log top) :
    ∀ b ∈ live log, b.stop ≤ top := by
  induction h with
  | reset a => simp
  | alloc b _ hstart hle ih =>
      intro c hc
      rcases List.mem_cons.mp hc with rfl | hc
      · exact le_rfl
      · exact (ih c hc).trans (hstart.trans hle)
  | set a _ _ =>
      intro c hc
      simpa using (List.mem_filter.mp hc).2

theorem Grows.live_pairwise {log : List (Event α)} {top : α} (h : Grows log top) :
    (live log).Pairwise fun newer older => older.stop ≤ newer.start := by
  induction h with
  | reset a => simp
  | alloc b hlog hstart _ ih =>
      exact List.pairwise_cons.mpr
        ⟨fun c hc => (hlog.stop_le_top c hc).trans hstart, ih⟩
  | set a _ ih => exact ih.filter _

/-- No two live blocks share an address. -/
theorem Grows.live_disjoint {log : List (Event α)} {top : α} (h : Grows log top) :
    (live log).Pairwise fun b c => Disjoint b.addresses c.addresses := by
  refine h.live_pairwise.imp ?_
  intro b c hcb
  exact (Block.disjoint_of_le hcb).symm

end Ledger
