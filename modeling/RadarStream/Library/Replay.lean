import Mathlib.Data.List.Basic

/-!
# Replaying a list of actions

A system is given by a partial step function `step : σ → α → Option σ`: an
action that is not enabled in a state gives `none`. `replay step s as` performs
the actions of `as` in order, and a state is `Reachable` when some list of
actions replays to it. Interleavings of several parties are lists of actions of
all of them, so a statement about every list is a statement about every
schedule. `replay_trace` is the rule of a forward simulation, `replay_trace_invariant` that
of an invariant which speaks of what was seen as well, `replay_countP_le` that of a measure
which bounds the length of a replay.
-/

namespace Replay

variable {σ α : Type*} (step : σ → α → Option σ)

/-- The state after the actions of `as`, or `none` as soon as one of them is
not enabled. -/
def replay (s : σ) (as : List α) : Option σ := as.foldlM step s

def Reachable (s t : σ) : Prop := ∃ as, replay step s as = some t

theorem replay_cons (s : σ) (a : α) (as : List α) :
    replay step s (a :: as) = (step s a).bind fun t => replay step t as := rfl

theorem replay_cons_eq_some {s u : σ} {a : α} {as : List α} :
    replay step s (a :: as) = some u ↔
      ∃ t, step s a = some t ∧ replay step t as = some u := by
  rw [replay_cons, Option.bind_eq_some_iff]

variable {step}

/-- What every step preserves, every replay preserves. -/
theorem replay_invariant {I : σ → Prop}
    (hstep : ∀ s a t, I s → step s a = some t → I t) {s t : σ} {as : List α}
    (hs : I s) (h : replay step s as = some t) : I t := by
  induction as generalizing s with
  | nil =>
      obtain rfl : s = t := Option.some.inj h
      exact hs
  | cons a as ih =>
      obtain ⟨u, hu, hrest⟩ := (replay_cons_eq_some step).mp h
      exact ih (hstep s a u hs hu) hrest

theorem Reachable.invariant {I : σ → Prop}
    (hstep : ∀ s a t, I s → step s a = some t → I t) {s t : σ}
    (hs : I s) (h : Reachable step s t) : I t := by
  obtain ⟨as, has⟩ := h
  exact replay_invariant hstep hs has

/-- When every state short of the goal has an allowed step that lowers a measure,
the goal is reached by allowed actions alone. The invariant `I` says from which
states this is claimed. -/
theorem exists_replay_of_measure {I goal : σ → Prop} (allowed : α → Prop) (measure : σ → ℕ)
    (hprogress : ∀ s, I s → ¬ goal s →
      ∃ a t, allowed a ∧ step s a = some t ∧ I t ∧ measure t < measure s) {s : σ} (hs : I s) :
    ∃ as t, (∀ a ∈ as, allowed a) ∧ replay step s as = some t ∧ goal t := by
  induction hn : measure s using Nat.strongRecOn generalizing s with
  | ind n ih =>
      subst hn
      by_cases hgoal : goal s
      · exact ⟨[], s, by simp, rfl, hgoal⟩
      · obtain ⟨a, t, ha, hat, ht, hlt⟩ := hprogress s hs hgoal
        obtain ⟨as, u, has, hreplay, hu⟩ := ih (measure t) hlt ht rfl
        refine ⟨a :: as, u, ?_, (replay_cons_eq_some step).mpr ⟨t, hat, hreplay⟩, hu⟩
        intro b hb
        rcases List.mem_cons.mp hb with rfl | hb
        · exact ha
        · exact has b hb

theorem replay_append_eq_some {s u : σ} {as bs : List α} :
    replay step s (as ++ bs) = some u ↔
      ∃ t, replay step s as = some t ∧ replay step t bs = some u := by
  rw [replay, List.foldlM_append, Option.bind_eq_bind, Option.bind_eq_some_iff]
  rfl

theorem replay_singleton {s t : σ} {a : α} (h : step s a = some t) : replay step s [a] = some t :=
  (replay_cons_eq_some step).mpr ⟨t, h, rfl⟩

/-- When every step of a kind raises a measure and no other step lowers it, the
measure bounds the steps of that kind in a replay. -/
theorem replay_countP_le {I : σ → Prop} {kind : α → Bool} {measure : σ → ℕ}
    (hstep : ∀ s a t, I s → step s a = some t →
      I t ∧ measure s + (kind a).toNat ≤ measure t)
    {s t : σ} {as : List α} (hs : I s) (h : replay step s as = some t) :
    measure s + as.countP kind ≤ measure t := by
  induction as generalizing s with
  | nil =>
      obtain rfl : s = t := Option.some.inj h
      exact Nat.le_refl _
  | cons a as ih =>
      obtain ⟨u, hu, hrest⟩ := (replay_cons_eq_some step).mp h
      obtain ⟨hI, hle⟩ := hstep s a u hs hu
      have htail := ih hI hrest
      have hkind : (if kind a = true then 1 else 0) = (kind a).toNat := by
        cases kind a <;> rfl
      rw [List.countP_cons, hkind]
      omega

section Trace

variable {τ ω : Type*} (step)

/-- What can be seen of a replay: `out` of each action, in order. -/
def trace (out : σ → α → List ω) : σ → List α → List ω
  | _, [] => []
  | s, a :: as =>
      match step s a with
      | some t => out s a ++ trace out t as
      | none => []

variable {step}

/-- When every step shows actions of another system that take the abstraction of its
state to that of the next, so does every replay. -/
theorem replay_trace {absStep : τ → ω → Option τ} {out : σ → α → List ω} {abs : σ → τ}
    {I : σ → Prop}
    (hstep : ∀ s a t, I s → step s a = some t →
      I t ∧ replay absStep (abs s) (out s a) = some (abs t))
    {s t : σ} {as : List α} (hs : I s) (h : replay step s as = some t) :
    replay absStep (abs s) (trace step out s as) = some (abs t) := by
  induction as generalizing s with
  | nil =>
      obtain rfl : s = t := Option.some.inj h
      rfl
  | cons a as ih =>
      obtain ⟨u, hu, hrest⟩ := (replay_cons_eq_some step).mp h
      obtain ⟨hI, hout⟩ := hstep s a u hs hu
      rw [trace, hu]
      exact replay_append_eq_some.mpr ⟨abs u, hout, ih hI hrest⟩

/-- What every step keeps of a state and of what was seen up to it, every replay keeps. -/
theorem replay_trace_invariant {out : σ → α → List ω} {I : σ → List ω → Prop}
    (hstep : ∀ s a t es, I s es → step s a = some t → I t (es ++ out s a))
    {s t : σ} {as : List α} {es : List ω} (hs : I s es) (h : replay step s as = some t) :
    I t (es ++ trace step out s as) := by
  induction as generalizing s es with
  | nil =>
      obtain rfl : s = t := Option.some.inj h
      rwa [trace, List.append_nil]
  | cons a as ih =>
      obtain ⟨u, hu, hrest⟩ := (replay_cons_eq_some step).mp h
      rw [trace, hu, ← List.append_assoc]
      exact ih (hstep s a u es hs hu) hrest

end Trace

end Replay
