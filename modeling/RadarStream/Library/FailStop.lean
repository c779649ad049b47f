import Mathlib.Logic.Basic

/-!
# Programs that may stop

A program over a state `σ` that may stop with an `ε` is an `EStateM ε σ α`. A
fail-stop program has a guard: when the guard holds it returns, and when it does
not it stops in a way that `stop` allows. `Guarded` states both for one start
state, with a postcondition on what is returned, and the rules below follow a
program through its statements: the guard of a sequence is the conjunction of
the guards, so the exact condition under which a whole program gets to its end
is collected on the way. `Ends` has no guard, and a postcondition for each of the
two ways a program ends.
-/

namespace FailStop

universe u

variable {ε σ α β : Type u}

theorem run_bind_of_ok {p : EStateM ε σ α} {f : α → EStateM ε σ β} {s t : σ} {a : α}
    (h : p.run s = .ok a t) : (p >>= f).run s = (f a).run t := by
  change EStateM.bind p f s = f a t
  rw [EStateM.bind, show p s = .ok a t from h]

theorem run_bind_of_error {p : EStateM ε σ α} {f : α → EStateM ε σ β} {s t : σ} {e : ε}
    (h : p.run s = .error e t) : (p >>= f).run s = .error e t := by
  change EStateM.bind p f s = .error e t
  rw [EStateM.bind, show p s = .error e t from h]

/-- From `s` the program returns when `g` holds, with a result and a state that
`Q` describes, and stops as `stop` allows when it does not. -/
structure Guarded (stop : ε → σ → Prop) (p : EStateM ε σ α) (s : σ) (g : Prop)
    (Q : α → σ → Prop) : Prop where
  returns : g → ∃ a t, p.run s = .ok a t ∧ Q a t
  stops : ¬ g → ∃ e t, p.run s = .error e t ∧ stop e t

namespace Guarded

variable {stop : ε → σ → Prop} {p : EStateM ε σ α} {f : α → EStateM ε σ β} {s t : σ}
  {g h : Prop} {Q : α → σ → Prop} {R : β → σ → Prop} {a : α}

theorem of_run (hrun : p.run s = .ok a t) (hQ : Q a t) : Guarded stop p s True Q where
  returns _ := ⟨a, t, hrun, hQ⟩
  stops hg := absurd trivial hg

theorem pure (hQ : Q a s) : Guarded stop (Pure.pure a) s True Q := of_run rfl hQ

/-- The guard of a sequence is the guard of both parts. -/
theorem bind (hp : Guarded stop p s g Q) (hf : ∀ a t, Q a t → Guarded stop (f a) t h R) :
    Guarded stop (p >>= f) s (g ∧ h) R where
  returns := by
    rintro ⟨hg, hh⟩
    obtain ⟨a, t, hrun, hQ⟩ := hp.returns hg
    obtain ⟨b, u, hrest, hR⟩ := (hf a t hQ).returns hh
    exact ⟨b, u, by rw [run_bind_of_ok hrun, hrest], hR⟩
  stops := by
    intro hgh
    by_cases hg : g
    · obtain ⟨a, t, hrun, hQ⟩ := hp.returns hg
      obtain ⟨e, u, hrest, hstop⟩ := (hf a t hQ).stops fun hh => hgh ⟨hg, hh⟩
      exact ⟨e, u, by rw [run_bind_of_ok hrun, hrest], hstop⟩
    · obtain ⟨e, t, hrun, hstop⟩ := hp.stops hg
      exact ⟨e, t, run_bind_of_error hrun, hstop⟩

theorem guard_congr (hp : Guarded stop p s g Q) (hgh : g ↔ h) : Guarded stop p s h Q where
  returns hh := hp.returns (hgh.mpr hh)
  stops hh := hp.stops fun hg => hh (hgh.mp hg)

theorem bind_run (hrun : p.run s = .ok a t) (hf : Guarded stop (f a) t h R) :
    Guarded stop (p >>= f) s h R where
  returns hh := by
    obtain ⟨b, u, hrest, hR⟩ := hf.returns hh
    exact ⟨b, u, by rw [run_bind_of_ok hrun, hrest], hR⟩
  stops hh := by
    obtain ⟨e, u, hrest, hstop⟩ := hf.stops hh
    exact ⟨e, u, by rw [run_bind_of_ok hrun, hrest], hstop⟩

/-- A check that stops when `c` holds has the guard `¬ c`. -/
theorem check {c : Prop} [Decidable c] {e : ε} {Q : PUnit → σ → Prop} (hstop : c → stop e s)
    (hQ : Q ⟨⟩ s) : Guarded stop (if c then throw e else Pure.pure ⟨⟩) s (¬ c) Q where
  returns hc := ⟨⟨⟩, s, by rw [if_neg hc]; rfl, hQ⟩
  stops hc := ⟨e, s, by rw [if_pos (not_not.mp hc)]; rfl, hstop (not_not.mp hc)⟩

theorem bind_check {q : EStateM ε σ β} {p : EStateM ε σ PUnit}
    (hp : Guarded stop p s g fun _ t => t = s) (hq : Guarded stop q s h R) :
    Guarded stop (p >>= fun _ => q) s (g ∧ h) R :=
  hp.bind fun _ _ ht => ht ▸ hq

theorem check_pure {p : EStateM ε σ PUnit} {b : β} (hp : Guarded stop p s g fun _ t => t = s)
    (hR : R b s) : Guarded stop (p >>= fun _ => Pure.pure b) s g R := by
  refine (hp.bind_check (.pure hR)).guard_congr ?_
  exact and_iff_left trivial

theorem ite {c : Prop} [Decidable c] {q : EStateM ε σ α} (hp : c → Guarded stop p s g Q)
    (hq : ¬ c → Guarded stop q s g Q) : Guarded stop (if c then p else q) s g Q := by
  by_cases hc : c
  · rw [if_pos hc]
    exact hp hc
  · rw [if_neg hc]
    exact hq hc

/-- What a run that returned says: the guard held and the postcondition does. -/
theorem of_ok (hp : Guarded stop p s g Q) (hrun : p.run s = .ok a t) : g ∧ Q a t := by
  by_cases hg : g
  · obtain ⟨b, u, hrun', hQ⟩ := hp.returns hg
    rw [hrun] at hrun'
    cases hrun'
    exact ⟨hg, hQ⟩
  · obtain ⟨e, u, hrun', _⟩ := hp.stops hg
    rw [hrun] at hrun'
    cases hrun'

end Guarded

/-- From `s` the program returns as `Q` describes, or stops as `E` describes. -/
def Ends (p : EStateM ε σ α) (s : σ) (Q : α → σ → Prop) (E : ε → σ → Prop) : Prop :=
  match p.run s with
  | .ok a t => Q a t
  | .error e t => E e t

namespace Ends

variable {p : EStateM ε σ α} {f : α → EStateM ε σ β} {s t : σ} {a : α} {e : ε}
  {Q : α → σ → Prop} {R : β → σ → Prop} {E : ε → σ → Prop}

theorem pure (hQ : Q a s) : Ends (Pure.pure a) s Q E := hQ

theorem throw (hE : E e s) : Ends (throw e : EStateM ε σ α) s Q E := hE

theorem of_ok (hp : Ends p s Q E) (hrun : p.run s = .ok a t) : Q a t := by
  rw [Ends, hrun] at hp
  exact hp

theorem of_error (hp : Ends p s Q E) (hrun : p.run s = .error e t) : E e t := by
  rw [Ends, hrun] at hp
  exact hp

theorem imp {Q' : α → σ → Prop} (hp : Ends p s Q E) (hQ : ∀ a t, Q a t → Q' a t) :
    Ends p s Q' E := by
  cases hrun : p.run s with
  | ok a t =>
      rw [Ends, hrun]
      exact hQ a t (hp.of_ok hrun)
  | error e t =>
      rw [Ends, hrun]
      exact hp.of_error hrun

theorem imp_error {E' : ε → σ → Prop} (hp : Ends p s Q E) (hE : ∀ e t, E e t → E' e t) :
    Ends p s Q E' := by
  cases hrun : p.run s with
  | ok a t =>
      rw [Ends, hrun]
      exact hp.of_ok hrun
  | error e t =>
      rw [Ends, hrun]
      exact hE e t (hp.of_error hrun)

theorem and {Q' : α → σ → Prop} {E' : ε → σ → Prop} (hp : Ends p s Q E) (hp' : Ends p s Q' E') :
    Ends p s (fun a t => Q a t ∧ Q' a t) (fun e t => E e t ∧ E' e t) := by
  cases hrun : p.run s with
  | ok a t =>
      rw [Ends, hrun]
      exact ⟨hp.of_ok hrun, hp'.of_ok hrun⟩
  | error e t =>
      rw [Ends, hrun]
      exact ⟨hp.of_error hrun, hp'.of_error hrun⟩

theorem bind_run (hrun : p.run s = .ok a t) (hf : Ends (f a) t R E) : Ends (p >>= f) s R E := by
  rw [Ends, run_bind_of_ok hrun]
  exact hf

theorem bind (hp : Ends p s Q E) (hf : ∀ a t, Q a t → Ends (f a) t R E) :
    Ends (p >>= f) s R E := by
  cases hrun : p.run s with
  | ok a t => exact bind_run hrun (hf a t (hp.of_ok hrun))
  | error e t =>
      rw [Ends, run_bind_of_error hrun]
      exact hp.of_error hrun

theorem ite {c : Prop} [Decidable c] {q : EStateM ε σ α} (hp : c → Ends p s Q E)
    (hq : ¬ c → Ends q s Q E) : Ends (if c then p else q) s Q E := by
  by_cases hc : c
  · rw [if_pos hc]
    exact hp hc
  · rw [if_neg hc]
    exact hq hc

end Ends

end FailStop
