import Mathlib.Data.List.Basic

/-!
# The first failure of a loop

`First P l i` says that `i` is the first item of the list `l` with the property `P`.
A loop that may fail at each item ends with the failure of the first item that fails:
`foldlM_eq_error_iff` for a loop whose items fail whatever its state is, and
`mapM_eq_error_iff` for a list of results. The other rules follow the first item through
the ways in which a list is put together.
-/

namespace FirstFailure

universe u v

section First

variable {ι : Type u} {κ : Type v} {P Q : ι → Prop} {l l' : List ι} {i j : ι}

def First (P : ι → Prop) (l : List ι) (i : ι) : Prop :=
  ∃ before after, l = before ++ i :: after ∧ P i ∧ ∀ j ∈ before, ¬ P j

theorem First.mem (h : First P l i) : i ∈ l := by
  obtain ⟨before, after, rfl, -, -⟩ := h
  exact List.mem_append_right _ List.mem_cons_self

theorem First.holds (h : First P l i) : P i := by
  obtain ⟨-, -, -, hi, -⟩ := h
  exact hi

@[simp] theorem not_first_nil : ¬ First P [] i := fun h => absurd h.mem List.not_mem_nil

theorem first_cons : First P (j :: l) i ↔ P j ∧ j = i ∨ ¬ P j ∧ First P l i := by
  constructor
  · rintro ⟨before, after, heq, hi, hbefore⟩
    cases before with
    | nil =>
        obtain ⟨rfl, -⟩ := List.cons.inj heq
        exact Or.inl ⟨hi, rfl⟩
    | cons k before =>
        obtain ⟨rfl, rfl⟩ := List.cons.inj heq
        exact Or.inr ⟨hbefore j List.mem_cons_self, before, after, rfl, hi,
          fun k hk => hbefore k (List.mem_cons_of_mem j hk)⟩
  · rintro (⟨hj, rfl⟩ | ⟨hj, before, after, rfl, hi, hbefore⟩)
    · exact ⟨[], l, rfl, hj, by simp⟩
    · refine ⟨j :: before, after, rfl, hi, fun k hk => ?_⟩
      rcases List.mem_cons.mp hk with rfl | hk
      · exact hj
      · exact hbefore k hk

theorem first_cons_of_holds (hj : P j) : First P (j :: l) i ↔ j = i := by
  simp [first_cons, hj]

theorem first_cons_of_not (hj : ¬ P j) : First P (j :: l) i ↔ First P l i := by
  simp [first_cons, hj]

theorem exists_first_iff : (∃ i, First P l i) ↔ ∃ i ∈ l, P i := by
  induction l with
  | nil => simp
  | cons j l ih =>
      by_cases hj : P j
      · simp [first_cons_of_holds hj, hj]
      · simp [first_cons_of_not hj, hj, ih]

theorem First.unique (h : First P l i) (h' : First P l j) : i = j := by
  induction l with
  | nil => exact absurd h not_first_nil
  | cons k l ih =>
      by_cases hk : P k
      · rw [first_cons_of_holds hk] at h h'
        exact h.symm.trans h'
      · rw [first_cons_of_not hk] at h h'
        exact ih h h'

theorem first_congr (h : ∀ i ∈ l, P i ↔ Q i) : First P l i ↔ First Q l i := by
  induction l with
  | nil => simp
  | cons j l ih =>
      rw [first_cons, first_cons, h j List.mem_cons_self,
        ih fun k hk => h k (List.mem_cons_of_mem j hk)]

theorem first_append :
    First P (l ++ l') i ↔ First P l i ∨ (∀ j ∈ l, ¬ P j) ∧ First P l' i := by
  induction l with
  | nil => simp
  | cons j l ih =>
      by_cases hj : P j
      · simp [first_cons_of_holds hj, hj]
      · simp [first_cons_of_not hj, hj, ih]

/-- The first item of a list of lists is in the first list that has one. -/
theorem first_flatten {ls : List (List ι)} :
    First P ls.flatten i ↔ ∃ l, First (fun l => ∃ i ∈ l, P i) ls l ∧ First P l i := by
  induction ls with
  | nil => simp
  | cons l ls ih =>
      rw [List.flatten_cons, first_append, ih]
      by_cases hl : ∃ i ∈ l, P i
      · simp only [first_cons_of_holds (P := fun l : List ι => ∃ i ∈ l, P i) hl, exists_eq_left']
        refine or_iff_left ?_
        rintro ⟨hnone, -⟩
        obtain ⟨k, hk, hPk⟩ := hl
        exact hnone k hk hPk
      · simp only [first_cons_of_not (P := fun l : List ι => ∃ i ∈ l, P i) hl]
        have hnone : ∀ j ∈ l, ¬ P j := fun j hj hPj => hl ⟨j, hj, hPj⟩
        rw [or_iff_right fun h => hl (exists_first_iff.mp ⟨i, h⟩), and_iff_right hnone]

/-- An item has a value with the property. -/
def HasValue (f : ι → Option κ) (R : κ → Prop) (i : ι) : Prop := ∃ k, f i = some k ∧ R k

/-- Items without a value do not count. -/
theorem first_filterMap {f : ι → Option κ} {R : κ → Prop} {k : κ} :
    First R (l.filterMap f) k ↔ ∃ i, First (HasValue f R) l i ∧ f i = some k := by
  induction l with
  | nil => simp
  | cons j l ih =>
      cases hf : f j with
      | none =>
          have hj : ¬ HasValue f R j := by simp [HasValue, hf]
          simp only [first_cons_of_not hj, List.filterMap_cons, hf, ih]
      | some m =>
          rw [List.filterMap_cons_some hf]
          by_cases hm : R m
          · have hj : HasValue f R j := ⟨m, hf, hm⟩
            simp [first_cons_of_holds hm, first_cons_of_holds hj, hf]
          · have hj : ¬ HasValue f R j := by simp [HasValue, hf, hm]
            simp only [first_cons_of_not hm, first_cons_of_not hj, ih]

theorem first_filter {p : ι → Bool} (hp : ∀ i ∈ l, P i → p i = true) :
    First P (l.filter p) i ↔ First P l i := by
  induction l with
  | nil => simp
  | cons j l ih =>
      have ih := ih fun k hk => hp k (List.mem_cons_of_mem j hk)
      by_cases hj : p j = true
      · rw [List.filter_cons_of_pos hj, first_cons, first_cons, ih]
      · have hnot : ¬ P j := fun hPj => hj (hp j List.mem_cons_self hPj)
        rw [List.filter_cons_of_neg hj, first_cons_of_not hnot, ih]

/-- Repetitions come after the first. -/
theorem first_eraseDups [BEq ι] [LawfulBEq ι] : First P l.eraseDups i ↔ First P l i := by
  induction hn : l.length using Nat.strongRecOn generalizing l with
  | ind n ih =>
      cases l with
      | nil => simp
      | cons j l =>
          have hlt : (l.filter fun b => !b == j).length < n := by
            rw [← hn, List.length_cons]
            exact Nat.lt_succ_of_le (List.length_filter_le _ l)
          rw [List.eraseDups_cons]
          by_cases hj : P j
          · rw [first_cons_of_holds hj, first_cons_of_holds hj]
          · rw [first_cons_of_not hj, first_cons_of_not hj, ih _ hlt rfl]
            refine first_filter fun k _ hk => ?_
            have hne : k ≠ j := fun heq => hj (heq ▸ hk)
            simp [hne]

end First

section Loops

variable {ε σ ι κ : Type} {e : ε} {l : List ι}

theorem bind_eq_error_iff {x : Except ε κ} {f : κ → Except ε σ} :
    (x >>= f) = .error e ↔ x = .error e ∨ ∃ a, x = .ok a ∧ f a = .error e := by
  cases x with
  | error e' =>
      change Except.error e' = .error e ↔ _
      simp
  | ok a =>
      change f a = .error e ↔ _
      simp

theorem bind_pure_eq_error_iff {x : Except ε κ} {f : κ → σ} :
    (x >>= fun a => pure (f a)) = .error e ↔ x = .error e := by
  rw [bind_eq_error_iff]
  refine or_iff_left ?_
  rintro ⟨_, -, hpure⟩
  cases hpure

def Fails (f : ι → Except ε κ) (i : ι) : Prop := ∃ e, f i = .error e

theorem mapM_eq_error_iff {f : ι → Except ε κ} :
    l.mapM f = .error e ↔ ∃ i, First (Fails f) l i ∧ f i = .error e := by
  induction l with
  | nil => exact ⟨fun h => (by cases h), fun ⟨_, h, _⟩ => absurd h not_first_nil⟩
  | cons j l ih =>
      rw [List.mapM_cons, bind_eq_error_iff]
      cases hj : f j with
      | error e' =>
          have hfails : Fails f j := ⟨e', hj⟩
          simp [first_cons_of_holds hfails, hj]
      | ok k =>
          have hfails : ¬ Fails f j := by simp [Fails, hj]
          simp only [first_cons_of_not hfails, ← ih, reduceCtorEq, false_or, Except.ok.injEq,
            exists_eq_left', bind_pure_eq_error_iff]

theorem foldlM_eq_error_iff {f : σ → ι → Except ε σ} {fails : ι → ε → Prop}
    (hf : ∀ i ∈ l, ∀ s e, f s i = .error e ↔ fails i e) (s : σ) :
    l.foldlM f s = .error e ↔ ∃ i, First (fun i => ∃ e, fails i e) l i ∧ fails i e := by
  induction l generalizing s with
  | nil => exact ⟨fun h => (by cases h), fun ⟨_, h, _⟩ => absurd h not_first_nil⟩
  | cons j l ih =>
      have ih := ih fun i hi => hf i (List.mem_cons_of_mem j hi)
      have hf := hf j List.mem_cons_self s
      rw [List.foldlM_cons, bind_eq_error_iff]
      cases hj : f s j with
      | error e' =>
          have hfails : ∃ e, fails j e := ⟨e', (hf e').mp hj⟩
          simp [first_cons_of_holds (P := fun i => ∃ e, fails i e) hfails, ← hf, hj]
      | ok t =>
          have hfails : ¬ ∃ e, fails j e := by
            rintro ⟨e', he'⟩
            exact absurd (hj.symm.trans ((hf e').mpr he')) (by simp)
          simp only [first_cons_of_not (P := fun i => ∃ e, fails i e) hfails, ← ih t,
            reduceCtorEq, false_or, Except.ok.injEq, exists_eq_left']

end Loops

end FirstFailure
