import RadarStream.Library.FailStop

/-!
# Programs that follow a checklist

A program that logs its calls and may stop between them. Where calls and checks are
known beforehand they make a checklist: the program makes its calls in their order up
to the first check that fails (`performed`), and returns when none does (`passes`).
`Follows` says that a program does so from one start state; its rules go through a
program statement by statement and collect the checklist on the way.
-/

namespace Checklist

open FailStop

universe u v

inductive Item (κ : Type v) where
  | call (c : κ)
  | check (ok : Bool)

section Lists

variable {κ : Type v}

def performed : List (Item κ) → List κ
  | [] => []
  | .call c :: l => c :: performed l
  | .check ok :: l => if ok then performed l else []

def passes : List (Item κ) → Bool
  | [] => true
  | .call _ :: l => passes l
  | .check ok :: l => ok && passes l

@[simp] theorem performed_nil : performed ([] : List (Item κ)) = [] := rfl

@[simp] theorem performed_call (c : κ) (l : List (Item κ)) :
    performed (.call c :: l) = c :: performed l := rfl

@[simp] theorem performed_check (ok : Bool) (l : List (Item κ)) :
    performed (.check ok :: l) = if ok then performed l else [] := rfl

@[simp] theorem passes_nil : passes ([] : List (Item κ)) = true := rfl

@[simp] theorem passes_call (c : κ) (l : List (Item κ)) : passes (.call c :: l) = passes l := rfl

@[simp] theorem passes_check (ok : Bool) (l : List (Item κ)) :
    passes (.check ok :: l) = (ok && passes l) := rfl

@[simp] theorem passes_append (l l' : List (Item κ)) :
    passes (l ++ l') = (passes l && passes l') := by
  induction l with
  | nil => simp
  | cons i l ih => cases i <;> simp [ih, Bool.and_assoc]

/-- The calls of a second list are made when the first is passed. -/
theorem performed_append (l l' : List (Item κ)) :
    performed (l ++ l') = performed l ++ if passes l then performed l' else [] := by
  induction l with
  | nil => simp
  | cons i l ih =>
      cases i with
      | call c => exact congrArg (List.cons c) ih
      | check ok => cases ok <;> simp [ih]

section Forall

variable {P : κ → Prop}

theorem forall_performed_call {c : κ} {l : List (Item κ)} :
    (∀ x ∈ performed (.call c :: l), P x) ↔ P c ∧ ∀ x ∈ performed l, P x :=
  List.forall_mem_cons

theorem forall_performed_check {ok : Bool} {l : List (Item κ)} :
    (∀ x ∈ performed (.check ok :: l), P x) ↔ (ok = true → ∀ x ∈ performed l, P x) := by
  cases ok <;> simp

theorem forall_performed_nil : ∀ x ∈ performed ([] : List (Item κ)), P x := by simp

theorem forall_performed_append {l l' : List (Item κ)} :
    (∀ x ∈ performed (l ++ l'), P x) ↔
      (∀ x ∈ performed l, P x) ∧ (passes l = true → ∀ x ∈ performed l', P x) := by
  rw [performed_append, List.forall_mem_append]
  refine and_congr_right fun _ => ?_
  split <;> simp_all

end Forall

end Lists

/-- From `s` the program follows the checklist `l`, and returns as `Q` describes. -/
def Follows {ε σ α : Type u} {κ : Type v} (calls : σ → List κ) (p : EStateM ε σ α) (s : σ)
    (l : List (Item κ)) (Q : α → σ → Prop) : Prop :=
  Ends p s (fun a t => passes l = true ∧ calls t = calls s ++ performed l ∧ Q a t)
    (fun _ t => passes l = false ∧ calls t = calls s ++ performed l)

namespace Follows

variable {ε σ α β : Type u} {κ : Type v} {calls : σ → List κ} {p : EStateM ε σ α}
  {f : α → EStateM ε σ β} {s t : σ} {a : α} {c : κ} {l l' : List (Item κ)} {Q : α → σ → Prop}
  {R : β → σ → Prop}

theorem of_ok (hrun : p.run s = .ok a t) (hl : passes l = true)
    (hcalls : calls t = calls s ++ performed l) (hQ : Q a t) : Follows calls p s l Q := by
  rw [Follows, Ends, hrun]
  exact ⟨hl, hcalls, hQ⟩

theorem of_run (hrun : p.run s = .ok a t) (hcalls : calls t = calls s) (hQ : Q a t) :
    Follows calls p s [] Q :=
  of_ok hrun rfl (by simp [hcalls]) hQ

theorem of_call (hrun : p.run s = .ok a t) (hcalls : calls t = calls s ++ [c]) (hQ : Q a t) :
    Follows calls p s [.call c] Q :=
  of_ok hrun rfl hcalls hQ

theorem pure (hQ : Q a s) : Follows calls (Pure.pure a : EStateM ε σ α) s [] Q :=
  of_run rfl rfl hQ

theorem bind {m : List (Item κ)} (hp : Follows calls p s l Q) (hm : m = l ++ l')
    (hf : ∀ a t, Q a t → Follows calls (f a) t l' R) : Follows calls (p >>= f) s m R := by
  subst hm
  refine Ends.bind (Q := fun a t => passes l = true ∧ calls t = calls s ++ performed l ∧ Q a t)
    (hp.imp_error ?_) ?_
  · rintro e t ⟨hpasses, hcalls⟩
    simp [hpasses, hcalls, performed_append]
  · rintro a t ⟨hpasses, hcalls, hQ⟩
    refine ((hf a t hQ).imp ?_).imp_error ?_
    · rintro b u ⟨hrest, hcalls', hR⟩
      simp [hpasses, hrest, hcalls, hcalls', hR, performed_append]
    · rintro e u ⟨hrest, hcalls'⟩
      simp [hpasses, hrest, hcalls, hcalls', performed_append]

/-- A statement that calls nothing. -/
theorem bind_run (hrun : p.run s = .ok a t) (hcalls : calls t = calls s)
    (hf : Follows calls (f a) t l R) : Follows calls (p >>= f) s l R := by
  refine bind (of_run (Q := fun a' t' => a' = a ∧ t' = t) hrun hcalls ⟨rfl, rfl⟩) rfl ?_
  rintro _ _ ⟨rfl, rfl⟩
  exact hf

theorem bind_call (hrun : p.run s = .ok a t) (hcalls : calls t = calls s ++ [c])
    (hf : Follows calls (f a) t l R) : Follows calls (p >>= f) s (.call c :: l) R := by
  refine bind (of_call (Q := fun a' t' => a' = a ∧ t' = t) hrun hcalls ⟨rfl, rfl⟩) rfl ?_
  rintro _ _ ⟨rfl, rfl⟩
  exact hf

theorem check {b : Prop} [Decidable b] {e : ε} {Q : PUnit → σ → Prop} {ok : Bool}
    (hok : ok = true ↔ ¬ b) (hQ : Q ⟨⟩ s) :
    Follows calls (if b then throw e else Pure.pure ⟨⟩) s [.check ok] Q := by
  by_cases hb : b
  · obtain rfl : ok = false := by simpa [hb] using hok
    rw [if_pos hb]
    exact Ends.throw (by simp)
  · obtain rfl : ok = true := hok.mpr hb
    rw [if_neg hb]
    exact Ends.pure (by simp [hQ])

theorem bind_check {q : EStateM ε σ PUnit} {g : PUnit → EStateM ε σ β} {ok : Bool}
    (hq : Follows calls q s [.check ok] fun _ t => t = s)
    (hf : Follows calls (g ⟨⟩) s l R) : Follows calls (q >>= g) s (.check ok :: l) R := by
  refine bind hq rfl ?_
  rintro ⟨⟩ _ rfl
  exact hf

theorem ite {b : Prop} [Decidable b] {q : EStateM ε σ α} (hp : b → Follows calls p s l Q)
    (hq : ¬ b → Follows calls q s l' Q) :
    Follows calls (if b then p else q) s (if b then l else l') Q := by
  by_cases hb : b
  · rw [if_pos hb, if_pos hb]
    exact hp hb
  · rw [if_neg hb, if_neg hb]
    exact hq hb

theorem of_error {e : ε} (hrun : p.run s = .error e t) (hl : passes l = false)
    (hcalls : calls t = calls s ++ performed l) : Follows calls p s l Q := by
  rw [Follows, Ends, hrun]
  exact ⟨hl, hcalls⟩

/-- What else is known of a result may go into the postcondition. -/
theorem and_of_ok {P : α → σ → Prop} (hp : Follows calls p s l Q)
    (hP : ∀ a t, p.run s = .ok a t → P a t) :
    Follows calls p s l fun a t => Q a t ∧ P a t := by
  cases hrun : p.run s with
  | ok a t =>
      obtain ⟨hl, hcalls, hQ⟩ := Ends.of_ok hp hrun
      exact of_ok hrun hl hcalls ⟨hQ, hP a t hrun⟩
  | error e t =>
      obtain ⟨hl, hcalls⟩ := Ends.of_error hp hrun
      exact of_error hrun hl hcalls

theorem returns_iff (hp : Follows calls p s l Q) :
    (∃ a t, p.run s = .ok a t) ↔ passes l = true := by
  cases hrun : p.run s with
  | ok a t => simp [(Ends.of_ok hp hrun).1]
  | error e t => simp [(Ends.of_error hp hrun).1]

end Follows

end Checklist
