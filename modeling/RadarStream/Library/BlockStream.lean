import RadarStream.Library.Replay

/-!
# A stream of frames in blocks

One frame at a time is captured and then transferred in blocks. A transfer may stop
before its end; nothing is captured while a frame waits or a transfer runs. `step` is
the abstract system, and every replay of it keeps `Faithful`: a transfer has sent a
prefix of its own frame, the whole frame exactly when it reports so.
-/

namespace BlockStream

open Replay

inductive Event (β : Type*) where
  | captured (frame : List β)
  | started
  | sent (block : List β)
  | finished (complete : Bool)

/-- The frames captured, what each transfer that has ended has sent and reported, and
what the running transfer has sent. -/
@[ext] structure Stream (β : Type*) where
  frames : List (List β)
  transfers : List (List β × Bool)
  sending : Option (List β)

variable {β : Type*}

def start : Stream β := ⟨[], [], none⟩

section Step

variable [DecidableEq β]

def step (s : Stream β) : Event β → Option (Stream β)
  | .captured frame =>
      if s.sending = none ∧ s.transfers.length = s.frames.length then
        some { s with frames := s.frames ++ [frame] }
      else none
  | .started =>
      if s.sending = none ∧ s.transfers.length + 1 = s.frames.length then
        some { s with sending := some [] }
      else none
  | .sent block =>
      match s.sending, s.frames.getLast? with
      | some done, some frame =>
          if done ++ block <+: frame then some { s with sending := some (done ++ block) } else none
      | _, _ => none
  | .finished complete =>
      match s.sending, s.frames.getLast? with
      | some done, some frame =>
          if complete = decide (done = frame) then
            some { s with transfers := s.transfers ++ [(done, complete)], sending := none }
          else none
      | _, _ => none

end Step

/-- A transfer of this frame. -/
structure Transferred (frame : List β) (t : List β × Bool) : Prop where
  sent : t.1 <+: frame
  complete_iff : t.2 = true ↔ t.1 = frame

structure Faithful (s : Stream β) : Prop where
  transferred : ∀ (k : ℕ) frame t, s.frames[k]? = some frame → s.transfers[k]? = some t →
    Transferred frame t
  sending : ∀ done, s.sending = some done →
    s.transfers.length + 1 = s.frames.length ∧
      ∀ frame, s.frames.getLast? = some frame → done <+: frame
  behind : s.transfers.length ≤ s.frames.length ∧ s.frames.length ≤ s.transfers.length + 1

theorem faithful_start : Faithful (start : Stream β) := by
  constructor <;> simp [start]

section Invariant

variable [DecidableEq β] {s t : Stream β} {e : Event β}

theorem faithful_captured (h : Faithful s) {frame : List β}
    (hstep : step s (.captured frame) = some t) : Faithful t := by
  obtain ⟨⟨hnone, hlength⟩, heq⟩ := Option.ite_none_right_eq_some.mp hstep
  obtain rfl := Option.some.inj heq
  refine ⟨fun k f u hf hu => ?_, fun done hdone => ?_, ?_⟩
  · have hk : k < s.frames.length := hlength ▸ (List.getElem?_eq_some_iff.mp hu).1
    exact h.transferred k f u ((List.getElem?_append_left hk).symm.trans hf) hu
  · rw [hnone] at hdone
    cases hdone
  · simp only [List.length_append, List.length_singleton]
    omega

theorem faithful_started (h : Faithful s) (hstep : step s .started = some t) : Faithful t := by
  obtain ⟨⟨-, hlength⟩, heq⟩ := Option.ite_none_right_eq_some.mp hstep
  obtain rfl := Option.some.inj heq
  refine ⟨h.transferred, fun done hdone => ?_, h.behind⟩
  obtain rfl := Option.some.inj hdone
  exact ⟨hlength, fun frame _ => List.nil_prefix⟩

omit [DecidableEq β] in
/-- A step of the running transfer finds what it has sent and its frame. -/
theorem exists_sending {P : List β → List β → Prop} [∀ d f, Decidable (P d f)]
    {next : List β → Stream β}
    (hstep : (match s.sending, s.frames.getLast? with
      | some done, some frame => if P done frame then some (next done) else none
      | _, _ => none) = some t) :
    ∃ done frame, s.sending = some done ∧ s.frames.getLast? = some frame ∧ P done frame ∧
      next done = t := by
  split at hstep
  · rename_i done frame hdone hframe
    obtain ⟨hP, heq⟩ := Option.ite_none_right_eq_some.mp hstep
    exact ⟨done, frame, hdone, hframe, hP, Option.some.inj heq⟩
  · cases hstep

theorem faithful_sent (h : Faithful s) {block : List β}
    (hstep : step s (.sent block) = some t) : Faithful t := by
  obtain ⟨done, frame, hdone, hframe, hsent, rfl⟩ := exists_sending hstep
  refine ⟨h.transferred, fun done' hdone' => ?_, h.behind⟩
  obtain rfl := Option.some.inj hdone'
  refine ⟨(h.sending done hdone).1, fun frame' hframe' => ?_⟩
  obtain rfl := Option.some.inj (hframe.symm.trans hframe')
  exact hsent

theorem faithful_finished (h : Faithful s) {complete : Bool}
    (hstep : step s (.finished complete) = some t) : Faithful t := by
  obtain ⟨done, frame, hdone, hframe, hcomplete, rfl⟩ := exists_sending hstep
  obtain ⟨hlength, hsent⟩ := h.sending done hdone
  refine ⟨fun k f u hf hu => ?_, fun _ hnone => absurd hnone (by simp), ?_⟩
  · rcases Nat.lt_trichotomy k s.transfers.length with hk | rfl | hk
    · exact h.transferred k f u hf ((List.getElem?_append_left hk).symm.trans hu)
    · -- the transfer that ends is the one of the last frame
      have hlast : s.frames.getLast? = s.frames[s.transfers.length]? := by
        rw [List.getLast?_eq_getElem?, ← hlength, Nat.add_sub_cancel]
      obtain rfl : frame = f := Option.some.inj (hframe.symm.trans (hlast.trans hf))
      rw [List.getElem?_append_right (Nat.le_refl _), Nat.sub_self] at hu
      obtain rfl := Option.some.inj hu
      exact ⟨hsent frame hframe, by simp [hcomplete]⟩
    · have hout := (List.getElem?_eq_some_iff.mp hu).1
      rw [List.length_append, List.length_singleton] at hout
      omega
  · simp only [List.length_append, List.length_singleton]
    omega

theorem faithful_step (h : Faithful s) (hstep : step s e = some t) : Faithful t := by
  cases e with
  | captured frame => exact faithful_captured h hstep
  | started => exact faithful_started h hstep
  | sent block => exact faithful_sent h hstep
  | finished complete => exact faithful_finished h hstep

theorem faithful_of_replay {es : List (Event β)} (h : replay step start es = some s) :
    Faithful s :=
  replay_invariant (fun _ _ _ hs hstep => faithful_step hs hstep) faithful_start h

end Invariant

/-- When every transfer has sent its frame, the stream is the frames in order. -/
theorem Faithful.delivered {s : Stream β} (h : Faithful s)
    (hall : ∀ t ∈ s.transfers, t.2 = true) :
    s.transfers.map Prod.fst = s.frames.take s.transfers.length := by
  apply List.ext_getElem?
  intro k
  rw [List.getElem?_map, List.getElem?_take]
  split
  · rename_i hk
    obtain ⟨t, ht⟩ : ∃ t, s.transfers[k]? = some t := ⟨_, List.getElem?_eq_getElem hk⟩
    obtain ⟨frame, hframe⟩ : ∃ frame, s.frames[k]? = some frame :=
      ⟨_, List.getElem?_eq_getElem (Nat.lt_of_lt_of_le hk h.behind.1)⟩
    rw [ht, hframe, Option.map_some,
      (h.transferred k frame t hframe ht).complete_iff.mp (hall t (List.mem_of_getElem? ht))]
  · rename_i hk
    rw [List.getElem?_eq_none (Nat.le_of_not_lt hk), Option.map_none]

end BlockStream
