import RadarStream.Spi.Chunks

/-!
# The SPI_BUSY handshake

`spi_transmit_loop` runs one transfer per frame, and the `SPI_BUSY` pin tells
the host when to read: low starts a read, and the pin is to be high whenever no
chunk is on the wire. `IdleHigh` and `OwnTransition` say this of the events of
any number of frames, for a pin that is high at first. A failed transfer returns
before the pin is set high again, so the handshake holds exactly of the runs in
which no transfer fails (`handshake_iff`).
-/

namespace RadarStream

/-- The iterations of `spi_transmit_loop` for a number of frames, after `n` calls
of `MCSPI_transfer`, up to the wait for the next frame. -/
def spiTransmitLoop (radarCubePtr radarCubeBytes : UInt32) (mcspi : ℕ → Int32) :
    ℕ → ℕ → List SpiEvent
  | 0, _ => [.pendStart]
  | frames + 1, n =>
      let run := spiTransferBuffer radarCubePtr radarCubeBytes mcspi n
      .pendStart :: run.events ++ [.returned run.ret, .postDone] ++
        spiTransmitLoop radarCubePtr radarCubeBytes mcspi frames
          (n + (transactions run.events).length)

theorem spiTransmitLoop_succ (ptr bytes : UInt32) (mcspi : ℕ → Int32) (frames n : ℕ) :
    spiTransmitLoop ptr bytes mcspi (frames + 1) n =
      .pendStart :: (spiTransferBuffer ptr bytes mcspi n).events ++
        [.returned (spiTransferBuffer ptr bytes mcspi n).ret, .postDone] ++
        spiTransmitLoop ptr bytes mcspi frames
          (n + (transactions (spiTransferBuffer ptr bytes mcspi n).events).length) := by
  rw [spiTransmitLoop]

def SpiEvent.drive (level : Bool) : SpiEvent → Bool
  | .pinWriteLow => false
  | .pinWriteHigh => true
  | _ => level

/-- The level of the pin after `events`, from its level before them. -/
def pinLevel (start : Bool) (events : List SpiEvent) : Bool := events.foldl SpiEvent.drive start

/-- The level after `events` of a pin that was high before them. -/
def busyLevel (events : List SpiEvent) : Bool := pinLevel true events

/-- The points at which no chunk is on the wire: `spi_transfer_buffer` has
returned, or the task waits for a frame or reports one. -/
def SpiEvent.isIdle : SpiEvent → Bool
  | .returned _ | .pendStart | .postDone => true
  | .iteration _ | .pinWriteLow | .transfer _ _ | .pinWriteHigh => false

/-- The pin is high at every idle point. -/
def IdleHigh (events : List SpiEvent) : Prop :=
  ∀ before e after, events = before ++ e :: after → e.isIdle → busyLevel before = true

/-- Every transfer is preceded by a high-to-low transition of its own: the pin is
driven low from high after the transfer before it. -/
def OwnTransition (events : List SpiEvent) : Prop :=
  ∀ before t transferOK after, events = before ++ .transfer t transferOK :: after →
    ∃ earlier since, before = earlier ++ .pinWriteLow :: since ∧
      busyLevel earlier = true ∧ transactions since = []

/-- A piece of a run that keeps the handshake and leaves the pin high. -/
structure Clean (events : List SpiEvent) : Prop where
  high : busyLevel events = true
  idle : IdleHigh events
  own : OwnTransition events

section Append

variable {xs ys : List SpiEvent}

theorem pinLevel_append (start : Bool) :
    pinLevel start (xs ++ ys) = pinLevel (pinLevel start xs) ys := List.foldl_append

theorem busyLevel_append (hx : busyLevel xs = true) : busyLevel (xs ++ ys) = busyLevel ys :=
  (pinLevel_append true).trans (congrArg (pinLevel · ys) hx)

theorem append_eq_append_cons {before after : List SpiEvent} {e : SpiEvent}
    (h : xs ++ ys = before ++ e :: after) :
    (∃ rest, xs = before ++ e :: rest) ∨
      ∃ rest, before = xs ++ rest ∧ ys = rest ++ e :: after := by
  rcases List.append_eq_append_iff.mp h with ⟨rest, hbefore, hys⟩ | ⟨rest, hxs, hafter⟩
  · exact Or.inr ⟨rest, hbefore, hys⟩
  · cases rest with
    | nil => exact Or.inr ⟨[], by simpa using hxs.symm, by simpa using hafter.symm⟩
    | cons e' rest =>
        obtain ⟨rfl, rfl⟩ := List.cons.inj hafter
        exact Or.inl ⟨rest, hxs⟩

theorem IdleHigh.append (hx : Clean xs) (hy : IdleHigh ys) : IdleHigh (xs ++ ys) := by
  intro before e after h he
  rcases append_eq_append_cons h with ⟨rest, hxs⟩ | ⟨rest, rfl, hys⟩
  · exact hx.idle before e rest hxs he
  · rw [busyLevel_append hx.high]
    exact hy rest e after hys he

theorem OwnTransition.append (hx : Clean xs) (hy : OwnTransition ys) :
    OwnTransition (xs ++ ys) := by
  intro before t transferOK after h
  rcases append_eq_append_cons h with ⟨rest, hxs⟩ | ⟨rest, rfl, hys⟩
  · exact hx.own before t transferOK rest hxs
  · obtain ⟨earlier, since, hrest, hlevel, hsince⟩ := hy rest t transferOK after hys
    exact ⟨xs ++ earlier, since, by simp [hrest], by rwa [busyLevel_append hx.high], hsince⟩

theorem Clean.append (hx : Clean xs) (hy : Clean ys) : Clean (xs ++ ys) where
  high := by rw [busyLevel_append hx.high, hy.high]
  idle := IdleHigh.append hx hy.idle
  own := OwnTransition.append hx hy.own

theorem IdleHigh.of_append (hx : busyLevel xs = true) (h : IdleHigh (xs ++ ys)) :
    IdleHigh ys := by
  intro before e after hys he
  have hfull := h (xs ++ before) e after (by simp [hys]) he
  rwa [busyLevel_append hx] at hfull

end Append

theorem pinLevel_false {events : List SpiEvent} (h : ∀ e ∈ events, e ≠ .pinWriteHigh) :
    pinLevel false events = false := by
  induction events with
  | nil => rfl
  | cons e events ih =>
      have he : SpiEvent.drive false e = false := by
        have := h e List.mem_cons_self
        cases e <;> simp_all [SpiEvent.drive]
      rw [pinLevel, List.foldl_cons, he]
      exact ih fun e' he' => h e' (List.mem_cons_of_mem _ he')

/-- A transfer that follows another one with the pin low all the way has no
transition of its own. -/
theorem not_ownTransition (xs ys after : List SpiEvent) {t₁ t₂ : McspiTransaction}
    {ok₁ ok₂ : Int32} (hlow : busyLevel xs = false) (hys : ∀ e ∈ ys, e ≠ .pinWriteHigh) :
    ¬ OwnTransition (xs ++ [.transfer t₁ ok₁] ++ ys ++ .transfer t₂ ok₂ :: after) := by
  intro h
  obtain ⟨earlier, since, hbefore, hlevel, hsince⟩ := h _ t₂ ok₂ after rfl
  rcases append_eq_append_cons hbefore with ⟨rest, hxs⟩ | ⟨rest, rfl, hrest⟩
  · -- the pin was written before the first transfer, which then stands in between
    rw [hxs, List.append_assoc] at hbefore
    obtain rfl : rest ++ ys = since := (List.cons.inj (List.append_cancel_left hbefore)).2
    have hmem : SpiEvent.transfer t₁ ok₁ ∈ rest := by
      rcases List.eq_nil_or_concat rest with rfl | ⟨init, last, rfl⟩
      · have hlast := (List.append_inj' hxs rfl).2
        simp at hlast
      · have hsplit : xs ++ [.transfer t₁ ok₁] = (earlier ++ .pinWriteLow :: init) ++ [last] := by
          rw [hxs]
          simp
        have hlast := (List.append_inj' hsplit rfl).2
        simp at hlast
        simp [hlast]
    rw [transactions_append, List.append_eq_nil_iff] at hsince
    exact absurd hsince.1 (List.ne_nil_of_mem
      (List.mem_filterMap.mpr ⟨_, hmem, rfl⟩))
  · -- the pin was written after the first transfer, when it was low already
    have hfalse : busyLevel (xs ++ [.transfer t₁ ok₁] ++ rest) = false := by
      rw [busyLevel] at hlow
      rw [busyLevel, pinLevel_append, pinLevel_append, hlow]
      exact pinLevel_false fun e he => hys e (by simp [hrest, he])
    rw [hfalse] at hlevel
    exact absurd hlevel (by decide)

theorem Clean.nil : Clean [] where
  high := rfl
  idle := by simp [IdleHigh]
  own := by simp [OwnTransition]

theorem Clean.of_idle {e : SpiEvent} (he : e.isIdle) : Clean [e] := by
  have hdrive : busyLevel [e] = true := by cases e <;> simp_all [SpiEvent.isIdle, busyLevel,
    pinLevel, SpiEvent.drive]
  refine ⟨hdrive, ?_, ?_⟩
  · intro before e' after h _
    cases before with
    | nil => rfl
    | cons a before => simp at h
  · intro before t transferOK after h
    cases before with
    | nil =>
        obtain ⟨rfl, -⟩ := List.cons.inj h
        simp [SpiEvent.isIdle] at he
    | cons a before => simp at h

theorem Clean.chunk (txBuf : UInt32) (T i : ℕ) : Clean (chunkEvents txBuf T i) := by
  refine ⟨rfl, ?_, ?_⟩
  · intro before e after h he
    have hmem : e ∈ chunkEvents txBuf T i := by simp [h]
    simp only [chunkEvents, List.mem_cons, List.not_mem_nil, or_false] at hmem
    rcases hmem with rfl | rfl | rfl | rfl <;> simp [SpiEvent.isIdle] at he
  · intro before t transferOK after h
    -- the transfer is the third event, right behind the write that drives the pin low
    have hbefore : before = [.iteration (chunkLocals T i), .pinWriteLow] := by
      rcases before with _ | ⟨a, _ | ⟨b, _ | ⟨c, _ | ⟨d, before⟩⟩⟩⟩ <;>
        simp_all [chunkEvents]
    exact ⟨[.iteration (chunkLocals T i)], [], hbefore, rfl, rfl⟩

theorem Clean.chunks (txBuf : UInt32) (T : ℕ) (is : List ℕ) :
    Clean (is.flatMap (chunkEvents txBuf T)) := by
  induction is with
  | nil => exact Clean.nil
  | cons i is ih =>
      rw [List.flatMap_cons]
      exact (Clean.chunk txBuf T i).append ih

section Frames

variable {ptr bytes : UInt32} {mcspi : ℕ → Int32}

theorem spiTransmitLoop_frame (frames : ℕ) {n : ℕ} {events : List SpiEvent} {ret : Int32}
    (hrun : spiTransferBuffer ptr bytes mcspi n = ⟨events, ret⟩) :
    spiTransmitLoop ptr bytes mcspi (frames + 1) n =
      ([.pendStart] ++ events ++ ([.returned ret] ++ [.postDone])) ++
        spiTransmitLoop ptr bytes mcspi frames (n + (transactions events).length) := by
  rw [spiTransmitLoop_succ, hrun]
  simp

theorem spiTransmitLoop_success (ptr : UInt32) (frames : ℕ) {n : ℕ}
    (hok : ∀ j < chunkCount bytes.toNat, mcspi (n + j) = systemPSuccess) :
    ∃ frame, Clean frame ∧ spiTransmitLoop ptr bytes mcspi (frames + 1) n =
      frame ++ spiTransmitLoop ptr bytes mcspi frames (n + chunkCount bytes.toNat) := by
  have hcall : spiTransferBuffer ptr bytes mcspi n = _ := spiTransferBuffer_success hok
  have hloop := spiTransmitLoop_frame frames hcall
  rw [(observe_chunkEvents ptr bytes.toNat _).1, List.length_map, List.length_range] at hloop
  refine ⟨_, ?_, hloop⟩
  exact ((Clean.of_idle rfl).append (Clean.chunks ptr bytes.toNat _)).append
    ((Clean.of_idle rfl).append (Clean.of_idle rfl))

/-- A frame in which a transfer fails returns with the pin low. -/
theorem not_idleHigh_of_failure {frames n j : ℕ} (hj : j < chunkCount bytes.toNat)
    (hbad : mcspi (n + j) ≠ systemPSuccess) (hok : ∀ i < j, mcspi (n + i) = systemPSuccess) :
    ¬ IdleHigh (spiTransmitLoop ptr bytes mcspi (frames + 1) n) := by
  have hcall : spiTransferBuffer ptr bytes mcspi n = _ := spiTransferBuffer_failure hj hok hbad
  have hloop := spiTransmitLoop_frame frames hcall
  have hclean : Clean ([.pendStart] ++ (List.range j).flatMap (chunkEvents ptr bytes.toNat)) :=
    (Clean.of_idle rfl).append (Clean.chunks ptr bytes.toNat _)
  intro hidle
  have hhigh := hidle
    ([.pendStart] ++ (List.range j).flatMap (chunkEvents ptr bytes.toNat) ++
      failedChunkEvents ptr bytes.toNat j (mcspi (n + j)))
    (.returned (mcspi (n + j))) _ (by rw [hloop]; simp; rfl) rfl
  rw [busyLevel_append hclean.high] at hhigh
  exact absurd hhigh (by simp [failedChunkEvents, busyLevel, pinLevel, SpiEvent.drive])

theorem spiTransmitLoop_clean {frames n : ℕ}
    (hok : ∀ i < frames * chunkCount bytes.toNat, mcspi (n + i) = systemPSuccess) :
    Clean (spiTransmitLoop ptr bytes mcspi frames n) := by
  induction frames generalizing n with
  | zero => exact Clean.of_idle rfl
  | succ frames ih =>
      rw [Nat.succ_mul] at hok
      have hfirst : ∀ j < chunkCount bytes.toNat, mcspi (n + j) = systemPSuccess :=
        fun j hj => hok j (by omega)
      obtain ⟨frame, hframe, hloop⟩ := spiTransmitLoop_success ptr frames hfirst
      rw [hloop]
      refine hframe.append (ih fun i hi => ?_)
      have := hok (chunkCount bytes.toNat + i) (by omega)
      rwa [← Nat.add_assoc] at this

theorem success_of_idleHigh {frames n : ℕ}
    (hidle : IdleHigh (spiTransmitLoop ptr bytes mcspi frames n)) :
    ∀ i < frames * chunkCount bytes.toNat, mcspi (n + i) = systemPSuccess := by
  induction frames generalizing n with
  | zero => simp
  | succ frames ih =>
      rcases success_or_first_failure mcspi n (chunkCount bytes.toNat) with
        hok | ⟨j, hj, hbad, hok⟩
      · obtain ⟨frame, hframe, hloop⟩ := spiTransmitLoop_success ptr frames hok
        rw [hloop] at hidle
        have hrest := ih (IdleHigh.of_append hframe.high hidle)
        intro i hi
        rw [Nat.succ_mul] at hi
        by_cases hlt : i < chunkCount bytes.toNat
        · exact hok i hlt
        · have := hrest (i - chunkCount bytes.toNat) (by omega)
          rwa [show n + chunkCount bytes.toNat + (i - chunkCount bytes.toNat) = n + i by omega]
            at this
      · exact absurd hidle (not_idleHigh_of_failure hj hbad hok)

/-- The handshake holds of the first `frames` frames exactly when every transfer
they call for succeeds: a frame takes `chunkCount` transfers. -/
theorem handshake_iff (ptr bytes : UInt32) (mcspi : ℕ → Int32) (frames : ℕ) :
    (IdleHigh (spiTransmitLoop ptr bytes mcspi frames 0) ∧
        OwnTransition (spiTransmitLoop ptr bytes mcspi frames 0)) ↔
      ∀ i < frames * chunkCount bytes.toNat, mcspi i = systemPSuccess := by
  constructor
  · rintro ⟨hidle, -⟩ i hi
    simpa using success_of_idleHigh hidle i hi
  · intro hok
    have hclean : Clean (spiTransmitLoop ptr bytes mcspi frames 0) :=
      spiTransmitLoop_clean (by simpa using hok)
    exact ⟨hclean.idle, hclean.own⟩

end Frames

def failFirst (k : ℕ) : Int32 := if k = 0 then systemPFailure else systemPSuccess

theorem spiTransmitLoop_failFirst :
    spiTransmitLoop 4096 4 failFirst 2 0 =
      [.pendStart] ++ failedChunkEvents 4096 4 0 systemPFailure ++
        [.returned systemPFailure, .postDone, .pendStart] ++ chunkEvents 4096 4 0 ++
        [.returned systemPSuccess, .postDone, .pendStart] := by
  have hfirst : spiTransferBuffer 4096 4 failFirst 0 =
      ⟨failedChunkEvents 4096 4 0 systemPFailure, systemPFailure⟩ :=
    spiTransferBuffer_failure (j := 0) (by decide) (by simp) (by decide)
  have hsecond : spiTransferBuffer 4096 4 failFirst 1 = ⟨chunkEvents 4096 4 0, systemPSuccess⟩ :=
    spiTransferBuffer_success (n := 1) (by decide)
  have hcount : (transactions (failedChunkEvents 4096 4 0 systemPFailure)).length = 1 := rfl
  rw [spiTransmitLoop_succ, hfirst, hcount, spiTransmitLoop_succ, hsecond]
  simp [spiTransmitLoop]

theorem not_handshake_failFirst :
    ¬ IdleHigh (spiTransmitLoop 4096 4 failFirst 2 0) ∧
      ¬ OwnTransition (spiTransmitLoop 4096 4 failFirst 2 0) := by
  rw [spiTransmitLoop_failFirst]
  constructor
  · intro h
    exact absurd (h ([.pendStart] ++ failedChunkEvents 4096 4 0 systemPFailure)
      (.returned systemPFailure) _ (by simp [failedChunkEvents]; rfl) rfl) (by decide)
  · exact not_ownTransition [.pendStart, .iteration (chunkLocals 4 0), .pinWriteLow]
      [.returned systemPFailure, .postDone, .pendStart, .iteration (chunkLocals 4 0),
        .pinWriteLow]
      [.pinWriteHigh, .returned systemPSuccess, .postDone, .pendStart] rfl (by simp)

end RadarStream
