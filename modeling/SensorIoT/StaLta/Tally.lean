import SensorIoT.StaLta.Phase

/-!
# The books of an axis

An event is counted when it stops and is kept, and its file is written when the samples after it
are complete and the block is over.  In between, one of two flags is up.  So the count and the
files are in step: `eventNum` is the number of calls of `createEventFile`, plus the flags.

None of this depends on how the ratio comes about.  `Reaches` is the axis with any ratio whatever
on every sample, and `Orderly` is proved for it, by one case for each thing that can happen to a
sample; the runs of the program are among these (`reaches_before`, `reaches_after`).
-/

set_option autoImplicit false

namespace SensorIoT

variable {F : Type} [FloatArith F]

/-! ## An axis with any ratio -/

/-- The states of an axis, with the number of events saved so far.  On every sample the windows may
be anything, so the ratio may. -/
inductive Reaches (p : Params F) (axis : CBuf) : EventData F → ℕ → Prop
  | start : Reaches p axis .init 0
  /-- A sample that only goes to `tempData`. -/
  | fill {e : EventData F} {saves : ℕ} (h : Reaches p axis e saves) (w : Windows F) (b : Block F)
      (k : ℕ) :
      Reaches p axis
        { e with
          toWindows := w
          toPreRegister :=
            if k = p.freq - 1 then addSamplesPreEvent p e.toPreRegister b.samples p.freq 0
            else e.toPreRegister }
        saves
  /-- A sample that is judged, the windows being `w` before it and `w'` after it. -/
  | detect {e : EventData F} {saves : ℕ} (h : Reaches p axis e saves) (w w' : Windows F)
      (b : Block F) (k : ℕ) :
      Reaches p axis { detectEvent p { e with toWindows := w } b axis k with toWindows := w' } saves
  /-- The end of a block, with an event complete. -/
  | save {e : EventData F} {saves : ℕ} (h : Reaches p axis e saves)
      (hpend : e.isPendingSaveEvent = true) :
      Reaches p axis (releaseEvent p.freq p e) (saves + 1)

/-- At most one thing is going on, the counters are inside the arrays, an event that waits to be
saved is complete, and every event counted has been saved or is on its way. -/
structure Orderly (p : Params F) (e : EventData F) (saves : ℕ) : Prop where
  flags : e.eventOn.toNat + e.isEnableAddPostEvent.toNat + e.isPendingSaveEvent.toNat ≤ 1
  countEventSamples : e.countEventSamples ≤ maxLengthEvent
  countPostEvent : e.countPostEvent ≤ p.postEvent
  pending : e.isPendingSaveEvent = true →
    e.countPostEvent = p.postEvent ∧ 1 ≤ e.countEventSamples
  eventNum : e.eventNum
    = saves + e.isEnableAddPostEvent.toNat + e.isPendingSaveEvent.toNat

/-- What is kept from sample to sample: an event that is open or has stopped has a sample. -/
structure Booked (p : Params F) (e : EventData F) (saves : ℕ) : Prop extends
    Orderly p e saves where
  opened : e.eventOn = true → 1 ≤ e.countEventSamples
  stopped : e.isEnableAddPostEvent = true → 1 ≤ e.countEventSamples

section Steps

variable {p : Params F} {b : Block F} {axis : CBuf} {k saves : ℕ} {e e' : EventData F}

omit [FloatArith F] in
/-- The windows and the register are not in the books. -/
theorem Booked.with_registers (h : Booked p e saves) (w : Windows F) (r : PreRegister F) :
    Booked p { e with toWindows := w, toPreRegister := r } saves :=
  ⟨⟨h.flags, h.countEventSamples, h.countPostEvent, h.pending, h.eventNum⟩, h.opened, h.stopped⟩

omit [FloatArith F] in
/-- Storing a sample of an open event. -/
theorem Booked.pushEvent (h : Booked p e saves) (hopen : e.Open)
    (hcount : e.countEventSamples ≠ maxLengthEvent) (x : F) :
    Booked p (SensorIoT.pushEvent e x) saves := by
  have hlt : e.countEventSamples < maxLengthEvent :=
    Nat.lt_of_le_of_ne h.countEventSamples hcount
  refine ⟨⟨h.flags, hlt, h.countPostEvent, fun hpend => ?_, h.eventNum⟩, fun _ => ?_, fun _ => ?_⟩
  · exact absurd hpend (by simp [SensorIoT.pushEvent, hopen.2.2])
  · exact Nat.succ_pos _
  · exact Nat.succ_pos _

/-- **What a sample does to the books.** -/
theorem Booked.step (h : Booked p e saves) (hs : DetectStep p b axis k e e') :
    Booked p e' saves := by
  cases hs with
  | pending | quiet => exact h
  | blockEnd => exact h.with_registers e.toWindows _
  | post hpend hpost hcount =>
    have hlt : e.countPostEvent < p.postEvent := Nat.lt_of_le_of_ne h.countPostEvent hcount
    exact ⟨⟨h.flags, h.countEventSamples, hlt, fun hp => absurd hp (by simp [hpend]), h.eventNum⟩,
      h.opened, h.stopped⟩
  | complete hpend hpost hcount =>
    have hflags := h.flags
    have hnum := h.eventNum
    simp only [hpend, hpost, Bool.toNat_true, Bool.toNat_false] at hflags hnum
    exact ⟨⟨hflags, h.countEventSamples, h.countPostEvent, fun _ => ⟨hcount, h.stopped hpost⟩,
      hnum⟩, h.opened, fun hp => absurd hp (by simp)⟩
  | trigger hidle hr hcount =>
    have hlt : e.countEventSamples < maxLengthEvent :=
      Nat.lt_of_le_of_ne h.countEventSamples hcount
    refine ⟨⟨?_, hlt, h.countPostEvent, fun hp => ?_, h.eventNum⟩, fun _ => Nat.succ_pos _,
      fun _ => Nat.succ_pos _⟩
    · simp [SensorIoT.pushEvent, openEvent, hidle.2.1, hidle.2.2]
    · exact absurd hp (by simp [SensorIoT.pushEvent, openEvent, hidle.2.2])
  | jam hidle hr hcount =>
    refine ⟨⟨?_, h.countEventSamples, h.countPostEvent, fun hp => ?_, h.eventNum⟩,
      fun hon => absurd hon (by simp [closeEvent]), fun hp => ?_⟩
    · simp [closeEvent, openEvent, hidle.2.1, hidle.2.2]
    · exact absurd hp (by simp [closeEvent, openEvent, hidle.2.2])
    · exact absurd hp (by simp [closeEvent, openEvent, hidle.2.1])
  | record hopen hr hcount => exact h.pushEvent hopen hcount _
  | full hopen hr hcount =>
    refine ⟨⟨?_, h.countEventSamples, h.countPostEvent, h.pending, h.eventNum⟩,
      fun hon => absurd hon (by simp [closeEvent]), h.stopped⟩
    simp [closeEvent, hopen.2.1, hopen.2.2]
  | accept hopen hr hlong =>
    have hnum := h.eventNum
    simp only [hopen.2.1, hopen.2.2, Bool.toNat_false, Nat.add_zero] at hnum
    refine ⟨⟨?_, h.countEventSamples, h.countPostEvent, fun hp => ?_, ?_⟩,
      fun hon => absurd hon (by simp [closeEvent]), fun _ => h.opened hopen.1⟩
    · simp [closeEvent, hopen.2.2]
    · exact absurd hp (by simp [closeEvent, hopen.2.2])
    · simp [closeEvent, hopen.2.2, hnum]
  | discard hopen hr hlong =>
    have hnum := h.eventNum
    simp only [hopen.2.1, hopen.2.2, Bool.toNat_false, Nat.add_zero] at hnum
    refine ⟨⟨?_, Nat.zero_le _, h.countPostEvent, fun hp => ?_, ?_⟩, fun hon => ?_, fun hp => ?_⟩
    · simp [discardEvent, closeEvent]
    · exact absurd hp (by simp [discardEvent])
    · simp [discardEvent, closeEvent, hnum]
    · exact absurd hon (by simp [discardEvent, closeEvent])
    · exact absurd hp (by simp [discardEvent])

theorem Booked.init : Booked p .init 0 :=
  ⟨⟨Nat.zero_le 1, Nat.zero_le _, Nat.zero_le _, fun hpend => absurd hpend Bool.false_ne_true, rfl⟩,
    fun hon => absurd hon Bool.false_ne_true, fun hpost => absurd hpost Bool.false_ne_true⟩

/-- Saving an event takes it from one side of the books to the other. -/
theorem Booked.release (h : Booked p e saves) (hpend : e.isPendingSaveEvent = true) :
    Booked p (releaseEvent p.freq p e) (saves + 1) := by
  have hflags := h.flags
  have hnum := h.eventNum
  rw [hpend, Bool.toNat_true] at hflags hnum
  have hon : e.eventOn = false := Bool.toNat_eq_zero.mp (by omega)
  have hpost : e.isEnableAddPostEvent = false := Bool.toNat_eq_zero.mp (by omega)
  refine ⟨⟨?_, Nat.zero_le _, Nat.zero_le _, fun hp => ?_, ?_⟩, fun ho => ?_, fun hp => ?_⟩
  · simp [releaseEvent, hon, hpost]
  · exact absurd hp (by simp [releaseEvent])
  · simp only [releaseEvent, Bool.toNat_false]
    omega
  · exact absurd ho (by simp [releaseEvent, hon])
  · exact absurd hp (by simp [releaseEvent, hpost])

theorem Reaches.booked (hp : p.Checked) (h : Reaches p axis e saves) : Booked p e saves := by
  induction h with
  | start => exact .init
  | fill _ w b k ih => exact ih.with_registers w _
  | detect _ w w' b k ih =>
    exact ((ih.with_registers w _).step (detectStep_detectEvent hp b axis k _)).with_registers w' _
  | save _ hpend ih => exact ih.release hpend

end Steps

/-! ## The runs of the program -/

section Run

variable {p : Params F} {axis : CBuf} {bs : ℕ → Block F} {n : ℕ}

/-- The blocks among the first `N` at whose end `createEventFile` is called for the axis. -/
def savedBlocks (p : Params F) (axis : CBuf) (bs : ℕ → Block F) (N : ℕ) : List ℕ :=
  (List.range N).filter fun i => (staLta p axis (axisRun p axis bs i) (bs i)).isPendingSaveEvent

/-- The number of events saved before sample `n`. -/
def saves (p : Params F) (axis : CBuf) (bs : ℕ → Block F) (n : ℕ) : ℕ :=
  (savedBlocks p axis bs (n / p.freq)).length

theorem savedBlocks_succ (p : Params F) (axis : CBuf) (bs : ℕ → Block F) (N : ℕ) :
    savedBlocks p axis bs (N + 1)
      = if (staLta p axis (axisRun p axis bs N) (bs N)).isPendingSaveEvent = true then
          savedBlocks p axis bs N ++ [N]
        else savedBlocks p axis bs N := by
  rw [savedBlocks, List.range_succ, List.filter_append, List.filter_singleton,
    Bool.cond_eq_ite]
  split
  · rfl
  · exact List.append_nil _

theorem Reaches.sample (hn : Reaches p axis (before p axis bs n) (saves p axis bs n)) :
    Reaches p axis (after p axis bs n) (saves p axis bs n) := by
  rw [after_eq, staLtaBody]
  split
  · exact hn.fill _ _ _
  · exact hn.detect _ _ _ _

theorem saves_succ (hf : 0 < p.freq) :
    saves p axis bs (n + 1)
      = if (n + 1) % p.freq = 0 ∧ (after p axis bs n).isPendingSaveEvent = true then
          saves p axis bs n + 1
        else saves p axis bs n := by
  have hn : n / p.freq * p.freq + n % p.freq = n := Nat.div_add_mod' n p.freq
  by_cases hend : (n + 1) % p.freq = 0
  · have hk : n % p.freq + 1 = p.freq := (BlockRun.succ_mod_eq_zero_iff hf).mp hend
    have hdiv : (n + 1) / p.freq = n / p.freq + 1 :=
      Nat.succ_div_of_mod_eq_zero hend
    have hlast : after p axis bs n
        = staLta p axis (axisRun p axis bs (n / p.freq)) (bs (n / p.freq)) := by
      rw [← after_last hf, show n / p.freq * p.freq + (p.freq - 1) = n by omega]
    rw [saves, hdiv, savedBlocks_succ, ← hlast]
    by_cases hpend : (after p axis bs n).isPendingSaveEvent = true
    · rw [if_pos hpend, if_pos ⟨hend, hpend⟩, List.length_append]
      rfl
    · rw [if_neg hpend, if_neg fun h => hpend h.2]
      rfl
  · have hdiv : (n + 1) / p.freq = n / p.freq :=
      Nat.succ_div_of_mod_ne_zero hend
    rw [saves, hdiv, if_neg fun h => hend h.1]
    rfl

/-- The states before the samples are reached, with the files written until then. -/
theorem reaches_before (hf : 0 < p.freq) (axis : CBuf) (bs : ℕ → Block F) (n : ℕ) :
    Reaches p axis (before p axis bs n) (saves p axis bs n) := by
  induction n with
  | zero =>
    rw [before_zero, saves, Nat.zero_div]
    exact .start
  | succ n ih =>
    rw [before_succ hf, saves_succ hf, afterBlock]
    by_cases hend : (n + 1) % p.freq = 0
    · by_cases hpend : (after p axis bs n).isPendingSaveEvent = true
      · rw [if_pos hend, if_pos hpend, if_pos ⟨hend, hpend⟩]
        exact ih.sample.save hpend
      · rw [if_pos hend, if_neg hpend, if_neg fun h => hpend h.2]
        exact ih.sample
    · rw [if_neg hend, if_neg fun h => hend h.1]
      exact ih.sample

/-- **The books are always right**: whatever the ratios and the samples are, and so in every state
of every run of the program. -/
theorem orderly_run (hp : p.Accepted) (axis : CBuf) :
    (∀ (e : EventData F) (saves : ℕ), Reaches p axis e saves → Orderly p e saves) ∧
      ∀ bs n, Orderly p (before p axis bs n) (saves p axis bs n) ∧
        Orderly p (after p axis bs n) (saves p axis bs n) := by
  have hreach : ∀ (e : EventData F) (saves : ℕ), Reaches p axis e saves → Orderly p e saves :=
    fun e saves h => (h.booked hp.checked).toOrderly
  have hbefore := reaches_before hp.checked.freq_pos axis
  exact ⟨hreach, fun bs n => ⟨hreach _ _ (hbefore bs n), hreach _ _ (hbefore bs n).sample⟩⟩

end Run

theorem orderly_run_step :
    Orderly (tinyParams 1 1 0) (after (tinyParams 1 1 0) (zeroBuf 15) stepBlocks 82)
      (saves (tinyParams 1 1 0) (zeroBuf 15) stepBlocks 82) :=
  ((orderly_run ⟨tinyOptions 1 1 (1 / 2), by decide +kernel⟩ (zeroBuf 15)).2 stepBlocks 82).2

end SensorIoT
