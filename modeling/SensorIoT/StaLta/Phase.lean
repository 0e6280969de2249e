import SensorIoT.StaLta.Run

/-!
# The life of an event

What the detector records, seen from the stream: at every moment an axis is in one of five phases.
It is idle; or an event is open, since some sample `t` of the stream; or the event has stopped, at
some sample `s`, and the samples after it are being collected; or all of them are, and the event
waits to be saved; or it is jammed: an event has filled its array, and the array is still full.

`PhaseStep` is the automaton of the phases.  `Represents` says which states of an axis stand for a
phase, with the positions in the stream fixing every counter and every stored sample, and
`phaseStep_of_sampleStep` that the program simulates the automaton.  What is known about a run is
then read off the phase it is in: `phase_before` and `phase_after` give it, with the samples at
which the event started and stopped (`Dated`).

The result of this file is `savedEvent_gap`: in every event that is saved one sample is missing,
the one at which it stopped.
-/

set_option autoImplicit false

namespace SensorIoT

open Register

/-! ## The automaton -/

/-- Where the life of an event has got to. -/
inductive Phase
  | idle
  /-- An event has filled its array. -/
  | jammed
  /-- An event is open, sample `t` its first. -/
  | opened (t : ℕ)
  /-- An event that started with `t` and stopped at `s`. -/
  | post (t s : ℕ)
  /-- The same, with all samples after it collected. -/
  | pending (t s : ℕ)

/-- One sample, number `n`, in the automaton.  `spill` says that the sample is one of an open event
whose array is full. -/
inductive PhaseStep (spill : Prop) (n : ℕ) : Phase → Phase → Prop
  | wait : PhaseStep spill n .idle .idle
  | start : PhaseStep spill n .idle (.opened n)
  | go (t : ℕ) : PhaseStep spill n (.opened t) (.opened t)
  | overflow (t : ℕ) (h : spill) : PhaseStep spill n (.opened t) .jammed
  | stop (t : ℕ) : PhaseStep spill n (.opened t) (.post t n)
  | drop (t : ℕ) : PhaseStep spill n (.opened t) .idle
  | collect (t s : ℕ) : PhaseStep spill n (.post t s) (.post t s)
  | complete (t s : ℕ) : PhaseStep spill n (.post t s) (.pending t s)
  | keep (t s : ℕ) : PhaseStep spill n (.pending t s) (.pending t s)
  | stuck : PhaseStep spill n .jammed .jammed

variable {F : Type}

/-- The axis is in a phase, after the first `n` samples of the stream `x`. -/
def Represents (p : Params F) (x : ℕ → F) (n : ℕ) : Phase → EventData F → Prop
  | .idle, e => e.Idle ∧ e.countEventSamples = 0 ∧ e.countPostEvent = 0
  | .jammed, e => e.Idle ∧ e.countEventSamples = maxLengthEvent ∧ e.countPostEvent = 0
  | .opened t, e => e.Open ∧ t < n ∧ e.countEventSamples = n - t ∧
      Copies x t (n - t) e.eventSamples ∧ e.countPostEvent = 0
  | .post t s, e => (e.eventOn = false ∧ e.isEnableAddPostEvent = true ∧
        e.isPendingSaveEvent = false) ∧
      t < s ∧ s < n ∧ n - (s + 1) ≤ p.postEvent ∧ e.countEventSamples = s - t ∧
      Copies x t (s - t) e.eventSamples ∧ e.countPostEvent = n - (s + 1) ∧
      Copies x (s + 1) (n - (s + 1)) e.postEvent
  | .pending t s, e => (e.eventOn = false ∧ e.isEnableAddPostEvent = false ∧
        e.isPendingSaveEvent = true) ∧
      t < s ∧ s + 1 + p.postEvent < n ∧ e.countEventSamples = s - t ∧
      Copies x t (s - t) e.eventSamples ∧
      e.countPostEvent = p.postEvent ∧ Copies x (s + 1) p.postEvent e.postEvent

/-- The windows and the register play no part in the phase. -/
theorem Represents.with_registers {p : Params F} {x : ℕ → F} {n : ℕ} {φ : Phase} {e : EventData F}
    (h : Represents p x n φ e) (w : Windows F) (r : PreRegister F) :
    Represents p x n φ { e with toWindows := w, toPreRegister := r } := by
  cases φ <;> exact h

/-! ## Which phase a state stands for -/

section Flags

variable {p : Params F} {x : ℕ → F} {n : ℕ} {φ : Phase} {e : EventData F}

theorem Represents.of_idle (h : Represents p x n φ e) (he : e.Idle) : φ = .idle ∨ φ = .jammed := by
  obtain ⟨hon, hpost, hpend⟩ := he
  cases φ with
  | idle => exact .inl rfl
  | jammed => exact .inr rfl
  | opened t => exact absurd h.1.1 (by simp [hon])
  | post t s => exact absurd h.1.2.1 (by simp [hpost])
  | pending t s => exact absurd h.1.2.2 (by simp [hpend])

theorem Represents.of_on (h : Represents p x n φ e) (he : e.eventOn = true) :
    ∃ t, φ = .opened t := by
  cases φ with
  | opened t => exact ⟨t, rfl⟩
  | _ => exact absurd h.1.1 (by simp [he])

theorem Represents.of_post (h : Represents p x n φ e) (he : e.isEnableAddPostEvent = true) :
    ∃ t s, φ = .post t s := by
  cases φ with
  | post t s => exact ⟨t, s, rfl⟩
  | _ => exact absurd h.1.2.1 (by simp [he])

theorem Represents.of_pending (h : Represents p x n φ e) (he : e.isPendingSaveEvent = true) :
    ∃ t s, φ = .pending t s := by
  cases φ with
  | pending t s => exact ⟨t, s, rfl⟩
  | _ => exact absurd h.1.2.2 (by simp [he])

end Flags

/-! ## The program simulates the automaton -/

section Simulation

variable [FloatArith F]

/-- Sample `k` of the block is one of an open event whose array is full. -/
def Overflows (p : Params F) (e : EventData F) (b : Block F) (k : ℕ) : Prop :=
  e.countTempData = p.lengthLTA ∧ e.eventOn = true ∧ e.countEventSamples = maxLengthEvent ∧
    ¬ (e.judged p b k).ratio ≤ p.thOff

variable {p : Params F} {x : ℕ → F} {n k : ℕ} {φ : Phase} {b : Block F} {axis : CBuf}
  {e e' : EventData F}

omit [FloatArith F] in
theorem Represents.pushEvent {t : ℕ} {r : F} (h : Represents p x n (.opened t) e) (hr : r = x n) :
    Represents p x (n + 1) (.opened t) (pushEvent e r) := by
  obtain ⟨hopen, ht, hcount, hcopy, hpost⟩ := h
  have hn : t + (n - t) = n := by omega
  have hsucc : n + 1 - t = n - t + 1 := by omega
  refine ⟨hopen, Nat.lt_succ_of_lt ht, ?_, ?_, hpost⟩
  · rw [hsucc, ← hcount]; rfl
  · rw [SensorIoT.pushEvent, hcount, hsucc]
    exact hcopy.push (by rw [hn, hr])

/-- What `detectEvent` does to a sample is a step of the automaton. -/
theorem phaseStep_of_detectStep (spill : Prop) (h : Represents p x n φ e)
    (hs : DetectStep p b axis k e e') (hx : b.samples k = x n)
    (hover : e.eventOn = true → ¬ e.ratio ≤ p.thOff →
      e.countEventSamples = maxLengthEvent → spill) :
    ∃ φ', PhaseStep spill n φ φ' ∧ Represents p x (n + 1) φ' e' := by
  cases hs with
  | pending hpend =>
    obtain ⟨t, s, rfl⟩ := h.of_pending hpend
    obtain ⟨hflags, hts, hs, hrest⟩ := h
    exact ⟨_, .keep t s, hflags, hts, Nat.lt_succ_of_lt hs, hrest⟩
  | post hpend hpost hcount =>
    obtain ⟨t, s, rfl⟩ := h.of_post hpost
    obtain ⟨hflags, hts, hs, hle, hev, hevs, hposts, hcopy⟩ := h
    rw [hposts] at hcount
    have hn : s + 1 + (n - (s + 1)) = n := by omega
    have hsucc : n + 1 - (s + 1) = n - (s + 1) + 1 := by omega
    refine ⟨_, .collect t s, hflags, hts, Nat.lt_succ_of_lt hs, by omega, hev, hevs, ?_, ?_⟩
    · rw [hsucc, ← hposts]
    · rw [hsucc, hposts]
      exact hcopy.push (by rw [hn, hx])
  | complete hpend hpost hcount =>
    obtain ⟨t, s, rfl⟩ := h.of_post hpost
    obtain ⟨⟨hon, -, -⟩, hts, hs, -, hev, hevs, hposts, hcopy⟩ := h
    rw [hposts] at hcount
    exact ⟨_, .complete t s, ⟨hon, rfl, rfl⟩, hts, by omega, hev, hevs, hposts.trans hcount,
      hcount ▸ hcopy⟩
  | quiet hidle hr hk =>
    rcases h.of_idle hidle with rfl | rfl
    · exact ⟨_, .wait, h⟩
    · exact ⟨_, .stuck, h⟩
  | blockEnd hidle hr hk =>
    rcases h.of_idle hidle with rfl | rfl
    · exact ⟨_, .wait, h⟩
    · exact ⟨_, .stuck, h⟩
  | trigger hidle hr hcount =>
    rcases h.of_idle hidle with rfl | rfl
    · obtain ⟨-, hev, hpost⟩ := h
      refine ⟨_, .start, ⟨rfl, hidle.2⟩, Nat.lt_succ_self n, ?_, ?_, hpost⟩
      · rw [Nat.add_sub_cancel_left, ← Nat.zero_add 1, ← hev]; rfl
      · rw [Nat.add_sub_cancel_left, SensorIoT.pushEvent, openEvent, hev]
        exact (copies_zero x n e.eventSamples).push hx
    · exact absurd h.2.1 hcount
  | jam hidle hr hcount =>
    rcases h.of_idle hidle with rfl | rfl
    · exact absurd (h.2.1.symm.trans hcount) (by decide)
    · exact ⟨_, .stuck, ⟨rfl, hidle.2⟩, h.2⟩
  | record hopen hr hcount =>
    obtain ⟨t, rfl⟩ := h.of_on hopen.1
    exact ⟨_, .go t, h.pushEvent hx⟩
  | full hopen hr hcount =>
    obtain ⟨t, rfl⟩ := h.of_on hopen.1
    exact ⟨_, .overflow t (hover hopen.1 hr hcount), ⟨rfl, hopen.2⟩, hcount, h.2.2.2.2⟩
  | accept hopen hr hlong =>
    obtain ⟨t, rfl⟩ := h.of_on hopen.1
    obtain ⟨-, ht, hev, hcopy, hpost⟩ := h
    refine ⟨_, .stop t, ⟨rfl, rfl, hopen.2.2⟩, ht, Nat.lt_succ_self n, ?_, hev, hcopy, ?_, ?_⟩
    · rw [Nat.sub_self]; exact Nat.zero_le _
    · rw [Nat.sub_self]; exact hpost
    · rw [Nat.sub_self]; exact copies_zero _ _ _
  | discard hopen hr hlong =>
    obtain ⟨t, rfl⟩ := h.of_on hopen.1
    exact ⟨_, .drop t, ⟨rfl, rfl, rfl⟩, rfl, h.2.2.2.2⟩

/-- **The program simulates the automaton**, one sample at a time.  While `tempData` is filling up
the automaton is idle. -/
theorem phaseStep_of_sampleStep (h : Represents p x n φ e) (hs : SampleStep p b axis k e e')
    (hx : b.samples k = x n) (hfill : e.countTempData ≠ p.lengthLTA → φ = .idle) :
    ∃ φ', PhaseStep (Overflows p e b k) n φ φ' ∧ Represents p x (n + 1) φ' e' ∧
      (e'.countTempData ≠ p.lengthLTA → φ' = .idle) := by
  cases hs with
  | fill hcount w =>
    obtain rfl := hfill hcount
    exact ⟨.idle, .wait, h, fun _ => rfl⟩
  | detect hcount hstep w hw =>
    obtain ⟨φ', hφ, h'⟩ := phaseStep_of_detectStep (Overflows p e b k)
      (h.with_registers _ e.toPreRegister) hstep hx
      fun hon hr hmax => ⟨hcount, hon, hmax, hr⟩
    exact ⟨φ', hφ, h'.with_registers w _, fun hne => absurd hw hne⟩

/-- The phase after an event that is complete has been saved. -/
def Phase.release : Phase → Phase
  | .pending _ _ => .idle
  | φ => φ

theorem Represents.afterBlock (h : Represents p x n φ e) :
    Represents p x n φ.release (afterBlock p e) := by
  rw [SensorIoT.afterBlock]
  split
  · obtain ⟨t, s, rfl⟩ := h.of_pending ‹_›
    exact ⟨⟨h.1.1, h.1.2.1, rfl⟩, rfl, rfl⟩
  · cases φ with
    | pending t s => exact absurd h.1.2.2 ‹_›
    | _ => exact h

end Simulation

/-! ## Dates -/

section Run

variable [FloatArith F]

/-- Sample `n` starts an event. -/
def Starts (p : Params F) (axis : CBuf) (bs : ℕ → Block F) (n : ℕ) : Prop :=
  (before p axis bs n).eventOn = false ∧ (after p axis bs n).eventOn = true

instance (p : Params F) (axis : CBuf) (bs : ℕ → Block F) : DecidablePred (Starts p axis bs) :=
  fun _ => inferInstanceAs (Decidable (_ ∧ _))

/-- The event stops at sample `n`. -/
def Stops (p : Params F) (axis : CBuf) (bs : ℕ → Block F) (n : ℕ) : Prop :=
  (before p axis bs n).eventOn = true ∧ (after p axis bs n).eventOn = false

instance (p : Params F) (axis : CBuf) (bs : ℕ → Block F) : DecidablePred (Stops p axis bs) :=
  fun _ => inferInstanceAs (Decidable (_ ∧ _))

/-- Sample `n` is stored as one after the event. -/
def AddsPost (p : Params F) (axis : CBuf) (bs : ℕ → Block F) (n : ℕ) : Prop :=
  (before p axis bs n).countPostEvent < (after p axis bs n).countPostEvent

/-- Sample `n` is one of an open event whose array is full. -/
def OverflowsAt (p : Params F) (axis : CBuf) (bs : ℕ → Block F) (n : ℕ) : Prop :=
  Overflows p (before p axis bs n) (bs (n / p.freq)) (n % p.freq)

/-- The positions in a phase are those at which the run did what the phase says. -/
def Dated (p : Params F) (axis : CBuf) (bs : ℕ → Block F) (n : ℕ) : Phase → Prop
  | .idle => True
  | .jammed => ∃ m < n, OverflowsAt p axis bs m
  | .opened t => IsLast (Starts p axis bs) n t
  | .post t s => IsLast (Starts p axis bs) n t ∧ IsLast (Stops p axis bs) n s ∧
      (s + 1 < n → IsLast (AddsPost p axis bs) n (n - 1))
  | .pending t s => IsLast (Starts p axis bs) n t ∧ IsLast (Stops p axis bs) n s ∧
      IsLast (AddsPost p axis bs) n (s + p.postEvent)

variable {p : Params F} {axis : CBuf} {bs : ℕ → Block F} {n : ℕ}

theorem Dated.step {φ φ' : Phase} (hpost : 0 < p.postEvent)
    (hd : Dated p axis bs n φ) (hstep : PhaseStep (OverflowsAt p axis bs n) n φ φ')
    (h : Represents p (stream p bs) n φ (before p axis bs n))
    (h' : Represents p (stream p bs) (n + 1) φ' (after p axis bs n)) :
    Dated p axis bs (n + 1) φ' := by
  cases hstep with
  | wait => trivial
  | drop t => trivial
  | start => exact isLast_self ⟨h.1.1, h'.1.1⟩
  | go t => exact IsLast.succ hd fun hn => absurd h.1.1 (by simp [hn.1])
  | overflow t hover => exact ⟨n, Nat.lt_succ_self n, hover⟩
  | stuck =>
    obtain ⟨m, hm, hover⟩ := hd
    exact ⟨m, Nat.lt_succ_of_lt hm, hover⟩
  | stop t =>
    refine ⟨IsLast.succ hd fun hn => absurd h.1.1 (by simp [hn.1]), isLast_self ⟨h.1.1, h'.1.1⟩,
      fun hlt => absurd hlt (by omega)⟩
  | collect t s =>
    obtain ⟨ht, hs, -⟩ := hd
    have hadds : AddsPost p axis bs n := by
      obtain ⟨-, -, hsn, -, -, -, hcount, -⟩ := h
      obtain ⟨-, -, -, -, -, -, hcount', -⟩ := h'
      rw [AddsPost, hcount, hcount']
      omega
    refine ⟨ht.succ fun hn => absurd h'.1.1 (by simp [hn.2]),
      hs.succ fun hn => absurd h.1.1 (by simp [hn.1]), fun _ => isLast_self hadds⟩
  | complete t s =>
    obtain ⟨ht, hs, hadd⟩ := hd
    obtain ⟨hflags, -, hsn, hle, -, -, hcount, -⟩ := h
    obtain ⟨hflags', -, hsn', -, -, hcount', -⟩ := h'
    have hnot : ¬ AddsPost p axis bs n := by
      rw [AddsPost, hcount, hcount']
      omega
    have hlast := (hadd (by omega)).succ hnot
    rw [show n - 1 = s + p.postEvent by omega] at hlast
    exact ⟨ht.succ fun hn => absurd hflags'.1 (by simp [hn.2]),
      hs.succ fun hn => absurd hflags.1 (by simp [hn.1]), hlast⟩
  | keep t s =>
    obtain ⟨ht, hs, hadd⟩ := hd
    obtain ⟨hflags, -, -, -, -, hcount, -⟩ := h
    obtain ⟨hflags', -, -, -, -, hcount', -⟩ := h'
    refine ⟨ht.succ fun hn => absurd hflags'.1 (by simp [hn.2]),
      hs.succ fun hn => absurd hflags.1 (by simp [hn.1]), hadd.succ ?_⟩
    rw [AddsPost, hcount, hcount']
    exact Nat.lt_irrefl _

/-- The axis is in a phase, and the positions in it are right. -/
structure InPhase (p : Params F) (axis : CBuf) (bs : ℕ → Block F) (n : ℕ) (φ : Phase)
    (e : EventData F) : Prop where
  represents : Represents p (stream p bs) n φ e
  dated : Dated p axis bs n φ
  filling : e.countTempData ≠ p.lengthLTA → φ = .idle

theorem InPhase.step {φ : Phase} (hp : p.Checked) (h : InPhase p axis bs n φ (before p axis bs n)) :
    ∃ φ', PhaseStep (OverflowsAt p axis bs n) n φ φ' ∧
      InPhase p axis bs (n + 1) φ' (after p axis bs n) := by
  obtain ⟨φ', hstep, hrep, hfill⟩ :=
    phaseStep_of_sampleStep h.represents (sampleStep hp axis bs n) rfl h.filling
  exact ⟨φ', hstep, hrep, h.dated.step hp.post_pos hstep h.represents hrep, hfill⟩

theorem InPhase.afterBlock {φ : Phase} {e : EventData F} (h : InPhase p axis bs n φ e) :
    InPhase p axis bs n φ.release (afterBlock p e) := by
  refine ⟨h.represents.afterBlock, ?_, fun hne => ?_⟩
  · cases φ with
    | pending t s => trivial
    | _ => exact h.dated
  · rw [afterBlock_toWindows] at hne
    rw [h.filling hne]
    rfl

/-- **The phases of a run from sample `m` on.**  `I` is what is known of the phase before a sample
and `J` of the phase after it. -/
theorem phase_from {I J : ℕ → Phase → Prop} {m : ℕ} {φ₀ : Phase} (hp : p.Checked)
    (h₀ : InPhase p axis bs m φ₀ (before p axis bs m)) (hI : I m φ₀)
    (step : ∀ n φ φ', m ≤ n → InPhase p axis bs n φ (before p axis bs n) → I n φ →
      PhaseStep (OverflowsAt p axis bs n) n φ φ' →
      InPhase p axis bs (n + 1) φ' (after p axis bs n) → J n φ')
    (next : ∀ n φ, J n φ → (n + 1) % p.freq ≠ 0 → I (n + 1) φ)
    (last : ∀ n φ, J n φ → (n + 1) % p.freq = 0 → I (n + 1) φ.release) :
    ∀ n, m ≤ n → (∃ φ, InPhase p axis bs n φ (before p axis bs n) ∧ I n φ) ∧
      ∃ φ, InPhase p axis bs (n + 1) φ (after p axis bs n) ∧ J n φ := by
  have hafter : ∀ n, m ≤ n → (∃ φ, InPhase p axis bs n φ (before p axis bs n) ∧ I n φ) →
      ∃ φ, InPhase p axis bs (n + 1) φ (after p axis bs n) ∧ J n φ := by
    rintro n hn ⟨φ, h, hφ⟩
    obtain ⟨φ', hstep, h'⟩ := h.step hp
    exact ⟨φ', h', step n φ φ' hn h hφ hstep h'⟩
  intro n hn
  induction n, hn using Nat.le_induction with
  | base => exact ⟨⟨φ₀, h₀, hI⟩, hafter m (Nat.le_refl m) ⟨φ₀, h₀, hI⟩⟩
  | succ n hn ih =>
    obtain ⟨φ, h, hJ⟩ := ih.2
    have hbefore : ∃ φ, InPhase p axis bs (n + 1) φ (before p axis bs (n + 1)) ∧ I (n + 1) φ := by
      rw [before_succ hp.freq_pos]
      by_cases hend : (n + 1) % p.freq = 0
      · rw [if_pos hend]
        exact ⟨φ.release, h.afterBlock, last n φ hJ hend⟩
      · rw [if_neg hend]
        exact ⟨φ, h, next n φ hJ hend⟩
    exact ⟨hbefore, hafter (n + 1) (Nat.le_succ_of_le hn) hbefore⟩

theorem inPhase_zero : InPhase p axis bs 0 .idle (before p axis bs 0) := by
  rw [before_zero]
  exact ⟨⟨⟨rfl, rfl, rfl⟩, rfl, rfl⟩, trivial, fun _ => rfl⟩

/-- **Around every sample an axis is in some phase.** -/
theorem phase_before (hp : p.Checked) (axis : CBuf) (bs : ℕ → Block F) (n : ℕ) :
    ∃ φ, InPhase p axis bs n φ (before p axis bs n) := by
  obtain ⟨⟨φ, h, -⟩, -⟩ := phase_from (I := fun _ _ => True) (J := fun _ _ => True) hp inPhase_zero
    trivial (fun _ _ _ _ _ _ _ _ => trivial) (fun _ _ _ _ => trivial) (fun _ _ _ _ => trivial) n
    (Nat.zero_le n)
  exact ⟨φ, h⟩

theorem phase_after (hp : p.Checked) (axis : CBuf) (bs : ℕ → Block F) (n : ℕ) :
    ∃ φ, InPhase p axis bs (n + 1) φ (after p axis bs n) := by
  obtain ⟨φ, h⟩ := phase_before hp axis bs n
  obtain ⟨φ', -, h'⟩ := h.step hp
  exact ⟨φ', h'⟩

/-- No array is filled before there are samples to fill it with. -/
theorem le_of_overflowsAt (hp : p.Checked) (h : OverflowsAt p axis bs n) : maxLengthEvent ≤ n := by
  obtain ⟨φ, hφ⟩ := phase_before hp axis bs n
  obtain ⟨t, rfl⟩ := hφ.represents.of_on h.2.1
  obtain ⟨-, -, hcount, -⟩ := hφ.represents
  rw [← h.2.2.1, hcount]
  exact Nat.sub_le n t

/-! ## What is saved of an event -/

omit [FloatArith F] in
/-- The samples of an event and those after it, as `createEventFile` writes them. -/
def EventData.recorded (e : EventData F) : List F :=
  (List.range e.countEventSamples).map e.eventSamples
    ++ (List.range e.countPostEvent).map e.postEvent

/-- What is recorded after sample `n` is the run of the stream from the sample that started the
event to the last one stored after it. -/
def SavedWhole (p : Params F) (axis : CBuf) (bs : ℕ → Block F) (n : ℕ) : Prop :=
  ∀ t e, IsLast (Starts p axis bs) (n + 1) t → IsLast (AddsPost p axis bs) (n + 1) e →
    (after p axis bs n).recorded = slice (stream p bs) t (e + 1)

/-- What is recorded of an event that started with `t` and stopped at `s`: all samples but
`s`. -/
structure GapAt (p : Params F) (axis : CBuf) (bs : ℕ → Block F) (n t s : ℕ) : Prop where
  lt : t < s
  starts : IsLast (Starts p axis bs) (n + 1) t
  stops : IsLast (Stops p axis bs) (n + 1) s
  addsPost : IsLast (AddsPost p axis bs) (n + 1) (s + p.postEvent)
  recorded : (after p axis bs n).recorded
    = slice (stream p bs) t s ++ slice (stream p bs) (s + 1) (s + p.postEvent + 1)

theorem GapAt.not_savedWhole {t s : ℕ} (h : GapAt p axis bs n t s) :
    ¬ SavedWhole p axis bs n := by
  intro hwhole
  have hlen := congrArg List.length
    (h.recorded.symm.trans (hwhole t (s + p.postEvent) h.starts h.addsPost))
  simp only [List.length_append, length_slice] at hlen
  have := h.lt
  omega

theorem gapAt_of_pending (hp : p.Checked) (hpend : (after p axis bs n).isPendingSaveEvent = true) :
    ∃ t s, GapAt p axis bs n t s := by
  obtain ⟨φ, h⟩ := phase_after hp axis bs n
  obtain ⟨t, s, rfl⟩ := h.represents.of_pending hpend
  obtain ⟨-, hts, hs, hev, hevs, hpost, hposts⟩ := h.represents
  obtain ⟨hstarts, hstops, hadds⟩ := h.dated
  refine ⟨t, s, hts, hstarts, hstops, hadds, ?_⟩
  rw [EventData.recorded, hev, hpost, hevs.map_range (b := s) (by omega),
    hposts.map_range (b := s + p.postEvent + 1) (by omega)]

/-- **Every event that is saved lacks the sample at which it stopped.** -/
theorem savedEvent_gap (hp : p.Accepted) (axis : CBuf) (bs : ℕ → Block F) (n : ℕ)
    (hpend : (after p axis bs n).isPendingSaveEvent = true) :
    (∃ t s, GapAt p axis bs n t s) ∧ ¬ SavedWhole p axis bs n := by
  obtain ⟨t, s, h⟩ := gapAt_of_pending hp.checked hpend
  exact ⟨⟨t, s, h⟩, h.not_savedWhole⟩

end Run

/-- A signal that is steady until sample 41, and zero from then on. -/
def stepBlocks (N : ℕ) : Block ℚ := .plain fun i => if N * 40 + i < 41 then 1 else 0

/-- In a run on `stepBlocks` the event of sample 40 stops at sample 41 and is complete with sample
82; sample 41 is nowhere. -/
theorem not_savedWhole_step :
    (tinyParams 1 1 0).Accepted ∧ (tinyParams 1 1 0).Fits ∧
      (after (tinyParams 1 1 0) (zeroBuf 15) stepBlocks 82).isPendingSaveEvent = true ∧
      ¬ SavedWhole (tinyParams 1 1 0) (zeroBuf 15) stepBlocks 82 := by
  have hp : (tinyParams 1 1 0).Accepted := ⟨tinyOptions 1 1 (1 / 2), by decide +kernel⟩
  have hpend : (after (tinyParams 1 1 0) (zeroBuf 15) stepBlocks 82).isPendingSaveEvent = true := by
    decide +kernel
  obtain ⟨t, s, h⟩ := gapAt_of_pending hp.checked hpend
  exact ⟨hp, tinyParams_fits (by decide) (by decide) (by decide), hpend, h.not_savedWhole⟩

theorem savedEvent_gap_step :
    (∃ t s, GapAt (tinyParams 1 1 0) (zeroBuf 15) stepBlocks 82 t s) ∧
      ¬ SavedWhole (tinyParams 1 1 0) (zeroBuf 15) stepBlocks 82 :=
  savedEvent_gap ⟨tinyOptions 1 1 (1 / 2), by decide +kernel⟩ (zeroBuf 15) stepBlocks 82
    (by decide +kernel)

end SensorIoT
