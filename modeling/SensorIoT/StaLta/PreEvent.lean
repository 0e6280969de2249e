import SensorIoT.StaLta.Run

/-!
# The register of samples from before an event

`addSamplesPreEvent` first fills the register and then moves it on.  It notices that the register
is full by the counter being *equal* to `preEvent`, and it looks before it adds, not while.  As
long as whole blocks are added that is enough, since `preEvent` is a number of blocks; and while no
event has started only whole blocks are added.  An event that starts while the register is still
filling up adds what there is of its block, and the counter may then go past `preEvent` and never
come back.

`preEvent_inBounds` says that this is the only way: as long as no event starts on a register that
is not full, the counter stays within `preEvent`.
-/

set_option autoImplicit false

namespace SensorIoT

open Register

variable {F : Type} [FloatArith F] {p : Params F} {axis : CBuf} {bs : ℕ → Block F} {n : ℕ}

/-! ## The counter -/

/-- The cells from `preEvent` on are as they were at program start. -/
def PreRegister.Outside (p : Params F) (r : PreRegister F) : Prop :=
  ∀ i, p.preEvent ≤ i → r.preEvent i = 0

/-- The register is full. -/
structure PreRegister.Full (p : Params F) (r : PreRegister F) : Prop where
  count : r.countPreEvent = p.preEvent
  outside : r.Outside p

/-- The register is not full, and so far whole blocks were added. -/
structure PreRegister.Filling (p : Params F) (r : PreRegister F) : Prop where
  dvd : p.freq ∣ r.countPreEvent
  lt : r.countPreEvent < p.preEvent
  outside : r.Outside p

/-- A register that is full stays so, whatever is added. -/
theorem PreRegister.Full.add {r : PreRegister F} (h : r.Full p) (samples : ℕ → F) (k start : ℕ) :
    (addSamplesPreEvent p r samples k start).Full p := by
  rw [addSamplesPreEvent_full h.count]
  exact ⟨h.count, fun i hi => (shiftIn_of_le hi).trans (h.outside i hi)⟩

/-- A block added to a register that is filling up fits in. -/
theorem PreRegister.Filling.add {r : PreRegister F} (h : r.Filling p) (hp : p.Checked)
    (samples : ℕ → F) :
    (addSamplesPreEvent p r samples p.freq 0).Full p ∨
      (addSamplesPreEvent p r samples p.freq 0).Filling p := by
  have hle : r.countPreEvent + p.freq ≤ p.preEvent := by
    obtain ⟨c, hc⟩ := h.dvd
    obtain ⟨q, hq⟩ := hp.dvd_pre
    have hcq : c < q := by
      have := h.lt
      rw [hc, hq] at this
      exact Nat.lt_of_mul_lt_mul_left this
    calc r.countPreEvent + p.freq = p.freq * (c + 1) := by rw [hc, Nat.mul_succ]
      _ ≤ p.preEvent := by rw [hq]; exact Nat.mul_le_mul_left _ hcq
  rw [addSamplesPreEvent_filling (Nat.ne_of_lt h.lt)]
  have hout : ∀ i, p.preEvent ≤ i →
      (if r.countPreEvent ≤ i ∧ i < r.countPreEvent + p.freq then samples (i - r.countPreEvent)
        else r.preEvent i) = 0 := by
    intro i hi
    rw [if_neg (by omega), h.outside i hi]
  rcases Nat.lt_or_eq_of_le hle with hlt | heq
  · exact .inr ⟨(Nat.dvd_add_right h.dvd).mpr (Nat.dvd_refl _), hlt, hout⟩
  · exact .inl ⟨heq, hout⟩

/-- The register of an axis: it is full, or it is filling up and nothing has happened yet. -/
def RegisterInv (p : Params F) (e : EventData F) : Prop :=
  e.toPreRegister.Full p ∨ (e.toPreRegister.Filling p ∧ e.Idle)

/-- Discarding an event leaves a full register full. -/
theorem full_discardEvent {e : EventData F} (h : e.toPreRegister.Full p) :
    (discardEvent p e).toPreRegister.Full p := by
  rw [discardEvent]
  split
  · exact h.add _ _ _
  · exact h.add _ _ _

theorem full_saveRegister {e : EventData F} (h : e.toPreRegister.Full p) :
    (saveRegister p.freq p e).Full p := by
  rw [saveRegister]
  split
  · exact (h.add _ _ _).add _ _ _
  · split
    · exact ((h.add _ _ _).add _ _ _).add _ _ _
    · exact ((h.add _ _ _).add _ _ _).add _ _ _

/-- A step from a full register. -/
theorem DetectStep.full_register {b : Block F} {k : ℕ} {e e' : EventData F}
    (hs : DetectStep p b axis k e e') (h : e.toPreRegister.Full p) : e'.toPreRegister.Full p := by
  cases hs with
  | blockEnd => exact h.add _ _ _
  | trigger => exact h.add _ _ _
  | jam => exact h.add _ _ _
  | discard => exact full_discardEvent h
  | _ => exact h

theorem PreRegister.Full.step {b : Block F} {k : ℕ} {e e' : EventData F}
    (h : e.toPreRegister.Full p) (hs : SampleStep p b axis k e e') : e'.toPreRegister.Full p := by
  cases hs with
  | fill hcount w =>
    simp only
    split
    · exact h.add _ _ _
    · exact h
  | detect _ hstep => exact hstep.full_register h

theorem PreRegister.Full.afterBlock {e : EventData F} (h : e.toPreRegister.Full p) :
    (afterBlock p e).toPreRegister.Full p := by
  rw [SensorIoT.afterBlock]
  split
  · exact full_saveRegister h
  · exact h

/-- Sample `n` starts an event, or would if there were room for it. -/
def TriggersAt (p : Params F) (axis : CBuf) (bs : ℕ → Block F) (n : ℕ) : Prop :=
  (before p axis bs n).countTempData = p.lengthLTA ∧ (before p axis bs n).Idle ∧
    p.thOn ≤ ((before p axis bs n).judged p (bs (n / p.freq)) (n % p.freq)).ratio

/-- If sample `n` starts an event, it finds the register full. -/
def FilledAt (p : Params F) (axis : CBuf) (bs : ℕ → Block F) (n : ℕ) : Prop :=
  TriggersAt p axis bs n → (before p axis bs n).countPreEvent = p.preEvent

theorem RegisterInv.step {b : Block F} {k : ℕ} {e e' : EventData F} (hp : p.Checked)
    (h : RegisterInv p e) (hs : SampleStep p b axis k e e')
    (hfilled : e.countTempData = p.lengthLTA → e.Idle → p.thOn ≤ (e.judged p b k).ratio →
      e.countPreEvent = p.preEvent) : RegisterInv p e' := by
  rcases h with hfull | ⟨hfilling, hidle⟩
  · exact .inl (hfull.step hs)
  · cases hs with
    | fill hcount w =>
      by_cases hk : k = p.freq - 1
      · rcases hfilling.add hp b.samples with h' | h'
        · left; simp only [if_pos hk]; exact h'
        · right; simp only [if_pos hk]; exact ⟨h', hidle⟩
      · right; simp only [if_neg hk]; exact ⟨hfilling, hidle⟩
    | detect hcount hstep w hw =>
      have hnot : ¬ p.thOn ≤ (e.judged p b k).ratio :=
        fun hr => absurd (hfilled hcount hidle hr) (Nat.ne_of_lt hfilling.lt)
      cases hstep with
      | quiet => exact .inr ⟨hfilling, hidle⟩
      | blockEnd => exact (hfilling.add hp b.samples).imp id fun h' => ⟨h', hidle⟩
      | trigger _ hr => exact absurd hr hnot
      | jam _ hr => exact absurd hr hnot
      | pending hpend => exact absurd hpend (by simp [EventData.judged, hidle.2.2])
      | post _ hpost => exact absurd hpost (by simp [EventData.judged, hidle.2.1])
      | complete _ hpost => exact absurd hpost (by simp [EventData.judged, hidle.2.1])
      | record hopen => exact absurd hopen.1 (by simp [EventData.judged, hidle.1])
      | full hopen => exact absurd hopen.1 (by simp [EventData.judged, hidle.1])
      | accept hopen => exact absurd hopen.1 (by simp [EventData.judged, hidle.1])
      | discard hopen => exact absurd hopen.1 (by simp [EventData.judged, hidle.1])

theorem RegisterInv.afterBlock {e : EventData F} (h : RegisterInv p e) :
    RegisterInv p (afterBlock p e) := by
  rcases h with hfull | ⟨hfilling, hidle⟩
  · exact .inl hfull.afterBlock
  · rw [SensorIoT.afterBlock, if_neg (Bool.eq_false_iff.mp hidle.2.2)]
    exact .inr ⟨hfilling, hidle⟩

theorem registerInv_init (hp : p.Checked) : RegisterInv p (EventData.init : EventData F) :=
  .inr ⟨⟨Nat.dvd_zero _, hp.pre_pos, fun _ _ => rfl⟩, rfl, rfl, rfl⟩

/-- The register stays sound until an event starts on one that is not full. -/
theorem registerInv_before (hp : p.Checked) (axis : CBuf) (bs : ℕ → Block F) (n : ℕ)
    (h : ∀ m < n, FilledAt p axis bs m) : RegisterInv p (before p axis bs n) := by
  refine BlockRun.sample_induction (P := fun _ e => RegisterInv p e)
    (Q := fun _ e => RegisterInv p e) hp.freq_pos (registerInv_init hp) ?_ ?_ ?_ n (Nat.le_refl n)
  · intro m hm hinv
    exact hinv.step hp (sampleStep hp axis bs m) fun hfull hidle hr => h m hm ⟨hfull, hidle, hr⟩
  · exact fun _ _ hinv _ => hinv
  · exact fun _ _ hinv _ => hinv.afterBlock

theorem registerInv_after (hp : p.Checked) (axis : CBuf) (bs : ℕ → Block F) (n : ℕ)
    (h : ∀ m ≤ n, FilledAt p axis bs m) : RegisterInv p (after p axis bs n) :=
  (registerInv_before hp axis bs n fun m hm => h m (Nat.le_of_lt hm)).step hp
    (sampleStep hp axis bs n) fun hfull hidle hr => h n (Nat.le_refl n) ⟨hfull, hidle, hr⟩

/-- The register is within its array: the counter is, and no cell behind `preEvent` was written. -/
structure InBounds (p : Params F) (e : EventData F) : Prop where
  count_le : e.countPreEvent ≤ p.preEvent
  le_max : p.preEvent ≤ maxLengthEvent
  outside : e.toPreRegister.Outside p

theorem RegisterInv.inBounds {e : EventData F} (hfit : p.Fits) (h : RegisterInv p e) :
    InBounds p e := by
  rcases h with hfull | ⟨hfilling, -⟩
  · exact ⟨Nat.le_of_eq hfull.count, hfit.pre_le, hfull.outside⟩
  · exact ⟨Nat.le_of_lt hfilling.lt, hfit.pre_le, hfilling.outside⟩

/-- **The register stays within its array** in every run in which every event starts on a full
register. -/
theorem preEvent_inBounds (hp : p.Accepted) (hfit : p.Fits) (axis : CBuf) (bs : ℕ → Block F)
    (n : ℕ) (h : ∀ m ≤ n, FilledAt p axis bs m) :
    InBounds p (before p axis bs n) ∧ InBounds p (after p axis bs n) :=
  ⟨(registerInv_before hp.checked axis bs n fun m hm => h m (Nat.le_of_lt hm)).inBounds hfit,
    (registerInv_after hp.checked axis bs n h).inBounds hfit⟩

/-- A signal that is zero from sample 40 on but for sample 41, and larger on sample 39. -/
def spikeBlocks (N : ℕ) : Block ℚ :=
  .plain fun i => if N = 0 then (if i = 39 then 3 / 2 else 1) else if N = 1 ∧ i = 1 then 1 else 0

/-- With a register of two seconds and a long window of one, the event of sample 41 is discarded on
sample 42, and the block takes the register to 82 samples of 80. -/
theorem not_inBounds_spike :
    (tinyParams 1 2 2).Accepted ∧ (tinyParams 1 2 2).Fits ∧
      (after (tinyParams 1 2 2) (zeroBuf 15) spikeBlocks 79).countPreEvent = 82 ∧
      ¬ InBounds (tinyParams 1 2 2) (after (tinyParams 1 2 2) (zeroBuf 15) spikeBlocks 79) := by
  have hcount : (after (tinyParams 1 2 2) (zeroBuf 15) spikeBlocks 79).countPreEvent = 82 := by
    decide +kernel
  refine ⟨⟨tinyOptions 1 2 2, by decide +kernel⟩,
    tinyParams_fits (by decide) (by decide) (by decide), hcount, fun h => ?_⟩
  exact absurd (hcount ▸ h.count_le) (by decide)

/-- A register of one second is full when that event starts. -/
theorem preEvent_inBounds_spike :
    InBounds (tinyParams 1 1 2) (before (tinyParams 1 1 2) (zeroBuf 15) spikeBlocks 43) ∧
      InBounds (tinyParams 1 1 2) (after (tinyParams 1 1 2) (zeroBuf 15) spikeBlocks 43) := by
  refine preEvent_inBounds ⟨tinyOptions 1 1 2, by decide +kernel⟩
    (tinyParams_fits (by decide) (by decide) (by decide)) (zeroBuf 15) spikeBlocks 43 ?_
  unfold FilledAt TriggersAt
  decide +kernel

end SensorIoT
