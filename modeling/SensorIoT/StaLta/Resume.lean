import SensorIoT.StaLta.Phase
import SensorIoT.StaLta.Windows

/-!
# The register after an event is saved

`createEventFile` leaves the axis ready for the next event: the register of samples from before an
event is to hold the last samples again, those of the block just processed included.  It takes the
samples after the event and, from `tempData`, the rest of the block.  How many these are it
computes as `countEventSamples % SPS`, which is not their number: that depends on where in its
block the event stops.  And where the register is longer than what comes after an event, it also
takes samples of the event, and between the two the sample at which the event stopped is missing.

`register_resumes_iff` says when all is well.
-/

set_option autoImplicit false

namespace SensorIoT

open Register

variable {F : Type} [FloatArith F] {p : Params F} {axis : CBuf} {bs : ℕ → Block F} {n t s : ℕ}

/-! ## When the event is complete -/

omit [FloatArith F] in
/-- If an event waits to be saved, it was complete in the block of sample `n`. -/
def CompleteInBlock (p : Params F) (n : ℕ) : Phase → Prop
  | .pending _ s => n / p.freq * p.freq ≤ s + 1 + p.postEvent
  | _ => True

theorem completeInBlock_step {φ φ' : Phase} {spill : Prop}
    (h : InPhase p axis bs n φ (before p axis bs n)) (hφ : CompleteInBlock p n φ)
    (hstep : PhaseStep spill n φ φ') (h' : InPhase p axis bs (n + 1) φ' (after p axis bs n)) :
    CompleteInBlock p n φ' := by
  cases hstep with
  | complete t s =>
    -- the samples after the event are `n - (s + 1)`, at most and at least `postEvent`
    obtain ⟨-, -, hs, hle, -⟩ := h.represents
    obtain ⟨-, -, hlt, -⟩ := h'.represents
    have hn : s + 1 + p.postEvent = n := by omega
    rw [CompleteInBlock, hn]
    exact Nat.div_mul_le_self n p.freq
  | keep t s => exact hφ
  | _ => trivial

theorem pending_block (hp : p.Checked) (axis : CBuf) (bs : ℕ → Block F) (n : ℕ)
    (hpend : (after p axis bs n).isPendingSaveEvent = true) :
    ∃ t s, InPhase p axis bs (n + 1) (.pending t s) (after p axis bs n) ∧
      n / p.freq * p.freq ≤ s + 1 + p.postEvent := by
  have next : ∀ n φ, CompleteInBlock p n φ → (n + 1) % p.freq ≠ 0 →
      CompleteInBlock p (n + 1) φ := by
    intro n φ hφ hend
    cases φ with
    | pending t s =>
      rw [CompleteInBlock, BlockRun.succ_start hp.freq_pos, if_neg hend]
      exact hφ
    | _ => trivial
  have last : ∀ n φ, CompleteInBlock p n φ → (n + 1) % p.freq = 0 →
      CompleteInBlock p (n + 1) φ.release := by
    intro n φ _ _
    cases φ <;> trivial
  obtain ⟨-, φ, h, hφ⟩ := phase_from hp inPhase_zero trivial
    (fun _ _ _ _ h hφ hstep h' => completeInBlock_step h hφ hstep h') next last n (Nat.zero_le n)
  obtain ⟨t, s, rfl⟩ := h.represents.of_pending hpend
  exact ⟨t, s, h, hφ⟩

omit [FloatArith F] in
/-- The samples of the block behind those after the event, together with the samples of the block
in which the event stopped up to the stop, fill a block. -/
theorem leftover (hf : 0 < p.freq) (hdvd : p.freq ∣ p.postEvent) (hend : (n + 1) % p.freq = 0)
    (hlo : n / p.freq * p.freq ≤ s + 1 + p.postEvent) (hhi : s + 1 + p.postEvent ≤ n) :
    n + 1 - (s + 1 + p.postEvent) + (s + 1) % p.freq = p.freq := by
  have hk : n % p.freq + 1 = p.freq := (BlockRun.succ_mod_eq_zero_iff hf).mp hend
  have hn : n / p.freq * p.freq + n % p.freq = n := Nat.div_add_mod' n p.freq
  obtain ⟨q, hq⟩ := hdvd
  have hmod : (s + 1) % p.freq = s + 1 + p.postEvent - n / p.freq * p.freq := by
    calc (s + 1) % p.freq = (s + 1 + p.postEvent) % p.freq := by rw [hq, Nat.add_mul_mod_self_left]
      _ = (n / p.freq * p.freq + (s + 1 + p.postEvent - n / p.freq * p.freq)) % p.freq := by
        rw [Nat.add_sub_cancel' hlo]
      _ = s + 1 + p.postEvent - n / p.freq * p.freq := BlockRun.block_mod (by omega)
  omega

/-! ## The register -/

/-- What `createEventFile` leaves in the register is the last samples of the stream, up to the end
of the block. -/
def Resumes (p : Params F) (axis : CBuf) (bs : ℕ → Block F) (n : ℕ) : Prop :=
  let e := releaseEvent p.freq p (after p axis bs n)
  (List.range e.countPreEvent).map e.preEvent
    = slice (stream p bs) (n + 1 - e.countPreEvent) (n + 1)

omit [FloatArith F] in
/-- For an event that started with `t` and stopped at `s`: the program adds as many samples of the
block as there are left, and the register takes nothing from the event itself. -/
def LeftoverFits (p : Params F) (t s : ℕ) : Prop :=
  p.preEvent ≤ p.postEvent ∧ (s - t) % p.freq + (s + 1) % p.freq = p.freq

omit [FloatArith F] in
/-- What `createEventFile` makes of a full register: something, with the rest of the block shifted
in.  The something ends with the samples after the event and, where the register is longer than
these, before them with the last sample of the event. -/
theorem saveRegister_full {e : EventData F} (hfull : e.countPreEvent = p.preEvent) :
    ∃ r : ℕ → F, saveRegister p.freq p e
        = ⟨shiftIn p.preEvent r e.tempData (e.countEventSamples % p.freq)
            (e.countTempData - e.countEventSamples % p.freq), p.preEvent⟩ ∧
      (p.preEvent ≤ e.countPostEvent →
        r = shiftIn p.preEvent e.preEvent e.postEvent p.preEvent
          (e.countPostEvent - p.preEvent)) ∧
      (e.countPostEvent < p.preEvent → 1 ≤ e.countEventSamples →
        ∃ r', r = shiftIn p.preEvent r' e.postEvent e.countPostEvent 0 ∧
          r' (p.preEvent - 1) = e.eventSamples (e.countEventSamples - 1)) := by
  obtain ⟨buf, hregister⟩ : ∃ buf, e.toPreRegister = ⟨buf, p.preEvent⟩ :=
    ⟨e.preEvent, by rw [← hfull]⟩
  have hadd : ∀ (buf samples : ℕ → F) (k start : ℕ),
      addSamplesPreEvent p ⟨buf, p.preEvent⟩ samples k start
        = ⟨shiftIn p.preEvent buf samples k start, p.preEvent⟩ :=
    fun buf samples k start => addSamplesPreEvent_full rfl samples k start
  have hlast : ∀ k start, 1 ≤ k → 0 < p.preEvent → k + start = e.countEventSamples →
      shiftIn p.preEvent buf e.eventSamples k start (p.preEvent - 1)
        = e.eventSamples (e.countEventSamples - 1) := by
    intro k start hk hpos hcount
    rw [shiftIn, if_pos (by omega), if_pos (by omega)]
    congr 1
    omega
  simp only [saveRegister, hregister, hadd]
  by_cases hle : p.preEvent ≤ e.countPostEvent
  · rw [if_pos hle, hadd]
    exact ⟨_, rfl, fun _ => rfl, fun hlt => absurd hle (by omega)⟩
  rw [if_neg hle]
  by_cases hlong : p.preEvent - e.countPostEvent ≤ e.countEventSamples
  · rw [if_pos hlong, hadd, hadd]
    exact ⟨_, rfl, fun h => absurd h hle, fun _ _ => ⟨_, rfl, hlast _ _ (by omega) (by omega)
      (by omega)⟩⟩
  · rw [if_neg hlong, hadd, hadd]
    exact ⟨_, rfl, fun h => absurd h hle, fun _ hone => ⟨_, rfl, hlast _ _ hone (by omega) rfl⟩⟩

/-- The end of a block that leaves an event complete: it started with `t` and stopped at `s`, and
`post` samples after it are stored. -/
structure Completed (p : Params F) (x : ℕ → F) (n t s : ℕ) (e : EventData F) : Prop where
  lt : t < s
  countEventSamples : e.countEventSamples = s - t
  eventSamples : Copies x t (s - t) e.eventSamples
  countPostEvent : e.countPostEvent = p.postEvent
  postEvent : Copies x (s + 1) p.postEvent e.postEvent
  lta_le : p.lengthLTA ≤ n + 1
  countTempData : e.countTempData = p.lengthLTA
  tempData : Holds x p.lengthLTA (n + 1) e.tempData
  countPreEvent : e.countPreEvent = p.preEvent
  leftover : n + 1 - (s + 1 + p.postEvent) + (s + 1) % p.freq = p.freq
  done : s + 1 + p.postEvent ≤ n

section Cells

variable {x : ℕ → F} {e : EventData F}

/-- If the numbers fit, the register goes on with the stream. -/
theorem Completed.holds (h : Completed p x n t s e) (hp : p.Checked) (hlta : 0 < p.lengthLTA)
    (hfit : LeftoverFits p t s) :
    Holds x p.preEvent (n + 1) (saveRegister p.freq p e).preEvent := by
  obtain ⟨hle, hsob⟩ := hfit
  obtain ⟨r, hr, hpre, -⟩ := saveRegister_full h.countPreEvent
  have hdone := h.done
  have hleft := h.leftover
  have hL := h.lta_le
  have hlt : (s - t) % p.freq < p.freq := Nat.mod_lt _ hp.freq_pos
  have hfL : p.freq ≤ p.lengthLTA := Nat.le_of_dvd hlta hp.dvd_lta
  -- the samples after the event fill the register
  have hafter : Holds x p.preEvent (s + 1 + p.postEvent) r := by
    rw [hpre (by rwa [h.countPostEvent]), h.countPostEvent]
    have hnew : ∀ j < p.preEvent, e.postEvent (p.postEvent - p.preEvent + j)
        = x (s + 1 + p.postEvent - p.preEvent + j) := by
      intro j hj
      rw [h.postEvent _ (by omega)]
      congr 1
      omega
    rw [show s + 1 + p.postEvent = s + 1 + p.postEvent - p.preEvent + p.preEvent by omega]
    exact holds_shiftIn_of_le (Nat.le_refl p.preEvent) hnew
  -- and the rest of the block, which is in `tempData`, follows
  have hrest : ∀ j < (s - t) % p.freq, e.tempData (p.lengthLTA - (s - t) % p.freq + j)
      = x (s + 1 + p.postEvent + j) := by
    intro j hj
    rw [h.tempData _ (by omega)]
    congr 1
    omega
  have hholds := hafter.shiftIn (by omega) hrest
  rw [show s + 1 + p.postEvent + (s - t) % p.freq = n + 1 by omega] at hholds
  rw [hr, h.countEventSamples, h.countTempData]
  exact hholds

/-- If the register goes on with a stream that has no value twice, the numbers fit. -/
theorem Completed.fits (h : Completed p x n t s e) (hp : p.Checked) (hpost : p.freq ∣ p.postEvent)
    (hinj : Function.Injective x) (hpre_le : p.preEvent ≤ n + 1)
    (hholds : Holds x p.preEvent (n + 1) (saveRegister p.freq p e).preEvent) :
    LeftoverFits p t s := by
  obtain ⟨r, hr, hpre, hpre'⟩ := saveRegister_full h.countPreEvent
  rw [h.countPostEvent] at hpre hpre'
  rw [h.countEventSamples] at hr hpre'
  have hlt : (s - t) % p.freq < p.freq := Nat.mod_lt _ hp.freq_pos
  have hfpre : p.freq ≤ p.preEvent := Nat.le_of_dvd hp.pre_pos hp.dvd_pre
  have hfpost : p.freq ≤ p.postEvent := Nat.le_of_dvd hp.post_pos hpost
  have hts := h.lt
  have hdone := h.done
  have hleft := h.leftover
  -- what the cells before the rest of the block hold
  have hcell : ∀ i, i + (s - t) % p.freq < p.preEvent →
      r ((s - t) % p.freq + i) = x (n + 1 - p.preEvent + i) := by
    intro i hi
    have hi' := hholds i (by omega)
    simp only [hr] at hi'
    rwa [shiftIn, if_pos (by omega), if_neg (by omega)] at hi'
  have hend : r (p.preEvent - 1) = x (s + p.postEvent) := by
    have hsample := h.postEvent (p.postEvent - 1) (by omega)
    rw [show s + 1 + (p.postEvent - 1) = s + p.postEvent by omega] at hsample
    rw [← hsample]
    rcases Nat.lt_or_ge p.postEvent p.preEvent with hlong | hshort
    · obtain ⟨r', rfl, -⟩ := hpre' hlong (by omega)
      rw [shiftIn, if_pos (by omega), if_pos (by omega)]
      congr 1
      omega
    · rw [hpre hshort, shiftIn, if_pos (by omega), if_pos (by omega)]
      congr 1
      omega
  have hsob : (s - t) % p.freq + (s + 1) % p.freq = p.freq := by
    have := hcell (p.preEvent - 1 - (s - t) % p.freq) (by omega)
    rw [Nat.add_sub_cancel' (by omega), hend] at this
    have := hinj this
    omega
  refine ⟨?_, hsob⟩
  by_contra hlong
  obtain ⟨r', rfl, hr'⟩ := hpre' (by omega) (by omega)
  have hgap : p.freq ≤ p.preEvent - p.postEvent :=
    Nat.le_of_dvd (by omega) (Nat.dvd_sub hp.dvd_pre hpost)
  -- before the samples after the event there is sample `s - 1`, where `s` should be
  have hcell := hcell (p.preEvent - p.postEvent - 1 - (s - t) % p.freq) (by omega)
  rw [Nat.add_sub_cancel' (by omega), shiftIn, if_pos (by omega), if_neg (by omega),
    show p.postEvent + (p.preEvent - p.postEvent - 1) = p.preEvent - 1 by omega, hr',
    h.eventSamples (s - t - 1) (by omega)] at hcell
  have := hinj hcell
  omega

end Cells

theorem completed_after (hp : p.Accepted) (hend : (n + 1) % p.freq = 0)
    (hpend : (after p axis bs n).isPendingSaveEvent = true)
    (hfull : (after p axis bs n).countPreEvent = p.preEvent)
    (ht : IsLast (Starts p axis bs) (n + 1) t) (hs : IsLast (Stops p axis bs) (n + 1) s) :
    Completed p (stream p bs) n t s (after p axis bs n) := by
  have hf := hp.checked.freq_pos
  obtain ⟨t', s', h, hblock⟩ := pending_block hp.checked axis bs n hpend
  obtain ⟨ht', hs', -⟩ := h.dated
  obtain rfl := ht.unique ht'
  obtain rfl := hs.unique hs'
  obtain ⟨-, hts, hdone, hev, hevs, hpost, hposts⟩ := h.represents
  have hafter : (before p axis bs (n + 1)).toWindows = (after p axis bs n).toWindows :=
    before_succ_toWindows hf axis bs n
  have hcount : (after p axis bs n).countTempData = p.lengthLTA := by
    by_contra hne
    cases h.filling hne
  have hn : p.lengthLTA ≤ n + 1 := by
    rw [← countTempData_eq_iff hf axis bs, hafter]
    exact hcount
  refine ⟨hts, hev, hevs, hpost, hposts, hn, hcount, ?_, hfull,
    leftover hf hp.dvd_post hend hblock (by omega), by omega⟩
  have htemp := holds_tempData hf hp.checked.dvd_lta axis bs (n + 1) hn
  rwa [hafter, Nat.div_mul_cancel (Nat.dvd_of_mod_eq_zero hend)] at htemp

/-- **When the register goes on with the stream after an event is saved.**  Where the numbers do not
fit, it does not on any stream that has no value twice. -/
theorem register_resumes_iff (hp : p.Accepted) (hlta : 0 < p.lengthLTA) (axis : CBuf)
    (bs : ℕ → Block F) (n t s : ℕ) (hend : (n + 1) % p.freq = 0)
    (hpend : (after p axis bs n).isPendingSaveEvent = true)
    (hfull : (after p axis bs n).countPreEvent = p.preEvent)
    (ht : IsLast (Starts p axis bs) (n + 1) t) (hs : IsLast (Stops p axis bs) (n + 1) s) :
    (LeftoverFits p t s → Resumes p axis bs n) ∧
      (Function.Injective (stream p bs) → Resumes p axis bs n → LeftoverFits p t s) := by
  have h := completed_after hp hend hpend hfull ht hs
  have hcount : (releaseEvent p.freq p (after p axis bs n)).countPreEvent = p.preEvent := by
    obtain ⟨r, hr, -⟩ := saveRegister_full hfull
    rw [releaseEvent, hr]
  rw [Resumes]
  simp only [hcount]
  refine ⟨fun hfit => ?_, fun hinj hresumes => ?_⟩
  · have hle : p.preEvent ≤ n + 1 := by
      have := h.done
      have := hfit.1
      omega
    exact (h.holds hp.checked hlta hfit).map_range hle
  · have hle : p.preEvent ≤ n + 1 := by
      have := congrArg List.length hresumes
      rw [List.length_map, List.length_range, length_slice] at this
      omega
    exact h.fits hp.checked hp.dvd_post hinj hle (holds_of_map_range hle hresumes)

/-- A signal that is 1 up to sample 40, 0 on sample 41, and rises from then on. -/
def rampBlocks (N : ℕ) : Block ℚ :=
  .plain fun i =>
    if N * 40 + i < 41 then 1 else if N * 40 + i = 41 then 0 else (N * 40 + i : ℕ)

/-- The event of sample 40 stops at sample 41 and is complete with sample 82.  One sample is added
of the 38 that are left of the block, and the register begins with sample 43 instead of 80. -/
theorem not_resumes_ramp :
    (tinyParams 1 1 0).Accepted ∧ (tinyParams 1 1 0).Fits ∧ (119 + 1) % 40 = 0 ∧
      (after (tinyParams 1 1 0) (zeroBuf 15) rampBlocks 119).isPendingSaveEvent = true ∧
      (after (tinyParams 1 1 0) (zeroBuf 15) rampBlocks 119).countPreEvent = 40 ∧
      ¬ Resumes (tinyParams 1 1 0) (zeroBuf 15) rampBlocks 119 := by
  refine ⟨⟨tinyOptions 1 1 (1 / 2), by decide +kernel⟩,
    tinyParams_fits (by decide) (by decide) (by decide), rfl, by decide +kernel,
    by decide +kernel, fun h => ?_⟩
  have hcell : (releaseEvent 40 (tinyParams 1 1 0)
      (after (tinyParams 1 1 0) (zeroBuf 15) rampBlocks 119)).preEvent 0 = 43 := by
    decide +kernel
  have hcount : (releaseEvent 40 (tinyParams 1 1 0)
      (after (tinyParams 1 1 0) (zeroBuf 15) rampBlocks 119)).countPreEvent = 40 := by
    decide +kernel
  have hstream : stream (tinyParams 1 1 0) rampBlocks 80 = 80 := by decide +kernel
  have h0 := congrArg (fun l => l[0]?) h
  simp only [slice, List.getElem?_map, show (tinyParams 1 1 0).freq = 40 from rfl, hcount] at h0
  norm_num [hcell, hstream] at h0

/-- A signal that jumps at sample 41, falls at sample 60, and rises from then on. -/
def plateauBlocks (N : ℕ) : Block ℚ :=
  .plain fun i =>
    if N * 40 + i = 39 then 20
    else if N * 40 + i < 41 then 1
    else if N * 40 + i < 60 then 5
    else if N * 40 + i = 60 then 1
    else (N * 40 + i : ℕ)

/-- The event of sample 41 stops at sample 60 and is complete with sample 101.  Nineteen samples are
added, as many as are left of the block, and the register goes on with samples 80 to 119. -/
theorem register_resumes_iff_plateau :
    Resumes (tinyParams 1 1 0) (zeroBuf 15) plateauBlocks 119 := by
  have ht : IsLast (Starts (tinyParams 1 1 0) (zeroBuf 15) plateauBlocks) 120 41 := by
    decide +kernel
  have hs : IsLast (Stops (tinyParams 1 1 0) (zeroBuf 15) plateauBlocks) 120 60 := by
    decide +kernel
  exact (register_resumes_iff (p := tinyParams 1 1 0) ⟨tinyOptions 1 1 (1 / 2), by decide +kernel⟩
    (by decide) (zeroBuf 15) plateauBlocks 119 41 60 (by decide) (by decide +kernel)
    (by decide +kernel) ht hs).1 (by unfold LeftoverFits; decide)

end SensorIoT
