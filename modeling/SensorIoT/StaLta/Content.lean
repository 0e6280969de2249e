import SensorIoT.StaLta.Recent
import SensorIoT.StaLta.Resume

/-!
# What there is in an event

The file of an event is to hold the signal from `preEvent` samples before the event to `postEvent`
samples after it.  The samples from before come out of the register, which must then be in step with
the stream when the event starts, however many events there have been.

`KeptInv` says what the register has to do with the stream at any time: without an event it is up to
date with the blocks, and from the start of an event to its end with the sample that started it.
Samples keep it that are `NeatAt`, and so does the saving of an event if the register goes on with
the stream afterwards (`FitsAt`); when it does, is the subject of `SensorIoT.StaLta.Resume`.

**`content_pending`**: where both hold of all samples so far, what is about to be saved of an event
is the signal from `preEvent` samples before it to `postEvent` samples after it, without the sample
at which it stopped.
-/

set_option autoImplicit false

namespace SensorIoT

open Register

variable {F : Type} [FloatArith F] {p : Params F} {axis : CBuf} {bs : ℕ → Block F} {n : ℕ}

/-! ## Samples that keep the register in step -/

/-- No event fills its array with sample `n`, and if the sample stops an event that is discarded, it
is the first of a block. -/
structure NeatAt (p : Params F) (axis : CBuf) (bs : ℕ → Block F) (n : ℕ) : Prop where
  overflow : ¬ OverflowsAt p axis bs n
  discard : DiscardsAt p axis bs n → n % p.freq = 0

theorem NeatAt.tidyAt (h : NeatAt p axis bs n) : TidyAt p axis bs n :=
  ⟨h.overflow, fun hdiscard => .inl (h.discard hdiscard)⟩

/-- If an event is saved behind sample `n`, the register goes on with the stream. -/
def FitsAt (p : Params F) (axis : CBuf) (bs : ℕ → Block F) (n : ℕ) : Prop :=
  (n + 1) % p.freq = 0 → (after p axis bs n).isPendingSaveEvent = true →
    ∀ t s, IsLast (Starts p axis bs) (n + 1) t → IsLast (Stops p axis bs) (n + 1) s →
      LeftoverFits p t s

/-- The samples up to `n` are neat, and the events saved before it fit. -/
structure Unspoiled (p : Params F) (axis : CBuf) (bs : ℕ → Block F) (n : ℕ) : Prop where
  neat : ∀ m ≤ n, NeatAt p axis bs m
  fits : ∀ m < n, FitsAt p axis bs m

/-! ## The register, from event to event -/

/-- The register before sample `n`. -/
structure KeptInv (p : Params F) (axis : CBuf) (bs : ℕ → Block F) (n : ℕ) (e : EventData F) :
    Prop where
  idle : e.Idle → e.toPreRegister.Recent p (stream p bs) (n / p.freq * p.freq)
  started : ¬ e.Idle → ∀ t, IsLast (Starts p axis bs) n t →
    p.preEvent ≤ t ∧ e.toPreRegister.Recent p (stream p bs) t

/-- While an event is recorded or waits, nothing happens to the register. -/
theorem KeptInv.keep {e e' : EventData F} (h : KeptInv p axis bs n e) (he : ¬ e.Idle)
    (hregister : e'.toPreRegister = e.toPreRegister) (he' : ¬ e'.Idle)
    (hstart : ¬ Starts p axis bs n) : KeptInv p axis bs (n + 1) e' := by
  refine ⟨fun hidle => absurd hidle he', fun _ t ht => ?_⟩
  rw [hregister]
  exact h.started he t (ht.of_succ hstart)

/-- What `detectEvent` does to the register. -/
theorem KeptInv.detect {b : Block F} {e e' : EventData F} (hp : p.Checked)
    (h : KeptInv p axis bs n e) (hready : Ready p (stream p bs) n b e)
    (hopened : e.Open → IsLast (Starts p axis bs) n (n - e.countEventSamples))
    (hfirst : e.Open → e.ratio ≤ p.thOff →
      lastsLong p (closeEvent e) b (n % p.freq) = false → n % p.freq = 0)
    (hstarts : Starts p axis bs n ↔ e.eventOn = false ∧ e'.eventOn = true)
    (hs : DetectStep p b axis (n % p.freq) e e') : KeptInv p axis bs (n + 1) e' := by
  have hf := hp.freq_pos
  have hdiv : n / p.freq * p.freq + n % p.freq = n := Nat.div_add_mod' n p.freq
  have hstart := BlockRun.succ_start (n := n) hf
  have hlast := mod_eq_last_iff hf n
  cases hs with
  | pending hpend =>
    have hover := (EventData.over_of_pending hpend).1
    exact h.keep hover rfl hover (by simp [hstarts])
  | post _ hpost =>
    exact h.keep (EventData.over_of_post hpost).1 rfl (EventData.over_of_post hpost).1
      (fun hn => by simp [hstarts] at hn)
  | complete _ hpost =>
    exact h.keep (EventData.over_of_post hpost).1 rfl (EventData.over_of_pending rfl).1
      (fun hn => by simp [hstarts] at hn)
  | quiet hidle _ hne =>
    rw [ne_eq, hlast] at hne
    refine ⟨fun _ => ?_, fun he => absurd hidle he⟩
    rw [hstart, if_neg hne]
    exact h.idle hidle
  | blockEnd hidle _ heq =>
    rw [hlast] at heq
    refine ⟨fun _ => ?_, fun he => absurd hidle he⟩
    rw [hstart, if_pos heq]
    exact (h.idle hidle).addBlock hp (Nat.dvd_mul_left _ _) hready.block
  | trigger hidle =>
    refine ⟨fun hi => absurd hi.1 (by simp [pushEvent, openEvent]), fun _ t ht => ?_⟩
    obtain rfl : t = n := ht.unique (isLast_self (hstarts.mpr ⟨hidle.1, rfl⟩))
    have hle := hready.start
    have hshift := (h.idle hidle).shift hle b.samples (t % p.freq) 0
      fun j hj => by rw [Nat.zero_add]; exact hready.block j (hj.trans (Nat.mod_lt t hf))
    rw [hdiv] at hshift
    exact ⟨by omega, hshift⟩
  | jam hidle _ hmax => exact absurd ((hready.idle hidle).symm.trans hmax) (by decide)
  | record hopen =>
    refine h.keep (fun hi => absurd hopen hi.not_open) rfl (fun hi => absurd hopen hi.not_open) ?_
    exact fun hn => Bool.noConfusion ((hstarts.mp hn).1.symm.trans hopen.1)
  | full hopen hr hmax => exact absurd hmax (hready.overflow hopen hr)
  | accept hopen =>
    exact h.keep (fun hi => absurd hopen hi.not_open) rfl (EventData.over_of_post rfl).1
      (fun hn => Bool.noConfusion ((hstarts.mp hn).1.symm.trans hopen.1))
  | discard hopen hr hlong =>
    refine ⟨fun _ => ?_, fun he => absurd ⟨rfl, rfl, rfl⟩ he⟩
    have hzero := hfirst hopen hr hlong
    have hfour : 1 < p.freq := by have := hp.freq; omega
    have hnot : ¬ (n + 1) % p.freq = 0 := by rw [← hlast]; omega
    obtain ⟨hn, hcopies⟩ := hready.opened hopen
    obtain ⟨hle, hrecent⟩ := h.started (fun hi => absurd hopen hi.not_open) _ (hopened hopen)
    rw [hstart, if_neg hnot, show n / p.freq * p.freq = n by omega]
    exact recent_discardEvent (e := closeEvent e) hrecent hle hn hcopies

/-- Saving an event that fits. -/
theorem KeptInv.afterBlock (hp : p.Accepted) (hle : p.preEvent ≤ p.lengthLTA)
    (hn : p.lengthLTA ≤ n) (hend : (n + 1) % p.freq = 0)
    (h : KeptInv p axis bs (n + 1) (after p axis bs n)) (hfits : FitsAt p axis bs n) :
    KeptInv p axis bs (n + 1) (afterBlock p (after p axis bs n)) := by
  rw [SensorIoT.afterBlock]
  split
  case isFalse => exact h
  case isTrue hpend =>
    obtain ⟨φ, hφ⟩ := phase_after hp.checked axis bs n
    obtain ⟨t, s, rfl⟩ := hφ.represents.of_pending hpend
    obtain ⟨ht, hs, -⟩ := hφ.dated
    obtain ⟨hpret, hrecent⟩ := h.started (EventData.over_of_pending hpend).1 t ht
    have hfull : (after p axis bs n).countPreEvent = p.preEvent := by
      rw [hrecent.count, Nat.min_eq_right hpret]
    have hholds := (completed_after hp hend hpend hfull ht hs).holds hp.checked
      (Nat.lt_of_lt_of_le hp.checked.pre_pos hle) (hfits hend hpend t s ht hs)
    have hcount : (releaseEvent p.freq p (after p axis bs n)).countPreEvent = p.preEvent := by
      obtain ⟨r, hr, -⟩ := saveRegister_full hfull
      rw [releaseEvent, hr]
    have hboundary : (n + 1) / p.freq * p.freq = n + 1 :=
      Nat.div_mul_cancel (Nat.dvd_of_mod_eq_zero hend)
    have hidle : (releaseEvent p.freq p (after p axis bs n)).Idle :=
      ⟨hφ.represents.1.1, hφ.represents.1.2.1, rfl⟩
    refine ⟨fun _ => ⟨?_, ?_⟩, fun he => absurd hidle he⟩
    · rw [hcount, hboundary, Nat.min_eq_right (by omega)]
    · rw [hcount, hboundary]
      exact hholds

/-- What sample `n` does to the register, once `tempData` is full. -/
theorem keptInv_after (hp : p.Accepted) (hle : p.preEvent ≤ p.lengthLTA) (hn : p.lengthLTA ≤ n)
    (hneat : ∀ m ≤ n, NeatAt p axis bs m) (h : KeptInv p axis bs n (before p axis bs n)) :
    KeptInv p axis bs (n + 1) (after p axis bs n) := by
  have hfull := (countTempData_eq_iff hp.checked.freq_pos axis bs n).mpr hn
  have hready := ready_judged hp.checked hle hn fun m hm => (hneat m hm).tidyAt
  obtain ⟨d, w, hstep, hafter⟩ := (sampleStep hp.checked axis bs n).detected hfull
  have hjudged : KeptInv p axis bs n
      ((before p axis bs n).judged p (bs (n / p.freq)) (n % p.freq)) := ⟨h.idle, h.started⟩
  have hopened : ((before p axis bs n).judged p (bs (n / p.freq)) (n % p.freq)).Open →
      IsLast (Starts p axis bs) n (n - (before p axis bs n).countEventSamples) := by
    intro hopen
    obtain ⟨φ, hφ⟩ := phase_before hp.checked axis bs n
    obtain ⟨t, rfl⟩ := hφ.represents.of_on hopen.1
    obtain ⟨-, ht, hcount, -⟩ := hφ.represents
    rw [hcount, Nat.sub_sub_self (Nat.le_of_lt ht)]
    exact hφ.dated
  have hstarts : Starts p axis bs n ↔
      (before p axis bs n).eventOn = false ∧ d.eventOn = true := by
    rw [Starts, hafter]
  have hd := hjudged.detect hp.checked hready hopened
    (fun hopen hr hlong => (hneat n (Nat.le_refl n)).discard ⟨hfull, hopen, hr, hlong⟩) hstarts
    hstep
  rw [hafter]
  exact ⟨hd.idle, hd.started⟩

/-- **The register along a run.** -/
theorem keptInv_before (hp : p.Accepted) (hle : p.preEvent ≤ p.lengthLTA) (n : ℕ)
    (hn : p.lengthLTA ≤ n) (hneat : ∀ m < n, NeatAt p axis bs m)
    (hfits : ∀ m < n, FitsAt p axis bs m) : KeptInv p axis bs n (before p axis bs n) := by
  induction n, hn using Nat.le_induction with
  | base =>
    obtain ⟨hidle, hrecent⟩ := recent_before hp.checked axis bs p.lengthLTA (Nat.le_refl _)
    exact ⟨fun _ => hrecent, fun he => absurd hidle he⟩
  | succ n hn ih =>
    have hinv := keptInv_after hp hle hn (fun m hm => hneat m (Nat.lt_succ_of_le hm))
      (ih (fun m hm => hneat m (Nat.lt_succ_of_lt hm)) fun m hm => hfits m (Nat.lt_succ_of_lt hm))
    rw [before_succ hp.checked.freq_pos]
    split
    case isTrue hend => exact hinv.afterBlock hp hle hn hend (hfits n (Nat.lt_succ_self n))
    case isFalse => exact hinv

/-! ## What is saved -/

omit [FloatArith F] in
/-- The samples of an event as they are saved. -/
def EventData.content (e : EventData F) : List F :=
  (List.range e.countPreEvent).map e.preEvent ++ e.recorded

/-- **What is saved of an event**, of any event of a run that is in step: the signal from `preEvent`
samples before it to `postEvent` samples after it, all of it but the sample at which it stopped. -/
theorem content_pending (hp : p.Accepted) (hle : p.preEvent ≤ p.lengthLTA)
    (h : Unspoiled p axis bs n) (hpend : (after p axis bs n).isPendingSaveEvent = true) {t s : ℕ}
    (ht : IsLast (Starts p axis bs) (n + 1) t) (hs : IsLast (Stops p axis bs) (n + 1) s) :
    p.preEvent ≤ t ∧ t < s ∧ (after p axis bs n).content
      = slice (stream p bs) (t - p.preEvent) s
        ++ slice (stream p bs) (s + 1) (s + p.postEvent + 1) := by
  obtain ⟨t', s', hgap⟩ := gapAt_of_pending hp.checked hpend
  obtain rfl := ht.unique hgap.starts
  obtain rfl := hs.unique hgap.stops
  -- nothing starts while `tempData` is filling up, so that nothing stops
  have hn : p.lengthLTA ≤ n := by
    by_contra hlt
    have hidle := (recent_before hp.checked axis bs s (by have := hs.1; omega)).1
    exact Bool.noConfusion (hidle.1.symm.trans hs.2.1.1)
  have hinv := keptInv_after hp hle hn h.neat (keptInv_before hp hle n hn
    (fun m hm => h.neat m hm.le) h.fits)
  obtain ⟨hpret, hcount, hcopies⟩ := hinv.started (EventData.over_of_pending hpend).1 t ht
  rw [hcount, Nat.min_eq_right hpret] at hcopies
  refine ⟨hpret, hgap.lt, ?_⟩
  rw [EventData.content, hcount, Nat.min_eq_right hpret, hgap.recorded,
    hcopies.map_range (b := t) (by omega), ← List.append_assoc,
    slice_append _ (by omega) hgap.lt.le]

end SensorIoT
