import SensorIoT.StaLta.Phase
import SensorIoT.StaLta.PreEvent
import SensorIoT.StaLta.Windows

/-!
# What the register holds

The register is there to put the seconds before an event into its file, so at the start of an event
it should hold the last `preEvent` samples of the stream, `PreRegister.Recent`.

Every piece of the detector does its part of that.  A block added at a block boundary keeps the
register recent, an event that starts adds the samples of its block, and an event that is discarded
puts its own samples behind them, up to the sample at which it stopped.  What goes wrong is the
block in which that happens: at its end all of it is added, also what the register already has from
it, and when the event stops on the very last sample the block is not added at all.

`register_recent` is what is left: the register is right at every boundary without an event, when
every discarded event stops on the first sample of a block; or, for a register of a single block,
which a block replaces altogether, on any sample but the last.
-/

set_option autoImplicit false

namespace SensorIoT

open Register

variable {F : Type} [FloatArith F] {p : Params F} {axis : CBuf} {bs : ℕ → Block F} {n : ℕ}

/-! ## Adding to the register -/

omit [FloatArith F] in
/-- The register holds the last samples before position `s` of the stream, `preEvent` of them or as
many as there are. -/
structure PreRegister.Recent (p : Params F) (x : ℕ → F) (s : ℕ) (r : PreRegister F) : Prop where
  count : r.countPreEvent = min s p.preEvent
  copies : Copies x (s - r.countPreEvent) r.countPreEvent r.preEvent

omit [FloatArith F] in
/-- A full register that takes the next samples of the stream. -/
theorem PreRegister.Recent.shift {x : ℕ → F} {s : ℕ} {r : PreRegister F}
    (h : r.Recent p x s) (hs : p.preEvent ≤ s) (samples : ℕ → F) (k start : ℕ)
    (hx : ∀ j < k, samples (start + j) = x (s + j)) :
    (addSamplesPreEvent p r samples k start).Recent p x (s + k) := by
  have hcount : r.countPreEvent = p.preEvent := by rw [h.count, Nat.min_eq_right hs]
  have hholds : Holds x p.preEvent s r.preEvent := by
    have := h.copies
    rwa [hcount] at this
  rw [addSamplesPreEvent_full hcount]
  refine ⟨by simp only [hcount]; omega, ?_⟩
  simp only [hcount]
  exact hholds.shiftIn hs hx

omit [FloatArith F] in
/-- A full register takes the end of what is added, if that is enough to fill it. -/
theorem recent_of_le {x : ℕ → F} {s k start : ℕ} {r : PreRegister F}
    (hcount : r.countPreEvent = p.preEvent) (hk : p.preEvent ≤ k) {samples : ℕ → F}
    (hx : ∀ j < k, samples (start + j) = x (s + j)) :
    (addSamplesPreEvent p r samples k start).Recent p x (s + k) := by
  rw [addSamplesPreEvent_full hcount]
  refine ⟨by simp only [hcount]; omega, ?_⟩
  simp only [hcount]
  exact holds_shiftIn_of_le hk hx

/-- A block of the stream added to the register. -/
theorem PreRegister.Recent.addBlock {x : ℕ → F} {s : ℕ} {r : PreRegister F}
    (h : r.Recent p x s) (hp : p.Checked) (hs : p.freq ∣ s) {samples : ℕ → F}
    (hx : ∀ j < p.freq, samples j = x (s + j)) :
    (addSamplesPreEvent p r samples p.freq 0).Recent p x (s + p.freq) := by
  rcases Nat.lt_or_ge s p.preEvent with hlt | hge
  · have hcount : r.countPreEvent = s := by rw [h.count, Nat.min_eq_left (Nat.le_of_lt hlt)]
    have hle : s + p.freq ≤ p.preEvent := by
      obtain ⟨c, rfl⟩ := hs
      obtain ⟨q, hq⟩ := hp.dvd_pre
      rw [hq] at hlt ⊢
      rw [← Nat.mul_succ]
      exact Nat.mul_le_mul_left _ (Nat.lt_of_mul_lt_mul_left hlt)
    have hcopies := h.copies
    rw [hcount, Nat.sub_self] at hcopies
    rw [addSamplesPreEvent_filling (by omega)]
    refine ⟨by simp only [hcount]; omega, ?_⟩
    simp only [hcount, Nat.sub_self]
    intro i hi
    simp only
    split
    · rw [hx _ (by omega)]; congr 1; omega
    · exact hcopies i (by omega)
  · exact h.shift hge samples p.freq 0 fun j hj => by rw [Nat.zero_add]; exact hx j hj

omit [FloatArith F] in
/-- The samples of the block of sample `n`. -/
theorem block_samples (p : Params F) (bs : ℕ → Block F) (n j : ℕ) (hj : j < p.freq) :
    (bs (n / p.freq)).samples j = stream p bs (n / p.freq * p.freq + j) := by
  rw [stream, BlockRun.block_div hj, BlockRun.block_mod hj]

omit [FloatArith F] in
/-- The last sample of a block. -/
theorem mod_eq_last_iff (hf : 0 < p.freq) (n : ℕ) :
    n % p.freq = p.freq - 1 ↔ (n + 1) % p.freq = 0 := by
  rw [BlockRun.succ_mod_eq_zero_iff hf]
  omega

/-- Nothing is done at the end of a block that leaves the axis without an event. -/
theorem before_succ_of_idle (hf : 0 < p.freq) (h : (after p axis bs n).Idle) :
    before p axis bs (n + 1) = after p axis bs n := by
  have hpend : (after p axis bs n).isPendingSaveEvent ≠ true := Bool.eq_false_iff.mp h.2.2
  rw [before_succ hf, afterBlock, if_neg hpend, ite_self]

/-- While `tempData` is filling up, the axis is idle and the register holds the samples before the
current block. -/
theorem recent_before (hp : p.Checked) (axis : CBuf) (bs : ℕ → Block F) :
    ∀ n ≤ p.lengthLTA, (before p axis bs n).Idle ∧
      (before p axis bs n).toPreRegister.Recent p (stream p bs) (n / p.freq * p.freq) := by
  intro n
  induction n with
  | zero =>
    intro _
    rw [before_zero, Nat.zero_div, Nat.zero_mul]
    exact ⟨⟨rfl, rfl, rfl⟩, (Nat.zero_min _).symm, copies_zero _ _ _⟩
  | succ n ih =>
    intro hn
    have hf := hp.freq_pos
    obtain ⟨hidle, hrecent⟩ := ih (Nat.le_of_succ_le hn)
    have hcount : (before p axis bs n).countTempData ≠ p.lengthLTA := by
      rw [(filling_before hf axis bs n (Nat.le_of_succ_le hn)).countTempData]
      omega
    obtain ⟨w, hafter⟩ := (sampleStep hp axis bs n).filled hcount
    have hidle' : (after p axis bs n).Idle := by
      rw [hafter]
      exact hidle
    rw [before_succ_of_idle hf hidle']
    refine ⟨hidle', ?_⟩
    rw [hafter, BlockRun.succ_start hf]
    by_cases hlast : (n + 1) % p.freq = 0
    · rw [if_pos hlast]
      simp only [(mod_eq_last_iff hf n).mpr hlast, if_true]
      exact hrecent.addBlock hp (Nat.dvd_mul_left _ _) (block_samples p bs n)
    · rw [if_neg hlast]
      simp only [(mod_eq_last_iff hf n).not.mpr hlast, if_false]
      exact hrecent

/-- With `preEvent ≤ lengthLTA` the register is full when detection starts, and from then on. -/
theorem full_of_le_lta (hp : p.Checked) (hle : p.preEvent ≤ p.lengthLTA) (axis : CBuf)
    (bs : ℕ → Block F) (n : ℕ) (hn : p.lengthLTA ≤ n) :
    (before p axis bs n).toPreRegister.Full p := by
  induction n, hn using Nat.le_induction with
  | base =>
    have hcount := (recent_before hp axis bs p.lengthLTA (Nat.le_refl _)).2.count
    rw [Nat.div_mul_cancel hp.dvd_lta, Nat.min_eq_right hle] at hcount
    have hinv := registerInv_before hp axis bs p.lengthLTA fun m hm htrig =>
      absurd ((countTempData_eq_iff hp.freq_pos axis bs m).mp htrig.1) (by omega)
    rcases hinv with hfull | ⟨hfilling, -⟩
    · exact hfull
    · exact absurd hcount (Nat.ne_of_lt hfilling.lt)
  | succ n hn ih =>
    have hafter : (after p axis bs n).toPreRegister.Full p := ih.step (sampleStep hp axis bs n)
    rw [before_succ hp.freq_pos]
    split
    · exact hafter.afterBlock
    · exact hafter

/-- **With `preEvent ≤ lengthLTA` no event starts on a register that is not full.** -/
theorem filledAt_of_le_lta (hp : p.Checked) (hle : p.preEvent ≤ p.lengthLTA) (axis : CBuf)
    (bs : ℕ → Block F) (n : ℕ) : FilledAt p axis bs n :=
  fun htrig => (full_of_le_lta hp hle axis bs n
    ((countTempData_eq_iff hp.freq_pos axis bs n).mp htrig.1)).count

/-! ## Discarded events -/

/-- Sample `n` stops an event that is too short to be kept. -/
def DiscardsAt (p : Params F) (axis : CBuf) (bs : ℕ → Block F) (n : ℕ) : Prop :=
  (before p axis bs n).countTempData = p.lengthLTA ∧ (before p axis bs n).Open ∧
    ((before p axis bs n).judged p (bs (n / p.freq)) (n % p.freq)).ratio ≤ p.thOff ∧
    lastsLong p (closeEvent ((before p axis bs n).judged p (bs (n / p.freq)) (n % p.freq)))
      (bs (n / p.freq)) (n % p.freq) = false

/-- Sample `n` does no harm to the register: no event fills its array with it, and if it stops an
event that is discarded, it is the first sample of a block; for a register of a single block, any
but the last. -/
structure TidyAt (p : Params F) (axis : CBuf) (bs : ℕ → Block F) (n : ℕ) : Prop where
  overflow : ¬ OverflowsAt p axis bs n
  discard : DiscardsAt p axis bs n →
    n % p.freq = 0 ∨ (p.preEvent = p.freq ∧ n % p.freq ≠ p.freq - 1)

/-- The register before sample `n`.  Without an event it is up to date with the blocks, or it is
about to be replaced by one; with an event open it is up to date with the start of the event. -/
structure RecentInv (p : Params F) (x : ℕ → F) (n : ℕ) (e : EventData F) : Prop where
  idle : e.Idle → e.toPreRegister.Recent p x (n / p.freq * p.freq) ∨
    (p.preEvent = p.freq ∧ n % p.freq ≠ 0)
  opened : e.Open → e.toPreRegister.Recent p x (n - e.countEventSamples) ∧
    p.preEvent ≤ n - e.countEventSamples ∨ p.preEvent = p.freq

omit [FloatArith F] in
/-- A discarded event brings the register up to the sample at which it stopped. -/
theorem recent_discardEvent {x : ℕ → F} {e : EventData F}
    (h : e.toPreRegister.Recent p x (n - e.countEventSamples))
    (hle : p.preEvent ≤ n - e.countEventSamples) (hn : e.countEventSamples ≤ n)
    (hcopies : Copies x (n - e.countEventSamples) e.countEventSamples e.eventSamples) :
    (discardEvent p e).toPreRegister.Recent p x n := by
  have hcount : e.countPreEvent = p.preEvent := by rw [h.count, Nat.min_eq_right hle]
  rw [discardEvent]
  split
  · rename_i hlt
    have hend : n - p.preEvent + p.preEvent = n := by omega
    rw [hcount] at hlt ⊢
    rw [← hend]
    refine recent_of_le hcount (Nat.le_refl _) fun j hj => ?_
    rw [hcopies _ (by omega)]
    congr 1
    omega
  · have hend : n - e.countEventSamples + e.countEventSamples = n := by omega
    have hshift := h.shift hle e.eventSamples e.countEventSamples 0
      fun j hj => by rw [Nat.zero_add]; exact hcopies j hj
    rw [hend] at hshift
    exact hshift

/-- What is known of the state before a sample when its effect on the register is looked at. -/
structure Ready (p : Params F) (x : ℕ → F) (n : ℕ) (b : Block F) (e : EventData F) : Prop where
  block : ∀ j < p.freq, b.samples j = x (n / p.freq * p.freq + j)
  start : p.preEvent ≤ n / p.freq * p.freq
  full : e.toPreRegister.Full p
  idle : e.Idle → e.countEventSamples = 0
  opened : e.Open → e.countEventSamples ≤ n ∧
    Copies x (n - e.countEventSamples) e.countEventSamples e.eventSamples
  overflow : e.Open → ¬ e.ratio ≤ p.thOff → e.countEventSamples ≠ maxLengthEvent
  discard : e.Open → e.ratio ≤ p.thOff → lastsLong p (closeEvent e) b (n % p.freq) = false →
    n % p.freq = 0 ∨ (p.preEvent = p.freq ∧ n % p.freq ≠ p.freq - 1)

omit [FloatArith F] in
/-- Between two events nothing is asked of the register. -/
theorem RecentInv.of_over {x : ℕ → F} {e : EventData F} (h : ¬ e.Idle ∧ ¬ e.Open) :
    RecentInv p x n e :=
  ⟨fun hidle => absurd hidle h.1, fun hopen => absurd hopen h.2⟩

theorem RecentInv.detect {x : ℕ → F} {b : Block F} {e e' : EventData F} (hp : p.Checked)
    (h : RecentInv p x n e) (hready : Ready p x n b e)
    (hs : DetectStep p b axis (n % p.freq) e e') : RecentInv p x (n + 1) e' := by
  have hf := hp.freq_pos
  have hk : n % p.freq < p.freq := Nat.mod_lt n hf
  have hdiv : n / p.freq * p.freq + n % p.freq = n := Nat.div_add_mod' n p.freq
  have hstart := BlockRun.succ_start (n := n) hf
  have hlast := mod_eq_last_iff hf n
  cases hs with
  | pending hpend =>
    exact .of_over (EventData.over_of_pending hpend)
  | post _ hpost =>
    exact .of_over (EventData.over_of_post hpost)
  | complete => exact .of_over (EventData.over_of_pending rfl)
  | quiet hidle _ hne =>
    rw [ne_eq, hlast] at hne
    refine ⟨fun _ => ?_, fun ho => absurd ho hidle.not_open⟩
    rw [hstart, if_neg hne]
    exact (h.idle hidle).imp id fun h' => ⟨h'.1, hne⟩
  | blockEnd hidle _ heq =>
    rw [hlast] at heq
    refine ⟨fun _ => .inl ?_, fun ho => absurd ho hidle.not_open⟩
    rw [hstart, if_pos heq]
    rcases h.idle hidle with h' | ⟨hone, -⟩
    · exact h'.addBlock hp (Nat.dvd_mul_left _ _) hready.block
    · exact recent_of_le hready.full.count (Nat.le_of_eq hone) fun j hj => by
        rw [Nat.zero_add]; exact hready.block j hj
  | trigger hidle =>
    refine ⟨fun hi => absurd hi.1 (by simp [pushEvent, openEvent]), fun _ => ?_⟩
    have hcount : n + 1 - (pushEvent (openEvent p e b axis (n % p.freq))
        (b.samples (n % p.freq))).countEventSamples = n := by
      change n + 1 - (e.countEventSamples + 1) = n
      rw [hready.idle hidle]
      omega
    rw [hcount]
    refine (h.idle hidle).imp (fun h' => ⟨?_, by have := hready.start; omega⟩) And.left
    have hshift := h'.shift hready.start b.samples (n % p.freq) 0
      fun j hj => by rw [Nat.zero_add]; exact hready.block j (by omega)
    rw [hdiv] at hshift
    exact hshift
  | jam hidle _ hmax => exact absurd ((hready.idle hidle).symm.trans hmax) (by decide)
  | record hopen =>
    refine ⟨fun hi => absurd hopen hi.not_open, fun _ => ?_⟩
    have hcount : n + 1 - (pushEvent e (b.samples (n % p.freq))).countEventSamples
        = n - e.countEventSamples := Nat.add_sub_add_right n 1 e.countEventSamples
    rw [hcount]
    exact h.opened hopen
  | full hopen hr hmax => exact absurd hmax (hready.overflow hopen hr)
  | accept => exact .of_over (EventData.over_of_post rfl)
  | discard hopen hr hlong =>
    refine ⟨fun _ => ?_, fun ho => absurd ho.1 (by simp [discardEvent, closeEvent])⟩
    obtain ⟨hn, hcopies⟩ := hready.opened hopen
    have hfour : 1 < p.freq := by have := hp.freq; omega
    rcases hready.discard hopen hr hlong with hfirst | ⟨hone, hne⟩
    · have hnot : ¬ (n + 1) % p.freq = 0 := by rw [← hlast]; omega
      rcases h.opened hopen with ⟨h', hle⟩ | hone
      · left
        rw [hstart, if_neg hnot, show n / p.freq * p.freq = n by omega]
        exact recent_discardEvent (e := closeEvent e) h' hle hn hcopies
      · exact .inr ⟨hone, hnot⟩
    · exact .inr ⟨hone, fun h0 => hne (hlast.mpr h0)⟩

/-! ## The register along a run -/

theorem ready_judged (hp : p.Checked) (hle : p.preEvent ≤ p.lengthLTA) (hn : p.lengthLTA ≤ n)
    (htidy : ∀ m ≤ n, TidyAt p axis bs m) :
    Ready p (stream p bs) n (bs (n / p.freq))
      ((before p axis bs n).judged p (bs (n / p.freq)) (n % p.freq)) := by
  have hfull := (countTempData_eq_iff hp.freq_pos axis bs n).mpr hn
  obtain ⟨φ, hφ⟩ := phase_before hp axis bs n
  constructor
  case block => exact block_samples p bs n
  case start => exact Nat.le_trans hle (start_le hp.freq_pos hp.dvd_lta hn)
  case full => exact full_of_le_lta hp hle axis bs n hn
  case idle =>
    intro hidle
    rcases hφ.represents.of_idle hidle with rfl | rfl
    · exact hφ.represents.2.1
    · obtain ⟨m, hm, hover⟩ := hφ.dated
      exact absurd hover (htidy m (Nat.le_of_lt hm)).overflow
  case opened =>
    intro hopen
    obtain ⟨t, rfl⟩ := hφ.represents.of_on hopen.1
    obtain ⟨-, ht, hcount, hcopies, -⟩ := hφ.represents
    have hstart : n - (n - t) = t := by omega
    change (before p axis bs n).countEventSamples ≤ n ∧ Copies (stream p bs)
      (n - (before p axis bs n).countEventSamples) (before p axis bs n).countEventSamples
      (before p axis bs n).eventSamples
    rw [hcount, hstart]
    exact ⟨Nat.sub_le n t, hcopies⟩
  case overflow =>
    exact fun hopen hr hmax => (htidy n (Nat.le_refl n)).overflow ⟨hfull, hopen.1, hmax, hr⟩
  case discard =>
    exact fun hopen hr hlong => (htidy n (Nat.le_refl n)).discard ⟨hfull, hopen, hr, hlong⟩

theorem recentInv_before (hp : p.Checked) (hle : p.preEvent ≤ p.lengthLTA) (n : ℕ)
    (hn : p.lengthLTA ≤ n) (htidy : ∀ m < n, TidyAt p axis bs m)
    (hsaved : ∀ m < n, (m + 1) % p.freq = 0 → (after p axis bs m).isPendingSaveEvent = false) :
    RecentInv p (stream p bs) n (before p axis bs n) := by
  induction n, hn using Nat.le_induction with
  | base =>
    obtain ⟨hidle, hrecent⟩ := recent_before hp axis bs p.lengthLTA (Nat.le_refl _)
    exact ⟨fun _ => .inl hrecent, fun ho => absurd ho hidle.not_open⟩
  | succ n hn ih =>
    have hinv := ih (fun m hm => htidy m (Nat.lt_succ_of_lt hm))
      fun m hm => hsaved m (Nat.lt_succ_of_lt hm)
    have hready := ready_judged hp hle hn fun m hm => htidy m (Nat.lt_succ_of_le hm)
    obtain ⟨d, w, hstep, hafter⟩ := (sampleStep hp axis bs n).detected
      ((countTempData_eq_iff hp.freq_pos axis bs n).mpr hn)
    have hjudged : RecentInv p (stream p bs) n
        ((before p axis bs n).judged p (bs (n / p.freq)) (n % p.freq)) := ⟨hinv.idle, hinv.opened⟩
    have hd := hjudged.detect hp hready hstep
    have hbefore : before p axis bs (n + 1) = after p axis bs n := by
      rw [before_succ hp.freq_pos]
      split
      · have hpend := hsaved n (Nat.lt_succ_self n) ‹_›
        rw [afterBlock, if_neg (Bool.eq_false_iff.mp hpend)]
      · rfl
    rw [hbefore, hafter]
    exact ⟨hd.idle, hd.opened⟩

/-- No block up to the one of sample `n` has left an event to be saved. -/
def NotSaved (p : Params F) (axis : CBuf) (bs : ℕ → Block F) (n : ℕ) : Prop :=
  ∀ m ≤ n, (m + 1) % p.freq = 0 → (after p axis bs m).isPendingSaveEvent = false

/-- **What the register holds at a block boundary.**  In a run without saved events whose samples
do no harm, a full register holds the last `preEvent` samples of the stream at every boundary at
which no event is open. -/
theorem register_recent (hp : p.Accepted) (hle : p.preEvent ≤ p.lengthLTA) (axis : CBuf)
    (bs : ℕ → Block F) (n : ℕ) (htidy : ∀ m ≤ n, TidyAt p axis bs m)
    (hsaved : NotSaved p axis bs n)
    (hend : (n + 1) % p.freq = 0) (hidle : (after p axis bs n).Idle)
    (hcount : (after p axis bs n).countPreEvent = p.preEvent) :
    (List.range p.preEvent).map (after p axis bs n).preEvent
      = slice (stream p bs) (n + 1 - p.preEvent) (n + 1) := by
  have hf := hp.checked.freq_pos
  have hbefore := before_succ_of_idle hf hidle
  have hboundary : (n + 1) / p.freq * p.freq = n + 1 :=
    Nat.div_mul_cancel (Nat.dvd_of_mod_eq_zero hend)
  have hrecent : (after p axis bs n).toPreRegister.Recent p (stream p bs) (n + 1) := by
    rw [← hbefore, ← hboundary]
    rcases Nat.le_total (n + 1) p.lengthLTA with hfill | hdetect
    · rw [hboundary]
      have := (recent_before hp.checked axis bs (n + 1) hfill).2
      rwa [hboundary] at this
    · have hinv := recentInv_before hp.checked hle (n + 1) hdetect
        (fun m hm => htidy m (Nat.le_of_lt_succ hm)) fun m hm => hsaved m (Nat.le_of_lt_succ hm)
      rcases hinv.idle (hbefore ▸ hidle) with h | ⟨-, hne⟩
      · rw [hboundary]
        rwa [hboundary] at h
      · exact absurd hend hne
  obtain ⟨hmin, hcopies⟩ := hrecent
  rw [hcount] at hmin hcopies
  exact hcopies.map_range (by omega)

/-- A signal that is zero from sample 81 on, and larger on sample 79. -/
def dropBlocks (N : ℕ) : Block ℚ :=
  .plain fun i => if N * 40 + i = 79 then 11 / 2 else if N * 40 + i ≤ 80 then 1 else 0

/-- The event of sample 80 stops with sample 81 and is discarded; at the end of the block sample 80
is in the register twice, and sample 79 is not where it should be. -/
theorem not_register_recent_drop :
    (tinyParams 2 2 2).Accepted ∧ (tinyParams 2 2 2).Fits ∧
      (tinyParams 2 2 2).preEvent ≤ (tinyParams 2 2 2).lengthLTA ∧
      NotSaved (tinyParams 2 2 2) (zeroBuf 15) dropBlocks 119 ∧
      (after (tinyParams 2 2 2) (zeroBuf 15) dropBlocks 119).Idle ∧
      (after (tinyParams 2 2 2) (zeroBuf 15) dropBlocks 119).countPreEvent = 80 ∧
      (List.range 80).map (after (tinyParams 2 2 2) (zeroBuf 15) dropBlocks 119).preEvent
        ≠ slice (stream (tinyParams 2 2 2) dropBlocks) 40 120 := by
  refine ⟨⟨tinyOptions 2 2 2, by decide +kernel⟩,
    tinyParams_fits (by decide) (by decide) (by decide), by decide, ?_,
    by decide +kernel, by decide +kernel, fun heq => ?_⟩
  · unfold NotSaved
    decide +kernel
  have hcell : (after (tinyParams 2 2 2) (zeroBuf 15) dropBlocks 119).preEvent 39 = 1 := by
    decide +kernel
  have hstream : stream (tinyParams 2 2 2) dropBlocks 79 = 11 / 2 := by decide +kernel
  have h39 := congrArg (fun l => l[39]?) heq
  simp only [slice, List.getElem?_map] at h39
  norm_num [hcell, hstream] at h39

/-- A signal that jumps at sample 80 and falls at sample 120, the first of its block, no two samples
of these two blocks being the same. -/
def fallBlocks (N : ℕ) : Block ℚ :=
  .plain fun i =>
    if N * 40 + i = 79 then 50
    else if N * 40 + i < 80 then 1
    else if N * 40 + i < 120 then 4 + (i : ℚ) / 100
    else 1 + (i : ℚ) / 100

/-- The event of sample 80 stops with sample 120 and is discarded. -/
theorem discardsAt_fall : DiscardsAt (tinyParams 2 2 2) (zeroBuf 15) fallBlocks 120 := by
  unfold DiscardsAt
  decide +kernel

/-- No other one is. -/
theorem discardsAt_fall_unique : ∀ m ≤ 159,
    (before (tinyParams 2 2 2) (zeroBuf 15) fallBlocks m).eventOn = true →
      ((before (tinyParams 2 2 2) (zeroBuf 15) fallBlocks m).judged (tinyParams 2 2 2)
        (fallBlocks (m / 40)) (m % 40)).ratio ≤ 3 / 2 → m = 120 := by
  decide +kernel

/-- At the end of that block the register holds the last two blocks, which are the samples of the
discarded event and those from the one at which it stopped. -/
theorem register_recent_fall :
    DiscardsAt (tinyParams 2 2 2) (zeroBuf 15) fallBlocks 120 ∧
      (List.range 80).map (after (tinyParams 2 2 2) (zeroBuf 15) fallBlocks 159).preEvent
        = slice (stream (tinyParams 2 2 2) fallBlocks) 80 160 := by
  have hp : (tinyParams 2 2 2).Accepted := ⟨tinyOptions 2 2 2, by decide +kernel⟩
  have htidy : ∀ m ≤ 159, TidyAt (tinyParams 2 2 2) (zeroBuf 15) fallBlocks m := by
    refine fun m hm => ⟨fun hover => ?_, fun hdiscard => .inl ?_⟩
    · have := le_of_overflowsAt hp.checked hover
      exact absurd (this.trans hm) (by decide)
    · obtain rfl := discardsAt_fall_unique m hm hdiscard.2.1.1 hdiscard.2.2.1
      rfl
  exact ⟨discardsAt_fall, register_recent (p := tinyParams 2 2 2) hp (by decide) (zeroBuf 15)
    fallBlocks 159 htidy (by unfold NotSaved; decide +kernel) (by decide) (by decide +kernel)
    (by decide +kernel)⟩

end SensorIoT
