import SensorIoT.Lib.RunningMean
import SensorIoT.StaLta.Run
import Mathlib.Tactic.FieldSimp
import Mathlib.Tactic.Linarith

/-!
# The windows are running averages

The first `lengthLTA` samples go to `tempData`, and `inizializeFirstSamples` computes the windows
over them.  From then on every sample updates them: what enters is the sample, and what leaves is
found in `tempData` or, when the window reaches into the current block, among the new samples.

`Filling` and `Tracking` are the invariants of the two phases.  In the second one `tempData` holds
the samples up to the start of the current block, and `countLtaSta` is in step with the position in
the stream; that is what makes the program find the right sample (`Tracking.updateWindows`), and the
windows move with the true means ever after.

They do not start there, though.  `inizializeFirstSamples` adds only two samples where it should
add all that came so far, so the two windows are short by the samples the sums leave out, and stay
so.
-/

set_option autoImplicit false

namespace SensorIoT

open Register RunningMean

/-! ## The first windows -/

section Initial

variable {F : Type} [FloatArith F]

/-- The first `c + 1` cells of the windows are as `inizializeFirstSamples` fills them. -/
structure Initialized (p : Params F) (t : ℕ → F) (w : Windows F) (c : ℕ) : Prop where
  tempData : w.tempData = t
  sta_zero : w.sta 0 = t 0 / (p.lengthSTA : F)
  sta_early : ∀ k, 1 ≤ k → k ≤ c → k < p.lengthSTA →
    w.sta k = (t k + t (k - 1)) / (p.lengthSTA : F)
  sta_late : ∀ k, 1 ≤ k → k ≤ c → p.lengthSTA ≤ k →
    w.sta k = w.sta (k - 1) + (t k - t (k - p.lengthSTA)) / (p.lengthSTA : F)
  lta_zero : w.lta 0 = t 0 / (p.lengthLTA : F)
  lta_early : ∀ k, 1 ≤ k → k ≤ c → w.lta k = (t k + t (k - 1)) / (p.lengthLTA : F)
  staToLta : ∀ k ≤ c, w.staToLta k = FloatArith.fabs (w.sta k / w.lta k)

theorem Initialized.inizializeBody {p : Params F} {t : ℕ → F} {w : Windows F} {c : ℕ}
    (h : Initialized p t w c) : Initialized p t (inizializeBody p w (c + 1)) (c + 1) := by
  have hold : ∀ {k}, k ≤ c → k ≠ c + 1 := fun hk => by omega
  constructor
  case tempData => exact h.tempData
  case sta_zero =>
    simp only [SensorIoT.inizializeBody]
    rw [Function.update_of_ne c.succ_ne_zero.symm, h.sta_zero]
  case lta_zero =>
    simp only [SensorIoT.inizializeBody]
    rw [Function.update_of_ne c.succ_ne_zero.symm, h.lta_zero]
  case sta_early =>
    intro k h1 hk hS
    simp only [SensorIoT.inizializeBody, h.tempData]
    rcases Nat.le_succ_iff.mp hk with hk | rfl
    · rw [Function.update_of_ne (hold hk), h.sta_early k h1 hk hS]
    · rw [Function.update_self, if_pos hS]
  case sta_late =>
    intro k h1 hk hS
    have hprev : k - 1 ≠ c + 1 := by omega
    simp only [SensorIoT.inizializeBody, h.tempData]
    rw [Function.update_of_ne hprev]
    rcases Nat.le_succ_iff.mp hk with hk | rfl
    · rw [Function.update_of_ne (hold hk), h.sta_late k h1 hk hS]
    · rw [Function.update_self, if_neg (Nat.not_lt.mpr hS)]
  case lta_early =>
    intro k h1 hk
    simp only [SensorIoT.inizializeBody, h.tempData]
    rcases Nat.le_succ_iff.mp hk with hk | rfl
    · rw [Function.update_of_ne (hold hk), h.lta_early k h1 hk]
    · rw [Function.update_self]
  case staToLta =>
    intro k hk
    simp only [SensorIoT.inizializeBody]
    rcases Nat.le_succ_iff.mp hk with hk | rfl
    · simp only [Function.update_of_ne (hold hk), h.staToLta k hk]
    · simp only [Function.update_self]

/-- What `inizializeFirstSamples` leaves in the windows. -/
theorem initialized_inizializeFirstSamples (p : Params F) (w : Windows F) :
    Initialized p w.tempData (inizializeFirstSamples p w) (p.lengthLTA - 1) := by
  rw [inizializeFirstSamples]
  induction p.lengthLTA - 1 with
  | zero =>
    rw [List.range'_zero, List.foldl_nil]
    refine ⟨rfl, by simp only [Function.update_self], ?_, ?_, by simp only [Function.update_self],
      ?_, ?_⟩
    · intro k h1 h0; omega
    · intro k h1 h0; omega
    · intro k h1 h0; omega
    · intro k h0
      obtain rfl : k = 0 := Nat.le_zero.mp h0
      simp only [Function.update_self]
  | succ c ih =>
    rw [List.range'_1_concat, List.foldl_append, Nat.add_comm 1 c]
    exact ih.inizializeBody

@[simp] theorem inizializeFirstSamples_tempData (p : Params F) (w : Windows F) :
    (inizializeFirstSamples p w).tempData = w.tempData :=
  (initialized_inizializeFirstSamples p w).tempData

/-- `inizializeFirstSamples` does not touch the counters. -/
theorem inizializeFirstSamples_counters (p : Params F) (w : Windows F) :
    (inizializeFirstSamples p w).countTempData = w.countTempData ∧
      (inizializeFirstSamples p w).countLtaSta = w.countLtaSta := by
  rw [inizializeFirstSamples]
  induction p.lengthLTA - 1 with
  | zero => exact ⟨rfl, rfl⟩
  | succ c ih =>
    rw [List.range'_1_concat, List.foldl_append]
    exact ih

end Initial

/-! ## Following the stream -/

section Follow

variable {F : Type} [FloatArith F] {p : Params F} {bs : ℕ → Block F} {n : ℕ}

/-- Before sample `n`, while `tempData` is filling up. -/
structure Filling (p : Params F) (x : ℕ → F) (n : ℕ) (w : Windows F) : Prop where
  countTempData : w.countTempData = n
  countLtaSta : w.countLtaSta = 0
  tempData : ∀ i < n, w.tempData i = x i

/-- Before sample `n`, once `tempData` is full. -/
structure Tracking (p : Params F) (x : ℕ → F) (n : ℕ) (w : Windows F) : Prop where
  countTempData : w.countTempData = p.lengthLTA
  countLtaSta : w.countLtaSta = if n = p.lengthLTA then 0 else (n - 1) % p.lengthLTA + 1
  tempData : Holds x p.lengthLTA (n / p.freq * p.freq) w.tempData

/-- The windows before sample `n + 1` are those after sample `n`. -/
theorem before_succ_toWindows (hf : 0 < p.freq) (axis : CBuf) (bs : ℕ → Block F) (n : ℕ) :
    (before p axis bs (n + 1)).toWindows = (after p axis bs n).toWindows := by
  rw [before_succ hf]
  split
  · exact afterBlock_toWindows p _
  · rfl

theorem after_toWindows (p : Params F) (axis : CBuf) (bs : ℕ → Block F) (n : ℕ) :
    (after p axis bs n).toWindows
      = windowsBody p (before p axis bs n).toWindows (bs (n / p.freq)).samples (n % p.freq) := by
  rw [after_eq, staLtaBody_toWindows]

theorem windowsBody_fill {w : Windows F} (h : w.countTempData ≠ p.lengthLTA) (new : ℕ → F)
    (k : ℕ) :
    windowsBody p w new k
      = { fillTempData p w (new k) with
          countTempData := (fillTempData p w (new k)).countTempData + 1 } :=
  if_pos h

theorem windowsBody_update {w : Windows F} (h : w.countTempData = p.lengthLTA) (new : ℕ → F)
    (k : ℕ) : windowsBody p w new k = finishSample p (updateWindows p w new k) new k :=
  if_neg (not_not.mpr h)

theorem fillTempData_counters (p : Params F) (w : Windows F) (x : F) :
    (fillTempData p w x).countTempData = w.countTempData ∧
      (fillTempData p w x).countLtaSta = w.countLtaSta := by
  rw [fillTempData]
  split
  · exact inizializeFirstSamples_counters p _
  · exact ⟨rfl, rfl⟩

theorem fillTempData_tempData (p : Params F) (w : Windows F) (x : F) :
    (fillTempData p w x).tempData = Function.update w.tempData w.countTempData x := by
  rw [fillTempData]
  split
  · exact inizializeFirstSamples_tempData p _
  · rfl

theorem Filling.windowsBody {w : Windows F} (h : Filling p (stream p bs) n w)
    (hn : n < p.lengthLTA) :
    Filling p (stream p bs) (n + 1)
      (windowsBody p w (bs (n / p.freq)).samples (n % p.freq)) := by
  have hcount : w.countTempData ≠ p.lengthLTA := by rw [h.countTempData]; omega
  rw [windowsBody_fill hcount]
  refine ⟨?_, ?_, ?_⟩
  · simp only [(fillTempData_counters p w _).1, h.countTempData]
  · exact (fillTempData_counters p w _).2.trans h.countLtaSta
  · intro i hi
    simp only [fillTempData_tempData, h.countTempData]
    rcases Nat.lt_succ_iff_lt_or_eq.mp hi with hi | rfl
    · rw [Function.update_of_ne (Nat.ne_of_lt hi), h.tempData i hi]
    · rw [Function.update_self]; rfl

theorem filling_before (hf : 0 < p.freq) (axis : CBuf) (bs : ℕ → Block F) :
    ∀ n ≤ p.lengthLTA, Filling p (stream p bs) n (before p axis bs n).toWindows := by
  intro n
  induction n with
  | zero =>
    intro _
    rw [before_zero]
    exact ⟨rfl, rfl, fun i hi => absurd hi (Nat.not_lt_zero i)⟩
  | succ n ih =>
    intro hn
    rw [before_succ_toWindows hf, after_toWindows]
    exact (ih (Nat.le_of_succ_le hn)).windowsBody hn

/-- `tempData` is full from sample `lengthLTA` on, and not before. -/
theorem countTempData_eq_iff (hf : 0 < p.freq) (axis : CBuf) (bs : ℕ → Block F) (n : ℕ) :
    (before p axis bs n).countTempData = p.lengthLTA ↔ p.lengthLTA ≤ n := by
  constructor
  · intro h
    by_contra hn
    have := (filling_before hf axis bs n (by omega)).countTempData
    omega
  · intro hn
    induction n, hn using Nat.le_induction with
    | base => exact (filling_before hf axis bs p.lengthLTA (Nat.le_refl _)).countTempData
    | succ n hn ih =>
      rw [before_succ_toWindows hf, after_toWindows, windowsBody_update ih,
        finishSample_countTempData, updateWindows_countTempData]
      exact ih

omit [FloatArith F] in
/-- The cell the update of sample `n` writes, the counter wrapped where it has to be. -/
theorem Tracking.cell {x : ℕ → F} {w : Windows F} (h : Tracking p x n w) (hL : 0 < p.lengthLTA)
    (hn : p.lengthLTA ≤ n) :
    (if w.countLtaSta = p.lengthLTA then 0 else w.countLtaSta) = n % p.lengthLTA := by
  rw [h.countLtaSta]
  by_cases h0 : n = p.lengthLTA
  · rw [if_pos h0, h0, Nat.mod_self, if_neg (Nat.ne_of_lt hL)]
  · rw [if_neg h0]
    obtain ⟨m, rfl⟩ : ∃ m, n = m + 1 := ⟨n - 1, by omega⟩
    rw [Nat.add_sub_cancel]
    exact (BlockRun.succ_mod hL).symm

omit [FloatArith F] in
/-- The cell before the one a sample writes, across a wrap. -/
theorem pred_cell (hL : 0 < p.lengthLTA) (hn : 0 < n) :
    (n - 1) % p.lengthLTA
      = if n % p.lengthLTA = 0 then p.lengthLTA - 1 else n % p.lengthLTA - 1 := by
  obtain ⟨m, rfl⟩ : ∃ m, n = m + 1 := ⟨n - 1, by omega⟩
  have hsucc := BlockRun.succ_mod (n := m) hL
  have hm : m % p.lengthLTA < p.lengthLTA := Nat.mod_lt m hL
  split at hsucc <;> split <;> rw [Nat.add_sub_cancel] <;> omega

omit [FloatArith F] in
/-- Once `tempData` is full, it is full at the start of the block. -/
theorem start_le (hf : 0 < p.freq) (hdvd : p.freq ∣ p.lengthLTA) (hn : p.lengthLTA ≤ n) :
    p.lengthLTA ≤ n / p.freq * p.freq := by
  obtain ⟨q, hq⟩ := hdvd
  have hqn : q ≤ n / p.freq := (Nat.le_div_iff_mul_le hf).mpr (by rw [Nat.mul_comm]; omega)
  calc p.lengthLTA = q * p.freq := by rw [hq, Nat.mul_comm]
    _ ≤ n / p.freq * p.freq := Nat.mul_le_mul_right _ hqn

/-- What the update of sample `n` does: to the value of the sample before it, it adds what enters
the window and takes off what leaves it. -/
structure Updated (p : Params F) (x : ℕ → F) (n : ℕ) (w w' : Windows F) : Prop where
  countLtaSta : w'.countLtaSta = n % p.lengthLTA
  countTempData : w'.countTempData = p.lengthLTA
  tempData : w'.tempData = w.tempData
  sta : w'.sta (n % p.lengthLTA) = w.sta ((n - 1) % p.lengthLTA)
    + (x n - x (n - p.lengthSTA)) / (p.lengthSTA : F)
  lta : w'.lta (n % p.lengthLTA) = w.lta ((n - 1) % p.lengthLTA)
    + (x n - x (n - p.lengthLTA)) / (p.lengthLTA : F)
  staToLta : w'.staToLta (n % p.lengthLTA)
    = FloatArith.fabs (w'.sta (n % p.lengthLTA) / w'.lta (n % p.lengthLTA))

/-- **The right sample leaves the window**, whichever of the two buffers it is in.  The first cell
is only ever written at the start of a block, because the long window is a number of blocks. -/
theorem Tracking.updateWindows {w : Windows F} (h : Tracking p (stream p bs) n w)
    (hf : 0 < p.freq) (hdvd : p.freq ∣ p.lengthLTA) (hS : 1 ≤ p.lengthSTA)
    (hSL : p.lengthSTA ≤ p.lengthLTA) (hn : p.lengthLTA ≤ n) :
    Updated p (stream p bs) n w (updateWindows p w (bs (n / p.freq)).samples (n % p.freq)) := by
  have hL : 0 < p.lengthLTA := by omega
  have hfL : p.freq ≤ p.lengthLTA := Nat.le_of_dvd hL hdvd
  have hk : n % p.freq < p.freq := Nat.mod_lt n hf
  have hdiv : n / p.freq * p.freq + n % p.freq = n := Nat.div_add_mod' n p.freq
  have hstart := start_le hf hdvd hn
  -- where a sample of the stream that is still needed can be read
  have hold : ∀ i < p.lengthLTA, w.tempData i
      = stream p bs (n / p.freq * p.freq - p.lengthLTA + i) := h.tempData
  have hnew : ∀ i < p.freq, (bs (n / p.freq)).samples i
      = stream p bs (n / p.freq * p.freq + i) := by
    intro i hi
    rw [stream, BlockRun.block_div hi, BlockRun.block_mod hi]
  have hcell := h.cell hL hn
  have hprev := pred_cell (p := p) hL (show 0 < n by omega)
  have hx : (bs (n / p.freq)).samples (n % p.freq) = stream p bs n := rfl
  have hw : (if w.countLtaSta = p.lengthLTA then { w with countLtaSta := 0 } else w)
      = { w with countLtaSta := n % p.lengthLTA } := by
    rw [← hcell]
    split <;> rfl
  rw [SensorIoT.updateWindows, hw]
  simp only [h.countTempData, hx]
  by_cases h0 : n % p.lengthLTA = 0
  · have hk0 : n % p.freq = 0 :=
      Nat.mod_eq_zero_of_dvd (hdvd.trans (Nat.dvd_of_mod_eq_zero h0))
    rw [if_pos h0] at hprev ⊢
    refine ⟨rfl, rfl, rfl, ?_, ?_, ?_⟩
    · rw [hold _ (by omega), show n / p.freq * p.freq - p.lengthLTA + (p.lengthLTA - p.lengthSTA)
        = n - p.lengthSTA by omega]
      simp only [h0, hprev, Function.update_self]
    · rw [hold 0 hL, show n / p.freq * p.freq - p.lengthLTA + 0 = n - p.lengthLTA by omega]
      simp only [h0, hprev, Function.update_self]
    · simp only [h0, Function.update_self]
  · rw [if_neg h0] at hprev ⊢
    have hlta : w.tempData (n % p.freq) = stream p bs (n - p.lengthLTA) := by
      rw [hold _ (by omega)]
      congr 1
      omega
    have hsta : (if p.lengthLTA ≤ p.lengthLTA - p.lengthSTA + n % p.freq then
          w.sta (n % p.lengthLTA - 1)
            + (stream p bs n - (bs (n / p.freq)).samples (n % p.freq - p.lengthSTA))
              / (p.lengthSTA : F)
        else
          w.sta (n % p.lengthLTA - 1)
            + (stream p bs n - w.tempData (p.lengthLTA - p.lengthSTA + n % p.freq))
              / (p.lengthSTA : F))
        = w.sta (n % p.lengthLTA - 1)
            + (stream p bs n - stream p bs (n - p.lengthSTA)) / (p.lengthSTA : F) := by
      split
      · rw [hnew _ (by omega), show n / p.freq * p.freq + (n % p.freq - p.lengthSTA)
          = n - p.lengthSTA by omega]
      · rw [hold _ (by omega), show n / p.freq * p.freq - p.lengthLTA
          + (p.lengthLTA - p.lengthSTA + n % p.freq) = n - p.lengthSTA by omega]
    rw [hlta, hsta]
    refine ⟨rfl, rfl, rfl, ?_, ?_, ?_⟩ <;> simp only [hprev, Function.update_self]

omit [FloatArith F] in
@[simp] theorem finishSample_countLtaSta (p : Params F) (w : Windows F) (new : ℕ → F) (k : ℕ) :
    (finishSample p w new k).countLtaSta = w.countLtaSta + 1 := by
  rw [finishSample]
  split <;> rfl

omit [FloatArith F] in
/-- The end of a turn: at the end of a block `tempData` moves on to the start of the next one. -/
theorem holds_finishSample {w : Windows F} (hf : 0 < p.freq)
    (h : Holds (stream p bs) p.lengthLTA (n / p.freq * p.freq) w.tempData)
    (hstart : p.lengthLTA ≤ n / p.freq * p.freq) :
    Holds (stream p bs) p.lengthLTA ((n + 1) / p.freq * p.freq)
      (finishSample p w (bs (n / p.freq)).samples (n % p.freq)).tempData := by
  have hk : n % p.freq < p.freq := Nat.mod_lt n hf
  have hdiv : n / p.freq * p.freq + n % p.freq = n := Nat.div_add_mod' n p.freq
  have hnext : n + 1 = n / p.freq * p.freq + (n % p.freq + 1) := by omega
  rw [SensorIoT.finishSample]
  split
  · rename_i hlast
    have hnew : ∀ j < p.freq, (bs (n / p.freq)).samples (0 + j)
        = stream p bs (n / p.freq * p.freq + j) := by
      intro j hj
      rw [Nat.zero_add, stream, BlockRun.block_div hj, BlockRun.block_mod hj]
    have hmul : (n + 1) / p.freq * p.freq = n / p.freq * p.freq + p.freq := by
      rw [hnext, show n % p.freq + 1 = p.freq by omega, ← Nat.succ_mul,
        Nat.mul_div_cancel _ hf]
    rw [hmul]
    simp only [moveRegister_eq_shiftIn]
    exact h.shiftIn hstart hnew
  · rename_i hlast
    have hmul : (n + 1) / p.freq * p.freq = n / p.freq * p.freq := by
      rw [hnext, BlockRun.block_div (by omega)]
    rwa [hmul]

theorem Updated.finishSample {w w' : Windows F} (hu : Updated p (stream p bs) n w w')
    (h : Tracking p (stream p bs) n w) (hf : 0 < p.freq) (hn : p.lengthLTA ≤ n)
    (hstart : p.lengthLTA ≤ n / p.freq * p.freq) :
    Tracking p (stream p bs) (n + 1)
      (finishSample p w' (bs (n / p.freq)).samples (n % p.freq)) := by
  refine ⟨?_, ?_, holds_finishSample hf (hu.tempData ▸ h.tempData) hstart⟩
  · rw [finishSample_countTempData, hu.countTempData]
  · rw [finishSample_countLtaSta, hu.countLtaSta, if_neg (by omega), Nat.add_sub_cancel]

theorem updateWindows_tempData (p : Params F) (w : Windows F) (new : ℕ → F) (k : ℕ) :
    (updateWindows p w new k).tempData = w.tempData := by
  rw [updateWindows]
  split
  · split <;> rfl
  · split <;> rfl

/-- `tempData` follows the stream, whatever the short window is. -/
theorem holds_tempData (hf : 0 < p.freq) (hdvd : p.freq ∣ p.lengthLTA) (axis : CBuf)
    (bs : ℕ → Block F) (n : ℕ) (hn : p.lengthLTA ≤ n) :
    Holds (stream p bs) p.lengthLTA (n / p.freq * p.freq) (before p axis bs n).tempData := by
  induction n, hn using Nat.le_induction with
  | base =>
    intro i hi
    rw [Nat.div_mul_cancel hdvd, Nat.sub_self, Nat.zero_add]
    exact (filling_before hf axis bs p.lengthLTA (Nat.le_refl _)).tempData i hi
  | succ n hn ih =>
    have hcount := (countTempData_eq_iff hf axis bs n).mpr hn
    rw [before_succ_toWindows hf, after_toWindows, windowsBody_update hcount]
    exact holds_finishSample hf (by rwa [updateWindows_tempData]) (start_le hf hdvd hn)

/-- The windows keep following the stream, however often the counter wraps. -/
theorem tracking_before (hf : 0 < p.freq) (hdvd : p.freq ∣ p.lengthLTA) (hS : 1 ≤ p.lengthSTA)
    (hSL : p.lengthSTA ≤ p.lengthLTA) (axis : CBuf) (bs : ℕ → Block F) (n : ℕ)
    (hn : p.lengthLTA ≤ n) : Tracking p (stream p bs) n (before p axis bs n).toWindows := by
  induction n, hn using Nat.le_induction with
  | base =>
    have hfill := filling_before hf axis bs p.lengthLTA (Nat.le_refl _)
    exact ⟨hfill.countTempData, by rw [hfill.countLtaSta, if_pos rfl],
      holds_tempData hf hdvd axis bs _ (Nat.le_refl _)⟩
  | succ n hn ih =>
    rw [before_succ_toWindows hf, after_toWindows, windowsBody_update ih.countTempData]
    exact (ih.updateWindows hf hdvd hS hSL hn).finishSample ih hf hn
      (start_le hf hdvd hn)

/-- After a detection sample the windows are updated. -/
theorem updated_after (hf : 0 < p.freq) (hdvd : p.freq ∣ p.lengthLTA) (hS : 1 ≤ p.lengthSTA)
    (hSL : p.lengthSTA ≤ p.lengthLTA) (axis : CBuf) (bs : ℕ → Block F) (n : ℕ)
    (hn : p.lengthLTA ≤ n) :
    ∃ w, Updated p (stream p bs) n (before p axis bs n).toWindows w ∧
      (after p axis bs n).toWindows
        = finishSample p w (bs (n / p.freq)).samples (n % p.freq) := by
  have h := tracking_before hf hdvd hS hSL axis bs n hn
  refine ⟨_, h.updateWindows hf hdvd hS hSL hn, ?_⟩
  rw [after_toWindows, windowsBody_update h.countTempData]

omit [FloatArith F] in
@[simp] theorem finishSample_sta (p : Params F) (w : Windows F) (new : ℕ → F) (k : ℕ) :
    (finishSample p w new k).sta = w.sta := by
  rw [finishSample]
  split <;> rfl

omit [FloatArith F] in
@[simp] theorem finishSample_lta (p : Params F) (w : Windows F) (new : ℕ → F) (k : ℕ) :
    (finishSample p w new k).lta = w.lta := by
  rw [finishSample]
  split <;> rfl

/-- The stored averages from one sample to the next. -/
theorem averages_succ (hf : 0 < p.freq) (hdvd : p.freq ∣ p.lengthLTA) (hS : 1 ≤ p.lengthSTA)
    (hSL : p.lengthSTA ≤ p.lengthLTA) (axis : CBuf) (bs : ℕ → Block F) (n : ℕ)
    (hn : p.lengthLTA ≤ n + 1) :
    (after p axis bs (n + 1)).countLtaSta = (n + 1) % p.lengthLTA + 1 ∧
      (after p axis bs (n + 1)).sta ((n + 1) % p.lengthLTA)
        = (after p axis bs n).sta (n % p.lengthLTA)
          + (stream p bs (n + 1) - stream p bs (n + 1 - p.lengthSTA)) / (p.lengthSTA : F) ∧
      (after p axis bs (n + 1)).lta ((n + 1) % p.lengthLTA)
        = (after p axis bs n).lta (n % p.lengthLTA)
          + (stream p bs (n + 1) - stream p bs (n + 1 - p.lengthLTA)) / (p.lengthLTA : F) := by
  obtain ⟨w, hu, hw⟩ := updated_after hf hdvd hS hSL axis bs (n + 1) hn
  have hsta := hu.sta
  have hlta := hu.lta
  rw [before_succ_toWindows hf, Nat.add_sub_cancel] at hsta hlta
  refine ⟨?_, ?_, ?_⟩
  · rw [hw, finishSample_countLtaSta, hu.countLtaSta]
  · rw [hw, finishSample_sta, hsta]
  · rw [hw, finishSample_lta, hlta]

/-- The ratio a sample is judged by is that of the averages it updates. -/
theorem judged_ratio (hf : 0 < p.freq) (hdvd : p.freq ∣ p.lengthLTA) (hS : 1 ≤ p.lengthSTA)
    (hSL : p.lengthSTA ≤ p.lengthLTA) (axis : CBuf) (bs : ℕ → Block F) (n : ℕ)
    (hn : p.lengthLTA ≤ n) :
    ((before p axis bs n).judged p (bs (n / p.freq)) (n % p.freq)).ratio
      = FloatArith.fabs ((after p axis bs n).sta (n % p.lengthLTA)
          / (after p axis bs n).lta (n % p.lengthLTA)) := by
  have h := tracking_before hf hdvd hS hSL axis bs n hn
  have hu := h.updateWindows hf hdvd hS hSL hn
  have hafter := after_toWindows p axis bs n
  rw [windowsBody_update h.countTempData] at hafter
  rw [hafter, finishSample_sta, finishSample_lta, ← hu.staToLta, ← hu.countLtaSta]
  rfl

/-- The sample that fills `tempData` leaves what `inizializeFirstSamples` makes of the samples so
far. -/
theorem after_fill (hf : 0 < p.freq) (hL : 0 < p.lengthLTA) (axis : CBuf) (bs : ℕ → Block F) :
    ∃ w : Windows F, (∀ i < p.lengthLTA, w.tempData i = stream p bs i) ∧
      (after p axis bs (p.lengthLTA - 1)).toWindows
        = { inizializeFirstSamples p w with countTempData := p.lengthLTA } := by
  have h := filling_before hf axis bs (p.lengthLTA - 1) (by omega)
  have hcount : (before p axis bs (p.lengthLTA - 1)).countTempData ≠ p.lengthLTA := by
    rw [h.countTempData]; omega
  refine ⟨{ (before p axis bs (p.lengthLTA - 1)).toWindows with
    tempData := Function.update (before p axis bs (p.lengthLTA - 1)).tempData
      (before p axis bs (p.lengthLTA - 1)).countTempData (stream p bs (p.lengthLTA - 1)) },
    ?_, ?_⟩
  · intro i hi
    simp only [h.countTempData]
    rcases Nat.lt_or_eq_of_le (Nat.le_sub_one_of_lt hi) with hi | rfl
    · rw [Function.update_of_ne (Nat.ne_of_lt hi), h.tempData i hi]
    · rw [Function.update_self]
  · rw [after_toWindows, windowsBody_fill hcount, fillTempData]
    simp only [h.countTempData, if_true]
    rw [(inizializeFirstSamples_counters p _).1, Nat.sub_add_cancel hL]
    rfl

end Follow

/-! ## The averages over the rationals -/

section Exact

variable {p : Params ℚ}

/-- What is right about the averages stored with sample `n`, when the first ones are those of `w`:
they are as far from the true means as the first ones, and they come from those of the sample before
by adding what enters the window and taking off what leaves it. -/
structure AveragesAt (p : Params ℚ) (axis : CBuf) (bs : ℕ → Block ℚ) (w : Windows ℚ) (n : ℕ) :
    Prop where
  cell : (after p axis bs n).countLtaSta = n % p.lengthLTA + 1
  sta_distance : (after p axis bs n).sta (n % p.lengthLTA) - mean (stream p bs) p.lengthSTA n
    = w.sta (p.lengthLTA - 1) - mean (stream p bs) p.lengthSTA (p.lengthLTA - 1)
  lta_distance : (after p axis bs n).lta (n % p.lengthLTA) - mean (stream p bs) p.lengthLTA n
    = w.lta (p.lengthLTA - 1) - mean (stream p bs) p.lengthLTA (p.lengthLTA - 1)
  sta_step : (after p axis bs n).sta (n % p.lengthLTA)
    = (after p axis bs (n - 1)).sta ((n - 1) % p.lengthLTA)
      + (stream p bs n - stream p bs (n - p.lengthSTA)) / p.lengthSTA
  lta_step : (after p axis bs n).lta (n % p.lengthLTA)
    = (after p axis bs (n - 1)).lta ((n - 1) % p.lengthLTA)
      + (stream p bs n - stream p bs (n - p.lengthLTA)) / p.lengthLTA

/-- **The recursive updates are exact.**  At every sample from `lengthLTA` on, the averages stored
are as far from the true means of the last `lengthSTA` and the last `lengthLTA` samples as those
that `inizializeFirstSamples` left. -/
theorem averages_keep_distance (hS : 1 ≤ p.lengthSTA) (hSL : p.lengthSTA ≤ p.lengthLTA)
    (hdvd : p.freq ∣ p.lengthLTA) (axis : CBuf) (bs : ℕ → Block ℚ) :
    ∃ w : Windows ℚ, (∀ i < p.lengthLTA, w.tempData i = stream p bs i) ∧
      (after p axis bs (p.lengthLTA - 1)).toWindows
        = { inizializeFirstSamples p w with countTempData := p.lengthLTA } ∧
      ∀ n, p.lengthLTA ≤ n → AveragesAt p axis bs (inizializeFirstSamples p w) n := by
  have hL : 0 < p.lengthLTA := by omega
  have hf : 0 < p.freq := Nat.pos_of_dvd_of_pos hdvd hL
  have hsucc := averages_succ hf hdvd hS hSL axis bs
  obtain ⟨w, htemp, hw⟩ := after_fill hf hL axis bs
  refine ⟨w, htemp, hw, fun n hn => ?_⟩
  have hlast : (p.lengthLTA - 1) % p.lengthLTA = p.lengthLTA - 1 := Nat.mod_eq_of_lt (by omega)
  have hsta := drift_const (x := stream p bs) (w := p.lengthSTA) (a := p.lengthLTA - 1)
    (s := fun n => (after p axis bs n).sta (n % p.lengthLTA)) (by omega) (b := n)
    (fun m hm _ => (hsucc m (by omega)).2.1) n (by omega) (Nat.le_refl n)
  have hlta := drift_const (x := stream p bs) (w := p.lengthLTA) (a := p.lengthLTA - 1)
    (s := fun n => (after p axis bs n).lta (n % p.lengthLTA)) (by omega) (b := n)
    (fun m hm _ => (hsucc m (by omega)).2.2) n (by omega) (Nat.le_refl n)
  simp only [hlast, hw] at hsta hlta
  obtain ⟨m, rfl⟩ : ∃ m, n = m + 1 := ⟨n - 1, by omega⟩
  obtain ⟨hcount, hsta', hlta'⟩ := hsucc m hn
  exact ⟨hcount, hsta, hlta, hsta', hlta'⟩

/-- A run whose windows wrap at every block. -/
theorem averages_keep_distance_tiny :
    ∃ w : Windows ℚ, (∀ i < 40, w.tempData i = i) ∧
      ∀ n, 40 ≤ n → AveragesAt (tinyParams 1 1 0) (zeroBuf 15) (fun _ => .plain fun i => i)
        (inizializeFirstSamples (tinyParams 1 1 0) w) n := by
  obtain ⟨w, htemp, -, h⟩ := averages_keep_distance (p := tinyParams 1 1 0) (by decide)
    (by decide) (by decide) (zeroBuf 15) (fun _ => .plain fun i => (i : ℚ))
  refine ⟨w, fun i hi => (htemp i hi).trans ?_, h⟩
  rw [stream, Block.plain, show i % (tinyParams 1 1 0).freq = i from Nat.mod_eq_of_lt hi]

/-- On a steady signal the averages never move. -/
theorem averages_steady (hS : 1 ≤ p.lengthSTA) (hSL : p.lengthSTA ≤ p.lengthLTA)
    (hdvd : p.freq ∣ p.lengthLTA) (axis : CBuf) (bs : ℕ → Block ℚ) {c : ℚ}
    (hx : ∀ n, stream p bs n = c) (n : ℕ) (hn : p.lengthLTA - 1 ≤ n) :
    (after p axis bs n).sta (n % p.lengthLTA)
        = (after p axis bs (p.lengthLTA - 1)).sta (p.lengthLTA - 1) ∧
      (after p axis bs n).lta (n % p.lengthLTA)
        = (after p axis bs (p.lengthLTA - 1)).lta (p.lengthLTA - 1) := by
  have hf : 0 < p.freq := Nat.pos_of_dvd_of_pos hdvd (by omega)
  induction n, hn using Nat.le_induction with
  | base => rw [Nat.mod_eq_of_lt (show p.lengthLTA - 1 < p.lengthLTA by omega)]; exact ⟨rfl, rfl⟩
  | succ n hn ih =>
    obtain ⟨-, hsta, hlta⟩ := averages_succ hf hdvd hS hSL axis bs n (by omega)
    rw [hsta, hlta, ih.1, ih.2, hx, hx, hx, sub_self]
    simp

/-! ## How the averages start -/

/-- The windows hold the means of the samples `t`, and their ratio. -/
structure TrueAverages (p : Params ℚ) (t : ℕ → ℚ) (w : Windows ℚ) : Prop where
  sta : ∀ k, p.lengthSTA - 1 ≤ k → k < p.lengthLTA → w.sta k = mean t p.lengthSTA k
  lta : w.lta (p.lengthLTA - 1) = mean t p.lengthLTA (p.lengthLTA - 1)
  staToLta : w.staToLta (p.lengthLTA - 1)
    = |mean t p.lengthSTA (p.lengthLTA - 1) / mean t p.lengthLTA (p.lengthLTA - 1)|

/-- Two samples make the mean of a window when the others sum to zero. -/
theorem two_samples_eq_mean_iff {t : ℕ → ℚ} {k : ℕ} :
    (t (k + 1) + t k) / (k + 2 : ℕ) = mean t (k + 2) (k + 1) ↔
      ∑ i ∈ Finset.range k, t i = 0 := by
  have hk : ((k + 2 : ℕ) : ℚ) ≠ 0 := Nat.cast_ne_zero.mpr (by omega)
  have hmean : mean t (k + 2) (k + 1)
      = (∑ i ∈ Finset.range k, t i + t k + t (k + 1)) / (k + 2 : ℕ) := by
    rw [← Finset.sum_range_succ, ← Finset.sum_range_succ]
    exact mean_pred (by omega)
  rw [hmean, div_left_inj' hk]
  constructor <;> intro h <;> linarith

/-- A window that starts from its last two samples starts from its mean when the others sum to
zero. -/
theorem start_eq_mean_iff {t : ℕ → ℚ} {s : ℚ} {w : ℕ} (hw : 1 ≤ w)
    (h0 : w = 1 → s = t 0 / (w : ℚ))
    (h : 2 ≤ w → s = (t (w - 1) + t (w - 1 - 1)) / (w : ℚ)) :
    s = mean t w (w - 1) ↔ ∑ i ∈ Finset.range (w - 2), t i = 0 := by
  obtain rfl | ⟨k, rfl⟩ : w = 1 ∨ ∃ k, w = k + 2 := by
    rcases Nat.lt_or_ge w 2 with hw' | hw'
    · exact .inl (by omega)
    · exact .inr ⟨w - 2, by omega⟩
  · rw [h0 rfl, mean_pred (Nat.le_refl 1)]
    simp
  · rw [h (by omega)]
    exact two_samples_eq_mean_iff

/-- **When the windows start from true averages**: when the samples that their first sums leave out,
all but the last two of each window, sum to zero. -/
theorem trueAverages_iff (hS : 1 ≤ p.lengthSTA) (hSL : p.lengthSTA ≤ p.lengthLTA)
    (w : Windows ℚ) :
    TrueAverages p w.tempData (inizializeFirstSamples p w) ↔
      ∑ i ∈ Finset.range (p.lengthSTA - 2), w.tempData i = 0 ∧
        ∑ i ∈ Finset.range (p.lengthLTA - 2), w.tempData i = 0 := by
  have hinit := initialized_inizializeFirstSamples p w
  have hsta : (inizializeFirstSamples p w).sta (p.lengthSTA - 1)
      = mean w.tempData p.lengthSTA (p.lengthSTA - 1) ↔
        ∑ i ∈ Finset.range (p.lengthSTA - 2), w.tempData i = 0 :=
    start_eq_mean_iff hS (fun h1 => (Nat.sub_eq_zero_of_le h1.le) ▸ hinit.sta_zero)
      fun h2 => hinit.sta_early _ (by omega) (by omega) (by omega)
  have hlta : (inizializeFirstSamples p w).lta (p.lengthLTA - 1)
      = mean w.tempData p.lengthLTA (p.lengthLTA - 1) ↔
        ∑ i ∈ Finset.range (p.lengthLTA - 2), w.tempData i = 0 :=
    start_eq_mean_iff (by omega) (fun h1 => (Nat.sub_eq_zero_of_le h1.le) ▸ hinit.lta_zero)
      fun h2 => hinit.lta_early _ (by omega) (by omega)
  rw [← hsta, ← hlta]
  constructor
  · exact fun h => ⟨h.sta _ (Nat.le_refl _) (by omega), h.lta⟩
  · rintro ⟨hs, hl⟩
    -- the recursion carries the short average on from its start
    have hdrift := drift_const (x := w.tempData) (w := p.lengthSTA) (a := p.lengthSTA - 1)
      (s := (inizializeFirstSamples p w).sta) (by omega) (b := p.lengthLTA - 1)
      fun n hn hb => hinit.sta_late (n + 1) (by omega) (by omega) (by omega)
    have hall : ∀ k, p.lengthSTA - 1 ≤ k → k < p.lengthLTA →
        (inizializeFirstSamples p w).sta k = mean w.tempData p.lengthSTA k := by
      intro k hk hkL
      have := hdrift k hk (by omega)
      rwa [hs, sub_self, sub_eq_zero] at this
    refine ⟨hall, hl, ?_⟩
    rw [hinit.staToLta _ (Nat.le_refl _), hall _ (by omega) (by omega), hl]
    rfl

/-- The windows before anything was stored in them, over given samples. -/
def Windows.over (t : ℕ → ℚ) : Windows ℚ where
  sta := fun _ => 0
  lta := fun _ => 0
  staToLta := fun _ => 0
  countLtaSta := 0
  countTempData := 39
  tempData := t

/-- On a steady signal the long window starts at a twentieth of its mean. -/
theorem not_trueAverages_steady :
    ¬ TrueAverages (tinyParams 1 1 0) (fun _ => 1)
      (inizializeFirstSamples (tinyParams 1 1 0) (.over fun _ => 1)) := by
  intro h
  have hlta := (initialized_inizializeFirstSamples (tinyParams 1 1 0)
    (.over fun _ => 1)).lta_early 39 (by decide) (by decide)
  have hmean : mean (fun _ => (1 : ℚ)) 40 39 = 1 := by
    norm_num [mean]
  have htrue : (inizializeFirstSamples (tinyParams 1 1 0) (.over fun _ => 1)).lta 39 = 1 :=
    h.lta.trans hmean
  rw [hlta] at htrue
  norm_num [Windows.over, tinyParams] at htrue

/-- Windows that do start from true averages: only the last two samples are not zero. -/
theorem trueAverages_iff_tiny :
    TrueAverages (tinyParams 1 1 0) (Windows.over fun i => if i < 38 then 0 else 1).tempData
      (inizializeFirstSamples (tinyParams 1 1 0) (.over fun i => if i < 38 then 0 else 1)) := by
  refine (trueAverages_iff (by decide) (by decide) _).mpr ⟨rfl, ?_⟩
  exact Finset.sum_eq_zero fun i hi => if_pos (Finset.mem_range.mp hi)

end Exact

end SensorIoT
