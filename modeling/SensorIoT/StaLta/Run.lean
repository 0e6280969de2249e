import SensorIoT.Lib.BlockRun
import SensorIoT.EventFile
import SensorIoT.StaLta.Step

/-!
# Runs of one axis

What an axis goes through from program start: `sta_lta` on one block after the other and, at the
end of a block that leaves an event complete, `createEventFile`.  The program stores in
`params.freq` the number of samples per second it reads, so `freq` is also the `SPS` of
`createEventFile`.

`axisRun` is the state at the block boundaries, where `sta_lta` is entered.  `before n` and
`after n` are the states around sample `n` of the stream — between them they are all the states
that can be observed between two samples — and `sampleStep` says how one leads to the other.
-/

set_option autoImplicit false

namespace SensorIoT

variable {F : Type} [FloatArith F]

/-- The stream an axis is fed, sample by sample. -/
def stream (p : Params F) (bs : ℕ → Block F) (n : ℕ) : F := (bs (n / p.freq)).samples (n % p.freq)

/-- The state at the boundary after `N` blocks. -/
def axisRun (p : Params F) (axis : CBuf) (bs : ℕ → Block F) : ℕ → EventData F :=
  BlockRun.run p.freq (staLtaBody p axis) (afterBlock p) EventData.init bs

/-- The state just before sample `n`. -/
def before (p : Params F) (axis : CBuf) (bs : ℕ → Block F) : ℕ → EventData F :=
  BlockRun.before p.freq (staLtaBody p axis) (afterBlock p) EventData.init bs

/-- The state just after sample `n`, the block not yet closed. -/
def after (p : Params F) (axis : CBuf) (bs : ℕ → Block F) : ℕ → EventData F :=
  BlockRun.after p.freq (staLtaBody p axis) (afterBlock p) EventData.init bs

/-- A run is `sta_lta` on each block, and `createEventFile` where an event is complete. -/
theorem axisRun_succ (p : Params F) (axis : CBuf) (bs : ℕ → Block F) (N : ℕ) :
    axisRun p axis bs (N + 1) = afterBlock p (staLta p axis (axisRun p axis bs N) (bs N)) :=
  rfl

@[simp] theorem before_zero (p : Params F) (axis : CBuf) (bs : ℕ → Block F) :
    before p axis bs 0 = EventData.init :=
  BlockRun.before_zero

theorem after_eq (p : Params F) (axis : CBuf) (bs : ℕ → Block F) (n : ℕ) :
    after p axis bs n
      = staLtaBody p axis (before p axis bs n) (bs (n / p.freq)) (n % p.freq) :=
  rfl

/-- At the start of a block the state is that of the block boundary. -/
theorem before_boundary {p : Params F} (hf : 0 < p.freq) (axis : CBuf) (bs : ℕ → Block F) (N : ℕ) :
    before p axis bs (N * p.freq) = axisRun p axis bs N :=
  BlockRun.before_mul hf N

/-- The last sample of a block leaves what `sta_lta` returns. -/
theorem after_last {p : Params F} (hf : 0 < p.freq) (axis : CBuf) (bs : ℕ → Block F) (N : ℕ) :
    after p axis bs (N * p.freq + (p.freq - 1))
      = staLta p axis (axisRun p axis bs N) (bs N) := by
  have h : p.freq - 1 < p.freq := by omega
  rw [after, BlockRun.after_eq_upto h, Nat.sub_add_cancel hf]
  rfl

/-- A block without anything special about it. -/
def Block.plain (samples : ℕ → ℚ) : Block ℚ where
  samples := samples
  date := "010120".toList
  time := "100000".toList
  isGPS := false
  memStart := fun _ => ⟨[], [], []⟩
  memStop := fun _ => ⟨[], [], []⟩

/-! ## The windows go their own way -/

/-- What one turn of the loop of `sta_lta` does to the windows. -/
def windowsBody (p : Params F) (w : Windows F) (newSamples : ℕ → F) (count : ℕ) : Windows F :=
  if w.countTempData ≠ p.lengthLTA then
    let w := fillTempData p w (newSamples count)
    { w with countTempData := w.countTempData + 1 }
  else finishSample p (updateWindows p w newSamples count) newSamples count

theorem detectEvent_toWindows (p : Params F) (event : EventData F) (b : Block F) (axis : CBuf)
    (k : ℕ) : (detectEvent p event b axis k).toWindows = event.toWindows := by
  have hcheck : ∀ (m m' : SecondsMem) (e : EventData F) (t : CBuf),
      (checkMinimunDuration p m m' e t).2.toWindows = e.toWindows := by
    intro m m' e t
    simp only [checkMinimunDuration]
    split
    · split <;> rfl
    · rfl
  have hstart : ∀ e : EventData F, (startEvent p e b axis k).toWindows = e.toWindows := by
    intro e
    rw [startEvent]
    split
    · rfl
    · split <;> rfl
  have hstop : ∀ e : EventData F, (stopEvent p e b k).toWindows = e.toWindows := by
    intro e
    rw [stopEvent]
    split
    · rw [settleEvent]
      split <;> exact hcheck _ _ _ _
    · rfl
  have hstore : ∀ e : EventData F, (storeSample p e b k).toWindows = e.toWindows := by
    intro e
    rw [storeSample]
    split
    · split
      · exact hcheck _ _ _ _
      · rfl
    · rfl
  rw [detectEvent]
  split
  · split
    · rw [addPostEvent]
      split <;> rfl
    · rw [hstore, hstop, hstart]
  · rfl

theorem staLtaBody_toWindows (p : Params F) (axis : CBuf) (event : EventData F) (b : Block F)
    (k : ℕ) :
    (staLtaBody p axis event b k).toWindows = windowsBody p event.toWindows b.samples k := by
  rw [staLtaBody, windowsBody]
  split
  · rfl
  · simp only [detectEvent_toWindows]

theorem updateWindows_countTempData (p : Params F) (w : Windows F) (new : ℕ → F) (k : ℕ) :
    (updateWindows p w new k).countTempData = w.countTempData := by
  rw [updateWindows]
  split
  · split <;> rfl
  · split <;> rfl

omit [FloatArith F] in
theorem finishSample_countTempData (p : Params F) (w : Windows F) (new : ℕ → F) (k : ℕ) :
    (finishSample p w new k).countTempData = w.countTempData := by
  rw [finishSample]
  split <;> rfl

theorem afterBlock_toWindows (p : Params F) (event : EventData F) :
    (afterBlock p event).toWindows = event.toWindows := by
  rw [afterBlock]
  split <;> rfl

/-! ## One sample -/

/-- The state `detectEvent` is called in: the windows take the sample first. -/
def EventData.judged (p : Params F) (e : EventData F) (b : Block F) (k : ℕ) : EventData F :=
  { e with toWindows := updateWindows p e.toWindows b.samples k }

/-- What one turn of the loop of `sta_lta` does. -/
inductive SampleStep (p : Params F) (b : Block F) (axis : CBuf) (k : ℕ) (e : EventData F) :
    EventData F → Prop
  /-- `tempData` is still filling up. -/
  | fill (h : e.countTempData ≠ p.lengthLTA) (w : Windows F) :
      SampleStep p b axis k e
        { e with
          toWindows := w
          toPreRegister :=
            if k = p.freq - 1 then addSamplesPreEvent p e.toPreRegister b.samples p.freq 0
            else e.toPreRegister }
  /-- The sample is judged by the ratio. -/
  | detect (h : e.countTempData = p.lengthLTA) {e' : EventData F}
      (hstep : DetectStep p b axis k (e.judged p b k) e') (w : Windows F)
      (hw : w.countTempData = p.lengthLTA) :
      SampleStep p b axis k e { e' with toWindows := w }

theorem sampleStep_staLtaBody {p : Params F} (hp : p.Checked) (b : Block F) (axis : CBuf) (k : ℕ)
    (e : EventData F) : SampleStep p b axis k e (staLtaBody p axis e b k) := by
  rw [staLtaBody]
  by_cases h : e.countTempData = p.lengthLTA
  · rw [if_neg (not_not.mpr h)]
    refine .detect h (detectStep_detectEvent hp b axis k _) _ ?_
    rw [finishSample_countTempData, detectEvent_toWindows]
    exact (updateWindows_countTempData p _ _ k).trans h
  · rw [if_pos h]
    exact .fill h _

/-- While `tempData` is filling up, only the register changes, at the end of a block. -/
theorem SampleStep.filled {p : Params F} {b : Block F} {axis : CBuf} {k : ℕ} {e e' : EventData F}
    (hs : SampleStep p b axis k e e') (h : e.countTempData ≠ p.lengthLTA) :
    ∃ w, e' =
      { e with
        toWindows := w
        toPreRegister :=
          if k = p.freq - 1 then addSamplesPreEvent p e.toPreRegister b.samples p.freq 0
          else e.toPreRegister } := by
  cases hs with
  | fill _ w => exact ⟨w, rfl⟩
  | detect hfull => exact absurd hfull h

/-- Once `tempData` is full, every sample is judged. -/
theorem SampleStep.detected {p : Params F} {b : Block F} {axis : CBuf} {k : ℕ} {e e' : EventData F}
    (hs : SampleStep p b axis k e e') (h : e.countTempData = p.lengthLTA) :
    ∃ d w, DetectStep p b axis k (e.judged p b k) d ∧ e' = { d with toWindows := w } := by
  cases hs with
  | fill hne => exact absurd h hne
  | detect _ hstep w => exact ⟨_, w, hstep, rfl⟩

/-- **From the state before a sample to the state after it.** -/
theorem sampleStep {p : Params F} (hp : p.Checked) (axis : CBuf) (bs : ℕ → Block F) (n : ℕ) :
    SampleStep p (bs (n / p.freq)) axis (n % p.freq) (before p axis bs n) (after p axis bs n) :=
  sampleStep_staLtaBody hp _ axis _ _

/-- **From one sample to the next.**  At the end of a block a complete event is saved. -/
theorem before_succ {p : Params F} (hf : 0 < p.freq) (axis : CBuf) (bs : ℕ → Block F) (n : ℕ) :
    before p axis bs (n + 1)
      = if (n + 1) % p.freq = 0 then afterBlock p (after p axis bs n) else after p axis bs n := by
  split
  · exact BlockRun.before_succ_of_mod_eq hf ‹_›
  · exact BlockRun.before_succ_of_mod_ne hf ‹_›

/-- Between two samples no event starts or stops. -/
theorem eventOn_before_succ {p : Params F} (hf : 0 < p.freq) (axis : CBuf) (bs : ℕ → Block F)
    (n : ℕ) : (before p axis bs (n + 1)).eventOn = (after p axis bs n).eventOn := by
  rw [before_succ hf, afterBlock]
  split
  · split <;> rfl
  · rfl

end SensorIoT
