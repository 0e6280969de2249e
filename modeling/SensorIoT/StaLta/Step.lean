import SensorIoT.Lib.Register
import SensorIoT.Params

/-!
# What one sample can do to the detector

One lemma for each function of `SensorIoT.StaLta.Defs`, saying what it does in closed form, so that
nothing later has to unfold a loop or split the branches of `detectEvent` again.

`DetectStep` is the result for `detectEvent`: the eleven things that can happen to an axis on one
sample, each with the conditions under which it happens and the state it leads to.  Every invariant
of the detector is a case analysis over it.
-/

set_option autoImplicit false

namespace SensorIoT

open Register

variable {F : Type}

/-! ## The registers -/

/-- After `c` turns of the in-place loop the first `c` cells are done and the others untouched. -/
theorem moveRegister_foldl (buf new : ℕ → F) (k w start : ℕ) :
    ∀ c ≤ w, (List.range c).foldl (moveRegisterBody new k w start) buf
      = fun i => if i < c then shiftIn w buf new k start i else buf i := by
  intro c
  induction c with
  | zero => intro _; simp
  | succ c ih =>
    intro hc
    rw [List.range_succ, List.foldl_append, ih (by omega)]
    funext i
    simp only [List.foldl_cons, List.foldl_nil, moveRegisterBody]
    rcases Nat.lt_trichotomy i c with h | rfl | h
    · split <;> simp [Function.update_of_ne (Nat.ne_of_lt h), h, Nat.lt_succ_of_lt h]
    · have hiff : ((w : ℤ) - k ≤ i) ↔ w ≤ i + k := by omega
      have hidx : w ≤ i + k → ((i : ℤ) - ((w : ℤ) - k)).toNat + start = i + k - w + start := by
        omega
      -- the cell read, `k + i`, is not one of those already overwritten
      have hread : ¬ k + i < i := by omega
      by_cases hw : w ≤ i + k
      · simp [hiff.mpr hw, hidx hw, shiftIn, hw, Nat.lt_of_succ_le hc]
      · simp [hiff.not.mpr hw, hread, shiftIn, hw, Nat.lt_of_succ_le hc]
    · split <;> simp [Function.update_of_ne (Nat.ne_of_gt h), Nat.not_lt_of_gt h,
        show ¬ i < c + 1 by omega]

/-- **The in-place loop of `moveRegister` shifts the new samples in**, however many they are. -/
theorem moveRegister_eq_shiftIn (buf new : ℕ → F) (k w start : ℕ) :
    moveRegister buf new k w start = shiftIn w buf new k start := by
  rw [moveRegister, moveRegister_foldl buf new k w start w (Nat.le_refl w)]
  funext i
  split
  · rfl
  · exact (shiftIn_of_le (by omega)).symm

/-- A register that is full is moved on. -/
theorem addSamplesPreEvent_full {p : Params F} {r : PreRegister F}
    (h : r.countPreEvent = p.preEvent) (samples : ℕ → F) (k start : ℕ) :
    addSamplesPreEvent p r samples k start
      = { r with preEvent := shiftIn p.preEvent r.preEvent samples k start } := by
  rw [addSamplesPreEvent, if_neg (not_not.mpr h), moveRegister_eq_shiftIn, h]

/-- A register that is not full takes all the samples from the first one on, wherever that leads
it. -/
theorem addSamplesPreEvent_filling {p : Params F} {r : PreRegister F}
    (h : r.countPreEvent ≠ p.preEvent) (samples : ℕ → F) (k start : ℕ) :
    addSamplesPreEvent p r samples k start
      = { preEvent := fun i =>
            if r.countPreEvent ≤ i ∧ i < r.countPreEvent + k then samples (i - r.countPreEvent)
            else r.preEvent i
          countPreEvent := r.countPreEvent + k } := by
  rw [addSamplesPreEvent, if_pos h]
  induction k with
  | zero =>
    have hempty : ∀ i, ¬ (r.countPreEvent ≤ i ∧ i < r.countPreEvent + 0) := by omega
    simp only [hempty, if_false]
    rfl
  | succ k ih =>
    rw [List.range_succ, List.foldl_append, ih]
    simp only [List.foldl_cons, List.foldl_nil, fillPreEvent, PreRegister.mk.injEq]
    refine ⟨?_, Nat.add_assoc _ _ _⟩
    funext i
    by_cases hi : i = r.countPreEvent + k
    · subst hi; simp
    · rw [Function.update_of_ne hi]
      have hiff : (r.countPreEvent ≤ i ∧ i < r.countPreEvent + k) ↔
          (r.countPreEvent ≤ i ∧ i < r.countPreEvent + (k + 1)) := by omega
      simp only [hiff]

variable [FloatArith F]

/-! ## Stopping an event -/

/-- The start time an event has after `checkMinimunDuration`. -/
def closeTime (p : Params F) (event : EventData F) (b : Block F) (k : ℕ) : CBuf :=
  (checkMinimunDuration p (b.memStart k) (b.memStop k) event b.time).2.time

/-- Did the event last long enough? -/
def lastsLong (p : Params F) (event : EventData F) (b : Block F) (k : ℕ) : Bool :=
  (checkMinimunDuration p (b.memStart k) (b.memStop k) event b.time).1

omit [FloatArith F] in
/-- `checkMinimunDuration` changes nothing but the start time. -/
theorem checkMinimunDuration_eq (p : Params F) (event : EventData F) (b : Block F) (k : ℕ) :
    checkMinimunDuration p (b.memStart k) (b.memStop k) event b.time
      = (lastsLong p event b k, { event with time := closeTime p event b k }) := by
  rw [closeTime, lastsLong, checkMinimunDuration]
  simp only
  split
  · split <;> rfl
  · rfl

omit [FloatArith F] in
/-- An event that is too short keeps its start time. -/
theorem closeTime_of_short {p : Params F} {event : EventData F} {b : Block F} {k : ℕ}
    (h : lastsLong p event b k = false) : closeTime p event b k = event.time := by
  rw [closeTime]
  rw [lastsLong] at h
  simp only [checkMinimunDuration] at h ⊢
  split at h
  · split at h <;> cases h
  · rename_i hlong
    rw [if_neg hlong]

/-! ## One sample -/

/-- An axis on which nothing is being recorded. -/
def EventData.Idle (event : EventData F) : Prop :=
  event.eventOn = false ∧ event.isEnableAddPostEvent = false ∧ event.isPendingSaveEvent = false

instance (event : EventData F) : Decidable event.Idle := by
  unfold EventData.Idle; infer_instance

/-- An axis that is in the middle of an event. -/
def EventData.Open (event : EventData F) : Prop :=
  event.eventOn = true ∧ event.isEnableAddPostEvent = false ∧ event.isPendingSaveEvent = false

instance (event : EventData F) : Decidable event.Open := by
  unfold EventData.Open; infer_instance

omit [FloatArith F] in
theorem EventData.Idle.not_open {event : EventData F} (h : event.Idle) : ¬ event.Open :=
  fun hopen => Bool.noConfusion (h.1.symm.trans hopen.1)

omit [FloatArith F] in
/-- An event that waits to be saved is over. -/
theorem EventData.over_of_pending {event : EventData F} (h : event.isPendingSaveEvent = true) :
    ¬ event.Idle ∧ ¬ event.Open :=
  ⟨fun hidle => Bool.noConfusion (h.symm.trans hidle.2.2),
    fun hopen => Bool.noConfusion (h.symm.trans hopen.2.2)⟩

omit [FloatArith F] in
/-- So is one that its end is added to. -/
theorem EventData.over_of_post {event : EventData F} (h : event.isEnableAddPostEvent = true) :
    ¬ event.Idle ∧ ¬ event.Open :=
  ⟨fun hidle => Bool.noConfusion (h.symm.trans hidle.2.1),
    fun hopen => Bool.noConfusion (h.symm.trans hopen.2.1)⟩

/-- The state right after an event starts, its first sample not yet stored. -/
def openEvent (p : Params F) (event : EventData F) (b : Block F) (axis : CBuf) (k : ℕ) :
    EventData F :=
  { event with
    eventOn := true
    date := strcpy event.date b.date
    time := strcpy event.time b.time
    axis := strcpy event.axis axis
    isGPS := b.isGPS
    toPreRegister := addSamplesPreEvent p event.toPreRegister b.samples k 0 }

/-- The state with one more sample of an event stored. -/
def pushEvent (event : EventData F) (x : F) : EventData F :=
  { event with
    eventSamples := Function.update event.eventSamples event.countEventSamples x
    countEventSamples := event.countEventSamples + 1 }

/-- The event is over. -/
def closeEvent (event : EventData F) : EventData F := { event with eventOn := false }

/-- What `detectEvent` can do with sample `k` of a block. -/
inductive DetectStep (p : Params F) (b : Block F) (axis : CBuf) (k : ℕ) (e : EventData F) :
    EventData F → Prop
  /-- A finished event waits for the end of the block. -/
  | pending (h : e.isPendingSaveEvent = true) : DetectStep p b axis k e e
  /-- A sample after the event. -/
  | post (h : e.isPendingSaveEvent = false) (hpost : e.isEnableAddPostEvent = true)
      (hcount : e.countPostEvent ≠ p.postEvent) :
      DetectStep p b axis k e
        { e with
          postEvent := Function.update e.postEvent e.countPostEvent (b.samples k)
          countPostEvent := e.countPostEvent + 1 }
  /-- The event is complete. -/
  | complete (h : e.isPendingSaveEvent = false) (hpost : e.isEnableAddPostEvent = true)
      (hcount : e.countPostEvent = p.postEvent) :
      DetectStep p b axis k e { e with isPendingSaveEvent := true, isEnableAddPostEvent := false }
  /-- Nothing happens, inside a block. -/
  | quiet (h : e.Idle) (hr : ¬ p.thOn ≤ e.ratio) (hk : k ≠ p.freq - 1) : DetectStep p b axis k e e
  /-- Nothing happens, at the end of a block: the register takes the block. -/
  | blockEnd (h : e.Idle) (hr : ¬ p.thOn ≤ e.ratio) (hk : k = p.freq - 1) :
      DetectStep p b axis k e
        { e with toPreRegister := addSamplesPreEvent p e.toPreRegister b.samples p.freq 0 }
  /-- An event starts: the register takes the block so far, the sample is the first stored. -/
  | trigger (h : e.Idle) (hr : p.thOn ≤ e.ratio) (hcount : e.countEventSamples ≠ maxLengthEvent) :
      DetectStep p b axis k e (pushEvent (openEvent p e b axis k) (b.samples k))
  /-- An event starts on an event array that is still full, and is over at once. -/
  | jam (h : e.Idle) (hr : p.thOn ≤ e.ratio) (hcount : e.countEventSamples = maxLengthEvent) :
      DetectStep p b axis k e
        { closeEvent (openEvent p e b axis k) with
          time := closeTime p (closeEvent (openEvent p e b axis k)) b k }
  /-- A sample of the event. -/
  | record (h : e.Open) (hr : ¬ e.ratio ≤ p.thOff) (hcount : e.countEventSamples ≠ maxLengthEvent) :
      DetectStep p b axis k e (pushEvent e (b.samples k))
  /-- The event array is full. -/
  | full (h : e.Open) (hr : ¬ e.ratio ≤ p.thOff) (hcount : e.countEventSamples = maxLengthEvent) :
      DetectStep p b axis k e { closeEvent e with time := closeTime p (closeEvent e) b k }
  /-- The event stops and is kept.  The sample is not stored anywhere. -/
  | accept (h : e.Open) (hr : e.ratio ≤ p.thOff) (hlong : lastsLong p (closeEvent e) b k = true) :
      DetectStep p b axis k e
        { closeEvent e with
          time := closeTime p (closeEvent e) b k
          isEnableAddPostEvent := true
          eventNum := e.eventNum + 1 }
  /-- The event stops and is discarded.  The sample is not stored anywhere. -/
  | discard (h : e.Open) (hr : e.ratio ≤ p.thOff)
      (hlong : lastsLong p (closeEvent e) b k = false) :
      DetectStep p b axis k e (discardEvent p (closeEvent e))

/-- A sample of an open event whose ratio stays up is stored, or closes the event when there is no
room for it. -/
theorem DetectStep.of_open {p : Params F} {b : Block F} {axis : CBuf} {k : ℕ} {e e' : EventData F}
    (hs : DetectStep p b axis k e e') (hopen : e.Open) (hr : ¬ e.ratio ≤ p.thOff) :
    (e.countEventSamples = maxLengthEvent ∧
        e' = { closeEvent e with time := closeTime p (closeEvent e) b k }) ∨
      (e.countEventSamples ≠ maxLengthEvent ∧ e' = pushEvent e (b.samples k)) := by
  have hidle : ¬ e.Idle := fun h => absurd h.1 (by simp [hopen.1])
  cases hs with
  | record _ _ hne => exact .inr ⟨hne, rfl⟩
  | full _ _ hmax => exact .inl ⟨hmax, rfl⟩
  | accept _ hle => exact absurd hle hr
  | discard _ hle => exact absurd hle hr
  | pending hpend => exact absurd hpend (by simp [hopen.2.2])
  | post _ hpost => exact absurd hpost (by simp [hopen.2.1])
  | complete _ hpost => exact absurd hpost (by simp [hopen.2.1])
  | quiet h => exact absurd h hidle
  | blockEnd h => exact absurd h hidle
  | trigger h => exact absurd h hidle
  | jam h => exact absurd h hidle

theorem startEvent_of_ge {p : Params F} {e : EventData F} (hon : e.eventOn = false)
    (hr : p.thOn ≤ e.ratio) (b : Block F) (axis : CBuf) (k : ℕ) :
    startEvent p e b axis k = openEvent p e b axis k :=
  if_pos ⟨hon, hr⟩

theorem startEvent_of_on {p : Params F} {e : EventData F} (hon : e.eventOn = true) (b : Block F)
    (axis : CBuf) (k : ℕ) : startEvent p e b axis k = e := by
  rw [startEvent, if_neg (by simp [hon]), if_neg (by simp [hon])]

theorem stopEvent_of_off {p : Params F} {e : EventData F} (hon : e.eventOn = false) (b : Block F)
    (k : ℕ) : stopEvent p e b k = e :=
  if_neg (by simp [hon])

theorem stopEvent_of_not_le {p : Params F} {e : EventData F} (hr : ¬ e.ratio ≤ p.thOff)
    (b : Block F) (k : ℕ) : stopEvent p e b k = e :=
  if_neg fun h => hr h.2

/-- An event stops: it is kept, or it is discarded. -/
theorem stopEvent_of_le {p : Params F} {e : EventData F} (hon : e.eventOn = true)
    (hr : e.ratio ≤ p.thOff) (b : Block F) (k : ℕ) :
    stopEvent p e b k
      = if lastsLong p (closeEvent e) b k = true then
          { closeEvent e with
            time := closeTime p (closeEvent e) b k
            isEnableAddPostEvent := true
            eventNum := e.eventNum + 1 }
        else discardEvent p (closeEvent e) := by
  rw [stopEvent, if_pos ⟨hon, hr⟩, checkMinimunDuration_eq, settleEvent]
  by_cases hlong : lastsLong p (closeEvent e) b k = true
  · exact (if_pos hlong).trans (if_pos hlong).symm
  · have hshort : closeTime p (closeEvent e) b k = (closeEvent e).time :=
      closeTime_of_short (Bool.eq_false_of_not_eq_true hlong)
    refine (if_neg hlong).trans ?_
    rw [if_neg hlong]
    change discardEvent p { closeEvent e with time := closeTime p (closeEvent e) b k } = _
    rw [hshort]

omit [FloatArith F] in
theorem storeSample_of_off {p : Params F} {e : EventData F} (hon : e.eventOn = false)
    (b : Block F) (k : ℕ) : storeSample p e b k = e :=
  if_neg (by simp [hon])

omit [FloatArith F] in
/-- A sample of an event is stored, unless the array is full. -/
theorem storeSample_of_on {p : Params F} {e : EventData F} (hon : e.eventOn = true) (b : Block F)
    (k : ℕ) :
    storeSample p e b k
      = if e.countEventSamples = maxLengthEvent then
          { closeEvent e with time := closeTime p (closeEvent e) b k }
        else pushEvent e (b.samples k) := by
  rw [storeSample, if_pos hon, checkMinimunDuration_eq]
  rfl

/-- **`detectEvent` in closed form.** -/
theorem detectStep_detectEvent {p : Params F} (hp : p.Checked) (b : Block F) (axis : CBuf) (k : ℕ)
    (e : EventData F) : DetectStep p b axis k e (detectEvent p e b axis k) := by
  rw [detectEvent]
  by_cases hpend : e.isPendingSaveEvent = true
  · rw [if_neg (not_not.mpr hpend)]
    exact .pending hpend
  rw [if_pos hpend]
  rw [Bool.not_eq_true] at hpend
  by_cases hpost : e.isEnableAddPostEvent = true
  · rw [if_pos hpost, addPostEvent]
    by_cases hc : e.countPostEvent = p.postEvent
    · rw [if_neg (not_not.mpr hc)]
      exact .complete hpend hpost hc
    · rw [if_pos hc]
      exact .post hpend hpost hc
  rw [if_neg hpost]
  rw [Bool.not_eq_true] at hpost
  cases hon : e.eventOn with
  | false =>
    have hidle : e.Idle := ⟨hon, hpost, hpend⟩
    by_cases hr : p.thOn ≤ e.ratio
    · -- the ratio that starts the event does not stop it, so its first sample is stored
      have hoff : ¬ (openEvent p e b axis k).ratio ≤ p.thOff := hp.not_le_off hr
      rw [startEvent_of_ge hon hr, stopEvent_of_not_le hoff, storeSample_of_on (by rfl)]
      by_cases hc : e.countEventSamples = maxLengthEvent
      · have hc' : (openEvent p e b axis k).countEventSamples = maxLengthEvent := hc
        rw [if_pos hc']
        exact .jam hidle hr hc
      · have hc' : (openEvent p e b axis k).countEventSamples ≠ maxLengthEvent := hc
        rw [if_neg hc']
        exact .trigger hidle hr hc
    · rw [startEvent, if_neg fun h => hr h.2]
      by_cases hk : k = p.freq - 1
      · rw [if_pos ⟨hk, hon⟩, stopEvent_of_off (by exact hon), storeSample_of_off (by exact hon)]
        exact .blockEnd hidle hr hk
      · rw [if_neg fun h => hk h.1, stopEvent_of_off hon, storeSample_of_off hon]
        exact .quiet hidle hr hk
  | true =>
    have hopen : e.Open := ⟨hon, hpost, hpend⟩
    rw [startEvent_of_on hon]
    by_cases hr : e.ratio ≤ p.thOff
    · rw [stopEvent_of_le hon hr]
      by_cases hlong : lastsLong p (closeEvent e) b k = true
      · rw [if_pos hlong, storeSample_of_off (by rfl)]
        exact .accept hopen hr hlong
      · rw [if_neg hlong, storeSample_of_off (by rfl)]
        exact .discard hopen hr (by simpa using hlong)
    · rw [stopEvent_of_not_le hr, storeSample_of_on hon]
      by_cases hc : e.countEventSamples = maxLengthEvent
      · rw [if_pos hc]
        exact .full hopen hr hc
      · rw [if_neg hc]
        exact .record hopen hr hc

end SensorIoT
