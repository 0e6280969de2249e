import SensorIoT.Gps.Altitude
import SensorIoT.Gps.Pulses
import SensorIoT.Rtc.Alarm

/-!
# The loops that wait

Before it records, the program waits in three loops of `SensorIoT.c`: for sentences of the GPS
(`loadingGpsData`), for its pulses (`checkingPPS`) and for alarms of the RTC (`checkingSYNC`).  None
of them gives up.  Where nothing shows up for 30 seconds, or 20, they tell the server; `inicio` is
the time at which something was there last, and `diff` keeps the message from being repeated on
every poll.  So each of them is a watchdog, of which `inicio` is `since` and `diff` is `lateness`.

**`waiting_warns`**: as long as one of the loops runs, its messages are sent at different times,
only after so many seconds of silence, and in every silence that is polled at two times behind
these.
-/

set_option autoImplicit false

namespace SensorIoT

/-! ## The first two loops with their messages -/

/-- What a turn of `loadingGpsData` meets with. -/
structure TimedRead where
  /-- `time(NULL)`, in seconds. -/
  now : ℤ
  /-- What `readUART` delivers, if anything. -/
  read : Option (List Char)

/-- One turn of the loop of `loadingGpsData`, and when it sends its message. -/
def loadingTurnTimed (s : LoadingLoop × Watchdog.State) (p : TimedRead) :
    (LoadingLoop × Watchdog.State) × List ℤ :=
  if s.1.located.isSome = true then (s, [])
  else
    match p.read with
    | some line => ((loadingLine s.1 line, { s.2 with since := p.now }), [])
    | none =>
      if 30 < p.now - s.2.since then
        ((s.1, { s.2 with lateness := p.now - s.2.since }),
          if s.2.lateness < p.now - s.2.since then [p.now] else [])
      else (s, [])

/-- What a turn of `checkingPPS` meets with. -/
structure TimedPin where
  /-- `time(NULL)`, in seconds. -/
  now : ℤ
  /-- `gpio26_PPS`. -/
  pin : GpioValue

/-- One turn of the loop of `checkingPPS`, and when it sends its message. -/
def checkingPPSTurnTimed (s : PulseLoop × Watchdog.State) (p : TimedPin) :
    (PulseLoop × Watchdog.State) × List ℤ :=
  if s.1.returned = true then (s, [])
  else if p.pin = .high then
    if s.1.cont = 5 then (({ s.1 with returned := true }, { s.2 with since := p.now }), [])
    else (({ s.1 with cont := s.1.cont + 1 }, { s.2 with since := p.now }), [])
  else if 30 < p.now - s.2.since then
    ((s.1, { s.2 with lateness := p.now - s.2.since }),
      if s.2.lateness < p.now - s.2.since then [p.now] else [])
  else (s, [])

/-- When a message of `checkingSYNC` is sent that the signal is late. -/
def SyncAction.late? : SyncAction → Option ℤ
  | .late now => some now
  | _ => none

/-- `loadingGpsData` after `n` turns, and when it has sent its messages. -/
def loadingTimed (inicio : ℤ) (reads : ℕ → TimedRead) : ℕ → LoadingLoop × Watchdog.State :=
  Emitter.state loadingTurnTimed (LoadingLoop.init, ⟨inicio, 0⟩) reads

def loadingAlerts (inicio : ℤ) (reads : ℕ → TimedRead) : ℕ → List ℤ :=
  Emitter.trace loadingTurnTimed (LoadingLoop.init, ⟨inicio, 0⟩) reads

/-- `checkingPPS` after `n` turns, and when it has sent its messages. -/
def pulsesTimed (inicio : ℤ) (pins : ℕ → TimedPin) : ℕ → PulseLoop × Watchdog.State :=
  Emitter.state checkingPPSTurnTimed ({ cont := 0, returned := false }, ⟨inicio, 0⟩) pins

def pulsesAlerts (inicio : ℤ) (pins : ℕ → TimedPin) : ℕ → List ℤ :=
  Emitter.trace checkingPPSTurnTimed ({ cont := 0, returned := false }, ⟨inicio, 0⟩) pins

/-- When `checkingSYNC` has sent its messages. -/
def syncAlerts (k : Timekeeper) (c : Clock) (inicio : ℤ) (polls : ℕ → SyncPoll) (n : ℕ) : List ℤ :=
  (syncActions k c inicio polls n).filterMap SyncAction.late?

/-! ## The loops are watchdogs -/

section Watchdogs

variable (inicio : ℤ) (reads : ℕ → TimedRead) (pins : ℕ → TimedPin) (k : Timekeeper) (c : Clock)
  (polls : ℕ → SyncPoll)

/-- Without its messages, a turn of `loadingGpsData` is that of the loop without them. -/
theorem loadingTurnTimed_fst (s : LoadingLoop × Watchdog.State) (p : TimedRead) :
    (loadingTurnTimed s p).1.1 = loadingTurn s.1 p.read := by
  rw [loadingTurnTimed, loadingTurn]
  split
  · rfl
  · cases p.read with
    | some line => rfl
    | none =>
      dsimp only
      split <;> rfl

/-- So is one of `checkingPPS`. -/
theorem checkingPPSTurnTimed_fst (s : PulseLoop × Watchdog.State) (p : TimedPin) (n : ℕ) :
    (checkingPPSTurnTimed s p).1.1 = (checkingPPSTurn s.1 (n, p.pin)).1 := by
  rw [checkingPPSTurnTimed, checkingPPSTurn]
  split
  · rfl
  · split
    · split <;> rfl
    · split <;> rfl

/-- The polls of `loadingGpsData`. -/
def readPolls (n : ℕ) : Watchdog.Poll := ⟨(reads n).now, (reads n).read.isSome⟩

/-- The polls of `checkingPPS`. -/
def pinPolls (n : ℕ) : Watchdog.Poll := ⟨(pins n).now, (pins n).pin = .high⟩

/-- The polls of `checkingSYNC`, at the pin that the RTC pulls down. -/
def syncPolls (n : ℕ) : Watchdog.Poll :=
  ⟨(polls n).now,
    syncLow (k.run (polls n).ticks (checkingSYNC k c inicio polls n).clock).bus.regs⟩

variable {inicio reads pins k c polls}

/-- As long as the loop runs, a turn of it is a poll of a watchdog. -/
theorem watchdog_loadingTurn {s : LoadingLoop × Watchdog.State} (h : s.1.located = none)
    (p : TimedRead) : Watchdog.step 30 s.2 ⟨p.now, p.read.isSome⟩
      = ((loadingTurnTimed s p).1.2, (loadingTurnTimed s p).2) := by
  rw [loadingTurnTimed, if_neg (by simp [h])]
  cases p.read with
  | some line => rfl
  | none =>
    rw [Watchdog.step, if_neg (by simp)]
    dsimp only
    split <;> rfl

theorem watchdog_checkingPPSTurn {s : PulseLoop × Watchdog.State} (h : s.1.returned = false)
    (p : TimedPin) : Watchdog.step 30 s.2 ⟨p.now, p.pin = .high⟩
      = ((checkingPPSTurnTimed s p).1.2, (checkingPPSTurnTimed s p).2) := by
  rw [checkingPPSTurnTimed, if_neg (by simp [h])]
  cases p.pin with
  | high =>
    simp only [if_true]
    split <;> rfl
  | low =>
    have hlow : ¬ GpioValue.low = .high := by decide
    rw [Watchdog.step, if_neg (show ¬ decide (GpioValue.low = .high) = true by decide),
      if_neg hlow]
    dsimp only
    split <;> rfl

theorem watchdog_checkingSYNCTurn {s : SyncLoop} (h : s.returned = false) (p : SyncPoll) :
    Watchdog.step 20 ⟨s.inicio, s.diff⟩ ⟨p.now, syncLow (k.run p.ticks s.clock).bus.regs⟩
      = (⟨(checkingSYNCTurn k s p).1.inicio, (checkingSYNCTurn k s p).1.diff⟩,
        (checkingSYNCTurn k s p).2.filterMap SyncAction.late?) := by
  rw [checkingSYNCTurn, if_neg (by simp [h])]
  cases hlow : syncLow (k.run p.ticks s.clock).bus.regs with
  | true =>
    simp only [hlow, if_true]
    split
    · cases p.readable <;> rfl
    · rfl
  | false =>
    rw [Watchdog.step, if_neg Bool.false_ne_true]
    simp only [hlow, Bool.false_eq_true, if_false]
    split
    · dsimp only
      split <;> rfl
    · rfl

theorem loadingAlerts_eq {n : ℕ}
    (hrunning : ∀ i < n, (loadingTimed inicio reads i).1.located = none) :
    loadingAlerts inicio reads n = Watchdog.alarms 30 inicio (readPolls reads) n := by
  have hproject := Emitter.project loadingTurnTimed (LoadingLoop.init, ⟨inicio, 0⟩) reads
    (Watchdog.step 30) Prod.snd (fun _ p => ⟨p.now, p.read.isSome⟩) some n fun i hi => by
      rw [List.filterMap_some]
      exact watchdog_loadingTurn (hrunning i hi) (reads i)
  rw [List.filterMap_some] at hproject
  exact hproject.2.symm

theorem pulsesAlerts_eq {n : ℕ}
    (hrunning : ∀ i < n, (pulsesTimed inicio pins i).1.returned = false) :
    pulsesAlerts inicio pins n = Watchdog.alarms 30 inicio (pinPolls pins) n := by
  have hproject := Emitter.project checkingPPSTurnTimed
    ({ cont := 0, returned := false }, ⟨inicio, 0⟩) pins (Watchdog.step 30) Prod.snd
    (fun _ p => ⟨p.now, p.pin = .high⟩) some n fun i hi => by
      rw [List.filterMap_some]
      exact watchdog_checkingPPSTurn (hrunning i hi) (pins i)
  rw [List.filterMap_some] at hproject
  exact hproject.2.symm

theorem syncAlerts_eq {n : ℕ}
    (hrunning : ∀ i < n, (checkingSYNC k c inicio polls i).returned = false) :
    syncAlerts k c inicio polls n = Watchdog.alarms 20 inicio (syncPolls inicio k c polls) n := by
  have hproject := Emitter.project (checkingSYNCTurn k) (SyncLoop.init c inicio) polls
    (Watchdog.step 20) (fun s => ⟨s.inicio, s.diff⟩)
    (fun s p => ⟨p.now, syncLow (k.run p.ticks s.clock).bus.regs⟩) SyncAction.late? n fun i hi =>
      watchdog_checkingSYNCTurn (hrunning i hi) (polls i)
  exact hproject.2.symm

variable (inicio reads pins k c polls) in
/-- **The messages of the loops that wait.** -/
theorem waiting_warns (n : ℕ)
    (hreads : Watchdog.InOrder inicio (readPolls reads))
    (hpins : Watchdog.InOrder inicio (pinPolls pins))
    (hpolls : Watchdog.InOrder inicio (syncPolls inicio k c polls)) :
    ((∀ i < n, (loadingTimed inicio reads i).1.located = none) →
        Watchdog.Warns 30 inicio (readPolls reads) n (loadingAlerts inicio reads n)) ∧
      ((∀ i < n, (pulsesTimed inicio pins i).1.returned = false) →
        Watchdog.Warns 30 inicio (pinPolls pins) n (pulsesAlerts inicio pins n)) ∧
      ((∀ i < n, (checkingSYNC k c inicio polls i).returned = false) →
        Watchdog.Warns 20 inicio (syncPolls inicio k c polls) n
          (syncAlerts k c inicio polls n)) := by
  refine ⟨fun hrunning => ?_, fun hrunning => ?_, fun hrunning => ?_⟩
  · rw [loadingAlerts_eq hrunning]
    exact Watchdog.warns (by decide) hreads n
  · rw [pulsesAlerts_eq hrunning]
    exact Watchdog.warns (by decide) hpins n
  · rw [syncAlerts_eq hrunning]
    exact Watchdog.warns (by decide) hpolls n

end Watchdogs

/-- Three loops, for which nothing shows up for 40 seconds. -/
theorem waiting_warns_silence :
    Watchdog.Warns 30 0 (readPolls fun n => ⟨n, none⟩) 40
        (loadingAlerts 0 (fun n => ⟨n, none⟩) 40) ∧
      Watchdog.Warns 30 0 (pinPolls fun n => ⟨n, .low⟩) 40
        (pulsesAlerts 0 (fun n => ⟨n, .low⟩) 40) ∧
      Watchdog.Warns 20 0 (syncPolls 0 dayTimekeeper freshClock steadyPolls) 40
        (syncAlerts dayTimekeeper freshClock 0 steadyPolls 40) := by
  obtain ⟨hreads, hpins, hpolls⟩ := waiting_warns 0 (fun n => ⟨n, none⟩) (fun n => ⟨n, .low⟩)
    dayTimekeeper freshClock steadyPolls 40
    ⟨fun n => Int.natCast_nonneg n, fun m n h => Int.ofNat_le.mpr h⟩
    ⟨fun n => Int.natCast_nonneg n, fun m n h => Int.ofNat_le.mpr h⟩
    ⟨fun n => Int.natCast_nonneg n, fun m n h => Int.ofNat_le.mpr h⟩
  exact ⟨hreads (by decide +kernel), hpins (by decide +kernel), hpolls (by decide +kernel)⟩

end SensorIoT
