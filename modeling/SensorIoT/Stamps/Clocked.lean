import SensorIoT.Rtc.Alarm
import SensorIoT.Rtc.RoundTrip
import SensorIoT.Stamps.Defs

/-!
# Stamps of the RTC

The loop of `readAndSaveData` once more, with the RTC on its bus.  What a turn found there was up
to the world in `SensorIoT.Stamps.Defs`; here SYNC is low because the alarm has gone off, and
`readWithRTC` clears the flag of the alarm before it reads the time.  The clock ticks in between,
and while a block is recorded.  Without the RTC this is the loop as it was (`clocked_pass`).

**`rtcReadings_sound`**: a block recorded with the RTC has the time that the clock has when it is
read, the stamps never go back, and no second is stamped twice — unless the clear of the first of
the two failed, or the clock ticked between the clear and the reading.
-/

set_option autoImplicit false

namespace SensorIoT

/-! ## The loop -/

/-- What one turn of the loop finds, apart from the RTC. -/
structure ClockedPass where
  /-- `gpio26_PPS` is high. -/
  ppsHigh : Bool
  /-- `time(NULL)`, in seconds. -/
  now : ℤ
  /-- What `readUART` delivers, read after read, until it has nothing more. -/
  lines : List (List Char)
  /-- The seconds that pass before the pin of the RTC is read, since the turn before. -/
  ticks : ℕ
  /-- Those that pass between that and the write that clears the flag. -/
  ticksWrite : ℕ
  /-- Those that pass between the write and the reading of the registers. -/
  ticksRead : ℕ
  /-- The write succeeds. -/
  cleared : Bool
  /-- `readI2C` does not fail. -/
  readable : Bool

/-- A block recorded with the RTC: how often the clock had ticked when the flag was cleared, or was
to be, and when the registers were read. -/
structure RtcReading where
  stamp : Stamp
  ok : Bool
  cleared : ℕ
  read : ℕ

/-- A call of `readAnalogInputsAndSaveData`. -/
inductive Recorded where
  | gps (stamp : Stamp)
  | rtc (reading : RtcReading)

def Recorded.stamp : Recorded → Stamp
  | .gps stamp => stamp
  | .rtc reading => reading.stamp

def Recorded.rtc? : Recorded → Option RtcReading
  | .gps _ => none
  | .rtc reading => some reading

/-- `readWithRTC`. -/
def readWithRTCClocked (k : Timekeeper) (p : ClockedPass) (c : Clock) : Clock × List Recorded :=
  let c := (k.run p.ticksWrite c).clear p.cleared
  let cleared := c.ticks
  let c := k.run p.ticksRead c
  (c, (readWithRTC (if p.readable = true then some (readI2C c.bus) else none)).map fun stamp =>
    .rtc { stamp := stamp, ok := p.cleared, cleared := cleared, read := c.ticks })

/-- The three places that record with the RTC: if SYNC is low. -/
def fallBackClocked (k : Timekeeper) (p : ClockedPass) (c : Clock) : Clock × List Recorded :=
  if syncLow c.bus.regs = true then readWithRTCClocked k p c else (c, [])

/-- One turn of the loop of `readAndSaveData`. -/
def readAndSaveDataPassClocked (k : Timekeeper) (s : Loop × Clock) (p : ClockedPass) :
    (Loop × Clock) × List Recorded :=
  let c := k.run p.ticks s.2
  let w := fallBackClocked k p c
  if p.ppsHigh = true then
    let l := { s.1 with inicio := p.now }
    if p.lines ≠ [] then
      let l := p.lines.foldl readSentence l
      if l.isData ≠ -1 then
        ((l, c), [.gps { date := l.bufDate, time := l.bufTime, isGPS := true }])
      else (({ l with flag := l.flag || syncLow c.bus.regs }, w.1), w.2)
    else (({ l with flag := l.flag || syncLow c.bus.regs }, w.1), w.2)
  else if s.1.flag = true ∨ 2 < p.now - s.1.inicio then ((s.1, w.1), w.2)
  else ((s.1, c), [])

/-- The loop and the RTC after `n` turns. -/
def clockedLoop (k : Timekeeper) (clock : Clock) (inicio : ℤ) (passes : ℕ → ClockedPass) :
    ℕ → Loop × Clock :=
  Emitter.state (readAndSaveDataPassClocked k) (Loop.init inicio, clock) passes

/-- The calls of `readAnalogInputsAndSaveData` in the first `n` turns. -/
def clockedCalls (k : Timekeeper) (clock : Clock) (inicio : ℤ) (passes : ℕ → ClockedPass) :
    ℕ → List Recorded :=
  Emitter.trace (readAndSaveDataPassClocked k) (Loop.init inicio, clock) passes

/-- Those with the time of the RTC. -/
def rtcReadings (k : Timekeeper) (clock : Clock) (inicio : ℤ) (passes : ℕ → ClockedPass) (n : ℕ) :
    List RtcReading :=
  (clockedCalls k clock inicio passes n).filterMap Recorded.rtc?

/-- What the turn finds at the RTC. -/
def ClockedPass.pass (k : Timekeeper) (p : ClockedPass) (c : Clock) : Pass where
  ppsHigh := p.ppsHigh
  syncLow := syncLow (k.run p.ticks c).bus.regs
  now := p.now
  lines := p.lines
  rtc :=
    if p.readable = true then
      some (readI2C (k.run p.ticksRead
        ((k.run p.ticksWrite (k.run p.ticks c)).clear p.cleared)).bus)
    else none

/-- The stamp of a block recorded when the RTC shows a time. -/
def rtcStamp (time : Fin 7 → UInt8) : Stamp where
  date := sprintf (zeroBuf 10) (dateText time)
  time := sprintf (zeroBuf 10) (timeText time)
  isGPS := false

/-! ## What a turn does -/

section Turn

variable (k : Timekeeper) (p : ClockedPass) (l : Loop) (c : Clock)

/-- Without the RTC, a turn is that of the loop of `SensorIoT.Stamps.Defs`. -/
theorem clocked_pass :
    (readAndSaveDataPassClocked k (l, c) p).1.1 = (readAndSaveDataPass l (p.pass k c)).1 ∧
      (readAndSaveDataPassClocked k (l, c) p).2.map Recorded.stamp
        = (readAndSaveDataPass l (p.pass k c)).2 := by
  have hstamps : (fallBackClocked k p (k.run p.ticks c)).2.map Recorded.stamp
      = fallBack (p.pass k c) := by
    by_cases hlow : syncLow (k.run p.ticks c).bus.regs = true
    · have hlow' : (p.pass k c).syncLow = true := hlow
      rw [fallBackClocked, if_pos hlow, fallBack, if_pos hlow', readWithRTCClocked]
      dsimp only
      rw [List.map_map]
      exact List.map_id _
    · have hlow' : ¬ (p.pass k c).syncLow = true := hlow
      rw [fallBackClocked, if_neg hlow, fallBack, if_neg hlow']
      rfl
  simp only [readAndSaveDataPassClocked, readAndSaveDataPass, show (p.pass k c).ppsHigh = p.ppsHigh
    from rfl, show (p.pass k c).lines = p.lines from rfl, show (p.pass k c).now = p.now from rfl,
    show (p.pass k c).syncLow = syncLow (k.run p.ticks c).bus.regs from rfl]
  by_cases hpps : p.ppsHigh = true
  · by_cases hlines : p.lines ≠ []
    · by_cases hdata :
          (p.lines.foldl readSentence { l with inicio := p.now }).isData ≠ -1
      · simp only [if_pos hpps, if_pos hlines, if_pos hdata, true_and]
        rfl
      · simp only [if_pos hpps, if_pos hlines, if_neg hdata, true_and]
        exact hstamps
    · simp only [if_pos hpps, if_neg hlines, true_and]
      exact hstamps
  · by_cases hflag : l.flag = true ∨ 2 < p.now - l.inicio
    · simp only [if_neg hpps, if_pos hflag, true_and]
      exact hstamps
    · simp only [if_neg hpps, if_neg hflag, true_and]
      rfl

theorem readWithRTC_readI2C (b : Bus) :
    readWithRTC (some (readI2C b)) = [rtcStamp (timeRegs b.regs)] := by
  simp only [readWithRTC, getDateRtc, getTimeRtc, getD_readI2C b (show 0 < 0x13 by omega),
    getD_readI2C b (show 1 < 0x13 by omega), getD_readI2C b (show 2 < 0x13 by omega),
    getD_readI2C b (show 4 < 0x13 by omega), getD_readI2C b (show 5 < 0x13 by omega),
    getD_readI2C b (show 6 < 0x13 by omega)]
  rfl

/-- **What a turn does with the RTC.**  Either it leaves the RTC alone, or the flag is up, and it is
cleared before the registers are read. -/
theorem rtc_cases :
    ((readAndSaveDataPassClocked k (l, c) p).1.2 = k.run p.ticks c ∧
        (readAndSaveDataPassClocked k (l, c) p).2.filterMap Recorded.rtc? = []) ∨
      ∃ c' c'', c' = (k.run p.ticksWrite (k.run p.ticks c)).clear p.cleared ∧
        c'' = k.run p.ticksRead c' ∧ alarmFlag (k.run p.ticks c).bus.regs = true ∧
        (readAndSaveDataPassClocked k (l, c) p).1.2 = c'' ∧
        (readAndSaveDataPassClocked k (l, c) p).2.filterMap Recorded.rtc?
          = if p.readable = true
            then [⟨rtcStamp (timeRegs c''.bus.regs), p.cleared, c'.ticks, c''.ticks⟩] else [] := by
  have hfallBack : ((fallBackClocked k p (k.run p.ticks c)).1 = k.run p.ticks c ∧
        (fallBackClocked k p (k.run p.ticks c)).2.filterMap Recorded.rtc? = []) ∨
      ∃ c' c'', c' = (k.run p.ticksWrite (k.run p.ticks c)).clear p.cleared ∧
        c'' = k.run p.ticksRead c' ∧ alarmFlag (k.run p.ticks c).bus.regs = true ∧
        (fallBackClocked k p (k.run p.ticks c)).1 = c'' ∧
        (fallBackClocked k p (k.run p.ticks c)).2.filterMap Recorded.rtc?
          = if p.readable = true
            then [⟨rtcStamp (timeRegs c''.bus.regs), p.cleared, c'.ticks, c''.ticks⟩] else [] := by
    rw [fallBackClocked]
    split
    case isTrue hlow =>
      rw [syncLow, Bool.and_eq_true] at hlow
      refine .inr ⟨_, _, rfl, rfl, hlow.1, rfl, ?_⟩
      rw [readWithRTCClocked]
      cases p.readable with
      | true => simp only [if_true, readWithRTC_readI2C]; rfl
      | false => rfl
    case isFalse => exact .inl ⟨rfl, rfl⟩
  rw [readAndSaveDataPassClocked]
  dsimp only
  split
  · split
    · split
      · exact .inl ⟨rfl, rfl⟩
      · exact hfallBack
    · exact hfallBack
  · split
    · exact hfallBack
    · exact .inl ⟨rfl, rfl⟩

end Turn

/-! ## What a run does -/

/-- The clock showed a time when it had ticked `m` times, and has not been set since. -/
structure Clock.Keeps (k : Timekeeper) (m : ℕ) (time : Fin 7 → UInt8) (c : Clock) : Prop where
  le : m ≤ c.ticks
  timeRegs : timeRegs c.bus.regs = k.next^[c.ticks - m] time

section Run

variable {k : Timekeeper} {m : ℕ} {time : Fin 7 → UInt8} {c : Clock}

theorem Clock.Keeps.run (h : c.Keeps k m time) (n : ℕ) : (k.run n c).Keeps k m time := by
  have hle := h.le
  have hticks : (k.run n c).ticks - m = n + (c.ticks - m) := by
    rw [ticks_run]
    omega
  refine ⟨?_, ?_⟩
  · rw [ticks_run]
    exact Nat.le_add_right_of_le hle
  · rw [timeRegs_run, h.timeRegs, ← Function.iterate_add_apply, hticks]

theorem Clock.Keeps.clear (h : c.Keeps k m time) (ok : Bool) : (c.clear ok).Keeps k m time :=
  ⟨h.le, (timeRegs_clear c ok).trans h.timeRegs⟩

/-- The flag is not up without a tick behind its clear. -/
theorem lt_of_alarmFlag_run {x : ℕ} (hle : x ≤ c.ticks)
    (h : alarmFlag c.bus.regs = true → x < c.ticks) (n : ℕ)
    (hflag : alarmFlag (k.run n c).bus.regs = true) : x < (k.run n c).ticks := by
  rw [ticks_run]
  cases n with
  | zero => exact h hflag
  | succ n => omega

/-- The blocks so far have the time of the clock when they were read, one after the other, and a
flag that was cleared for one of them is not up without a tick. -/
structure ClockInv (k : Timekeeper) (m : ℕ) (time : Fin 7 → UInt8) (c : Clock)
    (out : List RtcReading) : Prop where
  keeps : c.Keeps k m time
  stamps : ∀ r ∈ out, r.stamp = rtcStamp (k.next^[r.read - m] time)
  order : ∀ r ∈ out, r.cleared ≤ r.read ∧ r.read ≤ c.ticks
  flag : ∀ r ∈ out, r.ok = true → alarmFlag c.bus.regs = true → r.cleared < c.ticks
  pairwise : out.Pairwise fun x y => x.read ≤ y.cleared ∧ (x.ok = true → x.cleared < y.cleared)

theorem ClockInv.step {l : Loop} {out : List Recorded}
    (h : ClockInv k m time c (out.filterMap Recorded.rtc?)) (p : ClockedPass) :
    ClockInv k m time (readAndSaveDataPassClocked k (l, c) p).1.2
      ((out ++ (readAndSaveDataPassClocked k (l, c) p).2).filterMap Recorded.rtc?) := by
  rw [List.filterMap_append]
  have hpin : ∀ r ∈ out.filterMap Recorded.rtc?, r.ok = true →
      alarmFlag (k.run p.ticks c).bus.regs = true → r.cleared < (k.run p.ticks c).ticks := by
    intro r hr hok
    exact lt_of_alarmFlag_run (le_trans (h.order r hr).1 (h.order r hr).2) (h.flag r hr hok) p.ticks
  obtain ⟨hclock, hout⟩ | ⟨c', c'', hc', hc'', hflag, hclock, hout⟩ := rtc_cases k p l c
  · rw [hclock, hout, List.append_nil]
    refine ⟨h.keeps.run p.ticks, h.stamps, fun r hr => ⟨(h.order r hr).1, ?_⟩, hpin, h.pairwise⟩
    rw [ticks_run]
    exact Nat.le_add_right_of_le (h.order r hr).2
  · have hticks' : c'.ticks = c.ticks + p.ticks + p.ticksWrite := by
      rw [hc', ticks_clear, ticks_run, ticks_run]
    have hticks'' : c''.ticks = c'.ticks + p.ticksRead := by rw [hc'', ticks_run]
    have hkeeps : c''.Keeps k m time := by
      rw [hc'', hc']
      exact (((h.keeps.run p.ticks).run p.ticksWrite).clear p.cleared).run p.ticksRead
    have hbefore : ∀ r ∈ out.filterMap Recorded.rtc?, r.ok = true → r.cleared < c'.ticks := by
      intro r hr hok
      have hlt := hpin r hr hok hflag
      rw [ticks_run] at hlt
      omega
    rw [hclock, hout]
    split
    case isTrue =>
      refine ⟨hkeeps, fun r hr => ?_, fun r hr => ?_, fun r hr hok hup => ?_, ?_⟩
      · obtain hr | hr := List.mem_append.mp hr
        · exact h.stamps r hr
        · rw [List.mem_singleton.mp hr, hkeeps.timeRegs]
      · obtain hr | hr := List.mem_append.mp hr
        · have := (h.order r hr).2
          exact ⟨(h.order r hr).1, by omega⟩
        · rw [List.mem_singleton.mp hr]
          exact ⟨by dsimp only; omega, le_refl _⟩
      · obtain hr | hr := List.mem_append.mp hr
        · have := hbefore r hr hok
          omega
        · rw [List.mem_singleton.mp hr] at hok ⊢
          -- the flag was cleared, so it is up for a tick behind that
          have hdown : alarmFlag c'.bus.regs = false := by
            rw [hc', alarmFlag_clear, show p.cleared = true from hok]
            rfl
          rw [hc''] at hup ⊢
          exact lt_of_alarmFlag_run (le_refl _)
            (fun hyes => absurd (hdown.symm.trans hyes) Bool.false_ne_true) p.ticksRead hup
      · refine List.pairwise_append.mpr ⟨h.pairwise, List.pairwise_singleton _ _, ?_⟩
        intro r hr r' hr'
        rw [List.mem_singleton.mp hr']
        have := (h.order r hr).2
        exact ⟨by dsimp only; omega, hbefore r hr⟩
    case isFalse =>
      rw [List.append_nil]
      refine ⟨hkeeps, h.stamps, fun r hr => ?_, fun r hr hok _ => ?_, h.pairwise⟩
      · have := (h.order r hr).2
        exact ⟨(h.order r hr).1, by omega⟩
      · have := hbefore r hr hok
        omega

theorem clockInv (h : c.Keeps k m time) (inicio : ℤ) (passes : ℕ → ClockedPass) (n : ℕ) :
    ClockInv k m time (clockedLoop k c inicio passes n).2 (rtcReadings k c inicio passes n) :=
  Emitter.invariant
    (fun _ (s : Loop × Clock) out => ClockInv k m time s.2 (out.filterMap Recorded.rtc?))
    ⟨h, fun _ hr => absurd hr List.not_mem_nil, fun _ hr => absurd hr List.not_mem_nil,
      fun _ hr => absurd hr List.not_mem_nil, List.Pairwise.nil⟩
    (fun _ _ _ h => h.step _) n

/-- **Blocks recorded with the RTC.**  Each has the time that the clock showed when it was read, the
later the block the later the time; and if two have the same, the clock ticked between the clear of
the flag and the reading for the first, or the clear failed. -/
theorem rtcReadings_sound (k : Timekeeper) (c : Clock) (inicio : ℤ) (passes : ℕ → ClockedPass)
    (n : ℕ) :
    (∀ r ∈ rtcReadings k c inicio passes n,
        r.stamp = rtcStamp (k.next^[r.read - c.ticks] (timeRegs c.bus.regs))) ∧
      (rtcReadings k c inicio passes n).Pairwise fun x y =>
        x.read ≤ y.read ∧ (x.read = y.read → x.ok = true → x.cleared < x.read) := by
  have hkeeps : c.Keeps k c.ticks (timeRegs c.bus.regs) := ⟨le_refl _, by rw [Nat.sub_self]; rfl⟩
  have hinv := clockInv hkeeps inicio passes n
  refine ⟨hinv.stamps, hinv.pairwise.imp_of_mem fun {x y} _ hy hxy => ?_⟩
  have hle := (hinv.order y hy).1
  exact ⟨le_trans hxy.1 hle, fun heq hok => by have := hxy.2 hok; omega⟩

end Run

end SensorIoT
