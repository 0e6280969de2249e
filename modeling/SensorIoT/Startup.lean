import SensorIoT.Rtc.Synchronise
import SensorIoT.Stamps.Clocked

/-!
# The time of the RTC, from the GPS to the stamps

`main` of `SensorIoT.c` sets the RTC by the GPS (`sincronizarRtc`), enables its alarm and waits for
it (`checkingSYNC`), and then records (`readAndSaveData`).  The three loops are those of
`SensorIoT.Rtc.Synchronise`, `SensorIoT.Rtc.Alarm` and `SensorIoT.Stamps.Clocked`, on one and the
same RTC.

**`startup_stamps`**: where the writes to the RTC succeed, every block that is recorded with its
time carries the time of the sixth sentence taken by `sincronizarRtc`, moved on by the ticks of the
clock since then; and so does the message of `checkingSYNC`.
-/

set_option autoImplicit false

namespace SensorIoT

/-! ## The date that the server is told -/

/-- The text of `fecha`, from a stamp. -/
def fechaOf (stamp : Stamp) : List Char :=
  [charAt stamp.date 4, charAt stamp.date 5, '/', charAt stamp.date 2, charAt stamp.date 3, '/',
    charAt stamp.date 0, charAt stamp.date 1, ' ', charAt stamp.time 0, charAt stamp.time 1, ':',
    charAt stamp.time 2, charAt stamp.time 3, ':', charAt stamp.time 4, charAt stamp.time 5]

theorem charAt_sprintf {dst dst' text : List Char} {i : ℕ} (hi : i < text.length) :
    charAt (sprintf dst text) i = charAt (sprintf dst' text) i := by
  rw [charAt, charAt, sprintf, sprintf, List.getD_eq_getElem?_getD, List.getD_eq_getElem?_getD,
    List.getElem?_append_left hi, List.getElem?_append_left hi]

theorem length_fmt02x (b : UInt8) : (fmt02x b).length = 2 := by rw [fmt02x_eq]; rfl

theorem fecha_readI2C (b : Bus) : fecha (readI2C b) = fechaOf (rtcStamp (timeRegs b.regs)) := by
  have hlen : ∀ (x y z : UInt8) {i : ℕ}, i < 6 → i < (fmt02x x ++ fmt02x y ++ fmt02x z).length := by
    intro x y z i hi
    simpa only [List.length_append, length_fmt02x] using hi
  have hdate : ∀ i < 6, charAt (getDateRtc (zeroBuf 24) (readI2C b)) i
      = charAt (rtcStamp (timeRegs b.regs)).date i := by
    intro i hi
    rw [getDateRtc, getD_readI2C b (by omega), getD_readI2C b (by omega), getD_readI2C b (by omega)]
    exact charAt_sprintf (hlen _ _ _ hi)
  have htime : ∀ i < 6, charAt (getTimeRtc (zeroBuf 24) (readI2C b)) i
      = charAt (rtcStamp (timeRegs b.regs)).time i := by
    intro i hi
    rw [getTimeRtc, getD_readI2C b (by omega), getD_readI2C b (by omega), getD_readI2C b (by omega)]
    exact charAt_sprintf (hlen _ _ _ hi)
  simp only [fecha, fechaOf, hdate 0 (by omega), hdate 1 (by omega), hdate 2 (by omega),
    hdate 3 (by omega), hdate 4 (by omega), hdate 5 (by omega), htime 0 (by omega),
    htime 1 (by omega), htime 2 (by omega), htime 3 (by omega), htime 4 (by omega),
    htime 5 (by omega)]

/-- Waiting for alarms leaves the time of the RTC to its clock. -/
theorem Clock.Keeps.checkingSYNC {k : Timekeeper} {m : ℕ} {time : Fin 7 → UInt8} {c : Clock}
    (h : c.Keeps k m time) (inicio : ℤ) (polls : ℕ → SyncPoll) (n : ℕ) :
    (SensorIoT.checkingSYNC k c inicio polls n).clock.Keeps k m time := by
  refine clock_checkingSYNC k c inicio polls (Clock.Keeps k m time) h (fun p c hc => ?_) n
  rw [SyncPoll.clockAfter]
  split
  · exact (((hc.run p.ticks).run p.ticksWrite).clear p.cleared).run p.ticksRead
  · exact hc.run p.ticks

/-- So does enabling the alarm, if the writes succeed that `activeAlarmRtc` looks at. -/
theorem Clock.Keeps.activeAlarm {k : Timekeeper} {m : ℕ} {time : Fin 7 → UInt8} {c : Clock}
    (h : c.Keeps k m time) {ok : ℕ → Bool} (hok : ∀ i < 4, ok (c.bus.writes + i) = true) :
    (c.activeAlarm ok).Keeps k m time := by
  refine ⟨h.le, Eq.trans (funext fun a => ?_) h.timeRegs⟩
  have hnot : (a : ℕ) ∉ alarmWrites.map Prod.fst := by
    have hge : ∀ b ∈ alarmWrites.map Prod.fst, 7 ≤ b := by decide
    exact fun hmem => absurd a.isLt (Nat.not_lt_of_le (hge a hmem))
  have hne : (a : ℕ) ≠ 0x0E := by omega
  rw [SensorIoT.timeRegs, regs_activeAlarm c hok]
  split
  · rw [Function.update_of_ne hne, afterWrites_of_notMem hnot]
    rfl
  · rw [afterWrites_of_notMem hnot]
    rfl

/-! ## The start of the program -/

/-- A stamp has the time and the date of an RMC sentence. -/
def Stamp.OfSentence (stamp : Stamp) (rmc : CBuf) : Prop :=
  cstr stamp.time = field rmc 7 6 ∧ cstr stamp.date = field rmc 57 6

/-- What the three loops meet with. -/
structure Startup where
  longMax : ℕ
  /-- Which writes of `setTimeRtc`, `setDateRtc` and `activeAlarmRtc` succeed. -/
  ok : ℕ → Bool
  timekeeper : Timekeeper
  /-- The RTC at the start. -/
  clock : Clock
  turns : ℕ → GpsTurn
  /-- The turn on which `sincronizarRtc` returns. -/
  last : ℕ
  inicioSync : ℤ
  polls : ℕ → SyncPoll
  /-- The turns of `checkingSYNC`. -/
  polled : ℕ
  inicio : ℤ
  passes : ℕ → ClockedPass

namespace Startup

variable (s : Startup)

/-- `sincronizarRtc`. -/
def setting : ℕ → SincronizarLoop :=
  sincronizarRtc s.longMax s.ok s.timekeeper s.clock s.turns

/-- The RTC when it has been set. -/
def set : Clock := (s.setting (s.last + 1)).clock

/-- What `checkingSYNC` does. -/
def waiting : List SyncAction :=
  syncActions s.timekeeper (s.set.activeAlarm s.ok) s.inicioSync s.polls s.polled

/-- The RTC when the recording starts. -/
def waited : Clock :=
  (checkingSYNC s.timekeeper (s.set.activeAlarm s.ok) s.inicioSync s.polls s.polled).clock

/-- The blocks recorded with the RTC in so many turns of `readAndSaveData`. -/
def readings (n : ℕ) : List RtcReading := rtcReadings s.timekeeper s.waited s.inicio s.passes n

/-- `sincronizarRtc` returns, having set the RTC to a sentence, and the writes succeed. -/
structure Sound (rmc : CBuf) : Prop where
  long : s.longMax = 2 ^ 31 - 1 ∨ s.longMax = 2 ^ 63 - 1
  running : (s.setting s.last).returned = false
  returned : (s.setting (s.last + 1)).returned = true
  taken : (takenSentences s.longMax s.ok s.timekeeper s.clock s.turns (s.last + 1)).getLast?
    = some rmc
  digits : ∀ i < 6, (charAt rmc (i + 7)).isDigit = true ∧ (charAt rmc (i + 57)).isDigit = true
  /-- Nothing that lies in memory behind them spoils the digits. -/
  survives : Survives s.longMax false (s.turns s.last).memTime (field rmc 7 6) ∧
    Survives s.longMax false (s.turns s.last).memDate (field rmc 57 6)
  set : ∀ i < 6, s.ok ((s.setting s.last).clock.bus.writes + i) = true
  alarm : ∀ i < 4, s.ok (s.set.bus.writes + i) = true

variable {s} {rmc : CBuf}

/-- When it has been set, the RTC has the time of the sentence. -/
theorem Sound.ofSentence (h : s.Sound rmc) :
    (rtcStamp (timeRegs s.set.bus.regs)).OfSentence rmc := by
  obtain ⟨five, htaken⟩ := List.getLast?_eq_some_iff.mp h.taken
  obtain ⟨-, loop, rfl, hwrites, hclock⟩ :=
    sincronizarRtc_last s.longMax s.ok s.timekeeper h.running h.returned htaken
  have hok : ∀ i < 6, s.ok (loop.clock.bus.writes + i) = true := by
    rw [hwrites]
    exact h.set
  have hshows := (shows_setRtc_iff s.longMax s.ok h.long false loop (s.turns s.last) hok
    h.digits).mpr h.survives (zeroBuf 10) (zeroBuf 10)
  rw [← hclock, getTimeRtcChar_unsigned, getDateRtcChar_unsigned] at hshows
  have hstamp := readWithRTC_readI2C s.set.bus
  rw [readWithRTC, List.cons.injEq] at hstamp
  rw [Stamp.OfSentence, ← hstamp.1]
  exact hshows

/-- **The stamps of the RTC are the time of the sixth sentence, moved on by the ticks since then.**
-/
theorem startup_stamps (h : s.Sound rmc) (n : ℕ) :
    ∃ time, (rtcStamp time).OfSentence rmc ∧
      (∀ text, SyncAction.date text ∈ s.waiting →
        text = fechaOf (rtcStamp (s.timekeeper.next^[s.waited.ticks - s.set.ticks] time))) ∧
      ∀ r ∈ s.readings n,
        r.stamp = rtcStamp (s.timekeeper.next^[r.read - s.set.ticks] time) := by
  have hset : s.set.Keeps s.timekeeper s.set.ticks (timeRegs s.set.bus.regs) :=
    ⟨le_refl _, by rw [Nat.sub_self]; rfl⟩
  have hwaited : s.waited.Keeps s.timekeeper s.set.ticks (timeRegs s.set.bus.regs) :=
    (hset.activeAlarm h.alarm).checkingSYNC s.inicioSync s.polls s.polled
  refine ⟨timeRegs s.set.bus.regs, h.ofSentence, fun text htext => ?_,
    (clockInv hwaited s.inicio s.passes n).stamps⟩
  rw [date_checkingSYNC _ _ _ _ htext, fecha_readI2C]
  exact congrArg (fun time => fechaOf (rtcStamp time)) hwaited.timeRegs

end Startup

/-- A start at which everything goes well, with the same sentence again and again. -/
def usualStartup : Startup where
  longMax := 2 ^ 31 - 1
  ok := fun _ => true
  timekeeper := dayTimekeeper
  clock := freshClock
  turns := usualTurns
  last := 5
  inicioSync := 0
  polls := steadyPolls
  polled := 6
  inicio := 0
  passes := fun n => ⟨false, n + 3, [], 1, 0, 0, true, true⟩

theorem sound_usualStartup : usualStartup.Sound (readUART (zeroBuf 255) usualLine) where
  long := .inl rfl
  running := by decide +kernel
  returned := by decide +kernel
  taken := by decide +kernel
  digits := by decide +kernel
  survives := by decide +kernel
  set := fun _ _ => rfl
  alarm := fun _ _ => rfl

/-- Two blocks without PPS, with the time of the sentence and the seconds since. -/
theorem startup_stamps_usual : (usualStartup.readings 2).length = 2 ∧
    ∃ time, (rtcStamp time).OfSentence (readUART (zeroBuf 255) usualLine) ∧
      (∀ text, SyncAction.date text ∈ usualStartup.waiting → text = fechaOf (rtcStamp
        (dayTimekeeper.next^[usualStartup.waited.ticks - usualStartup.set.ticks] time))) ∧
      ∀ r ∈ usualStartup.readings 2,
        r.stamp = rtcStamp (dayTimekeeper.next^[r.read - usualStartup.set.ticks] time) :=
  ⟨by decide +kernel, Startup.startup_stamps sound_usualStartup 2⟩

end SensorIoT
