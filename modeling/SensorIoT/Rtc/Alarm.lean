import SensorIoT.Lib.Watchdog
import SensorIoT.Rtc.Writes

/-!
# The alarm of the RTC

`libs/RTC/rtc.h` says what the program asks of the RTC.  Its alarm 1 goes off every second if the
upper bits of the four registers of the alarm are set; that sets the flag A1F, and the flag, if A1IE
is set, pulls down the pin `gpio68_SYNC` until the program writes a zero to it.  What the device
does by itself is a `Timekeeper`, of which nothing else is known, and a `Clock` is the device with
the number of its ticks.  It ticks between any two things that the program does.

`checkingSYNC` of `SensorIoT.c` waits at the start of the program for six alarms.  Unlike pulses of
the GPS, alarms that it has seen go away: of those it clears it cannot count one twice, so that the
clock must tick as it waits (`checkingSYNC_ticks`).  If the alarm is not enabled it waits for ever;
and the write that enables it is the one of `activeAlarmRtc` of which nobody looks at the outcome
(`checkingSYNC_returns_iff`).
-/

set_option autoImplicit false

namespace SensorIoT

/-! ## The device -/

/-- What the RTC does every second. -/
structure Timekeeper where
  /-- The registers 0 to 6 a second later. -/
  next : (Fin 7 → UInt8) → Fin 7 → UInt8
  /-- The registers are such that alarm 1 goes off. -/
  alarm : (ℕ → UInt8) → Bool
  /-- It does so every second if the bits A1M1 to A1M4 are set. -/
  everySecond : ∀ regs, (∀ a ∈ [0x07, 0x08, 0x09, 0x0A], 128 ≤ (regs a).toNat) →
    alarm regs = true

/-- The RTC on its bus, and how often it has ticked. -/
structure Clock where
  bus : Bus
  ticks : ℕ

/-- The registers 0 to 6. -/
def timeRegs (regs : ℕ → UInt8) : Fin 7 → UInt8 := fun a => regs a

/-- The date as `getDateRtc` prints it. -/
def dateText (time : Fin 7 → UInt8) : List Char :=
  fmt02x (time 4) ++ fmt02x (time 5) ++ fmt02x (time 6)

/-- The time as `getTimeRtc` prints it. -/
def timeText (time : Fin 7 → UInt8) : List Char :=
  fmt02x (time 2) ++ fmt02x (time 1) ++ fmt02x (time 0)

/-- The bit A1F of the status register. -/
def alarmFlag (regs : ℕ → UInt8) : Bool := regs 0x0F &&& 0x01 == 0x01

/-- The bit A1IE of the control register. -/
def alarmEnabled (regs : ℕ → UInt8) : Bool := regs 0x0E &&& 0x01 == 0x01

/-- The pin `gpio68_SYNC` is low. -/
def syncLow (regs : ℕ → UInt8) : Bool := alarmFlag regs && alarmEnabled regs

namespace Timekeeper

variable (k : Timekeeper)

/-- The registers when the time has moved on. -/
def advance (regs : ℕ → UInt8) : ℕ → UInt8 := fun a =>
  if h : a < 7 then k.next (timeRegs regs) ⟨a, h⟩ else regs a

/-- A second passes. -/
def tick (c : Clock) : Clock where
  bus := { c.bus with
    regs :=
      if k.alarm (k.advance c.bus.regs) = true then
        Function.update (k.advance c.bus.regs) 0x0F (c.bus.regs 0x0F ||| 0x01)
      else k.advance c.bus.regs }
  ticks := c.ticks + 1

/-- So many seconds pass. -/
def run (n : ℕ) (c : Clock) : Clock := k.tick^[n] c

end Timekeeper

/-- `writeI2C`, which succeeds or not. -/
def Clock.write (c : Clock) (ok : Bool) (address : ℕ) (content : ℤ) : Clock :=
  { c with bus := (writeI2C (fun _ => ok) address content c.bus).1 }

/-- The write that clears the flag of the alarm. -/
def Clock.clear (c : Clock) (ok : Bool) : Clock := c.write ok 0x0F 0x88

section Device

variable (k : Timekeeper) (n : ℕ) (c : Clock)

theorem flag_or_one (x : UInt8) : ((x ||| 0x01) &&& 0x01 == 0x01) = true := by
  have hall : ∀ n < 256, ((UInt8.ofNat n ||| 0x01) &&& 0x01 == 0x01) = true := by decide +kernel
  simpa using hall x.toNat x.toNat_lt

theorem advance_of_ge {a : ℕ} (ha : 7 ≤ a) (regs : ℕ → UInt8) : k.advance regs a = regs a :=
  dif_neg (by omega)

@[simp] theorem ticks_tick : (k.tick c).ticks = c.ticks + 1 := rfl

/-- Apart from the time and the flag, the registers stay what they are. -/
theorem regs_tick {a : ℕ} (ha : 7 ≤ a) (hne : a ≠ 0x0F) :
    (k.tick c).bus.regs a = c.bus.regs a := by
  simp only [Timekeeper.tick]
  split
  · rw [Function.update_of_ne hne, advance_of_ge k ha]
  · exact advance_of_ge k ha _

theorem timeRegs_tick : timeRegs (k.tick c).bus.regs = k.next (timeRegs c.bus.regs) := by
  funext a
  have hne : (a : ℕ) ≠ 0x0F := by omega
  have hadvance : k.advance c.bus.regs a = k.next (timeRegs c.bus.regs) a := dif_pos a.isLt
  simp only [timeRegs, Timekeeper.tick]
  split
  · rw [Function.update_of_ne hne, hadvance]
  · exact hadvance

/-- A tick raises the flag if the alarm goes off, and lowers it never. -/
theorem alarmFlag_tick : alarmFlag (k.tick c).bus.regs
    = (k.alarm (k.advance c.bus.regs) || alarmFlag c.bus.regs) := by
  simp only [alarmFlag, Timekeeper.tick]
  split
  case isTrue h => rw [h, Function.update_self, flag_or_one, Bool.true_or]
  case isFalse h =>
    rw [Bool.not_eq_true] at h
    rw [h, Bool.false_or, advance_of_ge k (by omega)]

@[simp] theorem run_zero : k.run 0 c = c := rfl

theorem run_succ : k.run (n + 1) c = k.tick (k.run n c) := Function.iterate_succ_apply' _ _ _

@[simp] theorem ticks_run : (k.run n c).ticks = c.ticks + n := by
  induction n with
  | zero => rfl
  | succ n ih => rw [run_succ, ticks_tick, ih, Nat.add_assoc]

@[simp] theorem writes_run : (k.run n c).bus.writes = c.bus.writes := by
  induction n with
  | zero => rfl
  | succ n ih => rw [run_succ, ← ih]; rfl

theorem regs_run {a : ℕ} (ha : 7 ≤ a) (hne : a ≠ 0x0F) :
    (k.run n c).bus.regs a = c.bus.regs a := by
  induction n with
  | zero => rfl
  | succ n ih => rw [run_succ, regs_tick k _ ha hne, ih]

theorem timeRegs_run : timeRegs (k.run n c).bus.regs = k.next^[n] (timeRegs c.bus.regs) := by
  induction n with
  | zero => rfl
  | succ n ih => rw [run_succ, timeRegs_tick, ih, Function.iterate_succ_apply']

theorem alarmEnabled_run : alarmEnabled (k.run n c).bus.regs = alarmEnabled c.bus.regs := by
  rw [alarmEnabled, alarmEnabled, regs_run k n c (by omega) (by omega)]

/-- The flag is not raised without a tick. -/
theorem alarmFlag_run_le :
    (alarmFlag (k.run n c).bus.regs).toNat ≤ (alarmFlag c.bus.regs).toNat + n := by
  cases n with
  | zero => exact le_refl _
  | succ n => exact le_trans (Bool.toNat_le _) (by omega)

/-- The bits A1M1 to A1M4 are set. -/
def EverySecond (regs : ℕ → UInt8) : Prop :=
  ∀ a ∈ [0x07, 0x08, 0x09, 0x0A], 128 ≤ (regs a).toNat

theorem EverySecond.of_eq {regs regs' : ℕ → UInt8} (h : EverySecond regs)
    (heq : ∀ a ∈ [0x07, 0x08, 0x09, 0x0A], regs' a = regs a) : EverySecond regs' := by
  intro a ha
  rw [heq a ha]
  exact h a ha

theorem mask_ge : ∀ a ∈ [0x07, 0x08, 0x09, 0x0A], 7 ≤ a ∧ a ≠ 0x0F := by decide

variable {c} in
theorem EverySecond.run (h : EverySecond c.bus.regs) : EverySecond (k.run n c).bus.regs :=
  h.of_eq fun a ha => regs_run k n c (mask_ge a ha).1 (mask_ge a ha).2

variable {n c} in
/-- Once an alarm that goes off every second has had the time to, the flag is up. -/
theorem alarmFlag_run (h : EverySecond c.bus.regs) (hn : 1 ≤ n) :
    alarmFlag (k.run n c).bus.regs = true := by
  obtain ⟨n, rfl⟩ := Nat.exists_eq_add_of_le' hn
  have hadvance : EverySecond (k.advance (k.run n c).bus.regs) :=
    (h.run k n).of_eq fun a ha => advance_of_ge k (mask_ge a ha).1 _
  rw [run_succ, alarmFlag_tick, k.everySecond _ hadvance, Bool.true_or]

@[simp] theorem ticks_clear (ok : Bool) : (c.clear ok).ticks = c.ticks := rfl

theorem regs_clear (ok : Bool) {a : ℕ} (hne : a ≠ 0x0F) :
    (c.clear ok).bus.regs a = c.bus.regs a := by
  cases ok with
  | true => exact Function.update_of_ne hne _ _
  | false => rfl

theorem timeRegs_clear (ok : Bool) : timeRegs (c.clear ok).bus.regs = timeRegs c.bus.regs :=
  funext fun a => regs_clear c ok (by omega)

theorem alarmEnabled_clear (ok : Bool) :
    alarmEnabled (c.clear ok).bus.regs = alarmEnabled c.bus.regs := by
  rw [alarmEnabled, alarmEnabled, regs_clear c ok (by omega)]

/-- The write clears the flag, if it succeeds. -/
theorem alarmFlag_clear (ok : Bool) :
    alarmFlag (c.clear ok).bus.regs = (!ok && alarmFlag c.bus.regs) := by
  cases ok with
  | true =>
    have hwritten : (c.clear true).bus.regs = Function.update c.bus.regs 0x0F (lowByte 0x88) := rfl
    rw [alarmFlag, hwritten, Function.update_self, Bool.not_true, Bool.false_and]
    rfl
  | false => rfl

theorem EverySecond.clear {c : Clock} (h : EverySecond c.bus.regs) (ok : Bool) :
    EverySecond (c.clear ok).bus.regs :=
  h.of_eq fun a ha => regs_clear c ok (mask_ge a ha).2

end Device

/-! ## Waiting for six alarms -/

/-- What a turn of the loop of `checkingSYNC` meets with. -/
structure SyncPoll where
  /-- The seconds that pass before the pin is read. -/
  ticks : ℕ
  /-- Those that pass between that and the write that clears the flag. -/
  ticksWrite : ℕ
  /-- Those that pass behind the write, before the registers are read. -/
  ticksRead : ℕ
  /-- The write succeeds. -/
  cleared : Bool
  /-- `readI2C` does not fail. -/
  readable : Bool
  /-- `time(NULL)`, in seconds. -/
  now : ℤ

/-- What the loop of `checkingSYNC` does. -/
inductive SyncAction where
  /-- It counts an alarm, the flag of which it clears or not. -/
  | counted (cleared : Bool)
  /-- It tells the server that the signal is late. -/
  | late (now : ℤ)
  /-- It tells the server that the RTC works, and writes its date to `rtc.json`. -/
  | date (fecha : List Char)
  /-- It tells the server that the RTC cannot be read. -/
  | unreadable
  deriving DecidableEq

/-- The variables of `checkingSYNC`. -/
structure SyncLoop where
  clock : Clock
  cont : ℕ
  inicio : ℤ
  diff : ℤ
  returned : Bool

/-- The variables before the loop. -/
def SyncLoop.init (clock : Clock) (inicio : ℤ) : SyncLoop :=
  { clock := clock, cont := 0, inicio := inicio, diff := 0, returned := false }

/-- The text of `fecha`. -/
def fecha (bufRtc : List UInt8) : List Char :=
  let time := getTimeRtc (zeroBuf 24) bufRtc
  let date := getDateRtc (zeroBuf 24) bufRtc
  [charAt date 4, charAt date 5, '/', charAt date 2, charAt date 3, '/', charAt date 0,
    charAt date 1, ' ', charAt time 0, charAt time 1, ':', charAt time 2, charAt time 3, ':',
    charAt time 4, charAt time 5]

/-- One turn of the loop of `checkingSYNC`. -/
def checkingSYNCTurn (k : Timekeeper) (s : SyncLoop) (p : SyncPoll) :
    SyncLoop × List SyncAction :=
  if s.returned = true then (s, [])
  else
    let c := k.run p.ticks s.clock
    if syncLow c.bus.regs = true then
      let c := k.run p.ticksRead ((k.run p.ticksWrite c).clear p.cleared)
      if 4 < s.cont then
        ({ s with clock := c, inicio := p.now, returned := true },
          [.counted p.cleared,
            if p.readable = true then .date (fecha (readI2C c.bus)) else .unreadable])
      else
        ({ s with clock := c, inicio := p.now, cont := s.cont + 1 }, [.counted p.cleared])
    else if 20 < p.now - s.inicio then
      ({ s with clock := c, diff := p.now - s.inicio },
        if s.diff < p.now - s.inicio then [.late p.now] else [])
    else ({ s with clock := c }, [])

/-- The loop after `n` turns. -/
def checkingSYNC (k : Timekeeper) (clock : Clock) (inicio : ℤ) (polls : ℕ → SyncPoll) :
    ℕ → SyncLoop :=
  Emitter.state (checkingSYNCTurn k) (SyncLoop.init clock inicio) polls

/-- `activeAlarmRtc`, which `checkingSYNC` calls before its loop. -/
def Clock.activeAlarm (c : Clock) (ok : ℕ → Bool) : Clock :=
  { c with bus := (activeAlarmRtc ok c.bus).1 }

/-- What it has done in them. -/
def syncActions (k : Timekeeper) (clock : Clock) (inicio : ℤ) (polls : ℕ → SyncPoll) :
    ℕ → List SyncAction :=
  Emitter.trace (checkingSYNCTurn k) (SyncLoop.init clock inicio) polls

/-- An alarm is counted. -/
def SyncAction.isCounted : SyncAction → Bool
  | .counted _ => true
  | _ => false

/-- The device after a turn. -/
def SyncPoll.clockAfter (k : Timekeeper) (p : SyncPoll) (c : Clock) : Clock :=
  if syncLow (k.run p.ticks c).bus.regs = true then
    k.run p.ticksRead ((k.run p.ticksWrite (k.run p.ticks c)).clear p.cleared)
  else k.run p.ticks c

section Turn

variable (k : Timekeeper) (p : SyncPoll) {s : SyncLoop}

/-- **What a turn does, as long as the function has not returned.** -/
theorem checkingSYNCTurn_cases (h : s.returned = false) :
    (syncLow (k.run p.ticks s.clock).bus.regs = false ∧ ∃ diff,
        checkingSYNCTurn k s p = ({ s with clock := p.clockAfter k s.clock, diff := diff },
          if 20 < p.now - s.inicio ∧ s.diff < p.now - s.inicio then [.late p.now] else [])) ∨
      (syncLow (k.run p.ticks s.clock).bus.regs = true ∧ s.cont ≤ 4 ∧
        checkingSYNCTurn k s p =
          ({ s with clock := p.clockAfter k s.clock, inicio := p.now, cont := s.cont + 1 },
            [.counted p.cleared])) ∨
      (syncLow (k.run p.ticks s.clock).bus.regs = true ∧ 4 < s.cont ∧
        checkingSYNCTurn k s p =
          ({ s with clock := p.clockAfter k s.clock, inicio := p.now, returned := true },
            [.counted p.cleared, if p.readable = true
              then .date (fecha (readI2C (p.clockAfter k s.clock).bus)) else .unreadable])) := by
  have hnot : ¬ s.returned = true := by simp [h]
  rw [checkingSYNCTurn, if_neg hnot, SyncPoll.clockAfter]
  cases hlow : syncLow (k.run p.ticks s.clock).bus.regs with
  | true =>
    refine .inr ?_
    by_cases hcont : 4 < s.cont
    · exact .inr ⟨rfl, hcont, by simp [hlow, hcont]⟩
    · exact .inl ⟨rfl, Nat.le_of_not_lt hcont, by simp [hlow, hcont]⟩
  | false =>
    refine .inl ⟨rfl, ?_⟩
    by_cases hlate : 20 < p.now - s.inicio
    · exact ⟨p.now - s.inicio, by simp [hlow, hlate]⟩
    · exact ⟨s.diff, by simp [hlow, hlate]⟩

theorem clock_checkingSYNCTurn :
    (checkingSYNCTurn k s p).1.clock
      = if s.returned = true then s.clock else p.clockAfter k s.clock := by
  cases h : s.returned with
  | true => rw [checkingSYNCTurn, if_pos h, if_pos rfl]
  | false =>
    obtain ⟨-, diff, hturn⟩ | ⟨-, -, hturn⟩ | ⟨-, -, hturn⟩ := checkingSYNCTurn_cases k p h <;>
      rw [hturn] <;> rfl

variable (c : Clock)

theorem alarmEnabled_clockAfter :
    alarmEnabled (p.clockAfter k c).bus.regs = alarmEnabled c.bus.regs := by
  rw [SyncPoll.clockAfter]
  split <;> simp only [alarmEnabled_run, alarmEnabled_clear]

theorem EverySecond.clockAfter {c : Clock} (h : EverySecond c.bus.regs) :
    EverySecond (p.clockAfter k c).bus.regs := by
  rw [SyncPoll.clockAfter]
  split
  · exact (((h.run k p.ticks).run k p.ticksWrite).clear p.cleared).run k p.ticksRead
  · exact h.run k p.ticks

/-- An alarm that is counted and cleared is paid for by a flag that was up, or by a tick. -/
theorem credit_clockAfter :
    (syncLow (k.run p.ticks c).bus.regs && p.cleared).toNat
        + (alarmFlag (p.clockAfter k c).bus.regs).toNat + c.ticks
      ≤ (alarmFlag c.bus.regs).toNat + (p.clockAfter k c).ticks := by
  have hfirst := alarmFlag_run_le k p.ticks c
  have hsecond := alarmFlag_run_le k p.ticksWrite (k.run p.ticks c)
  have hthird := alarmFlag_run_le k p.ticksRead
    ((k.run p.ticksWrite (k.run p.ticks c)).clear p.cleared)
  rw [alarmFlag_clear] at hthird
  rw [SyncPoll.clockAfter]
  cases hlow : syncLow (k.run p.ticks c).bus.regs with
  | true =>
    have hflag : (alarmFlag (k.run p.ticks c).bus.regs).toNat = 1 := by
      rw [syncLow, Bool.and_eq_true] at hlow
      rw [hlow.1, Bool.toNat_true]
    cases hcleared : p.cleared with
    | true =>
      rw [hcleared] at hthird
      simp only [Bool.not_true, Bool.false_and, Bool.toNat_false, Bool.true_and, Bool.toNat_true,
        if_true, ticks_run, ticks_clear] at hthird ⊢
      omega
    | false =>
      rw [hcleared] at hthird
      simp only [Bool.not_false, Bool.true_and, Bool.toNat_false, if_true, ticks_run,
        ticks_clear] at hthird ⊢
      omega
  | false =>
    simp only [Bool.false_and, Bool.toNat_false, Bool.false_eq_true, if_false, ticks_run]
    omega

/-- What a turn counts. -/
theorem counts_checkingSYNCTurn (h : s.returned = false) :
    (checkingSYNCTurn k s p).2.countP SyncAction.isCounted
        = (syncLow (k.run p.ticks s.clock).bus.regs).toNat ∧
      (checkingSYNCTurn k s p).2.count (.counted true)
        = (syncLow (k.run p.ticks s.clock).bus.regs && p.cleared).toNat := by
  obtain ⟨hlow, diff, hturn⟩ | ⟨hlow, -, hturn⟩ | ⟨hlow, -, hturn⟩ :=
    checkingSYNCTurn_cases k p h <;> rw [hturn, hlow]
  · dsimp only
    split <;> exact ⟨rfl, rfl⟩
  · cases p.cleared <;> exact ⟨rfl, rfl⟩
  · cases p.cleared <;> cases p.readable <;> exact ⟨rfl, rfl⟩

end Turn

/-- A number in BCD plus one, and a carry from a limit on. -/
def bcdSucc (limit : ℕ) (x : UInt8) : UInt8 × Bool :=
  let n := x.toNat / 16 * 10 + x.toNat % 16 + 1
  if n < limit then (UInt8.ofNat (n / 10 * 16 + n % 10), false) else (0, true)

/-- An RTC for the length of a day, with an alarm every second. -/
def dayTimekeeper : Timekeeper where
  next := fun time a =>
    let seconds := bcdSucc 60 (time 0)
    let minutes := if seconds.2 = true then bcdSucc 60 (time 1) else (time 1, false)
    let hours := if minutes.2 = true then (bcdSucc 24 (time 2)).1 else time 2
    if a = 0 then seconds.1 else if a = 1 then minutes.1 else if a = 2 then hours else time a
  alarm := fun _ => true
  everySecond := fun _ _ => rfl

/-- An RTC that has just been switched on. -/
def freshClock : Clock := ⟨⟨fun _ => 0, 0⟩, 0⟩

/-- Polls a second apart, on which everything goes well. -/
def steadyPolls (n : ℕ) : SyncPoll := ⟨1, 0, 0, true, true, n⟩

/-! ## What a run does -/

section Run

variable (k : Timekeeper) (c : Clock) (inicio : ℤ) (polls : ℕ → SyncPoll) {n : ℕ}

theorem checkingSYNC_succ (n : ℕ) : checkingSYNC k c inicio polls (n + 1)
    = (checkingSYNCTurn k (checkingSYNC k c inicio polls n) (polls n)).1 := rfl

/-- Until the function returns `cont` is the number of alarms, and then there is one more. -/
def CountInv (s : SyncLoop) (acts : List SyncAction) : Prop :=
  s.cont ≤ 5 ∧ (s.returned = true → s.cont = 5) ∧
    acts.countP SyncAction.isCounted = s.cont + s.returned.toNat

theorem CountInv.step {s : SyncLoop} {acts : List SyncAction} (h : CountInv s acts) (p : SyncPoll) :
    CountInv (checkingSYNCTurn k s p).1 (acts ++ (checkingSYNCTurn k s p).2) := by
  obtain ⟨hle, hfive, hcount⟩ := h
  cases hreturned : s.returned with
  | true =>
    have hstay : checkingSYNCTurn k s p = (s, []) := if_pos hreturned
    rw [hstay, List.append_nil]
    exact ⟨hle, hfive, hcount⟩
  | false =>
    rw [hreturned, Bool.toNat_false, Nat.add_zero] at hcount
    rw [CountInv, List.countP_append, hcount, (counts_checkingSYNCTurn k p hreturned).1]
    obtain ⟨hlow, diff, hturn⟩ | ⟨hlow, hcont, hturn⟩ | ⟨hlow, hcont, hturn⟩ :=
      checkingSYNCTurn_cases k p hreturned <;> rw [hturn, hlow]
    · exact ⟨hle, hfive, by rw [hreturned]⟩
    · refine ⟨Nat.succ_le_succ hcont, fun hyes => ?_, by rw [hreturned]; rfl⟩
      exact absurd (hreturned.symm.trans hyes) Bool.false_ne_true
    · exact ⟨hle, fun _ => by dsimp only; omega, rfl⟩

theorem countInv (n : ℕ) :
    CountInv (checkingSYNC k c inicio polls n) (syncActions k c inicio polls n) :=
  Emitter.invariant (fun _ => CountInv) ⟨Nat.zero_le _, fun h => Bool.noConfusion h, rfl⟩
    (fun _ _ _ h => h.step k _) n

/-- The alarms that are counted and cleared are paid for by ticks. -/
theorem credit_checkingSYNC (n : ℕ) :
    (syncActions k c inicio polls n).count (.counted true)
        + (alarmFlag (checkingSYNC k c inicio polls n).clock.bus.regs).toNat + c.ticks
      ≤ (alarmFlag c.bus.regs).toNat + (checkingSYNC k c inicio polls n).clock.ticks := by
  refine Emitter.credit (checkingSYNCTurn k) _ (· == SyncAction.counted true)
    (fun s => (alarmFlag s.clock.bus.regs).toNat) (fun s => s.clock.ticks) (fun s p => ?_) polls n
  rw [clock_checkingSYNCTurn]
  cases hreturned : s.returned with
  | true =>
    have hstay : checkingSYNCTurn k s p = (s, []) := if_pos hreturned
    rw [hstay, List.countP_nil, if_pos rfl, Nat.zero_add]
  | false =>
    have hcounts := (counts_checkingSYNCTurn k p hreturned).2
    rw [List.count] at hcounts
    rw [hcounts, if_neg Bool.false_ne_true]
    exact credit_clockAfter k p s.clock

/-- **When the function returns it has counted six alarms, and of those it cleared there are no more
than ticks of the clock, and one if the flag was up.** -/
theorem checkingSYNC_ticks (h : (checkingSYNC k c inicio polls n).returned = true) :
    (syncActions k c inicio polls n).countP SyncAction.isCounted = 6 ∧
      (syncActions k c inicio polls n).count (.counted true) + c.ticks
        ≤ (alarmFlag c.bus.regs).toNat + (checkingSYNC k c inicio polls n).clock.ticks := by
  obtain ⟨-, hfive, hcount⟩ := countInv k c inicio polls n
  refine ⟨by rw [hcount, hfive h, h]; rfl, ?_⟩
  have hcredit := credit_checkingSYNC k c inicio polls n
  omega

omit k c inicio polls in
/-- Six alarms, a second apart. -/
theorem checkingSYNC_ticks_steady :
    (syncActions dayTimekeeper (freshClock.activeAlarm fun _ => true) 0 steadyPolls 6).countP
        SyncAction.isCounted = 6 ∧
      (syncActions dayTimekeeper (freshClock.activeAlarm fun _ => true) 0 steadyPolls 6).count
          (.counted true) + 0
        ≤ 0 + (checkingSYNC dayTimekeeper (freshClock.activeAlarm fun _ => true) 0 steadyPolls
          6).clock.ticks :=
  checkingSYNC_ticks dayTimekeeper (freshClock.activeAlarm fun _ => true) 0 steadyPolls
    (by decide +kernel)

/-- A date that the function tells is that of the RTC when it returns. -/
theorem date_checkingSYNC {text : List Char}
    (h : SyncAction.date text ∈ syncActions k c inicio polls n) :
    text = fecha (readI2C (checkingSYNC k c inicio polls n).clock.bus) := by
  have hinv : SyncAction.date text ∈ syncActions k c inicio polls n →
      (checkingSYNC k c inicio polls n).returned = true ∧
        text = fecha (readI2C (checkingSYNC k c inicio polls n).clock.bus) := by
    refine Emitter.invariant (fun _ (s : SyncLoop) acts => SyncAction.date text ∈ acts →
      s.returned = true ∧ text = fecha (readI2C s.clock.bus)) (fun h => absurd h List.not_mem_nil)
      (fun n s acts ih hmem => ?_) n
    cases hreturned : s.returned with
    | true =>
      have hstay : checkingSYNCTurn k s (polls n) = (s, []) := if_pos hreturned
      rw [hstay, List.append_nil] at hmem
      rw [hstay]
      exact ih hmem
    | false =>
      have hnew : SyncAction.date text ∈ (checkingSYNCTurn k s (polls n)).2 :=
        (List.mem_append.mp hmem).resolve_left fun hold =>
          absurd (hreturned.symm.trans (ih hold).1) Bool.false_ne_true
      obtain ⟨-, diff, hturn⟩ | ⟨-, -, hturn⟩ | ⟨-, -, hturn⟩ :=
        checkingSYNCTurn_cases k (polls n) hreturned <;> rw [hturn] at hnew ⊢
      · dsimp only at hnew
        split at hnew
        · exact SyncAction.noConfusion (List.mem_singleton.mp hnew)
        · exact absurd hnew List.not_mem_nil
      · exact SyncAction.noConfusion (List.mem_singleton.mp hnew)
      · refine ⟨rfl, ?_⟩
        cases hreadable : (polls n).readable with
        | true => simpa [hreadable] using hnew
        | false => simp [hreadable] at hnew
  exact (hinv h).2

/-- What a turn keeps of the device, the run keeps. -/
theorem clock_checkingSYNC (P : Clock → Prop) (h : P c)
    (hstep : ∀ (p : SyncPoll) c, P c → P (p.clockAfter k c)) (n : ℕ) :
    P (checkingSYNC k c inicio polls n).clock := by
  induction n with
  | zero => exact h
  | succ n ih =>
    rw [checkingSYNC_succ, clock_checkingSYNCTurn]
    split
    · exact ih
    · exact hstep _ _ ih

theorem cont_mono {m : ℕ} (h : n ≤ m) :
    (checkingSYNC k c inicio polls n).cont ≤ (checkingSYNC k c inicio polls m).cont := by
  induction m, h using Nat.le_induction with
  | base => exact le_refl _
  | succ m _ ih =>
    refine le_trans ih ?_
    rw [checkingSYNC_succ]
    cases hreturned : (checkingSYNC k c inicio polls m).returned with
    | true => rw [checkingSYNCTurn, if_pos hreturned]
    | false =>
      obtain ⟨-, diff, hturn⟩ | ⟨-, -, hturn⟩ | ⟨-, -, hturn⟩ :=
        checkingSYNCTurn_cases k (polls m) hreturned <;> rw [hturn]
      exact Nat.le_succ _

/-- Where the alarm is enabled and goes off every second, as many are counted as one likes, until
the function returns. -/
theorem counts_on (hsecond : EverySecond c.bus.regs) (henabled : alarmEnabled c.bus.regs = true)
    (hticks : ∀ m, ∃ i, m ≤ i ∧ 1 ≤ (polls i).ticks) (j : ℕ) :
    ∃ n, (checkingSYNC k c inicio polls n).returned = true ∨
      j ≤ (checkingSYNC k c inicio polls n).cont := by
  induction j with
  | zero => exact ⟨0, .inr (Nat.zero_le _)⟩
  | succ j ih =>
    obtain ⟨n, hn⟩ := ih
    obtain hreturned | hj := hn
    · exact ⟨n, .inl hreturned⟩
    obtain ⟨i, hni, htick⟩ := hticks n
    cases hreturned : (checkingSYNC k c inicio polls i).returned with
    | true => exact ⟨i, .inl hreturned⟩
    | false =>
      have hsecond' := clock_checkingSYNC k c inicio polls
        (fun c => EverySecond c.bus.regs) hsecond (fun p _ h => h.clockAfter k p) i
      have henabled' := clock_checkingSYNC k c inicio polls
        (fun c => alarmEnabled c.bus.regs = true) henabled
        (fun p c h => (alarmEnabled_clockAfter k p c).trans h) i
      have hlow : syncLow (k.run (polls i).ticks
          (checkingSYNC k c inicio polls i).clock).bus.regs = true := by
        rw [syncLow, alarmFlag_run k hsecond' htick, alarmEnabled_run, henabled']
        rfl
      have hle := le_trans hj (cont_mono k c inicio polls hni)
      refine ⟨i + 1, ?_⟩
      rw [checkingSYNC_succ]
      obtain ⟨hhigh, -⟩ | ⟨-, -, hturn⟩ | ⟨-, -, hturn⟩ :=
        checkingSYNCTurn_cases k (polls i) hreturned
      · exact absurd (hlow.symm.trans hhigh) Bool.noConfusion
      · rw [hturn]
        exact .inr (Nat.succ_le_succ hle)
      · rw [hturn]
        exact .inl rfl

/-- An alarm that goes off every second is waited for successfully if it is enabled. -/
theorem returns_iff_of_everySecond (hsecond : EverySecond c.bus.regs)
    (hticks : ∀ m, ∃ i, m ≤ i ∧ 1 ≤ (polls i).ticks) :
    (∃ n, (checkingSYNC k c inicio polls n).returned = true) ↔
      alarmEnabled c.bus.regs = true := by
  constructor
  · rintro ⟨n, hn⟩
    by_contra hdisabled
    rw [Bool.not_eq_true] at hdisabled
    refine Bool.false_ne_true (Eq.trans ?_ hn)
    clear hn
    induction n with
    | zero => rfl
    | succ n ih =>
      have hdisabled' := clock_checkingSYNC k c inicio polls
        (fun c => alarmEnabled c.bus.regs = false) hdisabled
        (fun p c h => (alarmEnabled_clockAfter k p c).trans h) n
      have hhigh : syncLow (k.run (polls n).ticks
          (checkingSYNC k c inicio polls n).clock).bus.regs = false := by
        rw [syncLow, alarmEnabled_run, hdisabled', Bool.and_false]
      rw [checkingSYNC_succ]
      obtain ⟨-, diff, hturn⟩ | ⟨hlow, -⟩ | ⟨hlow, -⟩ :=
        checkingSYNCTurn_cases k (polls n) ih.symm
      · rw [hturn]
        exact ih
      all_goals exact absurd (hlow.symm.trans hhigh) Bool.noConfusion
  · intro henabled
    obtain ⟨n, hn⟩ := counts_on k c inicio polls hsecond henabled hticks 6
    obtain ⟨hle, -⟩ := countInv k c inicio polls n
    exact ⟨n, hn.resolve_right (by omega)⟩

/-- What `activeAlarmRtc` does if the writes succeed that it looks at. -/
theorem regs_activeAlarm {ok : ℕ → Bool} (hok : ∀ i < 4, ok (c.bus.writes + i) = true) :
    (c.activeAlarm ok).bus.regs
      = if ok (c.bus.writes + 4) = true
        then Function.update (afterWrites alarmWrites c.bus.regs) 0x0E (lowByte 0x1D)
        else afterWrites alarmWrites c.bus.regs := by
  obtain ⟨-, heq⟩ | ⟨j, hj, -⟩ := writeChain_cases ok alarmWrites c.bus
  · have hwrites : alarmWrites.length = 4 := rfl
    rw [Clock.activeAlarm, activeAlarmRtc, heq]
    simp only [one_ne_neg_one, ne_eq, not_false_eq_true, if_true, writeI2C, hwrites]
    split <;> rfl
  · exact absurd hok hj.not_all

/-- **The function returns exactly if the last write of `activeAlarmRtc` succeeds, or if the alarm
was enabled before.** -/
theorem checkingSYNC_returns_iff (ok : ℕ → Bool) (hok : ∀ i < 4, ok (c.bus.writes + i) = true)
    (hticks : ∀ m, ∃ i, m ≤ i ∧ 1 ≤ (polls i).ticks) :
    (∃ n, (checkingSYNC k (c.activeAlarm ok) inicio polls n).returned = true) ↔
      ok (c.bus.writes + 4) = true ∨ alarmEnabled c.bus.regs = true := by
  have hnodup : (alarmWrites.map Prod.fst).Nodup := by decide
  have hmasks : ∀ w ∈ alarmWrites, 128 ≤ (lowByte w.2).toNat := by decide
  have hsecond : EverySecond (c.activeAlarm ok).bus.regs := by
    intro a ha
    obtain ⟨w, hw, rfl⟩ : ∃ w ∈ alarmWrites, w.1 = a := List.mem_map.mp ha
    have hne : w.1 ≠ 0x0E := fun h => absurd (h ▸ ha) (by decide)
    rw [regs_activeAlarm c hok]
    split
    · rw [Function.update_of_ne hne, afterWrites_of_mem hnodup hw]
      exact hmasks w hw
    · rw [afterWrites_of_mem hnodup hw]
      exact hmasks w hw
  rw [returns_iff_of_everySecond k _ inicio polls hsecond hticks, alarmEnabled,
    regs_activeAlarm c hok]
  cases ok (c.bus.writes + 4) with
  | true =>
    rw [if_pos rfl, Function.update_self]
    exact iff_of_true rfl (.inl rfl)
  | false =>
    rw [if_neg Bool.false_ne_true, afterWrites_of_notMem (by decide), alarmEnabled]
    exact (or_iff_right Bool.false_ne_true).symm

end Run

/-- If all writes succeed, the function returns. -/
theorem checkingSYNC_returns_iff_steady :
    ∃ n, (checkingSYNC dayTimekeeper (freshClock.activeAlarm fun _ => true) 0 steadyPolls
      n).returned = true :=
  (checkingSYNC_returns_iff dayTimekeeper freshClock 0 steadyPolls (fun _ => true)
    (fun _ _ => rfl) fun m => ⟨m, le_refl m, le_refl 1⟩).mpr (.inl rfl)

end SensorIoT
