import SensorIoT.Gps.Fields
import SensorIoT.Rtc.Alarm
import SensorIoT.Rtc.RoundTrip
import SensorIoT.Stamps.Fresh

/-!
# Setting the RTC by the GPS

`sincronizarRtc` of `SensorIoT.c` runs at the start of the program.  As long as PPS is high it reads
sentences, and sets the RTC by every RMC sentence with a fix; the sixth of them is the last.  The
RTC goes on ticking between two turns of the loop, but not while it is set.

Nobody looks at whether the writes succeed, so the loop ends all the same (`returned_congr`).
**`sincronizarRtc_iff`**: if they do succeed on the last turn, the RTC shows the time and the date
of the sixth sentence exactly as long as the digits survive the way into its registers and back.
-/

set_option autoImplicit false

namespace SensorIoT

/-- What a turn of the loop of `sincronizarRtc` meets with. -/
structure GpsTurn where
  /-- The seconds that have passed since the turn before. -/
  ticks : ℕ
  /-- `gpio26_PPS` is high. -/
  ppsHigh : Bool
  /-- What `readUART` delivers, if anything. -/
  read : Option (List Char)
  /-- What lies behind the arrays of `setTimeRtc` and of `setDateRtc`. -/
  memTime : ArraysMem
  memDate : ArraysMem

/-- The variables of `sincronizarRtc`. -/
structure SincronizarLoop where
  buf : CBuf
  timeBuf : CBuf
  dateBuf : CBuf
  count : ℕ
  clock : Clock
  returned : Bool

/-- The variables before the loop. -/
def SincronizarLoop.init (clock : Clock) : SincronizarLoop where
  buf := zeroBuf 255
  timeBuf := zeroBuf 12
  dateBuf := zeroBuf 12
  count := 0
  clock := clock
  returned := false

section

variable (longMax : ℕ) (ok : ℕ → Bool) (k : Timekeeper)

/-- What the loop does with an RMC sentence in its buffer that reports a fix. -/
def setRtc (s : SincronizarLoop) (t : GpsTurn) : SincronizarLoop :=
  let timeBuf := (getTimeGps s.timeBuf s.buf).1
  let bus := (setTimeRtc longMax ok t.memTime timeBuf s.clock.bus).1
  let dateBuf := (getDateGps s.dateBuf s.buf).1
  let bus := (setDateRtc longMax ok t.memDate dateBuf bus).1
  { s with timeBuf := timeBuf, dateBuf := dateBuf, clock := { s.clock with bus := bus } }

/-- One turn of the loop of `sincronizarRtc`.  What it emits are the sentences it takes. -/
def sincronizarRtcTurn (s : SincronizarLoop) (t : GpsTurn) : SincronizarLoop × List CBuf :=
  if s.returned = true then (s, [])
  else
    let s := { s with clock := k.run t.ticks s.clock }
    if t.ppsHigh = true then
      match t.read with
      | none => (s, [])
      | some line =>
        let s := { s with buf := readUART s.buf line }
        if isRmcStatusOk s.buf = 1 then
          let s := setRtc longMax ok s t
          if 4 < s.count then ({ s with returned := true }, [s.buf])
          else ({ s with count := s.count + 1 }, [s.buf])
        else (s, [])
    else (s, [])

/-- The loop after `n` turns. -/
def sincronizarRtc (clock : Clock) (turns : ℕ → GpsTurn) : ℕ → SincronizarLoop :=
  Emitter.state (sincronizarRtcTurn longMax ok k) (SincronizarLoop.init clock) turns

/-- The sentences that it has set the RTC by. -/
def takenSentences (clock : Clock) (turns : ℕ → GpsTurn) : ℕ → List CBuf :=
  Emitter.trace (sincronizarRtcTurn longMax ok k) (SincronizarLoop.init clock) turns

end

/-- The RTC, when it is read, has the time and the date of an RMC sentence. -/
def ShowsSentence (signedChar : Bool) (b : Bus) (rmc : CBuf) : Prop :=
  ∀ dst dst' : CBuf, cstr (getTimeRtcChar signedChar dst (readI2C b)) = field rmc 7 6 ∧
    cstr (getDateRtcChar signedChar dst' (readI2C b)) = field rmc 57 6

/-! ## Setting it once -/

section Set

variable {longMax : ℕ} {ok : ℕ → Bool}

/-- The registers behind both functions, if their six writes succeed. -/
theorem set_of_ok (memTime memDate : ArraysMem) (time date : CBuf) {b : Bus}
    (hok : ∀ i < 6, ok (b.writes + i) = true) :
    (setDateRtc longMax ok memDate date (setTimeRtc longMax ok memTime time b).1).1.regs
      = afterWrites (dateWrites longMax memDate date)
          (afterWrites (timeWrites longMax memTime time) b.regs) := by
  have htime : setTimeRtc longMax ok memTime time b
      = (⟨afterWrites (timeWrites longMax memTime time) b.regs, b.writes + 3⟩, 1) := by
    obtain ⟨-, heq⟩ | ⟨j, hj, -⟩ := writeChain_cases ok (timeWrites longMax memTime time) b
    · rw [setTimeRtc, heq, orReset_of_ok]
      rfl
    · exact absurd (fun i (hi : i < 3) => hok i (by omega)) hj.not_all
  rw [htime]
  obtain ⟨-, heq⟩ | ⟨j, hj, -⟩ := writeChain_cases ok (dateWrites longMax memDate date)
    ⟨afterWrites (timeWrites longMax memTime time) b.regs, b.writes + 3⟩
  · rw [setDateRtc, heq, orReset_of_ok]
  · refine absurd (fun i hi => ?_) hj.not_all
    have hi3 : i < 3 := hi
    rw [Nat.add_assoc]
    exact hok (3 + i) (by omega)

/-- **When the RTC shows what it was set to.** -/
theorem shows_afterWrites_iff (hlong : longMax = 2 ^ 31 - 1 ∨ longMax = 2 ^ 63 - 1)
    (signedChar : Bool) {time date : CBuf} (htime : ∀ i < 6, (charAt time i).isDigit = true)
    (hdate : ∀ i < 6, (charAt date i).isDigit = true) (memTime memDate : ArraysMem) {b : Bus}
    {regs : ℕ → UInt8} (hregs : b.regs = afterWrites (dateWrites longMax memDate date)
      (afterWrites (timeWrites longMax memTime time) regs)) (dst dst' : CBuf) :
    cstr (getTimeRtcChar signedChar dst (readI2C b)) = field time 0 6 ∧
        cstr (getDateRtcChar signedChar dst' (readI2C b)) = field date 0 6 ↔
      Survives longMax signedChar memTime time ∧ Survives longMax signedChar memDate date := by
  have hmod : longMax % 256 = 255 := by
    rcases hlong with rfl | rfl <;> rfl
  have hread : ∀ a < 0x13, (readI2C b).getD a 0 = afterWrites (dateWrites longMax memDate date)
      (afterWrites (timeWrites longMax memTime time) regs) a := by
    intro a ha
    rw [getD_readI2C b ha, hregs]
  rw [getTimeRtcChar, getDateRtcChar, hread 2 (by omega), hread 1 (by omega), hread 0 (by omega),
    hread 4 (by omega), hread 5 (by omega), hread 6 (by omega)]
  exact and_congr (printed_iff hmod signedChar memTime htime dst)
    (printed_iff hmod signedChar memDate hdate dst')

end Set

/-! ## Fields of a sentence -/

theorem charAt_field (rmc : CBuf) (start : ℕ) {i len : ℕ} (hi : i < len) :
    charAt (field rmc start len) i = charAt rmc (i + start) := by
  have hlen : i < (field rmc start len).length := by rwa [length_field]
  rw [charAt, List.getD_eq_getElem?_getD, List.getElem?_eq_getElem hlen]
  simp [field]

theorem charAt_sprintf_field (dst rmc : CBuf) (start : ℕ) {i len : ℕ} (hi : i < len) :
    charAt (sprintf dst (field rmc start len)) i = charAt rmc (i + start) := by
  rw [← charAt_field rmc start hi, charAt, sprintf, List.getD_eq_getElem?_getD,
    List.getElem?_append_left (by rwa [length_field]), ← List.getD_eq_getElem?_getD]
  rfl

theorem Survives.congr {longMax : ℕ} {signedChar : Bool} {mem : ArraysMem} {b b' : CBuf}
    (h : ∀ i < 6, charAt b i = charAt b' i) :
    Survives longMax signedChar mem b ↔ Survives longMax signedChar mem b' := by
  simp only [Survives, h 0 (by omega), h 1 (by omega), h 2 (by omega), h 3 (by omega),
    h 4 (by omega), h 5 (by omega)]

theorem field_congr {b b' : CBuf} {start : ℕ}
    (h : ∀ i < 6, charAt b i = charAt b' (i + start)) : field b 0 6 = field b' start 6 := by
  refine List.map_congr_left fun i hi => ?_
  exact h i (List.mem_range.mp hi)

/-! ## The loop -/

section Loop

variable (longMax : ℕ) (ok : ℕ → Bool) (k : Timekeeper)

/-- The variables when a sentence has been read. -/
def GpsTurn.receive (t : GpsTurn) (s : SincronizarLoop) (line : List Char) :
    SincronizarLoop :=
  { s with clock := k.run t.ticks s.clock, buf := readUART s.buf line }

/-- **What a turn does, as long as the function has not returned.** -/
theorem sincronizarRtcTurn_cases {s : SincronizarLoop} (h : s.returned = false) (t : GpsTurn) :
    (∃ buf, sincronizarRtcTurn longMax ok k s t
        = ({ s with clock := k.run t.ticks s.clock, buf := buf }, [])) ∨
      ∃ line, t.ppsHigh = true ∧ t.read = some line ∧
        isRmcStatusOk (readUART s.buf line) = 1 ∧
        sincronizarRtcTurn longMax ok k s t
          = (if 4 < s.count then { setRtc longMax ok (t.receive k s line) t with returned := true }
              else { setRtc longMax ok (t.receive k s line) t with count := s.count + 1 },
            [readUART s.buf line]) := by
  rw [sincronizarRtcTurn, if_neg (by simp [h])]
  cases hpps : t.ppsHigh with
  | false => exact .inl ⟨s.buf, if_neg Bool.false_ne_true⟩
  | true =>
    cases hread : t.read with
    | none => exact .inl ⟨s.buf, by simp only [if_true]⟩
    | some line =>
      by_cases hstatus : isRmcStatusOk (readUART s.buf line) = 1
      · refine .inr ⟨line, rfl, rfl, hstatus, ?_⟩
        by_cases hcount : 4 < s.count <;>
          simp [hstatus, hcount, setRtc, GpsTurn.receive]
      · exact .inl ⟨readUART s.buf line, by simp [hstatus]⟩

/-- Until the function returns `count` is the number of sentences, and then there is one more. -/
def TakenInv (s : SincronizarLoop) (taken : List CBuf) : Prop :=
  s.count ≤ 5 ∧ (s.returned = true → s.count = 5) ∧ taken.length = s.count + s.returned.toNat

theorem TakenInv.step {s : SincronizarLoop} {taken : List CBuf} (h : TakenInv s taken)
    (t : GpsTurn) : TakenInv (sincronizarRtcTurn longMax ok k s t).1
      (taken ++ (sincronizarRtcTurn longMax ok k s t).2) := by
  obtain ⟨hle, hfive, hlength⟩ := h
  cases hreturned : s.returned with
  | true =>
    have hstay : sincronizarRtcTurn longMax ok k s t = (s, []) := if_pos hreturned
    rw [hstay, List.append_nil]
    exact ⟨hle, hfive, hlength⟩
  | false =>
    rw [hreturned, Bool.toNat_false, Nat.add_zero] at hlength
    obtain ⟨buf, hturn⟩ | ⟨line, -, -, -, hturn⟩ :=
      sincronizarRtcTurn_cases longMax ok k hreturned t
    · rw [hturn, List.append_nil]
      exact ⟨hle, hfive, by simp only [hlength, hreturned, Bool.toNat_false, Nat.add_zero]⟩
    · rw [hturn, TakenInv, List.length_append, hlength]
      dsimp only
      split
      case isTrue hcount => exact ⟨hle, fun _ => Nat.le_antisymm hle hcount, rfl⟩
      case isFalse hcount =>
        refine ⟨Nat.succ_le_succ (Nat.le_of_not_lt hcount), fun hyes => ?_, ?_⟩
        · exact absurd (hreturned.symm.trans hyes) Bool.false_ne_true
        · have hkept : (setRtc longMax ok (t.receive k s line) t).returned = false := hreturned
          simp only [hkept, Bool.toNat_false, List.length_singleton]

theorem takenInv (clock : Clock) (turns : ℕ → GpsTurn) (n : ℕ) :
    TakenInv (sincronizarRtc longMax ok k clock turns n)
      (takenSentences longMax ok k clock turns n) :=
  Emitter.invariant (fun _ => TakenInv) ⟨Nat.zero_le _, fun h => Bool.noConfusion h, rfl⟩
    (fun _ _ _ h => h.step longMax ok k _) n

/-- Two states that differ in what has been written at most. -/
def SameReading (s s' : SincronizarLoop) : Prop :=
  s.buf = s'.buf ∧ s.count = s'.count ∧ s.returned = s'.returned

theorem SameReading.step {ok' : ℕ → Bool} {s s' : SincronizarLoop} (h : SameReading s s')
    (t : GpsTurn) :
    SameReading (sincronizarRtcTurn longMax ok k s t).1 (sincronizarRtcTurn longMax ok' k s' t).1 ∧
      (sincronizarRtcTurn longMax ok k s t).2 = (sincronizarRtcTurn longMax ok' k s' t).2 := by
  obtain ⟨hbuf, hcount, hreturned⟩ := h
  simp only [sincronizarRtcTurn, ← hbuf, ← hcount, ← hreturned]
  split
  · exact ⟨⟨hbuf, hcount, hreturned⟩, rfl⟩
  split
  · cases t.read with
    | none => exact ⟨⟨rfl, rfl, rfl⟩, rfl⟩
    | some line =>
      dsimp only
      split
      · by_cases hfive : 4 < s.count <;> simp [SameReading, setRtc, hfive]
      · exact ⟨⟨rfl, rfl, rfl⟩, rfl⟩
  · exact ⟨⟨rfl, rfl, rfl⟩, rfl⟩

/-- Whether the writes succeed makes no difference to the loop. -/
theorem returned_congr (ok' : ℕ → Bool) (clock : Clock) (turns : ℕ → GpsTurn) (n : ℕ) :
    SameReading (sincronizarRtc longMax ok k clock turns n)
        (sincronizarRtc longMax ok' k clock turns n) ∧
      takenSentences longMax ok k clock turns n = takenSentences longMax ok' k clock turns n := by
  induction n with
  | zero => exact ⟨⟨rfl, rfl, rfl⟩, rfl⟩
  | succ n ih =>
    obtain ⟨hsame, htaken⟩ := ih
    obtain ⟨hnext, hout⟩ := hsame.step longMax ok k (turns n)
    exact ⟨hnext, congrArg₂ (· ++ ·) htaken hout⟩

/-- When the RTC shows a sentence that it has just been set to. -/
theorem shows_setRtc_iff (hlong : longMax = 2 ^ 31 - 1 ∨ longMax = 2 ^ 63 - 1) (signedChar : Bool)
    (s : SincronizarLoop) (t : GpsTurn) (hok : ∀ i < 6, ok (s.clock.bus.writes + i) = true)
    (hdigits : ∀ i < 6,
      (charAt s.buf (i + 7)).isDigit = true ∧ (charAt s.buf (i + 57)).isDigit = true) :
    ShowsSentence signedChar (setRtc longMax ok s t).clock.bus s.buf ↔
      Survives longMax signedChar t.memTime (field s.buf 7 6) ∧
        Survives longMax signedChar t.memDate (field s.buf 57 6) := by
  have htime : ∀ i < 6, charAt (getTimeGps s.timeBuf s.buf).1 i = charAt s.buf (i + 7) :=
    fun i hi => charAt_sprintf_field _ _ _ (Nat.lt_trans hi (by omega))
  have hdate : ∀ i < 6, charAt (getDateGps s.dateBuf s.buf).1 i = charAt s.buf (i + 57) :=
    fun i hi => charAt_sprintf_field _ _ _ hi
  have hshows := shows_afterWrites_iff hlong signedChar
    (fun i hi => by rw [htime i hi]; exact (hdigits i hi).1)
    (fun i hi => by rw [hdate i hi]; exact (hdigits i hi).2) t.memTime t.memDate
    (set_of_ok t.memTime t.memDate _ _ hok)
  have htime' := fun i hi => (htime i hi).trans (charAt_field s.buf 7 hi).symm
  have hdate' := fun i hi => (hdate i hi).trans (charAt_field s.buf 57 hi).symm
  rw [field_congr htime, field_congr hdate, Survives.congr htime', Survives.congr hdate'] at hshows
  exact ⟨fun h => (hshows [] []).mp (h [] []), fun h dst dst' => (hshows dst dst').mpr h⟩

/-- The turn on which the function returns. -/
theorem sincronizarRtc_last {clock : Clock} {turns : ℕ → GpsTurn} {n : ℕ}
    (hrunning : (sincronizarRtc longMax ok k clock turns n).returned = false)
    (hreturned : (sincronizarRtc longMax ok k clock turns (n + 1)).returned = true)
    {five : List CBuf} {rmc : CBuf}
    (htaken : takenSentences longMax ok k clock turns (n + 1) = five ++ [rmc]) :
    five.length = 5 ∧ ∃ s : SincronizarLoop, s.buf = rmc ∧
      s.clock.bus.writes = (sincronizarRtc longMax ok k clock turns n).clock.bus.writes ∧
      (sincronizarRtc longMax ok k clock turns (n + 1)).clock
        = (setRtc longMax ok s (turns n)).clock := by
  obtain ⟨-, hfive, hlength⟩ :=
    takenInv longMax ok k clock turns (n + 1)
  rw [hreturned, hfive hreturned, htaken, List.length_append, List.length_singleton] at hlength
  refine ⟨Nat.succ.inj hlength, ?_⟩
  rw [sincronizarRtc, Emitter.state_succ, ← sincronizarRtc] at hreturned ⊢
  rw [takenSentences, Emitter.trace, Emitter.emitted, ← sincronizarRtc] at htaken
  generalize sincronizarRtc longMax ok k clock turns n = s at *
  obtain ⟨buf, hturn⟩ | ⟨line, -, -, -, hturn⟩ :=
    sincronizarRtcTurn_cases longMax ok k hrunning (turns n)
  · rw [hturn] at hreturned
    exact absurd (hrunning.symm.trans hreturned) Bool.false_ne_true
  · rw [hturn] at htaken hreturned ⊢
    obtain ⟨-, hrmc⟩ := List.append_inj' htaken rfl
    refine ⟨(turns n).receive k s line, List.head_eq_of_cons_eq hrmc, writes_run k _ _, ?_⟩
    dsimp only at hreturned ⊢
    split at hreturned
    case isTrue hcount => rw [if_pos hcount]
    case isFalse hcount => exact absurd (hrunning.symm.trans hreturned) Bool.false_ne_true

/-- **When the RTC shows the sentence that it was set to last.** -/
theorem sincronizarRtc_iff (hlong : longMax = 2 ^ 31 - 1 ∨ longMax = 2 ^ 63 - 1)
    (signedChar : Bool) (clock : Clock) (turns : ℕ → GpsTurn) {n : ℕ}
    (hrunning : (sincronizarRtc longMax ok k clock turns n).returned = false)
    (hreturned : (sincronizarRtc longMax ok k clock turns (n + 1)).returned = true)
    (hok : ∀ i < 6, ok ((sincronizarRtc longMax ok k clock turns n).clock.bus.writes + i) = true)
    {five : List CBuf} {rmc : CBuf}
    (htaken : takenSentences longMax ok k clock turns (n + 1) = five ++ [rmc])
    (hdigits : ∀ i < 6,
      (charAt rmc (i + 7)).isDigit = true ∧ (charAt rmc (i + 57)).isDigit = true) :
    five.length = 5 ∧
      (ShowsSentence signedChar (sincronizarRtc longMax ok k clock turns (n + 1)).clock.bus rmc ↔
        Survives longMax signedChar (turns n).memTime (field rmc 7 6) ∧
          Survives longMax signedChar (turns n).memDate (field rmc 57 6)) := by
  obtain ⟨hfive, s, rfl, hwrites, hclock⟩ :=
    sincronizarRtc_last longMax ok k hrunning hreturned htaken
  refine ⟨hfive, ?_⟩
  rw [hclock]
  exact shows_setRtc_iff longMax ok hlong signedChar s (turns n) (by rw [hwrites]; exact hok)
    hdigits

end Loop

/-- The same sentence every second, with nothing behind the arrays. -/
def usualTurns (_ : ℕ) : GpsTurn := ⟨1, true, some usualLine, ⟨[], [], []⟩, ⟨[], [], []⟩⟩

/-- The RTC shows the sixth of these sentences exactly if nothing spoils its digits. -/
theorem sincronizarRtc_iff_usual :
    (List.replicate 5 (readUART (zeroBuf 255) usualLine)).length = 5 ∧
      (ShowsSentence false (sincronizarRtc (2 ^ 31 - 1) (fun _ => true) dayTimekeeper freshClock
          usualTurns 6).clock.bus (readUART (zeroBuf 255) usualLine) ↔
        Survives (2 ^ 31 - 1) false ⟨[], [], []⟩ (field (readUART (zeroBuf 255) usualLine) 7 6) ∧
          Survives (2 ^ 31 - 1) false ⟨[], [], []⟩
            (field (readUART (zeroBuf 255) usualLine) 57 6)) :=
  sincronizarRtc_iff (2 ^ 31 - 1) (fun _ => true) dayTimekeeper (.inl rfl) false freshClock
    usualTurns (by decide +kernel) (by decide +kernel) (fun _ _ => rfl) (by decide +kernel)
    (by decide +kernel)

end SensorIoT
