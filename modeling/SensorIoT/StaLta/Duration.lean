import Mathlib.Order.Interval.Set.UnorderedInterval
import SensorIoT.Instant
import SensorIoT.Params

/-!
# How long an event lasted, and when it began

`checkMinimunDuration` takes the duration of an event from the seconds of the day of its two
stamps, and moves its start time back by the length of the register.  It is handed the dates and
looks at neither of them.

So across midnight a duration comes out a day too short, and a start time that would fall on the
day before is left where it is.  `clockError` is by how much the difference of the clock readings is
off: it has the day, the milliseconds, and the digits that `atoi` finds behind the arrays.  Whether
an event is rightly kept is then a matter of where its duration lies (`lastsLong_iff`), and its
start time is right as long as the register reaches back no further than midnight
(`startTime_iff`).
-/

set_option autoImplicit false

namespace SensorIoT

/-! ## Reading the second of the day -/

/-- The seconds that digits behind the arrays of `getSeconds` add. -/
def straySeconds (mem : SecondsMem) (time : CBuf) : ℕ :=
  stray (two time 0) mem.hour * 3600 + stray (two time 2) mem.min * 60
    + stray (two time 4) mem.seg

/-- No digits lie behind the arrays. -/
structure SecondsMem.Quiet (mem : SecondsMem) : Prop where
  hour : SensorIoT.Quiet mem.hour
  min : SensorIoT.Quiet mem.min
  seg : SensorIoT.Quiet mem.seg

theorem straySeconds_of_quiet {mem : SecondsMem} (h : mem.Quiet) (time : CBuf) :
    straySeconds mem time = 0 := by
  simp [straySeconds, stray_of_quiet, h.hour, h.min, h.seg]

theorem getSeconds_eq {time : CBuf} (h : IsTime time) (mem : SecondsMem) :
    getSeconds mem time = (secondOfDay time + straySeconds mem time : ℕ) := by
  have hd := h.isDigit
  rw [getSeconds, atoi_two (hd 0 (by omega)) (hd 1 (by omega)),
    atoi_two (hd 2 (by omega)) (hd 3 (by omega)), atoi_two (hd 4 (by omega)) (hd 5 (by omega))]
  simp only [secondOfDay, straySeconds, two]
  push_cast
  ring

/-- An axis with an event open since the given stamp. -/
def eventSince (date time : String) (isGPS : Bool) : EventData ℚ :=
  { EventData.init with
    eventOn := true
    date := strcpy (zeroBuf 15) date.toList
    time := strcpy (zeroBuf 15) time.toList
    isGPS := isGPS }

/-- Nothing but terminators behind the arrays. -/
def SecondsMem.clear : SecondsMem := ⟨[], [], []⟩

theorem SecondsMem.quiet_clear : SecondsMem.clear.Quiet := ⟨by decide, by decide, by decide⟩

/-! ## The duration -/

variable {F : Type}

/-- By how many seconds the difference of two clock readings is off the time from the start of an
event to a later stamp. -/
def clockError (event : EventData F) (memStart memStop : SecondsMem) (date time : CBuf)
    (isGPS : Bool) : ℤ :=
  straySeconds memStop time - straySeconds memStart event.time
    + (if millisecond time isGPS < millisecond event.time event.isGPS then 1 else 0)
    - (if dayOf event.date = dayOf date then 0 else 86400)

variable {event : EventData F} {date time : CBuf} {isGPS : Bool} {later : ℕ}

/-- The difference of the clock readings of two stamps less than a day apart. -/
theorem getSeconds_sub (hstart : ValidStamp event.date event.time event.isGPS)
    (hstop : ValidStamp date time isGPS)
    (hlater : instant date time isGPS = instant event.date event.time event.isGPS + later)
    (hday : later < 86400000) (memStart memStop : SecondsMem) :
    getSeconds memStop time - getSeconds memStart event.time
      = (later / 1000 : ℕ) + clockError event memStart memStop date time isGPS := by
  have hms := millisecond_lt hstart
  have hms' := millisecond_lt hstop
  have hs := secondOfDay_lt hstart.isTime
  have hs' := secondOfDay_lt hstop.isTime
  rw [getSeconds_eq hstart.isTime, getSeconds_eq hstop.isTime, clockError]
  simp only [instant] at hlater
  split <;> split <;> omega

/-- **When an event is rightly kept.**  The stop lies `later` milliseconds behind the start. -/
theorem lastsLong_iff (p : Params F) (hstart : ValidStamp event.date event.time event.isGPS)
    (hstop : ValidStamp date time isGPS)
    (hlater : instant date time isGPS = instant event.date event.time event.isGPS + later)
    (hday : later < 86400000) (memStart memStop : SecondsMem) :
    ((checkMinimunDuration p memStart memStop event time).1 = true ↔
        p.minimunDurationSeconds * 1000 ≤ later) ↔
      p.minimunDurationSeconds ∉ Set.uIoc ((later / 1000 : ℕ) : ℤ)
        ((later / 1000 : ℕ) + clockError event memStart memStop date time isGPS) := by
  have hcheck : (checkMinimunDuration p memStart memStop event time).1 = true ↔
      p.minimunDurationSeconds
        ≤ (later / 1000 : ℕ) + clockError event memStart memStop date time isGPS := by
    rw [← getSeconds_sub hstart hstop hlater hday, checkMinimunDuration]
    simp only
    split
    case isTrue h => split <;> exact ⟨fun _ => h, fun _ => rfl⟩
    case isFalse h => exact ⟨fun h' => Bool.noConfusion h', fun h' => absurd h' h⟩
  rw [hcheck, Set.mem_uIoc]
  omega

/-- An event of two seconds on new year's eve is discarded, though one second is enough. -/
theorem not_lastsLong_midnight :
    ValidStamp (eventSince "311219" "235959" false).date (eventSince "311219" "235959" false).time
        false ∧
      ValidStamp "010120".toList "000001".toList false ∧
      instant "010120".toList "000001".toList false
        = instant (eventSince "311219" "235959" false).date
            (eventSince "311219" "235959" false).time false + 2000 ∧
      ¬ ((checkMinimunDuration (tinyParams 1 1 1) .clear .clear (eventSince "311219" "235959" false)
          "000001".toList).1 = true ↔ (tinyParams 1 1 1).minimunDurationSeconds * 1000 ≤ 2000) := by
  decide +kernel

/-- The condition at the same stamps with a minimum of zero: the event is discarded as well. -/
theorem lastsLong_iff_midnight :
    ((checkMinimunDuration (tinyParams 1 1 0) .clear .clear (eventSince "311219" "235959" false)
        "000001".toList).1 = true ↔ (tinyParams 1 1 0).minimunDurationSeconds * 1000 ≤ 2000) ↔
      (tinyParams 1 1 0).minimunDurationSeconds ∉ Set.uIoc (((2000 : ℕ) / 1000 : ℕ) : ℤ)
        (((2000 : ℕ) / 1000 : ℕ) + clockError (eventSince "311219" "235959" false) .clear .clear
          "010120".toList "000001".toList false) :=
  lastsLong_iff _ (by decide +kernel) (by decide +kernel) (by decide +kernel) (by decide) _ _

/-! ## The start time -/

/-- What `setStartTime` prints. -/
def clockText (n : ℕ) : List Char :=
  fmt02d (n / 3600 : ℕ) ++ fmt02d (n % 3600 / 60 : ℕ) ++ fmt02d (n % 60 : ℕ)

theorem setStartTime_eq (n : ℕ) (time : CBuf) :
    setStartTime n time = sprintf time (clockText n) := by
  have hseg : n % 3600 % 60 = n % 60 := Nat.mod_mod_of_dvd n (by decide)
  simp only [setStartTime, clockText, ← hseg]
  rfl

theorem clockText_eq {n : ℕ} (h : n < 360000) :
    clockText n =
      [Nat.digitChar (n / 3600 / 10), Nat.digitChar (n / 3600 % 10),
        Nat.digitChar (n % 3600 / 60 / 10), Nat.digitChar (n % 3600 / 60 % 10),
        Nat.digitChar (n % 60 / 10), Nat.digitChar (n % 60 % 10)] := by
  rw [clockText, fmt02d_eq (by omega), fmt02d_eq (by omega), fmt02d_eq (by omega)]
  rfl

/-- From a hundred hours on the text has a digit too many. -/
theorem six_lt_length_clockText {n : ℕ} (h : 360000 ≤ n) : 6 < (clockText n).length := by
  have hhour : 2 < (fmt02d (n / 3600 : ℕ)).length := two_lt_length_fmt02d (by omega)
  have hmin := two_le_length_fmt02d (n % 3600 / 60)
  have hseg := two_le_length_fmt02d (n % 60)
  simp only [clockText, List.length_append]
  omega

theorem isDigit_of_mem_clockText {n : ℕ} {c : Char} (h : c ∈ clockText n) : c.isDigit = true := by
  simp only [clockText, List.mem_append] at h
  obtain (h | h) | h := h <;> exact isDigit_of_mem_fmt02d h

theorem lt_of_isTime_setStartTime {n : ℕ} {time : CBuf} (h : IsTime (setStartTime n time)) :
    n < 360000 := by
  by_contra hn
  have hlen := six_lt_length_clockText (not_lt.mp hn)
  have hends := h.ends
  rw [setStartTime_eq, charAt_sprintf_lt hlen, List.getD_eq_getElem?_getD,
    List.getElem?_eq_getElem hlen, Option.getD_some] at hends
  rw [isDigit_of_mem_clockText (List.getElem_mem hlen)] at hends
  cases hends

/-- What was printed is read back. -/
theorem two_setStartTime {n : ℕ} (h : n < 360000) (time : CBuf) :
    two (setStartTime n time) 0 = n / 3600 ∧ two (setStartTime n time) 2 = n % 3600 / 60 ∧
      two (setStartTime n time) 4 = n % 60 := by
  have hread : ∀ v < 100,
      digit (Nat.digitChar (v / 10)) * 10 + digit (Nat.digitChar (v % 10)) = v := by
    intro v hv
    rw [(digit_digitChar (by omega)).2, (digit_digitChar (by omega)).2]
    omega
  rw [setStartTime_eq, clockText_eq h]
  exact ⟨hread _ (by omega), hread _ (by omega), hread _ (by omega)⟩

theorem secondOfDay_setStartTime {n : ℕ} (h : n < 360000) (time : CBuf) :
    secondOfDay (setStartTime n time) = n := by
  obtain ⟨hhour, hmin, hseg⟩ := two_setStartTime h time
  rw [secondOfDay, hhour, hmin, hseg]
  omega

theorem isTime_setStartTime {n : ℕ} (h : n < 86400) (time : CBuf) :
    IsTime (setStartTime n time) := by
  have hn : n < 360000 := by omega
  obtain ⟨hhour, hmin, hseg⟩ := two_setStartTime hn time
  refine ⟨fun i hi => ?_, ?_, by omega, by omega, by omega⟩
  · have hlen : i < (clockText n).length := by rw [clockText_eq hn]; exact hi
    rw [setStartTime_eq, charAt_sprintf_lt hlen, List.getD_eq_getElem?_getD,
      List.getElem?_eq_getElem hlen, Option.getD_some]
    exact isDigit_of_mem_clockText (List.getElem_mem hlen)
  · rw [setStartTime_eq, clockText_eq hn]
    rfl

/-- The milliseconds stay. -/
theorem charAt_setStartTime {n : ℕ} (h : n < 360000) (time : CBuf) {i : ℕ} (hi : 6 < i) :
    charAt (setStartTime n time) i = charAt time i := by
  rw [setStartTime_eq]
  exact charAt_sprintf_gt (by rw [clockText_eq h]; exact hi) time

theorem millisecond_setStartTime {n : ℕ} (h : n < 360000) (time : CBuf) (isGPS : Bool) :
    millisecond (setStartTime n time) isGPS = millisecond time isGPS := by
  simp only [millisecond, charAt_setStartTime h time (show 6 < 7 by omega),
    charAt_setStartTime h time (show 6 < 8 by omega),
    charAt_setStartTime h time (show 6 < 9 by omega)]

/-- The stamp of an event denotes the moment `back` seconds before the one it had, and its
milliseconds are what they were. -/
structure MovedBack (event event' : EventData F) (back : ℕ) : Prop where
  stamp : ValidStamp event'.date event'.time event'.isGPS
  moved : instant event'.date event'.time event'.isGPS + back * 1000
    = instant event.date event.time event.isGPS
  mseg : event.isGPS = true → ∀ i ∈ [7, 8, 9], charAt event'.time i = charAt event.time i

/-- What `checkMinimunDuration` leaves of an event that it accepts. -/
theorem checkMinimunDuration_snd {p : Params F} {memStart memStop : SecondsMem}
    (hkept : (checkMinimunDuration p memStart memStop event time).1 = true)
    (hstart : IsTime event.time) :
    (checkMinimunDuration p memStart memStop event time).2 =
      if p.preEvent / p.freq ≤ secondOfDay event.time + straySeconds memStart event.time then
        { event with
          time := setStartTime ((secondOfDay event.time + straySeconds memStart event.time
            - p.preEvent / p.freq : ℕ)) event.time }
      else event := by
  simp only [checkMinimunDuration, getSeconds_eq hstart] at hkept ⊢
  split at hkept
  case isFalse => cases hkept
  case isTrue hlong =>
    rw [if_pos hlong]
    by_cases hback : p.preEvent / p.freq
        ≤ secondOfDay event.time + straySeconds memStart event.time
    · rw [if_pos (Int.ofNat_le.mpr hback), if_pos hback, Int.ofNat_sub hback]
    · rw [if_neg (fun h => hback (Int.ofNat_le.mp h)), if_neg hback]

/-- **When the start time of an event is right.** -/
theorem startTime_iff (p : Params F) (memStart memStop : SecondsMem)
    (hstart : ValidStamp event.date event.time event.isGPS)
    (hkept : (checkMinimunDuration p memStart memStop event time).1 = true) :
    MovedBack event (checkMinimunDuration p memStart memStop event time).2 (p.preEvent / p.freq) ↔
      p.preEvent / p.freq ≤ secondOfDay event.time ∧ straySeconds memStart event.time = 0 := by
  rw [checkMinimunDuration_snd hkept hstart.isTime]
  have hday := secondOfDay_lt hstart.isTime
  have hbehind : ∀ i ∈ [7, 8, 9], 6 < i := by decide
  generalize p.preEvent / p.freq = back
  split
  case isTrue hback =>
    constructor
    · -- the printed time has to be a time of the day for the stamp to denote anything
      rintro ⟨hstamp, hmoved, -⟩
      have hlt := lt_of_isTime_setStartTime hstamp.isTime
      simp only [instant, secondOfDay_setStartTime hlt, millisecond_setStartTime hlt] at hmoved
      omega
    · rintro ⟨hle, hquiet⟩
      obtain ⟨n, hn⟩ : ∃ n, n = secondOfDay event.time + straySeconds memStart event.time - back :=
        ⟨_, rfl⟩
      have hlt : n < 360000 := by omega
      rw [← hn]
      refine ⟨⟨hstart.isDate, isTime_setStartTime (by omega) _, fun hgps i hi => ?_⟩, ?_,
        fun _ i hi => charAt_setStartTime hlt _ (hbehind i hi)⟩
      · rw [charAt_setStartTime hlt _ (hbehind i hi)]
        exact hstart.mseg hgps i hi
      · simp only [instant, secondOfDay_setStartTime hlt, millisecond_setStartTime hlt]
        omega
  case isFalse hback =>
    constructor
    · rintro ⟨-, hmoved, -⟩
      omega
    · rintro ⟨hle, -⟩
      omega

/-- An event that begins right after midnight: the second of the register before it is one of the
day before, and the start time stays that of the block. -/
theorem not_startTime_midnight :
    ValidStamp (eventSince "010120" "000000" false).date (eventSince "010120" "000000" false).time
        false ∧
      (checkMinimunDuration (tinyParams 1 1 1) .clear .clear (eventSince "010120" "000000" false)
        "000001".toList).1 = true ∧
      ¬ MovedBack (eventSince "010120" "000000" false)
        (checkMinimunDuration (tinyParams 1 1 1) .clear .clear
          (eventSince "010120" "000000" false) "000001".toList).2
        ((tinyParams 1 1 1).preEvent / (tinyParams 1 1 1).freq) := by
  refine ⟨by decide +kernel, by decide +kernel, fun h => absurd h.moved ?_⟩
  decide +kernel

/-- The condition at the same event. -/
theorem startTime_iff_midnight :
    MovedBack (eventSince "010120" "000000" false)
        (checkMinimunDuration (tinyParams 1 1 1) .clear .clear
          (eventSince "010120" "000000" false) "000001".toList).2
        ((tinyParams 1 1 1).preEvent / (tinyParams 1 1 1).freq) ↔
      (tinyParams 1 1 1).preEvent / (tinyParams 1 1 1).freq
          ≤ secondOfDay (eventSince "010120" "000000" false).time ∧
        straySeconds .clear (eventSince "010120" "000000" false).time = 0 :=
  startTime_iff _ _ _ (by decide +kernel) (by decide +kernel)

end SensorIoT
