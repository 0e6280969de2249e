import SensorIoT.EventFile
import SensorIoT.StaLta.Duration

/-!
# The start time in a header

`getSeconds` and `getSacFormatDate` take a stamp apart into numbers, each of them read by `atoi`
from an array with no room for a terminator.  What they give is a matter of the digits alone exactly
when what happens to lie behind the arrays ends the numbers there (`digitsOnly_iff`).

When it does, the start time of a file is a year, a day of the year and a time of the day.  The days
before each month come from a table of a year without a leap day.  So from March on the days of a
leap year are one too low (`sacStart_iff`), and 29 February and 1 March of such a year are the same
day (`start_lt_iff`).
-/

set_option autoImplicit false

namespace SensorIoT

/-! ## What lies behind the arrays -/

/-- A stamp of digits, as far as the program reads it. -/
structure DigitStamp (date time : CBuf) (isGPS : Bool) : Prop where
  isDate : ∀ i < 6, (charAt date i).isDigit = true
  isTime : ∀ i < 6, (charAt time i).isDigit = true
  mseg : isGPS = true → ∀ i ∈ [7, 8, 9], (charAt time i).isDigit = true

/-- The numbers of `getSeconds` end with their arrays. -/
structure SecondsMem.Ends (mem : SecondsMem) (time : CBuf) : Prop where
  hour : SensorIoT.Ends (two time 0) mem.hour
  min : SensorIoT.Ends (two time 2) mem.min
  seg : SensorIoT.Ends (two time 4) mem.seg

/-- The numbers of `getSacFormatDate` end with their arrays, the day if the table of the months has
a place for it. -/
structure DateMem.Ends (mem : DateMem) (date time : CBuf) (isGPS : Bool) : Prop where
  year : SensorIoT.Ends (two date 4) mem.year
  month : SensorIoT.Ends (two date 2) mem.month
  day : two date 2 ∈ Set.Icc 1 13 → SensorIoT.Ends (two date 0) mem.day
  hour : SensorIoT.Ends (two time 0) mem.hour
  min : SensorIoT.Ends (two time 2) mem.min
  seg : SensorIoT.Ends (two time 4) mem.seg
  mseg : isGPS = true → SensorIoT.Ends (millisecond time true) mem.mseg

/-- The start time of a stamp by its digits. -/
structure FullDate.OfDigits (d : FullDate) (date time : CBuf) (isGPS : Bool) : Prop where
  year : d.year = 2000 + (two date 4 : ℤ)
  month : d.month = two date 2
  day : two date 2 ∈ Set.Icc 1 13 → d.day = numeroDiasPorMes.getD (two date 2 - 1) 0 + two date 0
  hour : d.hour = two time 0
  min : d.min = two time 2
  seg : d.seg = two time 4
  mseg : d.mseg = millisecond time isGPS

/-- Two start times that agree, but for a day with a month that the table has no place for. -/
structure FullDate.Same (d d' : FullDate) : Prop where
  year : d.year = d'.year
  month : d.month = d'.month
  day : 1 ≤ d.month ∧ d.month ≤ 13 → d.day = d'.day
  hour : d.hour = d'.hour
  min : d.min = d'.min
  seg : d.seg = d'.seg
  mseg : d.mseg = d'.mseg

section Digits

variable {date time : CBuf} {isGPS : Bool}

/-- A number read from a two-character array. -/
theorem atoi_two_eq_iff {b : CBuf} {i : ℕ} (h : (charAt b i).isDigit = true)
    (h' : (charAt b (i + 1)).isDigit = true) (mem : List Char) :
    atoi (charAt b i :: charAt b (i + 1) :: mem) = two b i ↔ Ends (two b i) mem := by
  rw [atoi_two h h', ← stray_eq_zero_iff, two, Nat.cast_inj, Nat.add_eq_left]

theorem getSeconds_eq_add (h : ∀ i < 6, (charAt time i).isDigit = true) (mem : SecondsMem) :
    getSeconds mem time = (secondOfDay time + straySeconds mem time : ℕ) := by
  rw [getSeconds, atoi_two (h 0 (by decide)) (h 1 (by decide)),
    atoi_two (h 2 (by decide)) (h 3 (by decide)), atoi_two (h 4 (by decide)) (h 5 (by decide))]
  simp only [secondOfDay, straySeconds, two]
  push_cast
  ring

/-- **When the seconds of a stamp are those of its digits.** -/
theorem getSeconds_eq_iff (h : ∀ i < 6, (charAt time i).isDigit = true) (mem : SecondsMem) :
    getSeconds mem time = 3600 * two time 0 + 60 * two time 2 + two time 4 ↔ mem.Ends time := by
  have hstray : straySeconds mem time = 0 ↔ mem.Ends time := by
    rw [straySeconds, Nat.add_eq_zero_iff, Nat.add_eq_zero_iff, Nat.mul_eq_zero, Nat.mul_eq_zero,
      stray_eq_zero_iff, stray_eq_zero_iff, stray_eq_zero_iff]
    refine ⟨?_, fun hends => ⟨⟨.inl hends.hour, .inl hends.min⟩, hends.seg⟩⟩
    rintro ⟨⟨hhour, hmin⟩, hseg⟩
    exact ⟨hhour.resolve_right (by decide), hmin.resolve_right (by decide), hseg⟩
  rw [← hstray, getSeconds_eq_add h, secondOfDay]
  omega

/-- The milliseconds of the RTC are terminators. -/
theorem mseg_rtc (mem : DateMem) : (getSacFormatDate mem date time false).mseg = 0 := rfl

theorem mseg_gps (h : ∀ i ∈ [7, 8, 9], (charAt time i).isDigit = true) (mem : DateMem) :
    (getSacFormatDate mem date time true).mseg = millisecond time true ↔
      Ends (millisecond time true) mem.mseg := by
  have hmillisecond : millisecond time true
      = digit (charAt time 7) * 100 + digit (charAt time 8) * 10 + digit (charAt time 9) := rfl
  rw [hmillisecond, ← stray_eq_zero_iff]
  simp only [getSacFormatDate, if_true, List.cons_append, List.nil_append]
  rw [atoi_three (h 7 (by decide)) (h 8 (by decide)) (h 9 (by decide)), Nat.cast_inj,
    Nat.add_eq_left]

/-- **When the start time of a stamp is that of its digits.** -/
theorem ofDigits_iff (h : DigitStamp date time isGPS) (mem : DateMem) :
    (getSacFormatDate mem date time isGPS).OfDigits date time isGPS ↔ mem.Ends date time isGPS := by
  have htime : ∀ i < 5, ∀ mem, atoi (charAt time i :: charAt time (i + 1) :: mem) = two time i ↔
      Ends (two time i) mem := fun i hi =>
    atoi_two_eq_iff (h.isTime i (Nat.lt_succ_of_lt hi)) (h.isTime (i + 1) (Nat.succ_lt_succ hi))
  have hdate : ∀ i < 5, ∀ mem, atoi (charAt date i :: charAt date (i + 1) :: mem) = two date i ↔
      Ends (two date i) mem := fun i hi =>
    atoi_two_eq_iff (h.isDate i (Nat.lt_succ_of_lt hi)) (h.isDate (i + 1) (Nat.succ_lt_succ hi))
  have hyear : (getSacFormatDate mem date time isGPS).year = 2000 + (two date 4 : ℤ) ↔
      Ends (two date 4) mem.year := by
    rw [← hdate 4 (by decide)]
    exact add_right_inj 2000
  have hday : (getSacFormatDate mem date time isGPS).month = two date 2 →
      ((getSacFormatDate mem date time isGPS).day
          = numeroDiasPorMes.getD (two date 2 - 1) 0 + two date 0 ↔
        Ends (two date 0) mem.day) := by
    intro hmonth
    have hentry : (getSacFormatDate mem date time isGPS).day
        = numeroDiasPorMes.getD (two date 2 - 1) 0
          + atoi (charAt date 0 :: charAt date 1 :: mem.day) := by
      simp only [getSacFormatDate] at hmonth ⊢
      rw [hmonth]
      congr 2
      omega
    rw [← hdate 0 (by decide), hentry]
    exact add_right_inj _
  refine ⟨fun hd => ?_, fun hends => ?_⟩
  · refine ⟨hyear.mp hd.year, (hdate 2 (by decide) _).mp hd.month,
      fun hin => (hday hd.month).mp (hd.day hin), (htime 0 (by decide) _).mp hd.hour,
      (htime 2 (by decide) _).mp hd.min, (htime 4 (by decide) _).mp hd.seg, ?_⟩
    rintro rfl
    exact (mseg_gps (h.mseg rfl) mem).mp hd.mseg
  · have hmonth := (hdate 2 (by decide) _).mpr hends.month
    refine ⟨hyear.mpr hends.year, hmonth, fun hin => (hday hmonth).mpr (hends.day hin),
      (htime 0 (by decide) _).mpr hends.hour, (htime 2 (by decide) _).mpr hends.min,
      (htime 4 (by decide) _).mpr hends.seg, ?_⟩
    cases isGPS
    case false => exact mseg_rtc mem
    case true => exact (mseg_gps (h.mseg rfl) mem).mpr (hends.mseg rfl)

theorem FullDate.OfDigits.same {d d' : FullDate} (h : d.OfDigits date time isGPS)
    (h' : d'.OfDigits date time isGPS) : d.Same d' where
  year := h.year.trans h'.year.symm
  month := h.month.trans h'.month.symm
  day := fun hin => by
    rw [h.month] at hin
    have hin' : two date 2 ∈ Set.Icc 1 13 := ⟨by exact_mod_cast hin.1, by exact_mod_cast hin.2⟩
    exact (h.day hin').trans (h'.day hin').symm
  hour := h.hour.trans h'.hour.symm
  min := h.min.trans h'.min.symm
  seg := h.seg.trans h'.seg.symm
  mseg := h.mseg.trans h'.mseg.symm

end Digits

/-- What a run makes of a stamp is a matter of its digits. -/
structure DigitsOnly (secs : SecondsMem) (mem : DateMem) (date time : CBuf) (isGPS : Bool) :
    Prop where
  seconds : getSeconds secs time = 3600 * two time 0 + 60 * two time 2 + two time 4
  start : (getSacFormatDate mem date time isGPS).OfDigits date time isGPS

/-- **Two runs make the same of a stamp, and what its digits say, exactly when in both of them the
numbers end with their arrays.** -/
theorem digitsOnly_iff {date time : CBuf} {isGPS : Bool} (h : DigitStamp date time isGPS)
    (secs secs' : SecondsMem) (mem mem' : DateMem) :
    (DigitsOnly secs mem date time isGPS ∧ DigitsOnly secs' mem' date time isGPS ∧
        getSeconds secs time = getSeconds secs' time ∧
        (getSacFormatDate mem date time isGPS).Same (getSacFormatDate mem' date time isGPS)) ↔
      (secs.Ends time ∧ mem.Ends date time isGPS) ∧
        (secs'.Ends time ∧ mem'.Ends date time isGPS) := by
  have hiff : ∀ secs mem, DigitsOnly secs mem date time isGPS ↔
      secs.Ends time ∧ mem.Ends date time isGPS := fun secs mem =>
    ⟨fun hd => ⟨(getSeconds_eq_iff h.isTime secs).mp hd.seconds, (ofDigits_iff h mem).mp hd.start⟩,
      fun hends =>
        ⟨(getSeconds_eq_iff h.isTime secs).mpr hends.1, (ofDigits_iff h mem).mpr hends.2⟩⟩
  rw [hiff secs mem, hiff secs' mem']
  refine ⟨fun hall => ⟨hall.1, hall.2.1⟩, fun ⟨hends, hends'⟩ => ⟨hends, hends', ?_, ?_⟩⟩
  · exact ((hiff secs mem).mpr hends).seconds.trans ((hiff secs' mem').mpr hends').seconds.symm
  · exact ((hiff secs mem).mpr hends).start.same ((hiff secs' mem').mpr hends').start

/-- Nothing but terminators behind the arrays. -/
def DateMem.clear : DateMem := ⟨[], [], [], [], [], [], []⟩

theorem SecondsMem.ends_clear (time : CBuf) : SecondsMem.clear.Ends time :=
  ⟨ends_nil _, ends_nil _, ends_nil _⟩

theorem DateMem.ends_clear (date time : CBuf) (isGPS : Bool) :
    DateMem.clear.Ends date time isGPS :=
  ⟨ends_nil _, ends_nil _, fun _ => ends_nil _, ends_nil _, ends_nil _, ends_nil _,
    fun _ => ends_nil _⟩

/-- With nothing but terminators behind the arrays, all runs agree. -/
theorem digitsOnly_iff_clear :
    DigitsOnly SecondsMem.clear DateMem.clear "050517".toList "101500.250".toList true := by
  have hends := And.intro (SecondsMem.ends_clear "101500.250".toList)
    (DateMem.ends_clear "050517".toList "101500.250".toList true)
  exact ((digitsOnly_iff ⟨by decide, by decide, fun _ => by decide⟩ SecondsMem.clear
    SecondsMem.clear DateMem.clear DateMem.clear).mpr ⟨hends, hends⟩).1

/-- With the arrays of a call next to one another, the hour of 10:15:00 goes on with the minutes and
the seconds, and the year with the month and the day. -/
theorem not_digitsOnly_adjacent :
    DigitStamp "050517".toList "101500".toList false ∧
      getSeconds ⟨"1500".toList, "00".toList, []⟩ "101500".toList ≠ 3600 * 10 + 60 * 15 ∧
      (getSacFormatDate ⟨"0505".toList, "05".toList, [], "1500".toList, "00".toList, [], []⟩
        "050517".toList "101500".toList false).year ≠ 2017 :=
  ⟨⟨by decide, by decide, fun h => Bool.noConfusion h⟩, by decide, by decide⟩

/-! ## The order of start times -/

/-- The start time of a header: year, day of the year, and time. -/
def FullDate.start (d : FullDate) : List ℤ := [d.year, d.day, d.hour, d.min, d.seg, d.mseg]

/-- The day of the year of a date, counted from 1. -/
def yearDay (date : CBuf) : ℕ :=
  Calendar.dayOfYear (2000 + two date 4) (two date 2) (two date 0)

/-- A date of a leap year, from 1 March on. -/
def AfterLeapDay (date : CBuf) : Prop :=
  Calendar.isLeap (2000 + two date 4) = true ∧ 3 ≤ two date 2

instance (date : CBuf) : Decidable (AfterLeapDay date) := by unfold AfterLeapDay; infer_instance

/-- The time of the day, in milliseconds. -/
def timeOfDay (time : CBuf) (isGPS : Bool) : ℕ :=
  secondOfDay time * 1000 + millisecond time isGPS

section Order

variable {date time date' time' : CBuf} {isGPS isGPS' : Bool} {mem mem' : DateMem}

theorem ValidStamp.digits (h : ValidStamp date time isGPS) : DigitStamp date time isGPS :=
  ⟨h.isDate.isDigit, h.isTime.isDigit, h.mseg⟩

/-- The day in a header is the day of the year, but one too low after the leap day. -/
theorem day_add (h : ValidStamp date time isGPS) (hmem : mem.Ends date time isGPS) :
    (getSacFormatDate mem date time isGPS).day + (if AfterLeapDay date then 1 else 0)
      = yearDay date := by
  obtain ⟨hfirst, hlast, -, -⟩ := h.isDate.ofCalendar
  have htable : numeroDiasPorMes.getD (two date 2 - 1) 0
      = (Calendar.daysBeforeMonth.getD (two date 2 - 1) 0 : ℕ) := by
    generalize two date 2 = month at hfirst hlast
    interval_cases month <;> rfl
  rw [((ofDigits_iff h.digits mem).mpr hmem).day ⟨hfirst, hlast.trans (by decide)⟩, yearDay,
    Calendar.dayOfYear_eq h.isDate.ofCalendar, htable]
  by_cases hleap : Calendar.isLeap (2000 + two date 4) = true ∧ 3 ≤ two date 2
  · rw [if_pos hleap, if_pos (show AfterLeapDay date from hleap)]
    push_cast
    ring
  · rw [if_neg hleap, if_neg (show ¬ AfterLeapDay date from hleap)]
    push_cast
    ring

/-- **When the day in a header is the day of the year.** -/
theorem day_eq_iff (h : ValidStamp date time isGPS) (hmem : mem.Ends date time isGPS) :
    (getSacFormatDate mem date time isGPS).day = yearDay date ↔ ¬ AfterLeapDay date := by
  rw [← day_add h hmem, left_eq_add]
  by_cases hleap : AfterLeapDay date <;> simp [hleap]

theorem clock_lt_iff (h : ValidStamp date time isGPS) (h' : ValidStamp date' time' isGPS') :
    [(two time 0 : ℤ), two time 2, two time 4, millisecond time isGPS]
        < [(two time' 0 : ℤ), two time' 2, two time' 4, millisecond time' isGPS'] ↔
      timeOfDay time isGPS < timeOfDay time' isGPS' := by
  have hmin := h.isTime.min_lt
  have hmin' := h'.isTime.min_lt
  have hseg := h.isTime.seg_lt
  have hseg' := h'.isTime.seg_lt
  have hms := millisecond_lt h
  have hms' := millisecond_lt h'
  simp only [List.cons_lt_cons_iff, List.lt_irrefl, and_false, or_false, timeOfDay, secondOfDay]
  omega

/-- Start times are in order by year, day and time of the day. -/
theorem start_lt (h : ValidStamp date time isGPS) (h' : ValidStamp date' time' isGPS')
    (hmem : mem.Ends date time isGPS) (hmem' : mem'.Ends date' time' isGPS') :
    (getSacFormatDate mem date time isGPS).start
        < (getSacFormatDate mem' date' time' isGPS').start ↔
      two date 4 < two date' 4 ∨ two date 4 = two date' 4 ∧
        ((getSacFormatDate mem date time isGPS).day
            < (getSacFormatDate mem' date' time' isGPS').day ∨
          (getSacFormatDate mem date time isGPS).day
              = (getSacFormatDate mem' date' time' isGPS').day ∧
            timeOfDay time isGPS < timeOfDay time' isGPS') := by
  have hd := (ofDigits_iff h.digits mem).mpr hmem
  have hd' := (ofDigits_iff h'.digits mem').mpr hmem'
  rw [← clock_lt_iff h h', FullDate.start, FullDate.start, hd.year, hd'.year, hd.hour, hd'.hour,
    hd.min, hd'.min, hd.seg, hd'.seg, hd.mseg, hd'.mseg, List.cons_lt_cons_iff,
    List.cons_lt_cons_iff, add_lt_add_iff_left, add_right_inj, Nat.cast_lt, Nat.cast_inj]

/-- Moments are in order by year, day of the year and time of the day. -/
theorem instant_lt_iff (h : ValidStamp date time isGPS) (h' : ValidStamp date' time' isGPS') :
    instant date time isGPS < instant date' time' isGPS' ↔
      two date 4 < two date' 4 ∨ two date 4 = two date' 4 ∧
        (yearDay date < yearDay date' ∨
          yearDay date = yearDay date' ∧ timeOfDay time isGPS < timeOfDay time' isGPS') := by
  have hlt := Calendar.dayNumber_lt_iff h.isDate.ofCalendar h'.isDate.ofCalendar
  have heq := Calendar.dayNumber_eq_iff h.isDate.ofCalendar h'.isDate.ofCalendar
  have hsecond := secondOfDay_lt h.isTime
  have hsecond' := secondOfDay_lt h'.isTime
  have hms := millisecond_lt h
  have hms' := millisecond_lt h'
  have hdays : instant date time isGPS < instant date' time' isGPS' ↔
      dayOf date < dayOf date' ∨ dayOf date = dayOf date' ∧
        timeOfDay time isGPS < timeOfDay time' isGPS' := by
    rw [instant, instant, timeOfDay, timeOfDay]
    omega
  rw [hdays, dayOf, dayOf, hlt, heq, yearDay, yearDay]
  omega

theorem afterLeapDay_iff (h : ValidStamp date time isGPS) :
    AfterLeapDay date ↔ Calendar.isLeap (2000 + two date 4) = true ∧ 61 ≤ yearDay date :=
  and_congr_right fun hleap => Calendar.three_le_month_iff h.isDate.ofCalendar hleap

/-- When start times are in order: always, but for days 60 and 61 of a leap year, 29 February and
1 March. -/
theorem start_lt_iff (h : ValidStamp date time isGPS) (h' : ValidStamp date' time' isGPS')
    (hmem : mem.Ends date time isGPS) (hmem' : mem'.Ends date' time' isGPS')
    (hlt : instant date time isGPS < instant date' time' isGPS') :
    (getSacFormatDate mem date time isGPS).start
        < (getSacFormatDate mem' date' time' isGPS').start ↔
      ¬ (two date 4 = two date' 4 ∧ Calendar.isLeap (2000 + two date 4) = true ∧
        yearDay date = 60 ∧ yearDay date' = 61 ∧
        timeOfDay time' isGPS' ≤ timeOfDay time isGPS) := by
  have hday := day_add h hmem
  have hday' := day_add h' hmem'
  have hafter := afterLeapDay_iff h
  have hafter' := afterLeapDay_iff h'
  rw [instant_lt_iff h h'] at hlt
  rw [start_lt h h' hmem hmem']
  rcases hlt with hyear | ⟨hyear, hlt⟩
  · omega
  · rw [hyear] at hafter ⊢
    by_cases hleap : Calendar.isLeap (2000 + two date' 4) = true
    · simp only [hleap, true_and] at hafter hafter' ⊢
      simp only [hafter] at hday
      simp only [hafter'] at hday'
      split at hday <;> split at hday' <;> omega
    · have hnot : ¬ AfterLeapDay date := fun ha => hleap (hafter.mp ha).1
      have hnot' : ¬ AfterLeapDay date' := fun ha => hleap ha.1
      rw [if_neg hnot, add_zero] at hday
      rw [if_neg hnot', add_zero] at hday'
      simp only [hleap, hday, hday', Nat.cast_lt, Nat.cast_inj]
      simpa using hlt

/-- **When start times are in order, and their days right.** -/
theorem sacStart_iff (h : ValidStamp date time isGPS) (h' : ValidStamp date' time' isGPS')
    (hmem : mem.Ends date time isGPS) (hmem' : mem'.Ends date' time' isGPS')
    (hlt : instant date time isGPS < instant date' time' isGPS') :
    ((getSacFormatDate mem date time isGPS).start
          < (getSacFormatDate mem' date' time' isGPS').start ∧
        (getSacFormatDate mem date time isGPS).day = yearDay date ∧
        (getSacFormatDate mem' date' time' isGPS').day = yearDay date') ↔
      ¬ AfterLeapDay date ∧ ¬ AfterLeapDay date' := by
  rw [← day_eq_iff h hmem, ← day_eq_iff h' hmem', start_lt h h' hmem hmem']
  refine ⟨fun hall => hall.2, fun ⟨hday, hday'⟩ => ⟨?_, hday, hday'⟩⟩
  rw [hday, hday', Nat.cast_lt, Nat.cast_inj]
  exact (instant_lt_iff h h').mp hlt

end Order

/-- In a common year, the day after 28 February is 1 March. -/
theorem sacStart_iff_common :
    (getSacFormatDate DateMem.clear "280219".toList "235959".toList false).start
        < (getSacFormatDate DateMem.clear "010319".toList "000000".toList false).start ∧
      (getSacFormatDate DateMem.clear "280219".toList "235959".toList false).day
        = yearDay "280219".toList ∧
      (getSacFormatDate DateMem.clear "010319".toList "000000".toList false).day
        = yearDay "010319".toList :=
  (sacStart_iff (by decide) (by decide) (DateMem.ends_clear _ _ _) (DateMem.ends_clear _ _ _)
    (by decide +kernel)).mpr ⟨by decide, by decide⟩

/-- In 2020, a stamp of 29 February and the one a day later have the same start time. -/
theorem not_sacStart_leapDay :
    ValidStamp "290220".toList "101500".toList false ∧
      ValidStamp "010320".toList "101500".toList false ∧
      instant "290220".toList "101500".toList false
        < instant "010320".toList "101500".toList false ∧
      (getSacFormatDate DateMem.clear "290220".toList "101500".toList false).start
        = (getSacFormatDate DateMem.clear "010320".toList "101500".toList false).start ∧
      (getSacFormatDate DateMem.clear "010320".toList "101500".toList false).day
        ≠ yearDay "010320".toList :=
  ⟨by decide, by decide, by decide +kernel, by decide, by decide⟩

end SensorIoT
