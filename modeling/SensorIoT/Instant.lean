import Mathlib.Tactic.IntervalCases
import SensorIoT.CString
import SensorIoT.Lib.Calendar

/-!
# What a time stamp says

The stamps of the program are texts: a date DDMMYY, and a time HHMMSS that with the GPS has
milliseconds behind a point.  `instant` is the moment a stamp denotes, in milliseconds.  Of the
character behind the seconds, a point or a terminator, it asks only that it is not one more digit:
`setStartTime` leaves a terminator there, in front of the milliseconds.

The program reads the numbers of a stamp with `atoi`, out of arrays of two characters that have no
room for a terminator.  `atoi_two` says what that gives: the two digits, and whatever digits lie
behind the array.
-/

set_option autoImplicit false

namespace SensorIoT

/-! ## Digits -/

/-- The number a digit stands for. -/
def digit (c : Char) : ℕ := c.toNat - 48

/-- The number in two characters of a buffer. -/
def two (b : CBuf) (i : ℕ) : ℕ := digit (charAt b i) * 10 + digit (charAt b (i + 1))

theorem isDigit_iff {c : Char} : c.isDigit = true ↔ 48 ≤ c.toNat ∧ c.toNat ≤ 57 := by
  simp only [Char.isDigit, Bool.and_eq_true, decide_eq_true_eq, ge_iff_le, UInt32.le_iff_toNat_le]
  rfl

theorem leadingDigits_cons {c : Char} (h : c.isDigit = true) (acc : ℕ) (cs : List Char) :
    leadingDigits acc (c :: cs) = leadingDigits (acc * 10 + digit c) cs :=
  if_pos h

theorem le_leadingDigits (acc : ℕ) (cs : List Char) : acc ≤ leadingDigits acc cs := by
  induction cs generalizing acc with
  | nil => exact le_refl acc
  | cons c cs ih =>
    by_cases hc : c.isDigit = true
    · rw [leadingDigits_cons hc]
      exact le_trans (by omega) (ih (acc * 10 + digit c))
    · rw [leadingDigits, if_neg hc]

/-- What the digits at the start of `mem` add to a number when they are read as its last ones. -/
def stray (n : ℕ) (mem : List Char) : ℕ := leadingDigits n mem - n

theorem leadingDigits_eq_add_stray (n : ℕ) (mem : List Char) :
    leadingDigits n mem = n + stray n mem :=
  (Nat.add_sub_cancel' (le_leadingDigits n mem)).symm

/-- Memory that does not go on with a digit. -/
def Quiet (mem : List Char) : Prop := ∀ c ∈ mem.head?, c.isDigit = false

instance (mem : List Char) : Decidable (Quiet mem) :=
  decidable_of_iff (mem.head?.all (fun c => !c.isDigit) = true) (by cases mem <;> simp [Quiet])

theorem stray_of_quiet {mem : List Char} (h : Quiet mem) (n : ℕ) : stray n mem = 0 := by
  cases mem with
  | nil => exact Nat.sub_self n
  | cons c cs => rw [stray, leadingDigits, if_neg (by simp [h c rfl]), Nat.sub_self]

/-- Nothing is added to a number: no digits lie behind it, or it is zero and they are zeros. -/
def Ends (n : ℕ) (mem : List Char) : Prop :=
  Quiet mem ∨ n = 0 ∧ ∀ c ∈ mem.takeWhile Char.isDigit, c = '0'

instance (n : ℕ) (mem : List Char) : Decidable (Ends n mem) :=
  have : Decidable (∀ c ∈ mem.takeWhile Char.isDigit, c = '0') := List.decidableBAll _ _
  inferInstanceAs (Decidable (Quiet mem ∨ n = 0 ∧ ∀ c ∈ mem.takeWhile Char.isDigit, c = '0'))

/-- Behind an array with a terminator there is nothing to add. -/
theorem ends_nil (n : ℕ) : Ends n [] := .inl fun _ hc => absurd hc (Option.not_mem_none _)

theorem eq_zero_of_digit {c : Char} (hc : c.isDigit = true) (h : digit c = 0) : c = '0' := by
  have hle := isDigit_iff.mp hc
  exact Char.toNat_inj.mp (le_antisymm (Nat.le_of_sub_eq_zero h) hle.1)

theorem leadingDigits_zero_iff {mem : List Char} :
    leadingDigits 0 mem = 0 ↔ ∀ c ∈ mem.takeWhile Char.isDigit, c = '0' := by
  induction mem with
  | nil => simp [leadingDigits]
  | cons c cs ih =>
    by_cases hc : c.isDigit = true
    · rw [leadingDigits_cons hc, Nat.zero_mul, Nat.zero_add, List.takeWhile_cons_of_pos hc,
        List.forall_mem_cons]
      refine ⟨fun h => ?_, ?_⟩
      · have hle := le_leadingDigits (digit c) cs
        rw [h] at hle
        have hzero := Nat.le_zero.mp hle
        exact ⟨eq_zero_of_digit hc hzero, ih.mp (hzero ▸ h)⟩
      · rintro ⟨rfl, h⟩
        exact ih.mpr h
    · rw [leadingDigits, if_neg hc, List.takeWhile_cons_of_neg hc]
      simp

/-- **When what lies behind a number does not matter.** -/
theorem stray_eq_zero_iff {n : ℕ} {mem : List Char} : stray n mem = 0 ↔ Ends n mem := by
  refine ⟨fun h => ?_, ?_⟩
  · cases mem with
    | nil => exact .inl fun _ hc => by cases hc
    | cons c cs =>
      by_cases hc : c.isDigit = true
      · have hle := le_leadingDigits (n * 10 + digit c) cs
        rw [stray, leadingDigits_cons hc] at h
        obtain rfl : n = 0 := by omega
        refine .inr ⟨rfl, leadingDigits_zero_iff.mp ?_⟩
        rw [leadingDigits_cons hc]
        exact Nat.le_zero.mp (Nat.sub_eq_zero_iff_le.mp h)
      · refine .inl fun d hd => ?_
        obtain rfl : c = d := Option.some.inj hd
        exact Bool.eq_false_of_not_eq_true hc
  · rintro (h | ⟨rfl, h⟩)
    · exact stray_of_quiet h n
    · rw [stray, leadingDigits_zero_iff.mpr h]

theorem isSpace_of_isDigit {c : Char} (h : c.isDigit = true) : isSpace c = false := by
  have := isDigit_iff.mp h
  have hne : c ≠ ' ' := fun heq => absurd h (by rw [heq]; decide)
  simp [isSpace, hne]
  omega

/-- Digits are read from the first one on. -/
theorem atoi_digit {c : Char} (h : c.isDigit = true) (cs : List Char) :
    atoi (c :: cs) = leadingDigits 0 (c :: cs) := by
  have hminus : c ≠ '-' := fun heq => absurd h (by rw [heq]; decide)
  have hplus : c ≠ '+' := fun heq => absurd h (by rw [heq]; decide)
  rw [atoi, List.dropWhile_cons_of_neg (by simp [isSpace_of_isDigit h])]
  split
  · rename_i heq
    exact absurd (List.cons.inj heq).1 hminus
  · rename_i heq
    exact absurd (List.cons.inj heq).1 hplus
  · rfl

/-- The number in a two-character array, with the digits that lie behind it. -/
theorem atoi_two {c d : Char} (hc : c.isDigit = true) (hd : d.isDigit = true) (mem : List Char) :
    atoi (c :: d :: mem) =
      (digit c * 10 + digit d + stray (digit c * 10 + digit d) mem : ℕ) := by
  rw [atoi_digit hc, leadingDigits_cons hc, leadingDigits_cons hd, Nat.zero_mul, Nat.zero_add,
    leadingDigits_eq_add_stray]

/-- The number in a three-character array, with the digits that lie behind it. -/
theorem atoi_three {c d e : Char} (hc : c.isDigit = true) (hd : d.isDigit = true)
    (he : e.isDigit = true) (mem : List Char) :
    atoi (c :: d :: e :: mem) = (digit c * 100 + digit d * 10 + digit e
      + stray (digit c * 100 + digit d * 10 + digit e) mem : ℕ) := by
  have hnumber : (digit c * 10 + digit d) * 10 + digit e
      = digit c * 100 + digit d * 10 + digit e := by omega
  rw [atoi_digit hc, leadingDigits_cons hc, leadingDigits_cons hd, leadingDigits_cons he,
    Nat.zero_mul, Nat.zero_add, hnumber, leadingDigits_eq_add_stray]

/-- The format `%02d` of a number of two digits. -/
theorem fmt02d_eq {n : ℕ} (h : n < 100) :
    fmt02d n = [Nat.digitChar (n / 10), Nat.digitChar (n % 10)] := by
  have hall : ∀ n < 100, fmt02d (n : ℕ) = [Nat.digitChar (n / 10), Nat.digitChar (n % 10)] := by
    decide +kernel
  exact hall n h

theorem fmt02d_natCast (n : ℕ) :
    fmt02d n = List.replicate (2 - (Nat.toDigits 10 n).length) '0' ++ Nat.toDigits 10 n :=
  if_neg (by omega)

theorem isDigit_of_mem_fmt02d {n : ℕ} {c : Char} (h : c ∈ fmt02d n) : c.isDigit = true := by
  rw [fmt02d_natCast, List.mem_append, List.mem_replicate] at h
  obtain ⟨-, rfl⟩ | h := h
  · rfl
  · exact Nat.isDigit_of_mem_toDigits (by decide) (by decide) h

theorem two_le_length_fmt02d (n : ℕ) : 2 ≤ (fmt02d n).length := by
  rw [fmt02d_natCast, List.length_append, List.length_replicate]
  omega

/-- A number of three digits or more is printed with all of them. -/
theorem two_lt_length_fmt02d {n : ℕ} (h : 100 ≤ n) : 2 < (fmt02d n).length := by
  have hlen : 2 < (Nat.toDigits 10 n).length := by
    rw [← not_le, Nat.length_toDigits_le_iff (by decide) (by decide)]
    omega
  rw [fmt02d_natCast, List.length_append]
  omega

theorem digit_digitChar {n : ℕ} (h : n < 10) :
    (Nat.digitChar n).isDigit = true ∧ digit (Nat.digitChar n) = n := by
  have hall : ∀ n < 10, (Nat.digitChar n).isDigit = true ∧ digit (Nat.digitChar n) = n := by decide
  exact hall n h

/-! ## Printing over a buffer -/

theorem charAt_sprintf_lt {text : List Char} {i : ℕ} (h : i < text.length) (dst : CBuf) :
    charAt (sprintf dst text) i = text.getD i nul := by
  simp [charAt, sprintf, List.getElem?_append_left h]

/-- What is behind the terminator stays. -/
theorem charAt_sprintf_gt {text : List Char} {i : ℕ} (h : text.length < i) (dst : CBuf) :
    charAt (sprintf dst text) i = charAt dst i := by
  obtain ⟨k, rfl⟩ : ∃ k, i = text.length + (k + 1) := ⟨i - (text.length + 1), by omega⟩
  simp only [charAt, sprintf, List.getD_eq_getElem?_getD]
  rw [List.getElem?_append_right (Nat.le_add_right _ _), Nat.add_sub_cancel_left,
    List.getElem?_cons_succ, List.getElem?_drop]
  congr 2
  omega

/-! ## Copying a buffer -/

theorem charAt_cstr {b : CBuf} {i : ℕ} (h : i ≤ (cstr b).length) :
    charAt (cstr b) i = charAt b i := by
  induction b generalizing i with
  | nil => rfl
  | cons c cs ih =>
    by_cases hc : c = nul
    · subst hc
      rw [cstr_nul] at h ⊢
      obtain rfl : i = 0 := Nat.le_zero.mp h
      rfl
    · rw [cstr_cons hc] at h ⊢
      cases i with
      | zero => rfl
      | succ i => exact ih (Nat.le_of_succ_le_succ h)

theorem le_length_cstr {b : CBuf} {n : ℕ} (h : ∀ i < n, charAt b i ≠ nul) :
    n ≤ (cstr b).length := by
  by_contra hlt
  have hend := charAt_cstr (b := b) (le_refl (cstr b).length)
  refine h _ (not_le.mp hlt) (hend.symm.trans ?_)
  simp [charAt]

theorem cstr_strcpy (dst src : CBuf) : cstr (strcpy dst src) = cstr src := by
  rw [strcpy, sprintf, cstr_append (nul_notMem_cstr src), cstr_nul, List.append_nil]

/-- A copy agrees with the original up to the terminator. -/
theorem charAt_strcpy {src : CBuf} {i : ℕ} (h : i ≤ (cstr src).length) (dst : CBuf) :
    charAt (strcpy dst src) i = charAt src i := by
  rw [← charAt_cstr h, ← charAt_cstr (by rwa [cstr_strcpy]), cstr_strcpy]

theorem ne_nul_of_isDigit {c : Char} (h : c.isDigit = true) : c ≠ nul := by
  rintro rfl
  exact absurd h (by decide)

/-! ## Stamps -/

/-- The text of a time of the day. -/
structure IsTime (time : CBuf) : Prop where
  isDigit : ∀ i < 6, (charAt time i).isDigit = true
  ends : (charAt time 6).isDigit = false
  hour_lt : two time 0 < 24
  min_lt : two time 2 < 60
  seg_lt : two time 4 < 60

/-- The text of a date, of the years 2000 to 2099. -/
structure IsDate (date : CBuf) : Prop where
  isDigit : ∀ i < 6, (charAt date i).isDigit = true
  ends : charAt date 6 = nul
  ofCalendar : Calendar.IsDate (2000 + two date 4) (two date 2) (two date 0)

/-- A stamp: with the GPS the time has milliseconds. -/
structure ValidStamp (date time : CBuf) (isGPS : Bool) : Prop where
  isDate : IsDate date
  isTime : IsTime time
  mseg : isGPS = true → ∀ i ∈ [7, 8, 9], (charAt time i).isDigit = true

instance (time : CBuf) : Decidable (IsTime time) :=
  decidable_of_iff ((∀ i < 6, (charAt time i).isDigit = true) ∧ (charAt time 6).isDigit = false ∧
      two time 0 < 24 ∧ two time 2 < 60 ∧ two time 4 < 60)
    ⟨fun h => ⟨h.1, h.2.1, h.2.2.1, h.2.2.2.1, h.2.2.2.2⟩, fun h => ⟨h.1, h.2, h.3, h.4, h.5⟩⟩

instance (date : CBuf) : Decidable (IsDate date) :=
  decidable_of_iff ((∀ i < 6, (charAt date i).isDigit = true) ∧ charAt date 6 = nul ∧
      Calendar.IsDate (2000 + two date 4) (two date 2) (two date 0))
    ⟨fun h => ⟨h.1, h.2.1, h.2.2⟩, fun h => ⟨h.1, h.2, h.3⟩⟩

instance (date time : CBuf) (isGPS : Bool) : Decidable (ValidStamp date time isGPS) :=
  decidable_of_iff (IsDate date ∧ IsTime time ∧
      (isGPS = true → ∀ i ∈ [7, 8, 9], (charAt time i).isDigit = true))
    ⟨fun h => ⟨h.1, h.2.1, h.2.2⟩, fun h => ⟨h.1, h.2, h.3⟩⟩

/-- The second of the day. -/
def secondOfDay (time : CBuf) : ℕ := two time 0 * 3600 + two time 2 * 60 + two time 4

/-- The milliseconds. -/
def millisecond (time : CBuf) (isGPS : Bool) : ℕ :=
  if isGPS then digit (charAt time 7) * 100 + digit (charAt time 8) * 10 + digit (charAt time 9)
  else 0

/-- The number of the day. -/
def dayOf (date : CBuf) : ℕ :=
  Calendar.dayNumber (2000 + two date 4) (two date 2) (two date 0)

/-- The moment a stamp denotes, in milliseconds. -/
def instant (date time : CBuf) (isGPS : Bool) : ℕ :=
  (dayOf date * 86400 + secondOfDay time) * 1000 + millisecond time isGPS

theorem secondOfDay_lt {time : CBuf} (h : IsTime time) : secondOfDay time < 86400 := by
  have := h.hour_lt
  have := h.min_lt
  have := h.seg_lt
  unfold secondOfDay
  omega

theorem digit_lt {c : Char} (h : c.isDigit = true) : digit c < 10 := by
  have := isDigit_iff.mp h
  unfold digit
  omega

theorem millisecond_lt {date time : CBuf} {isGPS : Bool} (h : ValidStamp date time isGPS) :
    millisecond time isGPS < 1000 := by
  unfold millisecond
  split
  case isTrue hgps =>
    have h7 := digit_lt (h.mseg hgps 7 (by simp))
    have h8 := digit_lt (h.mseg hgps 8 (by simp))
    have h9 := digit_lt (h.mseg hgps 9 (by simp))
    omega
  case isFalse => exact Nat.succ_pos 999

/-- Two digits are read from two characters. -/
theorem two_congr {b b' : CBuf} (heq : ∀ i < 6, charAt b' i = charAt b i) :
    ∀ i < 5, two b' i = two b i := by
  intro i hi
  rw [two, two, heq i (by omega), heq (i + 1) (by omega)]

/-- The time is in the characters up to the one behind the seconds. -/
theorem IsTime.congr {time time' : CBuf} (h : IsTime time)
    (heq : ∀ i ≤ 6, charAt time' i = charAt time i) : IsTime time' := by
  have htwo := two_congr fun i hi => heq i (Nat.le_of_lt hi)
  refine ⟨fun i hi => ?_, ?_, ?_, ?_, ?_⟩
  · rw [heq i (Nat.le_of_lt hi)]
    exact h.isDigit i hi
  · rw [heq 6 (Nat.le_refl 6)]
    exact h.ends
  · rw [htwo 0 (by omega)]
    exact h.hour_lt
  · rw [htwo 2 (by omega)]
    exact h.min_lt
  · rw [htwo 4 (by omega)]
    exact h.seg_lt

theorem secondOfDay_congr {time time' : CBuf} (heq : ∀ i < 6, charAt time' i = charAt time i) :
    secondOfDay time' = secondOfDay time := by
  have htwo := two_congr heq
  rw [secondOfDay, secondOfDay, htwo 0 (by omega), htwo 2 (by omega), htwo 4 (by omega)]

theorem charAt_strcpy_time {time : CBuf} (h : IsTime time) (dst : CBuf) :
    ∀ i ≤ 6, charAt (strcpy dst time) i = charAt time i := fun _ hi =>
  charAt_strcpy (hi.trans (le_length_cstr fun j hj => ne_nul_of_isDigit (h.isDigit j hj))) dst

theorem length_cstr_date {date : CBuf} (h : IsDate date) : (cstr date).length = 6 := by
  refine le_antisymm ?_ (le_length_cstr fun j hj => ne_nul_of_isDigit (h.isDigit j hj))
  by_contra hlt
  have hmem : charAt (cstr date) 6 ∈ cstr date := by
    rw [charAt, List.getD_eq_getElem?_getD, List.getElem?_eq_getElem (not_le.mp hlt)]
    exact List.getElem_mem _
  rw [charAt_cstr (not_le.mp hlt).le, h.ends] at hmem
  exact nul_notMem_cstr date hmem

/-- Dates with the same text are the same day. -/
theorem dayOf_congr {date date' : CBuf} (h : IsDate date) (heq : cstr date' = cstr date) :
    dayOf date' = dayOf date := by
  have hlen := length_cstr_date h
  have hchar : ∀ i < 6, charAt date' i = charAt date i := by
    intro i hi
    rw [← charAt_cstr (show i ≤ (cstr date').length by rw [heq, hlen]; exact hi.le), heq,
      charAt_cstr (show i ≤ (cstr date).length by rw [hlen]; exact hi.le)]
  have htwo := two_congr hchar
  rw [dayOf, dayOf, htwo 0 (by omega), htwo 2 (by omega), htwo 4 (by omega)]

theorem digit_inj {c d : Char} (hc : c.isDigit = true) (hd : d.isDigit = true)
    (h : digit c = digit d) : c = d := by
  have := isDigit_iff.mp hc
  have := isDigit_iff.mp hd
  unfold digit at h
  exact Char.toNat_inj.mp (by omega)

theorem charAt_of_two {b b' : CBuf} (hb : ∀ i < 6, (charAt b i).isDigit = true)
    (hb' : ∀ i < 6, (charAt b' i).isDigit = true) {i : ℕ} (hi : i < 5) (h : two b i = two b' i) :
    charAt b i = charAt b' i ∧ charAt b (i + 1) = charAt b' (i + 1) := by
  have h1 := digit_lt (hb (i + 1) (by omega))
  have h1' := digit_lt (hb' (i + 1) (by omega))
  unfold two at h
  exact ⟨digit_inj (hb i (by omega)) (hb' i (by omega)) (by omega),
    digit_inj (hb (i + 1) (by omega)) (hb' (i + 1) (by omega)) (by omega)⟩

/-- Times of the same second have the same text. -/
theorem charAt_of_secondOfDay {time time' : CBuf} (h : IsTime time) (h' : IsTime time')
    (heq : secondOfDay time = secondOfDay time') :
    ∀ i < 6, charAt time i = charAt time' i := by
  have hmin := h.min_lt
  have hmin' := h'.min_lt
  have hseg := h.seg_lt
  have hseg' := h'.seg_lt
  unfold secondOfDay at heq
  have hchar : ∀ i < 5, two time i = two time' i →
      charAt time i = charAt time' i ∧ charAt time (i + 1) = charAt time' (i + 1) :=
    fun i hi => charAt_of_two h.isDigit h'.isDigit hi
  have h0 := hchar 0 (by omega) (by omega)
  have h2 := hchar 2 (by omega) (by omega)
  have h4 := hchar 4 (by omega) (by omega)
  intro i hi
  interval_cases i
  exacts [h0.1, h0.2, h2.1, h2.2, h4.1, h4.2]

end SensorIoT
