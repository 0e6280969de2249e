import SensorIoT.StaLta.Defs

/-!
# The parameters `main` accepts

`main` reads the options of a run with `-v`, refuses some of them, and stores the rest with
`setParamsSTA_LTA`.  `mainParams` is that: the options as the `getopt` loop leaves them go in, and
the stored record comes out unless the program exits.

The record of the source has `int` fields, which a negative `-b` or a huge `-l` can make
negative or larger than the arrays.  `Params`, which the detector runs on, has natural numbers;
`Params.Accepted p` says that `p` is, number for number, a record that `main` stores, and
`Params.Fits p` that the lengths in it fit the arrays.
-/

set_option autoImplicit false

namespace SensorIoT

variable {F : Type} [FloatArith F]

/-- The options of a run with `-v`, after the `getopt` loop. -/
structure Options (F : Type) where
  /-- `-f` -/
  sps : ℤ
  /-- `-s` -/
  sta : F
  /-- `-l` -/
  ltaTemp : F
  /-- `-o` -/
  on : F
  /-- `-p` -/
  off : F
  /-- `-m` -/
  min : F
  /-- `-b` -/
  preEvent : ℤ
  /-- `-a` -/
  postEvent : ℤ

/-- `paramsSTA_LTA`, with the `int` fields of the source. -/
structure ParamsSTALTA (F : Type) where
  freq : ℤ
  lengthSTA : ℤ
  lengthLTA : ℤ
  thOn : F
  thOff : F
  minimunDurationSeconds : ℤ
  preEvent : ℤ
  postEvent : ℤ
  deriving DecidableEq

/-- `setParamsSTA_LTA`. -/
def setParamsSTALTA (freq : ℤ) (staSeconds : F) (ltaSeconds : ℤ) (thOn thOff : F)
    (minimunDurationSeconds preEvent postEvent : ℤ) : ParamsSTALTA F where
  freq := freq
  lengthSTA := FloatArith.trunc (staSeconds * (freq : F))
  lengthLTA := ltaSeconds * freq
  thOn := thOn
  thOff := thOff
  minimunDurationSeconds := minimunDurationSeconds
  preEvent := preEvent * freq
  postEvent := postEvent * freq

/-- The checks of `main` on a run with `-v`: the parameters it stores, unless it exits. -/
def mainParams (o : Options F) : Option (ParamsSTALTA F) :=
  if o.sps = 0 then none
  else if FloatArith.feq o.sta 0 || FloatArith.feq o.ltaTemp 0 || FloatArith.feq o.on 0
      || FloatArith.feq o.off 0 || FloatArith.feq o.min 0 || o.preEvent == 0
      || o.postEvent == 0 then none
  else if o.ltaTemp ≤ o.sta then none
  else if o.on ≤ o.off then none
  else if o.sps = 40 ∨ o.sps = 50 ∨ o.sps = 100 ∨ o.sps = 200 then
    some (setParamsSTALTA o.sps o.sta (FloatArith.round o.ltaTemp) o.on o.off
      (FloatArith.trunc o.min) o.preEvent o.postEvent)
  else none

omit [FloatArith F] in
/-- The record of the source that a record of natural lengths stands for. -/
def Params.toC (p : Params F) : ParamsSTALTA F where
  freq := p.freq
  lengthSTA := p.lengthSTA
  lengthLTA := p.lengthLTA
  thOn := p.thOn
  thOff := p.thOff
  minimunDurationSeconds := p.minimunDurationSeconds
  preEvent := p.preEvent
  postEvent := p.postEvent

/-- `main` stores exactly these parameters for some options. -/
def Params.Accepted (p : Params F) : Prop := ∃ o : Options F, mainParams o = some p.toC

omit [FloatArith F] in
/-- The windows and the lengths before and after an event fit their arrays. -/
structure Params.Fits (p : Params F) : Prop where
  lta_pos : 1 ≤ p.lengthLTA
  sta_le : p.lengthSTA ≤ p.lengthLTA
  lta_le : p.lengthLTA ≤ maxWindows
  pre_le : p.preEvent ≤ maxLengthEvent
  post_le : p.postEvent ≤ maxLengthEvent

/-- What the checks of `main` leave of a parameter record. -/
structure Params.Checked (p : Params F) : Prop where
  freq : p.freq = 40 ∨ p.freq = 50 ∨ p.freq = 100 ∨ p.freq = 200
  dvd_lta : p.freq ∣ p.lengthLTA
  dvd_pre : p.freq ∣ p.preEvent
  pre_pos : 0 < p.preEvent
  post_pos : 0 < p.postEvent
  not_on_le_off : ¬ p.thOn ≤ p.thOff

/-- What `main` stores, and what it has checked before. -/
theorem mainParams_eq_some {o : Options F} {q : ParamsSTALTA F} (h : mainParams o = some q) :
    (o.sps = 40 ∨ o.sps = 50 ∨ o.sps = 100 ∨ o.sps = 200) ∧ o.preEvent ≠ 0 ∧ o.postEvent ≠ 0 ∧
      ¬ o.ltaTemp ≤ o.sta ∧ ¬ o.on ≤ o.off ∧
      q = setParamsSTALTA o.sps o.sta (FloatArith.round o.ltaTemp) o.on o.off
        (FloatArith.trunc o.min) o.preEvent o.postEvent := by
  simp only [mainParams] at h
  split at h
  · cases h
  split at h
  · cases h
  rename_i hne
  split at h
  · cases h
  rename_i hsta
  split at h
  · cases h
  rename_i hoff
  split at h
  case isFalse => cases h
  rename_i hsps
  simp only [Bool.or_eq_true, beq_iff_eq, not_or] at hne
  exact ⟨hsps, hne.1.2, hne.2, hsta, hoff, (Option.some.inj h).symm⟩

/-- A number of blocks that is not zero is a positive number of samples. -/
theorem blocks_pos {seconds freq : ℤ} {samples : ℕ} (h : (samples : ℤ) = seconds * freq)
    (hfreq : freq = 40 ∨ freq = 50 ∨ freq = 100 ∨ freq = 200) (hne : seconds ≠ 0) :
    0 < samples := by
  refine Nat.pos_of_ne_zero fun h0 => ?_
  rw [h0, Int.natCast_zero, eq_comm, mul_eq_zero] at h
  omega

theorem Params.Accepted.checked {p : Params F} (h : p.Accepted) : p.Checked := by
  obtain ⟨o, ho⟩ := h
  obtain ⟨hsps, hpre0, hpost0, -, hoff, hq⟩ := mainParams_eq_some ho
  simp only [Params.toC, setParamsSTALTA, ParamsSTALTA.mk.injEq] at hq
  obtain ⟨hfreq, -, hlta, hon, hthoff, -, hpre, hpost⟩ := hq
  refine ⟨by omega, ?_, ?_, blocks_pos hpre hsps hpre0, blocks_pos hpost hsps hpost0,
    by rwa [hon, hthoff]⟩
  · exact Int.natCast_dvd_natCast.mp ⟨_, by rw [hlta, hfreq, mul_comm]⟩
  · exact Int.natCast_dvd_natCast.mp ⟨_, by rw [hpre, hfreq, mul_comm]⟩

theorem Params.Accepted.dvd_post {p : Params F} (h : p.Accepted) : p.freq ∣ p.postEvent := by
  obtain ⟨o, ho⟩ := h
  obtain ⟨-, -, -, -, -, hq⟩ := mainParams_eq_some ho
  simp only [Params.toC, setParamsSTALTA, ParamsSTALTA.mk.injEq] at hq
  obtain ⟨hfreq, -, -, -, -, -, -, hpost⟩ := hq
  exact Int.natCast_dvd_natCast.mp ⟨_, by rw [hpost, hfreq, mul_comm]⟩

theorem Params.Checked.freq_pos {p : Params F} (h : p.Checked) : 0 < p.freq := by
  have := h.freq
  omega

/-- A ratio that starts an event does not stop it at once. -/
theorem Params.Checked.not_le_off {p : Params F} (h : p.Checked) {r : F} (hr : p.thOn ≤ r) :
    ¬ r ≤ p.thOff :=
  fun hoff => h.not_on_le_off (FloatArith.le_trans _ _ _ hr hoff)

/-! ## A small instance -/

/-- The parameters of a run with `-f 40 -s 0.03 -o 3 -p 1.5 -a 1`: a short window of one sample,
and windows and lengths that are small enough to follow a run by hand. -/
def tinyParams (ltaSeconds preSeconds : ℕ) (minimunDurationSeconds : ℤ) : Params ℚ where
  freq := 40
  lengthSTA := 1
  lengthLTA := ltaSeconds * 40
  thOn := 3
  thOff := 3 / 2
  minimunDurationSeconds := minimunDurationSeconds
  preEvent := preSeconds * 40
  postEvent := 40

/-- The options behind `tinyParams`. -/
def tinyOptions (ltaSeconds preSeconds : ℕ) (min : ℚ) : Options ℚ where
  sps := 40
  sta := 3 / 100
  ltaTemp := ltaSeconds
  on := 3
  off := 3 / 2
  min := min
  preEvent := preSeconds
  postEvent := 1

theorem tinyParams_fits {ltaSeconds preSeconds : ℕ} {minimun : ℤ} (hlta : 1 ≤ ltaSeconds)
    (hlta' : ltaSeconds ≤ 1800) (hpre : preSeconds ≤ 6000) :
    (tinyParams ltaSeconds preSeconds minimun).Fits := by
  constructor <;> simp only [tinyParams, maxWindows, maxLengthEvent] <;> omega

end SensorIoT
