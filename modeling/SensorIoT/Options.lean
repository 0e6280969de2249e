import SensorIoT.Params
import SensorIoT.Single

/-!
# Which options fit the arrays

`main` compares the options of a run with `-v` with one another, `-s` with `-l` before it rounds
`-l` to a second, and with nothing else: neither signs nor the sizes of the arrays are looked at.
What the detector needs of the record that is stored then is `ParamsSTALTA.InBounds`.

The length of the short window is the product of two `float`s, which is rounded before its fraction
is dropped, so that a product just below a whole number may count as that number.  The options are
therefore numbers of single precision here, as `main` reads them, and `inBounds_iff` says for which
of those that `main` lets through the record is within bounds.
-/

set_option autoImplicit false

namespace SensorIoT

/-- The bounds under which the detector stays inside its arrays and divides by no empty window. -/
structure ParamsSTALTA.InBounds {F : Type} (q : ParamsSTALTA F) : Prop where
  one_le_sta : 1 ≤ q.lengthSTA
  sta_le_lta : q.lengthSTA ≤ q.lengthLTA
  lta_le : q.lengthLTA ≤ maxWindows
  blocks : ∃ k : ℤ, 0 < k ∧ q.lengthLTA = k * q.freq
  one_le_pre : 1 ≤ q.preEvent
  pre_le : q.preEvent ≤ maxLengthEvent
  one_le_post : 1 ≤ q.postEvent
  post_le : q.postEvent ≤ maxLengthEvent

/-! ## The condition -/

/-- The value of a number of single precision. -/
def singleValue (x : Float32) : ℚ := floatValue x.toModel.unpack

/-- The samples in the short window with their fraction: the product as a `float` holds it. -/
def Options.staSamples (o : Options Float32) : ℚ := singleValue (o.sta * (o.sps : Float32))

/-- The whole seconds in the long window. -/
def Options.ltaSeconds (o : Options Float32) : ℤ := FloatArith.round (singleValue o.ltaTemp)

/-- The options that give such parameters: the short window has a sample and, for the long window is
rounded to whole seconds, is less than a sample longer than that; and nothing is longer than its
array. -/
structure Options.InBounds (o : Options Float32) : Prop where
  one_le_sta : 1 ≤ o.staSamples
  sta_lt_lta : o.staSamples < o.ltaSeconds * o.sps + 1
  lta_le : o.ltaSeconds * o.sps ≤ maxWindows
  one_le_pre : 1 ≤ o.preEvent
  pre_le : o.preEvent * o.sps ≤ maxLengthEvent
  one_le_post : 1 ≤ o.postEvent
  post_le : o.postEvent * o.sps ≤ maxLengthEvent

theorem one_le_trunc_iff {q : ℚ} : 1 ≤ (FloatArith.trunc q : ℤ) ↔ 1 ≤ q := by
  simp only [FloatArith.trunc]
  split
  case isTrue h => rw [Int.le_floor, Int.cast_one]
  case isFalse h =>
    have hle : ⌈q⌉ ≤ 0 := Int.ceil_le.mpr (by push_cast; linarith)
    constructor
    · intro h1
      omega
    · intro h1
      linarith

theorem trunc_le_iff {q : ℚ} (hq : 1 ≤ q) {n : ℤ} : FloatArith.trunc q ≤ n ↔ q < n + 1 := by
  rw [show FloatArith.trunc q = ⌊q⌋ from if_pos (zero_le_one.trans hq), Int.floor_le_iff]

/-- **Which of the accepted options are within bounds.** -/
theorem inBounds_iff {o : Options Float32} {q : ParamsSTALTA Float32} (h : mainParams o = some q) :
    q.InBounds ↔ o.InBounds := by
  obtain ⟨hsps, -, -, -, -, rfl⟩ := mainParams_eq_some h
  have hf : 0 < o.sps := by omega
  have hpos : ∀ n : ℤ, 1 ≤ n * o.sps ↔ 1 ≤ n := fun n => mul_pos_iff_of_pos_right hf
  have hround : FloatArith.round o.ltaTemp = o.ltaSeconds := rfl
  have htrunc : FloatArith.trunc (o.sta * (o.sps : Float32)) = FloatArith.trunc o.staSamples := rfl
  constructor
  · rintro ⟨hone, hle, hlta, -, hpre, hpre', hpost, hpost'⟩
    simp only [setParamsSTALTA, hround, htrunc] at hone hle hlta hpre hpre' hpost hpost'
    have h1 : 1 ≤ o.staSamples := one_le_trunc_iff.mp hone
    have hlt := (trunc_le_iff h1).mp hle
    push_cast at hlt
    exact ⟨h1, hlt, hlta, (hpos _).mp hpre, hpre', (hpos _).mp hpost, hpost'⟩
  · rintro ⟨h1, hlt, hlta, hpre, hpre', hpost, hpost'⟩
    have hone : 1 ≤ FloatArith.trunc o.staSamples := one_le_trunc_iff.mpr h1
    have hle : FloatArith.trunc o.staSamples ≤ o.ltaSeconds * o.sps :=
      (trunc_le_iff h1).mpr (by push_cast; exact hlt)
    constructor <;> simp only [setParamsSTALTA, hround, htrunc]
    · exact hone
    · exact hle
    · exact hlta
    · exact ⟨_, (hpos _).mp (hone.trans hle), rfl⟩
    · exact (hpos _).mpr hpre
    · exact hpre'
    · exact (hpos _).mpr hpost
    · exact hpost'

/-! ## Three sets of options -/

/-- The options of a run with `-f 40 -o 3 -p 1.5 -m 1 -b 1 -a 1`. -/
def singleOptions (sta lta : ℚ) : Options Float32 where
  sps := 40
  sta := FloatArith.lit sta
  ltaTemp := FloatArith.lit lta
  on := FloatArith.lit 3
  off := FloatArith.lit (3 / 2)
  min := FloatArith.lit 1
  preEvent := 1
  postEvent := 1

/-- With `-s 0.03 -l 1` the windows have one sample and 40. -/
theorem inBounds_iff_short :
    ∃ q, mainParams (singleOptions (3 / 100) 1) = some q ∧ q.InBounds := by
  have haccepted : (mainParams (singleOptions (3 / 100) 1)).isSome = true := by decide +kernel
  obtain ⟨q, hq⟩ := Option.isSome_iff_exists.mp haccepted
  refine ⟨q, hq, (inBounds_iff hq).mpr ?_⟩
  constructor <;> decide +kernel

/-- With `-s 1.4 -l 1.45` the short window has 56 samples, and the long one, rounded to a second,
has 40. -/
theorem not_inBounds_rounded :
    ∃ q, mainParams (singleOptions (7 / 5) (29 / 20)) = some q ∧ ¬ q.InBounds := by
  have hstored : (mainParams (singleOptions (7 / 5) (29 / 20))).map
      (fun q => (q.lengthSTA, q.lengthLTA)) = some (56, 40) := by
    decide +kernel
  obtain ⟨q, hq, hlengths⟩ := Option.map_eq_some_iff.mp hstored
  obtain ⟨hsta, hlta⟩ := Prod.mk.inj hlengths
  refine ⟨q, hq, fun h => ?_⟩
  have hle := h.sta_le_lta
  rw [hsta, hlta] at hle
  exact absurd hle (by decide)

/-- With `-s 1.024999976` the product is below 41, and the product as a `float` is 41. -/
example : (singleOptions (1024999976 / 10 ^ 9) (6 / 5)).staSamples = 41 := by decide +kernel

end SensorIoT
