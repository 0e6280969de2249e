import Mathlib
import SensorIoT.Arith

/-!
# Single precision

The C `float` of the board is the IEEE format of 32 bits, and so is `Float32`.  This is the instance
of `FloatArith` that the samples are really processed in; what is proved for every `FloatArith` is
so of it.

The law asked for, `le_trans`, is proved by way of `floatKey`: numbers that are no NaN are ordered
as triples of integers, by sign, exponent and mantissa.
-/

set_option autoImplicit false

namespace SensorIoT

open Float.Model UnpackedFloat

/-! ## Order -/

/-- What decides about the order of two numbers. -/
def floatKey : UnpackedFloat → Option (ℤ × ℤ × ℤ)
  | .notANumber => none
  | .infinity .negative => some (-2, 0, 0)
  | .finite .negative m e _ => some (-1, -e, -m)
  | .zero _ => some (0, 0, 0)
  | .finite .positive m e _ => some (1, e, m)
  | .infinity .positive => some (2, 0, 0)

/-- The lexicographic order of triples. -/
def KeyLe (a b : ℤ × ℤ × ℤ) : Prop :=
  a.1 < b.1 ∨ a.1 = b.1 ∧ (a.2.1 < b.2.1 ∨ a.2.1 = b.2.1 ∧ a.2.2 ≤ b.2.2)

theorem KeyLe.trans {a b c : ℤ × ℤ × ℤ} (hab : KeyLe a b) (hbc : KeyLe b c) : KeyLe a c := by
  unfold KeyLe at *
  omega

theorem isLE_compare_then (e e' : ℤ) (m m' : ℕ) :
    ((compare e e').then (compare m m')).isLE = true ↔ e < e' ∨ e = e' ∧ m ≤ m' := by
  rcases lt_trichotomy e e' with h | rfl | h
  · simp [compare_lt_iff_lt.mpr h, h]
  · simp [Nat.isLE_compare]
  · simp [compare_gt_iff_gt.mpr h, h.not_gt, h.ne']

theorem isGE_compare_then (e e' : ℤ) (m m' : ℕ) :
    ((compare e e').then (compare m m')).isGE = true ↔ e' < e ∨ e = e' ∧ m' ≤ m := by
  rw [← Ordering.isLE_swap, Ordering.swap_then, Int.compare_swap, Nat.compare_swap, @eq_comm _ e e']
  exact isLE_compare_then e' e m' m

/-- The comparison `<=` is that of the keys. -/
theorem le_iff_floatKey (a b : UnpackedFloat) :
    a.le b = true ↔ ∃ k l, floatKey a = some k ∧ floatKey b = some l ∧ KeyLe k l := by
  rcases a with ⟨_ | _⟩ | _ | _ | ⟨_ | _⟩ <;> rcases b with ⟨_ | _⟩ | _ | _ | ⟨_ | _⟩
  case finite.negative.finite.negative =>
    simp [UnpackedFloat.le, UnpackedFloat.compare, floatKey, KeyLe, isGE_compare_then]
  case finite.positive.finite.positive =>
    simp [UnpackedFloat.le, UnpackedFloat.compare, floatKey, KeyLe, isLE_compare_then]
  all_goals simp [UnpackedFloat.le, UnpackedFloat.compare, floatKey, KeyLe] <;> rfl

theorem float_le_trans (a b c : Float32) (hab : a ≤ b) (hbc : b ≤ c) : a ≤ c := by
  have hle : ∀ x y : Float32, x ≤ y ↔ x.toModel.unpack.le y.toModel.unpack = true := by
    intro x y
    exact decide_eq_true_iff
  rw [hle, le_iff_floatKey] at *
  obtain ⟨k, l, hk, hl, hkl⟩ := hab
  obtain ⟨l', n, hl', hn, hln⟩ := hbc
  obtain rfl : l = l' := Option.some.inj (hl.symm.trans hl')
  exact ⟨k, n, hk, hn, hkl.trans hln⟩

/-! ## Arithmetic -/

/-- The value of a number; that of an infinity or a NaN is not asked for. -/
def floatValue : UnpackedFloat → ℚ
  | .finite s m e _ => (s.apply m : ℤ) * 2 ^ e
  | _ => 0

/-- The conversion to another format, which rounds. -/
def toFormat (spec : Format) : UnpackedFloat → UnpackedFloat
  | .finite s m e _ => UnpackedFloat.round spec s m e
  | x => x

/-- The conversion from `float` to `double`. -/
def doubleOf (x : Float32) : Float := .ofModel (.pack (toFormat .binary64 x.toModel.unpack))

/-- The conversion from `double` to `float`. -/
def singleOf (x : Float) : Float32 := .ofModel (.pack (toFormat .binary32 x.toModel.unpack))

instance : FloatArith Float32 where
  zero := .ofModel (.ofNat 0)
  natCast n := .ofModel (.ofNat n)
  intCast n := .ofModel (.ofInt n)
  lit q := .ofModel (.ofInt q.num) / .ofModel (.ofNat q.den)
  Double := Float
  zeroDouble := .ofModel (.ofNat 0)
  addDouble sum x := sum + doubleOf x
  divDouble sum n := singleOf (sum / .ofModel (.ofNat n))
  fabs x := .ofModel x.toModel.abs
  trunc x := FloatArith.trunc (floatValue x.toModel.unpack)
  round x := FloatArith.round (floatValue x.toModel.unpack)
  decidableLE := Float32.decLe
  decidableLT := Float32.decLt
  le_trans := float_le_trans

/-- A sum in `double` keeps what a `float` has no room for. -/
example : (singleOf (doubleOf 16777216 + doubleOf 1 + doubleOf 1)).toBits = 0x4B800001 := by
  decide +kernel

/-- The constant that marks a field of a header as undefined. -/
example : (FloatArith.lit (-12345) : Float32).toBits = 0xC640E400 := by decide +kernel

end SensorIoT
