import Mathlib.Algebra.Order.Floor.Ring
import Mathlib.Data.Rat.Floor

/-!
# The arithmetic the samples are processed in

The program computes with C `float`s.  Almost nothing it does right or wrong depends on how they
round, so the model takes the arithmetic as a parameter: a `FloatArith` is a type of numbers with
the operations the source uses.  The one law, `le_trans`, holds of IEEE comparisons with infinities
and NaNs included, since a comparison with a NaN is false.

Where rounding would be in the way of what is said — running averages, times in a header — the
numbers are the exact rationals, for which `FloatArith ℚ` is declared at the end.
-/

set_option autoImplicit false

namespace SensorIoT

/-- The floating-point operations of the source. -/
class FloatArith (F : Type) extends Zero F, Add F, Sub F, Mul F, Div F, NatCast F, IntCast F,
    LE F, LT F where
  /-- A floating-point constant of the source. -/
  lit : ℚ → F
  /-- The type `double`, which `scmxmn` keeps its sum in. -/
  Double : Type
  /-- The constant 0 as a `double`. -/
  zeroDouble : Double
  /-- `sum += x`. -/
  addDouble : Double → F → Double
  /-- `sum / npts`, which is stored in a `float`. -/
  divDouble : Double → ℕ → F
  /-- The absolute value. -/
  fabs : F → F
  /-- The conversion to `int`, which drops the fraction. -/
  trunc : F → ℤ
  /-- The library function `round`: to the nearest integer, halves away from zero. -/
  round : F → ℤ
  /-- `<=` can be evaluated. -/
  decidableLE : DecidableRel ((· ≤ ·) : F → F → Prop)
  /-- `<` can be evaluated. -/
  decidableLT : DecidableRel ((· < ·) : F → F → Prop)
  /-- `<=` is transitive. -/
  le_trans : ∀ a b c : F, a ≤ b → b ≤ c → a ≤ c

namespace FloatArith

instance (F : Type) [FloatArith F] : DecidableRel ((· ≤ ·) : F → F → Prop) := decidableLE

instance (F : Type) [FloatArith F] : DecidableRel ((· < ·) : F → F → Prop) := decidableLT

/-- The comparison `==`, which no NaN passes. -/
def feq {F : Type} [FloatArith F] (a b : F) : Bool := decide (a ≤ b) && decide (b ≤ a)

/-- The exact rationals.  A division by zero gives zero here, where C gives an infinity or a
NaN. -/
instance : FloatArith ℚ where
  lit q := q
  Double := ℚ
  zeroDouble := 0
  addDouble sum x := sum + x
  divDouble sum n := sum / n
  fabs q := |q|
  trunc q := if 0 ≤ q then ⌊q⌋ else ⌈q⌉
  round q := if 0 ≤ q then ⌊q + 1 / 2⌋ else ⌈q - 1 / 2⌉
  decidableLE := inferInstance
  decidableLT := inferInstance
  le_trans _ _ _ := Rat.le_trans

@[simp] theorem lit_rat (q : ℚ) : (lit q : ℚ) = q := rfl

theorem addDouble_rat (sum x : ℚ) : addDouble (F := ℚ) sum x = sum + x := rfl

theorem divDouble_rat (sum : ℚ) (n : ℕ) : divDouble (F := ℚ) sum n = sum / n := rfl

end FloatArith

end SensorIoT
