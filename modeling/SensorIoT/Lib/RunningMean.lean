import Mathlib.Algebra.BigOperators.Intervals
import Mathlib.Algebra.Field.Basic
import Mathlib.Tactic.Ring
import Mathlib.Tactic.LinearCombination

/-!
# Running means

`mean x w n` is the mean of the last `w` values of a sequence `x`, the last of them `x n`.  From one
`n` to the next a running mean gains the value that enters the window and loses the one that
leaves it (`mean_succ`), and a program that keeps one up to date does just that.

Such a program is right up to how it starts: `drift_const` says that a value updated by the same
rule stays as far from the true mean as it was at the beginning, for ever.

A program that sees a list in parts and takes the mean of the last one for that of all is right if
the others have the same (`meanOf_append_iff`).
-/

set_option autoImplicit false

namespace RunningMean

open Finset

variable {K : Type*} [Field K]

/-- The mean of the `w` values `x (n + 1 - w), …, x n`. -/
def mean (x : ℕ → K) (w n : ℕ) : K := (∑ i ∈ range w, x (n + 1 - w + i)) / w

/-- The window from the start of the sequence. -/
theorem mean_pred {x : ℕ → K} {w : ℕ} (hw : 1 ≤ w) :
    mean x w (w - 1) = (∑ i ∈ range w, x i) / w := by
  rw [mean, Nat.sub_add_cancel hw]
  simp

/-- A window that moves on by one gains one value and loses one. -/
theorem mean_succ (x : ℕ → K) {w n : ℕ} (hw : w ≤ n + 1) :
    mean x w (n + 1) = mean x w n + (x (n + 1) - x (n + 1 - w)) / w := by
  have hlast : n + 1 - w + w = n + 1 := by omega
  have hshift : ∀ i, x (n + 1 + 1 - w + i) = x (n + 1 - w + (i + 1)) := by
    intro i
    congr 1
    omega
  have hsum : ∑ i ∈ range w, x (n + 1 + 1 - w + i) + x (n + 1 - w)
      = ∑ i ∈ range w, x (n + 1 - w + i) + x (n + 1) := by
    calc ∑ i ∈ range w, x (n + 1 + 1 - w + i) + x (n + 1 - w)
        = ∑ i ∈ range (w + 1), x (n + 1 - w + i) := by
          rw [sum_range_succ']
          simp only [hshift, Nat.add_zero]
      _ = ∑ i ∈ range w, x (n + 1 - w + i) + x (n + 1) := by
          rw [sum_range_succ, hlast]
  rw [mean, mean, ← add_div]
  congr 1
  linear_combination hsum

/-- **The distance to the true mean does not change** under the recursive update. -/
theorem drift_const {x s : ℕ → K} {w a : ℕ} (hw : w ≤ a + 1) {b : ℕ}
    (hs : ∀ n, a ≤ n → n < b → s (n + 1) = s n + (x (n + 1) - x (n + 1 - w)) / w) :
    ∀ n, a ≤ n → n ≤ b → s n - mean x w n = s a - mean x w a := by
  intro n han
  induction n, han using Nat.le_induction with
  | base => intro _; rfl
  | succ n han ih =>
    intro hn
    rw [← ih (by omega), hs n han (by omega), mean_succ x (by omega)]
    ring

/-! ## The mean of a list -/

/-- The mean of the values of a list. -/
def meanOf (xs : List K) : K := xs.sum / xs.length

/-- The second of two lists has the mean of both exactly when the first has it too. -/
theorem meanOf_append_iff [CharZero K] {xs ys : List K} (hx : xs ≠ []) (hy : ys ≠ []) :
    meanOf ys = meanOf (xs ++ ys) ↔ meanOf xs = meanOf ys := by
  have hxlen : (xs.length : K) ≠ 0 := Nat.cast_ne_zero.mpr (List.length_pos_of_ne_nil hx).ne'
  have hylen : (ys.length : K) ≠ 0 := Nat.cast_ne_zero.mpr (List.length_pos_of_ne_nil hy).ne'
  have hlen : (xs.length + ys.length : K) ≠ 0 := by
    rw [← Nat.cast_add]
    exact Nat.cast_ne_zero.mpr (Nat.add_pos_left (List.length_pos_of_ne_nil hx) _).ne'
  rw [meanOf, meanOf, meanOf, List.sum_append, List.length_append, Nat.cast_add,
    div_eq_div_iff hylen hlen, div_eq_div_iff hxlen hylen]
  constructor <;> intro h <;> linear_combination -h

end RunningMean
