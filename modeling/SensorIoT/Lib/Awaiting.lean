import Mathlib.Data.List.Basic

/-!
# Waiting for two things, one behind the other

A loop goes through what it is given until it has met with something of a first kind and then, any
time later, with something of a second kind.  Of the first kind it keeps what it has seen last.

`pair` is what such a loop ends with, and **`pair_eq_some_iff`** says which two elements these are
in a list, by their places in it.
-/

set_option autoImplicit false

namespace Awaiting

variable {α : Type} (first second : α → Bool)

/-- What is known of the first kind when an element has gone by. -/
def keep (seen : Option α) (x : α) : Option α := if first x = true then some x else seen

/-- The loop ends with `x`, if it has come this far. -/
def ends (seen : Option α) (x : α) : Bool := !first x && second x && seen.isSome

/-- The two elements that a loop ends with, which has seen `seen` before. -/
def pair : Option α → List α → Option (α × α)
  | _, [] => none
  | seen, x :: xs =>
    if ends first second seen x = true then seen.map fun a => (a, x)
    else pair (keep first seen x) xs

/-- The last element of the first kind. -/
def lastOf (seen : Option α) (l : List α) : Option α := ((l.filter first).getLast?).or seen

/-- An element of the second kind with `a` as the last of the first kind before it, and before
which the loop does not end. -/
structure EndsAt (seen : Option α) (pre : List α) (a b : α) : Prop where
  notFirst : first b = false
  isSecond : second b = true
  before : lastOf first seen pre = some a
  earliest : ∀ pre' x rest, pre = pre' ++ x :: rest → first x = false → second x = true →
    lastOf first seen pre' = none

variable {first second} {seen : Option α} {x a b : α} {l pre : List α}

theorem lastOf_cons : lastOf first seen (x :: l) = lastOf first (keep first seen x) l := by
  rw [lastOf, lastOf, keep, List.filter_cons]
  split
  · rw [List.getLast?_cons]
    cases (l.filter first).getLast? <;> rfl
  · rfl

theorem ends_iff : ends first second seen x = true ↔
    first x = false ∧ second x = true ∧ ∃ a, seen = some a := by
  rw [ends, Bool.and_eq_true, Bool.and_eq_true, Bool.not_eq_true', Option.isSome_iff_exists,
    and_assoc]

/-- Where the loop ends with the first element, it ends there and nowhere else. -/
theorem endsAt_cons_false (h : ends first second seen x = true) :
    ¬ EndsAt first second seen (x :: pre) a b := by
  intro hends
  obtain ⟨hother, hsecond, a', rfl⟩ := ends_iff.mp h
  exact absurd (hends.earliest [] x pre rfl hother hsecond) (Option.some_ne_none a')

/-- Where it does not end, it goes on with what it keeps. -/
theorem endsAt_cons_iff (h : ¬ ends first second seen x = true) :
    EndsAt first second seen (x :: pre) a b ↔
      EndsAt first second (keep first seen x) pre a b := by
  constructor
  · intro hends
    refine ⟨hends.notFirst, hends.isSecond, lastOf_cons ▸ hends.before, ?_⟩
    intro pre' y rest hpre hy hy'
    rw [← lastOf_cons]
    exact hends.earliest (x :: pre') y rest (by rw [hpre, List.cons_append]) hy hy'
  · intro hends
    refine ⟨hends.notFirst, hends.isSecond, lastOf_cons ▸ hends.before, ?_⟩
    intro pre' y rest hpre hy hy'
    cases pre' with
    | nil =>
      obtain rfl : x = y := (List.cons.inj hpre).1
      have hnone : seen = none := by
        cases seen with
        | none => rfl
        | some a' => exact absurd (ends_iff.mpr ⟨hy, hy', a', rfl⟩) h
      rw [hnone]
      rfl
    | cons z pre' =>
      obtain ⟨rfl, hrest⟩ := List.cons.inj hpre
      rw [lastOf_cons]
      exact hends.earliest pre' y rest hrest hy hy'

/-- **Which two elements the loop ends with.** -/
theorem pair_eq_some_iff : pair first second seen l = some (a, b) ↔
    ∃ pre post, l = pre ++ b :: post ∧ EndsAt first second seen pre a b := by
  induction l generalizing seen with
  | nil => simp [pair]
  | cons x xs ih =>
    rw [pair]
    split
    case isTrue hends =>
      obtain ⟨hother, hsecond, a', rfl⟩ := ends_iff.mp hends
      rw [Option.map_some, Option.some.injEq, Prod.mk.injEq]
      constructor
      · rintro ⟨rfl, rfl⟩
        refine ⟨[], xs, rfl, hother, hsecond, rfl, fun pre' y rest hpre => ?_⟩
        exact absurd hpre.symm (List.append_ne_nil_of_right_ne_nil pre' (List.cons_ne_nil y rest))
      · rintro ⟨pre, post, hl, hat⟩
        cases pre with
        | nil =>
          obtain rfl : x = b := (List.cons.inj hl).1
          exact ⟨Option.some.inj hat.before, rfl⟩
        | cons y pre =>
          obtain rfl : x = y := (List.cons.inj hl).1
          exact absurd hat (endsAt_cons_false hends)
    case isFalse hgoes =>
      rw [ih]
      constructor
      · rintro ⟨pre, post, rfl, hat⟩
        exact ⟨x :: pre, post, rfl, (endsAt_cons_iff hgoes).mpr hat⟩
      · rintro ⟨pre, post, hl, hat⟩
        cases pre with
        | nil =>
          obtain rfl : x = b := (List.cons.inj hl).1
          exact absurd (ends_iff.mpr ⟨hat.notFirst, hat.isSecond, a, hat.before⟩) hgoes
        | cons y pre =>
          obtain ⟨rfl, hrest⟩ := List.cons.inj hl
          exact ⟨pre, post, hrest, (endsAt_cons_iff hgoes).mp hat⟩

end Awaiting
