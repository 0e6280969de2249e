import Mathlib.Data.List.Range
import Mathlib.Logic.Function.Basic
import Mathlib.Tactic.Common

/-!
# Runs of a stream, and registers that hold its tail

A stream is a function `x : ℕ → α`.  This file is about the two ways a program with fixed buffers
keeps a piece of one:

* a **run** `slice x a b`, the elements `x a, …, x (b - 1)`, and a buffer whose first cells are one,
  `Copies x a k buf`, which grows by writing one element behind it (`Copies.push`);
* a **register** of width `w`, a buffer that is meant to hold the last `w` elements before a
  position `n`; that is `Holds x w n buf`.  `shiftIn` is the operation that moves such a register
  on: it drops the `k` oldest cells and puts `k` new ones at the end.

The two facts everything else rests on are `Holds.shiftIn` — shifting in the next `k` elements of
the stream moves the position by `k` — and `holds_shiftIn_of_le`, which says that as soon as at
least `w` elements are shifted in, what the register held before does not matter.
-/

set_option autoImplicit false

namespace Register

variable {α : Type*}

/-! ## Runs -/

/-- The run `x a, …, x (b - 1)` of a stream. -/
def slice (x : ℕ → α) (a b : ℕ) : List α := (List.range' a (b - a)).map x

@[simp] theorem length_slice (x : ℕ → α) (a b : ℕ) : (slice x a b).length = b - a := by
  simp [slice]

/-- Two runs, one behind the other. -/
theorem slice_append (x : ℕ → α) {a b c : ℕ} (hab : a ≤ b) (hbc : b ≤ c) :
    slice x a b ++ slice x b c = slice x a c := by
  have hb : b = a + (b - a) := (Nat.add_sub_cancel' hab).symm
  have hc : c - a = b - a + (c - b) := by omega
  rw [slice, slice, slice, ← List.map_append, hc, ← List.range'_append_1, ← hb]

/-- The first `k` cells of `buf` are the elements of the stream from `a` on. -/
def Copies (x : ℕ → α) (a k : ℕ) (buf : ℕ → α) : Prop := ∀ i < k, buf i = x (a + i)

theorem copies_zero (x : ℕ → α) (a : ℕ) (buf : ℕ → α) : Copies x a 0 buf :=
  fun i hi => absurd hi (Nat.not_lt_zero i)

/-- Writing the next element behind a copy makes it longer by one. -/
theorem Copies.push {x : ℕ → α} {a k : ℕ} {buf : ℕ → α} {v : α} (h : Copies x a k buf)
    (hv : v = x (a + k)) : Copies x a (k + 1) (Function.update buf k v) := by
  intro i hi
  rcases Nat.lt_succ_iff_lt_or_eq.mp hi with hi | rfl
  · rw [Function.update_of_ne (Nat.ne_of_lt hi), h i hi]
  · rw [Function.update_self, hv]

/-- The cells of a copy, read as a list, are a run. -/
theorem Copies.map_range {x buf : ℕ → α} {a b k : ℕ} (h : Copies x a k buf) (hk : b = a + k) :
    (List.range k).map buf = slice x a b := by
  refine List.ext_getElem (by simp [hk]) fun i hi _ => ?_
  have hi' : i < k := by simpa using hi
  simpa [slice] using h i hi'

/-! ## Registers -/

/-- `buf` holds, oldest first, the last `w` elements of the stream before position `n`. -/
def Holds (x : ℕ → α) (w n : ℕ) (buf : ℕ → α) : Prop := ∀ i < w, buf i = x (n - w + i)

/-- A register of width `w` after `k` cells of `new`, from `start` on, are shifted in. -/
def shiftIn (w : ℕ) (buf new : ℕ → α) (k start : ℕ) (i : ℕ) : α :=
  if i < w then (if w ≤ i + k then new (i + k - w + start) else buf (k + i)) else buf i

theorem shiftIn_of_le {w k start i : ℕ} {buf new : ℕ → α} (h : w ≤ i) :
    shiftIn w buf new k start i = buf i :=
  if_neg (Nat.not_lt.mpr h)

/-- Shifting in the next `k` elements of the stream moves the register on by `k`. -/
theorem Holds.shiftIn {x : ℕ → α} {w n k start : ℕ} {buf new : ℕ → α} (h : Holds x w n buf)
    (hw : w ≤ n) (hnew : ∀ j < k, new (start + j) = x (n + j)) :
    Holds x w (n + k) (shiftIn w buf new k start) := by
  intro i hi
  rw [Register.shiftIn, if_pos hi]
  split
  · rename_i hik
    have hj := hnew (i + k - w) (by omega)
    rw [show i + k - w + start = start + (i + k - w) by omega, hj]
    congr 1
    omega
  · rename_i hik
    rw [h (k + i) (by omega)]
    congr 1
    omega

/-- Once at least `w` elements are shifted in, the register holds the end of what was shifted in,
whatever it held before. -/
theorem holds_shiftIn_of_le {x : ℕ → α} {w n k start : ℕ} {buf new : ℕ → α} (hwk : w ≤ k)
    (hnew : ∀ j < k, new (start + j) = x (n + j)) :
    Holds x w (n + k) (shiftIn w buf new k start) := by
  intro i hi
  rw [shiftIn, if_pos hi, if_pos (by omega)]
  have hj := hnew (i + k - w) (by omega)
  rw [show i + k - w + start = start + (i + k - w) by omega, hj]
  congr 1
  omega

/-- The cells of a register that holds the tail of a stream, read as a list. -/
theorem Holds.map_range {x : ℕ → α} {w n : ℕ} {buf : ℕ → α} (h : Holds x w n buf) (hw : w ≤ n) :
    (List.range w).map buf = slice x (n - w) n :=
  Copies.map_range h (by omega)

/-- And back: a register whose cells are the run up to a position holds it. -/
theorem holds_of_map_range {x : ℕ → α} {w n : ℕ} {buf : ℕ → α} (hw : w ≤ n)
    (h : (List.range w).map buf = slice x (n - w) n) : Holds x w n buf := by
  intro i hi
  have hcell := congrArg (fun l => l[i]?) h
  rw [slice, Nat.sub_sub_self hw] at hcell
  simpa [hi] using hcell

/-! ## Overwriting an array

An array is written from its first cell to its last.  While that goes on, the cells written hold
what they are meant to, and the others what they held before. -/

/-- The array `old` when its first `c` cells have been written with those of `new`. -/
def overwritten (new old : List α) (c : ℕ) : List α := new.take c ++ old.drop c

section Overwritten

variable {new old : List α} {c i : ℕ}

@[simp] theorem overwritten_zero : overwritten new old 0 = old := by simp [overwritten]

theorem overwritten_length (h : old.length = new.length) :
    overwritten new old old.length = new := by
  rw [overwritten, List.drop_length, List.append_nil, h, List.take_length]

@[simp] theorem length_overwritten (h : old.length = new.length) :
    (overwritten new old c).length = old.length := by
  simp [overwritten]
  omega

/-- A cell that is not written yet. -/
theorem getElem?_overwritten (h : old.length = new.length) (hi : c ≤ i) :
    (overwritten new old c)[i]? = old[i]? := by
  rcases Nat.lt_or_ge i old.length with hlt | hge
  · have hlen : (new.take c).length = c := List.length_take_of_le (by omega)
    rw [overwritten, List.getElem?_append_right (by omega), hlen, List.getElem?_drop,
      Nat.add_sub_cancel' hi]
  · rw [List.getElem?_eq_none hge, List.getElem?_eq_none (by rwa [length_overwritten h])]

/-- Writing the next cell. -/
theorem set_overwritten {v : α} (hc : c < old.length) (h : new[c]? = some v) :
    (overwritten new old c).set c v = overwritten new old (c + 1) := by
  obtain ⟨hcn, rfl⟩ := List.getElem?_eq_some_iff.mp h
  have hlen : (new.take c).length = c := List.length_take_of_le (Nat.le_of_lt hcn)
  rw [overwritten, overwritten, List.set_append_right _ _ (Nat.le_of_eq hlen), hlen, Nat.sub_self,
    List.drop_eq_getElem_cons hc, List.set_cons_zero, List.take_succ_eq_append_getElem hcn,
    List.append_assoc, List.singleton_append]

end Overwritten

/-! ## The last time something happened -/

/-- `k` is the last position before `n` at which `P` holds. -/
def IsLast (P : ℕ → Prop) (n k : ℕ) : Prop := k < n ∧ P k ∧ ∀ j, k < j → j < n → ¬ P j

instance (P : ℕ → Prop) [DecidablePred P] (n k : ℕ) : Decidable (IsLast P n k) :=
  decidable_of_iff (k < n ∧ P k ∧ ∀ j < n, k < j → ¬ P j)
    ⟨fun h => ⟨h.1, h.2.1, fun j hkj hj => h.2.2 j hj hkj⟩,
      fun h => ⟨h.1, h.2.1, fun j hj hkj => h.2.2 j hkj hj⟩⟩

/-- The last position stays the last one as long as `P` does not hold again. -/
theorem IsLast.succ {P : ℕ → Prop} {n k : ℕ} (hk : IsLast P n k) (hn : ¬ P n) :
    IsLast P (n + 1) k := by
  refine ⟨hk.1.trans n.lt_succ_self, hk.2.1, fun j hkj hj => ?_⟩
  rcases Nat.lt_succ_iff_lt_or_eq.mp hj with hj | rfl
  · exact hk.2.2 j hkj hj
  · exact hn

/-- And if it does not hold at the end, it was the last one before. -/
theorem IsLast.of_succ {P : ℕ → Prop} {n k : ℕ} (hk : IsLast P (n + 1) k) (hn : ¬ P n) :
    IsLast P n k := by
  have hne : k ≠ n := by
    rintro rfl
    exact hn hk.2.1
  exact ⟨Nat.lt_of_le_of_ne (Nat.le_of_lt_succ hk.1) hne, hk.2.1,
    fun j hkj hj => hk.2.2 j hkj (Nat.lt_succ_of_lt hj)⟩

theorem isLast_self {P : ℕ → Prop} {n : ℕ} (hn : P n) : IsLast P (n + 1) n :=
  ⟨n.lt_succ_self, hn, fun j hnj hj => absurd hj (by omega)⟩

theorem IsLast.unique {P : ℕ → Prop} {n j k : ℕ} (hj : IsLast P n j) (hk : IsLast P n k) :
    j = k := by
  rcases Nat.lt_trichotomy j k with h | h | h
  · exact absurd hk.2.1 (hj.2.2 k h hk.1)
  · exact h
  · exact absurd hj.2.1 (hk.2.2 j h hj.1)

theorem exists_isLast_or {P : ℕ → Prop} (n : ℕ) : (∃ k, IsLast P n k) ∨ ∀ k < n, ¬ P k := by
  induction n with
  | zero => exact .inr fun k hk => absurd hk (Nat.not_lt_zero k)
  | succ n ih =>
    by_cases hn : P n
    · exact .inl ⟨n, isLast_self hn⟩
    · refine ih.imp (fun ⟨k, hk⟩ => ⟨k, hk.succ hn⟩) fun hnone k hk => ?_
      rcases Nat.lt_succ_iff_lt_or_eq.mp hk with hk | rfl
      · exact hnone k hk
      · exact hn

/-! ## Values that are held

A cell that is loaded whenever there is something to load, and keeps its value when there is not. -/

/-- The cell after `n` occasions to load it. -/
def held (init : α) (f : ℕ → Option α) : ℕ → α
  | 0 => init
  | n + 1 => (f n).getD (held init f n)

section Held

variable {init v : α} {f g : ℕ → Option α} {n k : ℕ}

theorem held_succ_of_some (h : f n = some v) : held init f (n + 1) = v := by
  rw [held, h, Option.getD_some]

theorem held_succ_of_none (h : f n = none) : held init f (n + 1) = held init f n := by
  rw [held, h, Option.getD_none]

theorem held_congr (h : ∀ k < n, f k = g k) : held init f n = held init g n := by
  induction n with
  | zero => rfl
  | succ n ih =>
    rw [held, held, h n n.lt_succ_self, ih fun k hk => h k (Nat.lt_succ_of_lt hk)]

theorem held_of_none (h : ∀ k < n, f k = none) : held init f n = init := by
  induction n with
  | zero => rfl
  | succ n ih =>
    rw [held_succ_of_none (h n n.lt_succ_self), ih fun k hk => h k (Nat.lt_succ_of_lt hk)]

/-- **The cell holds what was loaded last.** -/
theorem held_of_isLast (h : IsLast (fun k => f k ≠ none) n k) : f k = some (held init f n) := by
  induction n with
  | zero => exact absurd h.1 (Nat.not_lt_zero k)
  | succ n ih =>
    cases hn : f n with
    | some v =>
      have hlast : k = n := h.unique (isLast_self (by simp [hn]))
      rw [hlast, hn, held_succ_of_some hn]
    | none =>
      have hkn : k ≠ n := fun heq => h.2.1 (heq ▸ hn)
      rw [held_succ_of_none hn]
      exact ih ⟨Nat.lt_of_le_of_ne (Nat.le_of_lt_succ h.1) hkn, h.2.1,
        fun j hj hjn => h.2.2 j hj (Nat.lt_succ_of_lt hjn)⟩

end Held

end Register
