import Mathlib.Data.List.Basic

/-!
# Columns of fixed width

Values are printed in rows, each in a column of so many characters, and read back by cutting the row
at the places where the columns are to be.  A value that takes more characters than its column has
is cut off, and moves the ones behind it.

**`map_cutRows_iff`**: the values are read back if and only if each of them fits its column, as soon
as a value that does not is not read back itself.
-/

set_option autoImplicit false

namespace Columns

variable {V α : Type} (f : V → List α) (g : List α → V)

/-- The first `n` columns of width `len` of a text. -/
def columns (len : ℕ) : ℕ → List α → List (List α)
  | 0, _ => []
  | n + 1, s => s.take len :: columns len n (s.drop len)

/-- The columns of `n` rows, in each of which `w` values are printed. -/
def cutRows (w len : ℕ) : ℕ → List V → List (List α)
  | 0, _ => []
  | n + 1, vs => columns len w ((vs.take w).flatMap f) ++ cutRows w len n (vs.drop w)

variable {f g} {w len n : ℕ} {vs : List V} {s : List α}

theorem length_take_row (hvs : vs.length = w * (n + 1)) : (vs.take w).length = w := by
  rw [List.length_take, hvs, Nat.mul_succ]
  omega

theorem length_drop_row (hvs : vs.length = w * (n + 1)) : (vs.drop w).length = w * n := by
  rw [List.length_drop, hvs, Nat.mul_succ, Nat.add_sub_cancel]

@[simp] theorem length_columns : (columns len n s).length = n := by
  induction n generalizing s with
  | zero => rfl
  | succ n ih => rw [columns, List.length_cons, ih]

/-- What is behind the columns does not matter. -/
theorem columns_append (rest : List α) (h : len * n ≤ s.length) :
    columns len n (s ++ rest) = columns len n s := by
  induction n generalizing s with
  | zero => rfl
  | succ n ih =>
    have hle : len ≤ s.length := Nat.le_trans (Nat.le_mul_of_pos_right len (Nat.succ_pos n)) h
    rw [columns, columns, List.take_append_of_le_length hle, List.drop_append_of_le_length hle, ih]
    rw [List.length_drop]
    rw [Nat.mul_succ] at h
    omega

/-- A column has nothing in it that is not in the text. -/
theorem mem_of_mem_columns {c : List α} {a : α} (hc : c ∈ columns len n s) (ha : a ∈ c) :
    a ∈ s := by
  induction n generalizing s with
  | zero => cases hc
  | succ n ih =>
    rcases List.mem_cons.mp hc with rfl | hc
    · exact List.mem_of_mem_take ha
    · exact List.mem_of_mem_drop (ih hc)

/-- One row. -/
theorem map_columns_iff (hlen : ∀ v, len ≤ (f v).length)
    (hfits : ∀ v, (f v).length = len → g (f v) = v)
    (hcut : ∀ v, (f v).length ≠ len → g ((f v).take len) ≠ v) :
    (columns len vs.length (vs.flatMap f)).map g = vs ↔ ∀ v ∈ vs, (f v).length = len := by
  induction vs with
  | nil => simp [columns]
  | cons v vs ih =>
    have htake : (f v ++ vs.flatMap f).take len = (f v).take len :=
      List.take_append_of_le_length (hlen v)
    rw [List.length_cons, List.flatMap_cons, columns, List.map_cons, htake, List.cons.injEq,
      List.forall_mem_cons]
    by_cases hv : (f v).length = len
    · rw [List.take_of_length_le (Nat.le_of_eq hv), List.drop_left' hv, ih]
      exact and_congr_left' (iff_of_true (hfits v hv) hv)
    · exact iff_of_false (fun h => hcut v hv h.1) fun h => hv h.1

@[simp] theorem length_cutRows : (cutRows f w len n vs).length = w * n := by
  induction n generalizing vs with
  | zero => rfl
  | succ n ih => rw [cutRows, List.length_append, length_columns, ih, Nat.mul_succ, Nat.add_comm]

/-- **Which values are read back.** -/
theorem map_cutRows_iff (hvs : vs.length = w * n) (hlen : ∀ v, len ≤ (f v).length)
    (hfits : ∀ v, (f v).length = len → g (f v) = v)
    (hcut : ∀ v, (f v).length ≠ len → g ((f v).take len) ≠ v) :
    (cutRows f w len n vs).map g = vs ↔ ∀ v ∈ vs, (f v).length = len := by
  induction n generalizing vs with
  | zero =>
    obtain rfl : vs = [] := List.length_eq_zero_iff.mp hvs
    simp [cutRows]
  | succ n ih =>
    have hrow := length_take_row hvs
    have hrest := length_drop_row hvs
    have hfirst : (columns len w ((vs.take w).flatMap f)).map g = vs.take w
        ↔ ∀ v ∈ vs.take w, (f v).length = len := by
      have : (columns len (vs.take w).length ((vs.take w).flatMap f)).map g = vs.take w ↔ _ :=
        map_columns_iff hlen hfits hcut
      rwa [hrow] at this
    have hsplit : (∀ v ∈ vs, (f v).length = len)
        ↔ (∀ v ∈ vs.take w, (f v).length = len) ∧ ∀ v ∈ vs.drop w, (f v).length = len := by
      rw [← List.forall_mem_append, List.take_append_drop]
    rw [hsplit, ← hfirst, ← ih hrest, cutRows, List.map_append]
    have hlens : ((columns len w ((vs.take w).flatMap f)).map g).length = (vs.take w).length := by
      rw [List.length_map, length_columns, hrow]
    constructor
    · intro h
      exact List.append_inj (h.trans (List.take_append_drop w vs).symm) hlens
    · rintro ⟨hhead, htail⟩
      rw [hhead, htail, List.take_append_drop]

/-- One row that fits. -/
theorem columns_flatMap (h : ∀ v ∈ vs, (f v).length = len) :
    columns len vs.length (vs.flatMap f) = vs.map f := by
  induction vs with
  | nil => rfl
  | cons v vs ih =>
    obtain ⟨hv, hvs⟩ := List.forall_mem_cons.mp h
    rw [List.length_cons, List.flatMap_cons, columns, List.take_left' hv, List.drop_left' hv,
      ih hvs, List.map_cons]

/-- Rows that fit are cut where they were put together. -/
theorem cutRows_eq_map (hvs : vs.length = w * n) (h : ∀ v ∈ vs, (f v).length = len) :
    cutRows f w len n vs = vs.map f := by
  induction n generalizing vs with
  | zero =>
    obtain rfl : vs = [] := List.length_eq_zero_iff.mp hvs
    rfl
  | succ n ih =>
    have hrow := length_take_row hvs
    have hrest := length_drop_row hvs
    have hfirst : columns len (vs.take w).length ((vs.take w).flatMap f) = (vs.take w).map f :=
      columns_flatMap fun v hv => h v (List.mem_of_mem_take hv)
    rw [hrow] at hfirst
    rw [cutRows, hfirst, ih hrest fun v hv => h v (List.mem_of_mem_drop hv), ← List.map_append,
      List.take_append_drop]

end Columns
