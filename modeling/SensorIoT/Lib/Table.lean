import Mathlib.Data.List.Basic
import Mathlib.Logic.Function.Basic

/-!
# Tables whose fields are found by name

A record keeps its fields in an array, and a list beside it has their names in the same order.  To
read or write a field, a loop goes through the list until it finds the name; a name that is not
there is read as nothing, and written to without effect.

What such a table means is the function from names to values that it is read by.  A write is an
assignment to that function (`read_write`), and after any number of writes a name stands for what
was last written under it (`read_writes`).
-/

set_option autoImplicit false

namespace Table

variable {K V : Type} [DecidableEq K]

/-- Where a name stands in the list, which for one that does not is behind its end. -/
def find (names : List K) (k : K) : ℕ := names.findIdx fun k' => decide (k = k')

theorem find_lt_iff {names : List K} {k : K} : find names k < names.length ↔ k ∈ names := by
  rw [find, List.findIdx_lt_length]
  exact ⟨fun ⟨x, hx, h⟩ => of_decide_eq_true h ▸ hx, fun h => ⟨k, h, decide_eq_true rfl⟩⟩

/-- The name found is the one looked for. -/
theorem getElem_find {names : List K} {k : K} (h : find names k < names.length) :
    names[find names k] = k :=
  (of_decide_eq_true (List.findIdx_getElem (w := h))).symm

theorem find_inj {names : List K} {k k' : K} (h : k ∈ names)
    (heq : find names k = find names k') : k = k' := by
  have hlt : find names k < names.length := find_lt_iff.mpr h
  have hlt' : find names k' < names.length := heq ▸ hlt
  rw [← getElem_find hlt, ← getElem_find hlt']
  exact getElem_congr_idx heq

variable {n : ℕ}

/-- What the table has under a name. -/
def read (names : List K) (fields : Vector V n) (k : K) : Option V := fields[find names k]?

/-- The table with a value written under a name. -/
def write (names : List K) (fields : Vector V n) (k : K) (v : V) : Vector V n :=
  fields.setIfInBounds (find names k) v

/-- Any number of writes, one after the other. -/
def writes (names : List K) (fields : Vector V n) (ws : List (K × V)) : Vector V n :=
  ws.foldl (fun t w => write names t w.1 w.2) fields

/-- What was last written under a name. -/
def last (k : K) : List (K × V) → Option V
  | [] => none
  | w :: ws => (last k ws).or (if w.1 = k then some w.2 else none)

section Meaning

variable {names : List K} {fields : Vector V n} {k k' : K} {v : V} {ws : List (K × V)}

theorem read_eq_none (hlen : names.length = n) (h : k ∉ names) : read names fields k = none := by
  rw [read, Vector.getElem?_eq_none_iff, ← hlen]
  exact Nat.le_of_not_lt fun hlt => h (find_lt_iff.mp hlt)

theorem isSome_read (hlen : names.length = n) (h : k ∈ names) :
    ∃ v, read names fields k = some v := by
  have hlt : find names k < n := hlen ▸ find_lt_iff.mpr h
  exact ⟨fields[find names k], Vector.getElem?_eq_getElem hlt⟩

theorem write_of_notMem (hlen : names.length = n) (h : k ∉ names) :
    write names fields k v = fields := by
  have hle : n ≤ find names k := hlen ▸ Nat.le_of_not_lt fun hlt => h (find_lt_iff.mp hlt)
  exact Vector.setIfInBounds_eq_of_size_le hle

theorem read_write_self (hlen : names.length = n) (h : k ∈ names) :
    read names (write names fields k v) k = some v := by
  have hlt : find names k < n := hlen ▸ find_lt_iff.mpr h
  rw [read, write, Vector.getElem?_setIfInBounds_self_of_lt hlt]

theorem read_write_of_ne (h : k ∈ names) (hne : k ≠ k') :
    read names (write names fields k v) k' = read names fields k' := by
  rw [read, write, Vector.getElem?_setIfInBounds_ne fun heq => hne (find_inj h heq), read]

/-- **A write is an assignment**, if the name is one of the table's. -/
theorem read_write (hlen : names.length = n) : read names (write names fields k v)
    = if k ∈ names then Function.update (read names fields) k (some v) else read names fields := by
  funext k'
  by_cases h : k ∈ names
  · rw [if_pos h]
    rcases eq_or_ne k k' with rfl | hne
    · rw [read_write_self hlen h, Function.update_self]
    · rw [read_write_of_ne h hne, Function.update_of_ne hne.symm]
  · rw [write_of_notMem hlen h, if_neg h]

theorem writes_cons (w : K × V) (ws : List (K × V)) :
    writes names fields (w :: ws) = writes names (write names fields w.1 w.2) ws := rfl

theorem writes_append (ws ws' : List (K × V)) :
    writes names fields (ws ++ ws') = writes names (writes names fields ws) ws' :=
  List.foldl_append

/-- **A name stands for what was last written under it.** -/
theorem read_writes (hlen : names.length = n) (h : k ∈ names) :
    read names (writes names fields ws) k = (last k ws).or (read names fields k) := by
  induction ws generalizing fields with
  | nil => rfl
  | cons w ws ih =>
    rw [writes_cons, ih, last, Option.or_assoc]
    congr 1
    by_cases hw : w.1 = k
    · rw [if_pos hw, ← hw, read_write_self hlen (hw ▸ h)]
      rfl
    · rw [if_neg hw, Option.none_or, read_write hlen]
      split
      · exact Function.update_of_ne (Ne.symm hw) _ _
      · rfl

/-- What is not written to stays. -/
theorem last_eq_none (h : ∀ w ∈ ws, w.1 ≠ k) : last k ws = none := by
  induction ws with
  | nil => rfl
  | cons w ws ih =>
    rw [last, ih fun w' hw' => h w' (List.mem_cons_of_mem _ hw'), if_neg (h w List.mem_cons_self)]
    rfl

end Meaning

end Table
