import Mathlib.Data.List.DropRight
import SensorIoT.StaLta.Step

/-!
# `moveRegister` inside its arrays

`SensorIoT.StaLta.Defs` reads an array of the source as a function, which has a value at every
index.  Here `moveRegister` works on arrays that end: a read or a write outside of them is `none`.
Its index into the new samples is computed from `positionOfNewSamples`, which is negative when more
samples are shifted in than the buffer holds, so the indices are integers.

The loop reads the buffer it writes.  That does no harm because it reads ahead of where it writes:
after `count` turns the buffer is `Register.overwritten` in its first `count` cells
(`moveRegisterChecked_loop`), and the cells that are still to be read hold what they held at first.
-/

set_option autoImplicit false

namespace SensorIoT

open Register

variable {F : Type}

/-! ## Reads and writes -/

/-- `a[i]`. -/
def readAt (a : List F) (i : ℤ) : Option F := if 0 ≤ i then a[i.toNat]? else none

/-- `a[i] = v`. -/
def writeAt (a : List F) (i : ℤ) (v : F) : Option (List F) :=
  if 0 ≤ i ∧ i < a.length then some (a.set i.toNat v) else none

@[simp] theorem readAt_natCast (a : List F) (i : ℕ) : readAt a i = a[i]? :=
  if_pos (Int.natCast_nonneg i)

theorem writeAt_natCast {a : List F} {i : ℕ} (h : i < a.length) (v : F) :
    writeAt a i v = some (a.set i v) :=
  if_pos ⟨Int.natCast_nonneg i, by exact_mod_cast h⟩

/-! ## The loop -/

/-- One turn of the loop of `moveRegister`. -/
def moveRegisterCheckedBody (newSamples : List F) (samplesNumber bufferSize firstPosition : ℤ)
    (tempData : List F) (count : ℕ) : Option (List F) :=
  let positionOfNewSamples := bufferSize - samplesNumber
  if positionOfNewSamples ≤ count then
    (readAt newSamples (count - positionOfNewSamples + firstPosition)).bind (writeAt tempData count)
  else (readAt tempData (samplesNumber + count)).bind (writeAt tempData count)

/-- `moveRegister`, with every read and write inside its array. -/
def moveRegisterChecked (tempData newSamples : List F)
    (samplesNumber bufferSize firstPosition : ℤ) : Option (List F) :=
  (List.range bufferSize.toNat).foldlM
    (moveRegisterCheckedBody newSamples samplesNumber bufferSize firstPosition) tempData

/-- The new samples of a call. -/
def samplesFrom (newSamples : List F) (samplesNumber firstPosition : ℕ) : List F :=
  (newSamples.drop firstPosition).take samplesNumber

section Loop

variable {tempData newSamples : List F} {k start c : ℕ}

theorem length_samplesFrom (h : start + k ≤ newSamples.length) :
    (samplesFrom newSamples k start).length = k := by
  rw [samplesFrom, List.length_take_of_le]
  rw [List.length_drop]
  omega

/-- What the buffer is meant to hold in the end: all but the `k` oldest of what it held and of the
new samples. -/
theorem length_shifted (tempData : List F) (h : start + k ≤ newSamples.length) :
    ((tempData ++ samplesFrom newSamples k start).drop k).length = tempData.length := by
  rw [List.length_drop, List.length_append, length_samplesFrom h, Nat.add_sub_cancel]

/-- The cells at the end come from the new samples. -/
theorem getElem?_shifted_new (hc : c < tempData.length) (hk : tempData.length ≤ c + k) :
    ((tempData ++ samplesFrom newSamples k start).drop k)[c]?
      = newSamples[c + k - tempData.length + start]? := by
  rw [List.getElem?_drop, List.getElem?_append_right (by omega), samplesFrom,
    List.getElem?_take_of_lt (by omega), List.getElem?_drop]
  congr 1
  omega

/-- The others from further on in the buffer. -/
theorem getElem?_shifted_old (hk : c + k < tempData.length) :
    ((tempData ++ samplesFrom newSamples k start).drop k)[c]? = tempData[k + c]? := by
  rw [List.getElem?_drop, List.getElem?_append_left (by omega)]

/-- One turn writes the next cell. -/
theorem moveRegisterCheckedBody_eq (h : start + k ≤ newSamples.length) (hc : c < tempData.length) :
    moveRegisterCheckedBody newSamples k tempData.length start
        (overwritten ((tempData ++ samplesFrom newSamples k start).drop k) tempData c) c
      = some (overwritten ((tempData ++ samplesFrom newSamples k start).drop k) tempData
        (c + 1)) := by
  have hlen := (length_shifted tempData h).symm
  obtain ⟨v, hv⟩ : ∃ v, ((tempData ++ samplesFrom newSamples k start).drop k)[c]? = some v :=
    ⟨_, List.getElem?_eq_getElem (hlen ▸ hc)⟩
  have hwrite : writeAt (overwritten ((tempData ++ samplesFrom newSamples k start).drop k)
      tempData c) c v = some (overwritten ((tempData ++ samplesFrom newSamples k start).drop k)
        tempData (c + 1)) := by
    rw [writeAt_natCast (by rwa [length_overwritten hlen]), set_overwritten hc hv]
  rw [moveRegisterCheckedBody]
  by_cases hk : tempData.length ≤ c + k
  · have hidx : (c : ℤ) - ((tempData.length : ℤ) - k) + start
        = (c + k - tempData.length + start : ℕ) := by omega
    rw [if_pos (by omega), hidx, readAt_natCast, ← getElem?_shifted_new hc hk, hv,
      Option.bind_some, hwrite]
  · -- the cell read lies behind those already written
    rw [if_neg (by omega), ← Int.natCast_add, readAt_natCast,
      getElem?_overwritten hlen (Nat.le_add_left c k), ← getElem?_shifted_old (by omega), hv,
      Option.bind_some, hwrite]

/-- After `c` turns the first `c` cells are done and the others untouched. -/
theorem moveRegisterChecked_loop (h : start + k ≤ newSamples.length) :
    ∀ c ≤ tempData.length,
      (List.range c).foldlM (moveRegisterCheckedBody newSamples k tempData.length start) tempData
        = some (overwritten ((tempData ++ samplesFrom newSamples k start).drop k) tempData c) := by
  intro c
  induction c with
  | zero =>
    intro _
    rw [overwritten_zero]
    rfl
  | succ c ih =>
    intro hc
    rw [List.range_succ, List.foldlM_append, ih (Nat.le_of_succ_le hc)]
    simp only [Option.bind_eq_bind, Option.bind_some, List.foldlM_cons, List.foldlM_nil,
      moveRegisterCheckedBody_eq h hc]
    rfl

theorem moveRegisterChecked_eq_drop (tempData : List F) (h : start + k ≤ newSamples.length) :
    moveRegisterChecked tempData newSamples k tempData.length start
      = some ((tempData ++ samplesFrom newSamples k start).drop k) := by
  rw [moveRegisterChecked, Int.toNat_natCast, moveRegisterChecked_loop h _ (Nat.le_refl _),
    overwritten_length (length_shifted tempData h).symm]

end Loop

/-- **`moveRegister` stays inside its arrays, and leaves the last elements of what the buffer held
followed by the new samples.** -/
theorem moveRegister_inBounds (tempData newSamples : List F) {samplesNumber firstPosition : ℤ}
    (hsamples : 0 ≤ samplesNumber) (hfirst : 0 ≤ firstPosition)
    (hnew : firstPosition + samplesNumber ≤ newSamples.length) :
    moveRegisterChecked tempData newSamples samplesNumber tempData.length firstPosition
      = some ((tempData ++ samplesFrom newSamples samplesNumber.toNat firstPosition.toNat).rtake
        tempData.length) := by
  obtain ⟨k, rfl⟩ := Int.eq_ofNat_of_zero_le hsamples
  obtain ⟨start, rfl⟩ := Int.eq_ofNat_of_zero_le hfirst
  have h : start + k ≤ newSamples.length := by exact_mod_cast hnew
  rw [moveRegisterChecked_eq_drop tempData h, List.rtake, List.length_append, Int.toNat_natCast,
    Int.toNat_natCast, length_samplesFrom h, Nat.add_sub_cancel_left]

/-- A buffer of two and three new samples, from the second on: more than the buffer holds. -/
theorem moveRegister_inBounds_three :
    moveRegisterChecked [(1 : ℚ), 2] [3, 4, 5, 6] 3 (2 : ℕ) 1 = some [5, 6] :=
  moveRegister_inBounds [(1 : ℚ), 2] [3, 4, 5, 6] (show (0 : ℤ) ≤ 3 by decide)
    (show (0 : ℤ) ≤ 1 by decide) (by decide)

/-- The functions that the detector works with describe the arrays. -/
theorem moveRegisterChecked_map_range (buf new : ℕ → F) {w k start m : ℕ} (h : start + k ≤ m) :
    moveRegisterChecked ((List.range w).map buf) ((List.range m).map new) k w start
      = some ((List.range w).map (moveRegister buf new k w start)) := by
  have hlen : ((List.range w).map buf).length = w := by simp
  have hnew : start + k ≤ ((List.range m).map new).length := by simpa using h
  have heq := moveRegisterChecked_eq_drop ((List.range w).map buf) hnew
  rw [hlen] at heq
  rw [heq, Option.some.injEq, moveRegister_eq_shiftIn]
  refine List.ext_getElem? fun c => ?_
  rcases Nat.lt_or_ge c w with hc | hc
  · rw [List.getElem?_map, List.getElem?_range hc, Option.map_some, shiftIn, if_pos hc]
    by_cases hk : w ≤ c + k
    · rw [getElem?_shifted_new (by rwa [hlen]) (by rwa [hlen]), hlen, if_pos hk,
        List.getElem?_map, List.getElem?_range (by omega), Option.map_some]
    · rw [getElem?_shifted_old (by rw [hlen]; omega), if_neg hk, List.getElem?_map,
        List.getElem?_range (by omega), Option.map_some]
  · rw [List.getElem?_eq_none, List.getElem?_eq_none]
    · simpa using hc
    · rw [length_shifted _ hnew, hlen]
      exact hc

end SensorIoT
