import SensorIoT.Adc.Defs
import SensorIoT.Lib.Register

/-!
# Samples of transfers that fail

The buffers for the bytes of a conversion live as long as the block, and `readData` leaves its
buffer alone when the transfer fails.  The return codes that say so go through `readAINx` and the
functions above it, and end in the loop of `readAnalogInputsAndSaveData`, which does not look at
them.  So the buffer of an axis is a cell that is held (`Register.held`), and a sample is put
together from what was last loaded into it (`acquire_data`).

`TakesOwn` says of a sample that it is the one its own read delivers, whatever that is.  All samples
are so exactly when no read fails (`takesOwn_iff`).
-/

set_option autoImplicit false

namespace SensorIoT

open Register

/-! ## The loop -/

/-- The place of an axis among the transfers of a turn: the read of its conversion, behind the
selection of its inputs. -/
def Axis.place : Axis → ℕ
  | .x => 1
  | .y => 3
  | .z => 5

/-- The transfer that reads sample `k` of an axis. -/
def readIndex (axis : Axis) (k : ℕ) : ℕ := 6 * k + axis.place

/-- The bytes that a transfer delivers. -/
def received (t : Transfer) : Option Recv := if 1 < t.result then some (firstSix t.rx) else none

/-- The bytes that the read of sample `k` delivers. -/
def delivered (outcomes : ℕ → Transfer) (axis : Axis) (k : ℕ) : Option Recv :=
  received (outcomes (readIndex axis k))

/-- The buffer of an axis after `k` turns. -/
def bufferAt (outcomes : ℕ → Transfer) (axis : Axis) : ℕ → Recv :=
  held (Vector.replicate 6 0) (delivered outcomes axis)

/-- One of the three calls: it takes two transfers, and loads the buffer if the second one
succeeds. -/
theorem readAIN_eq (inputs : BitVec 8) (spi : Spi) (recvBuffer : Recv) :
    (readAIN inputs spi recvBuffer).recv = (received (spi.coming 1)).getD recvBuffer ∧
      (readAIN inputs spi recvBuffer).spi.coming = fun n => spi.coming (n + 2) := by
  refine ⟨?_, rfl⟩
  simp only [readAIN, readAINx, readData, writeRegister, transfer, received, Nat.zero_add]
  split <;> rfl

/-- The loop of a block after some turns. -/
structure AcquireInv (c : Convention) (outcomes : ℕ → Transfer) (k : ℕ) (a : Acquisition ℚ) :
    Prop where
  coming : ∀ n, a.spi.coming n = outcomes (6 * k + n)
  recv : ∀ axis, a.recv axis = bufferAt outcomes axis k
  data : ∀ axis, ∀ i < k, a.data axis i = sampleCount c (bufferAt outcomes axis (i + 1))

section Loop

variable {c : Convention} {outcomes : ℕ → Transfer} {k : ℕ} {a : Acquisition ℚ}

/-- One turn. -/
theorem AcquireInv.step (h : AcquireInv c outcomes k a) :
    AcquireInv c outcomes (k + 1) (acquireBody c a k) := by
  have hx := readAIN_eq 0x23 a.spi (a.recv .x)
  have hy := readAIN_eq 0x45 (readAIN2_3 a.spi (a.recv .x)).spi (a.recv .y)
  have hz := readAIN_eq 0x67
    (readAIN4_5 (readAIN2_3 a.spi (a.recv .x)).spi (a.recv .y)).spi (a.recv .z)
  have hcomingx : ∀ n, (readAIN2_3 a.spi (a.recv .x)).spi.coming n = outcomes (6 * k + (n + 2)) :=
    fun n => (congrFun hx.2 n).trans (h.coming (n + 2))
  have hcomingy : ∀ n, (readAIN4_5 (readAIN2_3 a.spi (a.recv .x)).spi (a.recv .y)).spi.coming n
      = outcomes (6 * k + (n + 4)) := fun n => (congrFun hy.2 n).trans (hcomingx (n + 2))
  have hrecv : ∀ axis, (acquireBody c a k).recv axis = bufferAt outcomes axis (k + 1) := by
    intro axis
    rw [bufferAt, held, ← bufferAt, ← h.recv axis, delivered]
    cases axis
    case x => exact hx.1.trans (by rw [h.coming]; rfl)
    case y => exact hy.1.trans (by rw [hcomingx]; rfl)
    case z => exact hz.1.trans (by rw [hcomingy]; rfl)
  refine ⟨fun n => ?_, hrecv, fun axis i hi => ?_⟩
  · have hnext := (congrFun hz.2 n).trans (hcomingy (n + 2))
    rw [Nat.mul_succ, Nat.add_assoc, Nat.add_comm 6 n]
    exact hnext
  · have hdata : (acquireBody c a k).data axis = Function.update (a.data axis) k
        (sampleCount c ((acquireBody c a k).recv axis) : ℚ) := rfl
    rw [hdata]
    rcases Nat.lt_succ_iff_lt_or_eq.mp hi with hlt | rfl
    · rw [Function.update_of_ne (Nat.ne_of_lt hlt), h.data axis i hlt]
    · rw [Function.update_self, hrecv]

theorem acquireInv (c : Convention) (outcomes : ℕ → Transfer) (k : ℕ) :
    AcquireInv c outcomes k ((List.range k).foldl (acquireBody c)
      (Acquisition.init { sent := [], coming := outcomes })) := by
  induction k with
  | zero => exact ⟨fun n => by rw [Nat.mul_zero, Nat.zero_add]; rfl, fun _ => rfl,
      fun _ i hi => absurd hi (Nat.not_lt_zero i)⟩
  | succ k ih =>
    rw [List.range_succ, List.foldl_append, List.foldl_cons, List.foldl_nil]
    exact ih.step

/-- **A sample is what the buffer holds**: the bytes of the last read that succeeded, or zeros. -/
theorem acquire_data (c : Convention) (outcomes : ℕ → Transfer) (axis : Axis) {k : ℕ}
    (hk : k < maxSPS) :
    ((acquire c outcomes).data axis k : ℚ) = sampleCount c (bufferAt outcomes axis (k + 1)) :=
  (acquireInv c outcomes maxSPS).data axis k hk

theorem delivered_ne_none_iff {axis : Axis} :
    delivered outcomes axis k ≠ none ↔ 1 < (outcomes (readIndex axis k)).result := by
  rw [delivered, received]
  split <;> simp [*]

/-- The sample is that of the last read that succeeded, however long ago that was. -/
theorem acquire_data_of_isLast (c : Convention) {axis : Axis} {j : ℕ} (hk : k < maxSPS)
    (h : IsLast (fun i => 1 < (outcomes (readIndex axis i)).result) (k + 1) j) :
    ((acquire c outcomes).data axis k : ℚ)
      = sampleCount c (firstSix (outcomes (readIndex axis j)).rx) := by
  have hlast : IsLast (fun i => delivered outcomes axis i ≠ none) (k + 1) j := by
    simpa only [delivered_ne_none_iff] using h
  have hheld : delivered outcomes axis j = some (bufferAt outcomes axis (k + 1)) :=
    held_of_isLast hlast
  rw [delivered, received, if_pos h.2.1] at hheld
  rw [acquire_data c outcomes axis hk, Option.some.inj hheld]

end Loop

/-! ## Samples of their own reads -/

/-- The transfers, but for the bytes that one of them delivers. -/
def withBytes (outcomes : ℕ → Transfer) (i : ℕ) (rx : Vector (BitVec 8) 7) : ℕ → Transfer :=
  Function.update outcomes i { outcomes i with rx := rx }

/-- Whatever bytes the read of a sample delivers, the sample is put together from these. -/
def TakesOwn (c : Convention) (outcomes : ℕ → Transfer) (axis : Axis) (k : ℕ) : Prop :=
  ∀ rx, ((acquire c (withBytes outcomes (readIndex axis k) rx)).data axis k : ℚ)
    = sampleCount c (firstSix rx)

section Own

variable {c : Convention} {outcomes : ℕ → Transfer} {axis : Axis} {k : ℕ}
  (rx : Vector (BitVec 8) 7)

theorem delivered_withBytes_self :
    delivered (withBytes outcomes (readIndex axis k) rx) axis k
      = if 1 < (outcomes (readIndex axis k)).result then some (firstSix rx) else none := by
  rw [delivered, withBytes, Function.update_self]
  rfl

theorem delivered_withBytes_of_ne {i : ℕ} (h : i ≠ k) :
    delivered (withBytes outcomes (readIndex axis k) rx) axis i = delivered outcomes axis i := by
  have hne : readIndex axis i ≠ readIndex axis k := fun heq =>
    h (Nat.eq_of_mul_eq_mul_left (by decide) (Nat.add_right_cancel heq))
  rw [delivered, withBytes, Function.update_of_ne hne]
  rfl

/-- If the read succeeds, the buffer holds its bytes. -/
theorem bufferAt_of_result (h : 1 < (outcomes (readIndex axis k)).result) :
    bufferAt (withBytes outcomes (readIndex axis k) rx) axis (k + 1) = firstSix rx :=
  held_succ_of_some (by rw [delivered_withBytes_self, if_pos h])

/-- If it fails, the buffer holds what it held before. -/
theorem bufferAt_of_not_result (h : ¬ 1 < (outcomes (readIndex axis k)).result) :
    bufferAt (withBytes outcomes (readIndex axis k) rx) axis (k + 1)
      = bufferAt outcomes axis k := by
  have hnone : delivered (withBytes outcomes (readIndex axis k) rx) axis k = none := by
    rw [delivered_withBytes_self, if_neg h]
  rw [bufferAt, held_succ_of_none hnone]
  exact held_congr fun i hi => delivered_withBytes_of_ne rx (Nat.ne_of_lt hi)

end Own

/-- A sample is that of its own read exactly when the read succeeds. -/
theorem takesOwn_sample_iff (c : Convention) (outcomes : ℕ → Transfer) (axis : Axis) {k : ℕ}
    (hk : k < maxSPS) :
    TakesOwn c outcomes axis k ↔ 1 < (outcomes (readIndex axis k)).result := by
  refine ⟨fun h => ?_, fun h rx => ?_⟩
  · by_contra hfail
    -- one buffer cannot hold both a zero and a one
    have hzero := h (Vector.replicate 7 0)
    have hone := h #v[0, 0, 0, 0, 1, 0, 0]
    rw [acquire_data c _ axis hk, bufferAt_of_not_result _ hfail, Nat.cast_inj] at hzero hone
    have hne : ∀ c, sampleCount c (firstSix (Vector.replicate 7 0))
        ≠ sampleCount c (firstSix #v[0, 0, 0, 0, 1, 0, 0]) := by
      rintro ⟨_ | _, _ | _⟩ <;> decide
    exact hne c (hzero.symm.trans hone)
  · rw [acquire_data c _ axis hk, bufferAt_of_result rx h]

/-- **All samples of a block are those of their own reads exactly when none of these fails.** -/
theorem takesOwn_iff (c : Convention) (outcomes : ℕ → Transfer) :
    (∀ axis, ∀ k < maxSPS, TakesOwn c outcomes axis k) ↔
      ∀ axis, ∀ k < maxSPS, 1 < (outcomes (readIndex axis k)).result :=
  forall_congr' fun axis => forall₂_congr fun _ hk => takesOwn_sample_iff c outcomes axis hk

/-- Transfers that deliver the same bytes, until they fail from the second sample on. -/
def failing (i : ℕ) : Transfer where
  result := if i < 6 then 7 else -1
  rx := #v[0, 0, 0, 0, 5, 0, 0]

/-- With a transfer that fails, a sample is recorded twice. -/
theorem not_takesOwn_failing :
    ¬ TakesOwn { charSigned := false, longWide := false } failing .x 1 ∧
      ((acquire { charSigned := false, longWide := false } failing).data .x 1 : ℚ) = 5 := by
  have hk : 1 < maxSPS := by decide
  refine ⟨fun h => ?_, ?_⟩
  · exact absurd ((takesOwn_sample_iff _ failing .x hk).mp h) (by decide)
  · rw [acquire_data _ failing .x hk]
    have hheld : sampleCount { charSigned := false, longWide := false } (bufferAt failing .x 2)
        = 5 := by
      decide
    rw [hheld]
    rfl

end SensorIoT
