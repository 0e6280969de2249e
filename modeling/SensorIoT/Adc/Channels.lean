import SensorIoT.Adc.Reads

/-!
# Whose signal a sample is

One converter measures the three axes in turn.  Before each conversion the program writes the inputs
of the axis to its register `INPMUX`, and does not look at whether that succeeded.  A write that
fails leaves the inputs of the axis before, and the conversion, which does succeed, is of these.

The converter is what it is told over the bus: it obeys the commands that write a register, of the
transfers that take place, and measures the inputs that are selected when it is read.
**`ownInputs_iff`**: whatever the signals at its inputs, a sample is the signal of its own axis
exactly if its conversion can be read and the last inputs that were selected successfully, by this
axis or another, were its own.
-/

set_option autoImplicit false

namespace SensorIoT

open Register

/-! ## The converter -/

/-- The registers of the converter. -/
abbrev AdcRegisters := BitVec 8 → BitVec 8

/-- What a message does to the registers: a command 010rrrrr, the number of registers less one, and
a byte for register r. -/
def obey (regs : AdcRegisters) (sent : List (BitVec 8)) : AdcRegisters :=
  match sent with
  | [command, number, data] =>
    if command &&& 0xE0 = 0x40 ∧ number = 0 then Function.update regs (command &&& 0x1F) data
    else regs
  | _ => regs

/-- The registers when `n` messages have been sent.  Those of transfers that fail do not arrive. -/
def registersAt (regs : AdcRegisters) (results : ℕ → ℤ) (sent : ℕ → List (BitVec 8)) :
    ℕ → AdcRegisters
  | 0 => regs
  | n + 1 =>
    if 1 ≤ results n then obey (registersAt regs results sent n) (sent n)
    else registersAt regs results sent n

/-- The inputs of an axis. -/
def Axis.inputs : Axis → BitVec 8
  | .x => 0x23
  | .y => 0x45
  | .z => 0x67

/-- The axis that the program selects the inputs of with select number `j` of a block. -/
def selectAxis (j : ℕ) : Axis := if j % 3 = 0 then .x else if j % 3 = 1 then .y else .z

/-- The select for sample `k` of an axis. -/
def selectIndex (axis : Axis) (k : ℕ) : ℕ := 3 * k + axis.place / 2

/-- What the program sends in transfer `i` of a block: it selects inputs and reads, by turns. -/
def adcMessage (i : ℕ) : List (BitVec 8) :=
  if i % 2 = 0 then [0x46, 0x00, (selectAxis (i / 2)).inputs] else List.replicate 7 0x00

/-- The inputs that are selected when transfer `i` of a block is made. -/
def inputsAt (regs : AdcRegisters) (results : ℕ → ℤ) (i : ℕ) : BitVec 8 :=
  registersAt regs results adcMessage i 0x06

/-- The transfers of a block: what each returns, and what it delivers of the signals at the inputs
that are selected. -/
def transfers (regs : AdcRegisters) (results : ℕ → ℤ)
    (signal : ℕ → BitVec 8 → Vector (BitVec 8) 7) (i : ℕ) : Transfer where
  result := results i
  rx := signal i (inputsAt regs results i)

/-- Whatever the signals, sample `k` of an axis is put together from the conversion of the inputs of
the axis. -/
def OwnInputs (c : Convention) (regs : AdcRegisters) (results : ℕ → ℤ) (axis : Axis) (k : ℕ) :
    Prop :=
  ∀ signal, ((acquire c (transfers regs results signal)).data axis k : ℚ)
    = sampleCount c (firstSix (signal (readIndex axis k) axis.inputs))

/-- The last inputs selected successfully, before the conversion of sample `k` of an axis, are those
of the axis. -/
def OwnSelected (regs : AdcRegisters) (results : ℕ → ℤ) (axis : Axis) (k : ℕ) : Prop :=
  (∃ j, IsLast (fun j => 1 ≤ results (2 * j)) (selectIndex axis k + 1) j ∧ selectAxis j = axis) ∨
    (∀ j < selectIndex axis k + 1, ¬ 1 ≤ results (2 * j)) ∧ regs 0x06 = axis.inputs

/-! ## What the program sends -/

section Sent

variable {F : Type} [FloatArith F] (c : Convention)

theorem sent_acquireBody (a : Acquisition F) (k : ℕ) :
    (acquireBody c a k).spi.sent
      = a.spi.sent ++ (List.range' (6 * k) 6).map adcMessage := by
  have hmessages : (List.range' (6 * k) 6).map adcMessage
      = Axis.all.flatMap fun axis => [[0x46, 0x00, axis.inputs], List.replicate 7 0x00] := by
    have h0 : adcMessage (6 * k) = [0x46, 0x00, 0x23] := by
      rw [adcMessage, if_pos (by omega), selectAxis, if_pos (by omega)]
      rfl
    have h1 : adcMessage (6 * k + 1) = List.replicate 7 0x00 := if_neg (by omega)
    have h2 : adcMessage (6 * k + 2) = [0x46, 0x00, 0x45] := by
      rw [adcMessage, if_pos (by omega), selectAxis, if_neg (by omega), if_pos (by omega)]
      rfl
    have h3 : adcMessage (6 * k + 3) = List.replicate 7 0x00 := if_neg (by omega)
    have h4 : adcMessage (6 * k + 4) = [0x46, 0x00, 0x67] := by
      rw [adcMessage, if_pos (by omega), selectAxis, if_neg (by omega), if_neg (by omega)]
      rfl
    have h5 : adcMessage (6 * k + 5) = List.replicate 7 0x00 := if_neg (by omega)
    simp only [List.range', List.map_cons, List.map_nil, h0, h1, h2, h3, h4, h5]
    rfl
  rw [hmessages]
  simp only [acquireBody, readAIN2_3, readAIN4_5, readAIN6_7, readAIN, readAINx, readData,
    writeRegister, transfer, List.append_assoc]
  rfl

/-- Whatever comes of them, the transfers of a block send what `adcMessage` says. -/
theorem sent_acquire (outcomes : ℕ → Transfer) :
    (acquire c outcomes : Acquisition F).spi.sent = (List.range (6 * maxSPS)).map adcMessage := by
  have hturns : ∀ k, ((List.range k).foldl (acquireBody c)
      (Acquisition.init { sent := [], coming := outcomes } : Acquisition F)).spi.sent
      = (List.range (6 * k)).map adcMessage := by
    intro k
    induction k with
    | zero => rfl
    | succ k ih =>
      rw [List.range_succ, List.foldl_append, List.foldl_cons, List.foldl_nil, sent_acquireBody, ih,
        ← List.map_append, Nat.mul_succ, List.range_eq_range', List.range_eq_range',
        ← List.range'_append_1, Nat.zero_add]
  exact hturns maxSPS

end Sent

/-! ## The inputs that are selected -/

section Selected

variable (regs : AdcRegisters) (results : ℕ → ℤ)

/-- What select number `j` of a block leaves in `INPMUX`, if it arrives. -/
def selected (j : ℕ) : Option (BitVec 8) :=
  if 1 ≤ results (2 * j) then some (selectAxis j).inputs else none

theorem obey_select (inputs : BitVec 8) : obey regs [0x46, 0x00, inputs] 0x06 = inputs := by
  have hcommand : (0x46 : BitVec 8) &&& 0xE0 = 0x40 ∧ (0x00 : BitVec 8) = 0 := by decide
  have hregister : (0x46 : BitVec 8) &&& 0x1F = 0x06 := by decide
  rw [obey, if_pos hcommand, hregister, Function.update_self]

/-- The inputs are held from select to select. -/
theorem inputsAt_eq (j : ℕ) :
    inputsAt regs results (2 * j + 1) = held (regs 0x06) (selected results) (j + 1) := by
  have hselect : ∀ j, inputsAt regs results (2 * j + 1)
      = (selected results j).getD (inputsAt regs results (2 * j)) := by
    intro j
    have hmessage : adcMessage (2 * j) = [0x46, 0x00, (selectAxis j).inputs] := by
      rw [adcMessage, if_pos (by omega), Nat.mul_div_cancel_left j (by omega)]
    rw [inputsAt, registersAt, selected, hmessage]
    split
    · exact obey_select _ _
    · rfl
  have hread : ∀ j, inputsAt regs results (2 * j + 2) = inputsAt regs results (2 * j + 1) := by
    intro j
    have hmessage : adcMessage (2 * j + 1) = List.replicate 7 0x00 := if_neg (by omega)
    rw [inputsAt, registersAt, hmessage]
    split <;> rfl
  induction j with
  | zero => exact hselect 0
  | succ j ih =>
    rw [hselect, held, Nat.mul_succ, hread, ih]

/-- When the inputs selected are those of an axis. -/
theorem inputsAt_eq_inputs_iff (axis : Axis) (k : ℕ) :
    inputsAt regs results (readIndex axis k) = axis.inputs ↔ OwnSelected regs results axis k := by
  have hinj : ∀ a b : Axis, a.inputs = b.inputs ↔ a = b := by
    intro a b
    cases a <;> cases b <;> decide
  have hindex : readIndex axis k = 2 * selectIndex axis k + 1 := by
    cases axis <;> simp only [readIndex, selectIndex, Axis.place] <;> omega
  have harrives : ∀ j, selected results j ≠ none ↔ 1 ≤ results (2 * j) := by
    intro j
    rw [selected]
    split <;> simp [*]
  rw [hindex, inputsAt_eq, OwnSelected]
  obtain ⟨j, hlast⟩ | hnone :
      (∃ j, IsLast (fun j => 1 ≤ results (2 * j)) (selectIndex axis k + 1) j) ∨
        ∀ j < selectIndex axis k + 1, ¬ 1 ≤ results (2 * j) := exists_isLast_or _
  · have hloaded : selected results j
        = some (held (regs 0x06) (selected results) (selectIndex axis k + 1)) :=
      held_of_isLast (by simpa only [harrives] using hlast)
    rw [selected, if_pos hlast.2.1, Option.some.injEq] at hloaded
    rw [← hloaded, hinj]
    constructor
    · exact fun h => .inl ⟨j, hlast, h⟩
    · rintro (⟨j', hlast', h⟩ | ⟨hnone, -⟩)
      · rwa [hlast.unique hlast']
      · exact absurd hlast.2.1 (hnone j hlast.1)
  · rw [held_of_none fun j hj => not_not.mp fun h => hnone j hj ((harrives j).mp h)]
    constructor
    · exact fun h => .inr ⟨hnone, h⟩
    · rintro (⟨j, hlast, -⟩ | ⟨-, h⟩)
      · exact absurd hlast.2.1 (hnone j hlast.1)
      · exact h

end Selected

/-! ## Samples of their own signals -/

/-- The bytes of a conversion that is a small number. -/
def lastByte (b : BitVec 8) : Vector (BitVec 8) 7 := #v[0, 0, 0, 0, b, 0, 0]

/-- A signal that is zero but for one conversion at the inputs of one axis. -/
def pulse (axis : Axis) (k : ℕ) (b : BitVec 8) (i : ℕ) (inputs : BitVec 8) : Vector (BitVec 8) 7 :=
  if i = readIndex axis k ∧ inputs = axis.inputs then lastByte b else lastByte 0

theorem delivered_transfers (regs : AdcRegisters) (results : ℕ → ℤ)
    (signal : ℕ → BitVec 8 → Vector (BitVec 8) 7) (axis : Axis) (k : ℕ) :
    delivered (transfers regs results signal) axis k
      = if 1 < results (readIndex axis k) then
          some (firstSix (signal (readIndex axis k)
            (inputsAt regs results (readIndex axis k))))
        else none :=
  rfl

/-- **When a sample is of its own signal.** -/
theorem ownInputs_iff (c : Convention) (regs : AdcRegisters) (results : ℕ → ℤ) (axis : Axis) {k : ℕ}
    (hk : k < maxSPS) : OwnInputs c regs results axis k ↔
      1 < results (readIndex axis k) ∧ OwnSelected regs results axis k := by
  rw [← inputsAt_eq_inputs_iff]
  constructor
  · intro h
    by_contra hfail
    -- two signals that differ in the conversion of the sample only, which is not what is read
    have hsame : ∀ i < k + 1, delivered (transfers regs results (pulse axis k 1)) axis i
        = delivered (transfers regs results (pulse axis k 0)) axis i := by
      intro i hi
      have hpulse : 1 < results (readIndex axis i) →
          ¬ (readIndex axis i = readIndex axis k ∧
            inputsAt regs results (readIndex axis i) = axis.inputs) := by
        rintro hread ⟨hindex, hinputs⟩
        rw [hindex] at hread hinputs
        exact hfail ⟨hread, hinputs⟩
      rw [delivered_transfers, delivered_transfers]
      by_cases hread : 1 < results (readIndex axis i)
      · rw [if_pos hread, if_pos hread, pulse, pulse, if_neg (hpulse hread),
          if_neg (hpulse hread)]
      · rw [if_neg hread, if_neg hread]
    have hone := h (pulse axis k 1)
    have hzero := h (pulse axis k 0)
    rw [acquire_data c _ axis hk, bufferAt, held_congr hsame, Nat.cast_inj, pulse,
      if_pos ⟨rfl, rfl⟩] at hone
    rw [acquire_data c _ axis hk, bufferAt, Nat.cast_inj, pulse, if_pos ⟨rfl, rfl⟩] at hzero
    have hne : ∀ c,
        sampleCount c (firstSix (lastByte 1)) ≠ sampleCount c (firstSix (lastByte 0)) := by
      rintro ⟨_ | _, _ | _⟩ <;> decide
    exact hne c (hone.symm.trans hzero)
  · rintro ⟨hread, hinputs⟩ signal
    have hself : delivered (transfers regs results signal) axis k
        = some (firstSix (signal (readIndex axis k) axis.inputs)) := by
      rw [delivered_transfers, if_pos hread, hinputs]
    rw [acquire_data c _ axis hk, bufferAt, held_succ_of_some hself]

/-- Transfers that all take place but one, the select of the second axis for the first sample. -/
def missedSelect (i : ℕ) : ℤ := if i = 2 then -1 else 7

/-- The sample of the second axis is then not of its signal, but those of the others are. -/
theorem ownInputs_iff_missedSelect :
    (OwnInputs { charSigned := false, longWide := false } (fun _ => 0) missedSelect .y 0 ↔
        1 < missedSelect 3 ∧ OwnSelected (fun _ => 0) missedSelect .y 0) ∧
      ¬ OwnInputs { charSigned := false, longWide := false } (fun _ => 0) missedSelect .y 0 := by
  have hy := ownInputs_iff { charSigned := false, longWide := false } (fun _ => 0) missedSelect .y
    (show 0 < maxSPS by decide)
  refine ⟨hy, fun h => ?_⟩
  obtain ⟨j, hlast, haxis⟩ | ⟨hnone, -⟩ := (hy.mp h).2
  · obtain rfl : 0 = j := IsLast.unique (P := fun j => 1 ≤ missedSelect (2 * j)) (by decide) hlast
    exact absurd haxis (by decide)
  · exact absurd (show 1 ≤ missedSelect 0 by decide) (hnone 0 (by decide))

end SensorIoT
