import SensorIoT.Arith

/-!
# The number in four bytes

`readAnalogInputsAndSaveData` of `SensorIoT.c` and `getVoltage` of `libs/ADC/adc.c` put a number
together from four bytes that have passed through a plain `char`.  Whether that has a sign, and how
long an `unsigned long` is, is for the implementation to say: a `Convention`.

The number is meant to be the one whose bytes are `recv[1]` to `recv[4]`.  Where plain `char` is
signed, a byte of 0x80 or more brings ones with it into all bits above its own, and `|` leaves them
there.  So the bytes above it have to be all ones anyway; with an `unsigned long` of 64 bits there
is always something above, and no byte may have its first bit set (`counts_iff`).
-/

set_option autoImplicit false

namespace SensorIoT

/-! ## Numbers -/

/-- What an implementation of C may choose. -/
structure Convention where
  /-- Plain `char` is signed. -/
  charSigned : Bool
  /-- An `unsigned long` has 64 bits, not 32. -/
  longWide : Bool

/-- The bits of an `unsigned long`. -/
def Convention.longBits (c : Convention) : ℕ := if c.longWide then 64 else 32

/-- A `char` as an `int`. -/
def Convention.charToInt (c : Convention) (b : BitVec 8) : BitVec 32 :=
  if c.charSigned then b.signExtend 32 else b.setWidth 32

/-- A `char` as an `unsigned long`. -/
def Convention.charToLong (c : Convention) (b : BitVec 8) : BitVec c.longBits :=
  if c.charSigned then b.signExtend c.longBits else b.setWidth c.longBits

/-- An `int` as an `unsigned long`. -/
def Convention.intToLong (c : Convention) (n : BitVec 32) : BitVec c.longBits :=
  n.signExtend c.longBits

/-- A buffer for the bytes of a conversion. -/
abbrev Recv := Vector (BitVec 8) 6

/-- The expression `((unsigned long)recv[1]<<24)|((unsigned long)recv[2]<<16)|(recv[3]<<8)|recv[4]`,
which stands in `readAnalogInputsAndSaveData` three times and in `getVoltage`. -/
def joinBytes (c : Convention) (recv : Recv) : BitVec c.longBits :=
  c.charToLong recv[1] <<< 24 ||| c.charToLong recv[2] <<< 16
    ||| c.intToLong (c.charToInt recv[3] <<< 8) ||| c.intToLong (c.charToInt recv[4])

/-- The integer that `readAnalogInputsAndSaveData` casts to `float`. -/
def sampleCount (c : Convention) (recv : Recv) : ℕ := (joinBytes c recv).toNat

/-- `adc_count` of `getVoltage`. -/
def adcCount (c : Convention) (ADC_data : Recv) : ℕ := (joinBytes c ADC_data).toNat

/-- `getVoltage`. -/
def getVoltage (c : Convention) (ADC_data : Recv) (VREF : ℚ) : ℚ :=
  let resolution := VREF / 2 ^ 31
  resolution * (adcCount c ADC_data : ℚ)

/-! ## Their bits -/

/-- The number in bytes 1 to 4. -/
def bytesValue (recv : Recv) : ℕ :=
  recv[1].toNat * 2 ^ 24 + recv[2].toNat * 2 ^ 16 + recv[3].toNat * 2 ^ 8 + recv[4].toNat

theorem not_decide_lt (s i : ℕ) : (!decide (i < s)) = decide (s ≤ i) := by
  rw [← decide_not, decide_eq_decide]
  exact Nat.not_lt

section Bits

variable (c : Convention) (b : BitVec 8)

/-- Bit `i` of a `char` that is extended to as many bits as needed. -/
def charBit (i : ℕ) : Bool := if i < 8 then b.getLsbD i else c.charSigned && b.msb

theorem charBit_of_le {i : ℕ} (h : 8 ≤ i) : charBit c b i = (c.charSigned && b.msb) :=
  if_neg (Nat.not_lt.mpr h)

theorem getLsbD_charToLong (i : ℕ) :
    (c.charToLong b).getLsbD i = (decide (i < c.longBits) && charBit c b i) := by
  rw [Convention.charToLong, charBit]
  cases c.charSigned
  case false =>
    rcases Nat.lt_or_ge i 8 with hi | hi
    · simp [hi]
    · simp [Nat.not_lt.mpr hi, BitVec.getLsbD_of_ge b i hi]
  case true => simp [BitVec.getLsbD_signExtend]

theorem getLsbD_charToInt (i : ℕ) :
    (c.charToInt b).getLsbD i = (decide (i < 32) && charBit c b i) := by
  rw [Convention.charToInt, charBit]
  cases c.charSigned
  case false =>
    rcases Nat.lt_or_ge i 8 with hi | hi
    · simp [hi]
    · simp [Nat.not_lt.mpr hi, BitVec.getLsbD_of_ge b i hi]
  case true => simp [BitVec.getLsbD_signExtend]

/-- Bit `i` of a `char` that is extended and then shifted by `s`. -/
def shiftedBit (s i : ℕ) : Bool := decide (s ≤ i) && charBit c b (i - s)

theorem shiftedBit_below {s i : ℕ} (h : i < s) : shiftedBit c b s i = false := by
  rw [shiftedBit, decide_eq_false (Nat.not_le.mpr h), Bool.false_and]

theorem shiftedBit_self {s j : ℕ} (h : j < 8) : shiftedBit c b s (s + j) = b.getLsbD j := by
  rw [shiftedBit, decide_eq_true (Nat.le_add_right s j), Bool.true_and, Nat.add_sub_cancel_left,
    charBit, if_pos h]

theorem shiftedBit_above {s i : ℕ} (h : s + 8 ≤ i) :
    shiftedBit c b s i = (c.charSigned && b.msb) := by
  rw [shiftedBit, decide_eq_true (by omega), Bool.true_and, charBit_of_le c b (by omega)]

/-- A `char` that is shifted as an `int` has its bits as if it had been shifted as an
`unsigned long`. -/
theorem getLsbD_shifted {s : ℕ} (hs : s ≤ 16) (i : ℕ) :
    (c.intToLong (c.charToInt b <<< s)).getLsbD i
      = (decide (i < c.longBits) && shiftedBit c b s i) := by
  have hmsb : (c.charToInt b <<< s).msb = (c.charSigned && b.msb) := by
    rw [BitVec.msb_eq_getLsbD_last, BitVec.getLsbD_shiftLeft, getLsbD_charToInt,
      charBit_of_le c b (by omega)]
    simp [show ¬ 31 < s by omega, show 31 - s < 32 by omega]
  rw [shiftedBit, Convention.intToLong, BitVec.getLsbD_signExtend, hmsb, BitVec.getLsbD_shiftLeft,
    getLsbD_charToInt]
  rcases Nat.lt_or_ge i 32 with hi | hi
  · have hsub : i - s < 32 := by omega
    simp [hi, hsub, not_decide_lt]
  · rw [charBit_of_le c b (show 8 ≤ i - s by omega)]
    simp [Nat.not_lt.mpr hi, show s ≤ i by omega]

/-- A `char` that is shifted as an `unsigned long`. -/
theorem getLsbD_charToLong_shiftLeft (s i : ℕ) :
    (c.charToLong b <<< s).getLsbD i
      = (decide (i < c.longBits) && shiftedBit c b s i) := by
  rw [shiftedBit, BitVec.getLsbD_shiftLeft, getLsbD_charToLong]
  rcases Nat.lt_or_ge i c.longBits with hi | hi
  · simp [hi, show i - s < c.longBits by omega, not_decide_lt]
  · simp [Nat.not_lt.mpr hi]

end Bits

section Join

variable (c : Convention) (recv : Recv)

/-- Bit `i` of the number put together from the bytes. -/
theorem getLsbD_joinBytes {i : ℕ} (hi : i < c.longBits) :
    (joinBytes c recv).getLsbD i
      = (shiftedBit c recv[1] 24 i || shiftedBit c recv[2] 16 i || shiftedBit c recv[3] 8 i
        || shiftedBit c recv[4] 0 i) := by
  have hlast := getLsbD_shifted c recv[4] (Nat.zero_le 16) i
  rw [BitVec.shiftLeft_zero] at hlast
  rw [joinBytes, BitVec.getLsbD_or, BitVec.getLsbD_or, BitVec.getLsbD_or,
    getLsbD_charToLong_shiftLeft, getLsbD_charToLong_shiftLeft, getLsbD_shifted c _ (by decide),
    hlast, decide_eq_true hi]
  simp only [Bool.true_and]

/-- The four bytes as a word. -/
def word (recv : Recv) : BitVec 32 := recv[1] ++ recv[2] ++ recv[3] ++ recv[4]

theorem toNat_word : (word recv).toNat = bytesValue recv := by
  have hjoin : ∀ {n : ℕ} (x : BitVec n) (b : BitVec 8),
      (x ++ b).toNat = x.toNat * 2 ^ 8 + b.toNat := by
    intro n x b
    rw [BitVec.toNat_append, ← Nat.shiftLeft_add_eq_or_of_lt b.isLt, Nat.shiftLeft_eq]
  rw [word, hjoin, hjoin, hjoin, bytesValue]
  omega

/-- Bit `i` of the word. -/
theorem getLsbD_word (i : ℕ) :
    (word recv).getLsbD i = if i < 8 then recv[4].getLsbD i
      else if i < 16 then recv[3].getLsbD (i - 8)
      else if i < 24 then recv[2].getLsbD (i - 16) else recv[1].getLsbD (i - 24) := by
  have h3 : 8 ≤ i → (i - 8 < 8 ↔ i < 16) := by omega
  have h2 : 16 ≤ i → (i - 16 < 8 ↔ i < 24) := by omega
  rw [word, BitVec.getLsbD_append, BitVec.getLsbD_append, BitVec.getLsbD_append]
  simp only [Nat.sub_sub, Nat.reduceAdd]
  split
  · rfl
  · rw [if_congr (h3 (by omega)) rfl rfl]
    split
    · rfl
    · rw [if_congr (h2 (by omega)) rfl rfl]

/-! ## When the number is right -/

/-- Ones in all bits of a byte, or none, are or'ed to it. -/
theorem or_bits_eq_iff (b : BitVec 8) (m : Bool) :
    (∀ j < 8, (b.getLsbD j || m) = b.getLsbD j) ↔ (m = true → b = 0xFF#8) := by
  cases m
  case false => simp
  case true =>
    refine ⟨fun h _ => BitVec.eq_of_getLsbD_eq fun j hj => ?_, ?_⟩
    · rw [← h j hj, Bool.or_true]
      have hall : ∀ j < 8, true = (0xFF#8).getLsbD j := by decide
      exact hall j hj
    · intro h
      rw [h rfl]
      decide

/-- The bit that byte `i` puts into all bits above its own. -/
def spread (i : Fin 6) : Bool := c.charSigned && recv[i].msb

theorem longBits_ge : 32 ≤ c.longBits := by
  rw [Convention.longBits]
  split <;> decide

/-- The bits of the number, byte by byte from the last: those of the byte, and what is spread over
them. -/
theorem getLsbD_joinBytes_byte {j : ℕ} (hj : j < 8) :
    (joinBytes c recv).getLsbD j = recv[4].getLsbD j ∧
      (joinBytes c recv).getLsbD (8 + j) = (recv[3].getLsbD j || spread c recv 4) ∧
      (joinBytes c recv).getLsbD (16 + j)
        = (recv[2].getLsbD j || (spread c recv 3 || spread c recv 4)) ∧
      (joinBytes c recv).getLsbD (24 + j)
        = (recv[1].getLsbD j || (spread c recv 2 || spread c recv 3 || spread c recv 4)) := by
  have hlong := longBits_ge c
  have hlast : ∀ b, shiftedBit c b 0 j = b.getLsbD j := fun b => by
    rw [← shiftedBit_self c b hj, Nat.zero_add]
  refine ⟨?_, ?_, ?_, ?_⟩
  · rw [getLsbD_joinBytes c recv (by omega), shiftedBit_below c _ (by omega),
      shiftedBit_below c _ (by omega), shiftedBit_below c _ (by omega), hlast]
    rfl
  · rw [getLsbD_joinBytes c recv (by omega), shiftedBit_below c _ (by omega),
      shiftedBit_below c _ (by omega), shiftedBit_self c _ hj, shiftedBit_above c _ (by omega)]
    rfl
  · rw [getLsbD_joinBytes c recv (by omega), shiftedBit_below c _ (by omega),
      shiftedBit_self c _ hj, shiftedBit_above c _ (by omega), shiftedBit_above c _ (by omega),
      Bool.or_assoc]
    rfl
  · rw [getLsbD_joinBytes c recv (by omega), shiftedBit_self c _ hj,
      shiftedBit_above c _ (by omega), shiftedBit_above c _ (by omega),
      shiftedBit_above c _ (by omega), Bool.or_assoc, Bool.or_assoc]
    exact congrArg _ (Bool.or_assoc _ _ _).symm

/-- With 64 bits, those beyond the bytes. -/
theorem getLsbD_joinBytes_above {i : ℕ} (hi : 32 ≤ i) (hlong : i < c.longBits) :
    (joinBytes c recv).getLsbD i
      = (spread c recv 1 || spread c recv 2 || spread c recv 3 || spread c recv 4) := by
  rw [getLsbD_joinBytes c recv hlong, shiftedBit_above c _ (by omega),
    shiftedBit_above c _ (by omega), shiftedBit_above c _ (by omega),
    shiftedBit_above c _ (by omega)]
  rfl

/-- No byte spreads a bit to where there is none. -/
structure SpreadHarmless : Prop where
  third : spread c recv 4 = true → recv[3] = 0xFF#8
  second : (spread c recv 3 || spread c recv 4) = true → recv[2] = 0xFF#8
  first : (spread c recv 2 || spread c recv 3 || spread c recv 4) = true → recv[1] = 0xFF#8
  above : c.longBits = 64 →
    (spread c recv 1 || spread c recv 2 || spread c recv 3 || spread c recv 4) = false

theorem joinBytes_eq_iff :
    joinBytes c recv = (word recv).setWidth c.longBits ↔ SpreadHarmless c recv := by
  have hlong := longBits_ge c
  have hbyte := fun j (hj : j < 8) => getLsbD_joinBytes_byte c recv hj
  have hword : ∀ i < c.longBits,
      ((word recv).setWidth c.longBits).getLsbD i = (word recv).getLsbD i := by
    intro i hi
    rw [BitVec.getLsbD_setWidth, decide_eq_true hi, Bool.true_and]
  refine ⟨fun heq => ?_, fun h => BitVec.eq_of_getLsbD_eq fun i hi => ?_⟩
  · have hbit : ∀ i < c.longBits, (joinBytes c recv).getLsbD i = (word recv).getLsbD i := by
      intro i hi
      rw [heq, hword i hi]
    refine ⟨(or_bits_eq_iff _ _).mp fun j hj => ?_, (or_bits_eq_iff _ _).mp fun j hj => ?_,
      (or_bits_eq_iff _ _).mp fun j hj => ?_, fun hwide => ?_⟩
    · rw [← (hbyte j hj).2.1, hbit _ (by omega), getLsbD_word, if_neg (by omega), if_pos (by omega),
        Nat.add_sub_cancel_left]
    · rw [← (hbyte j hj).2.2.1, hbit _ (by omega), getLsbD_word, if_neg (by omega),
        if_neg (by omega), if_pos (by omega), Nat.add_sub_cancel_left]
    · rw [← (hbyte j hj).2.2.2, hbit _ (by omega), getLsbD_word, if_neg (by omega),
        if_neg (by omega), if_neg (by omega), Nat.add_sub_cancel_left]
    · rw [← getLsbD_joinBytes_above c recv (Nat.le_refl 32) (by omega), hbit 32 (by omega)]
      exact BitVec.getLsbD_of_ge _ _ (Nat.le_refl 32)
  · rw [hword i hi]
    rcases Nat.lt_or_ge i 32 with hlt | hge
    · rw [getLsbD_word]
      split
      case isTrue h8 => exact (hbyte i h8).1
      split
      case isTrue h8 h16 =>
        have hj := (or_bits_eq_iff _ _).mpr h.third (i - 8) (by omega)
        rw [← hj, ← (hbyte (i - 8) (by omega)).2.1, Nat.add_sub_cancel' (by omega)]
      split
      case isTrue h16 h24 =>
        have hj := (or_bits_eq_iff _ _).mpr h.second (i - 16) (by omega)
        rw [← hj, ← (hbyte (i - 16) (by omega)).2.2.1, Nat.add_sub_cancel' (by omega)]
      case isFalse h24 =>
        have hj := (or_bits_eq_iff _ _).mpr h.first (i - 24) (by omega)
        rw [← hj, ← (hbyte (i - 24) (by omega)).2.2.2, Nat.add_sub_cancel' (by omega)]
    · have hwide : c.longBits = 64 := by
        rw [Convention.longBits] at hi
        split at hi
        · exact if_pos ‹_›
        · omega
      rw [getLsbD_joinBytes_above c recv hge hi, h.above hwide]
      exact (BitVec.getLsbD_of_ge _ _ hge).symm

/-- The bytes are such that signed `char`s do no harm: above a byte with its first bit set there is
nothing but ones. -/
structure SignsHarmless : Prop where
  second : recv[2].msb = true → recv[1] = 0xFF#8
  third : recv[3].msb = true → recv[1] = 0xFF#8 ∧ recv[2] = 0xFF#8
  fourth : recv[4].msb = true → recv[1] = 0xFF#8 ∧ recv[2] = 0xFF#8 ∧ recv[3] = 0xFF#8
  wide : c.longWide = true → ∀ i ∈ [1, 2, 3, (4 : Fin 6)], recv[i].msb = false

theorem spreadHarmless_iff :
    SpreadHarmless c recv ↔ (c.charSigned = true → SignsHarmless c recv) := by
  have hwide : c.longBits = 64 ↔ c.longWide = true := by
    rw [Convention.longBits]
    split
    case isTrue h => exact iff_of_true rfl h
    case isFalse h => exact iff_of_false (by decide) h
  cases hsigned : c.charSigned
  case false =>
    have hnone : ∀ i, spread c recv i = false := fun i => by rw [spread, hsigned, Bool.false_and]
    refine iff_of_true ⟨?_, ?_, ?_, ?_⟩ fun h => Bool.noConfusion h
    all_goals simp [hnone]
  case true =>
    have hspread : ∀ i, spread c recv i = recv[i].msb := fun i => by
      rw [spread, hsigned, Bool.true_and]
    refine ⟨fun h _ => ?_, fun h => ?_⟩
    · obtain ⟨hthird, hsecond, hfirst, habove⟩ := h
      simp only [hspread, Bool.or_eq_true, Bool.or_eq_false_iff] at hthird hsecond hfirst habove
      refine ⟨fun hm => hfirst (.inl (.inl hm)), fun hm => ⟨hfirst (.inl (.inr hm)),
        hsecond (.inl hm)⟩, fun hm => ⟨hfirst (.inr hm), hsecond (.inr hm), hthird hm⟩,
        fun hlong => ?_⟩
      obtain ⟨⟨⟨h1, h2⟩, h3⟩, h4⟩ := habove (hwide.mpr hlong)
      simp only [List.forall_mem_cons]
      exact ⟨h1, h2, h3, h4, fun _ hi => absurd hi List.not_mem_nil⟩
    · obtain ⟨hsecond, hthird, hfourth, hlong⟩ := h rfl
      refine ⟨?_, ?_, ?_, fun h64 => ?_⟩
      · rw [hspread]
        exact fun hm => (hfourth hm).2.2
      · rw [hspread, hspread, Bool.or_eq_true]
        exact fun hm => hm.elim (fun h3 => (hthird h3).2) fun h4 => (hfourth h4).2.1
      · rw [hspread, hspread, hspread, Bool.or_eq_true, Bool.or_eq_true]
        exact fun hm => hm.elim (fun h23 => h23.elim hsecond fun h3 => (hthird h3).1)
          fun h4 => (hfourth h4).1
      · have hnone := hlong (hwide.mp h64)
        rw [hspread, hspread, hspread, hspread, hnone 1 (by decide), hnone 2 (by decide),
          hnone 3 (by decide), hnone 4 (by decide)]
        rfl

theorem toNat_joinBytes_iff :
    (joinBytes c recv).toNat = bytesValue recv ↔ (c.charSigned = true → SignsHarmless c recv) := by
  rw [← toNat_word, ← spreadHarmless_iff, ← joinBytes_eq_iff, ← BitVec.toNat_inj,
    BitVec.toNat_setWidth_of_le (longBits_ge c)]

/-- **When both functions get the number that the bytes stand for**: always with unsigned `char`s;
else if the signs do no harm. -/
theorem counts_iff :
    (sampleCount c recv = bytesValue recv ∧ adcCount c recv = bytesValue recv) ↔
      (c.charSigned = true → SignsHarmless c recv) := by
  rw [sampleCount, adcCount, and_self_iff, toNat_joinBytes_iff]

end Join

/-- The voltage of the number that the bytes stand for. -/
theorem getVoltage_eq {c : Convention} {recv : Recv}
    (h : c.charSigned = true → SignsHarmless c recv) (VREF : ℚ) :
    getVoltage c recv VREF = VREF / 2 ^ 31 * bytesValue recv := by
  rw [getVoltage, adcCount, (toNat_joinBytes_iff c recv).mpr h]

/-- With signed `char`s, the bytes 00 00 00 80 become 0xFFFFFF80. -/
theorem not_counts_signed :
    sampleCount { charSigned := true, longWide := false } #v[0, 0, 0, 0, 0x80, 0] = 0xFFFFFF80 ∧
      bytesValue #v[0, 0, 0, 0, 0x80, 0] = 0x80 := by
  decide

end SensorIoT
