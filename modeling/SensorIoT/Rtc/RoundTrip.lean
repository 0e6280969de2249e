import SensorIoT.Instant
import SensorIoT.Rtc.Writes

/-!
# The time set is the time read

The RTC keeps its numbers in BCD, and the program gets them there by reading two decimal digits in
base 16 and back by printing a byte in base 16.  That is a round trip as long as `strtol` sees the
two digits only: hexadecimal digits that happen to lie behind the array push them out of the byte
that is stored.  Where a `char` is signed, a byte from 80 on is printed with eight digits.

`rtc_roundtrip_iff` says exactly when the six characters come back.
-/

set_option autoImplicit false

namespace SensorIoT

/-! ## Storing two digits -/

theorem hexDigit_of_isDigit {c : Char} (h : c.isDigit = true) : hexDigit c = some (digit c) :=
  if_pos h

theorem leadingHex_cons {c : Char} (h : c.isDigit = true) (acc : ℕ) (cs : List Char) :
    leadingHex acc (c :: cs) = leadingHex (acc * 16 + digit c) cs := by
  rw [leadingHex, hexDigit_of_isDigit h]

/-- Two decimal digits are no prefix. -/
theorem dropHexPrefix_two {d : Char} (hd : d.isDigit = true) (c : Char) (mem : List Char) :
    dropHexPrefix (c :: d :: mem) = c :: d :: mem := by
  have hx : d ≠ 'x' := fun heq => absurd hd (by rw [heq]; decide)
  have hX : d ≠ 'X' := fun heq => absurd hd (by rw [heq]; decide)
  rw [dropHexPrefix.eq_def]
  split
  · rename_i heq
    obtain ⟨rfl, hrest⟩ := List.cons.inj heq
    obtain ⟨rfl, rfl⟩ := List.cons.inj hrest
    exact if_neg fun h => h.1.elim hx hX
  · rfl

theorem strtol16_two {c d : Char} (hc : c.isDigit = true) (hd : d.isDigit = true) (longMax : ℕ)
    (mem : List Char) :
    strtol16 longMax (c :: d :: mem)
      = (min (leadingHex (digit c * 16 + digit d) mem) longMax : ℕ) := by
  have hminus : c ≠ '-' := fun heq => absurd hc (by rw [heq]; decide)
  have hplus : c ≠ '+' := fun heq => absurd hc (by rw [heq]; decide)
  have hhex : leadingHex 0 (dropHexPrefix (c :: d :: mem))
      = leadingHex (digit c * 16 + digit d) mem := by
    rw [dropHexPrefix_two hd, leadingHex_cons hc, leadingHex_cons hd, Nat.zero_mul, Nat.zero_add]
  rw [strtol16, List.dropWhile_cons_of_neg (by simp [isSpace_of_isDigit hc])]
  split
  · rename_i heq
    exact absurd (List.cons.inj heq).1 hminus
  · rename_i heq
    exact absurd (List.cons.inj heq).1 hplus
  · rw [hhex]

theorem toNat_lowByte (n : ℕ) : (lowByte n).toNat = n % 256 := by
  have hmod : ((n : ℤ) % 256).toNat = n % 256 := by omega
  rw [lowByte, hmod, UInt8.toNat_ofNat', Nat.mod_mod]

/-- What lies behind a two-character array leaves its two digits alone: hexadecimal digits there end
in the same two, and the number fits in a `long`. -/
def Unspoilt (longMax : ℕ) (c d : Char) (mem : List Char) : Prop :=
  leadingHex (digit c * 16 + digit d) mem ≤ longMax ∧
    leadingHex (digit c * 16 + digit d) mem % 256 = digit c * 16 + digit d

instance (longMax : ℕ) (c d : Char) (mem : List Char) : Decidable (Unspoilt longMax c d mem) :=
  inferInstanceAs (Decidable (_ ∧ _))

/-- The byte stored for two digits. -/
theorem lowByte_strtol16_iff {c d : Char} (hc : c.isDigit = true) (hd : d.isDigit = true)
    {longMax : ℕ} (hlong : longMax % 256 = 255) (mem : List Char) :
    (lowByte (strtol16 longMax (c :: d :: mem))).toNat = digit c * 16 + digit d ↔
      Unspoilt longMax c d mem := by
  have hc10 := digit_lt hc
  have hd10 := digit_lt hd
  rw [strtol16_two hc hd, toNat_lowByte, Unspoilt]
  rcases Nat.le_total (leadingHex (digit c * 16 + digit d) mem) longMax with hle | hle
  · rw [Nat.min_eq_left hle]
    omega
  · rw [Nat.min_eq_right hle, hlong]
    omega

/-! ## Printing them -/

theorem fmt02x_eq (b : UInt8) :
    fmt02x b = [Nat.digitChar (b.toNat / 16), Nat.digitChar (b.toNat % 16)] := by
  have hall : ∀ n < 256, fmt02x (UInt8.ofNat n)
      = [Nat.digitChar (n / 16), Nat.digitChar (n % 16)] := by
    decide +kernel
  simpa using hall b.toNat b.toNat_lt

/-- A signed `char` from 0x80 on takes eight digits. -/
theorem fmt02xChar_wide {b : UInt8} (h : 128 ≤ b.toNat) : (fmt02xChar true b).length = 8 := by
  have hall : ∀ n < 256, 128 ≤ n → (fmt02xChar true (UInt8.ofNat n)).length = 8 := by
    decide +kernel
  simpa using hall b.toNat b.toNat_lt h

theorem nul_notMem_fmt02xChar (signedChar : Bool) (b : UInt8) :
    nul ∉ fmt02xChar signedChar b := by
  have hall : ∀ s, ∀ n < 256, nul ∉ fmt02xChar s (UInt8.ofNat n) := by decide +kernel
  simpa using hall signedChar b.toNat b.toNat_lt

theorem two_le_length_fmt02xChar (signedChar : Bool) (b : UInt8) :
    2 ≤ (fmt02xChar signedChar b).length := by
  by_cases h : signedChar = true ∧ 128 ≤ b.toNat
  · rw [h.1, fmt02xChar_wide h.2]
    omega
  · rw [fmt02xChar, if_neg h, fmt02x_eq]
    exact le_refl 2

theorem digitChar_eq_iff {n : ℕ} (hn : n < 16) {c : Char} (hc : c.isDigit = true) :
    Nat.digitChar n = c ↔ n = digit c := by
  have hall : ∀ n < 16, (Nat.digitChar n).isDigit = true → digit (Nat.digitChar n) = n := by decide
  have hlt := digit_lt hc
  constructor
  · rintro rfl
    exact (hall n hn hc).symm
  · rintro rfl
    obtain ⟨hdigit, heq⟩ := digit_digitChar hlt
    exact digit_inj hdigit hc heq

/-- When a byte is printed as two given digits. -/
theorem fmt02xChar_eq_iff (signedChar : Bool) (b : UInt8) {c d : Char} (hc : c.isDigit = true)
    (hd : d.isDigit = true) :
    fmt02xChar signedChar b = [c, d] ↔
      b.toNat = digit c * 16 + digit d ∧ (signedChar = true → digit c < 8) := by
  have hb := b.toNat_lt
  have hd10 := digit_lt hd
  by_cases h : signedChar = true ∧ 128 ≤ b.toNat
  · have hlen : (fmt02xChar signedChar b).length = 8 := by
      rw [h.1]
      exact fmt02xChar_wide h.2
    constructor
    · intro heq
      rw [heq] at hlen
      cases hlen
    · rintro ⟨heq, hsmall⟩
      have := hsmall h.1
      omega
  · rw [fmt02xChar, if_neg h, fmt02x_eq, List.cons.injEq, List.cons.injEq,
      digitChar_eq_iff (by omega) hc, digitChar_eq_iff (by omega) hd]
    constructor
    · rintro ⟨hhigh, hlow, -⟩
      refine ⟨by omega, fun hs => ?_⟩
      have hsmall : ¬ 128 ≤ b.toNat := fun hle => h ⟨hs, hle⟩
      omega
    · rintro ⟨heq, -⟩
      exact ⟨by omega, by omega, rfl⟩

/-- Three texts of two characters or more that together are six characters are two each. -/
theorem three_pairs {α : Type} {xs ys zs : List α} {a b c d e f : α} (hx : 2 ≤ xs.length)
    (hy : 2 ≤ ys.length) (hz : 2 ≤ zs.length) :
    xs ++ ys ++ zs = [a, b, c, d, e, f] ↔ xs = [a, b] ∧ ys = [c, d] ∧ zs = [e, f] := by
  constructor
  · intro h
    have hlen := congrArg List.length h
    simp only [List.length_append, List.length_cons, List.length_nil] at hlen
    have hsplit : (xs ++ ys) ++ zs = ([a, b] ++ [c, d]) ++ [e, f] := h
    obtain ⟨hxy, hz'⟩ := List.append_inj hsplit (by
      simp only [List.length_append, List.length_cons, List.length_nil]
      omega)
    obtain ⟨hx', hy'⟩ := List.append_inj hxy (by
      simp only [List.length_cons, List.length_nil]
      omega)
    exact ⟨hx', hy', hz'⟩
  · rintro ⟨rfl, rfl, rfl⟩
    rfl

/-! ## There and back -/

/-- The three pairs of digits of a text survive, in the registers and in print. -/
def Survives (longMax : ℕ) (signedChar : Bool) (mem : ArraysMem) (buffer : CBuf) : Prop :=
  (Unspoilt longMax (charAt buffer 0) (charAt buffer 1) mem.first ∧
      Unspoilt longMax (charAt buffer 2) (charAt buffer 3) mem.second ∧
      Unspoilt longMax (charAt buffer 4) (charAt buffer 5) mem.third) ∧
    (signedChar = true → digit (charAt buffer 0) < 8 ∧ digit (charAt buffer 2) < 8 ∧
      digit (charAt buffer 4) < 8)

instance (longMax : ℕ) (signedChar : Bool) (mem : ArraysMem) (buffer : CBuf) :
    Decidable (Survives longMax signedChar mem buffer) :=
  inferInstanceAs (Decidable (_ ∧ _))

/-- Three bytes stored for the pairs of a text and printed again. -/
theorem printed_iff {longMax : ℕ} (hlong : longMax % 256 = 255) (signedChar : Bool)
    (mem : ArraysMem) {buffer : CBuf} (hbuffer : ∀ i < 6, (charAt buffer i).isDigit = true)
    (dst : CBuf) :
    cstr (sprintf dst
        (fmt02xChar signedChar
            (lowByte (strtol16 longMax (charAt buffer 0 :: charAt buffer 1 :: mem.first)))
          ++ fmt02xChar signedChar
            (lowByte (strtol16 longMax (charAt buffer 2 :: charAt buffer 3 :: mem.second)))
          ++ fmt02xChar signedChar
            (lowByte (strtol16 longMax (charAt buffer 4 :: charAt buffer 5 :: mem.third)))))
        = field buffer 0 6 ↔ Survives longMax signedChar mem buffer := by
  have h0 := hbuffer 0 (by omega)
  have h1 := hbuffer 1 (by omega)
  have h2 := hbuffer 2 (by omega)
  have h3 := hbuffer 3 (by omega)
  have h4 := hbuffer 4 (by omega)
  have h5 := hbuffer 5 (by omega)
  have hfield : field buffer 0 6 = [charAt buffer 0, charAt buffer 1, charAt buffer 2,
      charAt buffer 3, charAt buffer 4, charAt buffer 5] := rfl
  rw [sprintf, cstr_append (by simp [nul_notMem_fmt02xChar]), cstr_nul, List.append_nil, hfield,
    three_pairs (two_le_length_fmt02xChar _ _) (two_le_length_fmt02xChar _ _)
      (two_le_length_fmt02xChar _ _),
    fmt02xChar_eq_iff _ _ h0 h1, fmt02xChar_eq_iff _ _ h2 h3, fmt02xChar_eq_iff _ _ h4 h5,
    lowByte_strtol16_iff h0 h1 hlong, lowByte_strtol16_iff h2 h3 hlong,
    lowByte_strtol16_iff h4 h5 hlong, Survives]
  constructor
  · rintro ⟨⟨hfirst, hlow⟩, ⟨hsecond, hlow'⟩, hthird, hlow''⟩
    exact ⟨⟨hfirst, hsecond, hthird⟩, fun hs => ⟨hlow hs, hlow' hs, hlow'' hs⟩⟩
  · rintro ⟨⟨hfirst, hsecond, hthird⟩, hlow⟩
    exact ⟨⟨hfirst, fun hs => (hlow hs).1⟩, ⟨hsecond, fun hs => (hlow hs).2.1⟩, hthird,
      fun hs => (hlow hs).2.2⟩

theorem regs_orReset {ok : ℕ → Bool} {ws : List (ℕ × ℤ)} {b : Bus}
    (h : (orReset ok (writeChain ok ws b)).2 = 1) :
    (orReset ok (writeChain ok ws b)).1.regs = afterWrites ws b.regs := by
  obtain ⟨-, heq⟩ | ⟨j, -, heq⟩ := writeChain_cases ok ws b
  · rw [heq, orReset_of_ok]
  · rw [heq, orReset_of_fail] at h
    exact absurd h one_ne_neg_one.symm

theorem getD_readI2C (b : Bus) {a : ℕ} (ha : a < 0x13) : (readI2C b).getD a 0 = b.regs a := by
  rw [readI2C, List.getD_eq_getElem?_getD, List.getElem?_append_left (by simpa using ha)]
  simp [ha]

/-- **When the clock gives back what it was set to.** -/
theorem rtc_roundtrip_iff {longMax : ℕ} (hlong : longMax = 2 ^ 31 - 1 ∨ longMax = 2 ^ 63 - 1)
    (signedChar : Bool) {time date : CBuf} (htime : ∀ i < 6, (charAt time i).isDigit = true)
    (hdate : ∀ i < 6, (charAt date i).isDigit = true) (ok : ℕ → Bool) (memTime memDate : ArraysMem)
    (b b' b'' : Bus) (hset : setTimeRtc longMax ok memTime time b = (b', 1))
    (hset' : setDateRtc longMax ok memDate date b' = (b'', 1)) (dst dst' : CBuf) :
    cstr (getTimeRtcChar signedChar dst (readI2C b'')) = field time 0 6 ∧
        cstr (getDateRtcChar signedChar dst' (readI2C b'')) = field date 0 6 ↔
      Survives longMax signedChar memTime time ∧ Survives longMax signedChar memDate date := by
  have hmod : longMax % 256 = 255 := by
    rcases hlong with rfl | rfl <;> rfl
  have hregs : b''.regs = afterWrites (dateWrites longMax memDate date)
      (afterWrites (timeWrites longMax memTime time) b.regs) := by
    have h := regs_orReset (congrArg Prod.snd hset)
    have h' := regs_orReset (congrArg Prod.snd hset')
    rw [show orReset ok _ = _ from hset] at h
    rw [show orReset ok _ = _ from hset', h] at h'
    exact h'
  have hread : ∀ a < 0x13, (readI2C b'').getD a 0 = afterWrites (dateWrites longMax memDate date)
      (afterWrites (timeWrites longMax memTime time) b.regs) a := by
    intro a ha
    rw [getD_readI2C b'' ha, hregs]
  rw [getTimeRtcChar, getDateRtcChar, hread 2 (by omega), hread 1 (by omega), hread 0 (by omega),
    hread 4 (by omega), hread 5 (by omega), hread 6 (by omega)]
  exact and_congr (printed_iff hmod signedChar memTime htime dst)
    (printed_iff hmod signedChar memDate hdate dst')

/-- The clock of `clockBus` set to 12:34:56 on the 17th of May 2020. -/
def setClock (memTime : ArraysMem) : Bus :=
  (setDateRtc (2 ^ 31 - 1) (fun _ => true) ⟨[], [], []⟩ "170520".toList
    (setTimeRtc (2 ^ 31 - 1) (fun _ => true) memTime "123456".toList clockBus).1).1

/-- If the three arrays lie one behind the other the hour is read as 123456, of which the lowest
byte is 56. -/
theorem not_roundtrip_adjacent :
    (setTimeRtc (2 ^ 31 - 1) (fun _ => true) ⟨"3456".toList, "56".toList, []⟩ "123456".toList
        clockBus).2 = 1 ∧
      setDateRtc (2 ^ 31 - 1) (fun _ => true) ⟨[], [], []⟩ "170520".toList
        (setTimeRtc (2 ^ 31 - 1) (fun _ => true) ⟨"3456".toList, "56".toList, []⟩ "123456".toList
          clockBus).1 = (setClock ⟨"3456".toList, "56".toList, []⟩, 1) ∧
      cstr (getTimeRtcChar false (zeroBuf 10)
        (readI2C (setClock ⟨"3456".toList, "56".toList, []⟩))) ≠ field "123456".toList 0 6 :=
  ⟨rfl, rfl, by decide +kernel⟩

/-- With nothing behind the arrays the clock gives back its time. -/
theorem rtc_roundtrip_iff_clear :
    cstr (getTimeRtcChar false (zeroBuf 10) (readI2C (setClock ⟨[], [], []⟩)))
        = field "123456".toList 0 6 ∧
      cstr (getDateRtcChar false (zeroBuf 10) (readI2C (setClock ⟨[], [], []⟩)))
        = field "170520".toList 0 6 :=
  (rtc_roundtrip_iff (.inl rfl) false (by decide) (by decide) (fun _ => true) ⟨[], [], []⟩
    ⟨[], [], []⟩ clockBus _ _ rfl rfl _ _).mpr (by decide +kernel)

end SensorIoT
