import Mathlib.Algebra.Group.Nat.Defs
import Mathlib.Logic.Function.Basic
import SensorIoT.Stamps.Defs

/-!
# Setting the RTC

The functions of `libs/RTC/rtc.c` that write the registers of the RTC, and `readI2C`, which reads
them back.  Whether a write succeeds is not up to the program: `ok n` says it of the `n`-th write on
the bus.  A write that fails leaves the registers alone, and one that succeeds stores its byte.

The functions have one shape: writes one after the other until one fails, and then a last write, of
zero to register 0, whose outcome nobody looks at.  `activeAlarmRtc` departs from it in its fifth
write, the outcome of which is not looked at either.

The two-character arrays handed to `strtol` have no terminator; what lies behind them is the
argument `mem`.  The numbers go from `long` through `int` and `unsigned int` to `char`, which in the
end keeps their lowest byte.
-/

set_option autoImplicit false

namespace SensorIoT

/-! ## Numbers in base 16 -/

/-- The value of a hexadecimal digit. -/
def hexDigit (c : Char) : Option ℕ :=
  if c.isDigit then some (c.toNat - 48)
  else if 97 ≤ c.toNat ∧ c.toNat ≤ 102 then some (c.toNat - 87)
  else if 65 ≤ c.toNat ∧ c.toNat ≤ 70 then some (c.toNat - 55)
  else none

/-- The number the leading hexadecimal digits of a text denote, behind those of `acc`. -/
def leadingHex : ℕ → List Char → ℕ
  | acc, [] => acc
  | acc, c :: cs =>
    match hexDigit c with
    | some d => leadingHex (acc * 16 + d) cs
    | none => acc

/-- A prefix `0x` is skipped if a digit follows it. -/
def dropHexPrefix : List Char → List Char
  | '0' :: x :: c :: cs =>
    if (x = 'x' ∨ x = 'X') ∧ (hexDigit c).isSome = true then c :: cs else '0' :: x :: c :: cs
  | s => s

/-- `strtol(s, NULL, 16)` of the memory that starts with the given characters.  `longMax` is
`LONG_MAX`. -/
def strtol16 (longMax : ℕ) (s : List Char) : ℤ :=
  match s.dropWhile isSpace with
  | '-' :: r => -(min (leadingHex 0 (dropHexPrefix r)) (longMax + 1) : ℕ)
  | '+' :: r => (min (leadingHex 0 (dropHexPrefix r)) longMax : ℕ)
  | r => (min (leadingHex 0 (dropHexPrefix r)) longMax : ℕ)

/-- The bytes that lie behind the three two-character arrays of `setTimeRtc` or `setDateRtc`. -/
structure ArraysMem where
  first : List Char
  second : List Char
  third : List Char

/-! ## The bus -/

/-- The RTC on its bus: the registers, and how many writes there have been. -/
structure Bus where
  regs : ℕ → UInt8
  writes : ℕ

/-- What is left of a number in a `char`. -/
def lowByte (content : ℤ) : UInt8 := UInt8.ofNat (content % 256).toNat

/-- `writeI2C`. -/
def writeI2C (ok : ℕ → Bool) (address : ℕ) (content : ℤ) (b : Bus) : Bus × ℤ :=
  if ok b.writes = true then
    ({ regs := Function.update b.regs address (lowByte content), writes := b.writes + 1 }, 1)
  else ({ b with writes := b.writes + 1 }, -1)

/-- Writes one after the other until one fails. -/
def writeChain (ok : ℕ → Bool) : List (ℕ × ℤ) → Bus → Bus × ℤ
  | [], b => (b, 1)
  | w :: ws, b =>
    let res := writeI2C ok w.1 w.2 b
    if res.2 ≠ -1 then writeChain ok ws res.1 else res

/-- The end of all these functions: where a write has failed, zero is written to register 0. -/
def orReset (ok : ℕ → Bool) (res : Bus × ℤ) : Bus × ℤ :=
  if res.2 ≠ -1 then res else ((writeI2C ok 0x00 0x00 res.1).1, -1)

/-- The writes of `setTimeRtc`: `HOURS`, `MINUTES`, `SECONDS`. -/
def timeWrites (longMax : ℕ) (mem : ArraysMem) (buffer : CBuf) : List (ℕ × ℤ) :=
  [(0x02, strtol16 longMax (charAt buffer 0 :: charAt buffer 1 :: mem.first)),
    (0x01, strtol16 longMax (charAt buffer 2 :: charAt buffer 3 :: mem.second)),
    (0x00, strtol16 longMax (charAt buffer 4 :: charAt buffer 5 :: mem.third))]

/-- `setTimeRtc`. -/
def setTimeRtc (longMax : ℕ) (ok : ℕ → Bool) (mem : ArraysMem) (buffer : CBuf) (b : Bus) :
    Bus × ℤ :=
  orReset ok (writeChain ok (timeWrites longMax mem buffer) b)

/-- The writes of `setDateRtc`: `DAY_OF_MONTH`, `MONTH_CENTURY`, `YEAR`. -/
def dateWrites (longMax : ℕ) (mem : ArraysMem) (buffer : CBuf) : List (ℕ × ℤ) :=
  [(0x04, strtol16 longMax (charAt buffer 0 :: charAt buffer 1 :: mem.first)),
    (0x05, strtol16 longMax (charAt buffer 2 :: charAt buffer 3 :: mem.second)),
    (0x06, strtol16 longMax (charAt buffer 4 :: charAt buffer 5 :: mem.third))]

/-- `setDateRtc`. -/
def setDateRtc (longMax : ℕ) (ok : ℕ → Bool) (mem : ArraysMem) (buffer : CBuf) (b : Bus) :
    Bus × ℤ :=
  orReset ok (writeChain ok (dateWrites longMax mem buffer) b)

/-- The writes of `activeAlarmRtc` whose outcome it looks at: `A1M1_SECONDS`, `A1M2_MINUTES`,
`A1M3_HOUR`, `A1M4_DAY_DATE`. -/
def alarmWrites : List (ℕ × ℤ) := [(0x07, 0x81), (0x08, 0x80), (0x09, 0x80), (0x0A, 0x80)]

/-- `activeAlarmRtc`. -/
def activeAlarmRtc (ok : ℕ → Bool) (b : Bus) : Bus × ℤ :=
  let res := writeChain ok alarmWrites b
  if res.2 ≠ -1 then ((writeI2C ok 0x0E 0x1D res.1).1, 1) else orReset ok res

/-- `desactiveAlarmRtc`. -/
def desactiveAlarmRtc (ok : ℕ → Bool) (b : Bus) : Bus × ℤ :=
  let res := writeI2C ok 0x0E 0x1C b
  if res.2 = 1 then (res.1, 1) else ((writeI2C ok 0x00 0x00 res.1).1, -1)

/-- `readI2C`: the 19 registers from register 0 on, and a terminator. -/
def readI2C (b : Bus) : List UInt8 := (List.range 0x13).map b.regs ++ [0]

/-! ## Printing the registers -/

/-- The format `%02x` of a `char`, which where it is signed is widened with its sign. -/
def fmt02xChar (signedChar : Bool) (b : UInt8) : List Char :=
  if signedChar = true ∧ 128 ≤ b.toNat then Nat.toDigits 16 (2 ^ 32 - 256 + b.toNat) else fmt02x b

/-- `getTimeRtc`, on a platform whose `char` may be signed. -/
def getTimeRtcChar (signedChar : Bool) (buffer : CBuf) (i2cData : List UInt8) : CBuf :=
  sprintf buffer (fmt02xChar signedChar (i2cData.getD 2 0)
    ++ fmt02xChar signedChar (i2cData.getD 1 0) ++ fmt02xChar signedChar (i2cData.getD 0 0))

/-- `getDateRtc`, on a platform whose `char` may be signed. -/
def getDateRtcChar (signedChar : Bool) (buffer : CBuf) (i2cData : List UInt8) : CBuf :=
  sprintf buffer (fmt02xChar signedChar (i2cData.getD 4 0)
    ++ fmt02xChar signedChar (i2cData.getD 5 0) ++ fmt02xChar signedChar (i2cData.getD 6 0))

theorem fmt02xChar_unsigned (b : UInt8) : fmt02xChar false b = fmt02x b := if_neg (by simp)

/-- On the board a `char` is unsigned. -/
theorem getTimeRtcChar_unsigned (buffer : CBuf) (i2cData : List UInt8) :
    getTimeRtcChar false buffer i2cData = getTimeRtc buffer i2cData := by
  simp only [getTimeRtcChar, fmt02xChar_unsigned, getTimeRtc]

theorem getDateRtcChar_unsigned (buffer : CBuf) (i2cData : List UInt8) :
    getDateRtcChar false buffer i2cData = getDateRtc buffer i2cData := by
  simp only [getDateRtcChar, fmt02xChar_unsigned, getDateRtc]

end SensorIoT
