import Mathlib.Data.Int.Notation
import SensorIoT.CString
import SensorIoT.Lib.Emitter

/-!
# Where the time stamps come from

`readAndSaveData` of `SensorIoT.c`, the loop of the program, with what it uses of `libs/GPS/gps.c`
and `libs/RTC/rtc.c`.  The GPS raises a pin once a second (PPS) and then sends its sentences over a
serial line; the RTC lowers one (SYNC).  On every turn the loop decides whether to record a block,
and with the time of which of the two.

A turn of the loop reads the pins, the clock, the serial line until it has nothing left, and maybe
the RTC; what it finds there is a `Pass`.  What it does is to call `readAnalogInputsAndSaveData` at
most once, with a `Stamp`.  Messages to the server, and the two variables that keep them from being
repeated, are left out.
-/

set_option autoImplicit false

namespace SensorIoT

/-- The arguments of `readAnalogInputsAndSaveData`. -/
structure Stamp where
  date : CBuf
  time : CBuf
  isGPS : Bool

/-! ## Sentences of the GPS -/

/-- `readUART`, when there is something to read.  The terminator of a full read falls behind the
buffer. -/
def readUART (buf : CBuf) (line : List Char) : CBuf := (sprintf buf line).take 255

/-- `clearBuffer`. -/
def clearBuffer (buffer : CBuf) (ln : ℕ) : CBuf := zeroBuf ln ++ buffer.drop ln

/-- The six characters at the start of a buffer are those of `header`. -/
def hasHeader (buffer header : List Char) : Bool :=
  (List.range 6).all fun i => charAt buffer i == charAt header i

/-- `isRMC`. -/
def isRMC (buffer : CBuf) : ℤ := if hasHeader buffer "$GPRMC".toList = true then 1 else -1

/-- `isRmcStatusOk`: byte 18 is `A` if the GPS has a fix, and `V` if it has none. -/
def isRmcStatusOk (buffer : CBuf) : ℤ :=
  if isRMC buffer = 1 then
    if charAt buffer 18 = 'A' then 1 else -1
  else -1

/-- The characters of a field of a sentence. -/
def field (sentence : CBuf) (start len : ℕ) : List Char :=
  (List.range len).map fun i => charAt sentence (i + start)

/-- `getTimeGps`. -/
def getTimeGps (buffer rmc : CBuf) : CBuf × ℤ := (sprintf buffer (field rmc 7 10), 10)

/-- `getDateGps`. -/
def getDateGps (buffer rmc : CBuf) : CBuf × ℤ := (sprintf buffer (field rmc 57 6), 6)

/-- `getLat`: -1 if the latitude starts with four zeros. -/
def getLat (buffer rmc : CBuf) : CBuf × ℤ :=
  let buffer := sprintf buffer (field rmc 20 9 ++ [charAt rmc 30])
  if charAt buffer 0 = '0' ∧ charAt buffer 1 = '0' ∧ charAt buffer 2 = '0' ∧ charAt buffer 3 = '0'
  then (buffer, -1)
  else (buffer, 10)

/-! ## The RTC -/

/-- The format `%02x` of a byte.  A `char` of the board is unsigned. -/
def fmt02x (b : UInt8) : List Char :=
  let digits := Nat.toDigits 16 b.toNat
  List.replicate (2 - digits.length) '0' ++ digits

/-- `getTimeRtc`: hours, minutes and seconds are registers 2, 1 and 0. -/
def getTimeRtc (buffer : CBuf) (i2cData : List UInt8) : CBuf :=
  sprintf buffer (fmt02x (i2cData.getD 2 0) ++ fmt02x (i2cData.getD 1 0)
    ++ fmt02x (i2cData.getD 0 0))

/-- `getDateRtc`: day, month and year are registers 4, 5 and 6. -/
def getDateRtc (buffer : CBuf) (i2cData : List UInt8) : CBuf :=
  sprintf buffer (fmt02x (i2cData.getD 4 0) ++ fmt02x (i2cData.getD 5 0)
    ++ fmt02x (i2cData.getD 6 0))

/-- `readWithRTC`, with what `readI2C` delivers: record with the time of the RTC, if it can be
read. -/
def readWithRTC (rtc : Option (List UInt8)) : List Stamp :=
  match rtc with
  | none => []
  | some bufRtc =>
    [{ date := getDateRtc (zeroBuf 10) bufRtc, time := getTimeRtc (zeroBuf 10) bufRtc
       isGPS := false }]

/-! ## The loop -/

/-- What one turn of the loop finds. -/
structure Pass where
  /-- `gpio26_PPS` is high. -/
  ppsHigh : Bool
  /-- `gpio68_SYNC` is low, when it is read. -/
  syncLow : Bool
  /-- `time(NULL)`, in seconds. -/
  now : ℤ
  /-- What `readUART` delivers, read after read, until it has nothing more. -/
  lines : List (List Char)
  /-- What `readI2C` delivers, if it is called and does not fail. -/
  rtc : Option (List UInt8)

/-- The variables of `readAndSaveData`. -/
structure Loop where
  buf : CBuf
  bufTime : CBuf
  bufDate : CBuf
  bufLat : CBuf
  flag : Bool
  isData : ℤ
  inicio : ℤ

/-- The variables before the loop. -/
def Loop.init (inicio : ℤ) : Loop where
  buf := zeroBuf 255
  bufTime := zeroBuf 15
  bufDate := zeroBuf 15
  bufLat := zeroBuf 15
  flag := false
  isData := 0
  inicio := inicio

/-- One turn of the inner loop, with the line that was read before it. -/
def readSentence (s : Loop) (line : List Char) : Loop :=
  let s := { s with buf := readUART s.buf line, flag := false }
  let s :=
    if isRMC s.buf = 1 then
      { s with
        bufTime := (getTimeGps s.bufTime s.buf).1
        bufDate := (getDateGps s.bufDate s.buf).1
        bufLat := (getLat s.bufLat s.buf).1
        isData := (getLat s.bufLat s.buf).2 }
    else s
  { s with buf := clearBuffer s.buf 255 }

/-- The three places that record with the RTC: if SYNC is low. -/
def fallBack (p : Pass) : List Stamp := if p.syncLow = true then readWithRTC p.rtc else []

/-- One turn of the loop of `readAndSaveData`. -/
def readAndSaveDataPass (s : Loop) (p : Pass) : Loop × List Stamp :=
  if p.ppsHigh = true then
    let s := { s with inicio := p.now }
    if p.lines ≠ [] then
      let s := p.lines.foldl readSentence s
      if s.isData ≠ -1 then (s, [{ date := s.bufDate, time := s.bufTime, isGPS := true }])
      else ({ s with flag := s.flag || p.syncLow }, fallBack p)
    else ({ s with flag := s.flag || p.syncLow }, fallBack p)
  else if s.flag = true ∨ 2 < p.now - s.inicio then (s, fallBack p)
  else (s, [])

/-- The loop after `n` turns. -/
def readAndSaveData (inicio : ℤ) (passes : ℕ → Pass) : ℕ → Loop :=
  Emitter.state readAndSaveDataPass (Loop.init inicio) passes

/-- The calls of `readAnalogInputsAndSaveData` on turn `n`. -/
def recordedAt (inicio : ℤ) (passes : ℕ → Pass) : ℕ → List Stamp :=
  Emitter.emitted readAndSaveDataPass (Loop.init inicio) passes

end SensorIoT
