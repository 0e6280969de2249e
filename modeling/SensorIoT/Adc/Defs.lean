import SensorIoT.Adc.Counts
import SensorIoT.Recorder.Calls

/-!
# Acquiring a block

The part of `readAnalogInputsAndSaveData` of `SensorIoT.c` that fills the three arrays of samples,
with what it uses of `libs/ADC/adc.c`.

The converter is behind a serial bus.  A sample takes two transfers: one to select its inputs, and,
once the converter says that it is ready, one to read the conversion.  What a transfer does is given
with it, as a `Transfer`; that the converter gets ready at all is taken for granted.
-/

set_option autoImplicit false

namespace SensorIoT

/-! ## Transfers -/

/-- The outcome of a transfer: what it returns, and the bytes that it delivers, if it does. -/
structure Transfer where
  result : ℤ
  rx : Vector (BitVec 8) 7

/-- The bus: what has been sent over it, and the outcomes of the transfers to come. -/
structure Spi where
  sent : List (List (BitVec 8))
  coming : ℕ → Transfer

/-- `transfer`. -/
def transfer (spi : Spi) (sendBuffer : List (BitVec 8)) : Transfer × Spi :=
  (spi.coming 0, { sent := spi.sent ++ [sendBuffer], coming := fun n => spi.coming (n + 1) })

/-- `writeRegister`; `WRITE_REG` is 0x40. -/
def writeRegister (spi : Spi) (address data : BitVec 8) : ℤ × Spi :=
  let t := transfer spi [0x40 ||| address, 0x00, data]
  (t.1.result, t.2)

/-- The first six bytes of a transfer. -/
def firstSix (rx : Vector (BitVec 8) 7) : Recv := Vector.ofFn fun i => rx[i]

/-- What a call that reads a conversion returns, and the buffer and the bus after it. -/
structure ReadResult where
  ret : ℤ
  recv : Recv
  spi : Spi

/-- `readData`: the bytes go into the buffer if the transfer delivers any. -/
def readData (spi : Spi) (recvBuffer : Recv) : ReadResult :=
  let t := transfer spi (List.replicate 7 0x00)
  { ret := t.1.result
    recv := if 1 < t.1.result then firstSix t.1.rx else recvBuffer
    spi := t.2 }

/-- `readAINx`, once the converter is ready. -/
def readAINx (spi : Spi) (recvBuffer : Recv) : ReadResult := readData spi recvBuffer

/-- What the three functions below have in common: select the inputs, without a look at what comes
of it, and read.  `INPMUX` is 0x06. -/
def readAIN (inputs : BitVec 8) (spi : Spi) (recvBuffer : Recv) : ReadResult :=
  readAINx (writeRegister spi 0x06 inputs).2 recvBuffer

/-- `readAIN2_3`. -/
def readAIN2_3 : Spi → Recv → ReadResult := readAIN 0x23

/-- `readAIN4_5`. -/
def readAIN4_5 : Spi → Recv → ReadResult := readAIN 0x45

/-- `readAIN6_7`. -/
def readAIN6_7 : Spi → Recv → ReadResult := readAIN 0x67

/-! ## The block -/

variable {F : Type} [FloatArith F]

/-- The variables of the loop of `readAnalogInputsAndSaveData`. -/
structure Acquisition (F : Type) where
  spi : Spi
  /-- `recvX`, `recvY` and `recvZ`. -/
  recv : Axis → Recv
  /-- `dataX`, `dataY` and `dataZ`. -/
  data : Axis → ℕ → F

/-- The variables before the loop. -/
def Acquisition.init (spi : Spi) : Acquisition F where
  spi := spi
  recv := fun _ => Vector.replicate 6 0
  data := fun _ _ => 0

/-- One turn of the loop.  What the three calls return is not looked at. -/
def acquireBody (c : Convention) (a : Acquisition F) (count : ℕ) : Acquisition F :=
  let x := readAIN2_3 a.spi (a.recv .x)
  let y := readAIN4_5 x.spi (a.recv .y)
  let z := readAIN6_7 y.spi (a.recv .z)
  let recv := Axis.values x.recv y.recv z.recv
  { spi := z.spi
    recv := recv
    data := fun axis => Function.update (a.data axis) count (sampleCount c (recv axis) : F) }

/-- The loop. -/
def acquire (c : Convention) (outcomes : ℕ → Transfer) : Acquisition F :=
  (List.range maxSPS).foldl (acquireBody c) (Acquisition.init { sent := [], coming := outcomes })

end SensorIoT
