import SensorIoT.Arith
import SensorIoT.CString
import Mathlib.Logic.Function.Basic

/-!
# The STA/LTA event detector

The functions of `libs/EVENTS/staLta.c`, on the record `EventData` that the program keeps for each
of the three axes.

An array of the source is a function on the natural numbers; the counters beside it say how much of
it is in use, and that the counters stay inside the arrays is something to be proved, not something
the types give.  Loops over an index are folds over `List.range`.  What the functions print is left
out.

Three points of the source that are easy to miss when reading the definitions:

* `addSamplesPreEvent` ignores its argument `firstPosition` while the register is filling up, and
  tests for the end of the filling by `!=` before the loop, not inside it.
* `detectEvent` consists of three `if`s in sequence — `startEvent`, `stopEvent`, `storeSample` —
  and a sample on which the event stops passes through the third with `EVENT_ON` already cleared.
* `getSeconds` hands `atoi` two-character arrays without a terminator.  What `atoi` reads behind
  them is the argument `mem`.
-/

set_option autoImplicit false

namespace SensorIoT

/-- `MAX_LENGTH_EVENT`: the size of the event arrays. -/
def maxLengthEvent : ℕ := 240000

/-- `MAX_WINDOWS`: the size of the window arrays. -/
def maxWindows : ℕ := 72000

/-- The part of `paramsSTA_LTA` that the detector reads, its lengths read as the natural numbers
they are when they fit the arrays.  `SensorIoT.Params` says how `main` fills it. -/
structure Params (F : Type) where
  /-- Samples in a block, one second's worth. -/
  freq : ℕ
  /-- Samples in the short window. -/
  lengthSTA : ℕ
  /-- Samples in the long window. -/
  lengthLTA : ℕ
  /-- Ratio from which on an event starts. -/
  thOn : F
  /-- Ratio down to which an event stops. -/
  thOff : F
  /-- Seconds an event has to last to be stored. -/
  minimunDurationSeconds : ℤ
  /-- Samples kept from before an event. -/
  preEvent : ℕ
  /-- Samples recorded after an event. -/
  postEvent : ℕ

/-- The running averages of an axis, one half of `eventData`. -/
structure Windows (F : Type) where
  sta : ℕ → F
  lta : ℕ → F
  staToLta : ℕ → F
  countLtaSta : ℕ
  countTempData : ℕ
  tempData : ℕ → F

/-- The register of samples from before an event. -/
structure PreRegister (F : Type) where
  preEvent : ℕ → F
  countPreEvent : ℕ

/-- `eventData`: the state of the detector of one axis.  The two groups of fields that functions of
their own work on are records of their own. -/
structure EventData (F : Type) extends Windows F, PreRegister F where
  isPendingSaveEvent : Bool
  isEnableAddPostEvent : Bool
  eventNum : ℕ
  eventOn : Bool
  date : CBuf
  time : CBuf
  axis : CBuf
  isGPS : Bool
  postEvent : ℕ → F
  countPostEvent : ℕ
  eventSamples : ℕ → F
  countEventSamples : ℕ

/-- The bytes that lie behind the two-character arrays of a call of `getSeconds`. -/
structure SecondsMem where
  hour : List Char
  min : List Char
  seg : List Char

/-- What one call of `sta_lta` is given: a block of samples, its stamp and, for the sample that
happens to need it, the memory around the two calls of `getSeconds` (`start`, `stop`). -/
structure Block (F : Type) where
  samples : ℕ → F
  date : CBuf
  time : CBuf
  isGPS : Bool
  memStart : ℕ → SecondsMem
  memStop : ℕ → SecondsMem

variable {F : Type} [FloatArith F]

/-- The global `eventData` records at program start. -/
def EventData.init : EventData F where
  isPendingSaveEvent := false
  isEnableAddPostEvent := false
  eventNum := 0
  eventOn := false
  date := zeroBuf 15
  time := zeroBuf 15
  axis := zeroBuf 15
  isGPS := false
  preEvent := fun _ => 0
  countPreEvent := 0
  postEvent := fun _ => 0
  countPostEvent := 0
  eventSamples := fun _ => 0
  countEventSamples := 0
  sta := fun _ => 0
  lta := fun _ => 0
  staToLta := fun _ => 0
  countLtaSta := 0
  countTempData := 0
  tempData := fun _ => 0

/-! ## The registers -/

omit [FloatArith F] in
/-- One turn of the loop of `moveRegister`. -/
def moveRegisterBody (newSamples : ℕ → F) (samplesNumber bufferSize firstPosition : ℕ)
    (tempData : ℕ → F) (count : ℕ) : ℕ → F :=
  let positionOfNewSamples : ℤ := (bufferSize : ℤ) - samplesNumber
  if positionOfNewSamples ≤ count then
    Function.update tempData count
      (newSamples ((count - positionOfNewSamples).toNat + firstPosition))
  else Function.update tempData count (tempData (samplesNumber + count))

/-- `moveRegister`: shift the buffer left and put the new samples at its end, in place. -/
def moveRegister (tempData newSamples : ℕ → F) (samplesNumber bufferSize firstPosition : ℕ) :
    ℕ → F :=
  (List.range bufferSize).foldl
    (moveRegisterBody newSamples samplesNumber bufferSize firstPosition) tempData

omit [FloatArith F] in
/-- One turn of the filling loop of `addSamplesPreEvent`. -/
def fillPreEvent (samples : ℕ → F) (r : PreRegister F) (count : ℕ) : PreRegister F where
  preEvent := Function.update r.preEvent r.countPreEvent (samples count)
  countPreEvent := r.countPreEvent + 1

omit [FloatArith F] in
/-- `addSamplesPreEvent`: fill the register of samples from before an event, or move it on. -/
def addSamplesPreEvent (p : Params F) (r : PreRegister F) (samples : ℕ → F)
    (samplesNumber firstPosition : ℕ) : PreRegister F :=
  if r.countPreEvent ≠ p.preEvent then
    (List.range samplesNumber).foldl (fillPreEvent samples) r
  else
    { r with
      preEvent := moveRegister r.preEvent samples samplesNumber r.countPreEvent firstPosition }

/-! ## Time stamps -/

/-- `getSeconds`: the second of the day of a stamp.  `mem` is what lies behind the arrays. -/
def getSeconds (mem : SecondsMem) (time : CBuf) : ℤ :=
  atoi (charAt time 0 :: charAt time 1 :: mem.hour) * 3600
    + atoi (charAt time 2 :: charAt time 3 :: mem.min) * 60
    + atoi (charAt time 4 :: charAt time 5 :: mem.seg)

/-- `setStartTime`: print a second of the day over a stamp. -/
def setStartTime (seconds : ℤ) (time : CBuf) : CBuf :=
  let hour := seconds.tdiv 3600
  let min := (seconds.tmod 3600).tdiv 60
  let seg := (seconds.tmod 3600).tmod 60
  sprintf time (fmt02d hour ++ fmt02d min ++ fmt02d seg)

/-- `checkMinimunDuration`: did the event last long enough?  If it did, its start time is moved
back by the length of the pre-event register, when that stays within the day. -/
def checkMinimunDuration (p : Params F) (memStart memStop : SecondsMem) (event : EventData F)
    (time : CBuf) : Bool × EventData F :=
  let startTime := getSeconds memStart event.time
  let endTime := getSeconds memStop time
  if p.minimunDurationSeconds ≤ endTime - startTime then
    let back : ℤ := (p.preEvent / p.freq : ℕ)
    if back ≤ startTime then
      (true, { event with time := setStartTime (startTime - back) event.time })
    else (true, event)
  else (false, event)

/-! ## Detection -/

/-- The ratio the current sample is judged by. -/
def EventData.ratio (event : EventData F) : F := event.staToLta event.countLtaSta

/-- The first `if` of `detectEvent`: start an event, or move the register on at the end of a block
without one. -/
def startEvent (p : Params F) (event : EventData F) (b : Block F) (axis : CBuf)
    (countNewSamples : ℕ) : EventData F :=
  if event.eventOn = false ∧ p.thOn ≤ event.ratio then
    { event with
      eventOn := true
      date := strcpy event.date b.date
      time := strcpy event.time b.time
      axis := strcpy event.axis axis
      isGPS := b.isGPS
      toPreRegister := addSamplesPreEvent p event.toPreRegister b.samples countNewSamples 0 }
  else if countNewSamples = p.freq - 1 ∧ event.eventOn = false then
    { event with
      toPreRegister := addSamplesPreEvent p event.toPreRegister b.samples p.freq 0 }
  else event

/-- What becomes of an event that was too short: its samples go to the register. -/
def discardEvent (p : Params F) (event : EventData F) : EventData F :=
  let register :=
    if event.countPreEvent < event.countEventSamples then
      addSamplesPreEvent p event.toPreRegister event.eventSamples event.countPreEvent
        (event.countEventSamples - event.countPreEvent)
    else
      addSamplesPreEvent p event.toPreRegister event.eventSamples event.countEventSamples 0
  { event with
    toPreRegister := register
    countEventSamples := 0
    isPendingSaveEvent := false
    isEnableAddPostEvent := false }

/-- What becomes of an event that stops, by the answer of `checkMinimunDuration`. -/
def settleEvent (p : Params F) (checked : Bool × EventData F) : EventData F :=
  if checked.1 = true then
    { checked.2 with
      isEnableAddPostEvent := true
      eventNum := checked.2.eventNum + 1 }
  else discardEvent p checked.2

/-- The second `if` of `detectEvent`: stop an event. -/
def stopEvent (p : Params F) (event : EventData F) (b : Block F) (countNewSamples : ℕ) :
    EventData F :=
  if event.eventOn = true ∧ event.ratio ≤ p.thOff then
    settleEvent p
      (checkMinimunDuration p (b.memStart countNewSamples) (b.memStop countNewSamples)
        { event with eventOn := false } b.time)
  else event

/-- The third `if` of `detectEvent`: store the sample of an event, or close an event whose array
is full. -/
def storeSample (p : Params F) (event : EventData F) (b : Block F) (countNewSamples : ℕ) :
    EventData F :=
  if event.eventOn = true then
    if event.countEventSamples = maxLengthEvent then
      (checkMinimunDuration p (b.memStart countNewSamples) (b.memStop countNewSamples)
        { event with eventOn := false } b.time).2
    else
      { event with
        eventSamples :=
          Function.update event.eventSamples event.countEventSamples (b.samples countNewSamples)
        countEventSamples := event.countEventSamples + 1 }
  else event

/-- The samples after an event, the first branch of `detectEvent`. -/
def addPostEvent (p : Params F) (event : EventData F) (b : Block F) (countNewSamples : ℕ) :
    EventData F :=
  if event.countPostEvent ≠ p.postEvent then
    { event with
      postEvent :=
        Function.update event.postEvent event.countPostEvent (b.samples countNewSamples)
      countPostEvent := event.countPostEvent + 1 }
  else { event with isPendingSaveEvent := true, isEnableAddPostEvent := false }

/-- `detectEvent`, for sample `countNewSamples` of a block. -/
def detectEvent (p : Params F) (event : EventData F) (b : Block F) (axis : CBuf)
    (countNewSamples : ℕ) : EventData F :=
  if event.isPendingSaveEvent ≠ true then
    if event.isEnableAddPostEvent = true then addPostEvent p event b countNewSamples
    else
      storeSample p (stopEvent p (startEvent p event b axis countNewSamples) b countNewSamples) b
        countNewSamples
  else event

/-! ## The windows -/

/-- One turn of the loop of `inizializeFirstSamples`. -/
def inizializeBody (p : Params F) (w : Windows F) (count : ℕ) : Windows F :=
  let sta :=
    if count < p.lengthSTA then
      (w.tempData count + w.tempData (count - 1)) / (p.lengthSTA : F)
    else
      w.sta (count - 1)
        + (w.tempData count - w.tempData (count - p.lengthSTA)) / (p.lengthSTA : F)
  let lta := (w.tempData count + w.tempData (count - 1)) / (p.lengthLTA : F)
  { w with
    sta := Function.update w.sta count sta
    lta := Function.update w.lta count lta
    staToLta := Function.update w.staToLta count (FloatArith.fabs (sta / lta)) }

/-- `inizializeFirstSamples`: the windows over the first `lengthLTA` samples. -/
def inizializeFirstSamples (p : Params F) (w : Windows F) : Windows F :=
  let sta := w.tempData 0 / (p.lengthSTA : F)
  let lta := w.tempData 0 / (p.lengthLTA : F)
  (List.range' 1 (p.lengthLTA - 1)).foldl (inizializeBody p)
    { w with
      sta := Function.update w.sta 0 sta
      lta := Function.update w.lta 0 lta
      staToLta := Function.update w.staToLta 0 (FloatArith.fabs (sta / lta)) }

/-- What `sta_lta` does with a sample until `tempData` is full, the counter not yet advanced. -/
def fillTempData (p : Params F) (w : Windows F) (x : F) : Windows F :=
  let w := { w with tempData := Function.update w.tempData w.countTempData x }
  if w.countTempData = p.lengthLTA - 1 then inizializeFirstSamples p w else w

/-- The recursive update of the windows in `sta_lta`. -/
def updateWindows (p : Params F) (w : Windows F) (newSamples : ℕ → F) (count : ℕ) : Windows F :=
  let w := if w.countLtaSta = p.lengthLTA then { w with countLtaSta := 0 } else w
  let i := w.countLtaSta
  let x := newSamples count
  if i = 0 then
    let sta := w.sta (p.lengthLTA - 1)
      + (x - w.tempData (w.countTempData - p.lengthSTA)) / (p.lengthSTA : F)
    let lta := w.lta (p.lengthLTA - 1) + (x - w.tempData 0) / (p.lengthLTA : F)
    { w with
      sta := Function.update w.sta 0 sta
      lta := Function.update w.lta 0 lta
      staToLta := Function.update w.staToLta 0 (FloatArith.fabs (sta / lta)) }
  else
    let sta :=
      if w.countTempData ≤ w.countTempData - p.lengthSTA + count then
        w.sta (i - 1) + (x - newSamples (count - p.lengthSTA)) / (p.lengthSTA : F)
      else
        w.sta (i - 1)
          + (x - w.tempData (w.countTempData - p.lengthSTA + count)) / (p.lengthSTA : F)
    let lta := w.lta (i - 1) + (x - w.tempData count) / (p.lengthLTA : F)
    { w with
      sta := Function.update w.sta i sta
      lta := Function.update w.lta i lta
      staToLta := Function.update w.staToLta i (FloatArith.fabs (sta / lta)) }

/-- The end of a turn of `sta_lta` once `tempData` is full: move it on at the end of a block, and
advance the counter. -/
def finishSample (p : Params F) (w : Windows F) (newSamples : ℕ → F) (count : ℕ) : Windows F :=
  let w :=
    if count = p.freq - 1 then
      { w with tempData := moveRegister w.tempData newSamples p.freq p.lengthLTA 0 }
    else w
  { w with countLtaSta := w.countLtaSta + 1 }

/-- One turn of the loop of `sta_lta`. -/
def staLtaBody (p : Params F) (axis : CBuf) (event : EventData F) (b : Block F) (count : ℕ) :
    EventData F :=
  if event.countTempData ≠ p.lengthLTA then
    let w := fillTempData p event.toWindows (b.samples count)
    { event with
      toWindows := { w with countTempData := w.countTempData + 1 }
      toPreRegister :=
        if count = p.freq - 1 then addSamplesPreEvent p event.toPreRegister b.samples p.freq 0
        else event.toPreRegister }
  else
    let event := { event with toWindows := updateWindows p event.toWindows b.samples count }
    let event := detectEvent p event b axis count
    { event with toWindows := finishSample p event.toWindows b.samples count }

/-- `sta_lta`: process one block. -/
def staLta (p : Params F) (axis : CBuf) (event : EventData F) (b : Block F) : EventData F :=
  (List.range p.freq).foldl (fun event count => staLtaBody p axis event b count) event

end SensorIoT
