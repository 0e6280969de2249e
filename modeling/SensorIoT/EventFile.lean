import SensorIoT.Sac.Files
import SensorIoT.StaLta.Defs

/-!
# Saving an event

`createEventFile` of `SensorIoT.c`: an event that is complete is written to a file of its own in
three parts — the samples before it, its own samples, the samples after it — and the axis is made
ready for the next one.  The two halves have nothing to do with each other but their order, and
stand here as `eventFileCalls` and `releaseEvent`.
-/

set_option autoImplicit false

namespace SensorIoT

/-- `EVENTS_DIR_R`. -/
def eventsDir : List Char := "/home/debian/Sensor-IOT/SensorIoT/eventos".toList

/-- The bytes that lie behind the two- and three-character arrays of a call of
`getSacFormatDate`. -/
structure DateMem where
  year : List Char
  month : List Char
  day : List Char
  hour : List Char
  min : List Char
  seg : List Char
  mseg : List Char

/-- The days of the year before each month, indexed from January. -/
def numeroDiasPorMes : List ℤ := [0, 31, 59, 90, 120, 151, 181, 212, 243, 273, 304, 334, 365]

/-- `getSacFormatDate`: the start time of a file from a stamp.  `mem` is what lies behind the
arrays. -/
def getSacFormatDate (mem : DateMem) (date time : CBuf) (isGPS : Bool) : FullDate :=
  let mseg := if isGPS then [charAt time 7, charAt time 8, charAt time 9] else [nul, nul, nul]
  let month := atoi (charAt date 2 :: charAt date 3 :: mem.month)
  { year := 2000 + atoi (charAt date 4 :: charAt date 5 :: mem.year)
    month := month
    day := numeroDiasPorMes.getD (month - 1).toNat 0
      + atoi (charAt date 0 :: charAt date 1 :: mem.day)
    hour := atoi (charAt time 0 :: charAt time 1 :: mem.hour)
    min := atoi (charAt time 2 :: charAt time 3 :: mem.min)
    seg := atoi (charAt time 4 :: charAt time 5 :: mem.seg)
    mseg := atoi (mseg ++ mem.mseg) }

variable {F : Type} [FloatArith F]

/-- The name of the file of an event, up to the terminator that a short stamp may put in it. -/
def eventPath (event : EventData F) : Path :=
  cstr (eventsDir ++ '/' :: cstr event.date ++ '/' :: cstr event.date ++ '_' ::
    charAt event.time 0 :: charAt event.time 1 :: charAt event.time 2 :: charAt event.time 3 ::
    charAt event.time 4 :: charAt event.time 5 :: '_' :: cstr event.axis ++ ".sac".toList)

/-- The calls of `createEventFile`. -/
def eventFileCalls (dt : F) (mem : DateMem) (event : EventData F) : List (SacCall F) :=
  let fullDataEvent := getSacFormatDate mem event.date event.time event.isGPS
  let dir := eventPath event
  let v : DepValues F :=
    { depmax := FloatArith.lit 0, depmin := FloatArith.lit 0, depmen := FloatArith.lit 0
      dt := FloatArith.lit 0, npts := 0, dataNumber := 0 }
  let v := { v with npts := v.npts + event.countPreEvent }
  let w := writeSac fullDataEvent v v.npts event.countPreEvent event.preEvent dt
    (cstr event.axis) dir
  let v := { w.1 with npts := w.1.npts + event.countEventSamples }
  let w' := writeSac fullDataEvent v v.npts event.countEventSamples event.eventSamples dt
    (cstr event.axis) dir
  let v := { w'.1 with npts := w'.1.npts + event.countPostEvent }
  let w'' := writeSac fullDataEvent v v.npts event.countPostEvent event.postEvent dt
    (cstr event.axis) dir
  [.createFile dir, w.2, w'.2, w''.2]

/-- `clearFloatBuffer`. -/
def clearFloatBuffer (buffer : ℕ → F) (ln : ℕ) : ℕ → F := fun i => if i < ln then 0 else buffer i

omit [FloatArith F] in
/-- The register after an event is saved: the samples of the event and those after it are added,
and then the last `countEventSamples % SPS` samples of `tempData`. -/
def saveRegister (sps : ℕ) (p : Params F) (event : EventData F) : PreRegister F :=
  let r := event.toPreRegister
  let r :=
    if r.countPreEvent ≤ event.countPostEvent then
      addSamplesPreEvent p r event.postEvent r.countPreEvent
        (event.countPostEvent - r.countPreEvent)
    else
      let r' :=
        if r.countPreEvent - event.countPostEvent ≤ event.countEventSamples then
          addSamplesPreEvent p r event.eventSamples (r.countPreEvent - event.countPostEvent)
            (event.countEventSamples - (r.countPreEvent - event.countPostEvent))
        else addSamplesPreEvent p r event.eventSamples event.countEventSamples 0
      addSamplesPreEvent p r' event.postEvent event.countPostEvent 0
  let sobrante := event.countEventSamples % sps
  addSamplesPreEvent p r event.tempData sobrante (event.countTempData - sobrante)

/-- What `createEventFile` leaves of the axis. -/
def releaseEvent (sps : ℕ) (p : Params F) (event : EventData F) : EventData F :=
  { event with
    toPreRegister := saveRegister sps p event
    eventSamples := clearFloatBuffer event.eventSamples event.countEventSamples
    postEvent := clearFloatBuffer event.postEvent event.countPostEvent
    countPostEvent := 0
    countEventSamples := 0
    isPendingSaveEvent := false }

/-- `createEventFile`. -/
def createEventFile (sps : ℕ) (dt : F) (p : Params F) (mem : DateMem) (event : EventData F) :
    EventData F × List (SacCall F) :=
  (releaseEvent sps p event, eventFileCalls dt mem event)

/-- The test before `createEventFile` in `readAnalogInputsAndSaveData`: save an event that is
complete. -/
def savePending (sps : ℕ) (dt : F) (p : Params F) (mem : DateMem) (event : EventData F) :
    EventData F × List (SacCall F) :=
  if event.isPendingSaveEvent = true then createEventFile sps dt p mem event else (event, [])

/-- What an axis is left with at the end of a block. -/
def afterBlock (p : Params F) (event : EventData F) : EventData F :=
  if event.isPendingSaveEvent = true then releaseEvent p.freq p event else event

theorem savePending_fst (dt : F) (p : Params F) (mem : DateMem) (event : EventData F) :
    (savePending p.freq dt p mem event).1 = afterBlock p event := by
  rw [savePending, afterBlock]
  split <;> rfl

end SensorIoT
