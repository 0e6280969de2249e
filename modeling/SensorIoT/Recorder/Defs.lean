import SensorIoT.EventFile
import SensorIoT.Params
import SensorIoT.Stamps.Defs

/-!
# Recording a block

`readAnalogInputsAndSaveData` of `SensorIoT.c`: what the program does with one second of samples.
It chooses the files (`createDirRtc`), acquires and thins out the samples, runs the detector on
them, saves the events that are complete, and appends the block to the three continuous files.

The globals of the source that are kept in three copies, one for each axis, are functions of the
axis here; the source handles the axes one after the other in the order X, Y, Z.  What the
converter delivers and what lies behind the unterminated arrays of the date routines is given with
the block.  Messages to the server and the creation of directories are left out.
-/

set_option autoImplicit false

namespace SensorIoT

/-- The three axes. -/
inductive Axis
  | x
  | y
  | z
  deriving DecidableEq

/-- `AXI_X`, `AXI_Y` and `AXI_Z`. -/
def Axis.name : Axis → List Char
  | .x => "BH2".toList
  | .y => "BH1".toList
  | .z => "BHZ".toList

/-- The axes in the order the source handles them. -/
def Axis.all : List Axis := [.x, .y, .z]

/-- `MAX_SPS`. -/
def maxSPS : ℕ := 200

/-- `SPS`, as `main` leaves it. -/
def SamplesPerSecond := {sps : ℕ // sps = 40 ∨ sps = 50 ∨ sps = 100 ∨ sps = 200}

theorem SamplesPerSecond.pos (sps : SamplesPerSecond) : 0 < sps.val := by
  rcases sps.property with h | h | h | h <;> omega

/-- `SAMPLES_DIR_R`. -/
def samplesDir : List Char := "/home/debian/Sensor-IOT/SensorIoT/muestras".toList

/-- The arguments of one call of `readAnalogInputsAndSaveData`, and what it reads. -/
structure Reading (F : Type) extends Stamp where
  /-- `dataX`, `dataY` and `dataZ`, as acquired. -/
  data : Axis → ℕ → F
  /-- The memory around the calls of `getSacFormatDate` in `createDirRtc`. -/
  memDir : Axis → DateMem
  /-- The memory around the call of `getSacFormatDate` in `createEventFile`. -/
  memEvent : Axis → DateMem
  /-- The memory around the calls of `getSeconds` on a sample. -/
  memStart : Axis → ℕ → SecondsMem
  memStop : Axis → ℕ → SecondsMem

/-- The globals the function works on. -/
structure Recorder (F : Type) where
  sps : SamplesPerSecond
  dt : F
  flagEvent : Bool
  params : Params F
  /-- `currentDirectoryX`, `currentDirectoryY` and `currentDirectoryZ`. -/
  currentDirectory : Axis → Path
  strFullDate : FullDate
  strDepValues : DepValues F
  /-- `eventX`, `eventY` and `eventZ`. -/
  event : Axis → EventData F

variable {F : Type} [FloatArith F]

/-! ## The continuous files -/

/-- The name of the continuous file of an axis for the date and the hour of a stamp, up to the
terminator that a short stamp may put in it. -/
def samplePath (date time : CBuf) (axis : Axis) : Path :=
  cstr (samplesDir ++ '/' :: cstr date ++ '/' :: cstr date ++ '_' ::
    charAt time 0 :: charAt time 1 :: '_' :: axis.name ++ ".sac".toList)

/-- The test for a new hour: a stamp of exactly HH0000. -/
def isNewHour (time : CBuf) : Bool :=
  charAt time 2 == '0' && charAt time 3 == '0' && charAt time 4 == '0' && charAt time 5 == '0'

omit [FloatArith F] in
/-- What the two branches of `createDirRtc` that open a file have in common. -/
def openFile (r : Recorder F) (axis : Axis) (b : Reading F) : Recorder F × List (SacCall F) :=
  let dir := samplePath b.date b.time axis
  ({ r with
      currentDirectory := Function.update r.currentDirectory axis dir
      strFullDate := getSacFormatDate (b.memDir axis) b.date b.time b.isGPS
      strDepValues := { r.strDepValues with npts := 0, dt := r.dt, dataNumber := r.sps.val } },
    [.createFile dir])

omit [FloatArith F] in
/-- `createDirRtc`: open a file on the first block of a process, and on every new hour. -/
def createDirRtc (r : Recorder F) (axis : Axis) (b : Reading F) :
    Recorder F × List (SacCall F) :=
  if r.currentDirectory axis = [] then openFile r axis b
  else if isNewHour b.time = true then openFile r axis b
  else (r, [])

omit [FloatArith F] in
/-- The three calls of `createDirRtc`. -/
def createDirs (r : Recorder F) (b : Reading F) : Recorder F × List (SacCall F) :=
  let x := createDirRtc r .x b
  let y := createDirRtc x.1 .y b
  let z := createDirRtc y.1 .z b
  (z.1, x.2 ++ y.2 ++ z.2)

/-! ## The samples -/

/-- `subMuestreo_xxx`: every `factor`-th sample, into a zero-initialised array. -/
def subMuestreo (currentData : ℕ → F) (factor : ℕ) (i : ℕ) : F :=
  if i < maxSPS / factor then currentData (i * factor) else 0

/-- The samples of an axis that are processed and stored. -/
def Recorder.samples (r : Recorder F) (b : Reading F) (axis : Axis) : ℕ → F :=
  let factor := maxSPS / r.sps.val
  if factor ≠ 1 then subMuestreo (b.data axis) factor else b.data axis

/-- What `sta_lta` is given of the block. -/
def Recorder.toBlock (r : Recorder F) (b : Reading F) (axis : Axis) : Block F where
  samples := r.samples b axis
  date := b.date
  time := b.time
  isGPS := b.isGPS
  memStart := b.memStart axis
  memStop := b.memStop axis

/-! ## Events -/

/-- `sta_lta` on one axis, and `createEventFile` if that leaves an event complete.  The source runs
`sta_lta` on all three axes before it saves any event; the axes share no state. -/
def Recorder.detect (r : Recorder F) (b : Reading F) (axis : Axis) :
    EventData F × List (SacCall F) :=
  savePending r.sps.val r.dt r.params (b.memEvent axis)
    (staLta r.params axis.name (r.event axis) (r.toBlock b axis))

/-- The part of the function that is run with `-v`. -/
def Recorder.detectAll (r : Recorder F) (b : Reading F) : Recorder F × List (SacCall F) :=
  if r.flagEvent = true then
    ({ r with event := fun axis => (r.detect b axis).1 },
      Axis.all.flatMap fun axis => (r.detect b axis).2)
  else (r, [])

/-! ## The function -/

/-- The call of `writeSac` for one axis. -/
def writeAxis (r : Recorder F) (b : Reading F) (axis : Axis) : Recorder F × List (SacCall F) :=
  let w := writeSac r.strFullDate r.strDepValues r.strDepValues.npts r.strDepValues.dataNumber
    (r.samples b axis) r.strDepValues.dt axis.name (r.currentDirectory axis)
  ({ r with strDepValues := w.1 }, [w.2])

/-- The end of the function: count the samples and append them to the three files. -/
def writeAll (r : Recorder F) (b : Reading F) : Recorder F × List (SacCall F) :=
  let v := r.strDepValues
  let r := { r with strDepValues := { v with npts := v.npts + v.dataNumber } }
  let x := writeAxis r b .x
  let y := writeAxis x.1 b .y
  let z := writeAxis y.1 b .z
  (z.1, x.2 ++ y.2 ++ z.2)

/-- `readAnalogInputsAndSaveData`. -/
def readAnalogInputsAndSaveData (r : Recorder F) (b : Reading F) :
    Recorder F × List (SacCall F) :=
  let d := createDirs r b
  let e := d.1.detectAll b
  let w := writeAll e.1 b
  (w.1, d.2 ++ e.2 ++ w.2)

/-! ## Runs -/

/-- What happens to the program: a block, or a restart.  The globals of the new process are what
its options make them; the names of the files are always empty. -/
inductive Input (F : Type) where
  | block (b : Reading F)
  | restart (globals : Recorder F)

omit [FloatArith F] in
/-- A process that has not opened any file. -/
def Recorder.fresh (globals : Recorder F) : Recorder F :=
  { globals with currentDirectory := fun _ => [] }

/-- The program on one input. -/
def record (r : Recorder F) : Input F → Recorder F × List (SacCall F)
  | .block b => readAnalogInputsAndSaveData r b
  | .restart globals => (globals.fresh, [])

/-- The state after the first `n` inputs. -/
def recorder (globals : Recorder F) (inputs : ℕ → Input F) : ℕ → Recorder F :=
  Emitter.state record globals.fresh inputs

/-- The calls on the first `n` inputs. -/
def calls (globals : Recorder F) (inputs : ℕ → Input F) : ℕ → List (SacCall F) :=
  Emitter.trace record globals.fresh inputs

/-! ## A small instance -/

/-- The globals of a process run with `-f 40` and without `-v`, before its first block. -/
def continuous40 : Recorder ℚ where
  sps := ⟨40, .inl rfl⟩
  dt := 1 / 40
  flagEvent := false
  params := tinyParams 1 1 0
  currentDirectory := fun _ => []
  strFullDate := ⟨0, 0, 0, 0, 0, 0, 0⟩
  strDepValues := ⟨0, 0, 0, 0, 0, 0⟩
  event := fun _ => EventData.init

/-- A block of zeros with a stamp of the RTC. -/
def Reading.silent (date time : String) : Reading ℚ where
  date := date.toList
  time := time.toList
  isGPS := false
  data := fun _ _ => 0
  memDir := fun _ => ⟨[], [], [], [], [], [], []⟩
  memEvent := fun _ => ⟨[], [], [], [], [], [], []⟩
  memStart := fun _ _ => ⟨[], [], []⟩
  memStop := fun _ _ => ⟨[], [], []⟩

end SensorIoT
