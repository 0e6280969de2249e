import SensorIoT.Recorder.Headers

/-!
# What the server is told

`readAnalogInputsAndSaveData` once more, with the messages it sends.  The server uploads the files
that it is told of, so a file should be announced when it is complete and not before
(`SensorIoT.Recorder.Finished`), and it should be announced at all (`SensorIoT.Recorder.Uploads`).

An `Effect` is a call that changes a file, or a message.  Without the messages the effects are the
calls of `SensorIoT.Recorder.Defs` (`effects_files`).
-/

set_option autoImplicit false

namespace SensorIoT

/-! ## Messages -/

/-- The kinds of messages, `process` in the source. -/
inductive Process
  | alertsError
  | putLocationGps
  | putRtcDatehour
  | uploadFiles
  deriving DecidableEq

/-- What a message is about. -/
inductive Component
  | gps
  | rtc
  | adc
  | event
  deriving DecidableEq

/-- `ALERTS_ERROR`, `PUT_LOCATION`, `PUT_RTC_DATE` and `UPLOAD_FILES`. -/
def Process.text : Process → String
  | .alertsError => "ALERTS_ERROR"
  | .putLocationGps => "PUT_LOCATION_GPS"
  | .putRtcDatehour => "PUT_RTC_DATEHOUR"
  | .uploadFiles => "UPLOAD_FILES"

/-- `GPS`, `RTC`, `ADC` and `EVENT`. -/
def Component.text : Component → String
  | .gps => "GPS"
  | .rtc => "RTC"
  | .adc => "ADC"
  | .event => "EVENT"

/-- A message to the server. -/
inductive Message (F : Type) where
  /-- `sendMsg`. -/
  | msg (process : Process) (component : Component) (msg : List Char) (last : Bool)
  /-- `sendSamples`: the first two samples of each axis. -/
  | samples (x y z : F × F)

/-- What the program does that can be seen from outside. -/
inductive Effect (F : Type) where
  | file (c : SacCall F)
  | message (m : Message F)

/-- `sendMsg(UPLOAD_FILES, component, dir, 1)`. -/
def uploadFiles {F : Type} (component : Component) (dir : Path) : Effect F :=
  .message (.msg .uploadFiles component dir true)

/-- The call of an effect. -/
def Effect.file? {F : Type} : Effect F → Option (SacCall F)
  | .file c => some c
  | .message _ => none

/-- The file that is announced. -/
def Effect.upload? {F : Type} : Effect F → Option (Component × Path)
  | .message (.msg .uploadFiles component dir _) => some (component, dir)
  | _ => none

/-- The calls among the effects. -/
def files {F : Type} (es : List (Effect F)) : List (SacCall F) := es.filterMap Effect.file?

variable {F : Type} [FloatArith F]

/-! ## The function -/

omit [FloatArith F] in
/-- `createDirRtc`.  With `last`, the file that is closed is announced. -/
def createDirRtcSending (r : Recorder F) (axis : Axis) (b : Reading F) (last : Bool) :
    Recorder F × List (Effect F) :=
  if r.currentDirectory axis = [] then
    ((openFile r axis b).1, (openFile r axis b).2.map .file)
  else if isNewHour b.time = true then
    ((openFile r axis b).1,
      (if last = true then [uploadFiles .adc (r.currentDirectory axis)] else [])
        ++ (openFile r axis b).2.map .file)
  else (r, [])

omit [FloatArith F] in
/-- The three calls of `createDirRtc`. -/
def createDirsSending (r : Recorder F) (b : Reading F) : Recorder F × List (Effect F) :=
  let x := createDirRtcSending r .x b false
  let y := createDirRtcSending x.1 .y b false
  let z := createDirRtcSending y.1 .z b true
  (z.1, x.2 ++ y.2 ++ z.2)

/-- `createEventFile`: the file is announced once it is written. -/
def createEventFileSending (sps : ℕ) (dt : F) (p : Params F) (mem : DateMem) (event : EventData F) :
    EventData F × List (Effect F) :=
  ((createEventFile sps dt p mem event).1,
    (createEventFile sps dt p mem event).2.map .file ++ [uploadFiles .event (eventPath event)])

/-- The detector on one axis. -/
def Recorder.detectSending (r : Recorder F) (b : Reading F) (axis : Axis) :
    EventData F × List (Effect F) :=
  let event := staLta r.params axis.name (r.event axis) (r.toBlock b axis)
  if event.isPendingSaveEvent = true then
    createEventFileSending r.sps.val r.dt r.params (b.memEvent axis) event
  else (event, [])

/-- The part of the function that is run with `-v`. -/
def Recorder.detectAllSending (r : Recorder F) (b : Reading F) : Recorder F × List (Effect F) :=
  if r.flagEvent = true then
    ({ r with event := fun axis => (r.detectSending b axis).1 },
      Axis.all.flatMap fun axis => (r.detectSending b axis).2)
  else (r, [])

/-- `sendSamples`. -/
def sendSamples (samples : Axis → ℕ → F) : Effect F :=
  .message (.samples (samples .x 0, samples .x 1) (samples .y 0, samples .y 1)
    (samples .z 0, samples .z 1))

/-- `readAnalogInputsAndSaveData`. -/
def readAnalogInputsAndSaveDataSending (r : Recorder F) (b : Reading F) :
    Recorder F × List (Effect F) :=
  let d := createDirsSending r b
  let e := d.1.detectAllSending b
  let w := writeAll e.1 b
  (w.1, d.2 ++ e.2 ++ w.2.map .file ++ [sendSamples (e.1.samples b)])

/-- The program on one input. -/
def recordSending (r : Recorder F) : Input F → Recorder F × List (Effect F)
  | .block b => readAnalogInputsAndSaveDataSending r b
  | .restart globals => (globals.fresh, [])

/-- What the program does on the first `n` inputs. -/
def effects (globals : Recorder F) (inputs : ℕ → Input F) : ℕ → List (Effect F) :=
  Emitter.trace recordSending globals.fresh inputs

/-! ## Without the messages -/

section Files

omit [FloatArith F]

@[simp] theorem files_nil : files ([] : List (Effect F)) = [] := rfl

@[simp] theorem files_append (es es' : List (Effect F)) :
    files (es ++ es') = files es ++ files es' :=
  List.filterMap_append

@[simp] theorem files_map (calls : List (SacCall F)) : files (calls.map .file) = calls := by
  rw [files, List.filterMap_map]
  exact List.filterMap_some

@[simp] theorem files_message (m : Message F) : files [.message m] = [] := rfl

@[simp] theorem files_uploadFiles (component : Component) (dir : Path) :
    files [(uploadFiles component dir : Effect F)] = [] :=
  rfl

theorem createDirRtcSending_files (r : Recorder F) (axis : Axis) (b : Reading F) (last : Bool) :
    (createDirRtcSending r axis b last).1 = (createDirRtc r axis b).1 ∧
      files (createDirRtcSending r axis b last).2 = (createDirRtc r axis b).2 := by
  rw [createDirRtcSending, createDirRtc]
  split
  · exact ⟨rfl, files_map _⟩
  · split
    · refine ⟨rfl, ?_⟩
      rw [files_append, files_map]
      split <;> rfl
    · exact ⟨rfl, rfl⟩

theorem createDirsSending_files (r : Recorder F) (b : Reading F) :
    (createDirsSending r b).1 = (createDirs r b).1 ∧
      files (createDirsSending r b).2 = (createDirs r b).2 := by
  simp only [createDirsSending, createDirs, files_append, (createDirRtcSending_files _ _ _ _).1,
    (createDirRtcSending_files _ _ _ _).2, true_and]

end Files

theorem detectSending_files (r : Recorder F) (b : Reading F) (axis : Axis) :
    (r.detectSending b axis).1 = (r.detect b axis).1 ∧
      files (r.detectSending b axis).2 = (r.detect b axis).2 := by
  rw [Recorder.detectSending, Recorder.detect, savePending]
  split
  · refine ⟨rfl, ?_⟩
    rw [createEventFileSending, files_append, files_map, files_uploadFiles, List.append_nil]
  · exact ⟨rfl, rfl⟩

theorem detectAllSending_files (r : Recorder F) (b : Reading F) :
    (r.detectAllSending b).1 = (r.detectAll b).1 ∧
      files (r.detectAllSending b).2 = (r.detectAll b).2 := by
  rw [Recorder.detectAllSending, Recorder.detectAll]
  split
  · simp only [(detectSending_files r b _).1, true_and]
    simp only [Axis.all, List.flatMap_cons, List.flatMap_nil, files_append, files_nil,
      (detectSending_files r b _).2]
  · exact ⟨rfl, rfl⟩

theorem recordSending_files (r : Recorder F) (i : Input F) :
    (recordSending r i).1 = (record r i).1 ∧ files (recordSending r i).2 = (record r i).2 := by
  cases i with
  | restart globals => exact ⟨rfl, rfl⟩
  | block b =>
    obtain ⟨hdirs, hdirsFiles⟩ := createDirsSending_files r b
    obtain ⟨hdetect, hdetectFiles⟩ := detectAllSending_files (createDirs r b).1 b
    rw [recordSending, record, readAnalogInputsAndSaveDataSending, readAnalogInputsAndSaveData]
    simp only [hdirs, hdetect, files_append, hdirsFiles, hdetectFiles, files_map, sendSamples,
      files_message, List.append_nil, and_self]

/-- **Without its messages, the program is the one of `SensorIoT.Recorder.Defs`.** -/
theorem effects_files (globals : Recorder F) (inputs : ℕ → Input F) (n : ℕ) :
    Emitter.state recordSending globals.fresh inputs n = recorder globals inputs n ∧
      files (effects globals inputs n) = calls globals inputs n :=
  Emitter.erase Effect.file? recordSending_files n

/-! ## The effects of a block -/

section Opening

omit [FloatArith F]

variable {r : Recorder F} {b : Reading F}

theorem createDirsSending_of_first (hr : ∀ axis, r.currentDirectory axis = []) :
    createDirsSending r b = (r.opened b, [.file (.createFile (samplePath b.date b.time .x)),
      .file (.createFile (samplePath b.date b.time .y)),
      .file (.createFile (samplePath b.date b.time .z))]) := by
  have hy : (openFile r .x b).1.currentDirectory .y = [] := hr .y
  have hz : (openFile (openFile r .x b).1 .y b).1.currentDirectory .z = [] := hr .z
  have hopens : r.Opens b := .inl (hr .x)
  have hfst : (createDirsSending r b).1 = r.opened b := by
    rw [(createDirsSending_files r b).1, createDirs_of_opens (.inl hr) hopens]
  refine Prod.ext hfst ?_
  simp only [createDirsSending, createDirRtcSending, if_pos (hr .x), if_pos hy, if_pos hz]
  rfl

theorem createDirsSending_of_isNewHour (hr : r.Named) (hne : r.currentDirectory .x ≠ [])
    (h : isNewHour b.time = true) :
    createDirsSending r b = (r.opened b, [.file (.createFile (samplePath b.date b.time .x)),
      .file (.createFile (samplePath b.date b.time .y)), uploadFiles .adc (r.currentDirectory .z),
      .file (.createFile (samplePath b.date b.time .z))]) := by
  have hopens : r.Opens b := .inr h
  have hall : ∀ axis, r.currentDirectory axis ≠ [] := fun axis => mt (hr.nil_iff axis .x).mp hne
  have hy : (openFile r .x b).1.currentDirectory .y ≠ [] := hall .y
  have hz : (openFile (openFile r .x b).1 .y b).1.currentDirectory .z ≠ [] := hall .z
  have hfst : (createDirsSending r b).1 = r.opened b := by
    rw [(createDirsSending_files r b).1, createDirs_of_opens hr hopens]
  refine Prod.ext hfst ?_
  simp only [createDirsSending, createDirRtcSending, if_neg (hall .x), if_neg hy, if_neg hz,
    if_pos h, if_true, Bool.false_eq_true, if_false]
  rfl

theorem createDirsSending_of_not_opens (hr : r.Named) (h : ¬ r.Opens b) :
    createDirsSending r b = (r, []) := by
  have hfst : (createDirsSending r b).1 = r := by
    rw [(createDirsSending_files r b).1, createDirs_of_not_opens hr h]
  have hhour : ¬ isNewHour b.time = true := fun hb => h (.inr hb)
  simp only [createDirsSending, createDirRtcSending, if_neg (hr.ne_nil h _), if_neg hhour]
  rfl

end Opening

end SensorIoT
