import SensorIoT.Recorder.Calls
import SensorIoT.StaLta.Run

/-!
# The detectors in the program

The runs of one axis in `SensorIoT.StaLta.Run` are what happens to `eventX`, `eventY` and `eventZ`
while the program records: three detectors on the same stamps, each fed the samples of its axis and
emptied when an event is complete.  So what is proved of `axisRun` is so of the program with `-v`
(`recorder_event`).
-/

set_option autoImplicit false

namespace SensorIoT

variable {F : Type} [FloatArith F]

/-- A block with `-v` takes each axis from one block boundary to the next, and leaves the settings
of the program alone. -/
theorem readAnalogInputsAndSaveData_fst {r : Recorder F} (hflag : r.flagEvent = true)
    (hfreq : r.params.freq = r.sps.val) (b : Reading F) :
    ∃ dir date v, (readAnalogInputsAndSaveData r b).1
      = { r with
          currentDirectory := dir
          strFullDate := date
          strDepValues := v
          event := fun axis =>
            afterBlock r.params
              (staLta r.params axis.name (r.event axis) (r.toBlock b axis)) } := by
  obtain ⟨dir, date, v, hdirs⟩ := createDirs_fst r b
  obtain ⟨⟨v', hw, -, -⟩, -⟩ := writeAll_eq ((createDirs r b).1.detectAll b).1 b
  refine ⟨dir, date, v', ?_⟩
  rw [readAnalogInputsAndSaveData]
  refine hw.trans ?_
  simp only [hdirs, Recorder.detectAll, hflag, if_true, Recorder.detect, ← hfreq, savePending_fst]
  rfl

/-- The state `r` after `n` blocks: the settings are those of the start, and the detectors have run
on the blocks. -/
def RunsDetectors (globals : Recorder F) (bs : ℕ → Reading F) (n : ℕ) (r : Recorder F) : Prop :=
  ∃ dir date v, r
    = { globals with
        currentDirectory := dir
        strFullDate := date
        strDepValues := v
        event := fun axis =>
          axisRun globals.params axis.name (fun i => globals.toBlock (bs i) axis) n }

theorem RunsDetectors.block {globals r : Recorder F} {bs : ℕ → Reading F} {n : ℕ}
    (h : RunsDetectors globals bs n r) (hflag : globals.flagEvent = true)
    (hfreq : globals.params.freq = globals.sps.val) :
    RunsDetectors globals bs (n + 1) (readAnalogInputsAndSaveData r (bs n)).1 := by
  obtain ⟨dir, date, v, hr⟩ := h
  obtain ⟨dir', date', v', hblock⟩ := readAnalogInputsAndSaveData_fst (r := r)
    (by rw [hr]; exact hflag) (by rw [hr]; exact hfreq) (bs n)
  refine ⟨dir', date', v', hblock.trans ?_⟩
  simp only [hr, axisRun_succ]
  rfl

/-- **The program with `-v` runs a detector on each axis**, until it is started anew. -/
theorem runsDetectors (globals : Recorder F) (hflag : globals.flagEvent = true)
    (hfreq : globals.params.freq = globals.sps.val) (hevent : globals.event = fun _ => .init)
    (bs : ℕ → Reading F) (n : ℕ) :
    RunsDetectors globals bs n (recorder globals (fun i => .block (bs i)) n) := by
  have hinit : RunsDetectors globals bs 0 globals.fresh :=
    ⟨fun _ => [], globals.strFullDate, globals.strDepValues, by
      rw [Recorder.fresh, hevent]; rfl⟩
  refine Emitter.invariant (fun n r _ => RunsDetectors globals bs n r) hinit ?_ n
  exact fun n r _ h => h.block hflag hfreq

theorem recorder_event (globals : Recorder F) (hflag : globals.flagEvent = true)
    (hfreq : globals.params.freq = globals.sps.val) (hevent : globals.event = fun _ => .init)
    (bs : ℕ → Reading F) (n : ℕ) (axis : Axis) :
    (recorder globals (fun i => .block (bs i)) n).event axis
      = axisRun globals.params axis.name (fun i => globals.toBlock (bs i) axis) n := by
  obtain ⟨dir, date, v, hr⟩ := runsDetectors globals hflag hfreq hevent bs n
  rw [hr]

/-- The states around the samples, at the start of a block, are the states of the program. -/
theorem recorder_before (globals : Recorder F) (hflag : globals.flagEvent = true)
    (hfreq : globals.params.freq = globals.sps.val) (hevent : globals.event = fun _ => .init)
    (bs : ℕ → Reading F) (n : ℕ) (axis : Axis) :
    (recorder globals (fun i => .block (bs i)) n).event axis
      = before globals.params axis.name (fun i => globals.toBlock (bs i) axis)
          (n * globals.params.freq) := by
  have hpos : 0 < globals.params.freq := hfreq ▸ globals.sps.pos
  rw [recorder_event globals hflag hfreq hevent, before_boundary hpos]

end SensorIoT
