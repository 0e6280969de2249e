import Mathlib.Data.List.Nodup
import SensorIoT.Recorder.Appending
import SensorIoT.Recorder.Readback

/-!
# The archive

What the program is for: the samples of an axis, all of them and in order, in files by the hour.
The continuous files of an axis are read back one after the other, in the order in which they were
opened, and their samples put together.

**`archive_complete`**: if no file is opened twice, and every file is opened with a stamp that has
an hour, a reader gets exactly the samples that were recorded since the first block, block after
block, across all hours and restarts.  What happens to a file that is opened twice is the subject of
`SensorIoT.Recorder.Appending`.
-/

set_option autoImplicit false

namespace SensorIoT

variable {F : Type} [FloatArith F]

/-- The continuous files of an axis, in the order in which they are opened. -/
def openedFiles (globals : Recorder F) (inputs : ℕ → Input F) (axis : Axis) : ℕ → List Path
  | 0 => []
  | n + 1 => openedFiles globals inputs axis n ++ match inputs n with
    | .block b =>
      if (recorder globals inputs n).Opens b then [samplePath b.date b.time axis] else []
    | .restart _ => []

/-- The samples of an axis, block after block. -/
def recordedSamples (globals : Recorder F) (inputs : ℕ → Input F) (axis : Axis) : ℕ → List F
  | 0 => []
  | n + 1 => recordedSamples globals inputs axis n ++ match inputs n with
    | .block b => (List.range (recorder globals inputs n).sps.val).map
      ((recorder globals inputs n).samples b axis)
    | .restart _ => []

/-! ## The samples of a block -/

section Block

variable {r : Recorder F} {calls : List (SacCall F)} {b : Reading F}

/-- The file of an axis gets the samples of that axis. -/
theorem samplesOf_block_self (hr : RecorderInv r calls) {date time : CBuf} (hhour : HasHour time)
    (hdir : (createDirs r b).1.currentDirectory = samplePath date time) (axis : Axis) :
    samplesOf (samplePath date time axis) (calls ++ (readAnalogInputsAndSaveData r b).2)
      = samplesOf (samplePath date time axis) (calls ++ (createDirs r b).2)
        ++ (List.range r.sps.val).map (r.samples b axis) := by
  have hne : ∀ other, axis ≠ other → samplePath date time other ≠ samplePath date time axis :=
    fun other hother => (samplePath_ne hother (isSac_samplePath_iff.mpr hhour)).symm
  have hfilter : (Axis.all.filter fun other =>
      (createDirs r b).1.currentDirectory other = samplePath date time axis) = [axis] := by
    rw [hdir]
    cases axis
    case x => simp [Axis.all, hne .y, hne .z]
    case y => simp [Axis.all, hne .x, hne .z]
    case z => simp [Axis.all, hne .x, hne .y]
  rw [samplesOf_block_eq hr (isSample_samplePath date time axis), hfilter, List.flatMap_singleton]

/-- Other files of the axis get none. -/
theorem samplesOf_block_other (hr : RecorderInv r calls) {date time date' time' : CBuf}
    {axis : Axis} (hhour : HasHour time')
    (hdir : (createDirs r b).1.currentDirectory = samplePath date time)
    (hne : samplePath date time axis ≠ samplePath date' time' axis) :
    samplesOf (samplePath date' time' axis) (calls ++ (readAnalogInputsAndSaveData r b).2)
      = samplesOf (samplePath date' time' axis) (calls ++ (createDirs r b).2) := by
  have hfilter : (Axis.all.filter fun other =>
      (createDirs r b).1.currentDirectory other = samplePath date' time' axis) = [] := by
    refine List.filter_eq_nil_iff.mpr fun other _ => ?_
    rw [hdir, decide_eq_true_eq]
    by_cases hother : axis = other
    · subst hother
      exact hne
    · exact samplePath_axis_ne hother (isSac_samplePath_iff.mpr hhour)
  rw [samplesOf_block_eq hr (isSample_samplePath date' time' axis), hfilter, List.flatMap_nil,
    List.append_nil]

end Block

/-! ## Runs -/

/-- The files opened so far are different files, and together they hold what was recorded. -/
structure ArchiveInv (inputs : ℕ → Input F) (axis : Axis) (n : ℕ) (opened : List Path)
    (recorded : List F) (r : Recorder F) (calls : List (SacCall F)) : Prop where
  current : r.currentDirectory axis ≠ [] → opened.getLast? = some (r.currentDirectory axis)
  named : ∀ name ∈ opened, ∃ i < n, ∃ b, OpensAt inputs i b ∧ samplePath b.date b.time axis = name
  nodup : opened.Nodup
  samples : (opened.flatMap fun name => samplesOf name calls) = recorded

section Step

variable {inputs : ℕ → Input F} {axis : Axis} {n : ℕ} {opened : List Path} {recorded : List F}
  {r : Recorder F} {calls : List (SacCall F)} {b : Reading F}

/-- A block that opens a file begins it with its samples. -/
theorem ArchiveInv.opens (h : ArchiveInv inputs axis n opened recorded r calls)
    (hr : RecorderInv r calls) (hn : OpensAt inputs n b) (ho : r.Opens b)
    (hno : NoReopen inputs (n + 1)) (hhours : HoursKnown inputs (n + 1)) :
    ArchiveInv inputs axis (n + 1) (opened ++ [samplePath b.date b.time axis])
      (recorded ++ (List.range r.sps.val).map (r.samples b axis))
      (readAnalogInputsAndSaveData r b).1 (calls ++ (readAnalogInputsAndSaveData r b).2) := by
  have hdirs := createDirs_of_opens hr.named ho
  have hdir : (createDirs r b).1.currentDirectory = samplePath b.date b.time := by
    rw [hdirs]
    rfl
  have hhour : HasHour b.time := hhours n (Nat.lt_succ_self n) b hn
  have hnew : ∀ name ∈ opened, ∀ other, samplePath b.date b.time other ≠ name := by
    intro name hname other heq
    obtain ⟨i, hi, c, hc, hpath⟩ := h.named name hname
    exact hno i n hi (Nat.lt_succ_self n) c b hc hn axis other (hpath.trans heq.symm)
  constructor
  case current =>
    intro _
    rw [List.getLast?_concat, (readAnalogInputsAndSaveData_eq r b).1, hdir]
  case named =>
    intro name hname
    rcases List.mem_append.mp hname with hold | hname
    · obtain ⟨i, hi, c, hc⟩ := h.named name hold
      exact ⟨i, Nat.lt_succ_of_lt hi, c, hc⟩
    · exact ⟨n, Nat.lt_succ_self n, b, hn, (List.mem_singleton.mp hname).symm⟩
  case nodup =>
    refine h.nodup.append (List.nodup_singleton _) fun name hname hmem => ?_
    exact hnew name hname axis (List.mem_singleton.mp hmem).symm
  case samples =>
    have hold : ∀ name ∈ opened, samplesOf name (calls ++ (readAnalogInputsAndSaveData r b).2)
        = samplesOf name calls := by
      intro name hname
      obtain ⟨i, hi, c, hc, rfl⟩ := h.named name hname
      rw [samplesOf_block_other hr (hhours i (Nat.lt_succ_of_lt hi) c hc) hdir
        (hnew _ hname axis), hdirs, samplesOf_createFiles, if_neg]
      rintro ⟨other, -, hother⟩
      exact hnew _ hname other hother
    have hempty : samplesOf (samplePath b.date b.time axis) (calls ++ (createDirs r b).2) = [] := by
      rw [hdirs, samplesOf_createFiles, if_pos ⟨axis, by cases axis <;> simp [Axis.all], rfl⟩]
    rw [List.flatMap_append, List.flatMap_congr hold, h.samples, List.flatMap_singleton,
      samplesOf_block_self hr hhour hdir, hempty, List.nil_append]

/-- Any other block goes on with the file that was opened last. -/
theorem ArchiveInv.continues (h : ArchiveInv inputs axis n opened recorded r calls)
    (hr : RecorderInv r calls) (ho : ¬ r.Opens b) (hhours : HoursKnown inputs n) :
    ArchiveInv inputs axis (n + 1) opened
      (recorded ++ (List.range r.sps.val).map (r.samples b axis))
      (readAnalogInputsAndSaveData r b).1 (calls ++ (readAnalogInputsAndSaveData r b).2) := by
  have hdirs := createDirs_of_not_opens hr.named ho
  obtain ⟨date, time, hpath⟩ := hr.named.resolve_left fun hnil => ho (.inl (hnil .x))
  have hdir : (createDirs r b).1.currentDirectory = samplePath date time := by
    rw [hdirs]
    exact funext hpath
  have hlast := h.current (hr.named.ne_nil ho axis)
  rw [hpath] at hlast
  obtain ⟨init, rfl⟩ : ∃ init, opened = init ++ [samplePath date time axis] :=
    List.getLast?_eq_some_iff.mp hlast
  have hhour : HasHour time := by
    obtain ⟨i, hi, c, hc, hc'⟩ := h.named (samplePath date time axis) (by simp)
    have hsac : IsSac (samplePath c.date c.time axis) :=
      isSac_samplePath_iff.mpr (hhours i hi c hc)
    rw [hc'] at hsac
    exact isSac_samplePath_iff.mp hsac
  constructor
  case current =>
    intro _
    rw [(readAnalogInputsAndSaveData_eq r b).1, hdir, List.getLast?_concat]
  case named =>
    intro name hname
    obtain ⟨i, hi, c, hc⟩ := h.named name hname
    exact ⟨i, Nat.lt_succ_of_lt hi, c, hc⟩
  case nodup => exact h.nodup
  case samples =>
    have hold : ∀ name ∈ init, samplesOf name (calls ++ (readAnalogInputsAndSaveData r b).2)
        = samplesOf name calls := by
      intro name hname
      have hnot : samplePath date time axis ≠ name := by
        rintro rfl
        exact (List.nodup_append.mp h.nodup).2.2 _ hname _ (List.mem_singleton.mpr rfl) rfl
      obtain ⟨i, hi, c, hc, rfl⟩ := h.named name (List.mem_append_left _ hname)
      rw [samplesOf_block_other hr (hhours i hi c hc) hdir hnot, hdirs, List.append_nil]
    have hsamples := h.samples
    rw [List.flatMap_append, List.flatMap_singleton] at hsamples ⊢
    rw [List.flatMap_congr hold, samplesOf_block_self hr hhour hdir, hdirs, List.append_nil,
      ← List.append_assoc, hsamples]

end Step

/-- **The files hold everything that was recorded**, block after block. -/
theorem archiveInv (globals : Recorder F) (inputs : ℕ → Input F) (axis : Axis) (n : ℕ)
    (hno : NoReopen inputs n) (hhours : HoursKnown inputs n) :
    ArchiveInv inputs axis n (openedFiles globals inputs axis n)
      (recordedSamples globals inputs axis n) (recorder globals inputs n)
      (calls globals inputs n) := by
  induction n with
  | zero =>
    exact ⟨fun hne => absurd rfl hne, fun _ hname => absurd hname List.not_mem_nil,
      List.nodup_nil, rfl⟩
  | succ n ih =>
    have hhours' : HoursKnown inputs n := fun i hi => hhours i (Nat.lt_succ_of_lt hi)
    have ih := ih (noReopen_succ.mp hno).1 hhours'
    have hr := recorderInv globals inputs n
    have hstate : recorder globals inputs (n + 1)
        = (record (recorder globals inputs n) (inputs n)).1 := rfl
    have hcalls : calls globals inputs (n + 1)
        = calls globals inputs n ++ (record (recorder globals inputs n) (inputs n)).2 := rfl
    rw [hstate, hcalls, openedFiles, recordedSamples]
    cases hn : inputs n with
    | restart globals' =>
      simp only [record, List.append_nil]
      refine ⟨fun hne => absurd rfl hne, fun name hname => ?_, ih.nodup, ih.samples⟩
      obtain ⟨i, hi, c, hc⟩ := ih.named name hname
      exact ⟨i, Nat.lt_succ_of_lt hi, c, hc⟩
    | block b =>
      simp only [record]
      by_cases ho : (recorder globals inputs n).Opens b
      · rw [if_pos ho]
        exact ih.opens hr (((appendInv globals inputs n).opens_iff hn).mp ho) ho hno hhours
      · rw [if_neg ho, List.append_nil]
        exact ih.continues hr ho hhours'

omit [FloatArith F] in
/-- A file that has samples has been written. -/
theorem headerOf_of_samples {calls : List (SacCall F)} (h : CreatedFirst calls) {name : Path}
    (hne : samplesOf name calls ≠ []) : ∃ hdr, headerOf name calls = some hdr := by
  refine Option.ne_none_iff_exists'.mp fun hnone => hne ?_
  exact (headOf_op_of_none h hnone).2.2

/-- **The archive is complete.**  If no file is opened twice, and the stamps that files are opened
with have an hour, the files of an axis can all be read, and what is read, in the order in which
they were opened, is what was recorded. -/
theorem archive_complete [FloatMem F] (globals : Recorder F) (inputs : ℕ → Input F) (axis : Axis)
    (n : ℕ) (hno : NoReopen inputs n) (hhours : HoursKnown inputs n) (old : SacMem F) (LN : ℤ)
    (hLN : LN < 2 ^ 31) (hroom : ∀ name ∈ openedFiles globals inputs axis n,
      (samplesOf name (calls globals inputs n)).length ≤ LN)
    (alloc : ℕ → Bool) (halloc : ∀ k ≤ LN.toNat, alloc k = true) :
    let read name := brsac alloc old (onDisk (filesAfter (calls globals inputs n))) LN name
    (∀ name ∈ openedFiles globals inputs axis n, (read name).nerr = 0) ∧
      ((openedFiles globals inputs axis n).flatMap fun name => (read name).data.getD [])
        = recordedSamples globals inputs axis n := by
  intro read
  have hinv := archiveInv globals inputs axis n hno hhours
  have hcreated := createdFirst_of_ok (recorderInv globals inputs n).lawful
  have hread : ∀ name ∈ openedFiles globals inputs axis n,
      (read name).nerr = 0 ∧ (read name).data = some (samplesOf name (calls globals inputs n)) := by
    intro name hname
    have hlen := hroom name hname
    obtain ⟨i, hi, b, hb, rfl⟩ := hinv.named name hname
    obtain ⟨hdr, hhdr⟩ := headerOf_of_samples hcreated
      ((appendInv globals inputs n).opened i hi b hb axis)
    have hall : (samplesOf (samplePath b.date b.time axis) (calls globals inputs n)).take LN.toNat
        = samplesOf (samplePath b.date b.time axis) (calls globals inputs n) :=
      List.take_of_length_le (by omega)
    have hwritten := brsac_written (List.prefix_refl _)
      (isSac_samplePath_iff.mpr (hhours i hi b hb)) old (show 0 ≤ LN by omega) (by omega)
      (by rw [hall]; exact halloc _ (by omega)) hhdr
    have hread : read (samplePath b.date b.time axis) = _ := hwritten
    rw [hread, hall, if_neg (by omega)]
    exact ⟨rfl, rfl⟩
  refine ⟨fun name hname => (hread name hname).1, ?_⟩
  rw [← hinv.samples]
  exact List.flatMap_congr fun name hname => by rw [(hread name hname).2, Option.getD_some]

end SensorIoT
