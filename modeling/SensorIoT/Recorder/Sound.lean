import SensorIoT.Recorder.Appending

/-!
# Which files are in order

The headers of `SensorIoT.Recorder.Headers` fit their files as long as the names keep the files
apart.  A stamp without an hour cuts the names of the three continuous files off at the same place,
so that the three axes are written to one file, one after the other, each with a header that counts
its own samples only.  An event file has a counter and a name of its own, and is in order whatever
its name is.

**`soundFiles_iff`**: in a run with restarts at any point, all files are in order after every call
exactly when every block that opens files has an hour in its stamp.
-/

set_option autoImplicit false

namespace SensorIoT

/-! ## The names of a run -/

section Names

variable {F : Type} [FloatArith F]

/-- The continuous files of a run are those of the blocks that opened some. -/
theorem opensAt_of_mem (globals : Recorder F) (inputs : ℕ → Input F) (n : ℕ) :
    ∀ c ∈ calls globals inputs n, IsSample c.name →
      ∃ i < n, ∃ b, OpensAt inputs i b ∧ ∃ axis, samplePath b.date b.time axis = c.name := by
  induction n with
  | zero => exact fun c hc => absurd hc List.not_mem_nil
  | succ n ih =>
    intro c hc hname
    have hcalls : calls globals inputs (n + 1)
        = calls globals inputs n ++ (record (recorder globals inputs n) (inputs n)).2 := rfl
    rw [hcalls, List.mem_append] at hc
    rcases hc with hc | hc
    · obtain ⟨i, hi, b, hb⟩ := ih c hc hname
      exact ⟨i, Nat.lt_succ_of_lt hi, b, hb⟩
    have hinv := appendInv globals inputs n
    have hnamed := (recorderInv globals inputs n).named
    cases hn : inputs n with
    | restart globals' =>
      rw [hn] at hc
      cases hc
    | block b =>
      rw [hn, record] at hc
      obtain ⟨-, events, hdr, hblock, hevents⟩ :=
        readAnalogInputsAndSaveData_eq (recorder globals inputs n) b
      obtain ⟨i, hi, b', hb', hcur⟩ := hinv.current_createDirs hnamed hn
      rw [hblock, List.mem_append, List.mem_append] at hc
      rcases hc with (hc | hc) | hc
      · by_cases ho : (recorder globals inputs n).Opens b
        · rw [createDirs_of_opens hnamed ho] at hc
          obtain ⟨axis, -, rfl⟩ := List.mem_map.mp hc
          exact ⟨n, Nat.lt_succ_self n, b, (hinv.opens_iff hn).mp ho, axis, rfl⟩
        · rw [createDirs_of_not_opens hnamed ho] at hc
          cases hc
      · exact absurd rfl (hevents c hc c.name hname)
      · obtain ⟨axis, -, rfl⟩ := List.mem_map.mp hc
        exact ⟨i, hi, b', hb', axis, (congrFun hcur axis).symm⟩

end Names

/-! ## Soundness -/

/-- If the hours are known, all names are whole. -/
theorem soundFiles_of_hoursKnown {globals : Recorder ℚ} {inputs : ℕ → Input ℚ} {n : ℕ}
    (h : HoursKnown inputs n) : SoundFiles (calls globals inputs n) := by
  rintro pre ⟨post, hpre⟩ name hdr hhdr
  have hlawful : Emitter.Lawful SacCall.Ok pre := by
    have hall := (recorderInv globals inputs n).lawful
    rw [← hpre] at hall
    exact hall.of_append
  refine soundFile_of_ok hlawful (fun hname => ?_) hhdr
  obtain ⟨data, hmem⟩ := mem_of_headerOf hhdr
  obtain ⟨i, hi, b, hb, axis, hpath⟩ :=
    opensAt_of_mem globals inputs n (.writeSac name hdr data)
      (hpre ▸ List.mem_append_left post hmem) hname
  obtain rfl : samplePath b.date b.time axis = name := hpath
  exact isSac_samplePath_iff.mpr (h i hi b hb)

/-- The header that a block leaves in the file of the third axis counts the samples of one axis. -/
theorem headerOf_block (r : Recorder ℚ) (b : Reading ℚ) (before : List (SacCall ℚ)) :
    ∃ hdr, headerOf ((createDirs r b).1.currentDirectory .z)
        (before ++ (readAnalogInputsAndSaveData r b).2) = some hdr ∧
      hdr.npts = (createDirs r b).1.strDepValues.npts
        + (createDirs r b).1.strDepValues.dataNumber := by
  obtain ⟨event, he⟩ := detectAll_fst (createDirs r b).1 b
  obtain ⟨-, hdr, hhdr, hcalls⟩ := writeAll_eq ((createDirs r b).1.detectAll b).1 b
  refine ⟨hdr .z, ?_, ?_⟩
  · rw [readAnalogInputsAndSaveData, hcalls, ← List.append_assoc, append_three, headerOf_writeSac,
      if_pos (by rw [he])]
  · rw [(hhdr .z).1, he]

/-- **A block that opens files without an hour in its stamp** writes the samples of three axes under
such a header. -/
theorem not_soundFile_block {r : Recorder ℚ} {calls : List (SacCall ℚ)} {b : Reading ℚ}
    (hr : RecorderInv r calls) (ho : r.Opens b) (hhour : ¬ HasHour b.time) :
    ∃ name hdr, headerOf name (calls ++ (readAnalogInputsAndSaveData r b).2) = some hdr ∧
      ¬ SoundFile (calls ++ (readAnalogInputsAndSaveData r b).2) name hdr := by
  obtain ⟨hdr, hheader, hnpts⟩ := headerOf_block r b calls
  refine ⟨_, hdr, hheader, fun hsound => ?_⟩
  have hcur : (createDirs r b).1.currentDirectory = samplePath b.date b.time := by
    rw [createDirs_of_opens hr.named ho]
    rfl
  have hcount : (createDirs r b).1.strDepValues.npts = 0
      ∧ (createDirs r b).1.strDepValues.dataNumber = r.sps.val := by
    rw [createDirs_of_opens hr.named ho]
    exact ⟨rfl, rfl⟩
  have hsame : ∀ axis, samplePath b.date b.time axis = samplePath b.date b.time .z :=
    samplePath_of_not_isSac (mt isSac_samplePath_iff.mp hhour)
  have hempty : samplesOf (samplePath b.date b.time .z) (calls ++ (createDirs r b).2) = [] := by
    rw [createDirs_of_opens hr.named ho, samplesOf_createFiles,
      if_pos ⟨.z, by simp [Axis.all], rfl⟩]
  have hsamples := samplesOf_block_eq (b := b) hr (isSample_samplePath b.date b.time .z)
  simp only [hcur, hsame, decide_true, List.filter_true, hempty, List.nil_append] at hsamples
  have hlen := hsound.npts
  rw [hcur, hsamples, hnpts, hcount.1, hcount.2] at hlen
  have hpos := r.sps.pos
  simp [Axis.all] at hlen
  omega

/-- Files that are all in order were all opened with an hour. -/
theorem hoursKnown_of_soundFiles {globals : Recorder ℚ} {inputs : ℕ → Input ℚ} {n : ℕ}
    (hsound : SoundFiles (calls globals inputs n)) : HoursKnown inputs n := by
  intro i hi b hb
  by_contra hhour
  have ho := ((appendInv globals inputs i).opens_iff hb.1).mpr hb
  obtain ⟨name, hdr, hheader, hnot⟩ :=
    not_soundFile_block (recorderInv globals inputs i) ho hhour
  have hcalls : calls globals inputs i
      ++ (readAnalogInputsAndSaveData (recorder globals inputs i) b).2
        = calls globals inputs (i + 1) := by
    change _ = calls globals inputs i ++ (record (recorder globals inputs i) (inputs i)).2
    rw [hb.1, record]
  rw [hcalls] at hheader hnot
  exact hnot (hsound _ (Emitter.trace_prefix record globals.fresh inputs hi) name hdr hheader)

/-- **All files are in order after every call exactly when every block that opens files has an hour
in its stamp**, in every run, with restarts at any point. -/
theorem soundFiles_iff (globals : Recorder ℚ) (inputs : ℕ → Input ℚ) (n : ℕ) :
    SoundFiles (calls globals inputs n) ↔ HoursKnown inputs n :=
  ⟨hoursKnown_of_soundFiles, soundFiles_of_hoursKnown⟩

/-! ## A stamp without an hour -/

/-- Blocks stamped by a GPS that has delivered no sentence yet. -/
def unstampedBlocks (_ : ℕ) : Input ℚ := .block (.silent "" "")

/-- After the first of them, the one file of the three axes has 120 samples under a header that
announces 40. -/
theorem not_soundFiles_unstamped : ¬ SoundFiles (calls continuous40 unstampedBlocks 1) := by
  intro hsound
  have hopens : OpensAt unstampedBlocks 0 (.silent "" "") := ⟨rfl, .inl trivial⟩
  exact absurd (hoursKnown_of_soundFiles hsound 0 Nat.one_pos _ hopens) (by decide)

end SensorIoT
