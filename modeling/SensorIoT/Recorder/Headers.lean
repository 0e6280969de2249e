import SensorIoT.Recorder.Calls

/-!
# Headers that say what is in the file

A SAC file is a header and the samples it announces.  The program writes a file in pieces, and
before every piece it rewrites the header, so at every moment the file should be in order: one
header, as many samples as its field `NPTS` says, and the time of the last of them in its field `E`.

The three continuous files share one counter of samples, and an event file has one of its own that
its three writes bring up.  `RecorderInv` ties the shared counter to the files; the rest is that the
calls of a block keep it.
-/

set_option autoImplicit false

namespace SensorIoT

variable {F : Type} [FloatArith F]

/-- The state of the program and the calls that led to it. -/
structure RecorderInv (r : Recorder F) (calls : List (SacCall F)) : Prop where
  lawful : Emitter.Lawful SacCall.Ok calls
  named : r.Named
  created : ∀ axis, r.currentDirectory axis ≠ [] → IsCreated (r.currentDirectory axis) calls
  npts : ∀ axis, IsSac (r.currentDirectory axis) →
    r.strDepValues.npts = (samplesOf (r.currentDirectory axis) calls).length
  dataNumber : r.currentDirectory .x ≠ [] → r.strDepValues.dataNumber = r.sps.val

theorem recorderInv_fresh (globals : Recorder F) {calls : List (SacCall F)}
    (h : Emitter.Lawful SacCall.Ok calls) : RecorderInv globals.fresh calls := by
  exact ⟨h, .inl fun _ => rfl, fun _ hne => absurd rfl hne,
    fun _ hsac => absurd hsac not_isSac_nil, fun hne => absurd rfl hne⟩

omit [FloatArith F] in
/-- A list of three calls, one after the other. -/
theorem append_three (calls : List (SacCall F)) (f : Axis → SacCall F) :
    calls ++ Axis.all.map f = calls ++ [f .x] ++ [f .y] ++ [f .z] := by
  simp [Axis.all]

/-- Opening the files of a block: their counter starts at zero. -/
theorem RecorderInv.opened {r : Recorder F} {calls : List (SacCall F)} (h : RecorderInv r calls)
    (b : Reading F) :
    RecorderInv (r.opened b)
      (calls ++ Axis.all.map fun axis => .createFile (samplePath b.date b.time axis)) := by
  rw [append_three]
  constructor
  case lawful =>
    exact ((h.lawful.concat (ok_createFile _ _)).concat (ok_createFile _ _)).concat
      (ok_createFile _ _)
  case named => exact .inr ⟨b.date, b.time, fun _ => rfl⟩
  case created =>
    intro axis _
    cases axis <;> simp [IsCreated, Recorder.opened]
  case npts =>
    intro axis _
    have hnil : samplesOf (samplePath b.date b.time axis)
        (calls ++ [.createFile (samplePath b.date b.time .x)]
          ++ [.createFile (samplePath b.date b.time .y)]
          ++ [.createFile (samplePath b.date b.time .z)]) = [] := by
      cases axis <;> simp only [samplesOf_createFile, if_true, ite_self]
    simp only [Recorder.opened, hnil, List.length_nil, Nat.cast_zero]
  case dataNumber => exact fun _ => rfl

/-- The files of a block once they have been chosen. -/
theorem RecorderInv.createDirs {r : Recorder F} {calls : List (SacCall F)} (h : RecorderInv r calls)
    (b : Reading F) :
    RecorderInv (createDirs r b).1 (calls ++ (createDirs r b).2) ∧
      ∃ date time, ∀ axis,
        (createDirs r b).1.currentDirectory axis = samplePath date time axis := by
  by_cases ho : r.Opens b
  · rw [createDirs_of_opens h.named ho]
    exact ⟨h.opened b, b.date, b.time, fun _ => rfl⟩
  · rw [createDirs_of_not_opens h.named ho, List.append_nil]
    refine ⟨h, ?_⟩
    rcases h.named with hnil | hpath
    · exact absurd (.inl (hnil .x)) ho
    · exact hpath

/-- The counter of a block is the sampling rate. -/
theorem RecorderInv.dataNumber_createDirs {r : Recorder F} {calls : List (SacCall F)}
    (h : RecorderInv r calls) (b : Reading F) :
    (SensorIoT.createDirs r b).1.strDepValues.dataNumber = r.sps.val := by
  obtain ⟨hinv, date, time, hpath⟩ := h.createDirs b
  obtain ⟨dir, date', v, hdirs⟩ := createDirs_fst r b
  rw [hinv.dataNumber (hpath .x ▸ samplePath_ne_nil date time .x), hdirs]

/-- The detector's part of a block does not touch the continuous files. -/
theorem RecorderInv.detectAll {r : Recorder F} {calls : List (SacCall F)} (h : RecorderInv r calls)
    (b : Reading F) : RecorderInv (r.detectAll b).1 (calls ++ (r.detectAll b).2) := by
  obtain ⟨hlawful, hname⟩ := calls_detectAll r b
  obtain ⟨event, hr⟩ := detectAll_fst r b
  rw [hr]
  constructor
  case lawful => exact hlawful calls h.lawful
  case named => exact h.named
  case created => exact fun axis hne => List.mem_append_left _ (h.created axis hne)
  case npts =>
    intro axis hsac
    have hsame : samplesOf (r.currentDirectory axis) (calls ++ (r.detectAll b).2)
        = samplesOf (r.currentDirectory axis) calls := by
      refine samplesOf_append_of_ne fun c hc => hname c hc _ ?_
      rcases h.named with hnil | ⟨date, time, hpath⟩
      · exact absurd (hnil axis ▸ hsac) not_isSac_nil
      · rw [hpath]; exact isSample_samplePath date time axis
    exact (h.npts axis hsac).trans (by rw [← hsame])
  case dataNumber => exact h.dataNumber

/-- The end of a block appends the samples of an axis to its file. -/
theorem samplesOf_writeAll (r : Recorder F) (b : Reading F) (calls : List (SacCall F)) {axis : Axis}
    (hne : ∀ other, axis ≠ other → r.currentDirectory other ≠ r.currentDirectory axis) :
    samplesOf (r.currentDirectory axis) (calls ++ (writeAll r b).2)
      = samplesOf (r.currentDirectory axis) calls
        ++ (List.range r.strDepValues.dataNumber).map (r.samples b axis) := by
  obtain ⟨-, hdr, -, hcalls⟩ := writeAll_eq r b
  have hfilter : (Axis.all.filter fun other => r.currentDirectory other = r.currentDirectory axis)
      = [axis] := by
    cases axis
    case x => simp [Axis.all, hne .y, hne .z]
    case y => simp [Axis.all, hne .x, hne .z]
    case z => simp [Axis.all, hne .x, hne .y]
  rw [hcalls, samplesOf_writeSacs, hfilter, List.flatMap_singleton]

/-- The end of a block: all three files advance with their counter. -/
theorem RecorderInv.writeAll {r : Recorder F} {calls : List (SacCall F)} (h : RecorderInv r calls)
    (b : Reading F)
    (hnamed : ∃ date time, ∀ axis, r.currentDirectory axis = samplePath date time axis) :
    RecorderInv (writeAll r b).1 (calls ++ (writeAll r b).2) := by
  obtain ⟨⟨v, hr, hnpts, hnumber⟩, hdr, hhdr, hcalls⟩ := writeAll_eq r b
  obtain ⟨date, time, hpath⟩ := hnamed
  have hne : ∀ {axis}, IsSac (r.currentDirectory axis) → ∀ other, axis ≠ other →
      r.currentDirectory other ≠ r.currentDirectory axis := by
    intro axis hsac other hao
    rw [hpath] at hsac
    rw [hpath, hpath]
    exact (samplePath_ne hao hsac).symm
  have hcreated : ∀ axis, IsCreated (r.currentDirectory axis) calls :=
    fun axis => h.created axis (hpath axis ▸ samplePath_ne_nil date time axis)
  have hcount : ∀ axis, IsSac (r.currentDirectory axis) →
      r.strDepValues.npts + r.strDepValues.dataNumber
        = ((samplesOf (r.currentDirectory axis) calls).length
            + ((List.range r.strDepValues.dataNumber).map (r.samples b axis)).length : ℕ) := by
    intro axis hsac
    rw [h.npts axis hsac, List.length_map, List.length_range, Int.natCast_add]
  rw [hr]
  refine ⟨?lawful, h.named, ?created, ?npts, fun hne' => hnumber.trans (h.dataNumber hne')⟩
  case lawful =>
    rw [hcalls, append_three]
    have hsac : ∀ axis, IsWhole (r.currentDirectory axis) → IsSac (r.currentDirectory axis) :=
      fun axis hwhole => hwhole (hpath axis ▸ isSample_samplePath date time axis)
    refine ((h.lawful.concat ?_).concat ?_).concat ?_
    · refine ⟨hcreated .x, (hhdr .x).2, fun hwhole => ?_⟩
      rw [(hhdr .x).1, hcount .x (hsac .x hwhole)]
    · refine ⟨List.mem_append_left _ (hcreated .y), (hhdr .y).2, fun hwhole => ?_⟩
      have hsac := hsac .y hwhole
      rw [(hhdr .y).1, hcount .y hsac, samplesOf_writeSac, if_neg (hne hsac .x (by decide))]
    · refine ⟨List.mem_append_left _ (List.mem_append_left _ (hcreated .z)), (hhdr .z).2,
        fun hwhole => ?_⟩
      have hsac := hsac .z hwhole
      rw [(hhdr .z).1, hcount .z hsac, samplesOf_writeSac, if_neg (hne hsac .y (by decide)),
        samplesOf_writeSac, if_neg (hne hsac .x (by decide))]
  case created => exact fun axis _ => List.mem_append_left _ (hcreated axis)
  case npts =>
    intro axis hsac
    rw [samplesOf_writeAll r b calls (hne hsac), List.length_append]
    exact hnpts.trans (hcount axis hsac)

/-- **Every input keeps the counter and the files in step.** -/
theorem RecorderInv.record {r : Recorder F} {calls : List (SacCall F)} (h : RecorderInv r calls)
    (i : Input F) : RecorderInv (record r i).1 (calls ++ (record r i).2) := by
  cases i with
  | restart globals =>
    rw [SensorIoT.record, List.append_nil]
    exact recorderInv_fresh globals h.lawful
  | block b =>
    obtain ⟨hdirs, hnamed⟩ := h.createDirs b
    have hdetect := hdirs.detectAll b
    have hnamed' : ∃ date time, ∀ axis,
        ((SensorIoT.createDirs r b).1.detectAll b).1.currentDirectory axis
          = samplePath date time axis := by
      obtain ⟨event, hr⟩ := detectAll_fst (SensorIoT.createDirs r b).1 b
      rw [hr]
      exact hnamed
    have hwrite := hdetect.writeAll b hnamed'
    rw [SensorIoT.record, readAnalogInputsAndSaveData]
    simp only [List.append_assoc] at hwrite ⊢
    exact hwrite

theorem recorderInv (globals : Recorder F) (inputs : ℕ → Input F) (n : ℕ) :
    RecorderInv (recorder globals inputs n) (calls globals inputs n) :=
  Emitter.invariant (fun _ r calls => RecorderInv r calls)
    (recorderInv_fresh globals Emitter.lawful_nil) (fun n _ _ h => h.record (inputs n)) n

/-! ## The files -/

/-- A file is one header of 632 bytes and as many samples as its field `NPTS` says, those written
to it since it was created, and its field `E` is the time of the last of them. -/
structure SoundFile (calls : List (SacCall ℚ)) (name : Path) (hdr : SacHdr ℚ) : Prop where
  contents : filesAfter calls name = some (hdr.bytes ++ dataBytes (samplesOf name calls))
  length : hdr.bytes.length = 632
  npts : hdr.npts = (samplesOf name calls).length
  e : hdr.e = (hdr.npts - 1) * hdr.delta

/-- After every call, every file that has been written since it was created is sound.  After a call
of `writeSac` that is so of the file written, with the header written. -/
def SoundFiles (calls : List (SacCall ℚ)) : Prop :=
  ∀ pre, pre <+: calls → ∀ name hdr, headerOf name pre = some hdr → SoundFile pre name hdr

/-- The header of a file fits its samples. -/
theorem header_of_ok {calls : List (SacCall F)} (h : Emitter.Lawful SacCall.Ok calls) {name : Path}
    {hdr : SacHdr F} (hwhole : IsWhole name) (hhdr : headerOf name calls = some hdr) :
    hdr.npts = (samplesOf name calls).length ∧
      hdr.e = FloatArith.lit 0 + ((hdr.npts - 1 : ℤ) : F) * hdr.delta := by
  induction calls using List.reverseRecOn with
  | nil => cases hhdr
  | append_singleton calls c ih =>
    cases c with
    | createFile n =>
      rw [headerOf_createFile] at hhdr
      rw [samplesOf_createFile]
      split at hhdr
      · cases hhdr
      · rw [if_neg ‹_›]
        exact ih h.of_append hhdr
    | writeSac n hdr' data =>
      rw [headerOf_writeSac] at hhdr
      rw [samplesOf_writeSac]
      split at hhdr
      · rename_i hn
        subst hn
        cases hhdr
        obtain ⟨-, he, hnpts⟩ := h.last
        rw [if_pos rfl, List.length_append]
        exact ⟨hnpts hwhole, he⟩
      · rw [if_neg ‹_›]
        exact ih h.of_append hhdr

/-- A file whose name is not cut off is sound once it has been written. -/
theorem soundFile_of_ok {calls : List (SacCall ℚ)} (h : Emitter.Lawful SacCall.Ok calls)
    {name : Path} {hdr : SacHdr ℚ} (hwhole : IsWhole name) (hhdr : headerOf name calls = some hdr) :
    SoundFile calls name hdr := by
  obtain ⟨hnpts, he⟩ := header_of_ok h hwhole hhdr
  refine ⟨filesAfter_of_headerOf (createdFirst_of_ok h) hhdr, hdr.length_bytes, hnpts, ?_⟩
  rw [he, FloatArith.lit_rat, zero_add, Int.cast_sub, Int.cast_one]

end SensorIoT
