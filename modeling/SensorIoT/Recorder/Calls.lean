import SensorIoT.Recorder.Defs

/-!
# The calls of one block

What `readAnalogInputsAndSaveData` does to the files: it may create the three continuous files, it
may write event files, and it writes to each of the three continuous files.  The names say which is
which — continuous files and event files lie in different directories, and the three axes end
differently — except where a time stamp is too short to hold an hour: then the three names are cut
off at the same place, and are one name, which does not end in `.sac`.
-/

set_option autoImplicit false

namespace SensorIoT

/-! ## Names -/

/-- The name of a file of the program. -/
def IsSac (name : Path) : Prop := ".sac".toList <:+ name

instance (name : Path) : Decidable (IsSac name) := by unfold IsSac; infer_instance

theorem not_isSac_nil : ¬ IsSac [] := by decide

/-- A file in the directory of the continuous files. -/
def IsSample (name : Path) : Prop := samplesDir ++ ['/'] <+: name

instance (name : Path) : Decidable (IsSample name) := by
  unfold IsSample
  infer_instance

/-- The part of the name of a continuous file that depends on the date only. -/
def sampleStem (date : CBuf) : List Char :=
  samplesDir ++ '/' :: cstr date ++ '/' :: cstr date ++ ['_']

theorem nul_notMem_sampleStem (date : CBuf) : nul ∉ sampleStem date := by
  have hdir : nul ∉ samplesDir := by decide
  have hdate := nul_notMem_cstr date
  have hslash : nul ≠ '/' := by decide
  have hline : nul ≠ '_' := by decide
  simp [sampleStem, hdir, hdate, hslash, hline]

theorem samplePath_eq (date time : CBuf) (axis : Axis) :
    samplePath date time axis
      = sampleStem date
        ++ cstr (charAt time 0 :: charAt time 1 :: ('_' :: axis.name ++ ".sac".toList)) := by
  rw [← cstr_append (nul_notMem_sampleStem date)]
  simp [samplePath, sampleStem]

theorem isSample_samplePath (date time : CBuf) (axis : Axis) :
    IsSample (samplePath date time axis) := by
  rw [samplePath_eq]
  exact ⟨cstr date ++ '/' :: cstr date ++ ['_']
    ++ cstr (charAt time 0 :: charAt time 1 :: ('_' :: axis.name ++ ".sac".toList)), by
    simp [sampleStem]⟩

theorem samplePath_ne_nil (date time : CBuf) (axis : Axis) : samplePath date time axis ≠ [] := by
  intro h
  have := (isSample_samplePath date time axis).length_le
  rw [h] at this
  exact absurd this (by decide)

/-- A stamp that has an hour. -/
def HasHour (time : CBuf) : Prop := charAt time 0 ≠ nul ∧ charAt time 1 ≠ nul

instance (time : CBuf) : Decidable (HasHour time) := by unfold HasHour; infer_instance

/-- The name for a stamp that has an hour is not cut off. -/
theorem samplePath_of_hasHour {date time : CBuf} (h : HasHour time) (axis : Axis) :
    samplePath date time axis
      = sampleStem date
        ++ charAt time 0 :: charAt time 1 :: ('_' :: axis.name ++ ".sac".toList) := by
  rw [samplePath_eq, cstr_cons h.1, cstr_cons h.2, cstr_eq_self]
  cases axis <;> decide

/-- A name that ends in `.sac` was not cut off. -/
theorem hasHour_of_isSac {date time : CBuf} {axis : Axis}
    (h : IsSac (samplePath date time axis)) : HasHour time := by
  rw [samplePath_eq] at h
  obtain ⟨t, ht⟩ := h
  by_cases h0 : charAt time 0 = nul
  · rw [h0, cstr_nul, List.append_nil, sampleStem] at ht
    have hlast : (t ++ ['.', 's', 'a']) ++ ['c']
        = (samplesDir ++ '/' :: cstr date ++ '/' :: cstr date) ++ ['_'] := by
      rw [← ht]; simp
    exact absurd (List.append_inj' hlast rfl).2 (by decide)
  refine ⟨h0, fun h1 => ?_⟩
  rw [cstr_cons h0, h1, cstr_nul, sampleStem] at ht
  have hlast : (t ++ ['.', 's']) ++ ['a', 'c']
      = (samplesDir ++ '/' :: cstr date ++ '/' :: cstr date) ++ ['_', charAt time 0] := by
    calc (t ++ ['.', 's']) ++ ['a', 'c'] = t ++ ".sac".toList := by simp
      _ = _ := by rw [ht]; simp
  have hpair := (List.append_inj' hlast rfl).2
  exact absurd (List.cons.inj hpair).1 (by decide)

theorem isSac_samplePath_iff {date time : CBuf} {axis : Axis} :
    IsSac (samplePath date time axis) ↔ HasHour time := by
  refine ⟨hasHour_of_isSac, fun h => ?_⟩
  rw [samplePath_of_hasHour h]
  exact ⟨sampleStem date ++ charAt time 0 :: charAt time 1 :: '_' :: axis.name, by simp⟩

/-- The files of the three axes are three files. -/
theorem samplePath_ne {date time : CBuf} {axis other : Axis} (hne : axis ≠ other)
    (h : IsSac (samplePath date time axis)) :
    samplePath date time axis ≠ samplePath date time other := by
  intro heq
  have hhour := hasHour_of_isSac h
  rw [samplePath_of_hasHour hhour, samplePath_of_hasHour hhour] at heq
  have htail := List.append_cancel_left heq
  simp only [List.cons.injEq, true_and, List.cons_append] at htail
  have hname := List.append_cancel_right htail
  cases axis <;> cases other <;> first | exact absurd rfl hne | exact absurd hname (by decide)

/-- Names of continuous files of two axes that end in `.sac` differ. -/
theorem samplePath_axis_ne {date time date' time' : CBuf} {axis other : Axis} (hne : axis ≠ other)
    (h : IsSac (samplePath date time axis)) :
    samplePath date' time' other ≠ samplePath date time axis := by
  intro heq
  have hhour := hasHour_of_isSac h
  have hhour' : HasHour time' := hasHour_of_isSac (heq ▸ h)
  rw [samplePath_of_hasHour hhour, samplePath_of_hasHour hhour'] at heq
  have hlast : ∀ (date time : CBuf) (axis : Axis),
      sampleStem date ++ charAt time 0 :: charAt time 1 :: ('_' :: axis.name ++ ".sac".toList)
        = (sampleStem date ++ [charAt time 0, charAt time 1, '_'])
          ++ (axis.name ++ ".sac".toList) := by
    intro date time axis
    simp
  rw [hlast, hlast] at heq
  have hlen : ∀ axis : Axis, (axis.name ++ ".sac".toList).length = 7 := by
    intro axis
    cases axis <;> rfl
  have htail := (List.append_inj' heq (by rw [hlen, hlen])).2
  have hname := List.append_cancel_right htail
  cases axis <;> cases other <;> first | exact hne rfl | exact absurd hname (by decide)

/-- A name that is cut off does not say which axis. -/
theorem samplePath_of_not_isSac {date time : CBuf} {axis : Axis}
    (h : ¬ IsSac (samplePath date time axis)) (other : Axis) :
    samplePath date time other = samplePath date time axis := by
  have hhour : ¬ HasHour time := fun hhour => h (isSac_samplePath_iff.mpr hhour)
  rw [samplePath_eq, samplePath_eq]
  by_cases h0 : charAt time 0 = nul
  · rw [h0, cstr_nul, cstr_nul]
  · have h1 : charAt time 1 = nul := by
      by_contra h1
      exact hhour ⟨h0, h1⟩
    rw [cstr_cons h0, cstr_cons h0, h1, cstr_nul, cstr_nul]

/-- The name is not that of a continuous file cut off. -/
def IsWhole (name : Path) : Prop := IsSample name → IsSac name

/-- Event files lie in a directory of their own. -/
theorem eventPath_ne {F : Type} [FloatArith F] (event : EventData F) {name : Path}
    (h : IsSample name) : eventPath event ≠ name := by
  intro heq
  have hdir : nul ∉ eventsDir ++ ['/'] := by decide
  have hevent : eventsDir ++ ['/'] <+: eventPath event := by
    have hcut : ∀ rest : List Char, eventsDir ++ ['/'] <+: cstr (eventsDir ++ '/' :: rest) := by
      intro rest
      rw [List.append_cons eventsDir '/' rest, cstr_append hdir]
      exact List.prefix_append _ _
    rw [eventPath]
    simp only [List.append_assoc, List.cons_append]
    exact hcut _
  rw [heq] at hevent
  have := List.prefix_of_prefix_length_le hevent h (by decide)
  exact absurd this (by decide)

/-! ## Calls that keep a file in step with its header -/

variable {F : Type} [FloatArith F]

/-- After the calls `pre`, a call is all right: a file is created before it is written, and the
header written says how many samples the file then has, and how long they take. -/
def SacCall.Ok (pre : List (SacCall F)) : SacCall F → Prop
  | .createFile _ => True
  | .writeSac name hdr data => IsCreated name pre ∧
      hdr.e = FloatArith.lit 0 + ((hdr.npts - 1 : ℤ) : F) * hdr.delta ∧
      (IsWhole name → hdr.npts = ((samplesOf name pre).length + data.length : ℕ))

theorem ok_createFile (pre : List (SacCall F)) (name : Path) :
    (SacCall.createFile name).Ok pre :=
  trivial

theorem createdFirst_of_ok {calls : List (SacCall F)} (h : Emitter.Lawful SacCall.Ok calls) :
    CreatedFirst calls :=
  h.mono fun _ c hc => match c with
    | .createFile _ => trivial
    | .writeSac _ _ _ => hc.1

/-- `scmxmn` leaves the counters alone. -/
theorem scmxmn_counters (arr : ℕ → F) (n : ℕ) (v : DepValues F) :
    (scmxmn arr n v).npts = v.npts ∧ (scmxmn arr n v).dt = v.dt ∧
      (scmxmn arr n v).dataNumber = v.dataNumber := by
  rw [scmxmn]
  split <;> exact ⟨rfl, rfl, rfl⟩

/-- `writeSac` with the right count is all right. -/
theorem ok_writeSac {pre : List (SacCall F)} {name : Path} (hcreated : IsCreated name pre)
    (d : FullDate) (v : DepValues F) {npts : ℤ} {k : ℕ} (arr : ℕ → F) (dt : F) (axis : List Char)
    (hnpts : IsWhole name → npts = ((samplesOf name pre).length + k : ℕ)) :
    (writeSac d v npts k arr dt axis name).2.Ok pre := by
  obtain ⟨h1, h2, h3⟩ := sacHeader_fields d (scmxmn arr k v) npts dt (FloatArith.lit 0)
    (FloatArith.lit 0 + ((npts - 1 : ℤ) : F) * dt) axis
  refine ⟨hcreated, ?_, fun hwhole => ?_⟩
  · rw [h1, h2, h3]
  · rw [h1, List.length_map, List.length_range, hnpts hwhole]

/-- A file that is in step with a counter. -/
structure InStep (name : Path) (calls : List (SacCall F)) (npts : ℤ) : Prop where
  lawful : Emitter.Lawful SacCall.Ok calls
  created : IsCreated name calls
  npts : npts = (samplesOf name calls).length

/-- A file that has just been created is in step with zero. -/
theorem inStep_createFile {calls : List (SacCall F)} (h : Emitter.Lawful SacCall.Ok calls)
    (name : Path) : InStep name (calls ++ [.createFile name]) 0 := by
  refine ⟨h.concat (ok_createFile _ name), by simp [IsCreated], ?_⟩
  rw [samplesOf_createFile, if_pos rfl]
  rfl

/-- Counting the samples and then writing them keeps the file in step. -/
theorem InStep.writeSac {name : Path} {calls : List (SacCall F)} {v : DepValues F}
    (h : InStep name calls v.npts) (d : FullDate) (k : ℕ) (arr : ℕ → F) (dt : F)
    (axis : List Char) :
    InStep name (calls ++ [(writeSac d { v with npts := v.npts + k } (v.npts + k) k arr dt axis
        name).2])
      (writeSac d { v with npts := v.npts + k } (v.npts + k) k arr dt axis name).1.npts := by
  have hcount : v.npts + k = ((samplesOf name calls).length + k : ℕ) := by
    rw [h.npts, Int.natCast_add]
  refine ⟨h.lawful.concat (ok_writeSac h.created d _ arr dt axis fun _ => hcount), ?_, ?_⟩
  · exact List.mem_append_left _ h.created
  · rw [SensorIoT.writeSac, (scmxmn_counters arr k _).1, samplesOf_writeSac, if_pos rfl,
      List.length_append, List.length_map, List.length_range]
    exact hcount

/-- The calls that write an event file are all right, whatever was done before. -/
theorem ok_eventFileCalls {pre : List (SacCall F)} (h : Emitter.Lawful SacCall.Ok pre) (dt : F)
    (mem : DateMem) (event : EventData F) :
    Emitter.Lawful SacCall.Ok (pre ++ eventFileCalls dt mem event) := by
  have h0 := inStep_createFile h (eventPath event)
  have h1 := InStep.writeSac (v := ⟨FloatArith.lit 0, FloatArith.lit 0, FloatArith.lit 0,
      FloatArith.lit 0, 0, 0⟩) h0 (getSacFormatDate mem event.date event.time event.isGPS)
    event.countPreEvent event.preEvent dt (cstr event.axis)
  have h2 := h1.writeSac (getSacFormatDate mem event.date event.time event.isGPS)
    event.countEventSamples event.eventSamples dt (cstr event.axis)
  have h3 := h2.writeSac (getSacFormatDate mem event.date event.time event.isGPS)
    event.countPostEvent event.postEvent dt (cstr event.axis)
  have hlawful := h3.lawful
  simp only [List.append_assoc, List.cons_append, List.nil_append] at hlawful
  exact hlawful

theorem name_eventFileCalls {dt : F} {mem : DateMem} {event : EventData F} {c : SacCall F}
    (h : c ∈ eventFileCalls dt mem event) : c.name = eventPath event := by
  simp only [eventFileCalls, List.mem_cons, List.not_mem_nil, or_false] at h
  rcases h with rfl | rfl | rfl | rfl <;> rfl

/-! ## The three parts of a block -/

/-- The calls of the detector's part of a block are all right, and not about continuous files. -/
theorem calls_detectAll (r : Recorder F) (b : Reading F) :
    (∀ pre, Emitter.Lawful SacCall.Ok pre → Emitter.Lawful SacCall.Ok (pre ++ (r.detectAll b).2)) ∧
      ∀ c ∈ (r.detectAll b).2, ∀ name, IsSample name → c.name ≠ name := by
  have haxis : ∀ axis, ∃ event, (r.detect b axis).2 = [] ∨
      (r.detect b axis).2 = eventFileCalls r.dt (b.memEvent axis) event := by
    intro axis
    rw [Recorder.detect, savePending]
    split
    · exact ⟨_, .inr rfl⟩
    · exact ⟨staLta r.params axis.name (r.event axis) (r.toBlock b axis), .inl rfl⟩
  have hlawful : ∀ axis pre, Emitter.Lawful SacCall.Ok pre →
      Emitter.Lawful SacCall.Ok (pre ++ (r.detect b axis).2) := by
    intro axis pre hpre
    obtain ⟨event, hnil | hcalls⟩ := haxis axis
    · rwa [hnil, List.append_nil]
    · rw [hcalls]; exact ok_eventFileCalls hpre _ _ _
  rw [Recorder.detectAll]
  split
  · refine ⟨fun pre hpre => ?_, fun c hc name hname => ?_⟩
    · simp only [Axis.all, List.flatMap_cons, List.flatMap_nil, List.append_nil]
      rw [← List.append_assoc, ← List.append_assoc]
      exact hlawful .z _ (hlawful .y _ (hlawful .x _ hpre))
    · obtain ⟨axis, -, hmem⟩ := List.mem_flatMap.mp hc
      obtain ⟨event, hnil | hcalls⟩ := haxis axis
      · rw [hnil] at hmem; cases hmem
      · rw [hcalls] at hmem
        rw [name_eventFileCalls hmem]
        exact eventPath_ne event hname
  · exact ⟨fun pre hpre => by rwa [List.append_nil], fun c hc => by cases hc⟩

omit [FloatArith F] in
/-- The files of a process: none yet, or those of one date and hour. -/
def Recorder.Named (r : Recorder F) : Prop :=
  (∀ axis, r.currentDirectory axis = []) ∨
    ∃ date time, ∀ axis, r.currentDirectory axis = samplePath date time axis

omit [FloatArith F] in
/-- The block opens files. -/
def Recorder.Opens (r : Recorder F) (b : Reading F) : Prop :=
  r.currentDirectory .x = [] ∨ isNewHour b.time = true

omit [FloatArith F] in
instance (r : Recorder F) (b : Reading F) : Decidable (r.Opens b) := by
  unfold Recorder.Opens
  infer_instance

omit [FloatArith F] in
/-- The state once the files of the block are opened. -/
def Recorder.opened (r : Recorder F) (b : Reading F) : Recorder F :=
  { r with
    currentDirectory := samplePath b.date b.time
    strFullDate := getSacFormatDate (b.memDir .z) b.date b.time b.isGPS
    strDepValues := { r.strDepValues with npts := 0, dt := r.dt, dataNumber := r.sps.val } }

section Names

omit [FloatArith F]

variable {r : Recorder F} {b : Reading F}

/-- Either all three files have a name or none has. -/
theorem Recorder.Named.nil_iff (h : r.Named) (axis other : Axis) :
    r.currentDirectory axis = [] ↔ r.currentDirectory other = [] := by
  rcases h with hall | ⟨date, time, hpath⟩
  · exact iff_of_true (hall axis) (hall other)
  · rw [hpath, hpath]
    exact iff_of_false (samplePath_ne_nil _ _ _) (samplePath_ne_nil _ _ _)

theorem Recorder.Named.ne_nil (h : r.Named) (hnot : ¬ r.Opens b) (axis : Axis) :
    r.currentDirectory axis ≠ [] :=
  fun hnil => hnot (.inl ((h.nil_iff axis .x).mp hnil))

theorem createDirRtc_open {axis : Axis}
    (h : r.currentDirectory axis = [] ∨ isNewHour b.time = true) :
    createDirRtc r axis b = openFile r axis b := by
  rw [createDirRtc]
  split
  · rfl
  · rw [if_pos (h.resolve_left ‹_›)]

theorem createDirs_of_opens (hr : r.Named) (h : r.Opens b) :
    createDirs r b
      = (r.opened b, Axis.all.map fun axis => .createFile (samplePath b.date b.time axis)) := by
  have hopen : ∀ axis, r.currentDirectory axis = [] ∨ isNewHour b.time = true :=
    fun axis => h.imp_left (hr.nil_iff axis .x).mpr
  have hy : createDirRtc (openFile r .x b).1 .y b = openFile (openFile r .x b).1 .y b :=
    createDirRtc_open (hopen .y)
  have hz : createDirRtc (openFile (openFile r .x b).1 .y b).1 .z b
      = openFile (openFile (openFile r .x b).1 .y b).1 .z b :=
    createDirRtc_open (hopen .z)
  have hdir : Function.update (Function.update (Function.update r.currentDirectory .x
      (samplePath b.date b.time .x)) .y (samplePath b.date b.time .y)) .z
      (samplePath b.date b.time .z) = samplePath b.date b.time := by
    funext axis
    cases axis <;> rfl
  rw [createDirs]
  simp only [createDirRtc_open (hopen .x), hy, hz]
  rw [openFile, openFile, openFile]
  simp only [hdir]
  rfl

theorem createDirs_of_not_opens (hr : r.Named) (h : ¬ r.Opens b) : createDirs r b = (r, []) := by
  have hhour : ¬ isNewHour b.time = true := fun hb => h (.inr hb)
  simp only [createDirs, createDirRtc, if_neg (hr.ne_nil h _), if_neg hhour]
  rfl

end Names

theorem detectAll_fst (r : Recorder F) (b : Reading F) :
    ∃ event, (r.detectAll b).1 = { r with event := event } := by
  rw [Recorder.detectAll]
  split
  · exact ⟨_, rfl⟩
  · exact ⟨r.event, rfl⟩

/-- The header that `writeSac` sets up for the continuous file of an axis. -/
def axisHeader (r : Recorder F) (b : Reading F) (axis : Axis) : SacHdr F :=
  let v := r.strDepValues
  sacHeader r.strFullDate (scmxmn (r.samples b axis) v.dataNumber v) v.npts v.dt (FloatArith.lit 0)
    (FloatArith.lit 0 + ((v.npts - 1 : ℤ) : F) * v.dt) axis.name

theorem writeAxis_calls (r : Recorder F) (b : Reading F) (axis : Axis) :
    (writeAxis r b axis).2 = [.writeSac (r.currentDirectory axis) (axisHeader r b axis)
      ((List.range r.strDepValues.dataNumber).map (r.samples b axis))] :=
  rfl

theorem axisHeader_fields (r : Recorder F) (b : Reading F) (axis : Axis) :
    (axisHeader r b axis).npts = r.strDepValues.npts ∧
      (axisHeader r b axis).e
        = FloatArith.lit 0 + (((axisHeader r b axis).npts - 1 : ℤ) : F)
          * (axisHeader r b axis).delta := by
  obtain ⟨h1, h2, h3⟩ := sacHeader_fields r.strFullDate
    (scmxmn (r.samples b axis) r.strDepValues.dataNumber r.strDepValues) r.strDepValues.npts
    r.strDepValues.dt (FloatArith.lit 0)
    (FloatArith.lit 0 + ((r.strDepValues.npts - 1 : ℤ) : F) * r.strDepValues.dt) axis.name
  refine ⟨h1, ?_⟩
  rw [axisHeader, h1, h2, h3]

/-- A value for each axis. -/
def Axis.values {α : Type} (x y z : α) : Axis → α
  | .x => x
  | .y => y
  | .z => z

/-- The states in which the three calls of `writeSac` are made at the end of a block. -/
def Recorder.writing (r : Recorder F) (b : Reading F) : Axis → Recorder F :=
  let x := { r with strDepValues :=
    { r.strDepValues with npts := r.strDepValues.npts + r.strDepValues.dataNumber } }
  let y := (writeAxis x b .x).1
  Axis.values x y (writeAxis y b .y).1

/-- They differ in the extrema only. -/
theorem writing_counters (r : Recorder F) (b : Reading F) (axis : Axis) :
    (r.writing b axis).strDepValues.npts = r.strDepValues.npts + r.strDepValues.dataNumber ∧
      (r.writing b axis).strDepValues.dataNumber = r.strDepValues.dataNumber := by
  obtain ⟨hnx, -, hkx⟩ := scmxmn_counters (r.samples b .x)
    (r.writing b .x).strDepValues.dataNumber (r.writing b .x).strDepValues
  obtain ⟨hny, -, hky⟩ := scmxmn_counters (r.samples b .y)
    (r.writing b .y).strDepValues.dataNumber (r.writing b .y).strDepValues
  cases axis
  case x => exact ⟨rfl, rfl⟩
  case y => exact ⟨hnx, hkx⟩
  case z => exact ⟨hny.trans hnx, hky.trans hkx⟩

theorem writeAll_calls (r : Recorder F) (b : Reading F) :
    (writeAll r b).2 = Axis.all.map fun axis =>
      .writeSac (r.currentDirectory axis) (axisHeader (r.writing b axis) b axis)
        ((List.range r.strDepValues.dataNumber).map (r.samples b axis)) := by
  change (writeAxis (r.writing b .x) b .x).2 ++ (writeAxis (r.writing b .y) b .y).2
    ++ (writeAxis (r.writing b .z) b .z).2 = _
  rw [writeAxis_calls, writeAxis_calls, writeAxis_calls, (writing_counters r b .y).2,
    (writing_counters r b .z).2]
  rfl

/-- The end of a block: every continuous file gets its samples, and a header that counts them. -/
theorem writeAll_eq (r : Recorder F) (b : Reading F) :
    (∃ v : DepValues F, (writeAll r b).1 = { r with strDepValues := v } ∧
      v.npts = r.strDepValues.npts + r.strDepValues.dataNumber ∧
      v.dataNumber = r.strDepValues.dataNumber) ∧
    ∃ hdr : Axis → SacHdr F,
      (∀ axis, (hdr axis).npts = r.strDepValues.npts + r.strDepValues.dataNumber ∧
        (hdr axis).e = FloatArith.lit 0 + (((hdr axis).npts - 1 : ℤ) : F) * (hdr axis).delta) ∧
      (writeAll r b).2 = Axis.all.map fun axis =>
        .writeSac (r.currentDirectory axis) (hdr axis)
          ((List.range r.strDepValues.dataNumber).map (r.samples b axis)) := by
  refine ⟨⟨(writeAxis (r.writing b .z) b .z).1.strDepValues, rfl, ?_, ?_⟩,
    fun axis => axisHeader (r.writing b axis) b axis, fun axis => ?_, writeAll_calls r b⟩
  · exact (scmxmn_counters _ _ _).1.trans (writing_counters r b .z).1
  · exact (scmxmn_counters _ _ _).2.2.trans (writing_counters r b .z).2
  · obtain ⟨hnpts, he⟩ := axisHeader_fields (r.writing b axis) b axis
    exact ⟨hnpts.trans (writing_counters r b axis).1, he⟩

omit [FloatArith F] in
/-- Choosing the files changes nothing else. -/
theorem createDirs_fst (r : Recorder F) (b : Reading F) :
    ∃ dir date v, (createDirs r b).1
      = { r with currentDirectory := dir, strFullDate := date, strDepValues := v } := by
  have hopen : ∀ (r : Recorder F) axis, ∃ dir date v, (createDirRtc r axis b).1
      = { r with currentDirectory := dir, strFullDate := date, strDepValues := v } := by
    intro r axis
    rw [createDirRtc]
    split
    · exact ⟨_, _, _, rfl⟩
    · split <;> exact ⟨_, _, _, rfl⟩
  obtain ⟨_, _, _, hx⟩ := hopen r .x
  obtain ⟨_, _, _, hy⟩ := hopen (createDirRtc r .x b).1 .y
  obtain ⟨dir, date, v, hz⟩ := hopen (createDirRtc (createDirRtc r .x b).1 .y b).1 .z
  refine ⟨dir, date, v, ?_⟩
  rw [createDirs, hz, hy, hx]

/-- Which samples are stored is a matter of the sampling rate, which no call changes. -/
theorem samples_createDirs (r : Recorder F) (b : Reading F) :
    (createDirs r b).1.samples b = r.samples b := by
  obtain ⟨dir, date, v, hr⟩ := createDirs_fst r b
  rw [hr]
  rfl

/-- **A block**: it may open files, it may write event files, and it appends its samples to each of
the three continuous files. -/
theorem readAnalogInputsAndSaveData_eq (r : Recorder F) (b : Reading F) :
    (readAnalogInputsAndSaveData r b).1.currentDirectory = (createDirs r b).1.currentDirectory ∧
      ∃ (events : List (SacCall F)) (hdr : Axis → SacHdr F),
        (readAnalogInputsAndSaveData r b).2
          = (createDirs r b).2 ++ events ++ Axis.all.map (fun axis =>
            .writeSac ((createDirs r b).1.currentDirectory axis) (hdr axis)
              ((List.range (createDirs r b).1.strDepValues.dataNumber).map (r.samples b axis))) ∧
        ∀ c ∈ events, ∀ name, IsSample name → c.name ≠ name := by
  obtain ⟨event, he⟩ := detectAll_fst (createDirs r b).1 b
  obtain ⟨⟨v, hv, -, -⟩, hdr, -, hcalls⟩ := writeAll_eq ((createDirs r b).1.detectAll b).1 b
  have hsamples : ((createDirs r b).1.detectAll b).1.samples b = r.samples b := by
    rw [he]
    exact samples_createDirs r b
  refine ⟨?_, ((createDirs r b).1.detectAll b).2, hdr, ?_,
    (calls_detectAll (createDirs r b).1 b).2⟩
  · rw [readAnalogInputsAndSaveData]
    simp only [hv]
    rw [he]
  · rw [readAnalogInputsAndSaveData]
    simp only [hcalls, hsamples]
    rw [he]

end SensorIoT
