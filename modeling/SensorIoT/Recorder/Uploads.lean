import SensorIoT.Recorder.Messages

/-!
# Which files are announced

The announcement of a continuous file comes with the opening of the next, and that of an event file
with its own writing.

**`uploads_eq`**: of the vertical files that a process opens, all are announced but the last, which
never is, and all event files, in the order in which they are created.
-/

set_option autoImplicit false

namespace SensorIoT

variable {F : Type} [FloatArith F]

omit [FloatArith F] in
/-- The continuous files that are announced, in order. -/
def adcUploads (es : List (Effect F)) : List Path :=
  es.filterMap fun e => match e.upload? with
    | some (.adc, name) => some name
    | _ => none

omit [FloatArith F] in
/-- The event files that are announced, in order. -/
def eventUploads (es : List (Effect F)) : List Path :=
  es.filterMap fun e => match e.upload? with
    | some (.event, name) => some name
    | _ => none

omit [FloatArith F] in
/-- The files that are created, in order. -/
def created (calls : List (SacCall F)) : List Path :=
  calls.filterMap fun c => match c with
    | .createFile name => some name
    | .writeSac _ _ _ => none

/-- The vertical files that the processes of a run open, for the processes that have ended and for
the one that is running. -/
def openings (globals : Recorder F) (inputs : ℕ → Input F) : ℕ → List (List Path) × List Path
  | 0 => ([], [])
  | n + 1 => match inputs n with
    | .restart _ => ((openings globals inputs n).1 ++ [(openings globals inputs n).2], [])
    | .block b => ((openings globals inputs n).1, (openings globals inputs n).2 ++
        if (recorder globals inputs n).Opens b then [samplePath b.date b.time .z] else [])

section Uploads

omit [FloatArith F]

@[simp] theorem adcUploads_append (es es' : List (Effect F)) :
    adcUploads (es ++ es') = adcUploads es ++ adcUploads es' :=
  List.filterMap_append

@[simp] theorem eventUploads_append (es es' : List (Effect F)) :
    eventUploads (es ++ es') = eventUploads es ++ eventUploads es' :=
  List.filterMap_append

@[simp] theorem created_append (calls calls' : List (SacCall F)) :
    created (calls ++ calls') = created calls ++ created calls' :=
  List.filterMap_append

@[simp] theorem adcUploads_files (calls : List (SacCall F)) :
    adcUploads (calls.map .file) = [] := by
  rw [adcUploads, List.filterMap_map]
  exact List.filterMap_eq_nil_iff.mpr fun c _ => rfl

@[simp] theorem eventUploads_files (calls : List (SacCall F)) :
    eventUploads (calls.map .file) = [] := by
  rw [eventUploads, List.filterMap_map]
  exact List.filterMap_eq_nil_iff.mpr fun c _ => rfl

theorem created_writes (dir : Axis → Path) (hdr : Axis → SacHdr F) (xs : Axis → List F)
    (axes : List Axis) :
    created (axes.map fun axis => .writeSac (dir axis) (hdr axis) (xs axis)) = [] := by
  rw [created, List.filterMap_map]
  exact List.filterMap_eq_nil_iff.mpr fun c _ => rfl

/-- What the choice of files announces: the vertical file of the hour that is over. -/
theorem uploads_createDirs {r : Recorder F} {b : Reading F} (hr : r.Named) :
    adcUploads (createDirsSending r b).2
        = (if r.Opens b ∧ r.currentDirectory .z ≠ [] then [r.currentDirectory .z] else []) ∧
      eventUploads (createDirsSending r b).2 = [] ∧
      created (files (createDirsSending r b).2)
        = (if r.Opens b then Axis.all.map (samplePath b.date b.time) else []) := by
  by_cases hfirst : r.currentDirectory .x = []
  · have hall : ∀ axis, r.currentDirectory axis = [] :=
      fun axis => (hr.nil_iff axis .x).mpr hfirst
    have ho : r.Opens b := .inl hfirst
    have hz : ¬ (r.Opens b ∧ r.currentDirectory .z ≠ []) := fun h => h.2 (hall .z)
    rw [createDirsSending_of_first hall, if_neg hz, if_pos ho]
    exact ⟨rfl, rfl, rfl⟩
  by_cases hhour : isNewHour b.time = true
  · have ho : r.Opens b := .inr hhour
    have hz : r.currentDirectory .z ≠ [] := mt (hr.nil_iff .z .x).mp hfirst
    rw [createDirsSending_of_isNewHour hr hfirst hhour, if_pos ⟨ho, hz⟩, if_pos ho]
    exact ⟨rfl, rfl, rfl⟩
  · have hnot : ¬ r.Opens b := fun ho => ho.elim hfirst hhour
    rw [createDirsSending_of_not_opens hr hnot, if_neg fun h => hnot h.1, if_neg hnot]
    exact ⟨rfl, rfl, rfl⟩

end Uploads

/-- What the detector's part of a block announces: the event files that it creates. -/
theorem uploads_detectAll (r : Recorder F) (b : Reading F) :
    adcUploads (r.detectAllSending b).2 = [] ∧
      eventUploads (r.detectAllSending b).2 = created (files (r.detectAllSending b).2) := by
  have haxis : ∀ axis, adcUploads (r.detectSending b axis).2 = [] ∧
      eventUploads (r.detectSending b axis).2 = created (files (r.detectSending b axis).2) := by
    intro axis
    rw [Recorder.detectSending]
    split
    · rw [createEventFileSending, adcUploads_append, adcUploads_files, eventUploads_append,
        eventUploads_files, files_append, files_map, files_uploadFiles, List.append_nil]
      exact ⟨rfl, rfl⟩
    · exact ⟨rfl, rfl⟩
  rw [Recorder.detectAllSending]
  split
  · simp only [Axis.all, List.flatMap_cons, List.flatMap_nil, List.append_nil, adcUploads_append,
      eventUploads_append, files_append, created_append, (haxis _).1, (haxis _).2, and_self]
  · exact ⟨rfl, rfl⟩

/-- What a block announces. -/
theorem uploads_block {r : Recorder F} {b : Reading F} (hr : r.Named) :
    adcUploads (recordSending r (.block b)).2
        = (if r.Opens b ∧ r.currentDirectory .z ≠ [] then [r.currentDirectory .z] else []) ∧
      eventUploads (recordSending r (.block b)).2
        = (created (files (recordSending r (.block b)).2)).filter fun name => ¬ IsSample name := by
  obtain ⟨hadc, hevent, hcreated⟩ := uploads_createDirs (b := b) hr
  obtain ⟨hadc', hevent'⟩ := uploads_detectAll (createDirsSending r b).1 b
  obtain ⟨-, hdr, -, hwrites⟩ := writeAll_eq ((createDirsSending r b).1.detectAllSending b).1 b
  have hlast : ∀ samples : Axis → ℕ → F, adcUploads [sendSamples samples] = [] ∧
      eventUploads [sendSamples samples] = [] ∧ files [sendSamples samples] = [] :=
    fun _ => ⟨rfl, rfl, rfl⟩
  rw [recordSending, readAnalogInputsAndSaveDataSending]
  simp only [adcUploads_append, eventUploads_append, files_append, created_append, hadc, hadc',
    hevent, hevent', adcUploads_files, eventUploads_files, files_map, hwrites, created_writes,
    hlast, List.append_nil, List.nil_append, hcreated]
  have hnone : (if r.Opens b then Axis.all.map (samplePath b.date b.time) else []).filter
      (fun name => ¬ IsSample name) = [] := by
    split
    · simp [Axis.all, isSample_samplePath]
    · rfl
  have hall : (created (files ((createDirsSending r b).1.detectAllSending b).2)).filter
      (fun name => ¬ IsSample name)
        = created (files ((createDirsSending r b).1.detectAllSending b).2) := by
    refine List.filter_eq_self.mpr fun name hname => decide_eq_true fun hsample => ?_
    obtain ⟨c, hc, hcreate⟩ := List.mem_filterMap.mp hname
    rw [(detectAllSending_files _ b).2] at hc
    refine (calls_detectAll _ b).2 c hc name hsample ?_
    cases c with
    | createFile other => exact Option.some.inj hcreate
    | writeSac other hdr data => cases hcreate
  refine ⟨trivial, ?_⟩
  rw [List.filter_append, hnone, hall, List.nil_append]

/-- The files of a process, as far as they are announced, and the one that is not. -/
structure UploadInv (opened : List (List Path) × List Path) (r : Recorder F)
    (es : List (Effect F)) : Prop where
  current : r.currentDirectory .z = opened.2.getLast?.getD []
  nonempty : ∀ name ∈ opened.2, name ≠ []
  adc : adcUploads es = opened.1.flatMap List.dropLast ++ opened.2.dropLast
  event : eventUploads es = (created (files es)).filter fun name => ¬ IsSample name

/-- A block that opens files announces the one before. -/
theorem UploadInv.block {opened : List (List Path) × List Path} {r : Recorder F}
    {es : List (Effect F)} (h : UploadInv opened r es) (hr : r.Named) (b : Reading F) :
    UploadInv (opened.1, opened.2 ++ if r.Opens b then [samplePath b.date b.time .z] else [])
      (recordSending r (.block b)).1 (es ++ (recordSending r (.block b)).2) := by
  obtain ⟨hadc, hevent⟩ := uploads_block (b := b) hr
  have hdir : (recordSending r (.block b)).1.currentDirectory
      = (createDirs r b).1.currentDirectory := by
    rw [(recordSending_files r (.block b)).1]
    exact (readAnalogInputsAndSaveData_eq r b).1
  constructor
  case current =>
    rw [hdir]
    split
    · rename_i ho
      rw [createDirs_of_opens hr ho, List.getLast?_concat]
      rfl
    · rename_i ho
      rw [createDirs_of_not_opens hr ho, List.append_nil, h.current]
  case nonempty =>
    intro name hname
    rcases List.mem_append.mp hname with hold | hnew
    · exact h.nonempty name hold
    · split at hnew
      · rw [List.mem_singleton.mp hnew]
        exact samplePath_ne_nil _ _ _
      · cases hnew
  case adc =>
    rw [adcUploads_append, h.adc, hadc, List.append_assoc]
    congr 1
    by_cases ho : r.Opens b
    · rw [if_pos ho, List.dropLast_concat]
      rcases List.eq_nil_or_concat opened.2 with hnil | ⟨names, name, hnames⟩
      · have hz : r.currentDirectory .z = [] := by rw [h.current, hnil]; rfl
        rw [if_neg fun hne => hne.2 hz, hnil]
        rfl
      · have hz : r.currentDirectory .z = name := by
          rw [h.current, hnames, List.concat_eq_append, List.getLast?_concat]
          rfl
        have hname : name ≠ [] := h.nonempty name (by rw [hnames]; simp)
        rw [hz, if_pos ⟨ho, hname⟩, hnames, List.concat_eq_append, List.dropLast_concat]
    · rw [if_neg fun hne => ho hne.1, if_neg ho, List.append_nil, List.append_nil]
  case event =>
    rw [eventUploads_append, files_append, created_append, List.filter_append, h.event, hevent]

theorem uploadInv (globals : Recorder F) (inputs : ℕ → Input F) (n : ℕ) :
    UploadInv (openings globals inputs n) (recorder globals inputs n)
      (effects globals inputs n) := by
  induction n with
  | zero =>
    exact ⟨rfl, fun name hname => absurd hname List.not_mem_nil, rfl, rfl⟩
  | succ n ih =>
    have hnext : recorder globals inputs (n + 1)
        = (recordSending (recorder globals inputs n) (inputs n)).1 :=
      (recordSending_files _ _).1.symm
    have heffects : effects globals inputs (n + 1)
        = effects globals inputs n ++ (recordSending (recorder globals inputs n) (inputs n)).2 := by
      rw [← (effects_files globals inputs n).1]
      rfl
    rw [hnext, heffects]
    cases hn : inputs n with
    | block b =>
      have hopened : openings globals inputs (n + 1) = ((openings globals inputs n).1,
          (openings globals inputs n).2 ++ if (recorder globals inputs n).Opens b
            then [samplePath b.date b.time .z] else []) := by
        rw [openings, hn]
      rw [hopened]
      exact ih.block (recorderInv globals inputs n).named b
    | restart globals' =>
      have hopened : openings globals inputs (n + 1) = ((openings globals inputs n).1
          ++ [(openings globals inputs n).2], []) := by
        rw [openings, hn]
      rw [hopened, recordSending, List.append_nil]
      refine ⟨rfl, fun name hname => absurd hname List.not_mem_nil, ?_, ih.event⟩
      rw [ih.adc, List.flatMap_append, List.flatMap_singleton, List.dropLast_nil, List.append_nil]

/-- **Which files are announced.**  Of the vertical files that a process opens, all but the last,
in the order in which they are opened; and all event files, in the order in which they are
created. -/
theorem uploads_eq (globals : Recorder F) (inputs : ℕ → Input F) (n : ℕ) :
    adcUploads (effects globals inputs n)
        = ((openings globals inputs n).1 ++ [(openings globals inputs n).2]).flatMap
          List.dropLast ∧
      eventUploads (effects globals inputs n)
        = (created (calls globals inputs n)).filter fun name => ¬ IsSample name := by
  obtain ⟨-, -, hadc, hevent⟩ := uploadInv globals inputs n
  refine ⟨?_, ?_⟩
  · rw [hadc, List.flatMap_append, List.flatMap_singleton]
  · rw [hevent, (effects_files globals inputs n).2]

end SensorIoT
