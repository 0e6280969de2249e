import SensorIoT.Recorder.Messages

/-!
# Finished files

A file is open from its creation until it is announced.  The continuous files of a process stay
open from block to block, and the third of them is announced when the next hour begins; an event
file is written and announced within one call.

**`uploads_sound`**: what is announced is finished.  The file is on the disk with its header and its
samples, it has not been announced since it was created, and it is not written again unless it is
created anew.
-/

set_option autoImplicit false

namespace SensorIoT

variable {F : Type} [FloatArith F]

/-! ## Finished files -/

omit [FloatArith F] in
/-- What an effect does to a file that is open or not: it may create it, or announce it. -/
def Effect.track (name : Path) (isOpen : Bool) : Effect F → Bool
  | .file (.createFile n) => isOpen || decide (n = name)
  | .message (.msg .uploadFiles _ n _) => isOpen && decide (n ≠ name)
  | _ => isOpen

omit [FloatArith F] in
/-- The file has been created, and not announced since. -/
def isOpen (name : Path) (es : List (Effect F)) : Bool := es.foldl (Effect.track name) false

omit [FloatArith F] in
/-- On the disk are a header and the samples it announces. -/
def Complete (calls : List (SacCall F)) (name : Path) : Prop :=
  ∃ hdr, headerOf name calls = some hdr ∧ hdr.npts = (samplesOf name calls).length ∧
    filesAfter calls name = some (hdr.bytes ++ dataBytes (samplesOf name calls))

omit [FloatArith F] in
/-- After the effects `es`, an effect is all right: a file is not written once it is announced, and
not announced twice, and what is announced is complete. -/
def Effect.Ok (es : List (Effect F)) : Effect F → Prop
  | .file (.createFile _) => True
  | .file (.writeSac name _ _) => isOpen name es = true
  | .message (.msg .uploadFiles _ name _) =>
    isOpen name es = true ∧ (IsSac name → Complete (files es) name)
  | .message _ => True

section IsOpen

omit [FloatArith F]

variable {name other : Path} {es : List (Effect F)}

@[simp] theorem isOpen_createFile :
    isOpen name (es ++ [.file (.createFile other)])
      = (isOpen name es || decide (other = name)) := by
  simp [isOpen, List.foldl_append, Effect.track]

@[simp] theorem isOpen_writeSac {hdr : SacHdr F} {data : List F} :
    isOpen name (es ++ [.file (.writeSac other hdr data)]) = isOpen name es := by
  simp [isOpen, List.foldl_append, Effect.track]

@[simp] theorem isOpen_uploadFiles {component : Component} :
    isOpen name (es ++ [uploadFiles component other])
      = (isOpen name es && decide (other ≠ name)) := by
  simp [isOpen, List.foldl_append, uploadFiles, Effect.track]

@[simp] theorem isOpen_sendSamples {samples : Axis → ℕ → F} :
    isOpen name (es ++ [sendSamples samples]) = isOpen name es := by
  simp [isOpen, List.foldl_append, sendSamples, Effect.track]

/-- The file an effect is about. -/
def Effect.name? : Effect F → Option Path
  | .file c => some c.name
  | .message (.msg .uploadFiles _ name _) => some name
  | .message _ => none

/-- Effects on other files do not matter. -/
theorem isOpen_append_of_ne {more : List (Effect F)} (h : ∀ e ∈ more, e.name? ≠ some name) :
    isOpen name (es ++ more) = isOpen name es := by
  have hstep : ∀ (acc : Bool) (e : Effect F), e.name? ≠ some name → e.track name acc = acc := by
    intro acc e he
    cases e with
    | file c =>
      cases c with
      | createFile n =>
        have hne : n ≠ name := fun heq => he (congrArg some heq)
        simp [Effect.track, hne]
      | writeSac n hdr data => rfl
    | message m =>
      cases m with
      | samples x y z => rfl
      | msg process component n last =>
        cases process with
        | uploadFiles =>
          have hne : n ≠ name := fun heq => he (congrArg some heq)
          simp [Effect.track, hne]
        | alertsError => rfl
        | putLocationGps => rfl
        | putRtcDatehour => rfl
  rw [isOpen, List.foldl_append, ← isOpen]
  generalize isOpen name es = acc
  induction more with
  | nil => rfl
  | cons e more ih =>
    rw [List.foldl_cons, hstep acc e (h e List.mem_cons_self)]
    exact ih fun d hd => h d (List.mem_cons_of_mem e hd)

/-- Files that are open may be written. -/
theorem ok_writes {dir : Axis → Path} (hdr : Axis → SacHdr F) (xs : Axis → List F)
    (h : Emitter.Lawful Effect.Ok es) (hopen : ∀ axis, isOpen (dir axis) es = true)
    (axes : List Axis) :
    Emitter.Lawful Effect.Ok
        (es ++ axes.map fun axis => .file (.writeSac (dir axis) (hdr axis) (xs axis))) ∧
      ∀ name, isOpen name (es ++ axes.map fun axis =>
        .file (.writeSac (dir axis) (hdr axis) (xs axis))) = isOpen name es := by
  induction axes using List.reverseRecOn with
  | nil => rw [List.map_nil, List.append_nil]; exact ⟨h, fun _ => rfl⟩
  | append_singleton axes axis ih =>
    obtain ⟨hlawful, hsame⟩ := ih
    rw [List.map_append, List.map_singleton, ← List.append_assoc]
    refine ⟨hlawful.concat ?_, fun name => ?_⟩
    · exact (hsame (dir axis)).trans (hopen axis)
    · rw [isOpen_writeSac, hsame]

/-- Opening files closes none. -/
theorem isOpen_mono (h : isOpen name es = true) :
    isOpen name (es ++ [.file (.createFile other)]) = true := by
  rw [isOpen_createFile, h, Bool.true_or]

end IsOpen

/-- A file of the program that has a header is complete. -/
theorem complete_of_headerOf {calls : List (SacCall F)} (h : Emitter.Lawful SacCall.Ok calls)
    {name : Path} (hsac : IsSac name) (hdr : SacHdr F) (hhdr : headerOf name calls = some hdr) :
    Complete calls name :=
  ⟨hdr, hhdr, (header_of_ok h (fun _ => hsac) hhdr).1,
    filesAfter_of_headerOf (createdFirst_of_ok h) hhdr⟩

/-! ## Runs -/

/-- Between two blocks: the files of the process are open, and have been written. -/
structure SendInv (r : Recorder F) (es : List (Effect F)) : Prop where
  lawful : Emitter.Lawful Effect.Ok es
  recorder : RecorderInv r (files es)
  isOpen : ∀ axis, r.currentDirectory axis ≠ [] → isOpen (r.currentDirectory axis) es = true
  written : ∀ axis, r.currentDirectory axis ≠ [] →
    (headerOf (r.currentDirectory axis) (files es)).isSome = true

omit [FloatArith F] in
/-- Creating a file is always all right. -/
theorem ok_create (es : List (Effect F)) (name : Path) :
    Effect.Ok es (.file (.createFile name)) :=
  trivial

section Step

variable {r : Recorder F} {es : List (Effect F)} {b : Reading F}

/-- What is announced when an hour begins is complete. -/
theorem SendInv.announce (h : SendInv r es) (b : Reading F) (hne : r.currentDirectory .z ≠ []) :
    Effect.Ok (es ++ [.file (.createFile (samplePath b.date b.time .x))]
        ++ [.file (.createFile (samplePath b.date b.time .y))])
      (uploadFiles .adc (r.currentDirectory .z)) := by
  refine ⟨isOpen_mono (isOpen_mono (h.isOpen .z hne)), fun hsac => ?_⟩
  have hlawful := (h.recorder.lawful.concat (ok_createFile _ (samplePath b.date b.time .x))).concat
    (ok_createFile _ (samplePath b.date b.time .y))
  obtain ⟨hdr, hhdr⟩ := Option.isSome_iff_exists.mp (h.written .z hne)
  obtain ⟨date, time, hpath⟩ := h.recorder.named.resolve_left fun hnil => hne (hnil .z)
  rw [hpath] at hsac hhdr ⊢
  have hx : samplePath b.date b.time .x ≠ samplePath date time .z :=
    samplePath_axis_ne (by decide) hsac
  have hy : samplePath b.date b.time .y ≠ samplePath date time .z :=
    samplePath_axis_ne (by decide) hsac
  have hfiles : files (es ++ [.file (.createFile (samplePath b.date b.time .x))]
      ++ [.file (.createFile (samplePath b.date b.time .y))])
        = files es ++ [.createFile (samplePath b.date b.time .x)]
          ++ [.createFile (samplePath b.date b.time .y)] := by
    rw [files_append, files_append]
    rfl
  rw [hfiles]
  refine complete_of_headerOf hlawful hsac hdr ?_
  rw [headerOf_createFile, if_neg hy, headerOf_createFile, if_neg hx, hhdr]

/-- Once the files of a block are chosen, they are open. -/
theorem SendInv.createDirs (h : SendInv r es) (b : Reading F) :
    Emitter.Lawful Effect.Ok (es ++ (createDirsSending r b).2) ∧
      ∀ axis, SensorIoT.isOpen ((createDirsSending r b).1.currentDirectory axis)
        (es ++ (createDirsSending r b).2) = true := by
  by_cases hfirst : r.currentDirectory .x = []
  · have hall : ∀ axis, r.currentDirectory axis = [] :=
      fun axis => (h.recorder.named.nil_iff axis .x).mpr hfirst
    have hthree : ∀ e₁ e₂ e₃ : Effect F, es ++ [e₁, e₂, e₃] = es ++ [e₁] ++ [e₂] ++ [e₃] := by
      simp
    rw [createDirsSending_of_first hall, hthree]
    refine ⟨((h.lawful.concat (ok_create _ _)).concat (ok_create _ _)).concat (ok_create _ _),
      fun axis => ?_⟩
    rw [isOpen_createFile, isOpen_createFile, isOpen_createFile]
    cases axis <;> simp [Recorder.opened]
  obtain ⟨date, time, hpath⟩ := h.recorder.named.resolve_left fun hnil => hfirst (hnil .x)
  have hne : ∀ axis, r.currentDirectory axis ≠ [] :=
    fun axis => mt (h.recorder.named.nil_iff axis .x).mp hfirst
  by_cases hhour : isNewHour b.time = true
  · have hfour : ∀ e₁ e₂ e₃ e₄ : Effect F,
        es ++ [e₁, e₂, e₃, e₄] = es ++ [e₁] ++ [e₂] ++ [e₃] ++ [e₄] := by
      simp
    rw [createDirsSending_of_isNewHour h.recorder.named hfirst hhour, hfour]
    refine ⟨(((h.lawful.concat (ok_create _ _)).concat (ok_create _ _)).concat
      (h.announce b (hne .z))).concat (ok_create _ _), fun axis => ?_⟩
    have hnew : samplePath date time .z = samplePath b.date b.time axis →
        samplePath b.date b.time .z = samplePath b.date b.time axis := by
      intro heq
      by_cases hz : axis = .z
      · rw [hz]
      · by_cases hsac : IsSac (samplePath b.date b.time axis)
        · exact absurd heq (samplePath_axis_ne hz hsac)
        · exact samplePath_of_not_isSac hsac .z
    rw [isOpen_createFile, isOpen_uploadFiles, isOpen_createFile, isOpen_createFile, hpath]
    by_cases heq : samplePath date time .z = samplePath b.date b.time axis
    · simp [Recorder.opened, hnew heq]
    · cases axis <;> simp [Recorder.opened, heq]
  · have hnot : ¬ r.Opens b := fun ho => ho.elim hfirst hhour
    rw [createDirsSending_of_not_opens h.recorder.named hnot, List.append_nil]
    exact ⟨h.lawful, fun axis => h.isOpen axis (hne axis)⟩

/-- An event is announced when its file is complete. -/
theorem ok_eventFile (h : Emitter.Lawful Effect.Ok es)
    (hfiles : Emitter.Lawful SacCall.Ok (files es)) (dt : F) (mem : DateMem) (event : EventData F) :
    Emitter.Lawful Effect.Ok (es ++ ((eventFileCalls dt mem event).map .file
      ++ [uploadFiles .event (eventPath event)])) := by
  have hcalls := ok_eventFileCalls hfiles dt mem event
  obtain ⟨hdr, hdr', hdr'', data, data', data'', heq⟩ : ∃ hdr hdr' hdr'' data data' data'',
      eventFileCalls dt mem event = [.createFile (eventPath event),
        .writeSac (eventPath event) hdr data, .writeSac (eventPath event) hdr' data',
        .writeSac (eventPath event) hdr'' data''] := ⟨_, _, _, _, _, _, rfl⟩
  rw [heq] at hcalls ⊢
  generalize eventPath event = name at hcalls ⊢
  have hopen : isOpen name (es ++ [.file (.createFile name)]) = true := by
    rw [isOpen_createFile, decide_eq_true rfl, Bool.or_true]
  have hwritten : isOpen name (es ++ [.file (.createFile name)] ++ [.file (.writeSac name hdr data)]
      ++ [.file (.writeSac name hdr' data')] ++ [.file (.writeSac name hdr'' data'')]) = true := by
    rw [isOpen_writeSac, isOpen_writeSac, isOpen_writeSac, hopen]
  have hlist : es ++ ([SacCall.createFile name, .writeSac name hdr data, .writeSac name hdr' data',
      .writeSac name hdr'' data''].map Effect.file ++ [uploadFiles .event name])
      = es ++ [.file (.createFile name)] ++ [.file (.writeSac name hdr data)]
        ++ [.file (.writeSac name hdr' data')] ++ [.file (.writeSac name hdr'' data'')]
        ++ [uploadFiles .event name] := by
    simp
  have hfour : files es ++ [SacCall.createFile name, .writeSac name hdr data,
      .writeSac name hdr' data', .writeSac name hdr'' data'']
      = files (es ++ [.file (.createFile name)] ++ [.file (.writeSac name hdr data)]
        ++ [.file (.writeSac name hdr' data')] ++ [.file (.writeSac name hdr'' data'')]) := by
    simp [files, Effect.file?]
  rw [hlist]
  refine ((((h.concat (ok_create _ _)).concat ?_).concat ?_).concat ?_).concat
    ⟨hwritten, fun hsac => ?_⟩
  · exact hopen
  · exact isOpen_writeSac.trans hopen
  · exact isOpen_writeSac.trans (isOpen_writeSac.trans hopen)
  · rw [hfour] at hcalls
    refine complete_of_headerOf hcalls hsac hdr'' ?_
    rw [← hfour]
    have hlast : files es ++ [SacCall.createFile name, .writeSac name hdr data,
        .writeSac name hdr' data', .writeSac name hdr'' data'']
        = (files es ++ [SacCall.createFile name, .writeSac name hdr data,
          .writeSac name hdr' data']) ++ [.writeSac name hdr'' data''] := by
      simp
    rw [hlast, headerOf_writeSac, if_pos rfl]

/-- The detector's part of a block. -/
theorem ok_detectAll (h : Emitter.Lawful Effect.Ok es)
    (hfiles : Emitter.Lawful SacCall.Ok (files es)) (r : Recorder F) (b : Reading F) :
    Emitter.Lawful Effect.Ok (es ++ (r.detectAllSending b).2) ∧
      ∀ e ∈ (r.detectAllSending b).2, ∀ name, IsSample name → e.name? ≠ some name := by
  have haxis : ∀ axis, ∃ event, (r.detectSending b axis).2 = [] ∨
      (r.detectSending b axis).2 = (eventFileCalls r.dt (b.memEvent axis) event).map .file
        ++ [uploadFiles .event (eventPath event)] := by
    intro axis
    rw [Recorder.detectSending]
    split
    · exact ⟨_, .inr rfl⟩
    · exact ⟨staLta r.params axis.name (r.event axis) (r.toBlock b axis), .inl rfl⟩
  have hstep : ∀ axis (es : List (Effect F)), Emitter.Lawful Effect.Ok es →
      Emitter.Lawful SacCall.Ok (files es) →
      Emitter.Lawful Effect.Ok (es ++ (r.detectSending b axis).2) ∧
        Emitter.Lawful SacCall.Ok (files (es ++ (r.detectSending b axis).2)) := by
    intro axis es hes hes'
    obtain ⟨event, hnil | hcalls⟩ := haxis axis
    · rw [hnil, List.append_nil]
      exact ⟨hes, hes'⟩
    · rw [hcalls, files_append, files_append, files_map, files_uploadFiles, List.append_nil]
      exact ⟨ok_eventFile hes hes' _ _ _, ok_eventFileCalls hes' _ _ _⟩
  rw [Recorder.detectAllSending]
  split
  · refine ⟨?_, fun e he name hname => ?_⟩
    · simp only [Axis.all, List.flatMap_cons, List.flatMap_nil, List.append_nil]
      rw [← List.append_assoc, ← List.append_assoc]
      obtain ⟨hx, hx'⟩ := hstep .x es h hfiles
      obtain ⟨hy, hy'⟩ := hstep .y _ hx hx'
      exact (hstep .z _ hy hy').1
    · obtain ⟨axis, -, hmem⟩ := List.mem_flatMap.mp he
      obtain ⟨event, hnil | hcalls⟩ := haxis axis
      · rw [hnil] at hmem
        cases hmem
      · rw [hcalls, List.mem_append, List.mem_singleton, List.mem_map] at hmem
        have hne : eventPath event ≠ name := eventPath_ne event hname
        rcases hmem with ⟨c, hc, rfl⟩ | rfl
        · exact fun heq => hne ((name_eventFileCalls hc).symm.trans (Option.some.inj heq))
        · exact fun heq => hne (Option.some.inj heq)
  · exact ⟨by rwa [List.append_nil], fun e he => by cases he⟩

omit [FloatArith F] in
/-- A file is written after the writes of a block. -/
theorem headerOf_writes_isSome (calls : List (SacCall F)) (dir : Axis → Path)
    (hdr : Axis → SacHdr F) (xs : Axis → List F) (axis : Axis) :
    (headerOf (dir axis) (calls ++ Axis.all.map fun axis =>
      .writeSac (dir axis) (hdr axis) (xs axis))).isSome = true := by
  have hkeep : ∀ (calls : List (SacCall F)) name other hdr data,
      (headerOf name calls).isSome = true →
        (headerOf name (calls ++ [.writeSac other hdr data])).isSome = true := by
    intro calls name other hdr data h
    rw [headerOf_writeSac]
    split
    · rfl
    · exact h
  have hput : ∀ (calls : List (SacCall F)) name hdr data,
      (headerOf name (calls ++ [.writeSac name hdr data])).isSome = true := by
    intro calls name hdr data
    rw [headerOf_writeSac, if_pos rfl]
    rfl
  rw [append_three]
  cases axis
  case x => exact hkeep _ _ _ _ _ (hkeep _ _ _ _ _ (hput _ _ _ _))
  case y => exact hkeep _ _ _ _ _ (hput _ _ _ _)
  case z => exact hput _ _ _ _

/-- **A block announces what is complete and leaves its files open.** -/
theorem SendInv.block (h : SendInv r es) (b : Reading F) :
    SendInv (recordSending r (.block b)).1 (es ++ (recordSending r (.block b)).2) := by
  obtain ⟨hstate, hcalls⟩ := recordSending_files r (.block b)
  have hinv := h.recorder.record (.block b)
  rw [← hstate, ← hcalls, ← files_append] at hinv
  obtain ⟨hdirsState, hdirsFiles⟩ := createDirsSending_files r b
  obtain ⟨hdirs, hopen⟩ := h.createDirs b
  have hdirsInv := (h.recorder.createDirs b).1
  obtain ⟨-, date, time, hpath⟩ := h.recorder.createDirs b
  rw [← hdirsState] at hpath hdirsInv
  rw [← hdirsFiles, ← files_append] at hdirsInv
  obtain ⟨hdetect, hothers⟩ := ok_detectAll hdirs hdirsInv.lawful (createDirsSending r b).1 b
  obtain ⟨event, hevent⟩ : ∃ event, ((createDirsSending r b).1.detectAllSending b).1
      = { (createDirsSending r b).1 with event := event } := by
    rw [(detectAllSending_files _ b).1]
    exact detectAll_fst _ b
  have hdir : ((createDirsSending r b).1.detectAllSending b).1.currentDirectory
      = (createDirsSending r b).1.currentDirectory := by rw [hevent]
  obtain ⟨⟨v, hv, -, -⟩, hdr, -, hwrites⟩ :=
    writeAll_eq ((createDirsSending r b).1.detectAllSending b).1 b
  have hopen' : ∀ axis, SensorIoT.isOpen ((createDirsSending r b).1.currentDirectory axis)
      (es ++ (createDirsSending r b).2 ++ ((createDirsSending r b).1.detectAllSending b).2)
        = true := by
    intro axis
    rw [isOpen_append_of_ne fun e he => hothers e he _ ?_, hopen axis]
    rw [hpath]
    exact isSample_samplePath date time axis
  obtain ⟨hlawful, hsame⟩ := ok_writes hdr (fun axis =>
    (List.range ((createDirsSending r b).1.detectAllSending b).1.strDepValues.dataNumber).map
      (((createDirsSending r b).1.detectAllSending b).1.samples b axis)) hdetect hopen' Axis.all
  have hlist : es ++ (recordSending r (.block b)).2
      = es ++ (createDirsSending r b).2 ++ ((createDirsSending r b).1.detectAllSending b).2
        ++ (writeAll ((createDirsSending r b).1.detectAllSending b).1 b).2.map .file
        ++ [sendSamples (((createDirsSending r b).1.detectAllSending b).1.samples b)] := by
    rw [recordSending, readAnalogInputsAndSaveDataSending]
    simp only [List.append_assoc]
  have hfst : (recordSending r (.block b)).1.currentDirectory
      = (createDirsSending r b).1.currentDirectory := by
    rw [recordSending, readAnalogInputsAndSaveDataSending]
    simp only [hv]
    exact hdir
  rw [hwrites, hdir, List.map_map] at hlist
  refine ⟨?lawful, hinv, fun axis _ => ?isOpen, fun axis _ => ?written⟩
  case lawful =>
    rw [hlist]
    exact hlawful.concat trivial
  case isOpen =>
    rw [hfst, hlist, isOpen_sendSamples]
    exact (hsame _).trans (hopen' axis)
  case written =>
    rw [hfst, hlist, files_append, sendSamples, files_message, List.append_nil, files_append,
      ← List.map_map, files_map]
    exact headerOf_writes_isSome _ _ _ _ axis

/-- A new process has no file open. -/
theorem sendInv_fresh (globals : Recorder F) (hes : Emitter.Lawful Effect.Ok es)
    (hfiles : Emitter.Lawful SacCall.Ok (files es)) : SendInv globals.fresh es :=
  ⟨hes, recorderInv_fresh globals hfiles, fun _ hne => absurd rfl hne, fun _ hne => absurd rfl hne⟩

end Step

theorem sendInv (globals : Recorder F) (inputs : ℕ → Input F) (n : ℕ) :
    SendInv (recorder globals inputs n) (effects globals inputs n) := by
  have hrun : SendInv (Emitter.state recordSending globals.fresh inputs n)
      (effects globals inputs n) :=
    Emitter.invariant (fun _ r es => SendInv r es)
      (sendInv_fresh globals Emitter.lawful_nil Emitter.lawful_nil) (fun n r es h => ?_) n
  · rwa [(effects_files globals inputs n).1] at hrun
  · cases inputs n with
    | block b => exact h.block b
    | restart globals' =>
      rw [recordSending, List.append_nil]
      exact sendInv_fresh globals' h.lawful h.recorder.lawful

/-- **What is announced is finished**, in every run: it is complete on the disk, it has not been
announced since it was created, and it is not written again unless it is created anew. -/
theorem uploads_sound (globals : Recorder F) (inputs : ℕ → Input F) (n : ℕ) :
    Emitter.Lawful Effect.Ok (effects globals inputs n) :=
  (sendInv globals inputs n).lawful

end SensorIoT
