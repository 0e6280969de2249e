import SensorIoT.Recorder.Archive
import SensorIoT.Recorder.Detecting
import SensorIoT.StaLta.Content
import SensorIoT.StaLta.Names

/-!
# The archive of events

What the program is for, the second half: of every event a file with the signal around it.  The
detectors of the three axes write their files in between the blocks of the continuous files, on one
disk and with names of their own, and a file stays as it was written until one of the same name is
created.

**`events_complete`**: if the stamps are in order and no two events of the axis get one name, the
file of every event that was not spoiled can be read back at any later time, and what is read is the
signal from `preEvent` samples before the event to `postEvent` samples after it, without the sample
at which it stopped.  When two events get one name is the subject of `SensorIoT.StaLta.Names`.
-/

set_option autoImplicit false

namespace SensorIoT

open Register

variable {F : Type} [FloatArith F]

/-! ## The file of an event -/

/-- The file is written in three parts, which are the samples of the event as it was saved. -/
theorem samplesOf_eventFileCalls (calls : List (SacCall F)) (dt : F) (mem : DateMem)
    (event : EventData F) :
    samplesOf (eventPath event) (calls ++ eventFileCalls dt mem event) = event.content := by
  obtain ⟨hdr, hdr', hdr'', hcalls⟩ : ∃ hdr hdr' hdr'', eventFileCalls dt mem event
      = [.createFile (eventPath event),
        .writeSac (eventPath event) hdr ((List.range event.countPreEvent).map event.preEvent),
        .writeSac (eventPath event) hdr'
          ((List.range event.countEventSamples).map event.eventSamples),
        .writeSac (eventPath event) hdr''
          ((List.range event.countPostEvent).map event.postEvent)] := ⟨_, _, _, rfl⟩
  rw [hcalls, EventData.content, EventData.recorded]
  simp [samplesOf, List.foldl_append]

section Names

variable {e e' : EventData F}

omit [FloatArith F] in
/-- The end of the name. -/
theorem suffix_eventPath (htime : IsTime e.time) :
    '_' :: cstr e.axis ++ ".sac".toList <:+ eventPath e := by
  have hdigit : ∀ i < 6, nul ≠ charAt e.time i := fun i hi =>
    (ne_nul_of_isDigit (htime.isDigit i hi)).symm
  have hdir : nul ∉ eventsDir := by decide
  have hsac : nul ∉ ".sac".toList := by decide
  have hmark : nul ≠ '/' ∧ nul ≠ '_' := by decide
  have htext : eventPath e = (eventsDir ++ '/' :: cstr e.date ++ '/' :: cstr e.date ++ '_' ::
      charAt e.time 0 :: charAt e.time 1 :: charAt e.time 2 :: charAt e.time 3 ::
      charAt e.time 4 :: [charAt e.time 5]) ++ ('_' :: cstr e.axis ++ ".sac".toList) := by
    rw [eventPath, cstr_eq_self]
    · simp only [List.append_assoc, List.cons_append, List.nil_append]
    · simp only [List.mem_append, List.mem_cons, nul_notMem_cstr, hdir, hsac, hmark,
        hdigit 0 (by omega), hdigit 1 (by omega), hdigit 2 (by omega), hdigit 3 (by omega),
        hdigit 4 (by omega), hdigit 5 (by omega), or_self, not_false_eq_true]
  rw [htext]
  exact List.suffix_append _ _

omit [FloatArith F] in
theorem isSac_eventPath (htime : IsTime e.time) : IsSac (eventPath e) :=
  (List.suffix_append ('_' :: cstr e.axis) ".sac".toList).trans (suffix_eventPath htime)

omit [FloatArith F] in
/-- The files of two axes are two files. -/
theorem eventPath_ne_of_axis (htime : IsTime e.time) (htime' : IsTime e'.time) {axis other : Axis}
    (haxis : cstr e.axis = cstr axis.name) (hother : cstr e'.axis = cstr other.name)
    (hne : axis ≠ other) : eventPath e ≠ eventPath e' := by
  intro heq
  have hend := suffix_eventPath htime
  have hend' := suffix_eventPath htime'
  rw [heq, haxis] at hend
  rw [hother] at hend'
  have hsuffix := List.suffix_of_suffix_length_le hend hend'
    (by cases axis <;> cases other <;> decide)
  cases axis <;> cases other <;> first | exact absurd rfl hne | exact absurd hsuffix (by decide)

end Names

/-! ## What a block does to the file of an event -/

section Block

variable {r : Recorder F} {calls calls' more : List (SacCall F)} {b : Reading F} {name : Path}
  {axis : Axis}

omit [FloatArith F] in
theorem samplesOf_append_congr (h : samplesOf name calls = samplesOf name calls') :
    samplesOf name (calls ++ more) = samplesOf name (calls' ++ more) := by
  rw [samplesOf] at h ⊢
  rw [samplesOf] at h ⊢
  rw [List.foldl_append, List.foldl_append, h]

omit [FloatArith F] in
/-- The continuous files of a block are continuous files. -/
theorem isSample_createDirs (hr : r.Named) :
    (∀ c ∈ (createDirs r b).2, IsSample c.name) ∧
      ∀ axis, IsSample ((createDirs r b).1.currentDirectory axis) := by
  by_cases ho : r.Opens b
  · rw [createDirs_of_opens hr ho]
    refine ⟨fun c hc => ?_, fun axis => isSample_samplePath _ _ _⟩
    obtain ⟨axis, -, rfl⟩ := List.mem_map.mp hc
    exact isSample_samplePath _ _ _
  · obtain ⟨date, time, hpath⟩ := hr.resolve_left fun hnil => ho (.inl (hnil .x))
    rw [createDirs_of_not_opens hr ho]
    refine ⟨fun c hc => absurd hc List.not_mem_nil, fun axis => ?_⟩
    rw [hpath]
    exact isSample_samplePath _ _ _

/-- Only the detectors touch a file that is not a continuous one. -/
theorem samplesOf_block_of_event (hr : r.Named) (hname : ¬ IsSample name) :
    samplesOf name (calls ++ (readAnalogInputsAndSaveData r b).2)
      = samplesOf name (calls ++ ((createDirs r b).1.detectAll b).2) := by
  obtain ⟨hdirs, hcurrent⟩ := isSample_createDirs (b := b) hr
  obtain ⟨event, he⟩ := detectAll_fst (createDirs r b).1 b
  obtain ⟨-, hdr, -, hcalls⟩ := writeAll_eq ((createDirs r b).1.detectAll b).1 b
  have hwrites : ∀ c ∈ (writeAll ((createDirs r b).1.detectAll b).1 b).2, c.name ≠ name := by
    rintro c hc rfl
    rw [hcalls, he] at hc
    obtain ⟨axis, -, rfl⟩ := List.mem_map.mp hc
    exact hname (hcurrent axis)
  have hopens : ∀ c ∈ (createDirs r b).2, c.name ≠ name := by
    rintro c hc rfl
    exact hname (hdirs c hc)
  rw [readAnalogInputsAndSaveData, ← List.append_assoc, ← List.append_assoc,
    samplesOf_append_of_ne hwrites]
  exact samplesOf_append_congr (samplesOf_append_of_ne hopens)

/-- Of the detectors only that of the axis, if the others write other files. -/
theorem samplesOf_detectAll (hflag : r.flagEvent = true)
    (hother : ∀ other, axis ≠ other → ∀ c ∈ (r.detect b other).2, c.name ≠ name) :
    samplesOf name (calls ++ (r.detectAll b).2)
      = samplesOf name (calls ++ (r.detect b axis).2) := by
  have hkeep : ∀ other, axis ≠ other → ∀ calls : List (SacCall F),
      samplesOf name (calls ++ (r.detect b other).2) = samplesOf name calls :=
    fun other hne calls => samplesOf_append_of_ne (hother other hne)
  rw [Recorder.detectAll, if_pos hflag]
  simp only [Axis.all, List.flatMap_cons, List.flatMap_nil, List.append_nil]
  rw [← List.append_assoc, ← List.append_assoc]
  cases axis with
  | x => rw [hkeep .z (by decide), hkeep .y (by decide)]
  | y =>
    rw [hkeep .z (by decide)]
    exact samplesOf_append_congr (hkeep .x (by decide) calls)
  | z =>
    refine samplesOf_append_congr ?_
    rw [hkeep .y (by decide), hkeep .x (by decide)]

end Block

/-! ## Runs -/

omit [FloatArith F] in
/-- The blocks that the detector of an axis is given. -/
def Recorder.blocks (globals : Recorder F) (bs : ℕ → Reading F) (axis : Axis) : ℕ → Block F :=
  fun i => globals.toBlock (bs i) axis

/-- The state of an axis at the end of block `M`, when it is looked at whether to save an event. -/
def eventAt (globals : Recorder F) (bs : ℕ → Reading F) (axis : Axis) (M : ℕ) : EventData F :=
  staLta globals.params axis.name
    (axisRun globals.params axis.name (globals.blocks bs axis) M) (globals.blocks bs axis M)

/-- The first `N` stamps are in order, and nothing in memory spoils the start times of events. -/
structure Stamping (globals : Recorder F) (bs : ℕ → Reading F) (N : ℕ) : Prop where
  order : ∀ axis, InOrder (globals.blocks bs axis) N
  quiet : ∀ axis, ∀ M < N, ∀ k, ((globals.blocks bs axis M).memStart k).Quiet

section Run

variable {globals : Recorder F} {bs : ℕ → Reading F} {axis : Axis} {M N : ℕ}

/-- What a detector does to the files at the end of a block. -/
theorem detect_run (hflag : globals.flagEvent = true)
    (hfreq : globals.params.freq = globals.sps.val) (hevent : globals.event = fun _ => .init)
    (bs : ℕ → Reading F) (N : ℕ) :
    (createDirs (recorder globals (fun i => .block (bs i)) N) (bs N)).1.flagEvent = true ∧
      ∀ axis, ((createDirs (recorder globals (fun i => .block (bs i)) N) (bs N)).1.detect
          (bs N) axis).2
        = if (eventAt globals bs axis N).isPendingSaveEvent = true then
            eventFileCalls globals.dt ((bs N).memEvent axis) (eventAt globals bs axis N)
          else [] := by
  obtain ⟨dir, date, v, hr⟩ := runsDetectors globals hflag hfreq hevent bs N
  obtain ⟨dir', date', v', hdirs⟩ :=
    createDirs_fst (recorder globals (fun i => .block (bs i)) N) (bs N)
  rw [hdirs, hr]
  refine ⟨hflag, fun axis => ?_⟩
  rw [Recorder.detect, savePending]
  split
  case isTrue hpend => exact (if_pos hpend).symm
  case isFalse hpend => exact (if_neg hpend).symm

/-- The stamp of an event that is saved. -/
theorem stamp_eventAt (hp : globals.params.Checked) (h : Stamping globals bs N)
    (hM : M ∈ savedBlocks globals.params axis.name (globals.blocks bs axis) N) :
    IsTime (eventAt globals bs axis M).time ∧
      cstr (eventAt globals bs axis M).axis = cstr axis.name := by
  obtain ⟨T, hT⟩ := exists_savedFrom hp hM
  obtain ⟨⟨-, haxis⟩, htime, -⟩ :=
    hT.stamp hp (h.order axis) (h.quiet axis) (mem_savedBlocks.mp hM).1
  exact ⟨htime, haxis⟩

/-- **The file of an event holds the event**, as long as no other event of the axis gets its
name. -/
theorem samplesOf_savedName (hflag : globals.flagEvent = true)
    (hfreq : globals.params.freq = globals.sps.val) (hevent : globals.event = fun _ => .init)
    (hp : globals.params.Checked) (hstamps : Stamping globals bs N)
    (hnames : NamesDiffer globals.params axis.name (globals.blocks bs axis) N) :
    ∀ n ≤ N, ∀ M ∈ savedBlocks globals.params axis.name (globals.blocks bs axis) n,
      samplesOf (eventPath (eventAt globals bs axis M))
        (calls globals (fun i => .block (bs i)) n) = (eventAt globals bs axis M).content := by
  intro n
  induction n with
  | zero => exact fun _ M hM => absurd (mem_savedBlocks.mp hM).1 (Nat.not_lt_zero M)
  | succ n ih =>
    intro hn M hM
    have hlt : M < n + 1 := (mem_savedBlocks.mp hM).1
    have hpend : (eventAt globals bs axis M).isPendingSaveEvent = true := (mem_savedBlocks.mp hM).2
    have hsaved : ∀ other m, m < n + 1 → (eventAt globals bs other m).isPendingSaveEvent = true →
        m ∈ savedBlocks globals.params other.name (globals.blocks bs other) N :=
      fun other m hm hpend => mem_savedBlocks.mpr ⟨by omega, hpend⟩
    obtain ⟨htime, haxis⟩ := stamp_eventAt hp hstamps (hsaved axis M hlt hpend)
    obtain ⟨hflag', hdetect⟩ := detect_run hflag hfreq hevent bs n
    have hcalls : calls globals (fun i => .block (bs i)) (n + 1)
        = calls globals (fun i => .block (bs i)) n
          ++ (readAnalogInputsAndSaveData (recorder globals (fun i => .block (bs i)) n)
            (bs n)).2 := rfl
    have hother : ∀ other, axis ≠ other → ∀ c ∈ ((createDirs (recorder globals
        (fun i => .block (bs i)) n) (bs n)).1.detect (bs n) other).2,
        c.name ≠ eventPath (eventAt globals bs axis M) := by
      intro other hne c hc
      rw [hdetect other] at hc
      split at hc
      case isTrue hpend' =>
        obtain ⟨htime', haxis'⟩ := stamp_eventAt hp hstamps
          (hsaved other n (Nat.lt_succ_self n) hpend')
        rw [name_eventFileCalls hc]
        exact (eventPath_ne_of_axis htime htime' haxis haxis' hne).symm
      case isFalse => exact absurd hc List.not_mem_nil
    rw [hcalls, samplesOf_block_of_event (recorderInv _ _ n).named
      (fun hsample => eventPath_ne _ hsample rfl), samplesOf_detectAll hflag' hother, hdetect axis]
    rcases Nat.lt_succ_iff_lt_or_eq.mp hlt with hold | rfl
    · have hsamples := ih (by omega) M (mem_savedBlocks.mpr ⟨hold, hpend⟩)
      split
      case isTrue hpend' =>
        rw [samplesOf_append_of_ne, hsamples]
        intro c hc
        rw [name_eventFileCalls hc]
        intro heq
        have hM' := hsaved axis n (Nat.lt_succ_self n) hpend'
        exact hold.ne (List.inj_on_of_nodup_map hnames (hsaved axis M hlt hpend) hM' heq.symm)
      case isFalse => rw [List.append_nil, hsamples]
    · rw [if_pos hpend]
      exact samplesOf_eventFileCalls _ _ _ _

/-- **The archive of events is complete.**  If the stamps are in order and no two events of the axis
get one name, the file of an event that was not spoiled can be read, and what is read is the signal
around the event, all of it but the sample at which it stopped. -/
theorem events_complete [FloatMem F] (hflag : globals.flagEvent = true)
    (hfreq : globals.params.freq = globals.sps.val) (hevent : globals.event = fun _ => .init)
    (hp : globals.params.Accepted) (hle : globals.params.preEvent ≤ globals.params.lengthLTA)
    (hstamps : Stamping globals bs N)
    (hnames : NamesDiffer globals.params axis.name (globals.blocks bs axis) N)
    (hM : M ∈ savedBlocks globals.params axis.name (globals.blocks bs axis) N)
    (hunspoiled : Unspoiled globals.params axis.name (globals.blocks bs axis)
      (M * globals.params.freq + (globals.params.freq - 1))) {t s : ℕ}
    (ht : IsLast (Starts globals.params axis.name (globals.blocks bs axis))
      ((M + 1) * globals.params.freq) t)
    (hs : IsLast (Stops globals.params axis.name (globals.blocks bs axis))
      ((M + 1) * globals.params.freq) s)
    (old : SacMem F) (LN : ℤ) (hLN : LN < 2 ^ 31)
    (hroom : s - t + globals.params.preEvent + globals.params.postEvent ≤ LN)
    (alloc : ℕ → Bool) (halloc : ∀ k ≤ LN.toNat, alloc k = true) :
    let read := brsac alloc old
      (onDisk (filesAfter (calls globals (fun i => .block (bs i)) N))) LN
      (eventPath (eventAt globals bs axis M))
    read.nerr = 0 ∧ globals.params.preEvent ≤ t ∧
      read.data = some (slice (stream globals.params (globals.blocks bs axis))
          (t - globals.params.preEvent) s
        ++ slice (stream globals.params (globals.blocks bs axis)) (s + 1)
          (s + globals.params.postEvent + 1)) := by
  have hf := hp.checked.freq_pos
  have hpend : (eventAt globals bs axis M).isPendingSaveEvent = true := (mem_savedBlocks.mp hM).2
  have hlast : after globals.params axis.name (globals.blocks bs axis)
      (M * globals.params.freq + (globals.params.freq - 1)) = eventAt globals bs axis M :=
    after_last hf axis.name (globals.blocks bs axis) M
  have hend := last_succ hf (M := M)
  rw [← hend] at ht hs
  obtain ⟨hpret, hlt, hcontent⟩ := content_pending hp hle hunspoiled (by rw [hlast]; exact hpend)
    ht hs
  have hsamples := samplesOf_savedName hflag hfreq hevent hp.checked hstamps hnames N
    (Nat.le_refl N) M hM
  rw [hlast] at hcontent
  rw [hcontent] at hsamples
  have hlen : (samplesOf (eventPath (eventAt globals bs axis M))
      (calls globals (fun i => .block (bs i)) N)).length
      = s - t + globals.params.preEvent + globals.params.postEvent := by
    rw [hsamples, List.length_append, length_slice, length_slice]
    omega
  have hall := List.take_of_length_le (i := LN.toNat) (l := samplesOf
    (eventPath (eventAt globals bs axis M)) (calls globals (fun i => .block (bs i)) N)) (by omega)
  obtain ⟨hdr, hhdr⟩ := headerOf_of_samples
    (createdFirst_of_ok (recorderInv globals (fun i => .block (bs i)) N).lawful)
    (List.ne_nil_of_length_pos (l := samplesOf (eventPath (eventAt globals bs axis M))
      (calls globals (fun i => .block (bs i)) N)) (by omega))
  have hread := brsac_written (List.prefix_refl _)
    (isSac_eventPath (stamp_eventAt hp.checked hstamps hM).1) old (show 0 ≤ LN by omega) (by omega)
    (by rw [hall]; exact halloc _ (by omega)) hhdr
  intro read
  have hread : read = _ := hread
  rw [hread, hall, if_neg (by omega), hsamples]
  exact ⟨rfl, hpret, rfl⟩

end Run

/-! ## A small instance -/

/-- The globals of a process run with `-f 40 -v` on the board. -/
def detecting40 : Recorder Float32 := { single40 with flagEvent := true }

/-- A signal that is steady until sample 41, and zero from then on, in three seconds. -/
def quake (N : ℕ) : Reading Float32 where
  date := "050517".toList
  time := ["120000".toList, "120001".toList, "120002".toList].getD N []
  isGPS := false
  data := fun _ i => if N * 40 + i / 5 < 41 then 1 else 0
  memDir := fun _ => ⟨[], [], [], [], [], [], []⟩
  memEvent := fun _ => ⟨[], [], [], [], [], [], []⟩
  memStart := fun _ _ => ⟨[], [], []⟩
  memStop := fun _ _ => ⟨[], [], []⟩

section Quake

/-- The options behind the parameters. -/
theorem accepted_detecting40 : detecting40.params.Accepted :=
  ⟨⟨40, FloatArith.lit (3 / 100), 1, FloatArith.lit 3, FloatArith.lit (3 / 2),
    FloatArith.lit (1 / 2), 1, 1⟩, by decide +kernel⟩

theorem stamping_quake : Stamping detecting40 quake 3 := by
  have hlt : ∀ M' < 3, ∀ M < M', instant (quake M).date (quake M).time false
      < instant (quake M').date (quake M').time false := by decide +kernel
  have hvalid : ∀ M < 3, ValidStamp (quake M).date (quake M).time false := by decide +kernel
  exact ⟨fun axis => ⟨hvalid, fun M M' h hN => hlt M' hN M h⟩,
    fun _ _ _ _ => SecondsMem.quiet_clear⟩

theorem savedBlocks_quake :
    savedBlocks detecting40.params Axis.z.name (detecting40.blocks quake .z) 3 = [2] := by
  decide +kernel

/-- An event is open before sample 41 only. -/
theorem eventOn_quake : ∀ n < 121, (before detecting40.params Axis.z.name
    (detecting40.blocks quake .z) n).eventOn = decide (n = 41) := by
  decide +kernel

/-- The event is not discarded. -/
theorem lastsLong_quake :
    lastsLong detecting40.params (closeEvent ((before detecting40.params Axis.z.name
      (detecting40.blocks quake .z) 41).judged detecting40.params
        (detecting40.blocks quake .z 1) 1)) (detecting40.blocks quake .z 1) 1 = true := by
  decide +kernel

theorem after_quake {n : ℕ} (hn : n < 120) : (after detecting40.params Axis.z.name
    (detecting40.blocks quake .z) n).eventOn = decide (n = 40) := by
  rw [← eventOn_before_succ (show 0 < 40 by decide), eventOn_quake (n + 1) (by omega)]
  simp

theorem unspoiled_quake : Unspoiled detecting40.params Axis.z.name (detecting40.blocks quake .z)
    (2 * 40 + (40 - 1)) := by
  constructor
  case neat =>
    refine fun m hm => ⟨fun hover => ?_, fun hdiscard => ?_⟩
    · have := le_of_overflowsAt accepted_detecting40.checked hover
      exact absurd (this.trans hm) (by decide)
    · have hon := hdiscard.2.1.1
      rw [eventOn_quake m (by omega), decide_eq_true_eq] at hon
      subst hon
      exact absurd (lastsLong_quake.symm.trans hdiscard.2.2.2) (by decide)
  case fits =>
    intro m hm hend hpend
    obtain ⟨M, rfl⟩ : ∃ M, m = M * 40 + (40 - 1) := by
      change (m + 1) % 40 = 0 at hend
      exact ⟨m / 40, by omega⟩
    have hlast := after_last (show 0 < detecting40.params.freq by decide) Axis.z.name
      (detecting40.blocks quake .z) M
    have hM : M ∈ savedBlocks detecting40.params Axis.z.name (detecting40.blocks quake .z) 3 :=
      mem_savedBlocks.mpr
        ⟨by omega, (congrArg EventData.isPendingSaveEvent hlast).symm.trans hpend⟩
    rw [savedBlocks_quake, List.mem_singleton] at hM
    omega

/-- The event of sample 40 stopped at sample 41, which is not in its file. -/
theorem events_complete_quake :
    let read := brsac (fun _ => true) (newhdr : SacHdr Float32).image
      (onDisk (filesAfter (calls detecting40 (fun i => .block (quake i)) 3))) 200
      (eventPath (eventAt detecting40 quake .z 2))
    read.nerr = 0 ∧ 40 ≤ 40 ∧
      read.data = some (slice (stream detecting40.params (detecting40.blocks quake .z)) (40 - 40) 41
        ++ slice (stream detecting40.params (detecting40.blocks quake .z)) (41 + 1)
          (41 + 40 + 1)) := by
  have ht : IsLast (Starts detecting40.params Axis.z.name (detecting40.blocks quake .z))
      ((2 + 1) * 40) 40 := by
    refine ⟨by decide, ⟨eventOn_quake 40 (by decide), after_quake (by decide)⟩,
      fun j hj hlt h => ?_⟩
    have hon := h.2
    rw [after_quake (by omega), decide_eq_true_eq] at hon
    omega
  have hs : IsLast (Stops detecting40.params Axis.z.name (detecting40.blocks quake .z))
      ((2 + 1) * 40) 41 := by
    refine ⟨by decide, ⟨eventOn_quake 41 (by decide), after_quake (by decide)⟩,
      fun j hj hlt h => ?_⟩
    have hon := h.1
    rw [eventOn_quake j (by omega), decide_eq_true_eq] at hon
    omega
  exact events_complete rfl rfl rfl accepted_detecting40 (by decide) stamping_quake
    (by rw [NamesDiffer, savedBlocks_quake]; exact List.nodup_singleton _)
    (by rw [savedBlocks_quake]; exact List.mem_singleton.mpr rfl) unspoiled_quake ht hs
    newhdr.image 200 (by decide) (by decide) (fun _ => true) fun _ _ => rfl

end Quake

end SensorIoT
