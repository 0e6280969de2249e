import SensorIoT.Recorder.Archive
import SensorIoT.Recorder.Finished
import SensorIoT.Stamps.Notices

/-!
# The whole program

The loop of `readAndSaveData` chooses when a block is recorded and with which stamp, and tells the
server of the clock; `readAnalogInputsAndSaveData` records it.  Here the two are put together: a
turn of the program is a turn of the loop followed by what it calls, and between two turns the
process may be restarted.

**`program_refines`**: on the files and to the server, a run of the program is a run of the recorder
on the blocks that the loop has chosen, apart from the messages about the clock.  So what was shown
of the recorder for every sequence of blocks holds of the program: `program_sound` and
`program_archive`.
-/

set_option autoImplicit false

namespace SensorIoT

variable {F : Type} [FloatArith F]

/-- What a call of `readAnalogInputsAndSaveData` finds, beside its arguments. -/
structure Acquired (F : Type) where
  data : Axis → ℕ → F
  memDir : Axis → DateMem
  memEvent : Axis → DateMem
  memStart : Axis → ℕ → SecondsMem
  memStop : Axis → ℕ → SecondsMem

omit [FloatArith F] in
/-- A call of `readAnalogInputsAndSaveData` with a stamp. -/
def Acquired.reading (a : Acquired F) (stamp : Stamp) : Reading F where
  toStamp := stamp
  data := a.data
  memDir := a.memDir
  memEvent := a.memEvent
  memStart := a.memStart
  memStop := a.memStop

/-- The variables of the program. -/
structure Program (F : Type) where
  loop : Loop
  notices : Notices
  recorder : Recorder F

/-- What happens to the program: a turn of its loop, or a restart. -/
inductive Turn (F : Type) where
  | pass (p : Pass) (a : Acquired F)
  | restart (inicio : ℤ) (globals : Recorder F)

omit [FloatArith F] in
/-- The program before the loop. -/
def Program.start (inicio : ℤ) (globals : Recorder F) : Program F :=
  ⟨Loop.init inicio, Notices.init, globals.fresh⟩

omit [FloatArith F] in
/-- `sendMsg` with the signal that the sensor is activated with. -/
def alertMessage : Source → Effect F
  | .gps => .message (.msg .alertsError .gps "Sensor activado con señal PPS".toList true)
  | .rtc => .message (.msg .alertsError .rtc "Sensor activado con señal SYNC".toList true)

/-- What the loop calls. -/
def perform (r : Recorder F) (a : Acquired F) : Action → Recorder F × List (Effect F)
  | .alert source => (r, [alertMessage source])
  | .record stamp => readAnalogInputsAndSaveDataSending r (a.reading stamp)

/-- What the loop calls, one after the other. -/
def performAll (r : Recorder F) (a : Acquired F) : List Action → Recorder F × List (Effect F)
  | [] => (r, [])
  | c :: cs =>
    let first := perform r a c
    let rest := performAll first.1 a cs
    (rest.1, first.2 ++ rest.2)

/-- A turn of the program. -/
def turn (m : Program F) : Turn F → Program F × List (Effect F)
  | .pass p a =>
    let s := readAndSaveDataPassSending (m.loop, m.notices) p
    let w := performAll m.recorder a s.2
    (⟨s.1.1, s.1.2, w.1⟩, w.2)
  | .restart inicio globals => (Program.start inicio globals, [])

/-- The program after `n` turns. -/
def program (inicio : ℤ) (globals : Recorder F) (turns : ℕ → Turn F) : ℕ → Program F :=
  Emitter.state turn (Program.start inicio globals) turns

/-- What the program does in the first `n` turns. -/
def performed (inicio : ℤ) (globals : Recorder F) (turns : ℕ → Turn F) : ℕ → List (Effect F) :=
  Emitter.trace turn (Program.start inicio globals) turns

/-! ## The blocks of a run -/

omit [FloatArith F] in
/-- What the recorder is given in a turn. -/
def Turn.inputs (m : Program F) : Turn F → List (Input F)
  | .pass p a => (readAndSaveDataPass m.loop p).2.map fun stamp => .block (a.reading stamp)
  | .restart _ globals => [.restart globals]

/-- What the recorder is given in the first `n` turns. -/
def blocks (inicio : ℤ) (globals : Recorder F) (turns : ℕ → Turn F) : ℕ → List (Input F)
  | 0 => []
  | n + 1 => blocks inicio globals turns n ++ (turns n).inputs (program inicio globals turns n)

/-- The recorder on the blocks of a run. -/
def recorderInputs (inicio : ℤ) (globals : Recorder F) (turns : ℕ → Turn F) (n : ℕ) :
    ℕ → Input F :=
  Emitter.onList (.restart globals) (blocks inicio globals turns n)

omit [FloatArith F] in
/-- An effect that is not a message about the clock. -/
def Effect.recorded? : Effect F → Option (Effect F)
  | .message (.msg .alertsError _ _ _) => none
  | e => some e

section Turns

/-- A block has no messages about the clock. -/
theorem recorded_block (r : Recorder F) (b : Reading F) :
    (readAnalogInputsAndSaveDataSending r b).2.filterMap Effect.recorded?
      = (readAnalogInputsAndSaveDataSending r b).2 := by
  have hself : ∀ es : List (Effect F), (∀ e ∈ es, e.recorded? = some e) →
      es.filterMap Effect.recorded? = es := by
    intro es h
    induction es with
    | nil => rfl
    | cons e es ih =>
      rw [List.filterMap_cons_some (h e List.mem_cons_self),
        ih fun d hd => h d (List.mem_cons_of_mem e hd)]
  have hfile : ∀ (calls : List (SacCall F)), ∀ e ∈ calls.map Effect.file, e.recorded? = some e := by
    intro calls e he
    obtain ⟨c, -, rfl⟩ := List.mem_map.mp he
    rfl
  have hdir : ∀ (r : Recorder F) axis last, ∀ e ∈ (createDirRtcSending r axis b last).2,
      e.recorded? = some e := by
    intro r axis last e he
    rw [createDirRtcSending] at he
    split at he
    · exact hfile _ e he
    · split at he
      · rcases List.mem_append.mp he with hsend | hcreate
        · split at hsend
          · rw [List.mem_singleton.mp hsend]
            rfl
          · cases hsend
        · exact hfile _ e hcreate
      · cases he
  have hdetect : ∀ (r : Recorder F), ∀ e ∈ (r.detectAllSending b).2, e.recorded? = some e := by
    intro r e he
    rw [Recorder.detectAllSending] at he
    split at he
    · obtain ⟨axis, -, hmem⟩ := List.mem_flatMap.mp he
      rw [Recorder.detectSending] at hmem
      split at hmem
      · rcases List.mem_append.mp hmem with hcalls | hsend
        · exact hfile _ e hcalls
        · rw [List.mem_singleton.mp hsend]
          rfl
      · cases hmem
    · cases he
  refine hself _ fun e he => ?_
  simp only [readAnalogInputsAndSaveDataSending, createDirsSending, List.mem_append] at he
  rcases he with ((((hx | hy) | hz) | hevent) | hwrite) | hsend
  · exact hdir _ _ _ e hx
  · exact hdir _ _ _ e hy
  · exact hdir _ _ _ e hz
  · exact hdetect _ e hevent
  · exact hfile _ e hwrite
  · rw [List.mem_singleton.mp hsend]
    rfl

/-- What the loop calls in a turn is what the recorder does on the blocks of the turn. -/
theorem performAll_onList {globals : Recorder F} {d : Input F} {l : List (Input F)} {r : Recorder F}
    (h : Emitter.state recordSending globals.fresh (Emitter.onList d l) l.length = r)
    (a : Acquired F) (acts : List Action) :
    let l' := l ++ (acts.filterMap Action.stamp?).map fun stamp => .block (a.reading stamp)
    Emitter.state recordSending globals.fresh (Emitter.onList d l') l'.length
        = (performAll r a acts).1 ∧
      Emitter.trace recordSending globals.fresh (Emitter.onList d l') l'.length
        = Emitter.trace recordSending globals.fresh (Emitter.onList d l) l.length
          ++ (performAll r a acts).2.filterMap Effect.recorded? := by
  induction acts generalizing l r with
  | nil =>
    simp only [List.filterMap_nil, List.map_nil, List.append_nil, performAll]
    exact ⟨h, trivial⟩
  | cons c acts ih =>
    cases c with
    | alert source =>
      have halert : [alertMessage (F := F) source].filterMap Effect.recorded? = [] := by
        cases source <;> rfl
      have hnext := ih h
      simp only [performAll, perform, List.filterMap_append, halert, List.nil_append]
      exact hnext
    | record stamp =>
      obtain ⟨hstate, htrace⟩ := Emitter.onList_concat recordSending globals.fresh d l
        (.block (a.reading stamp))
      rw [h] at hstate htrace
      obtain ⟨hstate', htrace'⟩ := ih hstate
      have hstamps : (Action.record stamp :: acts).filterMap Action.stamp?
          = stamp :: acts.filterMap Action.stamp? := List.filterMap_cons_some rfl
      rw [List.append_assoc, List.singleton_append] at hstate' htrace'
      simp only [hstamps, List.map_cons, performAll, perform, List.filterMap_append, recorded_block]
      refine ⟨hstate', ?_⟩
      rw [htrace', htrace, List.append_assoc]
      rfl

end Turns

/-- The recorder, when it is given the blocks of a run. -/
theorem program_onList (inicio : ℤ) (globals : Recorder F) (turns : ℕ → Turn F) (n : ℕ) :
    Emitter.state recordSending globals.fresh (recorderInputs inicio globals turns n)
        (blocks inicio globals turns n).length = (program inicio globals turns n).recorder ∧
      effects globals (recorderInputs inicio globals turns n) (blocks inicio globals turns n).length
        = (performed inicio globals turns n).filterMap Effect.recorded? := by
  induction n with
  | zero => exact ⟨rfl, rfl⟩
  | succ n ih =>
    obtain ⟨hstate, htrace⟩ := ih
    have hprogram : program inicio globals turns (n + 1)
        = (turn (program inicio globals turns n) (turns n)).1 := rfl
    have hperformed : performed inicio globals turns (n + 1) = performed inicio globals turns n
        ++ (turn (program inicio globals turns n) (turns n)).2 := rfl
    rw [hprogram, hperformed, List.filterMap_append, ← htrace]
    cases hn : turns n with
    | pass p a =>
      obtain ⟨-, hstamps⟩ := readAndSaveDataPassSending_stamps
        (program inicio globals turns n).loop (program inicio globals turns n).notices p
      have hblocks : blocks inicio globals turns (n + 1) = blocks inicio globals turns n
          ++ ((readAndSaveDataPassSending ((program inicio globals turns n).loop,
            (program inicio globals turns n).notices) p).2.filterMap Action.stamp?).map
              fun stamp => .block (a.reading stamp) := by
        rw [blocks, hn, hstamps]
        rfl
      have hnext := performAll_onList hstate a (readAndSaveDataPassSending
        ((program inicio globals turns n).loop, (program inicio globals turns n).notices) p).2
      rw [recorderInputs, hblocks]
      exact hnext
    | restart inicio' globals' =>
      have hblocks : blocks inicio globals turns (n + 1)
          = blocks inicio globals turns n ++ [.restart globals'] := by
        rw [blocks, hn]
        rfl
      rw [recorderInputs, hblocks]
      exact Emitter.onList_concat recordSending globals.fresh _ _ _

/-- **A run of the program is a run of the recorder** on the blocks that the loop has chosen, with
messages about the clock. -/
theorem program_refines (inicio : ℤ) (globals : Recorder F) (turns : ℕ → Turn F) (n : ℕ) :
    (program inicio globals turns n).recorder
        = recorder globals (recorderInputs inicio globals turns n)
          (blocks inicio globals turns n).length ∧
      (performed inicio globals turns n).filterMap Effect.recorded?
        = effects globals (recorderInputs inicio globals turns n)
          (blocks inicio globals turns n).length := by
  obtain ⟨hstate, htrace⟩ := program_onList inicio globals turns n
  exact ⟨by rw [← hstate, (effects_files globals _ _).1], htrace.symm⟩

omit [FloatArith F] in
/-- Messages about the clock do not concern files. -/
theorem files_recorded (es : List (Effect F)) :
    files (es.filterMap Effect.recorded?) = files es := by
  rw [files, files, List.filterMap_filterMap]
  congr 1
  funext e
  cases e with
  | file c => rfl
  | message m =>
    cases m with
    | msg process component msg last => cases process <;> rfl
    | samples x y z => rfl

/-- The files of a run are those of the recorder. -/
theorem files_performed (inicio : ℤ) (globals : Recorder F) (turns : ℕ → Turn F) (n : ℕ) :
    files (performed inicio globals turns n)
      = calls globals (recorderInputs inicio globals turns n)
        (blocks inicio globals turns n).length := by
  rw [← files_recorded, ← (program_onList inicio globals turns n).2,
    (effects_files globals _ _).2]

/-! ## What holds of the program -/

/-- A message about the clock changes nothing. -/
theorem SendInv.alert {r : Recorder F} {es : List (Effect F)} (h : SendInv r es) (source : Source) :
    SendInv r (es ++ [alertMessage source]) := by
  have hok : Effect.Ok es (alertMessage source) := by cases source <;> trivial
  have hfiles : files (es ++ [alertMessage source]) = files es := by
    rw [files_append]
    cases source <;> exact List.append_nil _
  have hopen : ∀ name, SensorIoT.isOpen name (es ++ [alertMessage source])
      = SensorIoT.isOpen name es := by
    intro name
    refine isOpen_append_of_ne fun e he => ?_
    rw [List.mem_singleton.mp he]
    cases source <;> exact nofun
  refine ⟨h.lawful.concat hok, by rw [hfiles]; exact h.recorder, fun axis hne => ?_,
    fun axis hne => ?_⟩
  · rw [hopen]
    exact h.isOpen axis hne
  · rw [hfiles]
    exact h.written axis hne

theorem SendInv.performAll {r : Recorder F} {es : List (Effect F)} (h : SendInv r es)
    (a : Acquired F) (acts : List Action) :
    SendInv (performAll r a acts).1 (es ++ (performAll r a acts).2) := by
  induction acts generalizing r es with
  | nil =>
    rw [SensorIoT.performAll, List.append_nil]
    exact h
  | cons c acts ih =>
    rw [SensorIoT.performAll]
    simp only [← List.append_assoc]
    cases c with
    | alert source => exact ih (h.alert source)
    | record stamp => exact ih (h.block (a.reading stamp))

/-- **What the program announces is finished**, whatever the clocks do and whenever it is
restarted. -/
theorem program_sound (inicio : ℤ) (globals : Recorder F) (turns : ℕ → Turn F) (n : ℕ) :
    Emitter.Lawful Effect.Ok (performed inicio globals turns n) := by
  have hrun : SendInv (program inicio globals turns n).recorder
      (performed inicio globals turns n) := by
    refine Emitter.invariant (fun _ (m : Program F) es => SendInv m.recorder es)
      (sendInv_fresh globals Emitter.lawful_nil Emitter.lawful_nil) (fun n m es h => ?_) n
    cases turns n with
    | pass p a => exact h.performAll a _
    | restart inicio' globals' =>
      rw [turn, List.append_nil]
      exact sendInv_fresh globals' h.lawful h.recorder.lawful
  exact hrun.lawful

/-- **What the program records can be read back**, whole and in order, from the files it leaves, as
long as the loop does not choose a stamp that opens a file twice, or one without an hour. -/
theorem program_archive [FloatMem F] (inicio : ℤ) (globals : Recorder F) (turns : ℕ → Turn F)
    (n : ℕ) (axis : Axis)
    (hno : NoReopen (recorderInputs inicio globals turns n) (blocks inicio globals turns n).length)
    (hhours : HoursKnown (recorderInputs inicio globals turns n)
      (blocks inicio globals turns n).length)
    (old : SacMem F) (LN : ℤ) (hLN : LN < 2 ^ 31)
    (hroom : ∀ name ∈ openedFiles globals (recorderInputs inicio globals turns n) axis
        (blocks inicio globals turns n).length,
      (samplesOf name (files (performed inicio globals turns n))).length ≤ LN)
    (alloc : ℕ → Bool) (halloc : ∀ k ≤ LN.toNat, alloc k = true) :
    let inputs := recorderInputs inicio globals turns n
    let count := (blocks inicio globals turns n).length
    let read name := brsac alloc old
      (onDisk (filesAfter (files (performed inicio globals turns n)))) LN name
    (∀ name ∈ openedFiles globals inputs axis count, (read name).nerr = 0) ∧
      ((openedFiles globals inputs axis count).flatMap fun name => (read name).data.getD [])
        = recordedSamples globals inputs axis count := by
  simp only [files_performed] at hroom ⊢
  exact archive_complete globals _ axis _ hno hhours old LN hLN hroom alloc halloc

/-- Nothing but counts. -/
def ramps : Acquired Float32 where
  data := fun _ i => (i : Float32)
  memDir := fun _ => ⟨[], [], [], [], [], [], []⟩
  memEvent := fun _ => ⟨[], [], [], [], [], [], []⟩
  memStart := fun _ _ => ⟨[], [], []⟩
  memStop := fun _ _ => ⟨[], [], []⟩

/-- A turn without the GPS, at an hour that the RTC has just begun. -/
def hourTurn (hour : UInt8) : Turn Float32 :=
  .pass ⟨false, true, 100, [], some [0, 0, hour, 6, 5, 5, 0x17]⟩ ramps

/-- Noon and one o'clock. -/
def twoHours : ℕ → Turn Float32
  | 0 => hourTurn 0x12
  | _ + 1 => hourTurn 0x13

/-- Two files of forty samples each. -/
theorem program_archive_twoHours :
    let read name := brsac (fun _ => true) (newhdr : SacHdr Float32).image
      (onDisk (filesAfter (files (performed 0 single40 twoHours 2)))) 1000 name
    ([rampPath, samplePath "050517".toList "130000".toList .z].flatMap fun name =>
      (read name).data.getD [])
        = recordedSamples single40 (recorderInputs 0 single40 twoHours 2) .z 2 := by
  have hlength : (blocks 0 single40 twoHours 2).length = 2 := rfl
  have hfiles : openedFiles single40 (recorderInputs 0 single40 twoHours 2) .z 2
      = [rampPath, samplePath "050517".toList "130000".toList .z] := by decide +kernel
  have hno : NoReopen (recorderInputs 0 single40 twoHours 2) 2 := by
    intro i j hij hj b c hb hc axis other
    obtain ⟨rfl, rfl⟩ : i = 0 ∧ j = 1 := by omega
    obtain rfl := Input.block.inj hb.1
    obtain rfl := Input.block.inj hc.1
    cases axis <;> cases other <;> decide +kernel
  have hhours : HoursKnown (recorderInputs 0 single40 twoHours 2) 2 := by
    intro i hi b hb
    rcases (by omega : i = 0 ∨ i = 1) with rfl | rfl
    · obtain rfl := Input.block.inj hb.1
      decide +kernel
    · obtain rfl := Input.block.inj hb.1
      decide +kernel
  have hlen : (samplesOf rampPath (files (performed 0 single40 twoHours 2))).length = 40 := by
    decide +kernel
  have hlen' : (samplesOf (samplePath "050517".toList "130000".toList .z)
      (files (performed 0 single40 twoHours 2))).length = 40 := by
    decide +kernel
  have hroom : ∀ name ∈ openedFiles single40 (recorderInputs 0 single40 twoHours 2) .z 2,
      ((samplesOf name (files (performed 0 single40 twoHours 2))).length : ℤ) ≤ 1000 := by
    intro name hname
    rw [hfiles, List.mem_pair] at hname
    rcases hname with rfl | rfl
    · rw [hlen]; decide
    · rw [hlen']; decide
  have harchive := (program_archive 0 single40 twoHours 2 .z hno hhours newhdr.image 1000
    (by decide) hroom (fun _ => true) fun _ _ => rfl).2
  rw [hlength, hfiles] at harchive
  exact harchive

end SensorIoT
