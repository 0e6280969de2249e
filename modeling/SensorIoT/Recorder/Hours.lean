import SensorIoT.Recorder.Headers

/-!
# The file of the hour

The name of a continuous file carries a date and an hour, and what is in it should be the samples of
that hour.  The program chooses the files anew only on the first block of a process and on a block
stamped exactly HH0000; every other block goes where the one before it went.

So the samples are where their stamps say exactly as long as every hour that is entered is entered
on its first second (`rightFiles_iff`).  One missing second, at the turn of an hour, is enough for a
whole hour in the wrong file.
-/

set_option autoImplicit false

namespace SensorIoT

/-! ## Stamps -/

/-- Two stamps with the same date and the same hour. -/
def SameHour {F : Type} (a b : Reading F) : Prop :=
  cstr a.date = cstr b.date ∧ charAt a.time 0 = charAt b.time 0 ∧ charAt a.time 1 = charAt b.time 1

/-- The name of a file says its date and its hour. -/
theorem samplePath_eq_iff {F : Type} {a b : Reading F} (ha : HasHour a.time) (hb : HasHour b.time)
    (axis : Axis) :
    samplePath a.date a.time axis = samplePath b.date b.time axis ↔ SameHour a b := by
  rw [samplePath_of_hasHour ha, samplePath_of_hasHour hb]
  refine ⟨fun heq => ?_, ?_⟩
  · obtain ⟨hstem, htail⟩ := List.append_inj' heq rfl
    have hdates : cstr a.date ++ ('/' :: cstr a.date ++ ['_'])
        = cstr b.date ++ ('/' :: cstr b.date ++ ['_']) := by
      have hrest : samplesDir ++ ['/'] ++ (cstr a.date ++ ('/' :: cstr a.date ++ ['_']))
          = samplesDir ++ ['/'] ++ (cstr b.date ++ ('/' :: cstr b.date ++ ['_'])) := by
        simpa [sampleStem] using hstem
      exact List.append_cancel_left hrest
    have hlen : (cstr a.date).length = (cstr b.date).length := by
      have := congrArg List.length hdates
      simp only [List.length_append, List.length_cons, List.length_nil] at this
      omega
    simp only [List.cons.injEq] at htail
    exact ⟨(List.append_inj hdates hlen).1, htail.1, htail.2.1⟩
  · rintro ⟨hdate, h0, h1⟩
    rw [sampleStem, sampleStem, hdate, h0, h1]

/-! ## Where the samples go -/

variable {F : Type} [FloatArith F]

/-- On a block, the program ends by appending the samples of each axis to the file with the name
given. -/
def AppendsTo (r : Recorder F) (b : Reading F) (path : Axis → Path) : Prop :=
  ∃ (before : List (SacCall F)) (hdr : Axis → SacHdr F),
    (readAnalogInputsAndSaveData r b).2 = before ++ Axis.all.map fun axis =>
      .writeSac (path axis) (hdr axis) ((List.range r.sps.val).map (r.samples b axis))

/-- Every one of the first `n` blocks goes to the files of its own date and hour. -/
def RightFiles (globals : Recorder F) (inputs : ℕ → Input F) (n : ℕ) : Prop :=
  ∀ i < n, ∀ b, inputs i = .block b →
    AppendsTo (recorder globals inputs i) b (samplePath b.date b.time)

/-- The samples go to the files that are open once the files are chosen, and to no other. -/
theorem appendsTo_iff {r : Recorder F} {calls : List (SacCall F)} (hr : RecorderInv r calls)
    (b : Reading F) (path : Axis → Path) :
    AppendsTo r b path ↔ (createDirs r b).1.currentDirectory = path := by
  obtain ⟨-, events, hdr, hcalls, -⟩ := readAnalogInputsAndSaveData_eq r b
  rw [hr.dataNumber_createDirs] at hcalls
  refine ⟨?_, ?_⟩
  · rintro ⟨before, hdr', hcalls'⟩
    have htail := (List.append_inj' (hcalls.symm.trans hcalls') (by simp)).2
    simp only [Axis.all, List.map_cons, List.map_nil, List.cons.injEq, SacCall.writeSac.injEq]
      at htail
    funext axis
    cases axis
    case x => exact htail.1.1
    case y => exact htail.2.1.1
    case z => exact htail.2.2.1.1
  · rintro rfl
    exact ⟨_, hdr, hcalls⟩

/-! ## Runs -/

section Runs

variable (globals : Recorder F) {inputs : ℕ → Input F} {n : ℕ} {a b : Reading F}

/-- The files of input `n`, if it is the block `b`. -/
def filesOf (inputs : ℕ → Input F) (n : ℕ) (b : Reading F) : Axis → Path :=
  (createDirs (recorder globals inputs n) b).1.currentDirectory

/-- The first block of a process goes to the files of its own hour. -/
theorem filesOf_fresh {globals' : Recorder F} (h : recorder globals inputs n = globals'.fresh) :
    filesOf globals inputs n b = samplePath b.date b.time := by
  rw [filesOf, h, createDirs_of_opens (.inl fun _ => rfl) (.inl rfl)]
  rfl

/-- A block that follows another one goes where that went, unless it is stamped HH0000. -/
theorem filesOf_succ (ha : inputs n = .block a) :
    filesOf globals inputs (n + 1) b
      = if isNewHour b.time = true then samplePath b.date b.time
        else filesOf globals inputs n a := by
  have hnamed := (recorderInv globals inputs (n + 1)).named
  have hdir : (recorder globals inputs (n + 1)).currentDirectory = filesOf globals inputs n a := by
    rw [recorder, Emitter.state_succ, ha]
    exact (readAnalogInputsAndSaveData_eq _ a).1
  have hne : (recorder globals inputs (n + 1)).currentDirectory .x ≠ [] := by
    obtain ⟨date, time, hpath⟩ := ((recorderInv globals inputs n).createDirs a).2
    rw [hdir, filesOf, hpath]
    exact samplePath_ne_nil date time .x
  rw [filesOf]
  split
  · rename_i hhour
    rw [createDirs_of_opens hnamed (.inr hhour)]
    rfl
  · rename_i hhour
    rw [createDirs_of_not_opens hnamed fun ho => ho.elim hne hhour]
    exact hdir

end Runs

theorem rightFiles_iff_filesOf (globals : Recorder F) (inputs : ℕ → Input F) (n : ℕ) :
    RightFiles globals inputs n ↔ ∀ i < n, ∀ b, inputs i = .block b →
      filesOf globals inputs i b = samplePath b.date b.time :=
  forall₄_congr fun i _ b _ => appendsTo_iff (recorderInv globals inputs i) b _

/-- **The blocks are in the right files exactly when every block that comes after one of another
date or hour is stamped HH0000.** -/
theorem rightFiles_iff (globals : Recorder F) (inputs : ℕ → Input F) (n : ℕ)
    (hhour : ∀ i < n, ∀ b, inputs i = .block b → HasHour b.time) :
    RightFiles globals inputs n ↔
      ∀ i a b, i + 1 < n → inputs i = .block a → inputs (i + 1) = .block b →
        SameHour a b ∨ isNewHour b.time = true := by
  rw [rightFiles_iff_filesOf]
  have hpath : ∀ {i a b}, i + 1 < n → inputs i = .block a → inputs (i + 1) = .block b →
      ∀ axis, samplePath a.date a.time axis = samplePath b.date b.time axis ↔ SameHour a b :=
    fun hi ha hb => samplePath_eq_iff (hhour _ (by omega) _ ha) (hhour _ hi _ hb)
  refine ⟨fun h i a b hi ha hb => ?_, fun h i => ?_⟩
  · by_cases hnew : isNewHour b.time = true
    · exact .inr hnew
    · have hfiles := filesOf_succ (b := b) globals ha
      rw [if_neg hnew, h _ hi b hb, h i (by omega) a ha] at hfiles
      exact .inl ((hpath hi ha hb .x).mp (congrFun hfiles.symm .x))
  · induction i with
    | zero => exact fun _ b _ => filesOf_fresh globals rfl
    | succ i ih =>
      intro hi b hb
      cases ha : inputs i with
      | restart globals' =>
        have hfresh : recorder globals inputs (i + 1) = globals'.fresh := by
          rw [recorder, Emitter.state_succ, ha]
          rfl
        exact filesOf_fresh globals hfresh
      | block a =>
        rw [filesOf_succ globals ha]
        split
        · rfl
        · rename_i hnew
          have hsame := (h i a b hi ha hb).resolve_right hnew
          rw [ih (by omega) a ha]
          funext axis
          exact (hpath hi ha hb axis).mpr hsame

/-! ## The turn of an hour -/

omit [FloatArith F] in
/-- A stamp DDMMYY, HHMMSS. -/
def IsStamp (b : Reading F) : Prop :=
  (cstr b.date).length = 6 ∧ (cstr b.date).all Char.isDigit = true ∧
    6 ≤ b.time.length ∧ (b.time.take 6).all Char.isDigit = true

omit [FloatArith F] in
/-- A stamp as the number YYMMDDHHMMSS. -/
def moment (b : Reading F) : ℕ :=
  leadingDigits 0 ([charAt b.date 4, charAt b.date 5, charAt b.date 2, charAt b.date 3,
    charAt b.date 0, charAt b.date 1] ++ b.time.take 6)

/-- Two blocks, one second before and `seconds` seconds after eleven o'clock. -/
def elevenInputs (seconds : String) : ℕ → Input ℚ
  | 0 => .block (.silent "050517" "105959")
  | _ + 1 => .block (.silent "050517" seconds)

theorem rightFiles_iff_eleven : RightFiles continuous40 (elevenInputs "110000") 2 :=
  (rightFiles_iff continuous40 (elevenInputs "110000") 2 (by
    intro i _ b hb
    cases i <;> cases hb <;> decide)).mpr (by
    intro i a b _ _ hb
    cases hb
    exact .inr (by decide))

/-- If the second in between is missing, the second block goes to the file of ten o'clock. -/
theorem not_rightFiles_eleven :
    (∀ i b, elevenInputs "110001" i = .block b → IsStamp b) ∧
      (∀ i a b, elevenInputs "110001" i = .block a → elevenInputs "110001" (i + 1) = .block b →
        moment a ≤ moment b) ∧
      ¬ RightFiles continuous40 (elevenInputs "110001") 2 := by
  refine ⟨fun i b hb => ?_, fun i a b ha hb => ?_, fun h => ?_⟩
  · cases i <;> cases hb <;> exact ⟨by decide, by decide, by decide, by decide⟩
  · cases i <;> cases ha <;> cases hb <;> decide
  · rw [rightFiles_iff_filesOf] at h
    have hsecond := h 1 (by decide) _ rfl
    have hfresh : recorder continuous40 (elevenInputs "110001") 0 = continuous40.fresh := rfl
    rw [filesOf_succ (a := .silent "050517" "105959") continuous40 rfl, if_neg (by decide),
      filesOf_fresh continuous40 hfresh] at hsecond
    exact absurd (congrFun hsecond .x) (by decide)

end SensorIoT
