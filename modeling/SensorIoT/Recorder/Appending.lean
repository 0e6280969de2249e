import SensorIoT.Recorder.Headers

/-!
# Files that only grow

What has been recorded should stay recorded.  The data of a continuous file are only ever appended
to, but the file itself is created with mode `wb`, which empties a file that is already there, and
it is created on the first block of every process and on every block stamped HH0000, under a name
that says no more than the date and the hour.

So the data survive as long as no file is opened twice (`onlyGrows_iff_noReopen`).  A restart within
the hour, or a stamp HH0000 that is delivered a second time, is enough to lose what the hour had so
far.
-/

set_option autoImplicit false

namespace SensorIoT

variable {F : Type} [FloatArith F]

/-! ## Growing -/

omit [FloatArith F] in
/-- The data of the continuous files only grow by appending. -/
def OnlyGrows (calls : List (SacCall F)) : Prop :=
  ∀ pre pre', pre <+: pre' → pre' <+: calls → ∀ name, IsSample name →
    dataPart (filesAfter pre) name <+: dataPart (filesAfter pre') name

omit [FloatArith F] in
/-- After the calls `pre`, a call does not erase the data of a continuous file. -/
def SacCall.Keeps (pre : List (SacCall F)) : SacCall F → Prop
  | .createFile name => IsSample name → samplesOf name pre = []
  | .writeSac _ _ _ => True

omit [FloatArith F] in
/-- Calls that keep the data make it grow. -/
theorem samplesOf_grows {calls more : List (SacCall F)}
    (h : Emitter.Lawful SacCall.Keeps (calls ++ more)) {name : Path} (hname : IsSample name) :
    samplesOf name calls <+: samplesOf name (calls ++ more) := by
  induction more using List.reverseRecOn with
  | nil => simp
  | append_singleton more c ih =>
    rw [← List.append_assoc] at h ⊢
    have ih := ih h.of_append
    cases c with
    | createFile n =>
      rw [samplesOf_createFile]
      split
      · rename_i hn
        subst hn
        have hnil : samplesOf n (calls ++ more) = [] := h.last hname
        rwa [hnil] at ih
      · exact ih
    | writeSac n hdr data =>
      rw [samplesOf_writeSac]
      split
      · exact ih.trans (List.prefix_append _ _)
      · exact ih

omit [FloatArith F] in
theorem dataBytes_grows {xs ys : List F} (h : xs <+: ys) : dataBytes xs <+: dataBytes ys := by
  obtain ⟨zs, rfl⟩ := h
  rw [dataBytes_append]
  exact List.prefix_append _ _

omit [FloatArith F] in
theorem dataBytes_eq_nil {xs : List F} (h : dataBytes xs = []) : xs = [] := by
  cases xs with
  | nil => rfl
  | cons x xs => cases h

omit [FloatArith F] in
/-- The data only grow exactly when no file with data is created anew. -/
theorem onlyGrows_iff_keeps {calls : List (SacCall F)} (hcreated : CreatedFirst calls) :
    OnlyGrows calls ↔ Emitter.Lawful SacCall.Keeps calls := by
  have hcut : ∀ {pre}, pre <+: calls → CreatedFirst pre := by
    rintro pre ⟨post, rfl⟩
    exact hcreated.of_append
  refine ⟨fun h pre c post heq => ?_, ?_⟩
  · cases c with
    | writeSac n hdr data => trivial
    | createFile n =>
      intro hname
      have hpre : pre <+: calls := heq ▸ List.prefix_append _ _
      have hpre' : pre ++ [.createFile n] <+: calls := ⟨post, by rw [heq]; simp⟩
      have hgrow := h pre _ (List.prefix_append _ _) hpre' n hname
      rw [dataPart_filesAfter (hcut hpre), dataPart_filesAfter (hcut hpre'),
        samplesOf_createFile, if_pos rfl] at hgrow
      exact dataBytes_eq_nil (List.prefix_nil.mp hgrow)
  · rintro h pre pre' ⟨more, rfl⟩ hpre' name hname
    have hkeeps : Emitter.Lawful SacCall.Keeps (pre ++ more) := by
      obtain ⟨post, hpost⟩ := hpre'
      rw [← hpost] at h
      exact h.of_append
    rw [dataPart_filesAfter (hcut ((List.prefix_append _ _).trans hpre')),
      dataPart_filesAfter (hcut hpre')]
    exact dataBytes_grows (samplesOf_grows hkeeps hname)

/-! ## Opening -/

omit [FloatArith F] in
/-- No block of the process has come before. -/
def IsFirst (inputs : ℕ → Input F) : ℕ → Prop
  | 0 => True
  | n + 1 => ∃ globals, inputs n = .restart globals

omit [FloatArith F] in
/-- Input `n` is a block that opens files: the first of its process, or one stamped HH0000. -/
def OpensAt (inputs : ℕ → Input F) (n : ℕ) (b : Reading F) : Prop :=
  inputs n = .block b ∧ (IsFirst inputs n ∨ isNewHour b.time = true)

omit [FloatArith F] in
/-- Every file is opened with a stamp that has an hour. -/
def HoursKnown (inputs : ℕ → Input F) (n : ℕ) : Prop :=
  ∀ i < n, ∀ b, OpensAt inputs i b → HasHour b.time

omit [FloatArith F] in
/-- Among the first `n` inputs, no block opens a file that another one has opened before. -/
def NoReopen (inputs : ℕ → Input F) (n : ℕ) : Prop :=
  ∀ i j, i < j → j < n → ∀ b c, OpensAt inputs i b → OpensAt inputs j c →
    ∀ axis other, samplePath b.date b.time axis ≠ samplePath c.date c.time other

omit [FloatArith F] in
theorem noReopen_succ {inputs : ℕ → Input F} {n : ℕ} :
    NoReopen inputs (n + 1) ↔ NoReopen inputs n ∧ ∀ i < n, ∀ b c, OpensAt inputs i b →
      OpensAt inputs n c → ∀ axis other,
        samplePath b.date b.time axis ≠ samplePath c.date c.time other := by
  refine ⟨fun h => ⟨fun i j hij hj => h i j hij (Nat.lt_succ_of_lt hj),
    fun i hi => h i n hi (Nat.lt_succ_self n)⟩, ?_⟩
  rintro ⟨h, hlast⟩ i j hij hj
  rcases Nat.lt_succ_iff_lt_or_eq.mp hj with hj | rfl
  · exact h i j hij hj
  · exact hlast i hij

/-! ## The calls of a block -/

section Block

variable (r : Recorder F) (calls : List (SacCall F)) (b : Reading F)

variable {r calls b} in
/-- A block appends the samples of every axis whose file has the name. -/
theorem samplesOf_block_eq (hr : RecorderInv r calls) {name : Path} (hname : IsSample name) :
    samplesOf name (calls ++ (readAnalogInputsAndSaveData r b).2)
      = samplesOf name (calls ++ (createDirs r b).2)
        ++ (Axis.all.filter fun axis => (createDirs r b).1.currentDirectory axis = name).flatMap
          fun axis => (List.range r.sps.val).map (r.samples b axis) := by
  obtain ⟨-, events, hdr, hcalls, hevents⟩ := readAnalogInputsAndSaveData_eq r b
  rw [hcalls, ← List.append_assoc, ← List.append_assoc, samplesOf_writeSacs,
    samplesOf_append_of_ne fun c hc => hevents c hc name hname, hr.dataNumber_createDirs]

/-- What a block does to the samples of a continuous file, once the files are chosen: the file gets
more samples if it is one of those chosen, and keeps what it has. -/
theorem samplesOf_block (hr : RecorderInv r calls) {name : Path} (hname : IsSample name) :
    ∃ xs, samplesOf name (calls ++ (readAnalogInputsAndSaveData r b).2)
        = samplesOf name (calls ++ (createDirs r b).2) ++ xs ∧
      (xs ≠ [] ↔ ∃ axis, (createDirs r b).1.currentDirectory axis = name) := by
  refine ⟨_, samplesOf_block_eq hr hname, ?_⟩
  simp only [ne_eq, List.flatMap_eq_nil_iff, List.mem_filter, decide_eq_true_eq, not_forall]
  constructor
  · rintro ⟨axis, ⟨-, haxis⟩, -⟩
    exact ⟨axis, haxis⟩
  · rintro ⟨axis, haxis⟩
    refine ⟨axis, ⟨by cases axis <;> simp [Axis.all], haxis⟩, fun hnil => ?_⟩
    rw [List.map_eq_nil_iff, List.range_eq_nil] at hnil
    exact absurd hnil (Nat.ne_of_gt r.sps.pos)

/-- Only opening a file erases anything. -/
theorem keeps_block :
    Emitter.Lawful SacCall.Keeps (calls ++ (readAnalogInputsAndSaveData r b).2) ↔
      Emitter.Lawful SacCall.Keeps (calls ++ (createDirs r b).2) := by
  obtain ⟨-, events, hdr, hcalls, hevents⟩ := readAnalogInputsAndSaveData_eq r b
  rw [hcalls, ← List.append_assoc, ← List.append_assoc]
  refine ⟨fun h => h.of_append.of_append, fun h => (h.append ?_).append ?_⟩
  · intro pre c post heq
    cases c with
    | writeSac n hdr data => trivial
    | createFile n =>
      intro hname
      exact absurd rfl (hevents (.createFile n) (by rw [heq]; simp) n hname)
  · intro pre c post heq
    obtain ⟨axis, -, rfl⟩ := List.mem_map.mp (heq ▸ List.mem_append_right pre List.mem_cons_self)
    trivial

omit [FloatArith F] in
variable {r} in
/-- Choosing the files leaves every other file as it is, and those that are opened empty. -/
theorem samplesOf_createDirs (hr : r.Named) (name : Path) :
    samplesOf name (calls ++ (createDirs r b).2) = samplesOf name calls ∨
      samplesOf name (calls ++ (createDirs r b).2) = [] ∧
        ∃ axis, (createDirs r b).1.currentDirectory axis = name := by
  by_cases ho : r.Opens b
  · rw [createDirs_of_opens hr ho, samplesOf_createFiles]
    split
    · rename_i h
      obtain ⟨axis, -, haxis⟩ := h
      exact .inr ⟨rfl, axis, haxis⟩
    · exact .inl rfl
  · rw [createDirs_of_not_opens hr ho, List.append_nil]
    exact .inl rfl

variable {r calls b}

omit [FloatArith F] in
/-- Opening the files of a block erases nothing exactly when they have no samples. -/
theorem keeps_createDirs (hr : r.Named) (ho : r.Opens b) :
    Emitter.Lawful SacCall.Keeps (calls ++ (createDirs r b).2) ↔
      Emitter.Lawful SacCall.Keeps calls ∧
        ∀ axis, samplesOf (samplePath b.date b.time axis) calls = [] := by
  have hname := isSample_samplePath b.date b.time
  rw [createDirs_of_opens hr ho, append_three, Emitter.lawful_concat_iff,
    Emitter.lawful_concat_iff, Emitter.lawful_concat_iff]
  simp only [SacCall.Keeps, hname, true_implies, samplesOf_createFile, ite_eq_left_iff]
  constructor
  · rintro ⟨⟨⟨h, hx⟩, hy⟩, hz⟩
    have hy' : samplesOf (samplePath b.date b.time .y) calls = [] := by
      by_cases hxy : samplePath b.date b.time .x = samplePath b.date b.time .y
      · rw [← hxy, hx]
      · exact hy hxy
    refine ⟨h, fun axis => ?_⟩
    cases axis
    case x => exact hx
    case y => exact hy'
    case z =>
      by_cases hyz : samplePath b.date b.time .y = samplePath b.date b.time .z
      · rw [← hyz, hy']
      · by_cases hxz : samplePath b.date b.time .x = samplePath b.date b.time .z
        · rw [← hxz, hx]
        · exact hz hyz hxz
  · rintro ⟨h, hnil⟩
    exact ⟨⟨⟨h, hnil .x⟩, fun _ => hnil .y⟩, fun _ _ => hnil .z⟩

end Block

/-! ## Runs -/

/-- The state of the program after `n` inputs, the calls so far, and the blocks that opened files.
-/
structure AppendInv (inputs : ℕ → Input F) (n : ℕ) (r : Recorder F) (calls : List (SacCall F)) :
    Prop where
  first : r.currentDirectory .x = [] ↔ IsFirst inputs n
  current : r.currentDirectory .x ≠ [] → ∃ i < n, ∃ b, OpensAt inputs i b ∧
    r.currentDirectory = samplePath b.date b.time
  opened : ∀ i < n, ∀ b, OpensAt inputs i b → ∀ axis,
    samplesOf (samplePath b.date b.time axis) calls ≠ []
  origin : ∀ name, IsSample name → samplesOf name calls ≠ [] →
    ∃ i < n, ∃ b, OpensAt inputs i b ∧ ∃ axis, samplePath b.date b.time axis = name
  keeps : Emitter.Lawful SacCall.Keeps calls ↔ NoReopen inputs n

omit [FloatArith F] in
theorem appendInv_fresh (globals : Recorder F) (inputs : ℕ → Input F) :
    AppendInv inputs 0 globals.fresh [] where
  first := ⟨fun _ => trivial, fun _ => rfl⟩
  current := fun hne => absurd rfl hne
  opened := fun _ hi => absurd hi (Nat.not_lt_zero _)
  origin := fun _ _ hne => absurd rfl hne
  keeps := ⟨fun _ _ _ _ hj => absurd hj (Nat.not_lt_zero _), fun _ => Emitter.lawful_nil⟩

section Step

variable {inputs : ℕ → Input F} {n : ℕ} {r : Recorder F} {calls : List (SacCall F)}

omit [FloatArith F] in
/-- A new process has no file open. -/
theorem AppendInv.restart (h : AppendInv inputs n r calls) {globals : Recorder F}
    (hn : inputs n = .restart globals) : AppendInv inputs (n + 1) globals.fresh calls := by
  have hnot : ∀ b, ¬ OpensAt inputs n b := fun b hb => by cases hn.symm.trans hb.1
  constructor
  case first => exact ⟨fun _ => ⟨globals, hn⟩, fun _ => rfl⟩
  case current => exact fun hne => absurd rfl hne
  case opened =>
    intro i hi b hb axis
    rcases Nat.lt_succ_iff_lt_or_eq.mp hi with hi | rfl
    · exact h.opened i hi b hb axis
    · exact absurd hb (hnot b)
  case origin =>
    intro name hname hne
    obtain ⟨i, hi, b, hb⟩ := h.origin name hname hne
    exact ⟨i, Nat.lt_succ_of_lt hi, b, hb⟩
  case keeps =>
    rw [noReopen_succ, h.keeps]
    exact ⟨fun hno => ⟨hno, fun _ _ _ c _ hc => absurd hc (hnot c)⟩, fun hno => hno.1⟩

omit [FloatArith F] in
/-- A block opens files in the state it is called in exactly when the stamps say so. -/
theorem AppendInv.opens_iff (h : AppendInv inputs n r calls) {b : Reading F}
    (hn : inputs n = .block b) : r.Opens b ↔ OpensAt inputs n b := by
  rw [Recorder.Opens, h.first]
  exact ⟨fun ho => ⟨hn, ho⟩, fun ho => ho.2⟩

omit [FloatArith F] in
/-- After the files of a block are chosen, they are those of a block that opened them. -/
theorem AppendInv.current_createDirs (h : AppendInv inputs n r calls) (hr : r.Named)
    {b : Reading F} (hn : inputs n = .block b) :
    ∃ i < n + 1, ∃ c, OpensAt inputs i c ∧
      (createDirs r b).1.currentDirectory = samplePath c.date c.time := by
  by_cases ho : r.Opens b
  · rw [createDirs_of_opens hr ho]
    exact ⟨n, Nat.lt_succ_self n, b, (h.opens_iff hn).mp ho, rfl⟩
  · rw [createDirs_of_not_opens hr ho]
    obtain ⟨i, hi, c, hc, hdir⟩ := h.current fun hnil => ho (.inl hnil)
    exact ⟨i, Nat.lt_succ_of_lt hi, c, hc, hdir⟩

/-- A block erases nothing exactly when no block before it opened the files that it opens. -/
theorem AppendInv.keeps_block (h : AppendInv inputs n r calls) (hr : r.Named) {b : Reading F}
    (hn : inputs n = .block b) :
    Emitter.Lawful SacCall.Keeps (calls ++ (readAnalogInputsAndSaveData r b).2) ↔
      NoReopen inputs (n + 1) := by
  rw [SensorIoT.keeps_block, noReopen_succ]
  by_cases ho : r.Opens b
  · rw [keeps_createDirs hr ho, h.keeps]
    refine and_congr_right fun _ => ⟨fun hnil i hi c d hc hd axis other heq => ?_,
      fun hno axis => ?_⟩
    · obtain rfl : b = d := Input.block.inj (hn.symm.trans hd.1)
      exact h.opened i hi c hc axis (heq ▸ hnil other)
    · by_contra hne
      obtain ⟨i, hi, c, hc, other, hpath⟩ := h.origin _ (isSample_samplePath _ _ axis) hne
      exact hno i hi c b hc ((h.opens_iff hn).mp ho) other axis hpath
  · rw [createDirs_of_not_opens hr ho, List.append_nil, h.keeps]
    refine ⟨fun hno => ⟨hno, fun _ _ _ d _ hd => ?_⟩, fun hno => hno.1⟩
    obtain rfl : b = d := Input.block.inj (hn.symm.trans hd.1)
    exact absurd ((h.opens_iff hn).mpr hd) ho

/-- The files opened before or by a block have samples after it. -/
theorem AppendInv.opened_block (h : AppendInv inputs n r calls) (hr : RecorderInv r calls)
    {b : Reading F} (hn : inputs n = .block b) {i : ℕ} (hi : i < n + 1) {c : Reading F}
    (hc : OpensAt inputs i c) (axis : Axis) :
    samplesOf (samplePath c.date c.time axis) (calls ++ (readAnalogInputsAndSaveData r b).2)
      ≠ [] := by
  obtain ⟨xs, hxs, hiff⟩ := samplesOf_block r calls b hr (isSample_samplePath c.date c.time axis)
  rw [hxs]
  by_cases hwritten : ∃ other, (createDirs r b).1.currentDirectory other
      = samplePath c.date c.time axis
  · exact List.append_ne_nil_of_right_ne_nil _ (hiff.mpr hwritten)
  · refine List.append_ne_nil_of_left_ne_nil ?_ _
    have hi' : i < n := by
      rcases Nat.lt_succ_iff_lt_or_eq.mp hi with hi | rfl
      · exact hi
      · obtain rfl : b = c := Input.block.inj (hn.symm.trans hc.1)
        refine absurd ⟨axis, ?_⟩ hwritten
        rw [createDirs_of_opens hr.named ((h.opens_iff hn).mpr hc)]
        rfl
    rcases samplesOf_createDirs calls b hr.named (samplePath c.date c.time axis)
      with hsame | ⟨-, hchosen⟩
    · rw [hsame]
      exact h.opened i hi' c hc axis
    · exact absurd hchosen hwritten

/-- A file with samples after a block was opened before it or by it. -/
theorem AppendInv.origin_block (h : AppendInv inputs n r calls) (hr : RecorderInv r calls)
    {b : Reading F} (hn : inputs n = .block b) {name : Path} (hname : IsSample name)
    (hne : samplesOf name (calls ++ (readAnalogInputsAndSaveData r b).2) ≠ []) :
    ∃ i < n + 1, ∃ c, OpensAt inputs i c ∧ ∃ axis, samplePath c.date c.time axis = name := by
  obtain ⟨xs, hxs, hiff⟩ := samplesOf_block r calls b hr hname
  by_cases hnil : xs = []
  · rw [hxs, hnil, List.append_nil] at hne
    rcases samplesOf_createDirs calls b hr.named name with hsame | ⟨hnil', -⟩
    · rw [hsame] at hne
      obtain ⟨i, hi, c, hc⟩ := h.origin name hname hne
      exact ⟨i, Nat.lt_succ_of_lt hi, c, hc⟩
    · exact absurd hnil' hne
  · obtain ⟨axis, haxis⟩ := hiff.mp hnil
    obtain ⟨i, hi, c, hc, hcur⟩ := h.current_createDirs hr.named hn
    exact ⟨i, hi, c, hc, axis, by rw [← hcur, haxis]⟩

/-- **A block keeps the invariant.** -/
theorem AppendInv.block (h : AppendInv inputs n r calls) (hr : RecorderInv r calls)
    {b : Reading F} (hn : inputs n = .block b) :
    AppendInv inputs (n + 1) (readAnalogInputsAndSaveData r b).1
      (calls ++ (readAnalogInputsAndSaveData r b).2) := by
  obtain ⟨hdir, -⟩ := readAnalogInputsAndSaveData_eq r b
  obtain ⟨i, hi, c, hc, hcur⟩ := h.current_createDirs hr.named hn
  constructor
  case first =>
    rw [hdir, hcur]
    refine iff_of_false (samplePath_ne_nil _ _ _) ?_
    rintro ⟨globals, hg⟩
    cases hn.symm.trans hg
  case current =>
    rw [hdir]
    exact fun _ => ⟨i, hi, c, hc, hcur⟩
  case opened => exact fun i hi c hc axis => h.opened_block hr hn hi hc axis
  case origin => exact fun name hname hne => h.origin_block hr hn hname hne
  case keeps => exact h.keeps_block hr.named hn

end Step

theorem appendInv (globals : Recorder F) (inputs : ℕ → Input F) (n : ℕ) :
    AppendInv inputs n (recorder globals inputs n) (calls globals inputs n) := by
  have hrun : RecorderInv (recorder globals inputs n) (calls globals inputs n) ∧
      AppendInv inputs n (recorder globals inputs n) (calls globals inputs n) := by
    refine Emitter.invariant (fun n r calls => RecorderInv r calls ∧ AppendInv inputs n r calls)
      ⟨recorderInv_fresh globals Emitter.lawful_nil, appendInv_fresh globals inputs⟩
      (fun n r out h => ⟨h.1.record (inputs n), ?_⟩) n
    cases hn : inputs n with
    | restart globals' =>
      rw [record, List.append_nil]
      exact h.2.restart hn
    | block b => exact h.2.block h.1 hn
  exact hrun.2

/-- **Recorded samples stay recorded exactly when no file is opened twice**: no block that opens
files, as the first of its process or for its stamp HH0000, carries the date and the hour of an
earlier one that did. -/
theorem onlyGrows_iff_noReopen (globals : Recorder F) (inputs : ℕ → Input F) (n : ℕ) :
    OnlyGrows (calls globals inputs n) ↔ NoReopen inputs n :=
  (onlyGrows_iff_keeps (createdFirst_of_ok (recorderInv globals inputs n).lawful)).trans
    (appendInv globals inputs n).keeps

/-- A restart within an hour. -/
def restartInputs : ℕ → Input ℚ
  | 0 => .block (.silent "050517" "120000")
  | 1 => .restart continuous40
  | _ + 2 => .block (.silent "050517" "120500")

/-- The block after the restart empties the file of the hour. -/
theorem not_onlyGrows_restart : ¬ OnlyGrows (calls continuous40 restartInputs 3) := by
  rw [onlyGrows_iff_keeps (createdFirst_of_ok (recorderInv continuous40 restartInputs 3).lawful),
    (appendInv continuous40 restartInputs 3).keeps]
  intro h
  have hfirst : OpensAt restartInputs 0 (.silent "050517" "120000") := ⟨rfl, .inl trivial⟩
  have hagain : OpensAt restartInputs 2 (.silent "050517" "120500") := ⟨rfl, .inl ⟨_, rfl⟩⟩
  exact h 0 2 (by decide) (by decide) _ _ hfirst hagain .x .x (by decide)

end SensorIoT
