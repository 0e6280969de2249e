import SensorIoT.Lib.RunningMean
import SensorIoT.Recorder.Headers

/-!
# The mean in the headers

A file is written in parts, and with every part its header is written anew.  The field `DEPMEN`
of that header is the mean of the part that is written with it; the parts before are not in memory
any more, and nothing of them is carried along.  So it is the mean of the file exactly when the
earlier parts have the same (`depmen_iff`).
-/

set_option autoImplicit false

namespace SensorIoT

open RunningMean

/-! ## The parts of a file -/

section Parts

variable {F : Type} {name other : Path} {calls : List (SacCall F)} {hdr : SacHdr F} {data : List F}

/-- The parts of a file: what each write since it was created appended. -/
def partsOf (name : Path) (calls : List (SacCall F)) : List (List F) :=
  calls.foldl (fun acc call => match call with
    | .createFile n => if n = name then [] else acc
    | .writeSac n _ data => if n = name then acc ++ [data] else acc) []

/-- The samples of a file before its last write. -/
def earlierOf (name : Path) (calls : List (SacCall F)) : List F :=
  (partsOf name calls).dropLast.flatten

/-- The samples of the last write to a file. -/
def lastOf (name : Path) (calls : List (SacCall F)) : List F :=
  ((partsOf name calls).getLast?).getD []

@[simp] theorem partsOf_createFile :
    partsOf name (calls ++ [.createFile other])
      = if other = name then [] else partsOf name calls := by
  simp [partsOf, List.foldl_append]

@[simp] theorem partsOf_writeSac :
    partsOf name (calls ++ [.writeSac other hdr data])
      = if other = name then partsOf name calls ++ [data] else partsOf name calls := by
  simp [partsOf, List.foldl_append]

theorem samplesOf_eq_flatten (name : Path) (calls : List (SacCall F)) :
    samplesOf name calls = (partsOf name calls).flatten := by
  induction calls using List.reverseRecOn with
  | nil => rfl
  | append_singleton calls c ih =>
    cases c with
    | createFile n =>
      rw [samplesOf_createFile, partsOf_createFile, ih]
      split <;> rfl
    | writeSac n hdr data =>
      rw [samplesOf_writeSac, partsOf_writeSac, ih]
      split
      · rw [List.flatten_append, List.flatten_singleton]
      · rfl

/-- A file is what was in it before its last write, and that. -/
theorem samplesOf_eq_earlier_last (name : Path) (calls : List (SacCall F)) :
    samplesOf name calls = earlierOf name calls ++ lastOf name calls := by
  rw [samplesOf_eq_flatten, earlierOf, lastOf]
  rcases List.eq_nil_or_concat (partsOf name calls) with hnil | ⟨parts, part, hparts⟩
  · rw [hnil]
    rfl
  · simp [hparts]

end Parts

/-! ## The mean of a part -/

/-- The field `DEPMEN`, the 57th real. -/
def SacHdr.depmen (h : SacHdr ℚ) : ℚ := h.rhdr[56]

/-- What stands for the mean of a part: that of nothing is undefined. -/
def partMean (part : List ℚ) : ℚ := if part = [] then -12345 else meanOf part

/-- The loop of `scmxmn` adds up the array. -/
theorem sum_loop (x : ℕ → ℚ) (n : ℕ) (acc : ℚ × ℚ × ℚ) :
    ((List.range n).foldl (scmxmnBody x) acc).2.2 = acc.2.2 + ((List.range n).map x).sum := by
  induction n with
  | zero => simp
  | succ n ih =>
    rw [List.range_succ, List.foldl_append, List.map_append, List.sum_append, ← add_assoc, ← ih,
      List.map_singleton, List.sum_singleton]
    exact FloatArith.addDouble_rat _ _

theorem scmxmn_depmen (x : ℕ → ℚ) (n : ℕ) (v : DepValues ℚ) :
    (scmxmn x n v).depmen = partMean ((List.range n).map x) := by
  have hmean : (scmxmn x n v).depmen
      = if 0 < n then
          FloatArith.divDouble
            ((List.range n).foldl (scmxmnBody x) (-(10 ^ 38), 10 ^ 38, (0 : ℚ))).2.2 n
        else -12345 := by
    rw [scmxmn]
    split <;> rfl
  rw [hmean, sum_loop, FloatArith.divDouble_rat, zero_add, partMean, meanOf, List.length_map,
    List.length_range]
  rcases Nat.eq_zero_or_pos n with rfl | hn
  · rfl
  · rw [if_pos hn, if_neg (by simpa using hn.ne')]

theorem sacHeader_depmen (d : FullDate) (v : DepValues ℚ) (npts : ℤ) (dt b e : ℚ)
    (axis : List Char) : (sacHeader d v npts dt b e axis).depmen = v.depmen := by
  simp [sacHeader, SacHdr.depmen, setihv_iftype, setlhv, setfhv, setnhv, setkhv, findIdx_rstr]

/-- The calls that the program can make: a file is created, or `writeSac` writes to it. -/
inductive Written : SacCall ℚ → Prop
  | createFile (name : Path) : Written (.createFile name)
  | writeSac (d : FullDate) (v : DepValues ℚ) (npts : ℤ) (n : ℕ) (arr : ℕ → ℚ) (dt : ℚ)
      (axis : List Char) (filename : Path) :
      Written (writeSac d v npts n arr dt axis filename).2

/-- A write has the mean of its part in the header. -/
theorem Written.depmen {hdr : SacHdr ℚ} {name : Path} {data : List ℚ}
    (h : Written (.writeSac name hdr data)) : hdr.depmen = partMean data := by
  generalize hc : SacCall.writeSac name hdr data = c at h
  cases h with
  | createFile name => cases hc
  | writeSac d v npts n arr dt axis filename =>
    cases hc
    exact (sacHeader_depmen _ _ _ _ _ _ _).trans (scmxmn_depmen arr n v)

/-- The header of a file has the mean of its last part. -/
theorem depmen_of_written {calls : List (SacCall ℚ)} (h : ∀ c ∈ calls, Written c) {name : Path}
    {hdr : SacHdr ℚ} (hhdr : headerOf name calls = some hdr) :
    hdr.depmen = partMean (lastOf name calls) := by
  induction calls using List.reverseRecOn with
  | nil => cases hhdr
  | append_singleton calls c ih =>
    have hcalls : ∀ d ∈ calls, Written d := fun d hd => h d (List.mem_append_left _ hd)
    cases c with
    | createFile n =>
      rw [headerOf_createFile] at hhdr
      rw [lastOf, partsOf_createFile]
      split at hhdr
      · cases hhdr
      · rw [if_neg ‹_›]
        exact ih hcalls hhdr
    | writeSac n hdr' data =>
      rw [headerOf_writeSac] at hhdr
      rw [lastOf, partsOf_writeSac]
      split at hhdr
      · cases hhdr
        rw [if_pos ‹_›, List.getLast?_append_cons, List.getLast?_singleton]
        exact (h _ (List.mem_append_right _ (List.mem_singleton_self _))).depmen
      · rw [if_neg ‹_›]
        exact ih hcalls hhdr

/-- The field `DEPMEN` of a file is the mean of its samples, if it has any. -/
def MeanRight (name : Path) (calls : List (SacCall ℚ)) (hdr : SacHdr ℚ) : Prop :=
  samplesOf name calls ≠ [] → hdr.depmen = meanOf (samplesOf name calls)

/-- The last part of a file has the mean of the earlier ones, if there are any. -/
def LastLikeEarlier (name : Path) (calls : List (SacCall ℚ)) : Prop :=
  earlierOf name calls = [] ∨ meanOf (earlierOf name calls) = partMean (lastOf name calls)

/-- **When the mean in the header of a file is that of its samples**, for every file that has been
written since it was created. -/
theorem depmen_iff {calls : List (SacCall ℚ)} (h : ∀ c ∈ calls, Written c) {name : Path}
    {hdr : SacHdr ℚ} (hhdr : headerOf name calls = some hdr) :
    MeanRight name calls hdr ↔ LastLikeEarlier name calls := by
  rw [MeanRight, LastLikeEarlier, depmen_of_written h hhdr, samplesOf_eq_earlier_last]
  by_cases hearlier : earlierOf name calls = []
  · rw [hearlier, List.nil_append, partMean]
    exact iff_of_true (fun hne => if_neg hne) (.inl rfl)
  · rw [or_iff_right hearlier, partMean]
    by_cases hlast : lastOf name calls = []
    · rw [if_pos hlast, hlast, List.append_nil, eq_comm]
      exact ⟨fun hall => hall hearlier, fun heq _ => heq⟩
    · rw [if_neg hlast, meanOf_append_iff hearlier hlast]
      exact ⟨fun hall => hall (List.append_ne_nil_of_left_ne_nil hearlier _), fun heq _ => heq⟩

/-! ## Runs -/

theorem written_eventFileCalls (dt : ℚ) (mem : DateMem) (event : EventData ℚ) :
    ∀ c ∈ eventFileCalls dt mem event, Written c := by
  simp only [eventFileCalls, List.forall_mem_cons]
  exact ⟨.createFile _, .writeSac _ _ _ _ _ _ _ _, .writeSac _ _ _ _ _ _ _ _,
    .writeSac _ _ _ _ _ _ _ _, fun _ hc => absurd hc List.not_mem_nil⟩

section Block

variable (r : Recorder ℚ) (b : Reading ℚ)

theorem written_createDirs : ∀ c ∈ (createDirs r b).2, Written c := by
  have haxis : ∀ (r : Recorder ℚ) axis, ∀ c ∈ (createDirRtc r axis b).2, Written c := by
    intro r axis c hc
    rw [createDirRtc] at hc
    split at hc
    · obtain rfl := List.mem_singleton.mp hc
      exact .createFile _
    · split at hc
      · obtain rfl := List.mem_singleton.mp hc
        exact .createFile _
      · cases hc
  intro c hc
  simp only [createDirs, List.mem_append] at hc
  rcases hc with (hc | hc) | hc
  · exact haxis _ _ c hc
  · exact haxis _ _ c hc
  · exact haxis _ _ c hc

theorem written_detectAll : ∀ c ∈ (r.detectAll b).2, Written c := by
  intro c hc
  rw [Recorder.detectAll] at hc
  split at hc
  · obtain ⟨axis, -, hmem⟩ := List.mem_flatMap.mp hc
    rw [Recorder.detect, savePending] at hmem
    split at hmem
    · exact written_eventFileCalls _ _ _ c hmem
    · cases hmem
  · cases hc

theorem written_writeAll : ∀ c ∈ (writeAll r b).2, Written c := by
  have haxis : ∀ (r : Recorder ℚ) axis, ∀ c ∈ (writeAxis r b axis).2, Written c := by
    intro r axis c hc
    obtain rfl := List.mem_singleton.mp hc
    exact .writeSac _ _ _ _ _ _ _ _
  intro c hc
  simp only [writeAll, List.mem_append] at hc
  rcases hc with (hc | hc) | hc
  · exact haxis _ _ c hc
  · exact haxis _ _ c hc
  · exact haxis _ _ c hc

/-- The calls of a block. -/
theorem written_record (i : Input ℚ) : ∀ c ∈ (record r i).2, Written c := by
  cases i with
  | restart globals => exact fun c hc => absurd hc List.not_mem_nil
  | block b =>
    intro c hc
    simp only [record, readAnalogInputsAndSaveData, List.mem_append] at hc
    rcases hc with (hc | hc) | hc
    · exact written_createDirs r b c hc
    · exact written_detectAll _ b c hc
    · exact written_writeAll _ b c hc

end Block

/-- All calls of a run of the recorder are such calls, so `depmen_iff` is about its files, after
each of them. -/
theorem written_calls (globals : Recorder ℚ) (inputs : ℕ → Input ℚ) (n : ℕ) :
    ∀ c ∈ calls globals inputs n, Written c := by
  refine Emitter.invariant (fun _ _ cs => ∀ c ∈ cs, Written c)
    (fun c hc => absurd hc List.not_mem_nil) (fun n r _ h c hc => ?_) n
  rcases List.mem_append.mp hc with hc | hc
  · exact h c hc
  · exact written_record r (inputs n) c hc

/-- Two blocks within an hour, of signals that do not change within a block. -/
def twoLevels (first second : ℚ) (k : ℕ) : Reading ℚ :=
  { Reading.silent "050517" (if k = 0 then "101500" else "101501") with
    data := fun _ _ => if k = 0 then first else second }

/-- The file of BH2 of these blocks. -/
def twoLevelsPath : Path := samplePath "050517".toList "101500".toList .x

/-- With the same signal in both blocks, the mean is right. -/
theorem depmen_iff_level :
    ∃ hdr, headerOf twoLevelsPath (calls continuous40 (fun k => .block (twoLevels 2 2 k)) 2)
        = some hdr ∧
      MeanRight twoLevelsPath (calls continuous40 (fun k => .block (twoLevels 2 2 k)) 2) hdr := by
  have hsome : (headerOf twoLevelsPath
      (calls continuous40 (fun k => .block (twoLevels 2 2 k)) 2)).isSome = true := by
    decide +kernel
  obtain ⟨hdr, hhdr⟩ := Option.isSome_iff_exists.mp hsome
  refine ⟨hdr, hhdr, (depmen_iff (written_calls continuous40 (fun k => .block (twoLevels 2 2 k)) 2)
    hhdr).mpr (.inr ?_)⟩
  decide +kernel

/-- With signals of 1 and 3, the header says 3, and the mean is 2. -/
theorem not_meanRight_levels :
    ∃ hdr, headerOf twoLevelsPath (calls continuous40 (fun k => .block (twoLevels 1 3 k)) 2)
        = some hdr ∧ hdr.depmen = 3 ∧
      ¬ MeanRight twoLevelsPath (calls continuous40 (fun k => .block (twoLevels 1 3 k)) 2) hdr := by
  have hsome : (headerOf twoLevelsPath
      (calls continuous40 (fun k => .block (twoLevels 1 3 k)) 2)).isSome = true := by
    decide +kernel
  obtain ⟨hdr, hhdr⟩ := Option.isSome_iff_exists.mp hsome
  have hdepmen : hdr.depmen = 3 := by
    rw [depmen_of_written (written_calls continuous40 (fun k => .block (twoLevels 1 3 k)) 2) hhdr]
    decide +kernel
  have hsamples : samplesOf twoLevelsPath
      (calls continuous40 (fun k => .block (twoLevels 1 3 k)) 2)
        = List.replicate 40 1 ++ List.replicate 40 3 := by
    decide +kernel
  refine ⟨hdr, hhdr, hdepmen, fun h => ?_⟩
  rw [MeanRight, hsamples, hdepmen] at h
  exact absurd (h (by decide)) (by decide +kernel)

end SensorIoT
