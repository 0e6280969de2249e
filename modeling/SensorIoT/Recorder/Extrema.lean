import SensorIoT.Recorder.Headers
import SensorIoT.Sac.Extrema

/-!
# The extrema in the headers

The fields `DEPMIN` and `DEPMAX` of a continuous file are meant for the samples of that file.  But
the three axes keep their extrema in one record, `strDepValues`, and `createDirRtc`, which starts
the counter of that record anew with every file, leaves its extrema alone.  So a header speaks of
all the samples ever handed to `scmxmn`, of every axis and every hour; only a beginning of nothing
but zeros is taken for nothing.

`fed` is the list of these samples and `stored` the list of those of an axis in its file, and both
are a matter of the blocks alone.  A header is right exactly when the two have the same extrema
(`depExtrema_iff`).  Without an hour in its name the file of an axis is that of all three, and the
header in it is the one that was written last.
-/

set_option autoImplicit false

namespace SensorIoT

open Extrema (Within Accumulated notice)

/-! ## A block -/

/-- The samples of an axis that a block adds to its file. -/
def Recorder.chunk (r : Recorder ℚ) (b : Reading ℚ) (axis : Axis) : List ℚ :=
  (List.range r.sps.val).map (r.samples b axis)

/-- What a block holds lies between the values `scmxmn` starts from.  The program makes each sample
from an unsigned integer of at most 64 bits. -/
def Reading.Bounded (b : Reading ℚ) : Prop := ∀ axis, SensorIoT.Bounded (b.data axis)

theorem Reading.Bounded.samples {b : Reading ℚ} (hb : b.Bounded) (r : Recorder ℚ) (axis : Axis) :
    SensorIoT.Bounded (r.samples b axis) := by
  intro i
  rw [Recorder.samples]
  split
  · rw [subMuestreo]
    split
    · exact hb axis _
    · norm_num
  · exact hb axis i

/-- The samples behind the extrema of each axis after a block, when `seen` were those before it. -/
def fedWith (seen : List ℚ) (new : Axis → List ℚ) : Axis → List ℚ :=
  let x := notice 0 seen (new .x)
  let y := notice 0 x (new .y)
  Axis.values x y (notice 0 y (new .z))

/-- The samples written under the name of an axis. -/
def ofAxis (axis : Axis) : SacCall ℚ → Bool
  | .createFile _ => true
  | .writeSac _ hdr _ => hdr.kcmpnm == pad8 axis.name

/-- The samples of an axis in a file. -/
def axisSamples (axis : Axis) (name : Path) (calls : List (SacCall ℚ)) : List ℚ :=
  samplesOf name (calls.filter (ofAxis axis))

/-- Writing the samples of an axis feeds them to the record, and the header is made from that. -/
theorem extrema_writeAxis {r : Recorder ℚ} {b : Reading ℚ} (hb : b.Bounded)
    (hcount : r.strDepValues.dataNumber = r.sps.val) {seen : List ℚ}
    (h : Accumulated 0 seen r.strDepValues.depmin r.strDepValues.depmax) (axis : Axis) :
    Extrema (notice 0 seen (r.chunk b axis)) (writeAxis r b axis).1.strDepValues.depmin
        (writeAxis r b axis).1.strDepValues.depmax ∧
      Extrema (notice 0 seen (r.chunk b axis)) (axisHeader r b axis).depmin
        (axisHeader r b axis).depmax := by
  have hpos : 0 < r.strDepValues.dataNumber := hcount ▸ r.sps.pos
  have hfed := scmxmn_notice (hb.samples r axis) hpos h
  obtain ⟨hmin, hmax⟩ := sacHeader_extrema r.strFullDate
    (scmxmn (r.samples b axis) r.strDepValues.dataNumber r.strDepValues) r.strDepValues.npts
    r.strDepValues.dt (FloatArith.lit 0)
    (FloatArith.lit 0 + ((r.strDepValues.npts - 1 : ℤ) : ℚ) * r.strDepValues.dt) axis.name
  rw [Recorder.chunk, ← hcount, axisHeader, hmin, hmax]
  exact ⟨hfed, hfed⟩

/-- The three axes are fed one after the other. -/
theorem extrema_writeAll {r : Recorder ℚ} {b : Reading ℚ} (hb : b.Bounded)
    (hcount : r.strDepValues.dataNumber = r.sps.val) {seen : List ℚ}
    (h : Accumulated 0 seen r.strDepValues.depmin r.strDepValues.depmax) :
    Extrema (fedWith seen (r.chunk b) .z) (writeAll r b).1.strDepValues.depmin
        (writeAll r b).1.strDepValues.depmax ∧
      ∀ axis, Extrema (fedWith seen (r.chunk b) axis)
        (axisHeader (r.writing b axis) b axis).depmin
        (axisHeader (r.writing b axis) b axis).depmax := by
  have hx := extrema_writeAxis (r := r.writing b .x) hb hcount h .x
  have hy := extrema_writeAxis (r := r.writing b .y) hb
    ((writing_counters r b .y).2.trans hcount) (.inr hx.1) .y
  have hz := extrema_writeAxis (r := r.writing b .z) hb
    ((writing_counters r b .z).2.trans hcount) (.inr hy.1) .z
  refine ⟨hz.1, fun axis => ?_⟩
  cases axis
  case x => exact hx.2
  case y => exact hy.2
  case z => exact hz.2

/-- What a block does to the files and to the record. -/
structure BlockExtrema (r : Recorder ℚ) (b : Reading ℚ) (seen : List ℚ) (hdr : Axis → SacHdr ℚ) :
    Prop where
  sps : (readAnalogInputsAndSaveData r b).1.sps = r.sps
  accumulated : Extrema (fedWith seen (r.chunk b) .z)
    (readAnalogInputsAndSaveData r b).1.strDepValues.depmin
    (readAnalogInputsAndSaveData r b).1.strDepValues.depmax
  header : ∀ axis, Extrema (fedWith seen (r.chunk b) axis) (hdr axis).depmin (hdr axis).depmax
  component : ∀ axis, (hdr axis).kcmpnm = pad8 axis.name
  calls : ∃ events : List (SacCall ℚ), (∀ c ∈ events, ∀ name, IsSample name → c.name ≠ name) ∧
    (readAnalogInputsAndSaveData r b).2
      = (createDirs r b).2 ++ events ++ Axis.all.map fun axis =>
        .writeSac ((createDirs r b).1.currentDirectory axis) (hdr axis) (r.chunk b axis)

theorem blockExtrema {r : Recorder ℚ} {calls : List (SacCall ℚ)} (hr : RecorderInv r calls)
    {b : Reading ℚ} (hb : b.Bounded) {seen : List ℚ}
    (h : Accumulated 0 seen r.strDepValues.depmin r.strDepValues.depmax) :
    ∃ hdr, BlockExtrema r b seen hdr := by
  -- neither choosing the files nor the detector touches the extrema or the sampling rate
  have hdirs : (createDirs r b).1.sps = r.sps ∧
      (createDirs r b).1.strDepValues.depmin = r.strDepValues.depmin ∧
      (createDirs r b).1.strDepValues.depmax = r.strDepValues.depmax := by
    by_cases ho : r.Opens b
    · rw [createDirs_of_opens hr.named ho]
      exact ⟨rfl, rfl, rfl⟩
    · rw [createDirs_of_not_opens hr.named ho]
      exact ⟨rfl, rfl, rfl⟩
  obtain ⟨event, he⟩ := detectAll_fst (createDirs r b).1 b
  have hcount : ((createDirs r b).1.detectAll b).1.strDepValues.dataNumber
      = ((createDirs r b).1.detectAll b).1.sps.val := by
    rw [he]
    exact (hr.dataNumber_createDirs b).trans (congrArg Subtype.val hdirs.1.symm)
  have hchunk : ((createDirs r b).1.detectAll b).1.chunk b = r.chunk b := by
    rw [he]
    funext axis
    rw [Recorder.chunk, Recorder.chunk, ← samples_createDirs r b, ← hdirs.1]
    rfl
  have hseen : Accumulated 0 seen ((createDirs r b).1.detectAll b).1.strDepValues.depmin
      ((createDirs r b).1.detectAll b).1.strDepValues.depmax := by
    rw [he]
    simp only [hdirs]
    exact h
  obtain ⟨hstate, hheader⟩ := extrema_writeAll hb hcount hseen
  rw [hchunk] at hstate hheader
  obtain ⟨⟨v, hv, -, -⟩, -⟩ := writeAll_eq ((createDirs r b).1.detectAll b).1 b
  refine ⟨_, ?_, hstate, hheader, fun _ => sacHeader_kcmpnm _ _ _ _ _ _ _,
    ((createDirs r b).1.detectAll b).2,
    (calls_detectAll (createDirs r b).1 b).2, ?_⟩
  · rw [readAnalogInputsAndSaveData, hv, he]
    exact hdirs.1
  · rw [readAnalogInputsAndSaveData, writeAll_calls, hcount, ← hchunk, he]
    rfl

section Files

variable {r : Recorder ℚ} {calls : List (SacCall ℚ)} {b : Reading ℚ} {seen : List ℚ}
  {hdr : Axis → SacHdr ℚ}

/-- The axis whose header a block leaves in the file of an axis: where the three share one file,
that of the last. -/
def heading (name : Path) (axis : Axis) : Axis := if IsSac name then axis else .z

theorem BlockExtrema.headerOf_file (h : BlockExtrema r b seen hdr) (hr : RecorderInv r calls)
    (axis : Axis) :
    headerOf ((createDirs r b).1.currentDirectory axis)
        (calls ++ (readAnalogInputsAndSaveData r b).2)
      = some (hdr (heading ((createDirs r b).1.currentDirectory axis) axis)) := by
  obtain ⟨-, date, time, hpath⟩ := hr.createDirs b
  obtain ⟨events, -, hcalls⟩ := h.calls
  rw [hcalls, ← List.append_assoc, ← List.append_assoc, append_three]
  simp only [headerOf_writeSac]
  by_cases hsac : IsSac ((createDirs r b).1.currentDirectory axis)
  · have hne : ∀ other, other ≠ axis → (createDirs r b).1.currentDirectory other
        ≠ (createDirs r b).1.currentDirectory axis := by
      intro other hother
      rw [hpath] at hsac
      rw [hpath, hpath]
      exact (samplePath_ne hother.symm hsac).symm
    rw [heading, if_pos hsac]
    cases axis
    case x => simp [hne .y, hne .z]
    case y => simp [hne .z]
    case z => simp
  · rw [heading, if_neg hsac]
    rw [hpath] at hsac
    rw [hpath, hpath, if_pos (samplePath_of_not_isSac hsac .z)]

/-- The file of an axis gets its samples. -/
theorem BlockExtrema.axisSamples_file (h : BlockExtrema r b seen hdr) (hr : RecorderInv r calls)
    (axis : Axis) :
    axisSamples axis ((createDirs r b).1.currentDirectory axis)
        (calls ++ (readAnalogInputsAndSaveData r b).2)
      = axisSamples axis ((createDirs r b).1.currentDirectory axis) (calls ++ (createDirs r b).2)
        ++ r.chunk b axis := by
  obtain ⟨-, date, time, hpath⟩ := hr.createDirs b
  obtain ⟨events, hevents, hcalls⟩ := h.calls
  have hname : IsSample ((createDirs r b).1.currentDirectory axis) :=
    hpath axis ▸ isSample_samplePath date time axis
  have hfilter : (Axis.all.map fun other =>
      SacCall.writeSac ((createDirs r b).1.currentDirectory other) (hdr other)
        (r.chunk b other)).filter (ofAxis axis)
        = [.writeSac ((createDirs r b).1.currentDirectory axis) (hdr axis) (r.chunk b axis)] := by
    have hpad : ∀ other : Axis, (pad8 other.name == pad8 axis.name) = decide (other = axis) := by
      intro other
      cases other <;> cases axis <;> decide +kernel
    simp only [Axis.all, List.map_cons, List.map_nil, List.filter_cons, ofAxis, h.component, hpad,
      List.filter_nil]
    cases axis <;> rfl
  rw [hcalls, axisSamples, axisSamples, ← List.append_assoc, ← List.append_assoc,
    List.filter_append, hfilter, samplesOf_writeSac, if_pos rfl, List.filter_append,
    samplesOf_append_of_ne fun c hc => hevents c (List.mem_filter.mp hc).1 _ hname]

/-- A block leaves all other files alone. -/
theorem BlockExtrema.name_ne (h : BlockExtrema r b seen hdr) (hr : RecorderInv r calls)
    {name : Path} (hname : IsSample name)
    (hother : ∀ axis, (createDirs r b).1.currentDirectory axis ≠ name) :
    ∀ c ∈ (readAnalogInputsAndSaveData r b).2, c.name ≠ name := by
  obtain ⟨events, hevents, hcalls⟩ := h.calls
  intro c hc
  rw [hcalls, List.mem_append, List.mem_append] at hc
  rcases hc with (hc | hc) | hc
  · by_cases ho : r.Opens b
    · rw [createDirs_of_opens hr.named ho] at hc hother
      obtain ⟨axis, -, rfl⟩ := List.mem_map.mp hc
      exact hother axis
    · rw [createDirs_of_not_opens hr.named ho] at hc
      cases hc
  · exact hevents c hc name hname
  · obtain ⟨axis, -, rfl⟩ := List.mem_map.mp hc
    exact hother axis

/-- A name of the file of an axis that is one of those chosen is the one chosen for that axis. -/
theorem currentDirectory_of_eq (hr : RecorderInv r calls) {date time : CBuf} {axis other : Axis}
    (heq : (createDirs r b).1.currentDirectory other = samplePath date time axis) :
    (createDirs r b).1.currentDirectory axis = samplePath date time axis := by
  obtain ⟨-, date', time', hpath⟩ := hr.createDirs b
  rw [hpath] at heq ⊢
  by_cases hsac : IsSac (samplePath date time axis)
  · by_cases hne : axis = other
    · rw [hne, heq, hne]
    · exact absurd heq (samplePath_axis_ne hne hsac)
  · rw [← heq] at hsac
    exact (samplePath_of_not_isSac hsac axis).trans heq

end Files

/-! ## Exact extrema -/

/-- In every continuous file, the fields `DEPMIN` and `DEPMAX` are the least and the greatest of the
samples of its axis in it. -/
def ExactExtrema (calls : List (SacCall ℚ)) : Prop :=
  ∀ date time axis hdr, headerOf (samplePath date time axis) calls = some hdr →
    Extrema (axisSamples axis (samplePath date time axis) calls) hdr.depmin hdr.depmax

/-- **The headers after a block are right exactly when, for each axis, what was fed has the extrema
of what is in the file.** -/
theorem exactExtrema_block {r : Recorder ℚ} {calls : List (SacCall ℚ)} {b : Reading ℚ}
    {seen : List ℚ} {hdr : Axis → SacHdr ℚ} (h : BlockExtrema r b seen hdr)
    (hr : RecorderInv r calls) (hexact : ExactExtrema calls) :
    ExactExtrema (calls ++ (readAnalogInputsAndSaveData r b).2) ↔
      ∀ axis, Extrema (axisSamples axis ((createDirs r b).1.currentDirectory axis)
          (calls ++ (readAnalogInputsAndSaveData r b).2))
        (hdr (heading ((createDirs r b).1.currentDirectory axis) axis)).depmin
        (hdr (heading ((createDirs r b).1.currentDirectory axis) axis)).depmax := by
  refine ⟨fun hall axis => ?_, fun hall date time axis hdr' hheader => ?_⟩
  · obtain ⟨-, date, time, hpath⟩ := hr.createDirs b
    have hheader := h.headerOf_file hr axis
    rw [hpath] at hheader ⊢
    exact hall date time axis _ hheader
  · by_cases hcur : ∃ other, (createDirs r b).1.currentDirectory other = samplePath date time axis
    · obtain ⟨other, hother⟩ := hcur
      have hown := currentDirectory_of_eq hr hother
      rw [← hown] at hheader ⊢
      rw [h.headerOf_file hr axis, Option.some.injEq] at hheader
      rw [← hheader]
      exact hall axis
    · have hne := h.name_ne hr (isSample_samplePath date time axis) (not_exists.mp hcur)
      rw [headerOf_append_of_ne hne] at hheader
      rw [axisSamples, List.filter_append,
        samplesOf_append_of_ne fun c hc => hne c (List.mem_filter.mp hc).1]
      exact hexact date time axis hdr' hheader

/-! ## Runs

What is fed to the record and what is stored in a file, read off the blocks. -/

section Runs

variable (globals : Recorder ℚ) (blocks : ℕ → Reading ℚ)

/-- The block that opened the files block `k` is stored in: the last one before it, or itself, that
is the first of all or stamped HH0000. -/
def opening : ℕ → ℕ
  | 0 => 0
  | k + 1 => if isNewHour (blocks (k + 1)).time = true then k + 1 else opening k

/-- The samples of an axis from the block that opened the file to block `k`. -/
def stored (axis : Axis) : ℕ → List ℚ
  | 0 => globals.chunk (blocks 0) axis
  | k + 1 =>
    if isNewHour (blocks (k + 1)).time = true then globals.chunk (blocks (k + 1)) axis
    else stored axis k ++ globals.chunk (blocks (k + 1)) axis

/-- The samples of all axes before block `k`, but for a beginning of zeros. -/
def fedBefore : ℕ → List ℚ
  | 0 => []
  | k + 1 => fedWith (fedBefore k) (globals.chunk (blocks k)) .z

/-- The samples of all axes up to those of an axis of block `k`, but for a beginning of zeros. -/
def fed (k : ℕ) : Axis → List ℚ := fedWith (fedBefore globals blocks k) (globals.chunk (blocks k))

/-- The axis up to which samples have been fed when the header is written that stays in the file of
an axis.  Without an hour in its name that is the file of all three. -/
def lastFed (k : ℕ) (axis : Axis) : Axis :=
  if HasHour (blocks (opening blocks k)).time then axis else .z

/-- The samples fed until then, those of other axes and other hours among them, lie within the
samples of the axis in the file, and these within them. -/
def Undisturbed (k : ℕ) (axis : Axis) : Prop :=
  Within (fed globals blocks k (lastFed blocks k axis)) (stored globals blocks axis k) ∧
    Within (stored globals blocks axis k) (fed globals blocks k (lastFed blocks k axis))

instance (k : ℕ) (axis : Axis) : Decidable (Undisturbed globals blocks k axis) := by
  unfold Undisturbed
  infer_instance

/-- The state of the program after `n` blocks. -/
structure ExtremaInv (n : ℕ) (r : Recorder ℚ) (calls : List (SacCall ℚ)) : Prop where
  sps : r.sps = globals.sps
  seen : Accumulated 0 (fedBefore globals blocks n) r.strDepValues.depmin r.strDepValues.depmax
  first : n = 0 → r.currentDirectory .x = []
  current : ∀ k, n = k + 1 → ∀ axis, r.currentDirectory axis
    = samplePath (blocks (opening blocks k)).date (blocks (opening blocks k)).time axis
  stored : ∀ k, n = k + 1 → ∀ axis,
    axisSamples axis (r.currentDirectory axis) calls = stored globals blocks axis k

variable {globals blocks} {n : ℕ} {r : Recorder ℚ} {calls : List (SacCall ℚ)}

theorem chunk_congr (h : r.sps = globals.sps) (b : Reading ℚ) : r.chunk b = globals.chunk b := by
  funext axis
  rw [Recorder.chunk, Recorder.chunk, Recorder.samples, Recorder.samples, h]

/-- The files of block `n` once they are chosen. -/
theorem ExtremaInv.createDirs (h : ExtremaInv globals blocks n r calls) (hr : RecorderInv r calls)
    (axis : Axis) :
    (createDirs r (blocks n)).1.currentDirectory axis
        = samplePath (blocks (opening blocks n)).date (blocks (opening blocks n)).time axis ∧
      axisSamples axis ((SensorIoT.createDirs r (blocks n)).1.currentDirectory axis)
          (calls ++ (SensorIoT.createDirs r (blocks n)).2) ++ globals.chunk (blocks n) axis
        = SensorIoT.stored globals blocks axis n := by
  have hnew : r.Opens (blocks n) →
      (SensorIoT.createDirs r (blocks n)).1.currentDirectory axis
          = samplePath (blocks n).date (blocks n).time axis ∧
        axisSamples axis ((SensorIoT.createDirs r (blocks n)).1.currentDirectory axis)
          (calls ++ (SensorIoT.createDirs r (blocks n)).2) = [] := by
    intro ho
    rw [createDirs_of_opens hr.named ho, axisSamples, List.filter_append, List.filter_map,
      samplesOf_createFiles]
    exact ⟨rfl, if_pos ⟨axis, by cases axis <;> simp [Axis.all, ofAxis], rfl⟩⟩
  cases n with
  | zero =>
    obtain ⟨hdir, hnil⟩ := hnew (.inl (h.first rfl))
    rw [hnil]
    exact ⟨hdir, rfl⟩
  | succ k =>
    rw [opening, SensorIoT.stored]
    by_cases hhour : isNewHour (blocks (k + 1)).time = true
    · obtain ⟨hdir, hnil⟩ := hnew (.inr hhour)
      rw [if_pos hhour, if_pos hhour, hnil]
      exact ⟨hdir, rfl⟩
    · have hne : r.currentDirectory .x ≠ [] := h.current k rfl .x ▸ samplePath_ne_nil _ _ _
      rw [if_neg hhour, if_neg hhour,
        createDirs_of_not_opens hr.named fun ho => ho.elim hne hhour, List.append_nil]
      exact ⟨h.current k rfl axis, by rw [h.stored k rfl axis]⟩

/-- **A block.** -/
theorem ExtremaInv.block (h : ExtremaInv globals blocks n r calls) (hr : RecorderInv r calls)
    (hb : (blocks n).Bounded) :
    ExtremaInv globals blocks (n + 1) (readAnalogInputsAndSaveData r (blocks n)).1
      (calls ++ (readAnalogInputsAndSaveData r (blocks n)).2) := by
  obtain ⟨hdr, hblock⟩ := blockExtrema hr hb h.seen
  have hdir := (readAnalogInputsAndSaveData_eq r (blocks n)).1
  have hchunk := chunk_congr h.sps (blocks n)
  constructor
  case sps => exact hblock.sps.trans h.sps
  case seen =>
    rw [fedBefore, ← hchunk]
    exact .inr hblock.accumulated
  case first => exact fun hzero => absurd hzero (Nat.succ_ne_zero n)
  case current =>
    rintro k hk axis
    obtain rfl := Nat.succ.inj hk
    rw [hdir]
    exact (h.createDirs hr axis).1
  case stored =>
    rintro k hk axis
    obtain rfl := Nat.succ.inj hk
    rw [hdir, hblock.axisSamples_file hr, hchunk]
    exact (h.createDirs hr axis).2

/-- The headers after block `n`. -/
theorem ExtremaInv.exact_iff (h : ExtremaInv globals blocks n r calls) (hr : RecorderInv r calls)
    (hb : (blocks n).Bounded) (hexact : ExactExtrema calls) :
    ExactExtrema (calls ++ (readAnalogInputsAndSaveData r (blocks n)).2) ↔
      ∀ axis, Undisturbed globals blocks n axis := by
  obtain ⟨hdr, hblock⟩ := blockExtrema hr hb h.seen
  have hchunk := chunk_congr h.sps (blocks n)
  rw [exactExtrema_block hblock hr hexact]
  refine forall_congr' fun axis => ?_
  obtain ⟨hdir, hstored⟩ := h.createDirs hr axis
  have hheading : heading ((SensorIoT.createDirs r (blocks n)).1.currentDirectory axis) axis
      = lastFed blocks n axis := by
    rw [heading, lastFed, hdir]
    simp only [isSac_samplePath_iff]
  rw [hblock.axisSamples_file hr, hchunk, hstored, hheading]
  have hheader := hblock.header (lastFed blocks n axis)
  rw [hchunk] at hheader
  exact hheader.iff_within

/-- **Every run of blocks.** -/
theorem extremaInv
    (hzero : globals.strDepValues.depmin = 0 ∧ globals.strDepValues.depmax = 0)
    (hb : ∀ k, (blocks k).Bounded) (n : ℕ) :
    ExtremaInv globals blocks n (recorder globals (fun k => .block (blocks k)) n)
      (SensorIoT.calls globals (fun k => .block (blocks k)) n) := by
  induction n with
  | zero =>
    exact ⟨rfl, .inl ⟨rfl, hzero⟩, fun _ => rfl, fun k hk => absurd hk (Nat.succ_ne_zero k).symm,
      fun k hk => absurd hk (Nat.succ_ne_zero k).symm⟩
  | succ n ih => exact ih.block (recorderInv globals _ n) (hb n)

theorem exactExtrema_succ_iff
    (hzero : globals.strDepValues.depmin = 0 ∧ globals.strDepValues.depmax = 0)
    (hb : ∀ k, (blocks k).Bounded)
    (hexact : ExactExtrema (SensorIoT.calls globals (fun k => .block (blocks k)) n)) :
    ExactExtrema (SensorIoT.calls globals (fun k => .block (blocks k)) (n + 1)) ↔
      ∀ axis, Undisturbed globals blocks n axis :=
  (extremaInv hzero hb n).exact_iff (recorderInv globals _ n) (hb n) hexact

end Runs

theorem exactExtrema_nil : ExactExtrema [] := by
  intro date time axis hdr hheader
  cases hheader

/-- **The headers are right after every block exactly when no block is disturbed**: when the samples
of the other axes and of earlier hours never lie outside what the file holds. -/
theorem depExtrema_iff (globals : Recorder ℚ) (blocks : ℕ → Reading ℚ)
    (hzero : globals.strDepValues.depmin = 0 ∧ globals.strDepValues.depmax = 0)
    (hb : ∀ k, (blocks k).Bounded) (n : ℕ) :
    (∀ m ≤ n, ExactExtrema (calls globals (fun k => .block (blocks k)) m)) ↔
      ∀ k < n, ∀ axis, Undisturbed globals blocks k axis := by
  induction n with
  | zero =>
    refine ⟨fun _ k hk => absurd hk (Nat.not_lt_zero k), fun _ m hm => ?_⟩
    obtain rfl := Nat.le_zero.mp hm
    exact exactExtrema_nil
  | succ n ih =>
    refine ⟨fun h k hk => ?_, fun h m hm => ?_⟩
    · have hexact := h n (Nat.le_succ n)
      rcases Nat.lt_succ_iff_lt_or_eq.mp hk with hk | rfl
      · exact ih.mp (fun m hm => h m (Nat.le_succ_of_le hm)) k hk
      · exact (exactExtrema_succ_iff hzero hb hexact).mp (h (k + 1) (Nat.le_refl _))
    · have hbefore := ih.mpr fun k hk => h k (Nat.lt_succ_of_lt hk)
      rcases Nat.le_succ_iff.mp hm with hm | rfl
      · exact hbefore m hm
      · exact (exactExtrema_succ_iff hzero hb (hbefore n (Nat.le_refl n))).mpr
          (h n (Nat.lt_succ_self n))

/-- Blocks of three steady signals, one second before and at eleven o'clock. -/
def levelBlocks (x y z : ℚ) (k : ℕ) : Reading ℚ :=
  { Reading.silent "050517" (if k = 0 then "105959" else "110000") with
    data := fun axis _ => Axis.values x y z axis }

theorem levelBlocks_bounded {x y z : ℚ} (hx : -10 ^ 38 ≤ x ∧ x ≤ 10 ^ 38)
    (hy : -10 ^ 38 ≤ y ∧ y ≤ 10 ^ 38) (hz : -10 ^ 38 ≤ z ∧ z ≤ 10 ^ 38) (k : ℕ) :
    (levelBlocks x y z k).Bounded := by
  intro axis i
  cases axis
  case x => exact hx
  case y => exact hy
  case z => exact hz

/-- Three signals that are the same do not disturb one another. -/
theorem depExtrema_iff_level :
    ExactExtrema (calls continuous40 (fun k => .block (levelBlocks 1 1 1 k)) 2) := by
  have hone : -10 ^ 38 ≤ (1 : ℚ) ∧ (1 : ℚ) ≤ 10 ^ 38 := by norm_num
  refine (depExtrema_iff continuous40 (levelBlocks 1 1 1) ⟨rfl, rfl⟩
    (levelBlocks_bounded hone hone hone) 2).mpr (fun k hk axis => ?_) 2 (Nat.le_refl 2)
  obtain rfl | rfl : k = 0 ∨ k = 1 := by omega
  · cases axis <;> decide +kernel
  · cases axis <;> decide +kernel

/-- With signals of 1, 2 and 3, the header of BH1 gives 1 for the least of its samples, and they are
all 2. -/
theorem not_exactExtrema_level :
    (∀ k, (levelBlocks 1 2 3 k).Bounded) ∧
      ¬ ExactExtrema (calls continuous40 (fun k => .block (levelBlocks 1 2 3 k)) 1) := by
  have hbounded : ∀ k, (levelBlocks 1 2 3 k).Bounded :=
    levelBlocks_bounded (by norm_num) (by norm_num) (by norm_num)
  refine ⟨hbounded, fun h => ?_⟩
  have hall := (exactExtrema_succ_iff (n := 0) ⟨rfl, rfl⟩ hbounded exactExtrema_nil).mp h
  exact absurd (hall .y) (by decide +kernel)

end SensorIoT
