import Mathlib.Data.List.GetD
import SensorIoT.EventFile
import SensorIoT.Lib.Extrema

/-!
# Accumulating extrema

`scmxmn` adds the extrema of an array to those it has accumulated, and takes two zeros for nothing
accumulated yet.  So a beginning of nothing but zeros is forgotten as soon as something else comes
(`scmxmn_notice`), and what is accumulated over the parts of a file is right as long as that does
no harm (`accumulated_iff`).
-/

set_option autoImplicit false

namespace SensorIoT

open Extrema (Within Accumulated notice leading following)

/-! ## `scmxmn` -/

/-- The comparisons of one turn of the loop. -/
theorem scmxmnBody_rat (x : ℕ → ℚ) (acc : ℚ × ℚ × ℚ) (i : ℕ) :
    scmxmnBody x acc i = (max acc.1 (x i), min acc.2.1 (x i), acc.2.2 + x i) := by
  have hmax : max acc.1 (x i) = if acc.1 < x i then x i else acc.1 := max_def_lt _ _
  have hmin : min acc.2.1 (x i) = if x i < acc.2.1 then x i else acc.2.1 := by
    rw [min_comm]
    exact min_def_lt _ _
  rw [hmax, hmin]
  rfl

/-- The values that lie between those the loop starts from. -/
def Bounded (x : ℕ → ℚ) : Prop := ∀ i, -10 ^ 38 ≤ x i ∧ x i ≤ 10 ^ 38

/-- The loop finds the extrema of the array. -/
theorem extrema_loop {x : ℕ → ℚ} (hx : Bounded x) (k : ℕ) :
    Extrema ((List.range (k + 1)).map x)
      ((List.range (k + 1)).foldl (scmxmnBody x) (-10 ^ 38, 10 ^ 38, (0 : ℚ))).2.1
      ((List.range (k + 1)).foldl (scmxmnBody x) (-10 ^ 38, 10 ^ 38, (0 : ℚ))).1 := by
  induction k with
  | zero =>
    have hfirst : (List.range 1).foldl (scmxmnBody x) (-10 ^ 38, 10 ^ 38, (0 : ℚ))
        = (x 0, x 0, 0 + x 0) := by
      rw [List.range_one, List.foldl_cons, List.foldl_nil, scmxmnBody_rat]
      simp only [max_eq_right (hx 0).1, min_eq_right (hx 0).2]
    rw [hfirst]
    exact Extrema.singleton (x 0)
  | succ k ih =>
    rw [List.range_succ, List.foldl_append, List.map_append, List.foldl_cons, List.foldl_nil,
      scmxmnBody_rat]
    exact ih.concat (x (k + 1))

theorem feq_rat (a b : ℚ) : FloatArith.feq a b = true ↔ a = b := by
  rw [FloatArith.feq, Bool.and_eq_true, decide_eq_true_eq, decide_eq_true_eq]
  exact le_antisymm_iff.symm

/-- What `scmxmn` makes of the extrema of an array and of those before it. -/
theorem scmxmn_extrema (x : ℕ → ℚ) (k : ℕ) (v : DepValues ℚ) :
    let acc := (List.range k).foldl (scmxmnBody x) (-10 ^ 38, 10 ^ 38, (0 : ℚ))
    (scmxmn x k v).depmin
        = (if v.depmin = 0 ∧ v.depmax = 0 then acc.2.1 else min v.depmin acc.2.1) ∧
      (scmxmn x k v).depmax
        = (if v.depmin = 0 ∧ v.depmax = 0 then acc.1 else max v.depmax acc.1) := by
  intro acc
  have hnil : (FloatArith.feq v.depmax (FloatArith.lit 0)
      && FloatArith.feq v.depmin (FloatArith.lit 0)) = true ↔ v.depmin = 0 ∧ v.depmax = 0 := by
    rw [Bool.and_eq_true, feq_rat, feq_rat, and_comm, FloatArith.lit_rat]
  have hmax : max v.depmax acc.1 = if v.depmax < acc.1 then acc.1 else v.depmax := max_def_lt _ _
  have hmin : min v.depmin acc.2.1 = if acc.2.1 < v.depmin then acc.2.1 else v.depmin := by
    rw [min_comm]
    exact min_def_lt _ _
  rw [scmxmn, hmax, hmin]
  split
  · rename_i hzero
    rw [if_pos (hnil.mp hzero), if_pos (hnil.mp hzero)]
    exact ⟨rfl, rfl⟩
  · rename_i hzero
    rw [if_neg (mt hnil.mpr hzero), if_neg (mt hnil.mpr hzero)]
    exact ⟨rfl, rfl⟩

/-- `scmxmn` adds an array to what is accumulated; two zeros stand for nothing. -/
theorem scmxmn_notice {x : ℕ → ℚ} (hx : Bounded x) {k : ℕ} (hk : 0 < k) {v : DepValues ℚ}
    {seen : List ℚ} (h : Accumulated 0 seen v.depmin v.depmax) :
    Extrema (notice 0 seen ((List.range k).map x)) (scmxmn x k v).depmin
      (scmxmn x k v).depmax := by
  cases k with
  | zero => exact absurd hk (Nat.lt_irrefl 0)
  | succ k =>
    obtain ⟨hmin, hmax⟩ := scmxmn_extrema x (k + 1) v
    rw [hmin, hmax]
    exact h.notice (extrema_loop hx k)

/-! ## The parts of a file -/

/-- The values of an array beyond the first `n` do not matter. -/
theorem scmxmn_congr {x y : ℕ → ℚ} {n : ℕ} (h : ∀ i < n, x i = y i) (v : DepValues ℚ) :
    scmxmn x n v = scmxmn y n v := by
  have hloop : ∀ start, (List.range n).foldl (scmxmnBody x) start
      = (List.range n).foldl (scmxmnBody y) start := fun start =>
    List.foldl_ext _ _ _ fun acc i hi => by
      rw [scmxmnBody, scmxmnBody, h i (List.mem_range.mp hi)]
  rw [scmxmn, scmxmn]
  simp only [hloop]

/-- `scmxmn` on one part. -/
def accumulate (v : DepValues ℚ) (part : List ℚ) : DepValues ℚ :=
  scmxmn (fun i => part.getD i 0) part.length v

theorem map_range_getD (part : List ℚ) :
    (List.range part.length).map (fun i => part.getD i 0) = part := by
  refine List.ext_getElem (by simp) fun i _ hi => ?_
  simp [hi]

theorem scmxmn_eq_accumulate (x : ℕ → ℚ) (n : ℕ) (v : DepValues ℚ) :
    scmxmn x n v = accumulate v ((List.range n).map x) := by
  rw [accumulate, List.length_map, List.length_range]
  refine scmxmn_congr (fun i hi => ?_) v
  simp [hi]

/-- The values that `scmxmn` can tell from its own marks. -/
def InRange (part : List ℚ) : Prop := ∀ x ∈ part, -10 ^ 38 ≤ x ∧ x ≤ 10 ^ 38

instance (part : List ℚ) : Decidable (InRange part) := by unfold InRange; infer_instance

theorem InRange.bounded {part : List ℚ} (h : InRange part) : Bounded fun i => part.getD i 0 := by
  intro i
  rcases Nat.lt_or_ge i part.length with hi | hi
  · have hmem : part.getD i 0 ∈ part := by
      rw [List.getD_eq_getElem _ _ hi]
      exact List.getElem_mem hi
    exact h _ hmem
  · simp only [List.getD_eq_default _ _ hi]
    norm_num

/-- One part more. -/
theorem extrema_accumulate {part : List ℚ} (hpart : part ≠ []) (hrange : InRange part)
    {v : DepValues ℚ} {seen : List ℚ} (h : Accumulated 0 seen v.depmin v.depmax) :
    Extrema (notice 0 seen part) (accumulate v part).depmin (accumulate v part).depmax := by
  have hstep := scmxmn_notice hrange.bounded (List.length_pos_of_ne_nil hpart) h
  rwa [map_range_getD] at hstep

/-- And more parts. -/
theorem extrema_foldl {parts : List (List ℚ)} (hparts : ∀ part ∈ parts, part ≠ [])
    (hrange : ∀ part ∈ parts, InRange part) {v : DepValues ℚ} {seen : List ℚ}
    (h : Extrema seen v.depmin v.depmax) :
    Extrema (parts.foldl (notice 0) seen) (parts.foldl accumulate v).depmin
      (parts.foldl accumulate v).depmax := by
  induction parts generalizing v seen with
  | nil => exact h
  | cons part parts ih =>
    rw [List.forall_mem_cons] at hparts hrange
    exact ih hparts.2 hrange.2 (extrema_accumulate hparts.1 hrange.1 (.inr h))

/-- **When the extrema accumulated over the parts are those of all values**: the parts at the
beginning that hold nothing but zeros are none, or all, or zero lies within the others. -/
theorem accumulated_iff {parts : List (List ℚ)} (hne : parts ≠ [])
    (hparts : ∀ part ∈ parts, part ≠ []) (hrange : ∀ part ∈ parts, InRange part)
    {v : DepValues ℚ} (hzero : v.depmin = 0 ∧ v.depmax = 0) :
    Extrema parts.flatten (parts.foldl accumulate v).depmin (parts.foldl accumulate v).depmax ↔
      leading 0 parts = [] ∨ following 0 parts = [] ∨ Within [0] (following 0 parts).flatten := by
  have hnoticed : Extrema (parts.foldl (notice 0) []) (parts.foldl accumulate v).depmin
      (parts.foldl accumulate v).depmax := by
    cases parts with
    | nil => exact absurd rfl hne
    | cons part parts =>
      rw [List.forall_mem_cons] at hparts hrange
      exact extrema_foldl hparts.2 hrange.2
        (extrema_accumulate hparts.1 hrange.1 (.inl ⟨rfl, hzero.1, hzero.2⟩))
  exact hnoticed.notice_chunks_iff hparts

/-- The values before the first `writeSac` of `createEventFile`. -/
def noValues : DepValues ℚ := ⟨0, 0, 0, 0, 0, 0⟩

/-- Three parts, the first of zeros. -/
def signParts : List (List ℚ) := [[0, 0], [3, -2], [5]]

/-- Zeros are no harm in front of values of both signs. -/
theorem accumulated_iff_signs :
    Extrema signParts.flatten (signParts.foldl accumulate noValues).depmin
      (signParts.foldl accumulate noValues).depmax :=
  (accumulated_iff (by decide) (by decide) (by decide +kernel) ⟨rfl, rfl⟩).mpr
    (.inr (.inr (by decide +kernel)))

/-- A zero and a one, in two parts. -/
def countParts : List (List ℚ) := [[0], [1]]

/-- The zero is forgotten. -/
theorem not_accumulated_counts :
    ¬ Extrema countParts.flatten (countParts.foldl accumulate noValues).depmin
      (countParts.foldl accumulate noValues).depmax := by
  have hmin : (countParts.foldl accumulate noValues).depmin = 1 := by decide +kernel
  intro h
  have hle := h.least.2 (show (0 : ℚ) ∈ countParts.flatten by decide)
  rw [hmin] at hle
  exact absurd hle (by decide)

/-! ## Event files -/

/-- Two records with the same extrema. -/
def SameExtrema (v v' : DepValues ℚ) : Prop := v.depmin = v'.depmin ∧ v.depmax = v'.depmax

/-- Nothing else of the record matters. -/
theorem SameExtrema.accumulate {v v' : DepValues ℚ} (h : SameExtrema v v') (part : List ℚ) :
    SameExtrema (accumulate v part) (accumulate v' part) := by
  have hv := scmxmn_extrema (fun i => part.getD i 0) part.length v
  have hv' := scmxmn_extrema (fun i => part.getD i 0) part.length v'
  rw [SameExtrema, SensorIoT.accumulate, SensorIoT.accumulate, hv.1, hv.2, hv'.1, hv'.2, h.1, h.2]
  exact ⟨rfl, rfl⟩

/-- `writeSac` accumulates its samples, and puts the outcome into the header. -/
theorem writeSac_extrema {v v' : DepValues ℚ} (h : SameExtrema v v') (d : FullDate) (npts : ℤ)
    (n : ℕ) (arr : ℕ → ℚ) (dt : ℚ) (axis : List Char) (filename : Path) :
    ∃ w hdr, writeSac d v npts n arr dt axis filename
        = (w, .writeSac filename hdr ((List.range n).map arr)) ∧
      SameExtrema w (accumulate v' ((List.range n).map arr)) ∧
      hdr.depmin = w.depmin ∧ hdr.depmax = w.depmax := by
  have hw := h.accumulate ((List.range n).map arr)
  rw [← scmxmn_eq_accumulate arr n v] at hw
  exact ⟨_, _, rfl, hw, sacHeader_extrema _ _ _ _ _ _ _⟩

/-- The parts of the file of an event. -/
def eventParts (event : EventData ℚ) : List (List ℚ) :=
  [(List.range event.countPreEvent).map event.preEvent,
    (List.range event.countEventSamples).map event.eventSamples,
    (List.range event.countPostEvent).map event.postEvent]

/-- The last header of the file of an event has what is accumulated over the three parts. -/
theorem eventFile_extrema (dt : ℚ) (mem : DateMem) (event : EventData ℚ)
    (calls : List (SacCall ℚ)) :
    samplesOf (eventPath event) (calls ++ eventFileCalls dt mem event)
        = (eventParts event).flatten ∧
      ∃ hdr, headerOf (eventPath event) (calls ++ eventFileCalls dt mem event) = some hdr ∧
        hdr.depmin = ((eventParts event).foldl accumulate noValues).depmin ∧
        hdr.depmax = ((eventParts event).foldl accumulate noValues).depmax := by
  have hstart : SameExtrema { noValues with npts := noValues.npts + event.countPreEvent }
      noValues := ⟨rfl, rfl⟩
  obtain ⟨u, hdr, hu, hsame, -⟩ := writeSac_extrema hstart
    (getSacFormatDate mem event.date event.time event.isGPS) (0 + event.countPreEvent)
    event.countPreEvent event.preEvent dt (cstr event.axis) (eventPath event)
  -- between the calls nothing changes but the counter of samples
  have hnext : SameExtrema { u with npts := u.npts + event.countEventSamples } _ := hsame
  obtain ⟨u', hdr', hu', hsame', -⟩ := writeSac_extrema hnext
    (getSacFormatDate mem event.date event.time event.isGPS) (u.npts + event.countEventSamples)
    event.countEventSamples event.eventSamples dt (cstr event.axis) (eventPath event)
  have hlast : SameExtrema { u' with npts := u'.npts + event.countPostEvent } _ := hsame'
  obtain ⟨u'', hdr'', hu'', hsame'', hheader⟩ := writeSac_extrema hlast
    (getSacFormatDate mem event.date event.time event.isGPS) (u'.npts + event.countPostEvent)
    event.countPostEvent event.postEvent dt (cstr event.axis) (eventPath event)
  have hcalls : eventFileCalls dt mem event = [.createFile (eventPath event),
      .writeSac (eventPath event) hdr ((List.range event.countPreEvent).map event.preEvent),
      .writeSac (eventPath event) hdr'
        ((List.range event.countEventSamples).map event.eventSamples),
      .writeSac (eventPath event) hdr''
        ((List.range event.countPostEvent).map event.postEvent)] := by
    simp only [noValues] at hu
    have hlit : (FloatArith.lit 0 : ℚ) = 0 := rfl
    simp only [eventFileCalls, hlit, hu, hu', hu'']
  rw [hcalls]
  refine ⟨by simp [samplesOf, List.foldl_append, eventParts], hdr'', ?_, ?_⟩
  · simp [headerOf, List.foldl_append]
  · rw [hheader.1, hheader.2]
    exact hsame''

end SensorIoT
