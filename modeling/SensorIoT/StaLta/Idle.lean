import SensorIoT.StaLta.Phase
import SensorIoT.StaLta.Windows

/-!
# Axes without an event

An axis is ready for the next event when no event is in progress and the event arrays are empty.
An event that is saved or discarded leaves it so.  An event that fills its array does not: the
branch of `detectEvent` that closes it neither queues it nor resets the counter, and every event
after it is over with its first sample.

`idle_empty_iff` is the exact statement, and `not_idleEmpty_steady` a run in which it happens: on
a steady signal the ratio never comes down again, because the windows do not start at their means.
-/

set_option autoImplicit false

namespace SensorIoT

open Register RunningMean

section

variable {F : Type} [FloatArith F] {p : Params F} {axis : CBuf} {bs : ℕ → Block F} {n : ℕ}

omit [FloatArith F] in
/-- The event arrays are empty. -/
def EventData.Empty (e : EventData F) : Prop := e.countEventSamples = 0 ∧ e.countPostEvent = 0

/-- In every state of the run between two samples, an axis without an event has empty arrays. -/
def IdleEmpty (p : Params F) (axis : CBuf) (bs : ℕ → Block F) : Prop :=
  ∀ n, ((before p axis bs n).Idle → (before p axis bs n).Empty) ∧
    ((after p axis bs n).Idle → (after p axis bs n).Empty)

/-- An overflow leaves an idle axis with a full array. -/
theorem OverflowsAt.after (hp : p.Checked) (h : OverflowsAt p axis bs n) :
    (after p axis bs n).Idle ∧ (after p axis bs n).countEventSamples = maxLengthEvent := by
  obtain ⟨hfull, hon, hcount, hr⟩ := h
  obtain ⟨φ, hφ⟩ := phase_before hp axis bs n
  obtain ⟨t, rfl⟩ := hφ.represents.of_on hon
  have hopen := hφ.represents.1
  obtain ⟨d, w, hstep, hafter⟩ := (sampleStep hp axis bs n).detected hfull
  obtain ⟨-, hd⟩ | ⟨hne, -⟩ := hstep.of_open hopen hr
  · rw [hafter, hd]
    exact ⟨⟨rfl, hopen.2⟩, hcount⟩
  · exact absurd hcount hne

/-- In a run without overflow an idle axis is in the idle phase. -/
theorem InPhase.empty {φ : Phase} {e : EventData F} (h : InPhase p axis bs n φ e)
    (hover : ∀ m, ¬ OverflowsAt p axis bs m) (hidle : e.Idle) : e.Empty := by
  rcases h.represents.of_idle hidle with rfl | rfl
  · exact h.represents.2
  · obtain ⟨m, -, hm⟩ := h.dated
    exact absurd hm (hover m)

/-- **When axes without an event are ready for the next one**: as long as no sample finds an open
event with a full array. -/
theorem idle_empty_iff (hp : p.Accepted) (axis : CBuf) (bs : ℕ → Block F) :
    IdleEmpty p axis bs ↔ ∀ n, ¬ OverflowsAt p axis bs n := by
  refine ⟨fun h n hover => ?_, fun hover n => ?_⟩
  · obtain ⟨hidle, hcount⟩ := hover.after hp.checked
    exact absurd (hcount.symm.trans ((h n).2 hidle).1) (by decide)
  · obtain ⟨φ, hφ⟩ := phase_before hp.checked axis bs n
    obtain ⟨φ', hφ'⟩ := phase_after hp.checked axis bs n
    exact ⟨hφ.empty hover, hφ'.empty hover⟩

/-- A sample of an event is stored as long as there is room and the ratio stays up. -/
theorem before_succ_open (hp : p.Checked) (hfull : (before p axis bs n).countTempData = p.lengthLTA)
    (hopen : (before p axis bs n).Open)
    (hr : ¬ ((before p axis bs n).judged p (bs (n / p.freq)) (n % p.freq)).ratio ≤ p.thOff)
    (hcount : (before p axis bs n).countEventSamples ≠ maxLengthEvent) :
    (before p axis bs (n + 1)).Open ∧
      (before p axis bs (n + 1)).countEventSamples
        = (before p axis bs n).countEventSamples + 1 := by
  obtain ⟨d, w, hstep, hafter⟩ := (sampleStep hp axis bs n).detected hfull
  obtain ⟨hmax, -⟩ | ⟨-, hd⟩ := hstep.of_open hopen hr
  · exact absurd hmax hcount
  have hpend : (after p axis bs n).isPendingSaveEvent ≠ true := by
    rw [hafter, hd]
    exact Bool.eq_false_iff.mp hopen.2.2
  have hbefore : before p axis bs (n + 1) = after p axis bs n := by
    rw [before_succ hp.freq_pos, afterBlock, if_neg hpend, ite_self]
  rw [hbefore, hafter, hd]
  exact ⟨hopen, rfl⟩

end

/-! ## A steady signal -/

/-- A signal that is always 1. -/
def steadyBlocks (_ : ℕ) : Block ℚ := .plain fun _ => 1

/-- The long window starts at a twentieth of the signal, so the ratio is 20 for ever. -/
theorem ratio_steady (n : ℕ) (hn : 40 ≤ n) :
    ((before (tinyParams 1 1 0) (zeroBuf 15) steadyBlocks n).judged (tinyParams 1 1 0)
      (steadyBlocks (n / 40)) (n % 40)).ratio = 20 := by
  have hstart : (after (tinyParams 1 1 0) (zeroBuf 15) steadyBlocks 39).sta 39 = 1 ∧
      (after (tinyParams 1 1 0) (zeroBuf 15) steadyBlocks 39).lta 39 = 1 / 20 := by
    decide +kernel
  obtain ⟨hsta, hlta⟩ := averages_steady (p := tinyParams 1 1 0) (by decide) (by decide)
    (by decide) (zeroBuf 15) steadyBlocks (c := 1) (fun _ => rfl) n (show 39 ≤ n by omega)
  have hr := judged_ratio (p := tinyParams 1 1 0) (by decide) (by decide) (by decide) (by decide)
    (zeroBuf 15) steadyBlocks n hn
  rw [hsta, hlta] at hr
  refine hr.trans ?_
  change |_ / _| = (20 : ℚ)
  rw [show (tinyParams 1 1 0).lengthLTA - 1 = 39 from rfl, hstart.1, hstart.2]
  norm_num

/-- The event that starts with sample 40 takes every sample there is room for. -/
theorem open_steady (hp : (tinyParams 1 1 0).Checked) (m : ℕ) (hm : 1 ≤ m)
    (hmax : m ≤ maxLengthEvent) :
    (before (tinyParams 1 1 0) (zeroBuf 15) steadyBlocks (40 + m)).Open ∧
      (before (tinyParams 1 1 0) (zeroBuf 15) steadyBlocks (40 + m)).countEventSamples = m := by
  induction m, hm using Nat.le_induction with
  | base => decide +kernel
  | succ m hm ih =>
    obtain ⟨hopen, hcount⟩ := ih (by omega)
    have hfull := (countTempData_eq_iff hp.freq_pos (zeroBuf 15) steadyBlocks (40 + m)).mpr
      (Nat.le_add_right 40 m)
    have hr := ratio_steady (40 + m) (by omega)
    obtain ⟨hopen', hcount'⟩ := before_succ_open hp hfull hopen
      (fun hle => absurd (hr ▸ hle : (20 : ℚ) ≤ 3 / 2) (by norm_num)) (by omega)
    exact ⟨hopen', hcount'.trans (by rw [hcount])⟩

/-- On a steady signal sample 240040 closes the event that fills the array, and leaves it full. -/
theorem not_idleEmpty_steady :
    (tinyParams 1 1 0).Accepted ∧ (tinyParams 1 1 0).Fits ∧
      ¬ IdleEmpty (tinyParams 1 1 0) (zeroBuf 15) steadyBlocks := by
  have hp : (tinyParams 1 1 0).Accepted := ⟨tinyOptions 1 1 (1 / 2), by decide +kernel⟩
  refine ⟨hp, tinyParams_fits (by decide) (by decide) (by decide), fun h => ?_⟩
  obtain ⟨hopen, hcount⟩ := open_steady hp.checked maxLengthEvent (by decide) (Nat.le_refl _)
  have hfull := (countTempData_eq_iff hp.checked.freq_pos (zeroBuf 15) steadyBlocks
    (40 + maxLengthEvent)).mpr (Nat.le_add_right 40 maxLengthEvent)
  have hr := ratio_steady (40 + maxLengthEvent) (Nat.le_add_right 40 maxLengthEvent)
  have hover : OverflowsAt (tinyParams 1 1 0) (zeroBuf 15) steadyBlocks (40 + maxLengthEvent) :=
    ⟨hfull, hopen.1, hcount,
      fun hle => absurd (hr ▸ hle : (20 : ℚ) ≤ 3 / 2) (by norm_num)⟩
  obtain ⟨hidle, hleft⟩ := hover.after hp.checked
  exact absurd (hleft.symm.trans ((h _).2 hidle).1) (by decide)

theorem idle_empty_iff_steady :
    IdleEmpty (tinyParams 1 1 0) (zeroBuf 15) steadyBlocks ↔
      ∀ n, ¬ OverflowsAt (tinyParams 1 1 0) (zeroBuf 15) steadyBlocks n :=
  idle_empty_iff ⟨tinyOptions 1 1 (1 / 2), by decide +kernel⟩ (zeroBuf 15) steadyBlocks

end SensorIoT
