import Mathlib.Tactic.Common
import SensorIoT.Lib.Emitter

/-!
# Counting pulses

`checkingPPS` of `SensorIoT.c` waits at the start of the program for six pulses of the GPS.  It
polls the level of the pin as fast as it can and counts every poll that finds it high, so what it
counts are not pulses: one that lasts for six polls is enough.  Its sibling among the tests sleeps
after every poll that it counts, so as not to count the same pulse again.

Two polls are of different pulses if the pin was low between them.  All that are counted are so
exactly when no two polls in a row find the pin high (`checkingPPS_iff`).
-/

set_option autoImplicit false

namespace SensorIoT

/-- `gpioValue`. -/
inductive GpioValue
  | low
  | high
  deriving DecidableEq

/-- The variables of `checkingPPS`; those that time its messages are left out. -/
structure PulseLoop where
  cont : ℕ
  returned : Bool

/-- One turn of the loop of `checkingPPS`, with the number of the poll and what it finds.  What it
counts are the numbers of polls. -/
def checkingPPSTurn (s : PulseLoop) (poll : ℕ × GpioValue) : PulseLoop × List ℕ :=
  if s.returned = true then (s, [])
  else if poll.2 = .high then
    if s.cont = 5 then ({ s with returned := true }, [poll.1])
    else ({ s with cont := s.cont + 1 }, [poll.1])
  else (s, [])

/-- The loop after `n` turns. -/
def checkingPPS (pin : ℕ → GpioValue) : ℕ → PulseLoop :=
  Emitter.state checkingPPSTurn { cont := 0, returned := false } fun n => (n, pin n)

/-- The polls counted in the first `n` turns. -/
def countedPolls (pin : ℕ → GpioValue) : ℕ → List ℕ :=
  Emitter.trace checkingPPSTurn { cont := 0, returned := false } fun n => (n, pin n)

/-- The function returns on poll `n`. -/
def ReturnsOn (pin : ℕ → GpioValue) (n : ℕ) : Prop :=
  (checkingPPS pin n).returned = false ∧ (checkingPPS pin (n + 1)).returned = true

instance (pin : ℕ → GpioValue) (n : ℕ) : Decidable (ReturnsOn pin n) := by
  unfold ReturnsOn
  infer_instance

/-- The polls counted until then are six, of six pulses: between any two of them the pin was low. -/
def SixPulses (pin : ℕ → GpioValue) (n : ℕ) : Prop :=
  (countedPolls pin (n + 1)).length = 6 ∧
    ∀ i ∈ countedPolls pin (n + 1), ∀ j ∈ countedPolls pin (n + 1), i < j →
      ∃ k, i < k ∧ k < j ∧ pin k = .low

/-- The polls among the first `n` that find the pin high. -/
def highPolls (pin : ℕ → GpioValue) (n : ℕ) : List ℕ := (List.range n).filter fun i => pin i = .high

section Run

variable {pin : ℕ → GpioValue} {n : ℕ}

theorem mem_highPolls {i : ℕ} : i ∈ highPolls pin n ↔ i < n ∧ pin i = .high := by
  simp [highPolls]

theorem highPolls_succ (pin : ℕ → GpioValue) (n : ℕ) :
    highPolls pin (n + 1) = highPolls pin n ++ if pin n = .high then [n] else [] := by
  rw [highPolls, highPolls, List.range_succ, List.filter_append]
  congr 1
  by_cases h : pin n = .high <;> simp [h]

/-- What a turn does, as long as the function has not returned. -/
theorem checkingPPSTurn_cases {s : PulseLoop} (h : s.returned = false) (v : GpioValue) :
    (v ≠ .high ∧ checkingPPSTurn s (n, v) = (s, [])) ∨
      (v = .high ∧ s.cont = 5 ∧
        checkingPPSTurn s (n, v) = ({ s with returned := true }, [n])) ∨
      (v = .high ∧ s.cont ≠ 5 ∧
        checkingPPSTurn s (n, v) = ({ s with cont := s.cont + 1 }, [n])) := by
  have hnot : ¬ s.returned = true := by simp [h]
  by_cases hv : v = .high
  · by_cases hcont : s.cont = 5
    · exact .inr (.inl ⟨hv, hcont, by rw [checkingPPSTurn, if_neg hnot, if_pos hv, if_pos hcont]⟩)
    · exact .inr (.inr ⟨hv, hcont, by rw [checkingPPSTurn, if_neg hnot, if_pos hv, if_neg hcont]⟩)
  · exact .inl ⟨hv, by rw [checkingPPSTurn, if_neg hnot, if_neg hv]⟩

/-- Until the function returns, it has counted all polls that found the pin high. -/
def PulseInv (pin : ℕ → GpioValue) (n : ℕ) (s : PulseLoop) (polls : List ℕ) : Prop :=
  s.returned = false → polls = highPolls pin n ∧ s.cont = polls.length

theorem PulseInv.step {s : PulseLoop} {polls : List ℕ} (h : PulseInv pin n s polls) :
    PulseInv pin (n + 1) (checkingPPSTurn s (n, pin n)).1
      (polls ++ (checkingPPSTurn s (n, pin n)).2) := by
  intro hrunning
  cases hreturned : s.returned with
  | true =>
    have hstay : checkingPPSTurn s (n, pin n) = (s, []) := if_pos hreturned
    rw [hstay, hreturned] at hrunning
    exact Bool.noConfusion hrunning
  | false =>
    obtain ⟨hpolls, hcont⟩ := h hreturned
    rw [highPolls_succ, ← hpolls]
    obtain ⟨hlow, hturn⟩ | ⟨-, -, hturn⟩ | ⟨hhigh, -, hturn⟩ :=
      checkingPPSTurn_cases (n := n) hreturned (pin n)
    · rw [hturn, if_neg hlow, List.append_nil]
      exact ⟨rfl, hcont⟩
    · rw [hturn] at hrunning
      exact Bool.noConfusion hrunning
    · rw [hturn, if_pos hhigh, List.length_append, ← hcont]
      exact ⟨rfl, rfl⟩

theorem pulseInv (pin : ℕ → GpioValue) (n : ℕ) :
    PulseInv pin n (checkingPPS pin n) (countedPolls pin n) :=
  Emitter.invariant (PulseInv pin) (fun _ => ⟨rfl, rfl⟩) (fun _ _ _ h => h.step) n

/-- When the function returns, it has counted all polls that found the pin high, and these are
six. -/
theorem ReturnsOn.counted (h : ReturnsOn pin n) :
    countedPolls pin (n + 1) = highPolls pin (n + 1) ∧ (countedPolls pin (n + 1)).length = 6 := by
  obtain ⟨hrunning, hreturned⟩ := h
  obtain ⟨hpolls, hcont⟩ := pulseInv pin n hrunning
  have hcounted : countedPolls pin (n + 1)
      = countedPolls pin n ++ (checkingPPSTurn (checkingPPS pin n) (n, pin n)).2 := rfl
  have hstate : checkingPPS pin (n + 1) = (checkingPPSTurn (checkingPPS pin n) (n, pin n)).1 := rfl
  rw [hstate] at hreturned
  obtain ⟨-, hturn⟩ | ⟨hhigh, hfive, hturn⟩ | ⟨-, -, hturn⟩ :=
    checkingPPSTurn_cases (n := n) hrunning (pin n)
  · rw [hturn, hrunning] at hreturned
    exact Bool.noConfusion hreturned
  · rw [hcounted, hturn, highPolls_succ, if_pos hhigh, hpolls, List.length_append, ← hpolls,
      ← hcont, hfive]
    exact ⟨rfl, rfl⟩
  · rw [hturn] at hreturned
    exact Bool.noConfusion (hrunning.symm.trans hreturned)

/-- **The function has counted six pulses exactly when no two polls in a row found the pin
high.** -/
theorem checkingPPS_iff (h : ReturnsOn pin n) :
    SixPulses pin n ↔ ∀ i < n, ¬ (pin i = .high ∧ pin (i + 1) = .high) := by
  rw [SixPulses, and_iff_right h.counted.2, h.counted.1]
  simp only [mem_highPolls]
  refine ⟨fun hlow i hi ⟨hhigh, hnext⟩ => ?_, fun hrow i ⟨_, hhigh⟩ j ⟨hj, hhigh'⟩ hij => ?_⟩
  · obtain ⟨k, hik, hki, -⟩ := hlow i ⟨Nat.lt_succ_of_lt hi, hhigh⟩ (i + 1)
      ⟨Nat.succ_lt_succ hi, hnext⟩ (Nat.lt_succ_self i)
    omega
  · -- the poll behind the first is low, so it is not the second
    have hnext : pin (i + 1) ≠ .high := fun hnext => hrow i (by omega) ⟨hhigh, hnext⟩
    have hne : i + 1 ≠ j := fun heq => hnext (heq ▸ hhigh')
    refine ⟨i + 1, Nat.lt_succ_self i, by omega, ?_⟩
    cases hpin : pin (i + 1) with
    | low => rfl
    | high => exact absurd hpin hnext

end Run

/-- A pin that is high at every second poll. -/
def alternatingPin (n : ℕ) : GpioValue := if n % 2 = 0 then .low else .high

/-- Six pulses of one poll each. -/
theorem checkingPPS_iff_alternating : SixPulses alternatingPin 11 :=
  (checkingPPS_iff (by decide)).mpr (by decide)

/-- One pulse that lasts for six polls. -/
theorem not_sixPulses_long :
    ReturnsOn (fun _ => .high) 5 ∧ ¬ SixPulses (fun _ => .high) 5 := by
  refine ⟨by decide, fun h => ?_⟩
  obtain ⟨k, -, -, hk⟩ := h.2 0 (by decide) 1 (by decide) (by decide)
  cases hk

end SensorIoT
