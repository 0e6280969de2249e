import Mathlib.Algebra.Order.Ring.Int
import SensorIoT.Lib.Emitter

/-!
# Watchdogs

A loop polls something that is to show up every now and then.  Where a poll does not find it, and
it was last seen longer ago than some limit, the loop raises an alarm; and not to raise it on every
poll, it does so only if more time has passed than at the last poll that was late.  This last number
is not reset when the thing does show up.

`warns`: no two alarms are raised at the same time, none before the limit, and there is one in every
outage that is polled at two different times behind the limit.
-/

set_option autoImplicit false

namespace Watchdog

/-- When the thing was last seen, and how late the last poll was that was late. -/
structure State where
  since : ℤ
  lateness : ℤ

/-- A poll, and what it finds. -/
structure Poll where
  now : ℤ
  alive : Bool

/-- What a poll does.  An alarm is the time at which it is raised. -/
def step (limit : ℤ) (w : State) (p : Poll) : State × List ℤ :=
  if p.alive = true then ({ w with since := p.now }, [])
  else if limit < p.now - w.since then
    ({ w with lateness := p.now - w.since },
      if w.lateness < p.now - w.since then [p.now] else [])
  else (w, [])

/-- The watchdog after `n` polls. -/
def state (limit start : ℤ) : (ℕ → Poll) → ℕ → State := Emitter.state (step limit) ⟨start, 0⟩

/-- The alarms of the first `n` polls. -/
def alarms (limit start : ℤ) : (ℕ → Poll) → ℕ → List ℤ := Emitter.trace (step limit) ⟨start, 0⟩

section Step

variable {limit : ℤ} {w : State} {p : Poll}

theorem step_alive (h : p.alive = true) : step limit w p = ({ w with since := p.now }, []) :=
  if_pos h

theorem step_late (halive : p.alive = false) (hlate : limit < p.now - w.since) :
    step limit w p = ({ w with lateness := p.now - w.since },
      if w.lateness < p.now - w.since then [p.now] else []) := by
  rw [step, if_neg (by simp [halive]), if_pos hlate]

theorem step_early (halive : p.alive = false) (hearly : ¬ limit < p.now - w.since) :
    step limit w p = (w, []) := by
  rw [step, if_neg (by simp [halive]), if_neg hearly]

/-- When a poll raises an alarm. -/
theorem mem_step_iff {t : ℤ} : t ∈ (step limit w p).2 ↔
    t = p.now ∧ p.alive = false ∧ limit < p.now - w.since ∧ w.lateness < p.now - w.since := by
  cases halive : p.alive with
  | true => simp [step_alive halive]
  | false =>
    by_cases hlate : limit < p.now - w.since
    · rw [step_late halive hlate]
      by_cases hlater : w.lateness < p.now - w.since <;> simp [hlate, hlater]
    · simp [step_early halive hlate, hlate]

end Step

section Run

variable {limit start : ℤ} {polls : ℕ → Poll}

/-- No poll is earlier than the start, or than one before it. -/
structure InOrder (start : ℤ) (polls : ℕ → Poll) : Prop where
  start : ∀ n, start ≤ (polls n).now
  polls : ∀ m n, m ≤ n → (polls m).now ≤ (polls n).now

/-- What was seen was seen by the time that the watchdog keeps, and what an alarm was raised for is
accounted for. -/
structure Inv (start : ℤ) (polls : ℕ → Poll) (n : ℕ) (w : State) (out : List ℤ) : Prop where
  seen : ∀ m < n, (polls m).alive = true → (polls m).now ≤ w.since
  since : start ≤ w.since ∧ ∀ m, n ≤ m → w.since ≤ (polls m).now
  raised : ∀ t ∈ out, t ≤ w.since ∨ t - w.since ≤ w.lateness
  past : ∀ t ∈ out, ∀ m, n ≤ m → t ≤ (polls m).now
  increasing : out.Pairwise (· < ·)

variable {n : ℕ} {w : State} {out : List ℤ}

theorem Inv.step (hlimit : 0 ≤ limit) (horder : InOrder start polls) (h : Inv start polls n w out) :
    Inv start polls (n + 1) (step limit w (polls n)).1 (out ++ (step limit w (polls n)).2) := by
  have hnext : ∀ m, n + 1 ≤ m → w.since ≤ (polls m).now := fun m hm => h.since.2 m (by omega)
  have hpast : ∀ t ∈ out, ∀ m, n + 1 ≤ m → t ≤ (polls m).now :=
    fun t ht m hm => h.past t ht m (by omega)
  cases halive : (polls n).alive with
  | true =>
    rw [step_alive halive, List.append_nil]
    refine ⟨fun m hm _ => horder.polls m n (by omega),
      ⟨horder.start n, fun m hm => horder.polls n m (by omega)⟩,
      fun t ht => .inl (h.past t ht n (Nat.le_refl n)), hpast, h.increasing⟩
  | false =>
    have hseen : ∀ m < n + 1, (polls m).alive = true → (polls m).now ≤ w.since := by
      intro m hm hm'
      obtain hm | rfl := Nat.lt_succ_iff_lt_or_eq.mp hm
      · exact h.seen m hm hm'
      · rw [halive] at hm'
        exact Bool.noConfusion hm'
    by_cases hlate : limit < (polls n).now - w.since
    · rw [step_late halive hlate]
      split
      case isTrue hlater =>
        refine ⟨hseen, ⟨h.since.1, hnext⟩, fun t ht => ?_, fun t ht => ?_, ?_⟩
        · obtain ht | ht := List.mem_append.mp ht
          · have hle := h.past t ht n (Nat.le_refl n)
            exact .inr (by dsimp only; omega)
          · rw [List.mem_singleton.mp ht]
            exact .inr (le_refl _)
        · obtain ht | ht := List.mem_append.mp ht
          · exact hpast t ht
          · rw [List.mem_singleton.mp ht]
            exact fun m hm => horder.polls n m (by omega)
        · refine List.pairwise_append.mpr ⟨h.increasing, List.pairwise_singleton _ _, ?_⟩
          intro t ht t' ht'
          rw [List.mem_singleton.mp ht']
          rcases h.raised t ht with hle | hle <;> omega
      case isFalse hlater =>
        rw [List.append_nil]
        refine ⟨hseen, ⟨h.since.1, hnext⟩, fun t ht => .inr ?_, hpast, h.increasing⟩
        have hle := h.past t ht n (Nat.le_refl n)
        dsimp only
        omega
    · rw [step_early halive hlate, List.append_nil]
      exact ⟨hseen, ⟨h.since.1, hnext⟩, h.raised, hpast, h.increasing⟩

theorem inv (hlimit : 0 ≤ limit) (horder : InOrder start polls) (n : ℕ) :
    Inv start polls n (state limit start polls n) (alarms limit start polls n) :=
  Emitter.invariant (Inv start polls)
    ⟨fun m hm => absurd hm (Nat.not_lt_zero m), ⟨le_refl _, fun m _ => horder.start m⟩,
      fun _ ht => absurd ht List.not_mem_nil, fun _ ht => absurd ht List.not_mem_nil,
      List.Pairwise.nil⟩
    (fun _ _ _ h => h.step hlimit horder) n

variable (limit start polls) in
/-- What the watchdog keeps is the time of a poll before, or the start. -/
theorem since_mem (n : ℕ) : (state limit start polls n).since = start ∨
    ∃ m < n, (polls m).alive = true ∧ (state limit start polls n).since = (polls m).now := by
  induction n with
  | zero => exact .inl rfl
  | succ n ih =>
    have hkeep : (polls n).alive = false →
        (state limit start polls (n + 1)).since = (state limit start polls n).since := by
      intro halive
      rw [state, Emitter.state_succ, ← state, step, if_neg (by simp [halive])]
      split <;> rfl
    cases halive : (polls n).alive with
    | true =>
      refine .inr ⟨n, Nat.lt_succ_self n, halive, ?_⟩
      rw [state, Emitter.state_succ, ← state, step_alive halive]
    | false =>
      rw [hkeep halive]
      exact ih.imp_right fun ⟨m, hm, h⟩ => ⟨m, Nat.lt_succ_of_lt hm, h⟩

/-- During an outage, from a poll on that is late, either there has been an alarm or it is still the
same time. -/
theorem outage_cases (horder : InOrder start polls) {i k : ℕ}
    (hlate : limit < (polls i).now - (state limit start polls i).since) (hik : i ≤ k)
    (hout : ∀ m, i ≤ m → m ≤ k → (polls m).alive = false) :
    (∃ t ∈ alarms limit start polls (k + 1), (polls i).now ≤ t ∧ t ≤ (polls k).now) ∨
      (polls k).now = (polls i).now ∧
        (state limit start polls (k + 1)).since = (state limit start polls i).since ∧
        (state limit start polls (k + 1)).lateness
          = (polls i).now - (state limit start polls i).since := by
  have hstate : ∀ m, state limit start polls (m + 1)
      = (step limit (state limit start polls m) (polls m)).1 := fun _ => rfl
  induction k, hik using Nat.le_induction with
  | base =>
    refine .inr ⟨rfl, ?_⟩
    rw [hstate, step_late (hout i (le_refl i) (le_refl i)) hlate]
    exact ⟨rfl, rfl⟩
  | succ k hik ih =>
    have hk : (polls k).now ≤ (polls (k + 1)).now := horder.polls k (k + 1) (Nat.le_succ k)
    obtain ⟨t, ht, hit, htk⟩ | ⟨hnow, hsince, hlateness⟩ :=
      ih fun m hm hmk => hout m hm (Nat.le_succ_of_le hmk)
    · exact .inl ⟨t, List.mem_append_left _ ht, hit, le_trans htk hk⟩
    have halive := hout (k + 1) (Nat.le_succ_of_le hik) (le_refl _)
    have hlate' : limit < (polls (k + 1)).now - (state limit start polls (k + 1)).since := by
      rw [hsince]
      omega
    rcases eq_or_lt_of_le hk with heq | hlt
    · refine .inr ⟨heq.symm.trans hnow, ?_⟩
      rw [hstate, step_late halive hlate']
      exact ⟨hsince, by rw [hsince, ← heq, hnow]⟩
    · -- more time has passed than at the last late poll
      refine .inl ⟨(polls (k + 1)).now, List.mem_append_right _ ?_, by omega, le_refl _⟩
      refine mem_step_iff.mpr ⟨rfl, halive, hlate', ?_⟩
      rw [← state, hlateness, hsince]
      omega

/-- Alarms as one would have them. -/
structure Warns (limit start : ℤ) (polls : ℕ → Poll) (n : ℕ) (alarms : List ℤ) : Prop where
  increasing : alarms.Pairwise (· < ·)
  /-- An alarm is raised on a poll that does not find the thing, and behind the limit. -/
  late : ∀ t ∈ alarms, ∃ i < n, t = (polls i).now ∧ (polls i).alive = false ∧ limit < t - start ∧
    ∀ m < i, (polls m).alive = true → limit < t - (polls m).now
  /-- Two polls of an outage, both behind the limit, and at different times. -/
  outage : ∀ i j, i ≤ j → j < n → (∀ m, i ≤ m → m ≤ j → (polls m).alive = false) →
    limit < (polls i).now - start →
    (∀ m < i, (polls m).alive = true → limit < (polls i).now - (polls m).now) →
    (polls i).now < (polls j).now → ∃ t ∈ alarms, (polls i).now ≤ t ∧ t ≤ (polls j).now

/-- The alarms of the first polls are among those of more. -/
theorem alarms_subset {m n : ℕ} (h : m ≤ n) :
    alarms limit start polls m ⊆ alarms limit start polls n := by
  induction n, h using Nat.le_induction with
  | base => exact fun t ht => ht
  | succ n _ ih => exact fun t ht => List.mem_append_left _ (ih ht)

/-- An alarm is raised on a poll before. -/
theorem exists_of_mem_alarms {n : ℕ} {t : ℤ} (h : t ∈ alarms limit start polls n) :
    ∃ i < n, t ∈ (step limit (state limit start polls i) (polls i)).2 := by
  induction n with
  | zero => cases h
  | succ n ih =>
    obtain h | h := List.mem_append.mp h
    · obtain ⟨i, hi, hrest⟩ := ih h
      exact ⟨i, Nat.lt_succ_of_lt hi, hrest⟩
    · exact ⟨n, Nat.lt_succ_self n, h⟩

/-- **The alarms of a watchdog.** -/
theorem warns (hlimit : 0 ≤ limit) (horder : InOrder start polls) (n : ℕ) :
    Warns limit start polls n (alarms limit start polls n) where
  increasing := (inv hlimit horder n).increasing
  late := by
    intro t ht
    obtain ⟨i, hi, ht⟩ := exists_of_mem_alarms ht
    obtain ⟨rfl, halive, hlate, -⟩ := mem_step_iff.mp ht
    have hinv := inv hlimit horder i
    refine ⟨i, hi, rfl, halive, ?_, fun m hm hm' => ?_⟩
    · exact lt_of_lt_of_le hlate (Int.sub_le_sub_left hinv.since.1 _)
    · exact lt_of_lt_of_le hlate (Int.sub_le_sub_left (hinv.seen m hm hm') _)
  outage := by
    intro i j hij hj hout hstart hseen htimes
    have hlate : limit < (polls i).now - (state limit start polls i).since := by
      obtain hsince | ⟨m, hm, halive, hsince⟩ := since_mem limit start polls i
      · rw [hsince]
        exact hstart
      · rw [hsince]
        exact hseen m hm halive
    obtain ⟨t, ht, hrest⟩ | ⟨hnow, -⟩ := outage_cases horder hlate hij hout
    · exact ⟨t, alarms_subset hj ht, hrest⟩
    · exact absurd hnow (ne_of_gt htimes)

end Run

end Watchdog
