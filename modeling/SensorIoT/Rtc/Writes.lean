import SensorIoT.Rtc.Defs

/-!
# Writes that fail

A function that sets the RTC stops at the first write that fails, and what it has written until then
stays written.  Then it writes a zero to register 0, which is the seconds — `readI2C` sends the same
address alone, to have the next read start there.  `writeChain_cases` is what a chain of writes can
do, and `atomic_orReset_iff` when a function that fails leaves the clock as it was.
-/

set_option autoImplicit false

namespace SensorIoT

/-! ## Chains of writes -/

/-- The registers after some writes. -/
def afterWrites (ws : List (ℕ × ℤ)) (regs : ℕ → UInt8) : ℕ → UInt8 :=
  ws.foldl (fun regs w => Function.update regs w.1 (lowByte w.2)) regs

/-- Of `k` writes from write `n` on, write `j` is the first that fails. -/
structure FirstFail (ok : ℕ → Bool) (n k j : ℕ) : Prop where
  lt : j < k
  fails : ok (n + j) = false
  before : ∀ i < j, ok (n + i) = true

theorem FirstFail.unique {ok : ℕ → Bool} {n k k' j j' : ℕ} (h : FirstFail ok n k j)
    (h' : FirstFail ok n k' j') : j = j' := by
  rcases Nat.lt_trichotomy j j' with hlt | heq | hlt
  · exact absurd (h.fails.symm.trans (h'.before j hlt)) Bool.false_ne_true
  · exact heq
  · exact absurd (h'.fails.symm.trans (h.before j' hlt)) Bool.false_ne_true

/-- The two results of a write. -/
theorem one_ne_neg_one : (1 : ℤ) ≠ -1 := by decide

/-- **What a chain of writes does.** -/
theorem writeChain_cases (ok : ℕ → Bool) (ws : List (ℕ × ℤ)) (b : Bus) :
    (∀ i < ws.length, ok (b.writes + i) = true) ∧
        writeChain ok ws b = (⟨afterWrites ws b.regs, b.writes + ws.length⟩, 1) ∨
      ∃ j, FirstFail ok b.writes ws.length j ∧
        writeChain ok ws b = (⟨afterWrites (ws.take j) b.regs, b.writes + j + 1⟩, -1) := by
  induction ws generalizing b with
  | nil => exact .inl ⟨fun i hi => absurd hi (Nat.not_lt_zero i), rfl⟩
  | cons w ws ih =>
    by_cases hok : ok b.writes = true
    · have hstep : writeChain ok (w :: ws) b
          = writeChain ok ws ⟨Function.update b.regs w.1 (lowByte w.2), b.writes + 1⟩ := by
        rw [writeChain, writeI2C, if_pos hok]
        exact if_pos one_ne_neg_one
      have hshift : ∀ {i : ℕ}, ok (b.writes + (i + 1)) = ok (b.writes + 1 + i) := by
        intro i
        rw [Nat.add_right_comm, Nat.add_assoc]
      rw [hstep]
      obtain ⟨hall, heq⟩ | ⟨j, hj, heq⟩ :=
        ih ⟨Function.update b.regs w.1 (lowByte w.2), b.writes + 1⟩
      · refine .inl ⟨fun i hi => ?_, ?_⟩
        · cases i with
          | zero => exact hok
          | succ i => exact hshift.trans (hall i (Nat.lt_of_succ_lt_succ hi))
        · rw [heq, List.length_cons]
          simp only [afterWrites, List.foldl_cons, Prod.mk.injEq, Bus.mk.injEq, true_and, and_true]
          omega
      · refine .inr ⟨j + 1, ⟨Nat.succ_lt_succ hj.lt, hshift.trans hj.fails, fun i hi => ?_⟩, ?_⟩
        · cases i with
          | zero => exact hok
          | succ i => exact hshift.trans (hj.before i (Nat.lt_of_succ_lt_succ hi))
        · rw [heq]
          simp only [afterWrites, List.take_succ_cons, List.foldl_cons, Prod.mk.injEq, Bus.mk.injEq,
            true_and, and_true]
          omega
    · refine .inr ⟨0, ⟨Nat.succ_pos _, by simpa using hok,
        fun i hi => absurd hi (Nat.not_lt_zero i)⟩, ?_⟩
      rw [writeChain, writeI2C, if_neg hok]
      exact if_neg (not_not_intro rfl)

/-! ## When a failure leaves no trace -/

/-- `r` is 1 exactly if `k` writes succeeded, and where it is -1 the registers 0 to 6 are as they
were. -/
def Atomic (ok : ℕ → Bool) (b : Bus) (k : ℕ) (res : Bus × ℤ) : Prop :=
  (res.2 = 1 ↔ ∀ i < k, ok (b.writes + i) = true) ∧
    (res.2 = -1 → ∀ a < 7, res.1.regs a = b.regs a)

/-- At the first write that fails, the writes before it have not changed a register of the clock,
and neither has the zero written to register 0. -/
def NoTrace (ok : ℕ → Bool) (b : Bus) (ws : List (ℕ × ℤ)) : Prop :=
  ∀ j, FirstFail ok b.writes ws.length j →
    (∀ w ∈ ws.take j, w.1 < 7 → b.regs w.1 = lowByte w.2) ∧
      (ok (b.writes + j + 1) = true → b.regs 0 = 0)

theorem afterWrites_of_notMem {ws : List (ℕ × ℤ)} {a : ℕ} (h : a ∉ ws.map Prod.fst)
    (regs : ℕ → UInt8) : afterWrites ws regs a = regs a := by
  induction ws generalizing regs with
  | nil => rfl
  | cons w ws ih =>
    rw [List.map_cons, List.mem_cons, not_or] at h
    rw [afterWrites, List.foldl_cons]
    exact (ih h.2 _).trans (Function.update_of_ne h.1 _ _)

theorem afterWrites_of_mem {ws : List (ℕ × ℤ)} {w : ℕ × ℤ} (hnodup : (ws.map Prod.fst).Nodup)
    (h : w ∈ ws) (regs : ℕ → UInt8) : afterWrites ws regs w.1 = lowByte w.2 := by
  induction ws generalizing regs with
  | nil => cases h
  | cons v ws ih =>
    rw [List.map_cons, List.nodup_cons] at hnodup
    obtain rfl | h := List.mem_cons.mp h
    · exact (afterWrites_of_notMem hnodup.1 _).trans (Function.update_self _ _ _)
    · exact ih hnodup.2 h _

/-- The registers are as they were after writes to different ones of them, if each had its value
already. -/
theorem afterWrites_eq_iff {ws : List (ℕ × ℤ)} (hnodup : (ws.map Prod.fst).Nodup)
    (regs : ℕ → UInt8) (s : Set ℕ) :
    (∀ a ∈ s, afterWrites ws regs a = regs a) ↔ ∀ w ∈ ws, w.1 ∈ s → regs w.1 = lowByte w.2 := by
  constructor
  · intro h w hw hs
    rw [← h w.1 hs, afterWrites_of_mem hnodup hw]
  · intro h a ha
    by_cases hmem : a ∈ ws.map Prod.fst
    · obtain ⟨w, hw, rfl⟩ := List.mem_map.mp hmem
      rw [afterWrites_of_mem hnodup hw, h w hw ha]
    · exact afterWrites_of_notMem hmem regs

theorem FirstFail.not_all {ok : ℕ → Bool} {n k j : ℕ} (h : FirstFail ok n k j) :
    ¬ ∀ i < k, ok (n + i) = true :=
  fun hall => absurd (h.fails.symm.trans (hall j h.lt)) Bool.false_ne_true

theorem orReset_of_ok (ok : ℕ → Bool) (b : Bus) : orReset ok (b, 1) = (b, 1) :=
  if_pos one_ne_neg_one

theorem orReset_of_fail (ok : ℕ → Bool) (b : Bus) :
    orReset ok (b, -1) = ((writeI2C ok 0 0 b).1, -1) :=
  if_neg (not_not_intro rfl)

theorem lowByte_zero : lowByte 0 = 0 := rfl

/-- **The common shape.**  Register 0 is written last, if at all. -/
theorem atomic_orReset_iff (ok : ℕ → Bool) (b : Bus) (ws : List (ℕ × ℤ))
    (hnodup : (ws.map Prod.fst).Nodup) (hzero : 0 ∉ ws.dropLast.map Prod.fst) :
    Atomic ok b ws.length (orReset ok (writeChain ok ws b)) ↔ NoTrace ok b ws := by
  obtain ⟨hall, heq⟩ | ⟨j, hj, heq⟩ := writeChain_cases ok ws b
  · rw [heq, orReset_of_ok]
    exact iff_of_true ⟨iff_of_true rfl hall, fun h => absurd h one_ne_neg_one⟩
      fun j hj => absurd hall hj.not_all
  · rw [heq, orReset_of_fail]
    have hnodup' : ((ws.take j).map Prod.fst).Nodup := by
      rw [List.map_take]
      exact hnodup.sublist (List.take_sublist _ _)
    have hkept := afterWrites_eq_iff hnodup' b.regs {a | a < 7}
    have hsublist : (ws.take j).Sublist ws.dropLast := by
      rw [List.dropLast_eq_take]
      exact List.take_sublist_take_left (Nat.le_pred_of_lt hj.lt)
    have hreg0 := afterWrites_of_notMem (fun h => hzero ((hsublist.map _).subset h)) b.regs
    have hreset := Function.update_self 0 (0 : UInt8) (afterWrites (ws.take j) b.regs)
    have hatomic : ∀ b', Atomic ok b ws.length (b', -1) ↔ ∀ a < 7, b'.regs a = b.regs a := fun b' =>
      ⟨fun h => h.2 rfl, fun h =>
        ⟨iff_of_false one_ne_neg_one.symm hj.not_all, fun _ => h⟩⟩
    have htrace : NoTrace ok b ws ↔
        (∀ a < 7, afterWrites (ws.take j) b.regs a = b.regs a) ∧
          (ok (b.writes + j + 1) = true → b.regs 0 = 0) := by
      constructor
      · intro h
        exact ⟨hkept.mpr (h j hj).1, (h j hj).2⟩
      · rintro ⟨h, h0⟩ j' hj'
        obtain rfl := hj.unique hj'
        exact ⟨hkept.mp h, h0⟩
    rw [hatomic, htrace, writeI2C, lowByte_zero]
    split
    case isTrue hok =>
      constructor
      · intro h
        refine ⟨fun a ha => ?_, fun _ => (h 0 (by omega)).symm.trans hreset⟩
        by_cases ha0 : a = 0
        · rw [ha0, hreg0]
        · exact (Function.update_of_ne ha0 _ _).symm.trans (h a ha)
      · rintro ⟨h, h0⟩ a ha
        by_cases ha0 : a = 0
        · rw [ha0, h0 hok]
          exact hreset
        · exact (Function.update_of_ne ha0 _ _).trans (h a ha)
    case isFalse hok => exact ⟨fun h => ⟨h, fun hok' => absurd hok' hok⟩, fun h => h.1⟩

/-! ## The functions of the program -/

/-- The fifth write of `activeAlarmRtc` is none of those that decide what it returns. -/
theorem atomic_activeAlarmRtc_iff (ok : ℕ → Bool) (b : Bus) :
    Atomic ok b 5 (activeAlarmRtc ok b) ↔ NoTrace ok b alarmWrites ∧
      ((∀ i < 4, ok (b.writes + i) = true) → ok (b.writes + 4) = true) := by
  obtain ⟨hall, heq⟩ | ⟨j, hj, heq⟩ := writeChain_cases ok alarmWrites b
  · have hfifth : (∀ i < 5, ok (b.writes + i) = true) ↔ ok (b.writes + 4) = true := by
      constructor
      · intro h
        exact h 4 (by omega)
      · intro h i hi
        obtain hi | rfl := Nat.lt_succ_iff_lt_or_eq.mp hi
        · exact hall i hi
        · exact h
    have hres : (activeAlarmRtc ok b).2 = 1 := by
      rw [activeAlarmRtc, heq]
      rfl
    rw [Atomic, hres, hfifth]
    exact ⟨fun h => ⟨fun j hj => absurd hall hj.not_all, fun _ => h.1.mp rfl⟩,
      fun h => ⟨iff_of_true rfl (h.2 hall), fun h' => absurd h' one_ne_neg_one⟩⟩
  · have hres : activeAlarmRtc ok b = orReset ok (writeChain ok alarmWrites b) := by
      rw [activeAlarmRtc, heq]
      exact if_neg (not_not_intro rfl)
    have hchain := atomic_orReset_iff ok b alarmWrites (by decide) (by decide)
    rw [hres, ← hchain, heq, orReset_of_fail]
    have hfive : ¬ ∀ i < 5, ok (b.writes + i) = true := fun h =>
      hj.not_all fun i hi => h i (Nat.lt_succ_of_lt hi)
    constructor
    · rintro ⟨-, h⟩
      exact ⟨⟨iff_of_false one_ne_neg_one.symm hj.not_all, h⟩,
        fun hall => absurd hall hj.not_all⟩
    · rintro ⟨⟨-, h⟩, -⟩
      exact ⟨iff_of_false one_ne_neg_one.symm hfive, h⟩

theorem desactiveAlarmRtc_eq (ok : ℕ → Bool) (b : Bus) :
    desactiveAlarmRtc ok b = orReset ok (writeChain ok [(0x0E, 0x1C)] b) := by
  rw [desactiveAlarmRtc, writeChain, writeI2C]
  split
  · exact (orReset_of_ok ok _).symm
  · exact (orReset_of_fail ok _).symm

/-- **When a function that sets the RTC reports its failures and undoes them.** -/
theorem rtc_atomic_iff (longMax : ℕ) (ok : ℕ → Bool) (mem : ArraysMem) (buffer : CBuf) (b : Bus) :
    (Atomic ok b 3 (setTimeRtc longMax ok mem buffer b) ↔
        NoTrace ok b (timeWrites longMax mem buffer)) ∧
      (Atomic ok b 3 (setDateRtc longMax ok mem buffer b) ↔
        NoTrace ok b (dateWrites longMax mem buffer)) ∧
      (Atomic ok b 5 (activeAlarmRtc ok b) ↔ NoTrace ok b alarmWrites ∧
        ((∀ i < 4, ok (b.writes + i) = true) → ok (b.writes + 4) = true)) ∧
      (Atomic ok b 1 (desactiveAlarmRtc ok b) ↔ NoTrace ok b [(0x0E, 0x1C)]) := by
  refine ⟨?_, ?_, atomic_activeAlarmRtc_iff ok b, ?_⟩
  · exact atomic_orReset_iff ok b (timeWrites longMax mem buffer) (by simp [timeWrites])
      (by simp [timeWrites])
  · exact atomic_orReset_iff ok b (dateWrites longMax mem buffer) (by simp [dateWrites])
      (by simp [dateWrites])
  · rw [desactiveAlarmRtc_eq]
    exact atomic_orReset_iff ok b [(0x0E, 0x1C)] (by simp) (by simp)

/-- A clock at 11:22:33. -/
def clockBus : Bus := ⟨fun a => [0x33, 0x22, 0x11].getD a 0, 0⟩

/-- If the second of three writes fails the hours have changed, and the seconds are zero; and if the
last write of `activeAlarmRtc` fails it returns 1. -/
theorem not_rtc_atomic :
    ¬ Atomic (fun n => n != 1) clockBus 3
        (setTimeRtc (2 ^ 31 - 1) (fun n => n != 1) ⟨[], [], []⟩ "235959".toList clockBus) ∧
      ¬ Atomic (fun n => n != 4) clockBus 5 (activeAlarmRtc (fun n => n != 4) clockBus) :=
  ⟨fun h => absurd (h.2 (by decide +kernel) 2 (by omega)) (by decide +kernel),
    fun h => absurd (h.1.mp (by decide +kernel) 4 (by omega)) (by decide +kernel)⟩

end SensorIoT
