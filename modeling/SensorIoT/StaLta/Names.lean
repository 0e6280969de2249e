import Mathlib.Data.List.Nodup
import SensorIoT.StaLta.Duration
import SensorIoT.StaLta.Tally

/-!
# The names of the event files

An event is saved under the date and the start time of its stamp.  The start time is that of the
block that triggered it, moved back by the length of the register — unless that would be before
midnight, and then it is not moved.  Two events of one day can so get one name: one from before the
register fits in, whose start time stays, and one as many seconds later, whose start time is moved
back to the same second.  The second one is then written over the first.

`Stamped` carries the stamps through a run, and `names_differ_iff` says that this is all that can
go wrong, apart from blocks of the same second.
-/

set_option autoImplicit false

namespace SensorIoT

open Register

variable {F : Type} [FloatArith F] {p : Params F} {axis : CBuf} {bs : ℕ → Block F} {n : ℕ}

/-! ## The names -/

/-- The name of the file that is written at the end of block `M`. -/
def savedName (p : Params F) (axis : CBuf) (bs : ℕ → Block F) (M : ℕ) : Path :=
  eventPath (staLta p axis (axisRun p axis bs M) (bs M))

/-- No file of an event is written twice in the first `N` blocks. -/
def NamesDiffer (p : Params F) (axis : CBuf) (bs : ℕ → Block F) (N : ℕ) : Prop :=
  ((savedBlocks p axis bs N).map (savedName p axis bs)).Nodup

instance (p : Params F) (axis : CBuf) (bs : ℕ → Block F) (N : ℕ) :
    Decidable (NamesDiffer p axis bs N) :=
  inferInstanceAs (Decidable (List.Nodup _))

/-- The event saved at the end of block `M` was triggered in block `T`. -/
def SavedFrom (p : Params F) (axis : CBuf) (bs : ℕ → Block F) (M T : ℕ) : Prop :=
  M ∈ savedBlocks p axis bs (M + 1) ∧
    ∃ t, IsLast (Starts p axis bs) ((M + 1) * p.freq) t ∧ t / p.freq = T

omit [FloatArith F] in
/-- The second of the day an event is filed under. -/
def startSecond (p : Params F) (trigger : ℕ) : ℕ :=
  if p.preEvent / p.freq ≤ trigger then trigger - p.preEvent / p.freq else trigger

omit [FloatArith F] in
/-- Two blocks of one day that are of the same second, or of which one is too early in the day for
the register to fit in and the other as many seconds later as the register is long. -/
def Clash (p : Params F) (b b' : Block F) : Prop :=
  cstr b.date = cstr b'.date ∧
    (secondOfDay b.time = secondOfDay b'.time ∨
      secondOfDay b.time < p.preEvent / p.freq ∧
        secondOfDay b'.time = secondOfDay b.time + p.preEvent / p.freq)

/-- No two events saved in the first `N` blocks were triggered in blocks that clash. -/
def NoClash (p : Params F) (axis : CBuf) (bs : ℕ → Block F) (N : ℕ) : Prop :=
  ∀ M M' T T', M < M' → M' < N → SavedFrom p axis bs M T → SavedFrom p axis bs M' T' →
    ¬ Clash p (bs T) (bs T')

omit [FloatArith F] in
/-- The first `N` blocks have valid stamps, each later than the one before. -/
structure InOrder (bs : ℕ → Block F) (N : ℕ) : Prop where
  valid : ∀ M < N, ValidStamp (bs M).date (bs M).time (bs M).isGPS
  lt : ∀ M M', M < M' → M' < N →
    instant (bs M).date (bs M).time (bs M).isGPS < instant (bs M').date (bs M').time (bs M').isGPS

/-! ## The stamp of an event -/

omit [FloatArith F] in
/-- The date and the axis of an event are those of a block. -/
def FiledUnder (axis : CBuf) (b : Block F) (e : EventData F) : Prop :=
  cstr e.date = cstr b.date ∧ cstr e.axis = cstr axis

/-- The stamp of an event is that of the block that triggered it, and once the event has stopped its
time is the start time. -/
structure Stamped (p : Params F) (axis : CBuf) (bs : ℕ → Block F) (n : ℕ) (e : EventData F) :
    Prop where
  opened : e.eventOn = true → ∃ t, IsLast (Starts p axis bs) n t ∧
    FiledUnder axis (bs (t / p.freq)) e ∧
    ∀ i ≤ 6, charAt e.time i = charAt (bs (t / p.freq)).time i
  closed : e.isEnableAddPostEvent = true ∨ e.isPendingSaveEvent = true →
    ∃ t, IsLast (Starts p axis bs) n t ∧ FiledUnder axis (bs (t / p.freq)) e ∧ IsTime e.time ∧
      secondOfDay e.time = startSecond p (secondOfDay (bs (t / p.freq)).time)

/-- Everything else of an event is free to change while its stamp stays. -/
theorem Stamped.keep {e e' : EventData F} (h : Stamped p axis bs n e)
    (hstart : ¬ Starts p axis bs n) (hdate : e'.date = e.date) (htime : e'.time = e.time)
    (haxis : e'.axis = e.axis) (hon : e'.eventOn = true → e.eventOn = true)
    (hdone : e'.isEnableAddPostEvent = true ∨ e'.isPendingSaveEvent = true →
      e.isEnableAddPostEvent = true ∨ e.isPendingSaveEvent = true) :
    Stamped p axis bs (n + 1) e' := by
  constructor
  · intro h'
    obtain ⟨t, ht, hfiled, hchar⟩ := h.opened (hon h')
    exact ⟨t, ht.succ hstart, by rwa [FiledUnder, hdate, haxis], by rwa [htime]⟩
  · intro h'
    obtain ⟨t, ht, hfiled, htext, hsec⟩ := h.closed (hdone h')
    exact ⟨t, ht.succ hstart, by rwa [FiledUnder, hdate, haxis], by rwa [htime], by rwa [htime]⟩

theorem stamped_of_idle {e : EventData F} (hon : e.eventOn = false)
    (hpost : e.isEnableAddPostEvent = false) (hpend : e.isPendingSaveEvent = false) :
    Stamped p axis bs n e :=
  ⟨fun h => absurd (hon.symm.trans h) Bool.false_ne_true,
    fun h => h.elim (fun h => absurd (hpost.symm.trans h) Bool.false_ne_true)
      (fun h => absurd (hpend.symm.trans h) Bool.false_ne_true)⟩

/-- The windows and the register have no part in the stamp. -/
theorem Stamped.with_registers {e : EventData F} (h : Stamped p axis bs n e) (w : Windows F)
    (r : PreRegister F) : Stamped p axis bs n { e with toWindows := w, toPreRegister := r } :=
  ⟨h.opened, h.closed⟩

omit [FloatArith F] in
/-- The start time of an event that is kept. -/
theorem startSecond_closeTime {e : EventData F} {b : Block F} {k : ℕ}
    (hlong : lastsLong p e b k = true) (htime : IsTime e.time) (hmem : (b.memStart k).Quiet) :
    IsTime (closeTime p e b k) ∧
      secondOfDay (closeTime p e b k) = startSecond p (secondOfDay e.time) := by
  have hlt : secondOfDay e.time - p.preEvent / p.freq < 86400 :=
    lt_of_le_of_lt (Nat.sub_le _ _) (secondOfDay_lt htime)
  rw [closeTime, checkMinimunDuration_snd hlong htime, straySeconds_of_quiet hmem, startSecond,
    Nat.add_zero]
  split
  · exact ⟨isTime_setStartTime hlt _, secondOfDay_setStartTime (by omega) _⟩
  · exact ⟨htime, rfl⟩

/-- What `detectEvent` does: a trigger takes the stamp of its block, and a stop that is accepted
moves it back. -/
theorem Stamped.detect {e e' : EventData F} {N : ℕ} (h : Stamped p axis bs n e)
    (hs : DetectStep p (bs (n / p.freq)) axis (n % p.freq) e e')
    (hstarts : Starts p axis bs n ↔ e.eventOn = false ∧ e'.eventOn = true)
    (horder : InOrder bs N) (hN : n / p.freq < N)
    (hmem : ((bs (n / p.freq)).memStart (n % p.freq)).Quiet) : Stamped p axis bs (n + 1) e' := by
  cases hs with
  | pending hp => exact h.keep (by simp [hstarts]) rfl rfl rfl id id
  | post hp hpost hcount => exact h.keep (fun hn => by simp [hstarts] at hn) rfl rfl rfl id id
  | complete hp hpost hcount =>
    exact h.keep (fun hn => by simp [hstarts] at hn) rfl rfl rfl id fun _ => .inl hpost
  | quiet hidle hr hk => exact h.keep (by simp [hstarts]) rfl rfl rfl id id
  | blockEnd hidle hr hk => exact h.keep (fun hn => by simp [hstarts] at hn) rfl rfl rfl id id
  | trigger hidle hr hcount =>
    obtain ⟨hoff, hpost, hpend⟩ := hidle
    refine ⟨fun _ => ⟨n, isLast_self (hstarts.mpr ⟨hoff, rfl⟩), ⟨cstr_strcpy _ _, cstr_strcpy _ _⟩,
      charAt_strcpy_time (horder.valid _ hN).isTime _⟩, fun hdone => ?_⟩
    exact hdone.elim (fun h => absurd (hpost.symm.trans h) Bool.false_ne_true)
      (fun h => absurd (hpend.symm.trans h) Bool.false_ne_true)
  | jam hidle hr hcount => exact stamped_of_idle rfl hidle.2.1 hidle.2.2
  | record hopen hr hcount =>
    exact h.keep (fun hn => absurd ((hstarts.mp hn).1.symm.trans hopen.1) Bool.false_ne_true)
      rfl rfl rfl id id
  | full hopen hr hcount => exact stamped_of_idle rfl hopen.2.1 hopen.2.2
  | accept hopen hr hlong =>
    obtain ⟨t, ht, hfiled, hchar⟩ := h.opened hopen.1
    have hlast : IsLast (Starts p axis bs) (n + 1) t :=
      ht.succ fun hn => absurd ((hstarts.mp hn).1.symm.trans hopen.1) Bool.false_ne_true
    have hblock : t / p.freq < N := lt_of_le_of_lt (Nat.div_le_div_right ht.1.le) hN
    have htime : IsTime (closeEvent e).time := (horder.valid _ hblock).isTime.congr hchar
    obtain ⟨htext, hsec⟩ := startSecond_closeTime hlong htime hmem
    have hsame : secondOfDay (closeEvent e).time = secondOfDay (bs (t / p.freq)).time :=
      secondOfDay_congr fun i hi => hchar i hi.le
    exact ⟨fun h' => absurd h' Bool.false_ne_true,
      fun _ => ⟨t, hlast, hfiled, htext, hsec.trans (congrArg _ hsame)⟩⟩
  | discard hopen hr hlong => exact stamped_of_idle rfl rfl rfl

/-- **One sample.** -/
theorem Stamped.step {N : ℕ} (h : Stamped p axis bs n (before p axis bs n)) (hp : p.Checked)
    (horder : InOrder bs N) (hmem : ∀ M < N, ∀ k, ((bs M).memStart k).Quiet)
    (hN : n / p.freq < N) : Stamped p axis bs (n + 1) (after p axis bs n) := by
  have hs := sampleStep hp axis bs n
  by_cases hfull : (before p axis bs n).countTempData = p.lengthLTA
  · obtain ⟨d, w, hd, heq⟩ := hs.detected hfull
    have hstarts : Starts p axis bs n ↔
        (before p axis bs n).eventOn = false ∧ d.eventOn = true := by
      rw [Starts, heq]
    have hstamped := Stamped.detect (h.with_registers _ _) hd hstarts horder hN (hmem _ hN _)
    rw [heq]
    exact hstamped.with_registers w _
  · obtain ⟨w, heq⟩ := hs.filled hfull
    have hstarts : ¬ Starts p axis bs n := by
      rw [Starts, heq]
      exact fun hn => absurd (hn.1.symm.trans hn.2) Bool.false_ne_true
    rw [heq]
    exact h.keep hstarts rfl rfl rfl id id

theorem Stamped.afterBlock {e : EventData F} (h : Stamped p axis bs n e) :
    Stamped p axis bs n (afterBlock p e) := by
  rw [SensorIoT.afterBlock]
  split
  · exact ⟨h.opened, fun hdone =>
      h.closed (hdone.imp_right fun hpend => absurd hpend (by simp [releaseEvent]))⟩
  · exact h

/-- In a run whose first `N` blocks are in order, all stamps are right up to the end of them. -/
theorem stamped_after {N : ℕ} (hp : p.Checked) (horder : InOrder bs N)
    (hmem : ∀ M < N, ∀ k, ((bs M).memStart k).Quiet) (hn : n < N * p.freq) :
    Stamped p axis bs (n + 1) (after p axis bs n) := by
  have hf := hp.freq_pos
  have hN : ∀ n < N * p.freq, n / p.freq < N := fun n hn =>
    Nat.div_lt_of_lt_mul (by rwa [Nat.mul_comm])
  have hbefore : Stamped p axis bs n (before p axis bs n) :=
    BlockRun.sample_induction (P := Stamped p axis bs) (Q := fun n => Stamped p axis bs (n + 1)) hf
      (stamped_of_idle rfl rfl rfl) (fun n hn h => h.step hp horder hmem (hN n hn))
      (fun _ _ h _ => h) (fun _ _ h _ => h.afterBlock) n hn.le
  exact hbefore.step hp horder hmem (hN n hn)

/-! ## Which block an event is from -/

theorem mem_savedBlocks {M N : ℕ} : M ∈ savedBlocks p axis bs N ↔
    M < N ∧ (staLta p axis (axisRun p axis bs M) (bs M)).isPendingSaveEvent = true := by
  rw [savedBlocks, List.mem_filter, List.mem_range]

omit [FloatArith F] in
theorem last_succ {M : ℕ} (hf : 0 < p.freq) : M * p.freq + (p.freq - 1) + 1 = (M + 1) * p.freq := by
  rw [Nat.succ_mul]
  omega

/-- The stamp of a saved event. -/
theorem SavedFrom.stamp {M N T : ℕ} (h : SavedFrom p axis bs M T) (hp : p.Checked)
    (horder : InOrder bs N) (hmem : ∀ M < N, ∀ k, ((bs M).memStart k).Quiet) (hM : M < N) :
    FiledUnder axis (bs T) (staLta p axis (axisRun p axis bs M) (bs M)) ∧
      IsTime (staLta p axis (axisRun p axis bs M) (bs M)).time ∧
      secondOfDay (staLta p axis (axisRun p axis bs M) (bs M)).time
        = startSecond p (secondOfDay (bs T).time) := by
  obtain ⟨hsaved, t, ht, rfl⟩ := h
  have hf := hp.freq_pos
  have hend := last_succ hf (M := M)
  have hle : (M + 1) * p.freq ≤ N * p.freq := Nat.mul_le_mul_right p.freq hM
  have hn : M * p.freq + (p.freq - 1) < N * p.freq := by omega
  have hstamped : Stamped p axis bs (M * p.freq + (p.freq - 1) + 1)
      (after p axis bs (M * p.freq + (p.freq - 1))) := stamped_after hp horder hmem hn
  rw [hend, after_last hf] at hstamped
  obtain ⟨t', ht', hfiled, htime, hsec⟩ := hstamped.closed (.inr (mem_savedBlocks.mp hsaved).2)
  rw [ht.unique ht']
  exact ⟨hfiled, htime, hsec⟩

omit [FloatArith F] in
/-- An event of the phase started with sample `m` or later. -/
def Since (m : ℕ) : Phase → Prop
  | .idle => True
  | .jammed => True
  | .opened t => m ≤ t
  | .post t _ => m ≤ t
  | .pending t _ => m ≤ t

/-- Of two events saved, the later one was triggered after the earlier one was saved. -/
theorem SavedFrom.lt {M M' T : ℕ} (h : SavedFrom p axis bs M' T) (hp : p.Checked) (hlt : M < M')
    (hsaved : M ∈ savedBlocks p axis bs (M + 1)) : M < T := by
  obtain ⟨hsaved', t, ht, rfl⟩ := h
  have hf := hp.freq_pos
  -- at the boundary where the earlier event is saved the axis is idle
  have hidle : (before p axis bs ((M + 1) * p.freq)).Idle := by
    have hpend := (mem_savedBlocks.mp hsaved).2
    obtain ⟨φ, h⟩ := phase_after hp axis bs (M * p.freq + (p.freq - 1))
    rw [after_last hf] at h
    obtain ⟨t, s, rfl⟩ := h.represents.of_pending hpend
    rw [before_boundary hf, axisRun_succ, afterBlock, if_pos hpend]
    exact ⟨h.represents.1.1, h.represents.1.2.1, rfl⟩
  obtain ⟨φ₀, h₀⟩ := phase_before hp axis bs ((M + 1) * p.freq)
  have hsince : Since ((M + 1) * p.freq) φ₀ := by
    obtain rfl | rfl := h₀.represents.of_idle hidle <;> trivial
  have step : ∀ n φ φ', (M + 1) * p.freq ≤ n → InPhase p axis bs n φ (before p axis bs n) →
      Since ((M + 1) * p.freq) φ → PhaseStep (OverflowsAt p axis bs n) n φ φ' →
      InPhase p axis bs (n + 1) φ' (after p axis bs n) → Since ((M + 1) * p.freq) φ' := by
    intro n φ φ' hn _ hφ hstep _
    cases hstep with
    | start => exact hn
    | wait => trivial
    | drop => trivial
    | overflow => trivial
    | stuck => trivial
    | _ => exact hφ
  have last : ∀ (n : ℕ) φ, Since ((M + 1) * p.freq) φ → (n + 1) % p.freq = 0 →
      Since ((M + 1) * p.freq) φ.release := by
    intro _ φ hφ _
    cases φ <;> first | exact hφ | trivial
  have hle : (M + 1) * p.freq ≤ M' * p.freq + (p.freq - 1) :=
    (Nat.mul_le_mul_right p.freq hlt).trans (Nat.le_add_right _ _)
  obtain ⟨-, φ, h, hφ⟩ := phase_from (I := fun _ => Since ((M + 1) * p.freq))
    (J := fun _ => Since ((M + 1) * p.freq)) hp h₀ hsince step (fun _ _ hφ _ => hφ) last _ hle
  rw [after_last hf, last_succ hf] at h
  obtain ⟨t', s, rfl⟩ := h.represents.of_pending (mem_savedBlocks.mp hsaved').2
  rw [ht.unique h.dated.1]
  exact (Nat.le_div_iff_mul_le hf).mpr hφ

theorem exists_savedFrom {M N : ℕ} (hp : p.Checked) (h : M ∈ savedBlocks p axis bs N) :
    ∃ T, SavedFrom p axis bs M T := by
  have hpend := (mem_savedBlocks.mp h).2
  obtain ⟨φ, hφ⟩ := phase_after hp axis bs (M * p.freq + (p.freq - 1))
  rw [after_last hp.freq_pos, last_succ hp.freq_pos] at hφ
  obtain ⟨t, s, rfl⟩ := hφ.represents.of_pending hpend
  exact ⟨t / p.freq, mem_savedBlocks.mpr ⟨M.lt_succ_self, hpend⟩, t, hφ.dated.1, rfl⟩

theorem SavedFrom.le {M T : ℕ} (h : SavedFrom p axis bs M T) (hf : 0 < p.freq) : T ≤ M := by
  obtain ⟨-, t, ht, rfl⟩ := h
  exact Nat.le_of_lt_succ ((Nat.div_lt_iff_lt_mul hf).mpr ht.1)

/-! ## When two names are the same -/

omit [FloatArith F] in
/-- Two events of an axis have one name if their dates and the seconds of their start times are the
same. -/
theorem eventPath_eq_iff {e e' : EventData F} (haxis : cstr e.axis = cstr e'.axis)
    (hlen : (cstr e.date).length = (cstr e'.date).length) (htime : IsTime e.time)
    (htime' : IsTime e'.time) :
    eventPath e = eventPath e' ↔
      cstr e.date = cstr e'.date ∧ secondOfDay e.time = secondOfDay e'.time := by
  have htext : ∀ e : EventData F, IsTime e.time → eventPath e =
      eventsDir ++ '/' :: cstr e.date ++ '/' :: cstr e.date ++ '_' ::
        charAt e.time 0 :: charAt e.time 1 :: charAt e.time 2 :: charAt e.time 3 ::
        charAt e.time 4 :: charAt e.time 5 :: '_' :: cstr e.axis ++ ".sac".toList := by
    intro e he
    have hd : ∀ i < 6, nul ≠ charAt e.time i := fun i hi =>
      (ne_nul_of_isDigit (he.isDigit i hi)).symm
    have hdir : nul ∉ eventsDir := by decide
    have hsac : nul ∉ ".sac".toList := by decide
    have hmark : nul ≠ '/' ∧ nul ≠ '_' := by decide
    refine cstr_eq_self ?_
    simp only [List.mem_append, List.mem_cons, nul_notMem_cstr, hdir, hsac, hmark, hd 0 (by omega),
      hd 1 (by omega), hd 2 (by omega), hd 3 (by omega), hd 4 (by omega), hd 5 (by omega),
      or_self, not_false_eq_true]
  rw [htext e htime, htext e' htime', haxis]
  constructor
  · intro h
    obtain ⟨hdates, hrest⟩ := List.append_inj (List.append_cancel_right h) (by simp [hlen])
    have hdate := (List.append_inj' hdates (by simp [hlen])).2
    simp only [List.cons.injEq, true_and, and_true] at hdate hrest
    obtain ⟨h0, h1, h2, h3, h4, h5⟩ := hrest
    refine ⟨hdate, (secondOfDay_congr fun i hi => ?_).symm⟩
    interval_cases i
    exacts [h0.symm, h1.symm, h2.symm, h3.symm, h4.symm, h5.symm]
  · rintro ⟨hdate, hsec⟩
    have hchar := charAt_of_secondOfDay htime htime' hsec
    rw [hdate, hchar 0 (by omega), hchar 1 (by omega), hchar 2 (by omega), hchar 3 (by omega),
      hchar 4 (by omega), hchar 5 (by omega)]

/-- **When the names of the event files differ.** -/
theorem names_differ_iff {N : ℕ} (hp : p.Accepted) (axis : CBuf) (bs : ℕ → Block F)
    (horder : InOrder bs N) (hmem : ∀ M < N, ∀ k, ((bs M).memStart k).Quiet) :
    NamesDiffer p axis bs N ↔ NoClash p axis bs N := by
  have hc := hp.checked
  have key : ∀ M M' T T', M < M' → M' < N → SavedFrom p axis bs M T → SavedFrom p axis bs M' T' →
      (savedName p axis bs M = savedName p axis bs M' ↔ Clash p (bs T) (bs T')) := by
    intro M M' T T' hlt hN h h'
    have hT : T < T' := lt_of_le_of_lt (h.le hc.freq_pos) (h'.lt hc hlt h.1)
    have hT' : T' < N := lt_of_le_of_lt (h'.le hc.freq_pos) hN
    have hdate := (horder.valid T (hT.trans hT')).isDate
    have hdate' := (horder.valid T' hT').isDate
    obtain ⟨⟨hd, ha⟩, htime, hsec⟩ := h.stamp hc horder hmem (hlt.trans hN)
    obtain ⟨⟨hd', ha'⟩, htime', hsec'⟩ := h'.stamp hc horder hmem hN
    rw [savedName, savedName, eventPath_eq_iff (ha.trans ha'.symm)
      (by rw [hd, hd', length_cstr_date hdate, length_cstr_date hdate']) htime htime', hd, hd',
      hsec, hsec', Clash]
    refine and_congr_right fun heq => ?_
    -- blocks of one day come in the order of their seconds
    have hle : secondOfDay (bs T).time ≤ secondOfDay (bs T').time := by
      have hinstant := horder.lt T T' hT hT'
      have hms := millisecond_lt (horder.valid T (hT.trans hT'))
      have hms' := millisecond_lt (horder.valid T' hT')
      rw [instant, instant, dayOf_congr hdate' heq] at hinstant
      omega
    simp only [startSecond]
    generalize p.preEvent / p.freq = back at *
    split <;> split <;> omega
  have hnodup : (savedBlocks p axis bs N).Nodup := List.Nodup.filter _ List.nodup_range
  rw [NamesDiffer, List.nodup_map_iff_inj_on hnodup]
  constructor
  · intro h M M' T T' hlt hN hT hT' hclash
    have hM : M ∈ savedBlocks p axis bs N :=
      mem_savedBlocks.mpr ⟨hlt.trans hN, (mem_savedBlocks.mp hT.1).2⟩
    have hM' : M' ∈ savedBlocks p axis bs N :=
      mem_savedBlocks.mpr ⟨hN, (mem_savedBlocks.mp hT'.1).2⟩
    exact absurd (h M hM M' hM' ((key M M' T T' hlt hN hT hT').mpr hclash)) hlt.ne
  · intro h M hM M' hM' heq
    obtain ⟨T, hT⟩ := exists_savedFrom hc hM
    obtain ⟨T', hT'⟩ := exists_savedFrom hc hM'
    have hN := (mem_savedBlocks.mp hM).1
    have hN' := (mem_savedBlocks.mp hM').1
    rcases lt_trichotomy M M' with hlt | heq' | hlt
    · exact absurd ((key M M' T T' hlt hN' hT hT').mp heq) (h M M' T T' hlt hN' hT hT')
    · exact heq'
    · exact absurd ((key M' M T' T hlt hN hT' hT).mp heq.symm) (h M' M T' T hlt hN hT' hT)

/-- Two short events right after midnight, two seconds apart. -/
def midnightBlocks (N : ℕ) : Block ℚ :=
  { Block.plain fun i => if N * 40 + i < 41 then 1 else if N * 40 + i = 120 then 5 else 0 with
    date := if N = 0 then "010120".toList else "020120".toList
    time := ["235959".toList, "000000".toList, "000001".toList, "000002".toList,
      "000003".toList].getD N [] }

theorem inOrder_midnight : InOrder midnightBlocks 5 := by
  have hlt : ∀ M' < 5, ∀ M < M', instant (midnightBlocks M).date (midnightBlocks M).time false
      < instant (midnightBlocks M').date (midnightBlocks M').time false := by decide +kernel
  exact ⟨by decide +kernel, fun M M' h hN => hlt M' hN M h⟩

/-- With a register of two seconds both are saved as `020120_000000`. -/
theorem not_namesDiffer_midnight :
    (tinyParams 1 2 0).Accepted ∧ (tinyParams 1 2 0).Fits ∧ InOrder midnightBlocks 5 ∧
      (∀ M k, ((midnightBlocks M).memStart k).Quiet) ∧
      ¬ NamesDiffer (tinyParams 1 2 0) "BHZ".toList midnightBlocks 5 :=
  ⟨⟨tinyOptions 1 2 (1 / 2), by decide +kernel⟩,
    tinyParams_fits (by decide) (by decide) (by decide), inOrder_midnight,
    fun _ _ => SecondsMem.quiet_clear, by decide +kernel⟩

/-- The condition for the same blocks. -/
theorem names_differ_iff_midnight :
    NamesDiffer (tinyParams 1 2 0) "BHZ".toList midnightBlocks 5 ↔
      NoClash (tinyParams 1 2 0) "BHZ".toList midnightBlocks 5 :=
  names_differ_iff ⟨tinyOptions 1 2 (1 / 2), by decide +kernel⟩ _ _ inOrder_midnight
    fun _ _ _ => SecondsMem.quiet_clear

end SensorIoT
