import Mathlib.Data.List.Destutter
import SensorIoT.Stamps.Defs

/-!
# Which clock the server is told of

The loop of `readAndSaveData` once more, with the two messages that it sends: that the sensor now
runs on the PPS signal of the GPS, or on the SYNC signal of the RTC.  Two variables, `sendNotiPPS`
and `sendNotiSYNC`, keep a message from being repeated.  One of them is handed to `readWithRTC`,
which sends its message before it has read the RTC.

Without the messages the loop is that of `SensorIoT.Stamps.Defs` (`actions_stamps`).

**`alerts_eq`**: the messages are the changes from one clock to the other, and the first choice.  So
whenever a block is recorded, the last message names the clock that its stamp comes from
(`record_after_alert`).
-/

set_option autoImplicit false

namespace SensorIoT

/-- The two clocks. -/
inductive Source
  | gps
  | rtc
  deriving DecidableEq

/-- What the loop does. -/
inductive Action where
  /-- The message that the sensor is activated with the signal of a clock. -/
  | alert (source : Source)
  /-- The call of `readAnalogInputsAndSaveData`. -/
  | record (stamp : Stamp)

/-- The variables that keep a message from being repeated. -/
structure Notices where
  sendNotiPPS : Bool
  sendNotiSYNC : Bool

/-- Their values before the loop. -/
def Notices.init : Notices := ⟨true, true⟩

/-- `readWithRTC`, with what `*sendNotification` is when it is called and when it returns. -/
def readWithRTCSending (sendNotification : Bool) (rtc : Option (List UInt8)) :
    Bool × List Action :=
  (false, (if sendNotification = true then [.alert .rtc] else [])
    ++ (readWithRTC rtc).map .record)

/-- The three places that record with the RTC. -/
def fallBackSending (noti : Notices) (p : Pass) : Notices × List Action :=
  if p.syncLow = true then
    ({ sendNotiPPS := true, sendNotiSYNC := (readWithRTCSending noti.sendNotiSYNC p.rtc).1 },
      (readWithRTCSending noti.sendNotiSYNC p.rtc).2)
  else (noti, [])

/-- The place that records with the GPS. -/
def recordGps (noti : Notices) (stamp : Stamp) : Notices × List Action :=
  if noti.sendNotiPPS = true then
    ({ sendNotiPPS := false, sendNotiSYNC := true }, [.alert .gps, .record stamp])
  else (noti, [.record stamp])

/-- One turn of the loop of `readAndSaveData`. -/
def readAndSaveDataPassSending (s : Loop × Notices) (p : Pass) : (Loop × Notices) × List Action :=
  if p.ppsHigh = true then
    let l := { s.1 with inicio := p.now }
    if p.lines ≠ [] then
      let l := p.lines.foldl readSentence l
      if l.isData ≠ -1 then
        let w := recordGps s.2 { date := l.bufDate, time := l.bufTime, isGPS := true }
        ((l, w.1), w.2)
      else
        let w := fallBackSending s.2 p
        (({ l with flag := l.flag || p.syncLow }, w.1), w.2)
    else
      let w := fallBackSending s.2 p
      (({ l with flag := l.flag || p.syncLow }, w.1), w.2)
  else if s.1.flag = true ∨ 2 < p.now - s.1.inicio then
    let w := fallBackSending s.2 p
    ((s.1, w.1), w.2)
  else (s, [])

/-- The clock that a turn of the loop goes by, if any. -/
def clock (s : Loop) (p : Pass) : Option Source :=
  if p.ppsHigh = true ∧ p.lines ≠ [] ∧
      (p.lines.foldl readSentence { s with inicio := p.now }).isData ≠ -1 then some .gps
  else if (p.ppsHigh = true ∨ s.flag = true ∨ 2 < p.now - s.inicio) ∧ p.syncLow = true then
    some .rtc
  else none

/-- What the loop does in the first `n` turns. -/
def actions (inicio : ℤ) (passes : ℕ → Pass) : ℕ → List Action :=
  Emitter.trace readAndSaveDataPassSending (Loop.init inicio, Notices.init) passes

/-- The clocks of the first `n` turns. -/
def clocks (inicio : ℤ) (passes : ℕ → Pass) (n : ℕ) : List Source :=
  (List.range n).filterMap fun i => clock (readAndSaveData inicio passes i) (passes i)

/-- The messages among the actions. -/
def alerts (acts : List Action) : List Source :=
  acts.filterMap fun a => match a with
    | .alert source => some source
    | .record _ => none

/-- The stamp of an action. -/
def Action.stamp? : Action → Option Stamp
  | .alert _ => none
  | .record stamp => some stamp

/-! ## What a turn does -/

section Turn

variable (s : Loop) (noti : Notices) (p : Pass)

theorem stamps_fallBackSending :
    (fallBackSending noti p).2.filterMap Action.stamp? = fallBack p := by
  have hrecords : ∀ stamps : List Stamp,
      (stamps.map Action.record).filterMap Action.stamp? = stamps := by
    intro stamps
    rw [List.filterMap_map]
    exact List.filterMap_some
  rw [fallBackSending, fallBack]
  split
  · rw [readWithRTCSending, List.filterMap_append, hrecords]
    split <;> rfl
  · rfl

/-- Without its messages, a turn is that of the loop without messages. -/
theorem readAndSaveDataPassSending_stamps :
    (readAndSaveDataPassSending (s, noti) p).1.1 = (readAndSaveDataPass s p).1 ∧
      (readAndSaveDataPassSending (s, noti) p).2.filterMap Action.stamp?
        = (readAndSaveDataPass s p).2 := by
  have hgps : ∀ stamp, (recordGps noti stamp).2.filterMap Action.stamp? = [stamp] := by
    intro stamp
    rw [recordGps]
    split <;> rfl
  rw [readAndSaveDataPassSending, readAndSaveDataPass]
  split
  · simp only
    split
    · split
      · exact ⟨rfl, hgps _⟩
      · exact ⟨rfl, stamps_fallBackSending noti p⟩
    · exact ⟨rfl, stamps_fallBackSending noti p⟩
  · split
    · exact ⟨rfl, stamps_fallBackSending noti p⟩
    · exact ⟨rfl, rfl⟩

/-- **The three kinds of turns.** -/
theorem readAndSaveDataPassSending_cases :
    (clock s p = none ∧ (readAndSaveDataPassSending (s, noti) p).1.2 = noti ∧
      (readAndSaveDataPassSending (s, noti) p).2 = []) ∨
    (clock s p = some .gps ∧ ∃ stamp : Stamp, stamp.isGPS = true ∧
      (readAndSaveDataPassSending (s, noti) p).1.2 = (recordGps noti stamp).1 ∧
      (readAndSaveDataPassSending (s, noti) p).2 = (recordGps noti stamp).2) ∨
    (clock s p = some .rtc ∧
      (readAndSaveDataPassSending (s, noti) p).1.2 = ⟨true, false⟩ ∧
      (readAndSaveDataPassSending (s, noti) p).2
        = (readWithRTCSending noti.sendNotiSYNC p.rtc).2) := by
  have hback : (p.ppsHigh = true ∨ s.flag = true ∨ 2 < p.now - s.inicio) →
      ¬ (p.ppsHigh = true ∧ p.lines ≠ [] ∧
        (p.lines.foldl readSentence { s with inicio := p.now }).isData ≠ -1) →
      (clock s p = none ∧ (fallBackSending noti p).1 = noti ∧ (fallBackSending noti p).2 = []) ∨
      (clock s p = some .rtc ∧ (fallBackSending noti p).1 = ⟨true, false⟩ ∧
        (fallBackSending noti p).2 = (readWithRTCSending noti.sendNotiSYNC p.rtc).2) := by
    intro htry hnot
    rw [clock, if_neg hnot, fallBackSending]
    by_cases hsync : p.syncLow = true
    · rw [if_pos ⟨htry, hsync⟩, if_pos hsync]
      exact .inr ⟨rfl, rfl, rfl⟩
    · rw [if_neg fun h => hsync h.2, if_neg hsync]
      exact .inl ⟨rfl, rfl, rfl⟩
  rw [readAndSaveDataPassSending]
  by_cases hpps : p.ppsHigh = true
  · simp only [if_pos hpps]
    by_cases hlines : p.lines ≠ []
    · simp only [if_pos hlines]
      by_cases hdata : (p.lines.foldl readSentence { s with inicio := p.now }).isData ≠ -1
      · simp only [if_pos hdata]
        have hclock : clock s p = some .gps := if_pos ⟨hpps, hlines, hdata⟩
        exact .inr (.inl ⟨hclock, _, rfl, rfl, rfl⟩)
      · simp only [if_neg hdata]
        exact (hback (.inl hpps) fun h => hdata h.2.2).imp_right .inr
    · simp only [if_neg hlines]
      exact (hback (.inl hpps) fun h => hlines h.2.1).imp_right .inr
  · simp only [if_neg hpps]
    by_cases hlong : s.flag = true ∨ 2 < p.now - s.inicio
    · simp only [if_pos hlong]
      exact (hback (.inr hlong) fun h => hpps h.1).imp_right .inr
    · have hclock : clock s p = none := by
        rw [clock, if_neg fun h => hpps h.1, if_neg fun h => h.1.elim hpps hlong]
      simp only [if_neg hlong]
      exact .inl ⟨hclock, trivial, trivial⟩

end Turn

/-! ## Changes -/

/-- A value at the end is a change if it is not the one before. -/
theorem destutter'_ne_concat {α : Type*} [DecidableEq α] (b : α) (l : List α) (a : α) :
    (l ++ [a]).destutter' (· ≠ ·) b
      = if (b :: l).getLast? = some a then l.destutter' (· ≠ ·) b
        else l.destutter' (· ≠ ·) b ++ [a] := by
  induction l generalizing b with
  | nil =>
    rw [List.nil_append, List.destutter'_singleton, List.getLast?_singleton, List.destutter'_nil]
    by_cases h : b = a
    · rw [if_neg (not_not.mpr h), if_pos (congrArg some h)]
    · rw [if_pos h, if_neg fun heq => h (Option.some.inj heq)]
      rfl
  | cons c l ih =>
    rw [List.cons_append, List.getLast?_cons_cons]
    by_cases h : b = c
    · subst h
      rw [List.destutter'_cons_neg (R := (· ≠ ·)) _ (not_not.mpr rfl), ih,
        List.destutter'_cons_neg (R := (· ≠ ·)) _ (not_not.mpr rfl)]
    · rw [List.destutter'_cons_pos (R := (· ≠ ·)) _ h, ih,
        List.destutter'_cons_pos (R := (· ≠ ·)) _ h]
      split <;> rfl

theorem destutter_ne_concat {α : Type*} [DecidableEq α] (l : List α) (a : α) :
    (l ++ [a]).destutter (· ≠ ·)
      = if l.getLast? = some a then l.destutter (· ≠ ·) else l.destutter (· ≠ ·) ++ [a] := by
  cases l with
  | nil => rfl
  | cons b l => exact destutter'_ne_concat b l a

/-! ## Runs -/

/-- The clock of a stamp. -/
def Stamp.source (stamp : Stamp) : Source := if stamp.isGPS = true then .gps else .rtc

/-- The last message names the clock of a block that is recorded. -/
def Action.Announced (acts : List Action) : Action → Prop
  | .alert _ => True
  | .record stamp => (alerts acts).getLast? = some stamp.source

/-- The variables tell which clock was used last, and the messages which clocks were used. -/
structure NoticeInv (used : List Source) (noti : Notices) (acts : List Action) : Prop where
  pps : noti.sendNotiPPS = true ↔ used.getLast? ≠ some .gps
  sync : noti.sendNotiSYNC = true ↔ used.getLast? ≠ some .rtc
  alerts : alerts acts = used.destutter (· ≠ ·)
  last : (SensorIoT.alerts acts).getLast? = used.getLast?
  announced : Emitter.Lawful Action.Announced acts

section Step

variable {used : List Source} {noti : Notices} {acts : List Action}

theorem alerts_append (acts acts' : List Action) :
    alerts (acts ++ acts') = alerts acts ++ alerts acts' :=
  List.filterMap_append

/-- The message that a clock is used comes if another one was used before. -/
theorem alert_of_change (h : NoticeInv used noti acts) (source : Source) :
    let more : List Action := if used.getLast? ≠ some source then [.alert source] else []
    alerts (acts ++ more) = (used ++ [source]).destutter (· ≠ ·) ∧
      (alerts (acts ++ more)).getLast? = some source ∧
      Emitter.Lawful Action.Announced (acts ++ more) := by
  intro more
  rw [destutter_ne_concat, alerts_append, h.alerts]
  by_cases hlast : used.getLast? = some source
  · have hmore : more = [] := if_neg (not_not.mpr hlast)
    rw [hmore, if_pos hlast]
    refine ⟨List.append_nil _, ?_, by rw [List.append_nil]; exact h.announced⟩
    have hsame : alerts ([] : List Action) = [] := rfl
    rw [hsame, List.append_nil, ← h.alerts, h.last, hlast]
  · have hmore : more = [.alert source] := if_pos hlast
    have halert : alerts [.alert source] = [source] := rfl
    rw [hmore, if_neg hlast, halert]
    exact ⟨rfl, List.getLast?_concat, h.announced.concat trivial⟩

/-- Blocks of the clock that was announced last. -/
theorem announced_records {acts : List Action} {source : Source} {stamps : List Stamp}
    (h : Emitter.Lawful Action.Announced acts) (hlast : (alerts acts).getLast? = some source)
    (hstamps : ∀ stamp ∈ stamps, stamp.source = source) :
    Emitter.Lawful Action.Announced (acts ++ stamps.map .record) ∧
      alerts (acts ++ stamps.map .record) = alerts acts := by
  have hnone : ∀ stamps : List Stamp, alerts (stamps.map .record) = [] := by
    intro stamps
    rw [alerts, List.filterMap_map]
    exact List.filterMap_eq_nil_iff.mpr fun _ _ => rfl
  refine ⟨h.append fun pre c post heq => ?_, by rw [alerts_append, hnone, List.append_nil]⟩
  obtain ⟨pre', rest, hsplit, hpre, hrest⟩ := List.map_eq_append_iff.mp heq
  obtain ⟨stamp, post', rfl, rfl, -⟩ := List.map_eq_cons_iff.mp hrest
  have hsource : stamp.source = source := hstamps stamp (by rw [hsplit]; simp)
  rw [Action.Announced, alerts_append, ← hpre, hnone, List.append_nil, hlast, hsource]

/-- **A turn keeps the variables and the messages in step with the clocks.** -/
theorem NoticeInv.turn (h : NoticeInv used noti acts) (s : Loop) (p : Pass) :
    NoticeInv (used ++ (clock s p).toList) (readAndSaveDataPassSending (s, noti) p).1.2
      (acts ++ (readAndSaveDataPassSending (s, noti) p).2) := by
  rcases readAndSaveDataPassSending_cases s noti p with
    ⟨hclock, hnoti, hacts⟩ | ⟨hclock, stamp, hstamp, hnoti, hacts⟩ | ⟨hclock, hnoti, hacts⟩
  · rw [hclock, hnoti, hacts, Option.toList_none, List.append_nil, List.append_nil]
    exact h
  · obtain ⟨halerts, hlast, hlawful⟩ := alert_of_change h .gps
    have hsource : ∀ other ∈ [stamp], other.source = .gps := by
      intro other hother
      rw [List.mem_singleton.mp hother, Stamp.source, if_pos hstamp]
    obtain ⟨hannounced, hsame⟩ := announced_records hlawful hlast hsource
    have hgps : recordGps noti stamp = (⟨false, true⟩, (if used.getLast? ≠ some .gps
        then [.alert .gps] else []) ++ [stamp].map .record) := by
      rw [recordGps]
      by_cases hpps : noti.sendNotiPPS = true
      · rw [if_pos hpps, if_pos (h.pps.mp hpps)]
        rfl
      · have hgps : used.getLast? = some .gps := not_not.mp (mt h.pps.mpr hpps)
        have hsync : noti.sendNotiSYNC = true := h.sync.mpr (by rw [hgps]; decide)
        have hnoti : noti = ⟨false, true⟩ := by
          cases noti
          simp_all
        rw [if_neg hpps, if_neg (not_not.mpr hgps), hnoti]
        rfl
    rw [hclock, hnoti, hacts, hgps, Option.toList_some, ← List.append_assoc]
    refine ⟨?_, ?_, hsame.trans halerts, ?_, hannounced⟩
    · simp
    · simp
    · rw [hsame, hlast, List.getLast?_concat]
  · obtain ⟨halerts, hlast, hlawful⟩ := alert_of_change h .rtc
    have hsource : ∀ other ∈ readWithRTC p.rtc, other.source = .rtc := by
      intro other hother
      cases hrtc : p.rtc with
      | none =>
        rw [hrtc] at hother
        cases hother
      | some bufRtc =>
        rw [hrtc] at hother
        rw [List.mem_singleton.mp hother]
        rfl
    obtain ⟨hannounced, hsame⟩ := announced_records hlawful hlast hsource
    have hrtc : (readWithRTCSending noti.sendNotiSYNC p.rtc).2
        = (if used.getLast? ≠ some .rtc then [.alert .rtc] else [])
          ++ (readWithRTC p.rtc).map .record := by
      rw [readWithRTCSending]
      simp only [h.sync]
    rw [hclock, hnoti, hacts, hrtc, Option.toList_some, ← List.append_assoc]
    refine ⟨?_, ?_, hsame.trans halerts, ?_, hannounced⟩
    · simp
    · simp
    · rw [hsame, hlast, List.getLast?_concat]

end Step

theorem noticeInv (inicio : ℤ) (passes : ℕ → Pass) (n : ℕ) :
    (Emitter.state readAndSaveDataPassSending (Loop.init inicio, Notices.init) passes n).1
        = readAndSaveData inicio passes n ∧
      NoticeInv (clocks inicio passes n)
        (Emitter.state readAndSaveDataPassSending (Loop.init inicio, Notices.init) passes n).2
        (actions inicio passes n) := by
  induction n with
  | zero =>
    have hnone : (clocks inicio passes 0).getLast? = none := rfl
    refine ⟨rfl, ⟨iff_of_true rfl ?_, iff_of_true rfl ?_, rfl, rfl, Emitter.lawful_nil⟩⟩ <;>
    · rw [hnone]
      decide
  | succ n ih =>
    obtain ⟨hloop, hinv⟩ := ih
    have hpair : Emitter.state readAndSaveDataPassSending (Loop.init inicio, Notices.init) passes n
        = (readAndSaveData inicio passes n, (Emitter.state readAndSaveDataPassSending
          (Loop.init inicio, Notices.init) passes n).2) := Prod.ext hloop rfl
    have hclocks : clocks inicio passes (n + 1) = clocks inicio passes n
        ++ (clock (readAndSaveData inicio passes n) (passes n)).toList := by
      rw [clocks, List.range_succ, List.filterMap_append]
      have hlast : ∀ f : ℕ → Option Source, [n].filterMap f = (f n).toList := by
        intro f
        cases hf : f n <;> simp [hf]
      rw [hlast]
      rfl
    have hturn := hinv.turn (readAndSaveData inicio passes n) (passes n)
    rw [← hpair, ← hclocks] at hturn
    refine ⟨?_, hturn⟩
    rw [Emitter.state_succ, hpair, (readAndSaveDataPassSending_stamps _ _ _).1]
    rfl

/-- **The server is told of every change of the clock**, and of nothing else: the messages are the
clocks that were used, without repetitions, and the last of them is the clock of the block that is
being recorded. -/
theorem alerts_eq (inicio : ℤ) (passes : ℕ → Pass) (n : ℕ) :
    alerts (actions inicio passes n) = (clocks inicio passes n).destutter (· ≠ ·) ∧
      Emitter.Lawful Action.Announced (actions inicio passes n) :=
  ⟨(noticeInv inicio passes n).2.alerts, (noticeInv inicio passes n).2.announced⟩

end SensorIoT
