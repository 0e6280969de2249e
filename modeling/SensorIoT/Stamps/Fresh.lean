import Mathlib.Tactic.IntervalCases
import SensorIoT.Stamps.Defs

/-!
# Stamps of the second they are recorded in

A block recorded with the time of the GPS should carry the time that the GPS has just sent, and the
GPS should have been sure of it: the date and the time should come from an RMC sentence of the same
pass of the loop that reports a fix.

What the loop tests is whether the RMC sentence it has read last, in this pass or in an earlier one,
or never, has a latitude.  `Heard` says so, and `freshStamps_iff` says what that is good for: the
stamps are fresh exactly as long as every pass with sentences either has an RMC sentence that
reports a fix as its last one, or comes at a time when the last one heard has no latitude.
-/

set_option autoImplicit false

namespace SensorIoT

/-! ## Sentences -/

/-- What is in the buffer when a line has been read into it: the buffer was clear. -/
def sentence (line : List Char) : CBuf := readUART (zeroBuf 255) line

/-- The time of an RMC sentence, in an array that was clear. -/
def timeOf (rmc : CBuf) : CBuf := (getTimeGps (zeroBuf 15) rmc).1

/-- The date of an RMC sentence, in an array that was clear. -/
def dateOf (rmc : CBuf) : CBuf := (getDateGps (zeroBuf 15) rmc).1

/-- What `getLat` says of an RMC sentence. -/
def latOf (rmc : CBuf) : ℤ := (getLat (zeroBuf 15) rmc).2

/-- The sentences of a pass: the serial line is read on PPS only. -/
def Pass.sentences (p : Pass) : List CBuf := if p.ppsHigh = true then p.lines.map sentence else []

/-- The sentences of the first `n` passes. -/
def heard (passes : ℕ → Pass) (n : ℕ) : List CBuf :=
  (List.range n).flatMap fun i => (passes i).sentences

/-- The last RMC sentence of a list of sentences. -/
def lastRmc (sentences : List CBuf) : Option CBuf :=
  (sentences.filter fun s => isRMC s = 1).getLast?

/-- The stamp comes from an RMC sentence of the pass that reports a fix. -/
def Fresh (p : Pass) (stamp : Stamp) : Prop :=
  ∃ rmc ∈ p.sentences, isRmcStatusOk rmc = 1 ∧ stamp.date = dateOf rmc ∧ stamp.time = timeOf rmc

/-- Every block recorded with the time of the GPS in the first `n` passes has a fresh stamp. -/
def FreshStamps (inicio : ℤ) (passes : ℕ → Pass) (n : ℕ) : Prop :=
  ∀ i < n, ∀ stamp ∈ recordedAt inicio passes i, stamp.isGPS = true → Fresh (passes i) stamp

/-- In pass `n`, the last RMC sentence heard so far has no latitude, or the pass has RMC sentences,
and the last of them reports a fix, or repeats the date and the time of one that does. -/
def SoundAt (passes : ℕ → Pass) (n : ℕ) : Prop :=
  (∃ rmc, lastRmc (heard passes (n + 1)) = some rmc ∧ latOf rmc = -1) ∨
    ∃ rmc, lastRmc (passes n).sentences = some rmc ∧ ∃ ok ∈ (passes n).sentences,
      isRmcStatusOk ok = 1 ∧ dateOf rmc = dateOf ok ∧ timeOf rmc = timeOf ok

theorem lastRmc_append (l m : List CBuf) : lastRmc (l ++ m) = (lastRmc m).or (lastRmc l) := by
  rw [lastRmc, List.filter_append, List.getLast?_append, lastRmc, lastRmc]

theorem lastRmc_concat (l : List CBuf) (s : CBuf) :
    lastRmc (l ++ [s]) = if isRMC s = 1 then some s else lastRmc l := by
  rw [lastRmc_append]
  split
  · rename_i h
    simp [lastRmc, h]
  · rename_i h
    simp [lastRmc, h]

theorem isRMC_of_isRmcStatusOk {s : CBuf} (h : isRmcStatusOk s = 1) : isRMC s = 1 := by
  rw [isRmcStatusOk] at h
  split at h
  · assumption
  · cases h

/-- A pass with a sentence that reports a fix has a last RMC sentence. -/
theorem exists_lastRmc {l : List CBuf} {s : CBuf} (hs : s ∈ l) (h : isRmcStatusOk s = 1) :
    ∃ rmc, lastRmc l = some rmc := by
  cases hl : lastRmc l with
  | some rmc => exact ⟨rmc, rfl⟩
  | none =>
    rw [lastRmc, List.getLast?_eq_none_iff, List.filter_eq_nil_iff] at hl
    exact absurd (decide_eq_true (isRMC_of_isRmcStatusOk h)) (hl s hs)

/-- Writing a text over another of the same length. -/
theorem sprintf_sprintf {dst a b : List Char} (h : a.length = b.length) :
    sprintf (sprintf dst a) b = sprintf dst b := by
  have hdrop : (sprintf dst a).drop (b.length + 1) = dst.drop (b.length + 1) := by
    rw [sprintf, h, List.append_cons]
    exact List.drop_left' (by simp [h])
  rw [sprintf, hdrop, sprintf]

theorem length_field (s : CBuf) (start len : ℕ) : (field s start len).length = len := by
  rw [field, List.length_map, List.length_range]

/-- What `getLat` returns does not depend on the array it writes to. -/
theorem getLat_snd (buffer rmc : CBuf) : (getLat buffer rmc).2 = latOf rmc := by
  have hchar : ∀ i < 4, ∀ buffer : CBuf,
      charAt (sprintf buffer (field rmc 20 9 ++ [charAt rmc 30])) i = charAt rmc (i + 20) := by
    intro i hi buffer
    interval_cases i <;> rfl
  simp only [latOf, getLat, hchar, Nat.reduceLT]
  split <;> rfl

theorem clearBuffer_readUART (buf : CBuf) (line : List Char) :
    clearBuffer (readUART buf line) 255 = zeroBuf 255 := by
  rw [clearBuffer, readUART, List.drop_eq_nil_of_le (List.length_take_le _ _), List.append_nil]

/-! ## What the loop remembers -/

/-- The loop has read the sentences `l`: its variables are those of the last RMC sentence. -/
structure Heard (l : List CBuf) (s : Loop) : Prop where
  buf : s.buf = zeroBuf 255
  bufTime : s.bufTime = (lastRmc l).elim (zeroBuf 15) timeOf
  bufDate : s.bufDate = (lastRmc l).elim (zeroBuf 15) dateOf
  isData : s.isData = (lastRmc l).elim 0 latOf

theorem heard_init (inicio : ℤ) : Heard [] (Loop.init inicio) := ⟨rfl, rfl, rfl, rfl⟩

theorem Heard.readSentence {l : List CBuf} {s : Loop} (h : Heard l s) (line : List Char) :
    Heard (l ++ [sentence line]) (readSentence s line) := by
  have hread : readUART s.buf line = sentence line := by rw [h.buf, sentence]
  -- an array that held the field of an earlier sentence is as good as a clear one
  have htime : ∀ o : Option CBuf, (getTimeGps (o.elim (zeroBuf 15) timeOf) (sentence line)).1
      = timeOf (sentence line) := by
    rintro (_ | rmc)
    · rfl
    · exact sprintf_sprintf (by rw [length_field, length_field])
  have hdate : ∀ o : Option CBuf, (getDateGps (o.elim (zeroBuf 15) dateOf) (sentence line)).1
      = dateOf (sentence line) := by
    rintro (_ | rmc)
    · rfl
    · exact sprintf_sprintf (by rw [length_field, length_field])
  rw [SensorIoT.readSentence, hread]
  by_cases hrmc : isRMC (sentence line) = 1
  · have hlast : lastRmc (l ++ [sentence line]) = some (sentence line) := by
      rw [lastRmc_concat, if_pos hrmc]
    simp only [if_pos hrmc]
    refine ⟨clearBuffer_readUART _ _, ?_, ?_, ?_⟩
    · rw [hlast, h.bufTime]; exact htime _
    · rw [hlast, h.bufDate]; exact hdate _
    · rw [hlast]; exact getLat_snd _ _
  · have hlast : lastRmc (l ++ [sentence line]) = lastRmc l := by
      rw [lastRmc_concat, if_neg hrmc]
    simp only [if_neg hrmc]
    refine ⟨clearBuffer_readUART _ _, ?_, ?_, ?_⟩
    · rw [hlast]; exact h.bufTime
    · rw [hlast]; exact h.bufDate
    · rw [hlast]; exact h.isData

theorem Heard.foldl {l : List CBuf} {s : Loop} (h : Heard l s) (lines : List (List Char)) :
    Heard (l ++ lines.map sentence) (lines.foldl SensorIoT.readSentence s) := by
  induction lines generalizing l s with
  | nil => rwa [List.map_nil, List.append_nil]
  | cons line lines ih =>
    rw [List.map_cons, List.append_cons]
    exact ih (h.readSentence line)

theorem Pass.sentences_of_high {p : Pass} (h : p.ppsHigh = true) :
    p.sentences = p.lines.map sentence := by
  rw [Pass.sentences, if_pos h]

/-- The inner loop of a pass. -/
theorem Heard.lines {l : List CBuf} {s : Loop} (h : Heard l s) (p : Pass) :
    Heard (l ++ p.lines.map sentence)
      (p.lines.foldl SensorIoT.readSentence { s with inicio := p.now }) := by
  have hclock : Heard l { s with inicio := p.now } := ⟨h.buf, h.bufTime, h.bufDate, h.isData⟩
  exact hclock.foldl p.lines

theorem Heard.pass {l : List CBuf} {s : Loop} (h : Heard l s) (p : Pass) :
    Heard (l ++ p.sentences) (readAndSaveDataPass s p).1 := by
  simp only [readAndSaveDataPass]
  split
  · rename_i hhigh
    rw [Pass.sentences_of_high hhigh]
    have hlines := h.lines p
    by_cases hne : p.lines ≠ []
    · rw [if_pos hne]
      split
      · exact hlines
      · exact ⟨hlines.buf, hlines.bufTime, hlines.bufDate, hlines.isData⟩
    · rw [if_neg hne]
      rw [ne_eq, not_not] at hne
      rw [hne, List.foldl_nil] at hlines
      rw [hne]
      exact ⟨hlines.buf, hlines.bufTime, hlines.bufDate, hlines.isData⟩
  · rename_i hlow
    rw [Pass.sentences, if_neg hlow, List.append_nil]
    split <;> exact h

theorem heard_succ (passes : ℕ → Pass) (n : ℕ) :
    heard passes (n + 1) = heard passes n ++ (passes n).sentences := by
  simp [heard, List.range_succ]

/-- The loop remembers the last RMC sentence it has heard. -/
theorem heard_readAndSaveData (inicio : ℤ) (passes : ℕ → Pass) (n : ℕ) :
    Heard (heard passes n) (readAndSaveData inicio passes n) := by
  refine Emitter.invariant (fun n s _ => Heard (heard passes n) s) (heard_init inicio) ?_ n
  intro n s _ h
  rw [heard_succ]
  exact h.pass (passes n)

/-! ## What the loop records -/

theorem isGPS_fallBack {p : Pass} {stamp : Stamp} (h : stamp ∈ fallBack p) :
    stamp.isGPS = false := by
  rw [fallBack] at h
  split at h
  · cases hrtc : p.rtc with
    | none =>
      rw [hrtc, readWithRTC] at h
      cases h
    | some bufRtc =>
      rw [hrtc, readWithRTC, List.mem_singleton] at h
      rw [h]
  · cases h

/-- The stamp that the last RMC sentence heard gives a block. -/
def gpsStamp (l : List CBuf) : Stamp where
  date := (lastRmc l).elim (zeroBuf 15) dateOf
  time := (lastRmc l).elim (zeroBuf 15) timeOf
  isGPS := true

/-- **A pass records with the time of the GPS exactly if it has sentences, and the last RMC sentence
heard has a latitude, or there is none.** -/
theorem Heard.recorded {l : List CBuf} {s : Loop} (h : Heard l s) (p : Pass) (stamp : Stamp) :
    stamp ∈ (readAndSaveDataPass s p).2 ∧ stamp.isGPS = true ↔
      p.sentences ≠ [] ∧ (∀ rmc, lastRmc (l ++ p.sentences) = some rmc → latOf rmc ≠ -1) ∧
        stamp = gpsStamp (l ++ p.sentences) := by
  have hfallBack : ∀ {P : Prop}, ¬ P → (stamp ∈ fallBack p ∧ stamp.isGPS = true ↔ P) := by
    refine fun hP => iff_of_false ?_ hP
    rintro ⟨hmem, hgps⟩
    rw [isGPS_fallBack hmem] at hgps
    cases hgps
  simp only [readAndSaveDataPass]
  by_cases hhigh : p.ppsHigh = true
  · have hsent : p.lines.map sentence ≠ [] ↔ p.lines ≠ [] := not_congr List.map_eq_nil_iff
    rw [if_pos hhigh, Pass.sentences_of_high hhigh, hsent]
    by_cases hne : p.lines ≠ []
    · have hlines := h.lines p
      have hdata : (p.lines.foldl SensorIoT.readSentence { s with inicio := p.now }).isData ≠ -1 ↔
          ∀ rmc, lastRmc (l ++ p.lines.map sentence) = some rmc → latOf rmc ≠ -1 := by
        rw [hlines.isData]
        cases lastRmc (l ++ p.lines.map sentence) <;> simp
      rw [if_pos hne]
      by_cases hlat : (p.lines.foldl SensorIoT.readSentence { s with inicio := p.now }).isData ≠ -1
      · simp only [if_pos hlat, List.mem_singleton, hlines.bufDate, hlines.bufTime]
        refine ⟨fun ⟨hmem, _⟩ => ⟨hne, hdata.mp hlat, hmem⟩, ?_⟩
        rintro ⟨-, -, rfl⟩
        exact ⟨rfl, rfl⟩
      · simp only [if_neg hlat]
        exact hfallBack fun hP => hlat (hdata.mpr hP.2.1)
    · rw [if_neg hne]
      exact hfallBack fun hP => hne hP.1
  · rw [if_neg hhigh, Pass.sentences, if_neg hhigh]
    split
    · exact hfallBack fun hP => hP.1 rfl
    · exact iff_of_false (fun hmem => by cases hmem.1) fun hP => hP.1 rfl

/-- **Stamps are fresh exactly as long as every pass with sentences is sound.** -/
theorem freshStamps_iff (inicio : ℤ) (passes : ℕ → Pass) (n : ℕ) :
    FreshStamps inicio passes n ↔
      ∀ i < n, (passes i).sentences ≠ [] → SoundAt passes i := by
  refine forall₂_congr fun i _ => ?_
  have hrec := (heard_readAndSaveData inicio passes i).recorded (passes i)
  rw [← heard_succ] at hrec
  have hlast : ∀ rmc, lastRmc (passes i).sentences = some rmc →
      lastRmc (heard passes (i + 1)) = some rmc := by
    intro rmc hrmc
    rw [heard_succ, lastRmc_append, hrmc, Option.some_or]
  refine ⟨fun h hne => ?_, fun h stamp hmem hgps => ?_⟩
  · by_cases hlat : ∃ rmc, lastRmc (heard passes (i + 1)) = some rmc ∧ latOf rmc = -1
    · exact .inl hlat
    · have hmem := (hrec (gpsStamp (heard passes (i + 1)))).mpr
        ⟨hne, fun rmc hrmc hno => hlat ⟨rmc, hrmc, hno⟩, rfl⟩
      obtain ⟨ok, hok, hstatus, hdate, htime⟩ := h _ hmem.1 hmem.2
      obtain ⟨rmc, hrmc⟩ := exists_lastRmc hok hstatus
      rw [gpsStamp, hlast rmc hrmc] at hdate htime
      exact .inr ⟨rmc, hrmc, ok, hok, hstatus, hdate, htime⟩
  · obtain ⟨hne, hlat, rfl⟩ := (hrec stamp).mp ⟨hmem, hgps⟩
    rcases h hne with ⟨rmc, hrmc, hno⟩ | ⟨rmc, hrmc, ok, hok, hstatus, hdate, htime⟩
    · exact absurd hno (hlat rmc hrmc)
    · refine ⟨ok, hok, hstatus, ?_, ?_⟩
      · rw [← hdate, gpsStamp, hlast rmc hrmc]
        rfl
      · rw [← htime, gpsStamp, hlast rmc hrmc]
        rfl

/-! ## A loop that records without a time -/

/-- Passes on PPS in which the GPS sends a GGA sentence only. -/
def ggaPasses (_ : ℕ) : Pass where
  ppsHigh := true
  syncLow := false
  now := 0
  lines := ["$GPGGA,111636.932,2447.0949,N,12100.5223,E,1,11,0.8,118.2,M,,,,0000*02".toList]
  rtc := none

/-- The first of them records a block with an empty stamp. -/
theorem not_freshStamps_gga : ¬ FreshStamps 0 ggaPasses 1 := by
  intro h
  have hmem : ({ date := zeroBuf 15, time := zeroBuf 15, isGPS := true } : Stamp)
      ∈ recordedAt 0 ggaPasses 0 := List.mem_singleton.mpr rfl
  obtain ⟨rmc, hrmc, hstatus, -⟩ := h 0 Nat.zero_lt_one _ hmem rfl
  obtain rfl : rmc = sentence _ := List.mem_singleton.mp hrmc
  exact absurd hstatus (by decide)

end SensorIoT
