import SensorIoT.Gps.Altitude
import SensorIoT.Lib.Awaiting

/-!
# The location that is sent

`loadingGpsData` hands a location to `locationJson` and is done.  Its latitude and longitude come
from one sentence and its altitude from another, which was read before, through variables that any
number of sentences in between write to.

**`located_iff`**: whatever is read, in whatever order and with whatever pauses, the location is
that of the first RMC sentence with a fix before which there was a GGA sentence with an altitude;
the altitude is that of the last of these.  Sentences are taken as they stand in the buffer of the
loop, with what longer ones have left behind them.
-/

set_option autoImplicit false

namespace SensorIoT

/-! ## What the loop reads -/

/-- The buffer of the loop, whenever a line has been read into it. -/
def loadedSentences : CBuf → List (Option (List Char)) → List CBuf
  | _, [] => []
  | buf, none :: reads => loadedSentences buf reads
  | buf, some line :: reads => readUART buf line :: loadedSentences (readUART buf line) reads

/-- A GGA sentence with an altitude, as far as `getAlt` can tell. -/
def hasAltitude (sentence : CBuf) : Bool :=
  isGGA sentence = 1 ∧ ',' ∉ altitudeBytes sentence

/-- An RMC sentence with a fix. -/
def hasFix (sentence : CBuf) : Bool := isRmcStatusOk sentence = 1

/-- The location that an RMC sentence and a GGA sentence give. -/
def locationOf (gga rmc : CBuf) : Location where
  lat := cstr (field rmc 20 9 ++ [charAt rmc 30])
  lng := cstr (field rmc 32 10 ++ [charAt rmc 43])
  alt := cstr (altitudeBytes gga)

/-- The sentences that the location is taken from: the first fix behind an altitude, and the last
altitude before it. -/
def LocatedBy (sentences : List CBuf) (gga rmc : CBuf) : Prop :=
  ∃ pre post, sentences = pre ++ rmc :: post ∧ Awaiting.EndsAt hasAltitude hasFix none pre gga rmc

/-! ## One sentence -/

section Turn

variable {s : LoadingLoop} {b : CBuf} {seen : Option CBuf}

theorem hasFix_eq_false_of_isGGA (h : isGGA b = 1) : hasFix b = false := by
  refine decide_eq_false fun hfix => ?_
  have hheader : hasHeader b "$GPRMC".toList = true := by
    by_contra hnot
    have hrmc : isRMC b ≠ 1 := by
      rw [isRMC, if_neg hnot]
      decide
    rw [isRmcStatusOk, if_neg hrmc] at hfix
    exact absurd hfix (by decide)
  exact isGGA_ne_one hheader h

theorem cstr_getLat (lat : CBuf) :
    cstr (getLat lat b).1 = cstr (field b 20 9 ++ [charAt b 30]) := by
  rw [getLat]
  split <;> exact cstr_sprintf _ _

theorem cstr_getLng (lng : CBuf) :
    cstr (getLng lng b).1 = cstr (field b 32 10 ++ [charAt b 43]) := by
  rw [getLng]
  split <;> exact cstr_sprintf _ _

theorem buf_take (s : LoadingLoop) : s.take.buf = s.buf := by
  rw [LoadingLoop.take]
  split
  case isTrue => rfl
  case isFalse =>
  split
  case isTrue => split <;> rfl
  case isFalse => rfl

/-- The variables of the loop are those of a GGA sentence with an altitude, or of none. -/
structure LoadingLoop.Knows (s : LoadingLoop) (seen : Option CBuf) : Prop where
  waits : s.located = none
  flag : s.flag = seen.isSome
  alt : ∀ gga, seen = some gga → cstr s.alt = cstr (altitudeBytes gga)

/-- What the loop makes of the sentence in its buffer if that is not the last one. -/
theorem LoadingLoop.Knows.take_of_not (h : s.Knows seen)
    (hends : ¬ Awaiting.ends hasAltitude hasFix seen s.buf = true) :
    s.take.Knows (Awaiting.keep hasAltitude seen s.buf) := by
  rw [Awaiting.keep, LoadingLoop.take]
  by_cases hgga : isGGA s.buf = 1
  · rw [if_pos hgga]
    obtain ⟨hcomma, heq⟩ | ⟨hcomma, heq⟩ := getAlt_cases s.alt s.buf
    · have hnot : ¬ hasAltitude s.buf = true := fun h => (of_decide_eq_true h).2 hcomma
      rw [if_neg hnot, heq]
      exact h
    · have hyes : hasAltitude s.buf = true := decide_eq_true ⟨hgga, hcomma⟩
      rw [if_pos hyes, heq]
      refine ⟨h.waits, rfl, fun gga hseen => ?_⟩
      rw [← Option.some.inj hseen]
      exact cstr_sprintf _ _
  · have hnot : hasAltitude s.buf = false := decide_eq_false fun h => hgga h.1
    rw [if_neg hgga, hnot, if_neg Bool.false_ne_true]
    split
    case isTrue hfix =>
      have hnone : s.flag = false := by
        by_contra hflag
        refine hends (Awaiting.ends_iff.mpr ⟨hnot, decide_eq_true hfix, ?_⟩)
        exact Option.isSome_iff_exists.mp (h.flag ▸ Bool.eq_true_of_not_eq_false hflag)
      rw [if_neg (by rw [hnone]; exact Bool.false_ne_true)]
      exact ⟨h.waits, h.flag, h.alt⟩
    case isFalse => exact h

/-- And if it is. -/
theorem LoadingLoop.Knows.take_of_ends (h : s.Knows seen)
    (hends : Awaiting.ends hasAltitude hasFix seen s.buf = true) :
    s.take.located = seen.map fun gga => locationOf gga s.buf := by
  obtain ⟨-, hfix, gga, rfl⟩ := Awaiting.ends_iff.mp hends
  have hgga : ¬ isGGA s.buf = 1 := by
    intro hgga
    rw [hasFix_eq_false_of_isGGA hgga] at hfix
    exact Bool.noConfusion hfix
  have hflag : s.flag = true := h.flag
  rw [LoadingLoop.take, if_neg hgga, if_pos (of_decide_eq_true hfix), if_pos hflag]
  refine congrArg some ?_
  change (⟨cstr (getLat s.lat s.buf).1, cstr (getLng s.lng s.buf).1, cstr s.alt⟩ : Location) = _
  rw [cstr_getLat, cstr_getLng, h.alt gga rfl]
  rfl

end Turn

/-! ## The whole loop -/

/-- The loop ends with the two sentences that it waits for. -/
theorem located_eq_pair {s : LoadingLoop} {seen : Option CBuf} (h : s.Knows seen)
    (reads : List (Option (List Char))) : (loadingGpsData s reads).located
      = (Awaiting.pair hasAltitude hasFix seen (loadedSentences s.buf reads)).map
          fun p => locationOf p.1 p.2 := by
  induction reads generalizing s seen with
  | nil => exact h.waits
  | cons read reads ih =>
    have hturn : ¬ s.located.isSome = true := by simp [h.waits]
    rw [loadingGpsData_cons, loadingTurn, if_neg hturn]
    cases read with
    | none => exact ih h
    | some line =>
      have hread : ({ s with buf := readUART s.buf line } : LoadingLoop).Knows seen :=
        ⟨h.waits, h.flag, h.alt⟩
      rw [Option.elim_some, loadingLine, loadedSentences, Awaiting.pair]
      split
      case isTrue hends =>
        have hlocated := hread.take_of_ends hends
        obtain ⟨-, -, gga, rfl⟩ := Awaiting.ends_iff.mp hends
        rw [loadingGpsData_of_isSome (by rw [hlocated]; rfl), hlocated]
        rfl
      case isFalse hends =>
        rw [ih (hread.take_of_not hends), buf_take]

/-- **Which location is sent.** -/
theorem located_iff (reads : List (Option (List Char))) (location : Location) :
    (loadingGpsData LoadingLoop.init reads).located = some location ↔
      ∃ gga rmc, LocatedBy (loadedSentences (zeroBuf 255) reads) gga rmc ∧
        location = locationOf gga rmc := by
  have hinit : LoadingLoop.init.Knows none :=
    ⟨rfl, rfl, fun gga hseen => absurd hseen.symm (Option.some_ne_none gga)⟩
  rw [located_eq_pair hinit, Option.map_eq_some_iff]
  constructor
  · rintro ⟨⟨gga, rmc⟩, hpair, rfl⟩
    exact ⟨gga, rmc, Awaiting.pair_eq_some_iff.mp hpair, rfl⟩
  · rintro ⟨gga, rmc, hby, rfl⟩
    exact ⟨(gga, rmc), Awaiting.pair_eq_some_iff.mpr hby, rfl⟩

end SensorIoT
