import Mathlib.Data.List.Basic
import Mathlib.Logic.Equiv.Defs

/-!
# Frames

A message of bytes is sent as a frame: a fixed start, the size of the message as one byte, the
message, a byte that checks it and a fixed end.  A stream of frames is decoded frame by frame.

The size comes before the message, so where a frame ends does not depend on what comes behind it:
`decodeFrame_eq_some_iff` for one frame, **`decode_eq_some_iff`** for a stream.
-/

set_option autoImplicit false

namespace Frame

/-- A format of frames over the bytes `β`. -/
structure Format (β : Type*) where
  start : List β
  /-- The sizes that can be written are those below. -/
  bound : ℕ
  size : Fin bound ≃ β
  check : List β → β
  stop : List β

namespace Format

variable {β : Type*} (F : Format β)

/-- A message with a size that can be written. -/
abbrev Payload : Type _ := {p : List β // p.length < F.bound}

/-- The frame of a message. -/
def encode (p : F.Payload) : List β :=
  F.start ++ F.size ⟨p.1.length, p.2⟩ :: (p.1 ++ F.check p.1 :: F.stop)

/-- The message at the start of a stream, going by the size that is there. -/
def announced (bs : List β) : Option F.Payload :=
  match bs.drop F.start.length with
  | [] => none
  | n :: body =>
    some ⟨body.take (F.size.symm n),
      Nat.lt_of_le_of_lt (List.length_take_le _ body) (F.size.symm n).isLt⟩

/-- The message of the first frame and what comes behind that. -/
def decodeFrame [DecidableEq β] (bs : List β) : Option (F.Payload × List β) :=
  (F.announced bs).bind fun p => (bs.dropPrefix? (F.encode p)).map fun rest => (p, rest)

/-- The messages of a stream of at most `n` frames. -/
def decodeUpTo [DecidableEq β] : ℕ → List β → Option (List F.Payload)
  | _, [] => some []
  | 0, _ :: _ => none
  | n + 1, b :: bs =>
    (F.decodeFrame (b :: bs)).bind fun q => (decodeUpTo n q.2).map fun ps => q.1 :: ps

/-- The messages of a stream.  No frame is empty, so it has no more of them than bytes. -/
def decode [DecidableEq β] (bs : List β) : Option (List F.Payload) := F.decodeUpTo bs.length bs

variable {F} {p q : F.Payload} {ps : List F.Payload} {bs rest : List β}

theorem length_encode (p : F.Payload) :
    (F.encode p).length = F.start.length + p.1.length + F.stop.length + 2 := by
  simp only [encode, List.length_append, List.length_cons]
  omega

theorem announced_encode_append (p : F.Payload) (rest : List β) :
    F.announced (F.encode p ++ rest) = some p := by
  have hdrop : (F.encode p ++ rest).drop F.start.length
      = F.size ⟨p.1.length, p.2⟩ :: (p.1 ++ (F.check p.1 :: (F.stop ++ rest))) := by
    simp [encode]
  rw [announced, hdrop]
  simp

section Decode

variable [DecidableEq β]

theorem decodeFrame_eq_some_iff : F.decodeFrame bs = some (p, rest) ↔ bs = F.encode p ++ rest := by
  constructor
  · intro h
    obtain ⟨p', -, h⟩ := Option.bind_eq_some_iff.mp h
    obtain ⟨rest', hrest, heq⟩ := Option.map_eq_some_iff.mp h
    obtain ⟨rfl, rfl⟩ := Prod.mk.inj heq
    obtain ⟨l, rfl, hl⟩ := List.dropPrefix?_eq_some_iff.mp hrest
    rw [beq_iff_eq.mp hl]
  · rintro rfl
    have hdrop : (F.encode p ++ rest).dropPrefix? (F.encode p) = some rest :=
      List.dropPrefix?_eq_some_iff.mpr ⟨F.encode p, rfl, beq_self_eq_true _⟩
    rw [decodeFrame, announced_encode_append, Option.bind_some, hdrop, Option.map_some]

/-- A stream starts with one frame at most. -/
theorem encode_append_inj {r s : List β} (h : F.encode p ++ r = F.encode q ++ s) :
    p = q ∧ r = s := by
  have hdecode := decodeFrame_eq_some_iff.mpr h
  rw [decodeFrame_eq_some_iff.mpr (rfl : F.encode p ++ r = F.encode p ++ r)] at hdecode
  exact Prod.mk.inj (Option.some.inj hdecode)

/-- A frame with something behind it is not a frame. -/
theorem encode_append_ne (hrest : rest ≠ []) : F.encode p ++ rest ≠ F.encode q := by
  intro h
  rw [← List.append_nil (F.encode q)] at h
  exact hrest (encode_append_inj h).2

theorem decodeUpTo_eq_some_iff {n : ℕ} (hn : bs.length ≤ n) :
    F.decodeUpTo n bs = some ps ↔ bs = ps.flatMap F.encode := by
  induction n generalizing bs ps with
  | zero =>
    obtain rfl := List.length_eq_zero_iff.mp (Nat.le_zero.mp hn)
    cases ps with
    | nil => simp [decodeUpTo]
    | cons p ps => simp [decodeUpTo, encode]
  | succ n ih =>
    cases bs with
    | nil =>
      cases ps with
      | nil => simp [decodeUpTo]
      | cons p ps => simp [decodeUpTo, encode]
    | cons b bs =>
      rw [decodeUpTo, Option.bind_eq_some_iff]
      constructor
      · rintro ⟨⟨p, rest⟩, hframe, h⟩
        obtain ⟨ps', hps', rfl⟩ := Option.map_eq_some_iff.mp h
        rw [decodeFrame_eq_some_iff] at hframe
        have hlen := congrArg List.length hframe
        rw [List.length_append, length_encode] at hlen
        have hrest : rest = ps'.flatMap F.encode := (ih (by omega)).mp hps'
        rw [hframe, hrest, List.flatMap_cons]
      · intro h
        cases ps with
        | nil => cases h
        | cons p ps =>
          rw [List.flatMap_cons] at h
          have hlen := congrArg List.length h
          rw [List.length_append, length_encode] at hlen
          have hrest : F.decodeUpTo n (ps.flatMap F.encode) = some ps := (ih (by omega)).mpr rfl
          exact ⟨(p, ps.flatMap F.encode), decodeFrame_eq_some_iff.mpr h,
            Option.map_eq_some_iff.mpr ⟨ps, hrest, rfl⟩⟩

/-- **Decoding a stream undoes the encoding, and accepts nothing else.** -/
theorem decode_eq_some_iff : F.decode bs = some ps ↔ bs = ps.flatMap F.encode :=
  decodeUpTo_eq_some_iff (Nat.le_refl _)

theorem decode_encode (p : F.Payload) : F.decode (F.encode p) = some [p] :=
  decode_eq_some_iff.mpr (List.flatMap_singleton F.encode p).symm

end Decode

end Format

end Frame
