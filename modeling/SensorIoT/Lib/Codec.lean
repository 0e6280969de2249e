import Mathlib.Data.List.Basic
import Mathlib.Logic.Equiv.Defs

/-!
# Codecs of fixed width

A value that takes a fixed number of bytes in memory, written to a file as these bytes and read
back by filling the memory of a value with bytes.  Reading cannot fail: whatever bytes come to lie
there are taken for a value.  So `decode` is total, and only means something on as many bytes as the
value has.

`pair`, `array` and `ofEquiv` put codecs together the way a structure without padding is laid out;
`encodeList` and `decodeList` are for data of which there is any number.
**`decodeList_encodeList`** reads back a file, and `getElem?_decodeList_cut` what is left of one
that was cut off.

A codec is `Onto` if every bytes are those of a value.
-/

set_option autoImplicit false

/-- A way to store the values of `α` in a fixed number of `β`. -/
structure Codec (β α : Type*) where
  width : ℕ
  encode : α → List β
  decode : List β → α
  length_encode : ∀ a, (encode a).length = width
  decode_encode : ∀ a, decode (encode a) = a

namespace Codec

variable {β α γ : Type*}

/-- Every bytes are those of a value. -/
def Onto (c : Codec β α) : Prop := ∀ bs, bs.length = c.width → c.encode (c.decode bs) = bs

/-- One byte. -/
def byte [Inhabited β] : Codec β β where
  width := 1
  encode b := [b]
  decode bs := bs.headD default
  length_encode _ := rfl
  decode_encode _ := rfl

theorem onto_byte [Inhabited β] : (byte : Codec β β).Onto := by
  intro bs hbs
  obtain ⟨b, rfl⟩ := List.length_eq_one_iff.mp hbs
  rfl

/-- One value after another. -/
def pair (c : Codec β α) (d : Codec β γ) : Codec β (α × γ) where
  width := c.width + d.width
  encode a := c.encode a.1 ++ d.encode a.2
  decode bs := (c.decode (bs.take c.width), d.decode (bs.drop c.width))
  length_encode a := by rw [List.length_append, c.length_encode, d.length_encode]
  decode_encode a := by
    rw [List.take_left' (c.length_encode _), List.drop_left' (c.length_encode _), c.decode_encode,
      d.decode_encode]

theorem Onto.pair {c : Codec β α} {d : Codec β γ} (hc : c.Onto) (hd : d.Onto) :
    (c.pair d).Onto := by
  intro bs hbs
  have hlen : bs.length = c.width + d.width := hbs
  have hfst : (bs.take c.width).length = c.width := by rw [List.length_take]; omega
  have hsnd : (bs.drop c.width).length = d.width := by rw [List.length_drop]; omega
  calc (c.pair d).encode ((c.pair d).decode bs)
      = c.encode (c.decode (bs.take c.width)) ++ d.encode (d.decode (bs.drop c.width)) := rfl
    _ = bs.take c.width ++ bs.drop c.width := by rw [hc _ hfst, hd _ hsnd]
    _ = bs := List.take_append_drop _ _

/-- The same bytes under another name. -/
def ofEquiv (c : Codec β α) (e : γ ≃ α) : Codec β γ where
  width := c.width
  encode a := c.encode (e a)
  decode bs := e.symm (c.decode bs)
  length_encode a := c.length_encode _
  decode_encode a := by rw [c.decode_encode, Equiv.symm_apply_apply]

theorem Onto.ofEquiv {c : Codec β α} (hc : c.Onto) (e : γ ≃ α) : (c.ofEquiv e).Onto := by
  intro bs hbs
  exact (congrArg c.encode (e.apply_symm_apply _)).trans (hc bs hbs)

/-! ## Many values -/

/-- Values in a row. -/
def encodeList (c : Codec β α) (as : List α) : List β := as.flatMap c.encode

/-- The first `n` values. -/
def decodeList (c : Codec β α) : ℕ → List β → List α
  | 0, _ => []
  | n + 1, bs => c.decode (bs.take c.width) :: decodeList c n (bs.drop c.width)

variable {c : Codec β α} {as : List α} {bs rest : List β} {n : ℕ}

@[simp] theorem length_decodeList : (c.decodeList n bs).length = n := by
  induction n generalizing bs with
  | zero => rfl
  | succ n ih => rw [decodeList, List.length_cons, ih]

@[simp] theorem length_encodeList : (c.encodeList as).length = as.length * c.width := by
  induction as with
  | nil => rw [List.length_nil, Nat.zero_mul]; rfl
  | cons a as ih =>
    have hcons : c.encodeList (a :: as) = c.encode a ++ c.encodeList as := List.flatMap_cons
    rw [hcons, List.length_append, c.length_encode, ih, List.length_cons, Nat.succ_mul,
      Nat.add_comm]

theorem encodeList_append (as as' : List α) :
    c.encodeList (as ++ as') = c.encodeList as ++ c.encodeList as' :=
  List.flatMap_append

/-- The first values of some that were stored. -/
theorem decodeList_encodeList_append (hn : n ≤ as.length) :
    c.decodeList n (c.encodeList as ++ rest) = as.take n := by
  induction n generalizing as with
  | zero => rfl
  | succ n ih =>
    cases as with
    | nil => cases hn
    | cons a as =>
      have hcons : c.encodeList (a :: as) ++ rest = c.encode a ++ (c.encodeList as ++ rest) :=
        (congrArg (· ++ rest) List.flatMap_cons).trans (List.append_assoc _ _ _)
      rw [decodeList, hcons, List.take_left' (c.length_encode a),
        List.drop_left' (c.length_encode a), c.decode_encode, ih (Nat.le_of_succ_le_succ hn),
        List.take_succ_cons]

/-- **What was stored is read back.** -/
theorem decodeList_encodeList : c.decodeList as.length (c.encodeList as ++ rest) = as :=
  (decodeList_encodeList_append (Nat.le_refl _)).trans (List.take_length)

/-- A value is read from its own bytes. -/
theorem getElem?_decodeList {i : ℕ} (hi : i < n) :
    (c.decodeList n bs)[i]? = some (c.decode ((bs.drop (i * c.width)).take c.width)) := by
  induction i generalizing n bs with
  | zero =>
    cases n with
    | zero => cases hi
    | succ n => rw [decodeList, List.getElem?_cons_zero, Nat.zero_mul, List.drop_zero]
  | succ i ih =>
    cases n with
    | zero => cases hi
    | succ n =>
      rw [decodeList, List.getElem?_cons_succ, ih (Nat.lt_of_succ_lt_succ hi), List.drop_drop,
        Nat.succ_mul, Nat.add_comm c.width]

/-- What was stored entirely is read back. -/
theorem getElem?_decodeList_cut {i k : ℕ} (hi : i < n) (hk : (i + 1) * c.width ≤ k)
    (has : i < as.length) :
    (c.decodeList n ((c.encodeList as).take k ++ rest))[i]? = as[i]? := by
  have hlen : (c.encodeList as).length = as.length * c.width := length_encodeList
  have hsucc : (i + 1) * c.width = i * c.width + c.width := Nat.succ_mul ..
  have hle : (i + 1) * c.width ≤ as.length * c.width := Nat.mul_le_mul_right _ has
  have hcut : (c.encodeList as).take ((i + 1) * c.width)
      = ((c.encodeList as).take k ++ rest).take ((i + 1) * c.width) := by
    rw [List.take_append_of_le_length (by rw [List.length_take]; omega), List.take_take,
      Nat.min_eq_left hk]
  have hbytes : (((c.encodeList as).take k ++ rest).drop (i * c.width)).take c.width
      = ((c.encodeList as).drop (i * c.width)).take c.width := by
    rw [List.take_drop, List.take_drop, ← hsucc, hcut]
  have hread : (c.decodeList as.length (c.encodeList as))[i]? = as[i]? := by
    rw [← List.append_nil (c.encodeList as), decodeList_encodeList]
  rw [getElem?_decodeList hi, hbytes, ← hread, getElem?_decodeList has]

/-- Where nothing was stored, what the memory held before is read. -/
theorem getElem?_decodeList_blank {i k : ℕ} {b : β} (hi : i < n) (hbs : bs.length ≤ i * c.width)
    (hk : n * c.width ≤ k) :
    (c.decodeList n (bs ++ List.replicate k b))[i]?
      = some (c.decode (List.replicate c.width b)) := by
  have hle : (i + 1) * c.width ≤ n * c.width := Nat.mul_le_mul_right _ hi
  have hsucc : (i + 1) * c.width = i * c.width + c.width := Nat.succ_mul ..
  have hdrop : (bs ++ List.replicate k b).drop (i * c.width)
      = List.replicate (k - (i * c.width - bs.length)) b := by
    rw [List.drop_append, List.drop_eq_nil_of_le hbs, List.nil_append, List.drop_replicate]
  rw [getElem?_decodeList hi, hdrop, List.take_replicate, Nat.min_eq_left (by omega)]

theorem Onto.encodeList_decodeList (hc : c.Onto) (hbs : n * c.width ≤ bs.length) :
    c.encodeList (c.decodeList n bs) = bs.take (n * c.width) := by
  induction n generalizing bs with
  | zero =>
    rw [Nat.zero_mul]
    rfl
  | succ n ih =>
    rw [Nat.succ_mul] at hbs
    have hfst : (bs.take c.width).length = c.width := by rw [List.length_take]; omega
    have hrest : n * c.width ≤ (bs.drop c.width).length := by rw [List.length_drop]; omega
    calc c.encodeList (c.decodeList (n + 1) bs)
        = c.encode (c.decode (bs.take c.width))
          ++ c.encodeList (c.decodeList n (bs.drop c.width)) :=
          List.flatMap_cons
      _ = bs.take c.width ++ (bs.drop c.width).take (n * c.width) := by rw [hc _ hfst, ih hrest]
      _ = bs.take ((n + 1) * c.width) := by rw [← List.take_add, Nat.succ_mul, Nat.add_comm]

/-- An array of values. -/
def array (c : Codec β α) (n : ℕ) : Codec β (Vector α n) where
  width := n * c.width
  encode v := c.encodeList v.toList
  decode bs := ⟨(c.decodeList n bs).toArray, length_decodeList⟩
  length_encode v := by rw [length_encodeList, Vector.length_toList]
  decode_encode v := by
    apply Vector.toList_inj.mp
    have hread : c.decodeList v.toList.length (c.encodeList v.toList ++ []) = v.toList :=
      decodeList_encodeList
    rwa [List.append_nil, Vector.length_toList] at hread

theorem Onto.array (hc : c.Onto) (n : ℕ) : (c.array n).Onto :=
  fun _ hbs =>
    (hc.encodeList_decodeList (Nat.le_of_eq hbs.symm)).trans
      (List.take_of_length_le (Nat.le_of_eq hbs))

/-! ## Words -/

/-- A word of 32 bits, the lowest byte first. -/
def word32 : Codec UInt8 (BitVec 32) where
  width := 4
  encode w := [⟨w.extractLsb' 0 8⟩, ⟨w.extractLsb' 8 8⟩, ⟨w.extractLsb' 16 8⟩, ⟨w.extractLsb' 24 8⟩]
  decode
    | [a, b, c, d] => d.toBitVec ++ c.toBitVec ++ b.toBitVec ++ a.toBitVec
    | _ => 0
  length_encode _ := rfl
  decode_encode w := by
    apply BitVec.eq_of_getLsbD_eq
    intro i hi
    simp only [BitVec.getLsbD_append, BitVec.getLsbD_extractLsb']
    grind

theorem onto_word32 : word32.Onto := by
  intro bs hbs
  obtain ⟨a, b, c, d, rfl⟩ : ∃ a b c d, bs = [a, b, c, d] := by
    match bs, hbs with
    | [a, b, c, d], _ => exact ⟨a, b, c, d, rfl⟩
  have hbyte : ∀ (w : UInt8) (v : BitVec 8), v = w.toBitVec → (⟨v⟩ : UInt8) = w := by
    rintro w v rfl
    rfl
  have hparts : ∀ a b c d : BitVec 8, (d ++ c ++ b ++ a).extractLsb' 0 8 = a ∧
      (d ++ c ++ b ++ a).extractLsb' 8 8 = b ∧ (d ++ c ++ b ++ a).extractLsb' 16 8 = c ∧
      (d ++ c ++ b ++ a).extractLsb' 24 8 = d := by
    intro a b c d
    refine ⟨?_, ?_, ?_, ?_⟩ <;>
    · apply BitVec.eq_of_getLsbD_eq
      intro i hi
      simp only [BitVec.getLsbD_append, BitVec.getLsbD_extractLsb']
      grind
  obtain ⟨ha, hb, hc, hd⟩ := hparts a.toBitVec b.toBitVec c.toBitVec d.toBitVec
  exact congrArg₂ _ (hbyte a _ ha) (congrArg₂ _ (hbyte b _ hb) (congrArg₂ _ (hbyte c _ hc)
    (congrArg₂ _ (hbyte d _ hd) rfl)))

end Codec
