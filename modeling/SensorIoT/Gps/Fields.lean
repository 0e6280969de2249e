import Mathlib.Data.List.GetD
import SensorIoT.Instant
import SensorIoT.Stamps.Defs

/-!
# The fields of a sentence

A sentence of the GPS is a line of fields with commas between them, and fields may be empty or
shorter than usual.  The program does not look for the commas: it takes every field from where it
stands in a sentence of the usual widths.  It also does not look at how much of its buffer the line
has filled, so that behind a short line it reads what is left of the one before.

`rmcFields_iff` says which lines are read correctly.  The widths of the first six fields have to be
the usual ones; those of the other two do not matter as long as the date comes to stand at byte 57.
-/

set_option autoImplicit false

namespace SensorIoT

/-- `getLng`: -1 if the longitude starts with four zeros. -/
def getLng (buffer rmc : CBuf) : CBuf × ℤ :=
  let buffer := sprintf buffer (field rmc 32 10 ++ [charAt rmc 43])
  if charAt buffer 0 = '0' ∧ charAt buffer 1 = '0' ∧ charAt buffer 2 = '0' ∧ charAt buffer 3 = '0'
  then (buffer, -1)
  else (buffer, 11)

/-! ## The grammar -/

/-- The parts of a line between its commas; part 0 is the header. -/
def parts (line : List Char) : List (List Char) := line.splitOn ','

/-- Field `i` of a line. -/
def fieldOf (line : List Char) (i : ℕ) : List Char := (parts line).getD i []

/-- A sentence `$GPRMC,f1,...,f9,...` whose second field is `A`. -/
structure IsRmc (line : List Char) : Prop where
  header : fieldOf line 0 = "$GPRMC".toList
  fields : 11 ≤ (parts line).length
  status : fieldOf line 2 = ['A']

instance (line : List Char) : Decidable (IsRmc line) :=
  decidable_of_iff
    (fieldOf line 0 = "$GPRMC".toList ∧ 11 ≤ (parts line).length ∧ fieldOf line 2 = ['A'])
    ⟨fun h => ⟨h.1, h.2.1, h.2.2⟩, fun h => ⟨h.header, h.fields, h.status⟩⟩

/-- What the program reads of a line is what the line says, whatever was in the buffer. -/
structure ReadRight (line : List Char) : Prop extends IsRmc line where
  time : ∀ buf dst : CBuf, buf.length = 255 →
    cstr (getTimeGps dst (readUART buf line)).1 = fieldOf line 1
  date : ∀ buf dst : CBuf, buf.length = 255 →
    cstr (getDateGps dst (readUART buf line)).1 = fieldOf line 9
  lat : ∀ buf dst : CBuf, buf.length = 255 →
    cstr (getLat dst (readUART buf line)).1 = fieldOf line 3 ++ fieldOf line 4
  lng : ∀ buf dst : CBuf, buf.length = 255 →
    cstr (getLng dst (readUART buf line)).1 = fieldOf line 5 ++ fieldOf line 6

/-- A field of the given width without a terminator in it. -/
def HasWidth (line : List Char) (i w : ℕ) : Prop :=
  (fieldOf line i).length = w ∧ nul ∉ fieldOf line i

/-- The usual widths, and the date at byte 57. -/
structure Regular (line : List Char) : Prop extends IsRmc line where
  time : HasWidth line 1 10
  lat : HasWidth line 3 9 ∧ HasWidth line 4 1
  lng : HasWidth line 5 10 ∧ HasWidth line 6 1
  date : 57 ≤ line.length ∧ cstr ((line.drop 57).take 6) = fieldOf line 9

section Parts

variable {α : Type} [DecidableEq α] {c : α}

/-- A list with a separator is its first part, the separator and the rest. -/
theorem splitOn_eq_cons_cons {l p q : List α} {ps : List (List α)}
    (h : l.splitOn c = p :: q :: ps) : ∃ rest, l = p ++ c :: rest ∧ rest.splitOn c = q :: ps := by
  induction l generalizing p with
  | nil => cases h
  | cons x l ih =>
    rw [List.splitOn_cons_eq_if_modifyHead] at h
    by_cases hx : x = c
    · subst hx
      rw [if_pos (beq_self_eq_true x)] at h
      obtain ⟨rfl, hrest⟩ := List.cons.inj h
      exact ⟨l, rfl, hrest⟩
    · rw [if_neg (by simpa using hx)] at h
      cases hl : l.splitOn c with
      | nil => exact absurd hl (List.splitOn_ne_nil c l)
      | cons p' ps' =>
        rw [hl, List.modifyHead_cons] at h
        obtain ⟨rfl, rfl⟩ := List.cons.inj h
        obtain ⟨rest, rfl, hrest⟩ := ih hl
        exact ⟨rest, rfl, hrest⟩

theorem notMem_of_mem_splitOn {l p : List α} (hp : p ∈ l.splitOn c) : c ∉ p := by
  induction l generalizing p with
  | nil =>
    obtain rfl := List.mem_singleton.mp hp
    exact List.not_mem_nil
  | cons x l ih =>
    rw [List.splitOn_cons_eq_if_modifyHead] at hp
    split at hp
    · obtain rfl | hp := List.mem_cons.mp hp
      · exact List.not_mem_nil
      · exact ih hp
    · rename_i hx
      cases hl : l.splitOn c with
      | nil => exact absurd hl (List.splitOn_ne_nil c l)
      | cons p' ps' =>
        rw [hl] at ih
        rw [hl, List.modifyHead_cons] at hp
        obtain rfl | hp := List.mem_cons.mp hp
        · have hxc : c ≠ x := fun heq => hx (beq_iff_eq.mpr heq.symm)
          rw [List.mem_cons, not_or]
          exact ⟨hxc, ih List.mem_cons_self⟩
        · exact ih (List.mem_cons_of_mem p' hp)

end Parts

theorem comma_notMem_fieldOf (line : List Char) (i : ℕ) : ',' ∉ fieldOf line i := by
  rw [fieldOf, List.getD_eq_getElem?_getD]
  cases h : (parts line)[i]? with
  | none => exact List.not_mem_nil
  | some p => exact notMem_of_mem_splitOn (List.mem_of_getElem? h)

/-- `rest` is the line from part `i` on. -/
def From (line : List Char) (i : ℕ) (rest : List Char) : Prop :=
  rest.splitOn ',' = (parts line).drop i

theorem From.next {line rest : List Char} {i : ℕ} (h : From line i rest)
    (hi : i + 1 < (parts line).length) :
    ∃ rest', rest = fieldOf line i ++ ',' :: rest' ∧ From line (i + 1) rest' := by
  have hparts : rest.splitOn ',' = fieldOf line i :: (parts line).drop (i + 1) := by
    rw [h, List.drop_eq_getElem_cons (by omega), fieldOf, List.getD_eq_getElem?_getD,
      List.getElem?_eq_getElem (by omega), Option.getD_some]
  rw [List.drop_eq_getElem_cons hi] at hparts
  obtain ⟨rest', heq, hrest'⟩ := splitOn_eq_cons_cons hparts
  exact ⟨rest', heq, hrest'.trans (List.drop_eq_getElem_cons hi).symm⟩

/-- Where part `i` of a line begins. -/
def fieldStart (line : List Char) (i : ℕ) : ℕ :=
  (((parts line).take i).map fun p => p.length + 1).sum

theorem fieldStart_succ {line : List Char} {i : ℕ} (hi : i < (parts line).length) :
    fieldStart line (i + 1) = fieldStart line i + ((fieldOf line i).length + 1) := by
  have hfield : (parts line)[i] = fieldOf line i := (List.getD_eq_getElem _ _ hi).symm
  rw [fieldStart, List.take_add_one, List.getElem?_eq_getElem hi, Option.toList_some,
    List.map_append, List.sum_append, List.map_singleton, List.sum_singleton, hfield, fieldStart]

/-- The part behind a part. -/
theorem drop_part {line p r : List Char} {s : ℕ} (h : line.drop s = p ++ ',' :: r) :
    line.drop (s + (p.length + 1)) = r := by
  rw [← List.drop_drop, h, List.append_cons]
  exact List.drop_left' (by simp)

theorem from_fieldStart {line : List Char} {i : ℕ} (hi : i < (parts line).length) :
    From line i (line.drop (fieldStart line i)) := by
  induction i with
  | zero => rfl
  | succ i ih =>
    obtain ⟨rest, hdrop, hrest⟩ := (ih (Nat.lt_of_succ_lt hi)).next hi
    rw [fieldStart_succ (Nat.lt_of_succ_lt hi), drop_part hdrop]
    exact hrest

/-- What stands there, if it is not the last part. -/
theorem drop_fieldStart {line : List Char} {i : ℕ} (hi : i + 1 < (parts line).length) :
    ∃ r, line.drop (fieldStart line i) = fieldOf line i ++ ',' :: r := by
  obtain ⟨rest, hdrop, -⟩ := (from_fieldStart (Nat.lt_of_succ_lt hi)).next hi
  exact ⟨rest, hdrop⟩

/-- The same of two parts. -/
theorem drop_fieldStart_pair {line : List Char} {i : ℕ} (hi : i + 2 < (parts line).length) :
    ∃ r, line.drop (fieldStart line i) = fieldOf line i ++ ',' :: (fieldOf line (i + 1) ++ ',' :: r)
    := by
  obtain ⟨rest, hdrop, hrest⟩ := (from_fieldStart (by omega)).next (Nat.lt_of_succ_lt hi)
  obtain ⟨rest', rfl, -⟩ := hrest.next hi
  exact ⟨rest', hdrop⟩

theorem parts_comma (l : List Char) : parts (',' :: l) = [] :: parts l := by
  rw [parts, List.splitOn_cons_eq_if_modifyHead, if_pos (beq_self_eq_true ',')]
  rfl

theorem parts_cons {c : Char} (hc : c ≠ ',') (l : List Char) :
    parts (c :: l) = (parts l).modifyHead (List.cons c) := by
  rw [parts, List.splitOn_cons_eq_if_modifyHead, if_neg (by simpa using hc)]
  rfl

/-- Behind every comma a field begins. -/
theorem charAt_eq_comma_iff (line : List Char) (j : ℕ) :
    charAt line j = ',' ↔ ∃ i < (parts line).length, fieldStart line i = j + 1 := by
  induction line generalizing j with
  | nil =>
    refine iff_of_false (by simp [charAt]; decide) ?_
    rintro ⟨i, hi, hstart⟩
    obtain rfl : i = 0 := Nat.lt_one_iff.mp hi
    cases hstart
  | cons c l ih =>
    by_cases hc : c = ','
    · subst hc
      have hstart : ∀ i, fieldStart (',' :: l) (i + 1) = fieldStart l i + 1 := by
        intro i
        rw [fieldStart, parts_comma, List.take_succ_cons, List.map_cons, List.sum_cons, fieldStart]
        exact Nat.add_comm _ _
      rw [parts_comma, List.length_cons]
      cases j with
      | zero =>
        have hpos := List.length_pos_of_ne_nil (List.splitOn_ne_nil ',' l)
        exact iff_of_true rfl ⟨1, Nat.succ_lt_succ hpos, hstart 0⟩
      | succ j =>
        change charAt l j = ',' ↔ _
        rw [ih]
        constructor
        · rintro ⟨i, hi, h⟩
          exact ⟨i + 1, Nat.succ_lt_succ hi, by rw [hstart, h]⟩
        · rintro ⟨i, hi, h⟩
          cases i with
          | zero => cases h
          | succ i => exact ⟨i, Nat.lt_of_succ_lt_succ hi, by rw [hstart] at h; omega⟩
    · have hne : parts l ≠ [] := List.splitOn_ne_nil _ _
      obtain ⟨p, ps, hps⟩ := List.exists_cons_of_ne_nil hne
      have hcons : parts (c :: l) = (c :: p) :: ps := by rw [parts_cons hc, hps]; rfl
      have hstart : ∀ i, fieldStart (c :: l) (i + 1) = fieldStart l (i + 1) + 1 := by
        intro i
        simp only [fieldStart, hcons, hps, List.take_succ_cons, List.map_cons, List.sum_cons,
          List.length_cons]
        omega
      rw [hcons, List.length_cons]
      rw [hps, List.length_cons] at ih
      cases j with
      | zero =>
        refine iff_of_false hc ?_
        rintro ⟨i, -, h⟩
        cases i with
        | zero => cases h
        | succ i =>
          rw [hstart] at h
          have : fieldStart l (i + 1) = 0 := by omega
          simp [fieldStart, hps] at this
      | succ j =>
        change charAt l j = ',' ↔ _
        rw [ih]
        refine exists_congr fun i => and_congr_right fun _ => ?_
        cases i with
        | zero => exact iff_of_false (by rintro ⟨⟩) (by rintro ⟨⟩)
        | succ i => rw [hstart]; omega

/-! ## Where the program reads -/

/-- The bytes of a buffer from `s` on, as far as they are in it. -/
theorem field_eq_take {b : CBuf} {s w : ℕ} (h : s + w ≤ b.length) :
    field b s w = (b.drop s).take w := by
  refine List.ext_getElem (by simp [field]; omega) fun i hi hi' => ?_
  have hib : s + i < b.length := by
    simp only [field, List.length_map, List.length_range] at hi
    omega
  simp [field, charAt, Nat.add_comm i s, hib]

theorem charAt_eq_getD_drop (b : CBuf) (s i : ℕ) : charAt b (s + i) = (b.drop s).getD i nul := by
  simp [charAt]

/-- A read of at most 255 bytes is at the start of the buffer, and a terminator is behind it if
there is room. -/
theorem readUART_eq {buf line : List Char} (hline : line.length ≤ 255) :
    readUART buf line
      = line ++ (nul :: buf.drop (line.length + 1)).take (255 - line.length) := by
  rw [readUART, sprintf, List.take_append, List.take_of_length_le hline]

theorem length_readUART {buf line : List Char} (hline : line.length ≤ 255)
    (hbuf : buf.length = 255) : (readUART buf line).length = 255 := by
  rw [readUART_eq hline]
  simp [hbuf]
  omega

theorem cstr_append_nul (text r : List Char) : cstr (text ++ nul :: r) = cstr text := by
  induction text with
  | nil => rfl
  | cons c cs ih =>
    by_cases hc : c = nul
    · rw [hc, List.cons_append, cstr_nul, cstr_nul]
    · rw [List.cons_append, cstr_cons hc, cstr_cons hc, ih]

theorem cstr_sprintf (dst : CBuf) (text : List Char) : cstr (sprintf dst text) = cstr text :=
  cstr_append_nul text _

theorem length_cstr_le (b : CBuf) : (cstr b).length ≤ b.length :=
  (List.takeWhile_prefix _).length_le

/-- A comma that is read where there is no terminator before it shows in the string. -/
theorem comma_mem_cstr {p l : List Char} (hp : nul ∉ p) : ',' ∈ cstr (p ++ ',' :: l) := by
  rw [cstr_append hp, cstr_cons (by decide)]
  simp

/-- A part that is read with a fixed width: right if that is its width. -/
theorem cstr_take_iff {p : List Char} {w : ℕ} (hcomma : ',' ∉ p) (r : List Char) :
    cstr ((p ++ ',' :: r).take w) = p ↔ p.length = w ∧ nul ∉ p := by
  constructor
  · intro h
    have hnul : nul ∉ p := by
      rw [← h]
      exact nul_notMem_cstr _
    refine ⟨?_, hnul⟩
    rcases Nat.lt_or_ge p.length w with hlt | hge
    · obtain ⟨m, rfl⟩ : ∃ m, w = p.length + (m + 1) := ⟨w - p.length - 1, by omega⟩
      rw [List.take_length_add_append, List.take_succ_cons] at h
      exact absurd (h ▸ comma_mem_cstr hnul) hcomma
    · have hle := length_cstr_le ((p ++ ',' :: r).take w)
      rw [h, List.length_take] at hle
      omega
  · rintro ⟨rfl, hnul⟩
    rw [List.take_left, cstr_eq_self hnul]

theorem getD_append_length (p r : List Char) (i : ℕ) :
    (p ++ r).getD (p.length + i) nul = r.getD i nul := by
  simp [List.getD_eq_getElem?_getD, List.getElem?_append_right]

/-- Two parts that are read with a fixed width and one character. -/
theorem cstr_take_getD_iff {p q : List Char} (w : ℕ) (hp : ',' ∉ p) (hq : ',' ∉ q)
    (r : List Char) :
    cstr ((p ++ ',' :: (q ++ ',' :: r)).take w ++ [(p ++ ',' :: (q ++ ',' :: r)).getD (w + 1) nul])
        = p ++ q ↔
      (p.length = w ∧ nul ∉ p) ∧ q.length = 1 ∧ nul ∉ q := by
  constructor
  · intro h
    have hnul : nul ∉ p ++ q := by
      rw [← h]
      exact nul_notMem_cstr _
    rw [List.mem_append, not_or] at hnul
    have hcomma : ',' ∉ p ++ q := by simp [hp, hq]
    have hle := length_cstr_le ((p ++ ',' :: (q ++ ',' :: r)).take w
      ++ [(p ++ ',' :: (q ++ ',' :: r)).getD (w + 1) nul])
    rw [h, List.length_append, List.length_append, List.length_take, List.length_singleton] at hle
    rcases lt_trichotomy p.length w with hlt | heq | hgt
    · obtain ⟨m, rfl⟩ : ∃ m, w = p.length + (m + 1) := ⟨w - p.length - 1, by omega⟩
      rw [List.take_length_add_append, List.take_succ_cons, List.append_assoc] at h
      exact absurd (h ▸ comma_mem_cstr hnul.1) hcomma
    · subst heq
      rw [List.take_left, getD_append_length, cstr_append hnul.1, List.append_cancel_left_eq] at h
      refine ⟨⟨rfl, hnul.1⟩, ?_, hnul.2⟩
      cases q with
      | nil => cases h
      | cons x q =>
        rw [List.length_cons] at hle ⊢
        omega
    · -- the single character is the comma behind the first part
      have hlen : w + 1 = p.length := by omega
      have hnul' : nul ∉ p.take w := fun hmem => hnul.1 (List.mem_of_mem_take hmem)
      rw [List.take_append_of_le_length hgt.le, hlen, ← Nat.add_zero p.length, getD_append_length]
        at h
      exact absurd (h ▸ comma_mem_cstr hnul') hcomma
  · rintro ⟨⟨rfl, hp'⟩, hq1, hq'⟩
    obtain ⟨x, rfl⟩ := List.length_eq_one_iff.mp hq1
    rw [List.take_left, getD_append_length]
    exact cstr_eq_self (by simpa using ⟨hp', by simpa using hq'⟩)

/-! ## What is read of a line -/

section Line

variable {buf line p q r : List Char} {s w : ℕ}

theorem drop_readUART (hline : line.length ≤ 255) (buf : CBuf) (hs : s ≤ line.length) :
    (readUART buf line).drop s
      = line.drop s ++ (nul :: buf.drop (line.length + 1)).take (255 - line.length) := by
  rw [readUART_eq hline, List.drop_append_of_le_length hs]

theorem le_of_drop_eq {x : Char} (h : line.drop s = p ++ x :: r) : s ≤ line.length := by
  have := congrArg List.length h
  simp only [List.length_drop, List.length_append, List.length_cons] at this
  omega

/-- One field. -/
theorem read_part (hline : line.length ≤ 255) (hbuf : buf.length = 255)
    (h : line.drop s = p ++ ',' :: r) (hs : s + w ≤ 255) (hp : ',' ∉ p) :
    cstr (field (readUART buf line) s w) = p ↔ p.length = w ∧ nul ∉ p := by
  rw [field_eq_take (by rwa [length_readUART hline hbuf]),
    drop_readUART hline buf (le_of_drop_eq h),
    h, List.append_assoc, List.cons_append, cstr_take_iff hp]

/-- Two fields. -/
theorem read_pair (hline : line.length ≤ 255) (hbuf : buf.length = 255)
    (h : line.drop s = p ++ ',' :: (q ++ ',' :: r)) (hs : s + w ≤ 255) (hp : ',' ∉ p)
    (hq : ',' ∉ q) :
    cstr (field (readUART buf line) s w ++ [charAt (readUART buf line) (s + (w + 1))]) = p ++ q ↔
      (p.length = w ∧ nul ∉ p) ∧ q.length = 1 ∧ nul ∉ q := by
  rw [field_eq_take (by rwa [length_readUART hline hbuf]), charAt_eq_getD_drop,
    drop_readUART hline buf (le_of_drop_eq h), h, List.append_assoc, List.cons_append,
    List.append_assoc, List.cons_append, cstr_take_getD_iff w hp hq]

/-- The date, if the line goes as far. -/
theorem read_date (hline : line.length ≤ 255) (hbuf : buf.length = 255) (h57 : 57 ≤ line.length) :
    cstr (field (readUART buf line) 57 6) = cstr ((line.drop 57).take 6) := by
  rw [field_eq_take (by rw [length_readUART hline hbuf]; omega), drop_readUART hline buf h57,
    List.take_append, List.length_drop]
  rcases Nat.lt_or_ge (line.length - 57) 6 with hlt | hge
  · obtain ⟨m, hm⟩ : ∃ m, 6 - (line.length - 57) = m + 1 := ⟨5 - (line.length - 57), by omega⟩
    obtain ⟨k, hk⟩ : ∃ k, 255 - line.length = k + 1 := ⟨254 - line.length, by omega⟩
    rw [hm, hk, List.take_succ_cons, List.take_succ_cons, cstr_append_nul]
  · rw [Nat.sub_eq_zero_of_le hge, List.take_zero, List.append_nil]

/-- If it does not, the date is read from what was in the buffer. -/
theorem read_date_stale (hline : line.length < 57) :
    cstr (field (readUART (List.replicate 255 ',') line) 57 6) = ",,,,,,".toList := by
  have hstale : ∀ i < 6, charAt (readUART (List.replicate 255 ',') line) (i + 57) = ',' := by
    intro i hi
    have htake : charAt (readUART (List.replicate 255 ',') line) (i + 57)
        = charAt (sprintf (List.replicate 255 ',') line) (i + 57) := by
      simp only [readUART, charAt, List.getD_eq_getElem?_getD]
      rw [List.getElem?_take_of_lt (by omega)]
    rw [htake, charAt_sprintf_gt (by omega), charAt, List.getD_eq_getElem?_getD,
      List.getElem?_replicate_of_lt (by omega), Option.getD_some]
  have hfield : field (readUART (List.replicate 255 ',') line) 57 6 = ",,,,,,".toList :=
    List.map_congr_left (g := fun _ => ',') fun i hi => hstale i (List.mem_range.mp hi)
  rw [hfield]
  rfl

end Line

/-- A sentence taken apart: where its first six fields begin, if those before are of the usual
widths. -/
theorem IsRmc.cut {line : List Char} (h : IsRmc line) :
    (∃ r, line.drop 7 = fieldOf line 1 ++ ',' :: r) ∧
      ((fieldOf line 1).length = 10 →
        ∃ r, line.drop 20 = fieldOf line 3 ++ ',' :: (fieldOf line 4 ++ ',' :: r)) ∧
      ((fieldOf line 1).length = 10 → (fieldOf line 3).length = 9 → (fieldOf line 4).length = 1 →
        ∃ r, line.drop 32 = fieldOf line 5 ++ ',' :: (fieldOf line 6 ++ ',' :: r)) := by
  have hlen := h.fields
  have hwidth0 : (fieldOf line 0).length = 6 := by rw [h.header]; rfl
  have hwidth2 : (fieldOf line 2).length = 1 := by rw [h.status]; rfl
  have hstart1 : fieldStart line 1 = 7 := by
    rw [fieldStart_succ (by omega), hwidth0]
    rfl
  have hstart3 : fieldStart line 3 = 7 + ((fieldOf line 1).length + 1) + 2 := by
    rw [fieldStart_succ (by omega), fieldStart_succ (by omega), hstart1, hwidth2]
  have hstart5 : fieldStart line 5
      = fieldStart line 3 + ((fieldOf line 3).length + 1) + ((fieldOf line 4).length + 1) := by
    rw [fieldStart_succ (by omega), fieldStart_succ (by omega)]
  refine ⟨?_, fun h1 => ?_, fun h1 h3 h4 => ?_⟩
  · rw [← hstart1]
    exact drop_fieldStart (by omega)
  · have hstart : fieldStart line 3 = 20 := by omega
    rw [← hstart]
    exact drop_fieldStart_pair (by omega)
  · have hstart : fieldStart line 5 = 32 := by omega
    rw [← hstart]
    exact drop_fieldStart_pair (by omega)

/-- **Which lines are read right.** -/
theorem rmcFields_iff {buf line : List Char} (hline : line.length ≤ 255) (hbuf : buf.length = 255) :
    (isRmcStatusOk (readUART buf line) = 1 → ReadRight line) ↔
      (isRmcStatusOk (readUART buf line) = 1 → Regular line) := by
  have hlat : ∀ dst rmc, cstr (getLat dst rmc).1 = cstr (field rmc 20 9 ++ [charAt rmc 30]) := by
    intro dst rmc
    rw [getLat]
    split <;> exact cstr_sprintf _ _
  have hlng : ∀ dst rmc, cstr (getLng dst rmc).1 = cstr (field rmc 32 10 ++ [charAt rmc 43]) := by
    intro dst rmc
    rw [getLng]
    split <;> exact cstr_sprintf _ _
  have hcomma := comma_notMem_fieldOf line
  refine imp_congr_right fun _ => ⟨fun h => ?_, fun h => ?_⟩
  · obtain ⟨⟨r1, hd1⟩, hcut3, hcut5⟩ := h.toIsRmc.cut
    have htime := (read_part hline hbuf hd1 (by omega) (hcomma 1)).mp
      ((cstr_sprintf _ _).symm.trans (h.time buf [] hbuf))
    obtain ⟨r3, hd3⟩ := hcut3 htime.1
    have hlat' := (read_pair hline hbuf hd3 (by omega) (hcomma 3) (hcomma 4)).mp
      ((hlat _ _).symm.trans (h.lat buf [] hbuf))
    obtain ⟨r5, hd5⟩ := hcut5 htime.1 hlat'.1.1 hlat'.2.1
    have hlng' := (read_pair hline hbuf hd5 (by omega) (hcomma 5) (hcomma 6)).mp
      ((hlng _ _).symm.trans (h.lng buf [] hbuf))
    refine ⟨h.toIsRmc, htime, hlat', hlng', ?_⟩
    have h57 : 57 ≤ line.length := by
      by_contra hlt
      have hstale := h.date (List.replicate 255 ',') [] List.length_replicate
      rw [getDateGps, cstr_sprintf, read_date_stale (not_le.mp hlt)] at hstale
      exact hcomma 9 (hstale ▸ by decide)
    refine ⟨h57, ?_⟩
    rw [← read_date hline hbuf h57, ← h.date buf [] hbuf, getDateGps, cstr_sprintf]
  · obtain ⟨⟨r1, hd1⟩, hcut3, hcut5⟩ := h.toIsRmc.cut
    obtain ⟨r3, hd3⟩ := hcut3 h.time.1
    obtain ⟨r5, hd5⟩ := hcut5 h.time.1 h.lat.1.1 h.lat.2.1
    refine ⟨h.toIsRmc, fun buf dst hbuf => ?_, fun buf dst hbuf => ?_, fun buf dst hbuf => ?_,
      fun buf dst hbuf => ?_⟩
    · exact (cstr_sprintf _ _).trans ((read_part hline hbuf hd1 (by omega) (hcomma 1)).mpr h.time)
    · rw [getDateGps, cstr_sprintf, read_date hline hbuf h.date.1, h.date.2]
    · exact (hlat _ _).trans
        ((read_pair hline hbuf hd3 (by omega) (hcomma 3) (hcomma 4)).mpr h.lat)
    · exact (hlng _ _).trans
        ((read_pair hline hbuf hd5 (by omega) (hcomma 5) (hcomma 6)).mpr h.lng)

/-- A short line is accepted with the status left of the line before. -/
def shortLine : List Char := "$GPRMC,12".toList

/-- The sentence of a receiver that does not move leaves out the course. -/
def restingLine : List Char :=
  "$GPRMC,123456.000,A,0226.2830,N,07636.1080,W,0.0,,170520,,,A*60".toList

/-- Neither line is read right. -/
theorem not_readRight :
    (isRmcStatusOk (readUART ("$GPRMC,123455.000,A".toList ++ zeroBuf 236) shortLine) = 1 ∧
        ¬ ReadRight shortLine) ∧
      isRmcStatusOk (readUART (zeroBuf 255) restingLine) = 1 ∧ IsRmc restingLine ∧
        ¬ ReadRight restingLine := by
  have hlines :
      (isRmcStatusOk (readUART ("$GPRMC,123455.000,A".toList ++ zeroBuf 236) shortLine) = 1 ∧
        fieldOf shortLine 2 ≠ ['A']) ∧
      isRmcStatusOk (readUART (zeroBuf 255) restingLine) = 1 ∧ IsRmc restingLine ∧
        cstr (getDateGps (zeroBuf 15) (readUART (zeroBuf 255) restingLine)).1
          ≠ fieldOf restingLine 9 := by
    decide +kernel
  obtain ⟨⟨hshort, hstatus⟩, hresting, hrmc, hdate⟩ := hlines
  refine ⟨⟨hshort, fun h => hstatus h.status⟩, hresting, hrmc, fun h => hdate ?_⟩
  exact h.date (zeroBuf 255) (zeroBuf 15) List.length_replicate

/-- A sentence with the usual widths. -/
def usualLine : List Char :=
  "$GPRMC,123456.000,A,0226.2830,N,07636.1080,W,000.0,000.0,170520,,,A*60".toList

/-- The parts of the sentence, as texts. -/
def usualParts : List String :=
  ["$GPRMC", "123456.000", "A", "0226.2830", "N", "07636.1080", "W", "000.0", "000.0", "170520", "",
    "", "A*60"]

theorem regular_usualLine : Regular usualLine := by
  have hparts : parts usualLine = usualParts.map String.toList := by decide +kernel
  have hfield : ∀ i, fieldOf usualLine i = (usualParts.map String.toList).getD i [] :=
    fun i => by rw [fieldOf, hparts]
  refine ⟨⟨hfield 0, ?_, hfield 2⟩, ?_, ⟨?_, ?_⟩, ⟨?_, ?_⟩, ?_, ?_⟩
  case refine_1 =>
    rw [hparts]
    decide
  case refine_7 => decide
  all_goals
    simp only [HasWidth, hfield]
    decide

/-- It is read right. -/
theorem rmcFields_iff_usual : ReadRight usualLine := by
  have hbuf : (zeroBuf 255).length = 255 := List.length_replicate
  exact (rmcFields_iff (by decide) hbuf).mpr (fun _ => regular_usualLine) (by decide +kernel)

end SensorIoT
