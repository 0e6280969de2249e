import SensorIoT.Instant
import SensorIoT.Lib.Columns
import SensorIoT.Sac.Read

/-!
# The header in text

`awsac` of `libs/SAC_FILES/sacsubc.c` writes a header as rows of text, five reals of 15 characters,
five integers of ten or three strings of eight in each, and `arsach` reads it with `fgets` and cuts
the rows into these columns.  For an integer below -999999999 ten characters are not enough.

**`arsach_awsac_iff`**: what `awsac` has written is read back, the reals as `printf` rounds them and
the strings with blanks for what cannot be printed, if and only if there is no such integer.  The
buffer that the rows are read into holds what other rows have left in it, and none of this matters.
-/

set_option autoImplicit false

namespace SensorIoT

variable {F : Type}

/-! ## Printing -/

/-- What the C library makes of a real: `%#15.7g`, which takes 15 characters for every `float`, and
`strtod`. -/
structure FloatFormat (F : Type) where
  print : F → List Char
  strtod : List Char → F
  length_print : ∀ x, (print x).length = 15
  inLine : ∀ x, ∀ c ∈ print x, c ≠ '\n' ∧ c ≠ nul

/-- The digits of an integer, with its sign. -/
def signedDigits (n : ℤ) : List Char :=
  if n < 0 then '-' :: Nat.toDigits 10 n.natAbs else Nat.toDigits 10 n.natAbs

/-- The format `%10d`. -/
def fmt10d (n : ℤ) : List Char :=
  List.replicate (10 - (signedDigits n).length) ' ' ++ signedDigits n

/-- The format `%10d` of an `int` in memory. -/
def printInt (n : BitVec 32) : List Char := fmt10d n.toInt

/-- `isprint`. -/
def isPrint (b : UInt8) : Bool := 32 ≤ b && b ≤ 126

/-- A character, or a blank for what cannot be printed. -/
def printed (b : UInt8) : UInt8 := if isPrint b = true then b else 32

/-- The format `%8s` of a string of eight characters. -/
def fmt8s (k : Vector UInt8 8) : List Char := k.toList.map fun b => Char.ofNat (printed b).toNat

/-- `n` rows of `w` values each. -/
def textRows {V : Type} (f : V → List Char) (w : ℕ) : ℕ → List V → List Char
  | 0, _ => []
  | n + 1, vs => (vs.take w).flatMap f ++ '\n' :: textRows f w n (vs.drop w)

/-- `awsac`: the text that comes to be in the file. -/
def awsac (io : FloatFormat F) (zero : F) (sachdr : SacMem F) (LN : ℕ) (data : List F) :
    List Char :=
  textRows io.print 5 14 sachdr.rhdr.toList
    ++ (textRows printInt 5 8 sachdr.ihdr.toList
      ++ (textRows fmt8s 3 8 sachdr.chdr.toList
        ++ textRows io.print 5 ((LN + 4) / 5) (data.take LN ++ List.replicate 4 zero)))

/-! ## Reading -/

/-- The first characters of a text, `n` at most, until the end of a line. -/
def lineOf : ℕ → List Char → List Char
  | 0, _ => []
  | _, [] => []
  | n + 1, c :: cs => if c = '\n' then [c] else c :: lineOf n cs

/-- `fgets(buf, 80, ...)`: the buffer, and what is left to be read.  At the end of the file the
buffer stays as it is. -/
def fgets (buf : CBuf) (s : List Char) : CBuf × List Char :=
  if s = [] then (buf, []) else (sprintf buf (lineOf 79 s), s.drop (lineOf 79 s).length)

/-- The strings that are read in `n` rows, from `w` columns each: `strncpy` stops at a
terminator. -/
def readRows (w len : ℕ) : ℕ → CBuf × List Char → List (List Char) × CBuf × List Char
  | 0, at_ => ([], at_)
  | n + 1, at_ =>
    let line := fgets at_.1 at_.2
    let rest := readRows w len n line
    ((Columns.columns len w line.1).map cstr ++ rest.1, rest.2)

/-- `strtol(..., 10)`, where a `long` has 32 or 64 bits. -/
def strtol10 (longWide : Bool) (s : List Char) : ℤ :=
  let longMax : ℤ := if longWide = true then 2 ^ 63 - 1 else 2 ^ 31 - 1
  max (-longMax - 1) (min longMax (atoi s))

/-- What is stored of an integer that was read. -/
def readInt (longWide : Bool) (s : List Char) : BitVec 32 := BitVec.ofInt 32 (strtol10 longWide s)

/-- What is stored of a string that was read. -/
def readText (s : List Char) : Vector UInt8 8 :=
  Vector.ofFn fun l => s[l.val]?.elim 32 fun c => printed (charByte c)

/-- The header that is read, with `buf` in the buffer for the rows. -/
def readHeader (io : FloatFormat F) (longWide : Bool) (buf : CBuf) (s : List Char) : SacMem F :=
  let reals := readRows 5 15 14 (buf, s)
  let ints := readRows 5 10 8 reals.2
  let texts := readRows 3 8 8 ints.2
  { rhdr := Vector.ofFn fun i => io.strtod (reals.1.getD i [])
    ihdr := Vector.ofFn fun i => readInt longWide (ints.1.getD i [])
    chdr := Vector.ofFn fun i => readText (texts.1.getD i []) }

/-- `arsach`: the error, and the header in memory. -/
def arsach [FloatMem F] (io : FloatFormat F) (longWide : Bool) (buf : CBuf) (old : SacMem F)
    (file : Option (List Char)) : ℤ × SacMem F :=
  match file with
  | none => (-1, old.setNpts 0)
  | some s =>
    (if (readHeader io longWide buf s).has12345 = false then -3 else 0,
      readHeader io longWide buf s)

/-- A header as text can hold it. -/
def SacMem.inText (io : FloatFormat F) (h : SacMem F) : SacMem F where
  rhdr := h.rhdr.map fun x => io.strtod (io.print x)
  ihdr := h.ihdr
  chdr := h.chdr.map fun k => k.map printed

/-! ## Integers -/

section Integers

/-- The number that digits spell. -/
theorem leadingDigits_of_isDigit {l : List Char} (h : ∀ c ∈ l, c.isDigit = true) (acc : ℕ) :
    leadingDigits acc l = Nat.ofDigitChars 10 l acc := by
  induction l generalizing acc with
  | nil => rfl
  | cons c l ih =>
    obtain ⟨hc, hl⟩ := List.forall_mem_cons.mp h
    rw [leadingDigits_cons hc, ih hl, Nat.ofDigitChars_cons, Nat.mul_comm]
    rfl

theorem leadingDigits_toDigits (n : ℕ) : leadingDigits 0 (Nat.toDigits 10 n) = n := by
  rw [leadingDigits_of_isDigit fun c hc => Nat.isDigit_of_mem_toDigits (by decide) (by decide) hc,
    Nat.ofDigitChars_ten_toDigits]

theorem atoi_minus (l : List Char) : atoi ('-' :: l) = -(leadingDigits 0 l : ℤ) := rfl

theorem atoi_toDigits (n : ℕ) : atoi (Nat.toDigits 10 n) = n := by
  have hall : ∀ c ∈ Nat.toDigits 10 n, c.isDigit = true :=
    fun c hc => Nat.isDigit_of_mem_toDigits (by decide) (by decide) hc
  have hvalue := leadingDigits_toDigits n
  cases htext : Nat.toDigits 10 n with
  | nil => exact absurd htext Nat.toDigits_ne_nil
  | cons c cs =>
    rw [htext] at hall hvalue
    rw [atoi_digit (hall c List.mem_cons_self), ← hvalue]

theorem atoi_signedDigits (n : ℤ) : atoi (signedDigits n) = n := by
  rw [signedDigits]
  split
  · rw [atoi_minus, leadingDigits_toDigits]
    omega
  · rw [atoi_toDigits]
    omega

theorem atoi_blanks (k : ℕ) (s : List Char) : atoi (List.replicate k ' ' ++ s) = atoi s := by
  induction k with
  | zero => rfl
  | succ k ih =>
    rw [← ih]
    rfl

/-- What `%10d` prints is that number. -/
theorem atoi_fmt10d (n : ℤ) : atoi (fmt10d n) = n := by
  rw [fmt10d, atoi_blanks, atoi_signedDigits]

theorem ten_le_length_printInt (n : BitVec 32) : 10 ≤ (printInt n).length := by
  rw [printInt, fmt10d, List.length_append, List.length_replicate]
  omega

/-- What fits its column. -/
theorem length_printInt_iff (n : BitVec 32) :
    (printInt n).length = 10 ↔ -999999999 ≤ n.toInt := by
  have hlt := BitVec.toInt_lt (x := n)
  have hiff : (printInt n).length = 10 ↔ (signedDigits n.toInt).length ≤ 10 := by
    rw [printInt, fmt10d, List.length_append, List.length_replicate]
    omega
  have hten : (Nat.toDigits 10 n.toInt.natAbs).length ≤ 10 ↔ n.toInt.natAbs < 10 ^ 10 :=
    Nat.length_toDigits_le_iff (by decide) (by decide)
  have hnine : (Nat.toDigits 10 n.toInt.natAbs).length ≤ 9 ↔ n.toInt.natAbs < 10 ^ 9 :=
    Nat.length_toDigits_le_iff (by decide) (by decide)
  rw [hiff, signedDigits]
  split
  · have hcons : (Nat.toDigits 10 n.toInt.natAbs).length + 1 ≤ 10
        ↔ (Nat.toDigits 10 n.toInt.natAbs).length ≤ 9 := by omega
    rw [List.length_cons, hcons, hnine]
    omega
  · rw [hten]
    omega

/-- A number that does not fit loses its last digit. -/
theorem atoi_cut {n : ℤ} (h : n < -999999999) (hle : -2 ^ 31 ≤ n) :
    atoi ((fmt10d n).take 10) = -((n.natAbs / 10 : ℕ) : ℤ) := by
  have hneg : n < 0 := by omega
  have hten : 10 ≤ n.natAbs := by omega
  have hdigits : Nat.toDigits 10 n.natAbs
      = Nat.toDigits 10 (n.natAbs / 10) ++ [Nat.digitChar (n.natAbs % 10)] :=
    Nat.toDigits_of_base_le (by decide) hten
  have hnine : (Nat.toDigits 10 (n.natAbs / 10)).length = 9 := by
    have hle9 : (Nat.toDigits 10 (n.natAbs / 10)).length ≤ 9 ↔ n.natAbs / 10 < 10 ^ 9 :=
      Nat.length_toDigits_le_iff (by decide) (by decide)
    have hle8 : (Nat.toDigits 10 (n.natAbs / 10)).length ≤ 8 ↔ n.natAbs / 10 < 10 ^ 8 :=
      Nat.length_toDigits_le_iff (by decide) (by decide)
    omega
  have hsigned : signedDigits n
      = ('-' :: Nat.toDigits 10 (n.natAbs / 10)) ++ [Nat.digitChar (n.natAbs % 10)] := by
    rw [signedDigits, if_pos hneg, hdigits]
    rfl
  have hlen : (signedDigits n).length = 11 := by
    rw [hsigned, List.length_append, List.length_cons, hnine]
    rfl
  have hfmt : fmt10d n = signedDigits n := by
    rw [fmt10d, hlen]
    rfl
  rw [hfmt, hsigned, List.take_left' (by rw [List.length_cons, hnine]), atoi_minus,
    leadingDigits_toDigits]

/-- And never takes more than eleven characters. -/
theorem length_printInt_le (n : BitVec 32) : (printInt n).length ≤ 11 := by
  have hlt := BitVec.toInt_lt (x := n)
  have hle := BitVec.le_toInt n
  have hten : (Nat.toDigits 10 n.toInt.natAbs).length ≤ 10 ↔ n.toInt.natAbs < 10 ^ 10 :=
    Nat.length_toDigits_le_iff (by decide) (by decide)
  have hdigits : (signedDigits n.toInt).length ≤ (Nat.toDigits 10 n.toInt.natAbs).length + 1 := by
    rw [signedDigits]
    split
    · exact le_refl _
    · exact Nat.le_succ _
  rw [printInt, fmt10d, List.length_append, List.length_replicate]
  omega

theorem mem_signedDigits {n : ℤ} {c : Char} (h : c ∈ signedDigits n) :
    c = '-' ∨ c.isDigit = true := by
  have hdigit : ∀ c ∈ Nat.toDigits 10 n.natAbs, c.isDigit = true :=
    fun c hc => Nat.isDigit_of_mem_toDigits (by decide) (by decide) hc
  rw [signedDigits] at h
  split at h
  · exact (List.mem_cons.mp h).imp_right (hdigit c)
  · exact .inr (hdigit c h)

theorem inLine_printInt (n : BitVec 32) : ∀ c ∈ printInt n, c ≠ '\n' ∧ c ≠ nul := by
  intro c hc
  rw [printInt, fmt10d, List.mem_append] at hc
  rcases hc with hc | hc
  · rw [List.eq_of_mem_replicate hc]
    decide
  · rcases mem_signedDigits hc with rfl | hdigit
    · decide
    · constructor <;> rintro rfl <;> exact absurd hdigit (by decide)

theorem strtol10_of_le {s : List Char} (longWide : Bool) (hle : -2 ^ 31 ≤ atoi s)
    (hlt : atoi s < 2 ^ 31) : strtol10 longWide s = atoi s := by
  cases longWide <;> simp only [strtol10, if_true, Bool.false_eq_true, if_false] <;> omega

/-- An integer that fits is read back. -/
theorem readInt_printInt (longWide : Bool) (n : BitVec 32) : readInt longWide (printInt n) = n := by
  have hlt := BitVec.toInt_lt (x := n)
  have hle := BitVec.le_toInt n
  have hvalue := atoi_fmt10d n.toInt
  rw [readInt, printInt, strtol10_of_le longWide (by omega) (by omega), hvalue, BitVec.ofInt_toInt]

/-- One that does not fit is not. -/
theorem readInt_cut_ne (longWide : Bool) {n : BitVec 32} (h : (printInt n).length ≠ 10) :
    readInt longWide ((printInt n).take 10) ≠ n := by
  have hle := BitVec.le_toInt n
  have hwide : n.toInt < -999999999 := not_le.mp (mt (length_printInt_iff n).mpr h)
  have hcut := atoi_cut hwide (by omega)
  rw [readInt, printInt, strtol10_of_le longWide (by omega) (by omega), hcut]
  intro heq
  have hint := congrArg BitVec.toInt heq
  rw [BitVec.toInt_ofInt, Int.bmod_eq_of_le (by omega) (by omega)] at hint
  omega

end Integers

/-! ## Strings -/

section Strings

theorem charByte_ofNat (b : UInt8) : charByte (Char.ofNat b.toNat) = b := by
  have hall : ∀ n < 256, (Char.ofNat n).toNat = n := by decide +kernel
  rw [charByte, hall b.toNat b.toNat_lt]
  exact UInt8.ofNat_toNat

theorem isPrint_printed (b : UInt8) : isPrint (printed b) = true := by
  rw [printed]
  split
  case isTrue h => exact h
  case isFalse => decide

theorem printed_printed (b : UInt8) : printed (printed b) = printed b :=
  if_pos (isPrint_printed b)

theorem inLine_fmt8s (k : Vector UInt8 8) : ∀ c ∈ fmt8s k, c ≠ '\n' ∧ c ≠ nul := by
  intro c hc
  obtain ⟨b, -, rfl⟩ := List.mem_map.mp hc
  have hprint := isPrint_printed b
  constructor <;> intro h <;> rw [← charByte_ofNat (printed b), h] at hprint <;>
    exact absurd hprint (by decide)

theorem readText_fmt8s (k : Vector UInt8 8) : readText (fmt8s k) = k.map printed := by
  refine Vector.ext fun i hi => ?_
  have hget : (fmt8s k)[i]? = some (Char.ofNat (printed k[i]).toNat) := by
    simp [fmt8s, hi]
  simp only [readText, Vector.getElem_ofFn, hget, Option.elim_some, Vector.getElem_map]
  rw [charByte_ofNat, printed_printed]

end Strings

/-! ## Rows -/

section Rows

variable {V : Type} {f : V → List Char} {w len n m : ℕ} {vs : List V} {l rest : List Char}

theorem lineOf_row (h : ∀ c ∈ l, c ≠ '\n') (hn : l.length < n) :
    lineOf n (l ++ '\n' :: rest) = l ++ ['\n'] := by
  induction l generalizing n with
  | nil =>
    cases n with
    | zero => cases hn
    | succ n => exact if_pos rfl
  | cons c l ih =>
    obtain ⟨hc, hl⟩ := List.forall_mem_cons.mp h
    cases n with
    | zero => cases hn
    | succ n =>
      rw [List.cons_append, lineOf, if_neg hc, ih hl (Nat.lt_of_succ_lt_succ hn)]
      rfl

/-- A row is read as a whole. -/
theorem fgets_row (buf : CBuf) (h : ∀ c ∈ l, c ≠ '\n') (hlen : l.length ≤ 78) :
    fgets buf (l ++ '\n' :: rest) = (sprintf buf (l ++ ['\n']), rest) := by
  have hne : l ++ '\n' :: rest ≠ [] := List.append_ne_nil_of_right_ne_nil l (List.cons_ne_nil _ _)
  have hsplit : l ++ '\n' :: rest = (l ++ ['\n']) ++ rest := by simp
  rw [fgets, if_neg hne, lineOf_row h (by omega), hsplit, List.drop_left]

/-- The strings that are read from a row. -/
theorem columns_sprintf (buf : CBuf) (h : ∀ c ∈ l, c ≠ nul) (hlen : len * w ≤ l.length) :
    (Columns.columns len w (sprintf buf (l ++ ['\n']))).map cstr = Columns.columns len w l := by
  rw [sprintf, List.append_assoc, Columns.columns_append _ hlen]
  have hself : ∀ c ∈ Columns.columns len w l, cstr c = c := fun c hc =>
    cstr_eq_self fun hmem => h nul (Columns.mem_of_mem_columns hc hmem) rfl
  exact (List.map_congr_left hself).trans (List.map_id _)

theorem length_flatMap_bounds (hlen : ∀ v, len ≤ (f v).length) (hmax : ∀ v, (f v).length ≤ m)
    (row : List V) :
    len * row.length ≤ (row.flatMap f).length ∧ (row.flatMap f).length ≤ m * row.length := by
  induction row with
  | nil => exact ⟨Nat.le_refl _, Nat.le_refl _⟩
  | cons v row ih =>
    have h1 := hlen v
    have h2 := hmax v
    rw [List.flatMap_cons, List.length_append, List.length_cons, Nat.mul_succ, Nat.mul_succ]
    omega

/-- **Rows are read as they are cut**, and what the buffer held before does not matter. -/
theorem readRows_textRows (hline : ∀ v, ∀ c ∈ f v, c ≠ '\n' ∧ c ≠ nul)
    (hlen : ∀ v, len ≤ (f v).length) (hmax : ∀ v, (f v).length ≤ m) (hm : m * w ≤ 78)
    (hvs : vs.length = w * n) (buf : CBuf) (rest : List Char) :
    ∃ buf', readRows w len n (buf, textRows f w n vs ++ rest)
      = (Columns.cutRows f w len n vs, buf', rest) := by
  induction n generalizing vs buf with
  | zero => exact ⟨buf, rfl⟩
  | succ n ih =>
    have hrow := Columns.length_take_row hvs
    have hrest := Columns.length_drop_row hvs
    obtain ⟨hlow, hhigh⟩ := length_flatMap_bounds hlen hmax (vs.take w)
    rw [hrow] at hlow hhigh
    have hchars : ∀ c ∈ (vs.take w).flatMap f, c ≠ '\n' ∧ c ≠ nul := by
      intro c hc
      obtain ⟨v, -, hv⟩ := List.mem_flatMap.mp hc
      exact hline v c hv
    obtain ⟨buf', hread⟩ := ih hrest (sprintf buf ((vs.take w).flatMap f ++ ['\n']))
    have hgets : fgets buf (textRows f w (n + 1) vs ++ rest)
        = (sprintf buf ((vs.take w).flatMap f ++ ['\n']), textRows f w n (vs.drop w) ++ rest) := by
      rw [textRows, List.append_assoc, List.cons_append]
      exact fgets_row buf (fun c hc => (hchars c hc).1) (Nat.le_trans hhigh hm)
    refine ⟨buf', ?_⟩
    rw [readRows]
    simp only [hgets, hread, Columns.cutRows,
      columns_sprintf buf (fun c hc => (hchars c hc).2) hlow]

end Rows

/-! ## The header -/

/-- The fields that are made of strings are those of a list. -/
theorem ofFn_eq_iff {V : Type} {n : ℕ} {g : List Char → V} {texts : List (List Char)}
    (hlen : texts.length = n) (v : Vector V n) :
    (Vector.ofFn fun i : Fin n => g (texts.getD i [])) = v ↔ texts.map g = v.toList := by
  have hlist : (Vector.ofFn fun i : Fin n => g (texts.getD i [])).toList = texts.map g := by
    refine List.ext_getElem (by simp [hlen]) fun i hi hi' => ?_
    have hlt : i < texts.length := by simpa using hi'
    simp [hlt]
  rw [← hlist]
  exact Vector.toList_inj.symm

section Header

variable {io : FloatFormat F} {h : SacMem F}

/-- The reals come back as `printf` has rounded them. -/
theorem reals_eq (io : FloatFormat F) (h : SacMem F) :
    (Vector.ofFn fun i : Fin 70 =>
        io.strtod ((Columns.cutRows io.print 5 15 14 h.rhdr.toList).getD i []))
      = h.rhdr.map fun x => io.strtod (io.print x) := by
  have hcut : Columns.cutRows io.print 5 15 14 h.rhdr.toList = h.rhdr.toList.map io.print :=
    Columns.cutRows_eq_map (by simp) fun x _ => io.length_print x
  have hlen : (Columns.cutRows io.print 5 15 14 h.rhdr.toList).length = 70 := by
    rw [Columns.length_cutRows]
  rw [ofFn_eq_iff (g := io.strtod) hlen, hcut, List.map_map, Vector.toList_map]
  rfl

/-- The strings come back with blanks for what cannot be printed. -/
theorem texts_eq (h : SacMem F) :
    (Vector.ofFn fun i : Fin 24 =>
        readText ((Columns.cutRows fmt8s 3 8 8 h.chdr.toList).getD i []))
      = h.chdr.map fun k => k.map printed := by
  have hcut : Columns.cutRows fmt8s 3 8 8 h.chdr.toList = h.chdr.toList.map fmt8s :=
    Columns.cutRows_eq_map (by simp) fun k _ => by simp [fmt8s]
  have hlen : (Columns.cutRows fmt8s 3 8 8 h.chdr.toList).length = 24 := by
    rw [Columns.length_cutRows]
  rw [ofFn_eq_iff (g := readText) hlen, hcut, List.map_map, Vector.toList_map]
  exact List.map_congr_left fun k _ => readText_fmt8s k

/-- The integers come back if they all fit. -/
theorem ints_eq_iff (longWide : Bool) (h : SacMem F) :
    (Vector.ofFn fun i : Fin 40 =>
        readInt longWide ((Columns.cutRows printInt 5 10 8 h.ihdr.toList).getD i []))
      = h.ihdr ↔ ∀ n ∈ h.ihdr.toList, -999999999 ≤ n.toInt := by
  have hlen : (Columns.cutRows printInt 5 10 8 h.ihdr.toList).length = 40 := by
    rw [Columns.length_cutRows]
  have hihdr : h.ihdr.toList.length = 5 * 8 := h.ihdr.length_toList
  have hback := Columns.map_cutRows_iff hihdr ten_le_length_printInt
    (fun n _ => readInt_printInt longWide n) (fun n hn => readInt_cut_ne longWide hn)
  exact (ofFn_eq_iff hlen h.ihdr).trans
    (hback.trans (forall₂_congr fun n _ => length_printInt_iff n))

/-- The rows of a header that was written, and what is left behind them. -/
theorem readRows_awsac (io : FloatFormat F) (buf : CBuf) (h : SacMem F) (zero : F) (LN : ℕ)
    (data : List F) : ∃ buf1 buf2 buf3 ints texts,
      readRows 5 15 14 (buf, awsac io zero h LN data)
        = (Columns.cutRows io.print 5 15 14 h.rhdr.toList, buf1, ints) ∧
      readRows 5 10 8 (buf1, ints)
        = (Columns.cutRows printInt 5 10 8 h.ihdr.toList, buf2, texts) ∧
      readRows 3 8 8 (buf2, texts) = (Columns.cutRows fmt8s 3 8 8 h.chdr.toList, buf3,
        textRows io.print 5 ((LN + 4) / 5) (data.take LN ++ List.replicate 4 zero)) := by
  have hprint : ∀ x, 15 ≤ (io.print x).length ∧ (io.print x).length ≤ 15 :=
    fun x => ⟨Nat.le_of_eq (io.length_print x).symm, Nat.le_of_eq (io.length_print x)⟩
  have height : ∀ k, 8 ≤ (fmt8s k).length ∧ (fmt8s k).length ≤ 8 := fun k => by simp [fmt8s]
  have hfifteen : 15 * 5 ≤ 78 := by decide
  have heleven : 11 * 5 ≤ 78 := by decide
  have htwentyfour : 8 * 3 ≤ 78 := by decide
  have hrhdr : h.rhdr.toList.length = 5 * 14 := h.rhdr.length_toList
  have hihdr : h.ihdr.toList.length = 5 * 8 := h.ihdr.length_toList
  have hchdr : h.chdr.toList.length = 3 * 8 := h.chdr.length_toList
  obtain ⟨buf1, hreals⟩ := readRows_textRows io.inLine (fun x => (hprint x).1)
    (fun x => (hprint x).2) hfifteen hrhdr buf
    (textRows printInt 5 8 h.ihdr.toList
      ++ (textRows fmt8s 3 8 h.chdr.toList
        ++ textRows io.print 5 ((LN + 4) / 5) (data.take LN ++ List.replicate 4 zero)))
  obtain ⟨buf2, hints⟩ := readRows_textRows inLine_printInt ten_le_length_printInt
    length_printInt_le heleven hihdr buf1
    (textRows fmt8s 3 8 h.chdr.toList
      ++ textRows io.print 5 ((LN + 4) / 5) (data.take LN ++ List.replicate 4 zero))
  obtain ⟨buf3, htexts⟩ := readRows_textRows inLine_fmt8s (fun k => (height k).1)
    (fun k => (height k).2) htwentyfour hchdr buf2
    (textRows io.print 5 ((LN + 4) / 5) (data.take LN ++ List.replicate 4 zero))
  exact ⟨buf1, buf2, buf3, _, _, hreals, hints, htexts⟩

/-- What is read of a header that was written. -/
theorem readHeader_eq_iff (io : FloatFormat F) (longWide : Bool) (buf : CBuf) (h : SacMem F)
    (zero : F) (LN : ℕ) (data : List F) :
    readHeader io longWide buf (awsac io zero h LN data) = h.inText io ↔
      ∀ n ∈ h.ihdr.toList, -999999999 ≤ n.toInt := by
  obtain ⟨_, _, _, _, _, hreals, hints, htexts⟩ := readRows_awsac io buf h zero LN data
  rw [← ints_eq_iff longWide h, readHeader, SacMem.inText]
  simp only [hreals, hints, htexts, reals_eq, texts_eq, SacMem.mk.injEq, true_and, and_true]

/-- **Which headers are read back.** -/
theorem arsach_awsac_iff [FloatMem F] (io : FloatFormat F) (longWide : Bool) (buf : CBuf)
    (old h : SacMem F) (zero : F) (LN : ℕ) (data : List F) :
    arsach io longWide buf old (some (awsac io zero h LN data))
        = (if (h.inText io).has12345 = false then -3 else 0, h.inText io) ↔
      ∀ n ∈ h.ihdr.toList, -999999999 ≤ n.toInt := by
  rw [← readHeader_eq_iff io longWide buf h zero LN data, arsach, Prod.mk.injEq]
  exact ⟨fun heq => heq.2, fun heq => ⟨by rw [heq], heq⟩⟩

end Header

end SensorIoT
