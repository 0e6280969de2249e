import SensorIoT.Sac.Text

/-!
# The samples in text

Behind its header `awsac` writes the samples, five in a row, and fills the last row up with zeros.
`arsac` reads the header as `arsach` does and the samples with `fscanf`, which knows no rows: it
skips the end of a row as it skips the blanks between two numbers.

**`arsac_awsac`**: the samples come back one by one, where the rows end and where they do not, as
the format rounds them.
-/

set_option autoImplicit false

namespace SensorIoT

variable {F : Type}

/-! ## Reading -/

/-- `fscanf(fptr, "%g", &rval)`: the number, if there is one, and what is left to be read.  White
space before a number is skipped, and it ends where white space follows; what `%#15.7g` prints
starts with a blank, since a `float` never needs more than 14 characters. -/
structure FloatScan (F : Type) extends FloatFormat F where
  strtof : List Char → F
  scan : List Char → Option F × List Char
  head_print : ∀ x, (print x).head? = some ' '
  scan_newline : ∀ s, scan ('\n' :: s) = scan s
  scan_print : ∀ x rest, (∀ c ∈ rest.head?, isSpace c = true) →
    scan (print x ++ rest) = (some (strtof (print x)), rest)

/-- The loop of `arsac` over the samples: where there is no number, `rval` is stored again. -/
def scanSamples (io : FloatScan F) : ℕ → F → List Char → List F
  | 0, _, _ => []
  | n + 1, rval, s =>
    (io.scan s).1.getD rval :: scanSamples io n ((io.scan s).1.getD rval) (io.scan s).2

/-- What is left to be read behind the rows of the header. -/
def behindHeader (buf : CBuf) (s : List Char) : List Char :=
  (readRows 3 8 8 (readRows 5 10 8 (readRows 5 15 14 (buf, s)).2).2).2.2

/-- `arsac`, with `rval` in the variable that the samples are read into. -/
def arsac [FloatMem F] (io : FloatScan F) (longWide : Bool) (buf : CBuf) (rval : F)
    (alloc : ℕ → Bool) (old : SacMem F) (LN : ℤ) (file : Option (List Char)) : SacRead F :=
  match file with
  | none => ⟨-1, old.setNpts 0, none⟩
  | some s =>
    let h := readHeader io.toFloatFormat longWide buf s
    if (h.clip LN).has12345 = false then ⟨-3, h.clip LN, none⟩
    else if (h.clip LN).npts < 0 ∨ alloc (h.clip LN).npts.toNat = false then
      ⟨-2, h.clip LN, none⟩
    else
      ⟨if LN < h.npts then -2 else 0, (h.clip LN).clip LN,
        some (scanSamples io (h.clip LN).npts.toNat rval (behindHeader buf s))⟩

/-! ## The samples -/

section Samples

variable {n k : ℕ} {vs : List F}

theorem behindHeader_awsac (io : FloatFormat F) (buf : CBuf) (h : SacMem F) (zero : F) (LN : ℕ)
    (data : List F) : behindHeader buf (awsac io zero h LN data)
      = textRows io.print 5 ((LN + 4) / 5) (data.take LN ++ List.replicate 4 zero) := by
  obtain ⟨_, _, _, _, _, hreals, hints, htexts⟩ := readRows_awsac io buf h zero LN data
  rw [behindHeader, hreals]
  simp only [hints, htexts]

theorem scanSamples_newline (io : FloatScan F) (rval : F) (s : List Char) :
    scanSamples io k rval ('\n' :: s) = scanSamples io k rval s := by
  cases k with
  | zero => rfl
  | succ k => rw [scanSamples, scanSamples, io.scan_newline]

/-- White space comes behind every sample of a row: another sample, or the end of the row. -/
theorem isSpace_head_row (io : FloatScan F) (row : List F) (rest : List Char) :
    ∀ c ∈ (row.flatMap io.print ++ '\n' :: rest).head?, isSpace c = true := by
  intro c hc
  cases row with
  | nil =>
    obtain rfl : '\n' = c := Option.some.inj hc
    rfl
  | cons y row =>
    have hblank := io.head_print y
    rw [List.flatMap_cons, List.append_assoc, List.head?_append, hblank] at hc
    obtain rfl : ' ' = c := Option.some.inj hc
    rfl

/-- The samples of one row, or as many as are read. -/
theorem scanSamples_row (io : FloatScan F) (k : ℕ) (row : List F) (rval : F) (rest : List Char) :
    ∃ rval', scanSamples io k rval (row.flatMap io.print ++ '\n' :: rest)
      = (row.take k).map (fun x => io.strtof (io.print x))
        ++ scanSamples io (k - row.length) rval' rest := by
  induction row generalizing k rval with
  | nil => exact ⟨rval, by simpa using scanSamples_newline io rval rest⟩
  | cons x row ih =>
    cases k with
    | zero => exact ⟨rval, by rw [Nat.zero_sub]; rfl⟩
    | succ k =>
      have hscan := io.scan_print x _ (isSpace_head_row io row rest)
      obtain ⟨rval', hrow⟩ := ih k (io.strtof (io.print x))
      refine ⟨rval', ?_⟩
      rw [List.flatMap_cons, List.append_assoc, scanSamples, hscan, List.take_succ_cons,
        List.map_cons, List.cons_append, List.length_cons, Nat.add_sub_add_right]
      exact congrArg _ hrow

/-- **The samples are read across the rows.** -/
theorem scanSamples_textRows (io : FloatScan F) (rval : F) (rest : List Char)
    (hvs : 5 * n ≤ vs.length) (hk : k ≤ 5 * n) :
    scanSamples io k rval (textRows io.print 5 n vs ++ rest)
      = (vs.take k).map fun x => io.strtof (io.print x) := by
  induction n generalizing vs k rval with
  | zero =>
    obtain rfl : k = 0 := Nat.le_zero.mp hk
    rfl
  | succ n ih =>
    have hfive : 5 ≤ vs.length := (Nat.le_mul_of_pos_right 5 n.succ_pos).trans hvs
    have hrow : (vs.take 5).length = 5 := List.length_take_of_le hfive
    obtain ⟨rval', hread⟩ := scanSamples_row io k (vs.take 5) rval
      (textRows io.print 5 n (vs.drop 5) ++ rest)
    have hdrop : 5 * n ≤ (vs.drop 5).length := by
      rw [List.length_drop]
      exact Nat.le_sub_of_add_le hvs
    have hnext := ih rval' hdrop (Nat.sub_le_of_le_add hk)
    rw [hrow, hnext, ← List.map_append] at hread
    have hsplit : vs.take k = (vs.take 5).take k ++ (vs.drop 5).take (k - 5) := by
      conv_lhs => rw [← List.take_append_drop 5 vs]
      rw [List.take_append, hrow]
    rw [textRows, List.append_assoc, List.cons_append, hread, hsplit]

/-- **A file is read back**, if its header fits, says of some field that it is undefined, and counts
the samples. -/
theorem arsac_awsac [FloatMem F] (io : FloatScan F) (longWide : Bool) (buf : CBuf) (rval zero : F)
    (alloc : ℕ → Bool) (old : SacMem F) {h : SacMem F} {LN : ℤ} {data : List F}
    (hfits : ∀ n ∈ h.ihdr.toList, -999999999 ≤ n.toInt)
    (hsac : (h.inText io.toFloatFormat).has12345 = true) (hn : h.npts = data.length)
    (hLN : data.length ≤ LN) (halloc : alloc data.length = true) :
    arsac io longWide buf rval alloc old LN
        (some (awsac io.toFloatFormat zero h data.length data))
      = ⟨0, h.inText io.toFloatFormat, some (data.map fun x => io.strtof (io.print x))⟩ := by
  have hheader :=
    (readHeader_eq_iff io.toFloatFormat longWide buf h zero data.length data).mpr hfits
  have hcount : (h.inText io.toFloatFormat).npts = data.length := hn
  have hclip : (h.inText io.toFloatFormat).clip LN = h.inText io.toFloatFormat :=
    clip_of_le (hcount.trans_le hLN)
  have hnat : (h.inText io.toFloatFormat).npts.toNat = data.length := by
    rw [hcount, Int.toNat_natCast]
  have hroom : ¬ ((h.inText io.toFloatFormat).npts < 0 ∨
      alloc (h.inText io.toFloatFormat).npts.toNat = false) := by
    rw [hnat, halloc, hcount]
    rintro (hneg | hfalse)
    · exact absurd hneg (Int.not_lt.mpr (Int.natCast_nonneg _))
    · cases hfalse
  have hdata : scanSamples io data.length rval (behindHeader buf
      (awsac io.toFloatFormat zero h data.length data))
        = data.map fun x => io.strtof (io.print x) := by
    have hrows : 5 * ((data.length + 4) / 5) ≤ (data ++ List.replicate 4 zero).length := by
      rw [List.length_append, List.length_replicate]
      exact Nat.mul_div_le _ 5
    have hread := scanSamples_textRows io rval [] hrows (k := data.length) (by omega)
    rw [behindHeader_awsac, List.take_length, ← List.append_nil (textRows _ _ _ _), hread,
      List.take_left]
  have hlong : ¬ LN < (h.inText io.toFloatFormat).npts := Int.not_lt.mpr (hcount.trans_le hLN)
  rw [arsac]
  simp only [hheader, hclip, hsac, Bool.true_eq_false, if_false]
  rw [if_neg hroom, if_neg hlong, hnat, hdata]

end Samples

/-! ## Whole numbers -/

/-- The format `%#.7g` of a whole number of up to seven digits. -/
def wholeText (n : ℤ) : List Char :=
  signedDigits n ++ '.' :: List.replicate (7 - (Nat.toDigits 10 n.natAbs).length) '0'

example : wholeText (-12345) = "-12345.00".toList := by decide +kernel

theorem mem_wholeText {n : ℤ} {c : Char} (h : c ∈ wholeText n) :
    c = '-' ∨ c = '.' ∨ c.isDigit = true := by
  rw [wholeText, List.mem_append, List.mem_cons] at h
  rcases h with h | rfl | h
  · exact (mem_signedDigits h).imp_right .inr
  · exact .inr (.inl rfl)
  · rw [List.eq_of_mem_replicate h]
    exact .inr (.inr rfl)

/-- It is no white space and no terminator. -/
theorem isSpace_wholeText {n : ℤ} {c : Char} (h : c ∈ wholeText n) :
    isSpace c = false ∧ c ≠ nul := by
  rcases mem_wholeText h with rfl | rfl | h
  · decide
  · decide
  · have hlow : 48 ≤ c.toNat := (Char.isDigit_iff_toNat.mp h).1
    have hnul : c ≠ nul := by
      rintro rfl
      exact absurd hlow (by decide)
    have hblank : c ≠ ' ' := by
      rintro rfl
      exact absurd hlow (by decide)
    refine ⟨?_, hnul⟩
    rw [isSpace, Bool.or_eq_false_iff, Bool.and_eq_false_iff]
    exact ⟨decide_eq_false hblank, .inr (decide_eq_false (by omega))⟩

/-- What stands in its 15 columns. -/
def wholeToken (x : Float32) : List Char := (wholeText (FloatArith.trunc x)).take 14

theorem isSpace_wholeToken {x : Float32} {c : Char} (h : c ∈ wholeToken x) :
    isSpace c = false ∧ c ≠ nul :=
  isSpace_wholeText (List.mem_of_mem_take h)

theorem exists_wholeToken (x : Float32) : ∃ c cs, wholeToken x = c :: cs := by
  refine List.exists_cons_of_ne_nil fun h => ?_
  have hlen := congrArg List.length h
  rw [wholeToken, List.length_take, wholeText, List.length_append, List.length_cons,
    List.length_nil] at hlen
  omega

/-- The text in 15 columns. -/
def printWhole (x : Float32) : List Char :=
  List.replicate (15 - (wholeToken x).length) ' ' ++ wholeToken x

theorem length_wholeToken_le (x : Float32) : (wholeToken x).length ≤ 14 :=
  List.length_take_le 14 _

theorem dropWhile_blanks (k : ℕ) (s : List Char) :
    (List.replicate k ' ' ++ s).dropWhile isSpace = s.dropWhile isSpace := by
  induction k with
  | zero => rfl
  | succ k ih => rw [List.replicate_succ, List.cons_append, List.dropWhile_cons_of_pos rfl, ih]

/-- The number a text begins with. -/
def readWhole (s : List Char) : Float32 := atoi s

/-- `%g` of such a text. -/
def scanWhole (s : List Char) : Option Float32 × List Char :=
  match s.dropWhile isSpace with
  | [] => (none, [])
  | c :: cs => (some (readWhole ((c :: cs).takeWhile fun c => !isSpace c)),
    (c :: cs).dropWhile fun c => !isSpace c)

theorem scanWhole_printWhole (x : Float32) (rest : List Char)
    (hrest : ∀ c ∈ rest.head?, isSpace c = true) :
    scanWhole (printWhole x ++ rest) = (some (readWhole (printWhole x)), rest) := by
  have htoken : ∀ c ∈ wholeToken x, (!isSpace c) = true := by
    intro c hc
    rw [(isSpace_wholeToken hc).1]
    rfl
  have hstop : rest.takeWhile (fun c => !isSpace c) = [] ∧
      rest.dropWhile (fun c => !isSpace c) = rest := by
    cases rest with
    | nil => exact ⟨rfl, rfl⟩
    | cons c cs => simp [hrest c rfl]
  have hskip : (printWhole x ++ rest).dropWhile isSpace = wholeToken x ++ rest := by
    obtain ⟨c, cs, hcons⟩ := exists_wholeToken x
    have hc : isSpace c = false := (isSpace_wholeToken (hcons ▸ List.mem_cons_self)).1
    rw [printWhole, List.append_assoc, dropWhile_blanks, hcons, List.cons_append,
      List.dropWhile_cons_of_neg (by rw [hc]; exact Bool.false_ne_true)]
  have hnumber : readWhole (printWhole x) = readWhole (wholeToken x) := by
    rw [printWhole, readWhole, readWhole, atoi_blanks]
  have htake : (wholeToken x ++ rest).takeWhile (fun c => !isSpace c) = wholeToken x := by
    rw [List.takeWhile_append_of_pos htoken, hstop.1, List.append_nil]
  have hdrop : (wholeToken x ++ rest).dropWhile (fun c => !isSpace c) = rest := by
    rw [List.dropWhile_append_of_pos htoken, hstop.2]
  obtain ⟨c, cs, hcons⟩ := exists_wholeToken x
  rw [hcons, List.cons_append] at htake hdrop
  rw [scanWhole, hskip, hnumber, hcons, List.cons_append]
  exact Prod.ext (congrArg (fun s => some (readWhole s)) htake) hdrop

/-- The format of whole numbers of up to seven digits, for the others of what is before the point.
-/
def wholeScan : FloatScan Float32 where
  print := printWhole
  strtod := readWhole
  strtof := readWhole
  length_print x := by
    have := length_wholeToken_le x
    rw [printWhole, List.length_append, List.length_replicate]
    omega
  inLine x c hc := by
    rw [printWhole, List.mem_append] at hc
    rcases hc with hc | hc
    · rw [List.eq_of_mem_replicate hc]
      decide
    · refine ⟨?_, (isSpace_wholeToken hc).2⟩
      rintro rfl
      exact absurd (isSpace_wholeToken hc).1 (by decide)
  scan := scanWhole
  head_print x := by
    have hpos : 15 - (wholeToken x).length = (14 - (wholeToken x).length) + 1 := by
      have := length_wholeToken_le x
      omega
    rw [printWhole, hpos, List.replicate_succ]
    rfl
  scan_newline _ := rfl
  scan_print := scanWhole_printWhole

/-- A header of which only the number of samples is known. -/
def sevenMem : SacMem Float32 where
  rhdr := Vector.replicate 70 (FloatArith.lit (-12345))
  ihdr := Vector.ofFn fun i => if i.val = 9 then 7 else -12345
  chdr := Vector.replicate 24 undefinedText

/-- One of which nothing is. -/
def zeroMem : SacMem Float32 where
  rhdr := Vector.replicate 70 (FloatArith.lit 0)
  ihdr := Vector.replicate 40 0
  chdr := Vector.replicate 24 (Vector.replicate 8 0)

def sevenSamples : List Float32 := [3, 1, -4, 15, 926, 0, -5]

/-- Two rows, the second of two samples and three zeros. -/
theorem arsac_awsac_rows :
    arsac wholeScan true (zeroBuf 81) 8 (fun _ => true) zeroMem 10
        (some (awsac wholeScan.toFloatFormat 0 sevenMem 7 sevenSamples))
      = ⟨0, sevenMem, some sevenSamples⟩ := by
  have hfits : ∀ n ∈ sevenMem.ihdr.toList, -999999999 ≤ n.toInt := by
    intro n hn
    obtain ⟨i, rfl⟩ := Vector.mem_ofFn.mp (Vector.mem_toList_iff.mp hn)
    split <;> decide
  have hsame : sevenMem.inText wholeScan.toFloatFormat = sevenMem := by
    have hreal : readWhole (printWhole (FloatArith.lit (-12345))) = FloatArith.lit (-12345) := by
      decide +kernel
    have hprinted : undefinedText.map printed = undefinedText := by decide +kernel
    rw [SacMem.inText, sevenMem, Vector.map_replicate, Vector.map_replicate, hprinted]
    simp only [wholeScan, hreal]
  have hsac : (sevenMem.inText wholeScan.toFloatFormat).has12345 = true := by
    rw [hsame, SacMem.has12345, Bool.or_eq_true]
    exact .inr (by decide +kernel)
  have hback : sevenSamples.map (fun x => wholeScan.strtof (wholeScan.print x)) = sevenSamples := by
    decide +kernel
  have hn : sevenMem.npts = sevenSamples.length := by decide +kernel
  have hLN : (sevenSamples.length : ℤ) ≤ 10 := by decide
  have hread := arsac_awsac wholeScan true (zeroBuf 81) 8 0 (fun _ => true) zeroMem hfits hsac hn
    hLN rfl
  rw [hsame, hback] at hread
  exact hread

end SensorIoT
