import SensorIoT.Sac.Bytes

/-!
# Reading SAC files

`brsac`, `brsach` and `bwsac` of `libs/SAC_FILES/sacsubc.c`.  The reader fills `sachdr` with the
first 632 bytes of a file, looks in it for a field that says `-12345`, and reads as many samples as
its field `NPTS` says into memory that `calloc` has cleared.  It does not look whether the samples
are there.

So a file that `bwsac` has written is read back (`brsac_bwsac`), and whatever file is read without
an error, **`bwsac_brsac`** says what `bwsac` makes of it: the same bytes, cut off behind the last
sample that `NPTS` counts, or filled up with zeros until there.
-/

set_option autoImplicit false

namespace SensorIoT

variable {F : Type} [FloatMem F]

/-! ## A header in memory -/

/-- The text `-12345  `. -/
def undefinedText : Vector UInt8 8 := (pad8 "-12345  ".toList).map charByte

omit [FloatMem F] in
/-- The field `NPTS`. -/
def SacMem.npts (h : SacMem F) : ℤ := (h.ihdr.get 9).toInt

omit [FloatMem F] in
/-- `sachdr.ihdr[9] = n`. -/
def SacMem.setNpts (h : SacMem F) (n : ℤ) : SacMem F :=
  { h with ihdr := h.ihdr.setIfInBounds 9 (BitVec.ofInt 32 n) }

omit [FloatMem F] in
/-- No more samples than there is room for. -/
def SacMem.clip (LN : ℤ) (h : SacMem F) : SacMem F := if LN < h.npts then h.setNpts LN else h

/-- The test `has12345`: some field says that it is undefined. -/
def SacMem.has12345 (h : SacMem F) : Bool :=
  h.rhdr.toList.any FloatMem.isUndefined || h.ihdr.toList.any (· == BitVec.ofInt 32 (-12345))
    || h.chdr.toList.any (· == undefinedText)

section Clip

omit [FloatMem F]

variable {h : SacMem F} {LN n : ℤ}

theorem npts_setNpts (hn : -2 ^ 31 ≤ n) (hn' : n < 2 ^ 31) : (h.setNpts n).npts = n := by
  have hget : (h.setNpts n).ihdr.get 9 = BitVec.ofInt 32 n := Vector.getElem_setIfInBounds_self _
  rw [SacMem.npts, hget, BitVec.toInt_ofInt, Int.bmod_eq_of_le] <;> omega

theorem npts_lt (h : SacMem F) : h.npts < 2 ^ 31 := by
  have := BitVec.toInt_lt (x := h.ihdr.get 9)
  rw [SacMem.npts]
  omega

theorem npts_clip (hLN : 0 ≤ LN) : (h.clip LN).npts = min LN h.npts := by
  have hlt := npts_lt h
  rw [SacMem.clip]
  split
  · rw [npts_setNpts (by omega) (by omega)]
    omega
  · omega

theorem clip_of_le (hle : h.npts ≤ LN) : h.clip LN = h := if_neg (Int.not_lt.mpr hle)

/-- The second check of `brsac`, for safety, finds nothing to do. -/
theorem clip_clip (hLN : 0 ≤ LN) : (h.clip LN).clip LN = h.clip LN :=
  clip_of_le (by rw [npts_clip hLN]; exact Int.min_le_left _ _)

theorem chdr_clip : (h.clip LN).chdr = h.chdr := by
  rw [SacMem.clip]
  split <;> rfl

end Clip

theorem has12345_clip {h : SacMem F} {LN : ℤ} (hk : undefinedText ∈ h.chdr.toList) :
    (h.clip LN).has12345 = true := by
  rw [SacMem.has12345, Bool.or_eq_true, chdr_clip]
  exact .inr (List.any_eq_true.mpr ⟨_, hk, beq_self_eq_true _⟩)

/-- Replacing an entry that does not count by another one that does not. -/
theorem any_setIfInBounds {α : Type} {n : ℕ} {p : α → Bool} {v : Vector α n} {i : ℕ} {x : α}
    (hi : i < n) (hv : p (v.get ⟨i, hi⟩) = false) (hx : p x = false) :
    (v.setIfInBounds i x).toList.any p = v.toList.any p := by
  rw [Bool.eq_iff_iff, List.any_eq_true, List.any_eq_true]
  have hget : ∀ j (hj : j < n),
      (v.setIfInBounds i x).get ⟨j, hj⟩ = if i = j then x else v.get ⟨j, hj⟩ :=
    fun j hj => Vector.getElem_setIfInBounds hj
  have hmem : ∀ w : Vector α n, (∃ a ∈ w.toList, p a = true) ↔
      ∃ j, ∃ hj : j < n, p (w.get ⟨j, hj⟩) = true := by
    intro w
    constructor
    · rintro ⟨a, ha, hpa⟩
      obtain ⟨j, hj, rfl⟩ := Vector.mem_iff_getElem.mp (Vector.mem_toList_iff.mp ha)
      exact ⟨j, hj, hpa⟩
    · rintro ⟨j, hj, hpa⟩
      exact ⟨_, Vector.mem_toList_iff.mpr (Vector.getElem_mem hj), hpa⟩
  rw [hmem, hmem]
  refine exists_congr fun j => exists_congr fun hj => ?_
  rw [hget]
  split
  · subst j
    rw [hv, hx]
  · rfl

/-- Clipping neither makes nor hides a field that is undefined. -/
theorem has12345_clip_eq {h : SacMem F} {LN : ℤ} (hLN : 0 ≤ LN) :
    (h.clip LN).has12345 = h.has12345 := by
  rw [SacMem.clip]
  split
  · rename_i hlt
    have hmax := npts_lt h
    have hold : (h.ihdr.get 9 == BitVec.ofInt 32 (-12345)) = false := by
      rw [beq_eq_false_iff_ne]
      intro heq
      have : h.npts = -12345 := by rw [SacMem.npts, heq]; rfl
      omega
    have hnew : (BitVec.ofInt 32 LN == BitVec.ofInt 32 (-12345)) = false := by
      rw [beq_eq_false_iff_ne]
      intro heq
      have h1 : (h.setNpts LN).npts = LN := npts_setNpts (by omega) (by omega)
      have h2 : (BitVec.ofInt 32 LN).toInt = LN := by
        rw [BitVec.toInt_ofInt, Int.bmod_eq_of_le] <;> omega
      rw [heq] at h2
      have h3 : (BitVec.ofInt 32 (-12345)).toInt = -12345 := rfl
      omega
    rw [SacMem.has12345, SacMem.has12345]
    have hsame := any_setIfInBounds (p := (· == BitVec.ofInt 32 (-12345))) (i := 9) (by decide)
      hold hnew
    rw [SacMem.setNpts, hsame]
  · rfl

/-! ## The reader and the writer -/

/-- What a call of `brsac` leaves: the error, the header in memory, and the samples if it got as far
as to allocate them. -/
structure SacRead (F : Type) where
  nerr : ℤ
  sachdr : SacMem F
  data : Option (List F)

/-- `fread(&sachdr, 632, 1, fptr)`: the bytes there are come to lie over the old header. -/
def freadHeader (old : SacMem F) (bytes : List UInt8) : SacMem F :=
  (sacCodec F).decode (bytes.take 632 ++ ((sacCodec F).encode old).drop bytes.length)

/-- `fread(*data, 4, maxpts, fptr)` into memory filled with zeros. -/
def freadData (maxpts : ℕ) (bytes : List UInt8) : List F :=
  FloatMem.codec.decodeList maxpts (bytes ++ List.replicate (4 * maxpts) 0)

/-- The end of `brsac`, with the header clipped: `alloc n` says whether there is memory for `n`
samples.  A negative count is too large a size for `calloc`. -/
def readSamples (alloc : ℕ → Bool) (LN nerr : ℤ) (h : SacMem F) (rest : List UInt8) : SacRead F :=
  if h.has12345 = false then ⟨-3, h, none⟩
  else if h.npts < 0 ∨ alloc h.npts.toNat = false then ⟨-2, h, none⟩
  else ⟨nerr, h.clip LN, some (freadData h.npts.toNat rest)⟩

/-- `brsac`, with the header `old` in memory. -/
def brsac (alloc : ℕ → Bool) (old : SacMem F) (fs : FileStore Path UInt8) (LN : ℤ) (name : Path) :
    SacRead F :=
  match fs name with
  | none => ⟨-1, old.setNpts 0, none⟩
  | some bytes =>
    if bytes.length < 632 then ⟨-3, freadHeader old bytes, none⟩
    else
      readSamples alloc LN (if LN < (freadHeader old bytes).npts then -2 else 0)
        ((freadHeader old bytes).clip LN) (bytes.drop 632)

/-- `brsach`: the error, and the header in memory. -/
def brsach (old : SacMem F) (fs : FileStore Path UInt8) (name : Path) : ℤ × SacMem F :=
  match fs name with
  | none => (-1, old.setNpts 0)
  | some bytes =>
    (if bytes.length < 632 then -3
      else if (freadHeader old bytes).has12345 = false then -3 else 0, freadHeader old bytes)

/-- `bwsac`. -/
def bwsac (sachdr : SacMem F) (fs : FileStore Path UInt8) (LN : ℕ) (name : Path) (data : List F) :
    FileStore Path UInt8 :=
  (fs.create name).append name
    ((sacCodec F).encode sachdr ++ FloatMem.codec.encodeList (data.take LN))

section Brsac

variable {alloc : ℕ → Bool} {old h : SacMem F} {fs : FileStore Path UInt8} {LN : ℤ} {name : Path}
  {rest bytes : List UInt8}

theorem freadHeader_encode : freadHeader old ((sacCodec F).encode h ++ rest) = h := by
  have hlen : ((sacCodec F).encode h).length = 632 := by
    rw [Codec.length_encode, width_sacCodec]
  have hold : ((sacCodec F).encode old).length = 632 := by
    rw [Codec.length_encode, width_sacCodec]
  have hdrop : ((sacCodec F).encode old).drop ((sacCodec F).encode h ++ rest).length = [] :=
    List.drop_eq_nil_of_le (by rw [hold, List.length_append, hlen]; omega)
  rw [freadHeader, List.take_left' hlen, hdrop, List.append_nil, Codec.decode_encode]

/-- **A file that begins with a header is read as that header.** -/
theorem brsac_eq (hfile : fs name = some ((sacCodec F).encode h ++ rest)) :
    brsac alloc old fs LN name
      = readSamples alloc LN (if LN < h.npts then -2 else 0) (h.clip LN) rest := by
  have hlen : ((sacCodec F).encode h).length = 632 := by
    rw [Codec.length_encode, width_sacCodec]
  have hlong : ¬ ((sacCodec F).encode h ++ rest).length < 632 := by
    rw [List.length_append, hlen]
    omega
  rw [brsac, hfile]
  simp only [if_neg hlong, freadHeader_encode, List.drop_left' hlen]

/-- If the header is that of a SAC file and there is memory, samples are read. -/
theorem brsac_samples (hfile : fs name = some ((sacCodec F).encode h ++ rest))
    (hundef : undefinedText ∈ h.chdr.toList) (hLN : 0 ≤ LN) (hn : 0 ≤ h.npts)
    (halloc : alloc (min LN h.npts).toNat = true) :
    brsac alloc old fs LN name = ⟨if LN < h.npts then -2 else 0, h.clip LN,
      some (freadData (min LN h.npts).toNat rest)⟩ := by
  have hnpts : (h.clip LN).npts = min LN h.npts := npts_clip hLN
  have hroom : ¬ ((h.clip LN).npts < 0 ∨ alloc (h.clip LN).npts.toNat = false) := by
    rw [hnpts, halloc]
    rintro (hneg | hfalse)
    · omega
    · cases hfalse
  have hsac : ¬ (h.clip LN).has12345 = false := by
    rw [has12345_clip hundef]
    exact Bool.noConfusion
  rw [brsac_eq hfile, readSamples, if_neg hsac, if_neg hroom, clip_clip hLN, hnpts]

/-- **The reader of headers and the reader agree** on what is a SAC file; only the reader minds
that there is no room. -/
theorem brsach_eq (hLN : 0 ≤ LN) :
    (brsach old fs name).1 = if (brsac alloc old fs LN name).nerr = -2 then 0
      else (brsac alloc old fs LN name).nerr := by
  rw [brsach, brsac]
  cases fs name with
  | none => rfl
  | some bytes =>
    simp only
    split
    · rfl
    · rw [readSamples, has12345_clip_eq hLN]
      split
      · rfl
      · split
        · rfl
        · split <;> rfl
/-! ## Round trips -/

theorem freadData_encodeList {xs : List F} {k : ℕ} (hk : k ≤ xs.length) :
    freadData k (FloatMem.codec.encodeList xs) = xs.take k :=
  Codec.decodeList_encodeList_append hk

/-- **What `bwsac` has written is read back.** -/
theorem brsac_bwsac {xs : List F} (hundef : undefinedText ∈ h.chdr.toList)
    (hn : h.npts = xs.length) (hLN : xs.length ≤ LN) (halloc : alloc xs.length = true) :
    brsac alloc old (bwsac h fs xs.length name xs) LN name = ⟨0, h, some xs⟩ := by
  have hfile : bwsac h fs xs.length name xs name
      = some ((sacCodec F).encode h ++ FloatMem.codec.encodeList xs) := by
    rw [bwsac, FileStore.append_self FileStore.create_self, List.take_length, List.nil_append]
  have hmin : (min LN h.npts).toNat = xs.length := by omega
  rw [brsac_samples hfile hundef (by omega) (by omega) (by rw [hmin, halloc]), hmin,
    freadData_encodeList (Nat.le_refl _), List.take_length, clip_of_le (by omega),
    if_neg (by omega)]

/-- What the second part of `brsac` does if it sets no error. -/
theorem readSamples_nerr {nerr : ℤ} (hzero : (readSamples alloc LN nerr h rest).nerr = 0) :
    nerr = 0 ∧ 0 ≤ h.npts ∧
      readSamples alloc LN nerr h rest = ⟨0, h.clip LN, some (freadData h.npts.toNat rest)⟩ := by
  rw [readSamples] at hzero ⊢
  split at hzero
  · cases hzero
  · split at hzero
    · cases hzero
    · rename_i hsac hroom
      obtain rfl : nerr = 0 := hzero
      rw [if_neg hsac, if_neg hroom]
      exact ⟨rfl, not_lt.mp fun hneg => hroom (.inl hneg), rfl⟩

/-- **What is read without an error is written back byte by byte**, as far as `NPTS` reaches. -/
theorem bwsac_brsac (honto : (FloatMem.codec : Codec UInt8 F).Onto)
    (hread : (brsac alloc old fs LN name).nerr = 0) :
    ∃ bytes xs, fs name = some bytes ∧ (brsac alloc old fs LN name).data = some xs ∧
      (brsac alloc old fs LN name).sachdr.npts = xs.length ∧
      bwsac (brsac alloc old fs LN name).sachdr fs xs.length name xs name
        = some ((bytes ++ List.replicate (4 * xs.length) 0).take (632 + 4 * xs.length)) := by
  cases hfile : fs name with
  | none =>
    rw [brsac, hfile] at hread
    cases hread
  | some bytes =>
    by_cases hlen : bytes.length < 632
    · rw [brsac, hfile] at hread
      simp only [if_pos hlen] at hread
      cases hread
    · have hhead : (bytes.take 632).length = 632 := by rw [List.length_take]; omega
      have hencode : (sacCodec F).encode ((sacCodec F).decode (bytes.take 632)) = bytes.take 632 :=
        onto_sacCodec honto _ (by rw [hhead, width_sacCodec])
      have hsplit : fs name = some ((sacCodec F).encode ((sacCodec F).decode (bytes.take 632))
          ++ bytes.drop 632) := by rw [hencode, List.take_append_drop, hfile]
      generalize (sacCodec F).decode (bytes.take 632) = h at hsplit hencode
      rw [brsac_eq hsplit] at hread ⊢
      obtain ⟨hclip, hn, heq⟩ := readSamples_nerr hread
      have hle : h.npts ≤ LN := by
        by_contra hlt
        rw [if_pos (not_le.mp hlt)] at hclip
        cases hclip
      rw [heq]
      rw [clip_of_le hle] at hn ⊢
      rw [clip_of_le hle]
      obtain ⟨n, hcount⟩ := Int.eq_ofNat_of_zero_le hn
      have hnat : h.npts.toNat = n := by omega
      have hwidth : (FloatMem.codec : Codec UInt8 F).width = 4 := FloatMem.width_codec
      have hxs : (freadData n (bytes.drop 632) : List F).length = n := Codec.length_decodeList
      refine ⟨bytes, freadData n (bytes.drop 632), rfl, by rw [hnat], by rw [hxs, hcount], ?_⟩
      have hdata : FloatMem.codec.encodeList (freadData n (bytes.drop 632) : List F)
          = (bytes.drop 632 ++ List.replicate (4 * n) 0).take (4 * n) := by
        have hroom : n * (FloatMem.codec : Codec UInt8 F).width
            ≤ (bytes.drop 632 ++ List.replicate (4 * n) 0).length := by
          rw [hwidth, List.length_append, List.length_replicate]
          omega
        rw [freadData, honto.encodeList_decodeList hroom, hwidth, Nat.mul_comm]
      have hcut : (bytes ++ List.replicate (4 * n) 0).take (632 + 4 * n)
          = bytes.take 632 ++ (bytes.drop 632 ++ List.replicate (4 * n) 0).take (4 * n) := by
        rw [List.take_add, List.take_append_of_le_length (by omega),
          List.drop_append_of_le_length (by omega)]
      rw [hxs, bwsac, FileStore.append_self FileStore.create_self, hnat,
        List.take_of_length_le (Nat.le_of_eq hxs), List.nil_append, hencode, hdata, hcut]

end Brsac

/-- A header that announces one sample. -/
def bareMem : SacMem (BitVec 32) where
  rhdr := Vector.replicate 70 0
  ihdr := Vector.ofFn fun i => if i.val = 9 then 1 else 0
  chdr := Vector.replicate 24 undefinedText

/-- A file of which nothing but the header was written. -/
def bareFile : FileStore Path UInt8 :=
  (FileStore.empty.create ['f']).append ['f'] ((sacCodec _).encode bareMem)

/-- Writing it back adds the sample, a zero. -/
theorem bwsac_brsac_bareFile :
    bwsac (brsac (fun _ => true) bareMem bareFile 10 ['f']).sachdr bareFile 1 ['f'] [0] ['f']
      = some ((sacCodec _).encode bareMem ++ [0, 0, 0, 0]) := by
  have hfile : bareFile ['f'] = some ((sacCodec _).encode bareMem ++ []) := by
    rw [bareFile, FileStore.append_self FileStore.create_self, List.nil_append, List.append_nil]
  have hundef : undefinedText ∈ bareMem.chdr.toList := by decide +kernel
  have hnpts : bareMem.npts = 1 := by decide +kernel
  have hread : brsac (fun _ => true) bareMem bareFile 10 ['f'] = ⟨0, bareMem, some [0]⟩ := by
    rw [brsac_samples hfile hundef (by decide) (by rw [hnpts]; decide) rfl, hnpts,
      clip_of_le (by rw [hnpts]; decide)]
    rfl
  obtain ⟨bytes, xs, hbytes, hxs, -, hwrite⟩ := bwsac_brsac Codec.onto_word32
    (show (brsac (fun _ => true) bareMem bareFile 10 ['f']).nerr = 0 by rw [hread])
  rw [hread] at hxs hwrite
  rw [hfile] at hbytes
  obtain rfl : [0] = xs := Option.some.inj hxs
  obtain rfl : (sacCodec _).encode bareMem ++ [] = bytes := Option.some.inj hbytes
  have hlen : ((sacCodec _).encode bareMem ++ [] ++ List.replicate (4 * 1) 0).length
      ≤ 632 + 4 * 1 := by
    rw [List.length_append, List.append_nil, Codec.length_encode, width_sacCodec]
    rfl
  rw [hread]
  refine hwrite.trans ?_
  rw [List.length_singleton, List.take_of_length_le hlen, List.append_nil]
  rfl

end SensorIoT
