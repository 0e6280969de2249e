import SensorIoT.Recorder.Headers
import SensorIoT.Sac.Read

/-!
# What a reader gets

The files of the program are read by others, while it goes on writing them and after the power has
failed.  Here the reader of the same library, `brsac`, is run on the bytes that are on the disk.

**`brsac_calls`**: at any moment between two calls of a run, it gets from a file of the program its
header and its samples, all that were written since it was created, or as many as it has room for.

A call of `writeSac` announces its samples in the header before it appends them.  If the power
fails in between, or in the middle of the samples, **`brsac_torn`** says what is lost: the reader
gets all samples that are on the disk, and zeros for those that are not, and no error.
-/

set_option autoImplicit false

namespace SensorIoT

variable {F : Type} [FloatArith F]

/-! ## Undefined fields -/

/-- The texts that `writeSac` sets. -/
theorem findIdx_kstr :
    kstr.findIdx (streql "KNETWK") = 21 ∧ kstr.findIdx (streql "KSTNM") = 0 ∧
      kstr.findIdx (streql "KCMPNM") = 20 := by
  decide +kernel

omit [FloatArith F] in
theorem chdr_setfhv (h : SacHdr F) (strcmd : String) (x : F) : (setfhv h strcmd x).chdr = h.chdr :=
  rfl

omit [FloatArith F] in
theorem chdr_setnhv (h : SacHdr F) (strcmd : String) (n : ℤ) : (setnhv h strcmd n).chdr = h.chdr :=
  rfl

omit [FloatArith F] in
theorem chdr_setlhv (h : SacHdr F) (strcmd : String) (n : ℤ) :
    (setlhv h strcmd n).chdr = h.chdr := by
  rw [setlhv]
  split <;> rfl

omit [FloatArith F] in
/-- A header with a text that says it is undefined. -/
def SacHdr.Undefined (h : SacHdr F) : Prop := pad8 "-12345  ".toList ∈ h.chdr.toList

/-- The name of the event is never set. -/
theorem undefined_sacHeader (d : FullDate) (v : DepValues F) (npts : ℤ) (dt b e : F)
    (axis : List Char) : (sacHeader d v npts dt b e axis).Undefined := by
  obtain ⟨hnet, hstn, hcmp⟩ := findIdx_kstr
  have hnew : (newhdr : SacHdr F).chdr = Vector.replicate 24 (pad8 "-12345  ".toList) := rfl
  have hevent : (sacHeader d v npts dt b e axis).chdr.get 1 = pad8 "-12345  ".toList := by
    simp only [sacHeader, setihv_iftype, setkhv, chdr_setfhv, chdr_setnhv, chdr_setlhv, hnet, hstn,
      hcmp, hnew]
    rfl
  rw [SacHdr.Undefined, Vector.mem_toList_iff, ← hevent]
  exact Vector.getElem_mem _

/-- The header of a call has a text that is undefined. -/
def SacCall.Undefined : SacCall F → Prop
  | .createFile _ => True
  | .writeSac _ hdr _ => hdr.Undefined

theorem undefined_writeSac (d : FullDate) (v : DepValues F) (npts : ℤ) (k : ℕ) (arr : ℕ → F)
    (dt : F) (axis : List Char) (name : Path) :
    (writeSac d v npts k arr dt axis name).2.Undefined :=
  undefined_sacHeader _ _ _ _ _ _ _

omit [FloatArith F] in
theorem undefined_createDirs (r : Recorder F) (b : Reading F) :
    ∀ c ∈ (createDirs r b).2, c.Undefined := by
  have haxis : ∀ (r : Recorder F) axis, ∀ c ∈ (createDirRtc r axis b).2, c.Undefined := by
    intro r axis c hc
    rw [createDirRtc] at hc
    split at hc
    · rw [List.mem_singleton.mp hc]; trivial
    · split at hc
      · rw [List.mem_singleton.mp hc]; trivial
      · cases hc
  intro c hc
  rw [createDirs, List.mem_append, List.mem_append] at hc
  rcases hc with (hx | hy) | hz
  · exact haxis _ _ c hx
  · exact haxis _ _ c hy
  · exact haxis _ _ c hz

theorem undefined_detectAll (r : Recorder F) (b : Reading F) :
    ∀ c ∈ (r.detectAll b).2, c.Undefined := by
  intro c hc
  rw [Recorder.detectAll] at hc
  split at hc
  · obtain ⟨axis, -, hmem⟩ := List.mem_flatMap.mp hc
    rw [Recorder.detect, savePending] at hmem
    split at hmem
    · simp only [createEventFile, eventFileCalls, List.mem_cons, List.not_mem_nil, or_false] at hmem
      rcases hmem with rfl | rfl | rfl | rfl
      · trivial
      all_goals exact undefined_writeSac ..
    · cases hmem
  · cases hc

/-- **Every header a run writes has an undefined field**, as a SAC file must. -/
theorem undefined_calls (globals : Recorder F) (inputs : ℕ → Input F) (n : ℕ) :
    ∀ c ∈ calls globals inputs n, c.Undefined := by
  refine Emitter.invariant (fun _ _ calls => ∀ c ∈ calls, SacCall.Undefined c)
    (fun c hc => by cases hc) (fun n r out h c hc => ?_) n
  rcases List.mem_append.mp hc with hout | hnew
  · exact h c hout
  cases hn : inputs n with
  | restart globals' => rw [hn] at hnew; cases hnew
  | block b =>
    rw [hn, record, readAnalogInputsAndSaveData, List.mem_append, List.mem_append] at hnew
    rcases hnew with (hdirs | hdetect) | hwrite
    · exact undefined_createDirs r b c hdirs
    · exact undefined_detectAll _ b c hdetect
    · simp only [writeAll, writeAxis, List.mem_append, List.mem_singleton] at hwrite
      rcases hwrite with (rfl | rfl) | rfl <;> exact undefined_writeSac ..

omit [FloatArith F] in
/-- A file that has been written has been created. -/
theorem isCreated_of_headerOf {calls : List (SacCall F)} {name : Path} {hdr : SacHdr F}
    (h : CreatedFirst calls) (hhdr : headerOf name calls = some hdr) : IsCreated name calls := by
  obtain ⟨data, hmem⟩ := mem_of_headerOf hhdr
  obtain ⟨pre, post, hcalls⟩ := List.append_of_mem hmem
  have hpre : IsCreated name pre := h pre _ post hcalls
  rw [hcalls]
  exact List.mem_append_left _ hpre

omit [FloatArith F] in
/-- Before the first write, a file that has been created is empty, and any other does not exist. -/
theorem headOf_op_of_none {calls : List (SacCall F)} {name : Path} (h : CreatedFirst calls)
    (hnone : headerOf name calls = none) :
    (IsCreated name calls → FileStore.headOf name (calls.map SacCall.op) = some []) ∧
      (¬ IsCreated name calls → FileStore.headOf name (calls.map SacCall.op) = none) ∧
      samplesOf name calls = [] := by
  induction calls using List.reverseRecOn with
  | nil => exact ⟨fun hmem => absurd hmem List.not_mem_nil, fun _ => rfl, rfl⟩
  | append_singleton calls c ih =>
    rw [List.map_append, List.map_singleton]
    cases c with
    | createFile other =>
      rw [headerOf_createFile] at hnone
      rw [SacCall.op, FileStore.headOf_create, samplesOf_createFile]
      split at hnone
      · rename_i hother
        subst hother
        rw [if_pos rfl, if_pos rfl]
        exact ⟨fun _ => rfl, fun hnot => absurd (by simp [IsCreated]) hnot, rfl⟩
      · rename_i hne
        have hiff : IsCreated name (calls ++ [.createFile other]) ↔ IsCreated name calls := by
          simp [IsCreated, Ne.symm hne]
        rw [if_neg hne, if_neg hne, hiff]
        exact ih h.of_append hnone
    | writeSac other hdr data =>
      rw [headerOf_writeSac] at hnone
      rw [SacCall.op, FileStore.headOf_put, samplesOf_writeSac]
      split at hnone
      · cases hnone
      · rename_i hne
        have hiff :
            IsCreated name (calls ++ [.writeSac other hdr data]) ↔ IsCreated name calls := by
          simp [IsCreated]
        rw [if_neg hne, if_neg hne, hiff]
        exact ih h.of_append hnone

/-! ## Reading a file of the program -/

variable [FloatMem F]

omit [FloatArith F] [FloatMem F] in
/-- The memory of a header that counts less than 2³¹ samples says how many. -/
theorem npts_image {hdr : SacHdr F} {n : ℕ} (hnpts : hdr.npts = n) (hn : n < 2 ^ 31) :
    hdr.image.npts = n := by
  have hget : hdr.image.ihdr.get 9 = BitVec.ofInt 32 hdr.npts :=
    Vector.getElem_map (BitVec.ofInt 32) (by decide : (9 : ℕ) < 40)
  rw [SacMem.npts, hget, BitVec.toInt_ofInt, hnpts, Int.bmod_eq_of_le] <;> omega

omit [FloatArith F] [FloatMem F] in
theorem undefined_image {hdr : SacHdr F} (h : hdr.Undefined) :
    undefinedText ∈ hdr.image.chdr.toList := by
  rw [SacHdr.image, Vector.toList_map]
  exact List.mem_map.mpr ⟨_, h, rfl⟩

omit [FloatArith F] in
/-- A file on the disk that has been written. -/
theorem onDisk_of_headerOf {calls : List (SacCall F)} {name : Path} {hdr : SacHdr F}
    (h : CreatedFirst calls) (hhdr : headerOf name calls = some hdr) :
    onDisk (filesAfter calls) name
      = some ((sacCodec F).encode hdr.image
          ++ FloatMem.codec.encodeList (samplesOf name calls)) := by
  rw [onDisk, FileStore.map_apply _ (filesAfter_of_headerOf h hhdr), List.map_append,
    map_toByte_bytes, map_toByte_dataBytes]

omit [FloatMem F] in
/-- The calls made so far are all right. -/
theorem lawful_pre {globals : Recorder F} {inputs : ℕ → Input F} {n : ℕ}
    {pre : List (SacCall F)} (hpre : pre <+: calls globals inputs n) :
    Emitter.Lawful SacCall.Ok pre := by
  obtain ⟨post, hpost⟩ := hpre
  have hlawful := (recorderInv globals inputs n).lawful
  rw [← hpost] at hlawful
  exact hlawful.of_append

/-- A file that has been written is read with its header and its samples, as many as there is room
for. -/
theorem brsac_written {globals : Recorder F} {inputs : ℕ → Input F} {n : ℕ} {pre : List (SacCall F)}
    (hpre : pre <+: calls globals inputs n) {name : Path} (hsac : IsSac name) (old : SacMem F)
    {LN : ℤ} (hLN : 0 ≤ LN) (hcount : (samplesOf name pre).length < 2 ^ 31) {alloc : ℕ → Bool}
    (halloc : alloc ((samplesOf name pre).take LN.toNat).length = true) {hdr : SacHdr F}
    (hhdr : headerOf name pre = some hdr) :
    brsac alloc old (onDisk (filesAfter pre)) LN name
      = ⟨if LN < (samplesOf name pre).length then -2 else 0, hdr.image.clip LN,
          some ((samplesOf name pre).take LN.toNat)⟩ := by
  have hlawful := lawful_pre hpre
  have hnpts := npts_image (header_of_ok hlawful (fun _ => hsac) hhdr).1 hcount
  have hundef : hdr.Undefined := by
    obtain ⟨data, hmem⟩ := mem_of_headerOf hhdr
    exact undefined_calls globals inputs n _ (hpre.subset hmem)
  have hfile := onDisk_of_headerOf (createdFirst_of_ok hlawful) hhdr
  have hmin : (min LN hdr.image.npts).toNat = min LN.toNat (samplesOf name pre).length := by
    omega
  rw [List.length_take] at halloc
  rw [brsac_samples hfile (undefined_image hundef) hLN (by omega) (by rw [hmin, halloc]), hmin,
    freadData_encodeList (Nat.min_le_right _ _), hnpts, ← List.take_eq_take_min]

/-- **What a reader gets from a file of the program**, between any two calls of a run: nothing
from a file that does not exist or has not been written yet, and else the header of the last write
and the samples of all of them, as many as there is room for. -/
theorem brsac_calls (globals : Recorder F) (inputs : ℕ → Input F) (n : ℕ) {pre : List (SacCall F)}
    (hpre : pre <+: calls globals inputs n) (name : Path) (hsac : IsSac name) (old : SacMem F)
    (LN : ℤ) (hLN : 0 ≤ LN) (hcount : (samplesOf name pre).length < 2 ^ 31) (alloc : ℕ → Bool)
    (halloc : alloc ((samplesOf name pre).take LN.toNat).length = true) :
    (¬ IsCreated name pre → (brsac alloc old (onDisk (filesAfter pre)) LN name).nerr = -1) ∧
    (IsCreated name pre → headerOf name pre = none →
      (brsac alloc old (onDisk (filesAfter pre)) LN name).nerr = -3) ∧
    ∀ hdr, headerOf name pre = some hdr →
      brsac alloc old (onDisk (filesAfter pre)) LN name
        = ⟨if LN < (samplesOf name pre).length then -2 else 0, hdr.image.clip LN,
            some ((samplesOf name pre).take LN.toNat)⟩ := by
  have hcreatedFirst := createdFirst_of_ok (lawful_pre hpre)
  have hafter := FileStore.after_eq hcreatedFirst.created (headLength pre) name
  rw [← filesAfter_eq, dataOf_op] at hafter
  refine ⟨fun hnot => ?_, fun hcreated hnone => ?_, fun hdr hhdr => ?_⟩
  · have hnone : headerOf name pre = none := by
      rw [Option.eq_none_iff_forall_ne_some]
      intro hdr hhdr
      exact hnot (isCreated_of_headerOf hcreatedFirst hhdr)
    rw [(headOf_op_of_none hcreatedFirst hnone).2.1 hnot] at hafter
    have hdisk : onDisk (filesAfter pre) name = none := by
      rw [onDisk, FileStore.map, hafter]
      rfl
    rw [brsac, hdisk]
  · obtain ⟨hhead, -, hnil⟩ := headOf_op_of_none hcreatedFirst hnone
    rw [hhead hcreated, hnil] at hafter
    have hdisk : onDisk (filesAfter pre) name = some [] := FileStore.map_apply _ hafter
    rw [brsac, hdisk]
    rfl
  · exact brsac_written hpre hsac old hLN hcount halloc hhdr

/-! ## A small instance in single precision -/

/-- The globals of a process run with `-f 40` and without `-v` on the board. -/
def single40 : Recorder Float32 where
  sps := continuous40.sps
  dt := FloatArith.lit (1 / 40)
  flagEvent := false
  params := ⟨40, 1, 40, FloatArith.lit 3, FloatArith.lit (3 / 2), 0, 40, 40⟩
  currentDirectory := fun _ => []
  strFullDate := ⟨0, 0, 0, 0, 0, 0, 0⟩
  strDepValues := ⟨0, 0, 0, 0, 0, 0⟩
  event := fun _ => EventData.init

/-- A block of counts, with a time of the RTC. -/
def ramp (time : String) : Input Float32 :=
  .block
    { date := "050517".toList, time := time.toList, isGPS := false
      data := fun _ i => (i : Float32)
      memDir := fun _ => ⟨[], [], [], [], [], [], []⟩
      memEvent := fun _ => ⟨[], [], [], [], [], [], []⟩
      memStart := fun _ _ => ⟨[], [], []⟩, memStop := fun _ _ => ⟨[], [], []⟩ }

/-- Blocks at noon. -/
def noon : ℕ → Input Float32 := fun _ => ramp "120000"

/-- The vertical file of that hour. -/
def rampPath : Path := samplePath "050517".toList "120000".toList .z

/-- A reader with room for 100 samples gets the 40 of the first block. -/
theorem brsac_calls_ramp :
    (brsac (fun _ => true) (newhdr : SacHdr Float32).image
      (onDisk (filesAfter (calls single40 noon 1))) 100 rampPath).nerr = 0 := by
  obtain ⟨hdr, hhdr⟩ : ∃ hdr, headerOf rampPath (calls single40 noon 1) = some hdr :=
    ⟨_, rfl⟩
  have hlen : (samplesOf rampPath (calls single40 noon 1)).length = 40 := by
    decide +kernel
  have hread := (brsac_calls single40 noon 1 (List.prefix_refl _) rampPath
    (by decide +kernel) newhdr.image 100 (by decide) (by rw [hlen]; decide) (fun _ => true)
    rfl).2.2 hdr hhdr
  rw [hread, hlen]
  rfl

/-! ## A call that is cut off -/

omit [FloatArith F] in
/-- The disk after a call of `writeSac` that ended when `k` bytes of its data were written. -/
def tornWrite (fs : FileStore Path UInt8) (name : Path) (hdr : SacHdr F) (data : List F) (k : ℕ) :
    FileStore Path UInt8 :=
  (fs.overwrite name ((sacCodec F).encode hdr.image)).append name
    ((FloatMem.codec.encodeList data).take k)

omit [FloatArith F] in
/-- What such a call leaves in a file. -/
theorem tornWrite_apply {calls : List (SacCall F)} {name : Path} (h : CreatedFirst calls)
    (hcreated : IsCreated name calls) (hdr : SacHdr F) (data : List F) (k : ℕ) :
    tornWrite (onDisk (filesAfter calls)) name hdr data k name
      = some ((sacCodec F).encode hdr.image ++
          (FloatMem.codec.encodeList (samplesOf name calls ++ data)).take
            (4 * (samplesOf name calls).length + k)) := by
  obtain ⟨head, hhead⟩ := Option.isSome_iff_exists.mp (headOf_op_isSome hcreated)
  have hafter := FileStore.after_eq h.created (headLength calls) name
  rw [← filesAfter_eq, hhead, Option.map_some] at hafter
  have hdrop := dataPart_filesAfter h name
  rw [dataPart, hafter, Option.getD_some] at hdrop
  have hold : ((head ++ FileStore.dataOf name (calls.map SacCall.op)).map SacByte.toByte).drop
      ((sacCodec F).encode hdr.image).length
        = FloatMem.codec.encodeList (samplesOf name calls) := by
    rw [Codec.length_encode, width_sacCodec, ← List.map_drop, hdrop, map_toByte_dataBytes]
  have hlen : (FloatMem.codec.encodeList (samplesOf name calls)).length
      = 4 * (samplesOf name calls).length := by
    rw [Codec.length_encodeList, FloatMem.width_codec, Nat.mul_comm]
  have hdisk : onDisk (filesAfter calls) name
      = some ((head ++ FileStore.dataOf name (calls.map SacCall.op)).map SacByte.toByte) :=
    FileStore.map_apply _ hafter
  rw [tornWrite, FileStore.append_self (FileStore.overwrite_self hdisk), hold,
    Codec.encodeList_append, List.append_assoc, ← hlen, List.take_length_add_append]

/-- **A reader does not notice that a write was cut off.**  It gets the header that was written
first, the samples that got to the disk entirely, and zeros for those that did not. -/
theorem brsac_torn (globals : Recorder F) (inputs : ℕ → Input F) (n : ℕ) (pre : List (SacCall F))
    (name : Path) (hdr : SacHdr F) (data : List F)
    (hpre : pre ++ [.writeSac name hdr data] <+: calls globals inputs n) (hsac : IsSac name)
    (old : SacMem F) (LN : ℤ) (hLN : (samplesOf name pre ++ data).length ≤ LN)
    (hcount : (samplesOf name pre ++ data).length < 2 ^ 31) (alloc : ℕ → Bool)
    (halloc : alloc (samplesOf name pre ++ data).length = true) (k : ℕ) :
    ∃ xs, brsac alloc old (tornWrite (onDisk (filesAfter pre)) name hdr data k) LN name
        = ⟨0, hdr.image, some xs⟩ ∧
      xs.length = (samplesOf name pre ++ data).length ∧
      (∀ i < xs.length, 4 * (i + 1) ≤ 4 * (samplesOf name pre).length + k →
        xs[i]? = (samplesOf name pre ++ data)[i]?) ∧
      ∀ i < xs.length, 4 * (samplesOf name pre).length + k ≤ 4 * i →
        xs[i]? = some (FloatMem.codec.decode (List.replicate 4 0)) := by
  have hlawful := lawful_pre hpre
  obtain ⟨hcreated, -, hnpts⟩ := hlawful.last
  have hwidth : (FloatMem.codec : Codec UInt8 F).width = 4 := FloatMem.width_codec
  have hundef : hdr.Undefined :=
    undefined_calls globals inputs n _ (hpre.subset (List.mem_append_right pre List.mem_cons_self))
  have himage : hdr.image.npts = (samplesOf name pre ++ data).length := by
    refine npts_image ?_ hcount
    rw [hnpts (fun _ => hsac), List.length_append]
  have hfile := tornWrite_apply (createdFirst_of_ok hlawful.of_append) hcreated hdr data k
  have hmin : (min LN hdr.image.npts).toNat = (samplesOf name pre ++ data).length := by omega
  rw [brsac_samples hfile (undefined_image hundef) (by omega) (by omega) (by rw [hmin, halloc]),
    hmin, clip_of_le (by omega), if_neg (by omega)]
  refine ⟨_, rfl, Codec.length_decodeList, fun i hi hk => ?_, fun i hi hk => ?_⟩
  · rw [freadData, Codec.length_decodeList] at hi
    exact Codec.getElem?_decodeList_cut hi (by rw [hwidth]; omega) hi
  · rw [freadData, Codec.length_decodeList] at hi
    rw [freadData, Codec.getElem?_decodeList_blank hi, hwidth]
    · rw [List.length_take, hwidth]
      omega
    · rw [hwidth, Nat.mul_comm]

/-- The first block, with no sample of the vertical file on the disk when the power fails: the
reader is given forty zeros. -/
theorem brsac_torn_ramp : ∃ pre hdr data xs,
    pre ++ [.writeSac rampPath hdr data] = calls single40 noon 1 ∧
      brsac (fun _ => true) (newhdr : SacHdr Float32).image
        (tornWrite (onDisk (filesAfter pre)) rampPath hdr data 0) 100 rampPath
          = ⟨0, hdr.image, some xs⟩ ∧ xs.length = 40 := by
  obtain ⟨pre, hdr, data, hcalls, hlen⟩ : ∃ pre hdr data,
      pre ++ [.writeSac rampPath hdr data] = calls single40 noon 1 ∧
        (samplesOf rampPath pre ++ data).length = 40 :=
    ⟨(calls single40 noon 1).take 5, _, _, rfl, by decide +kernel⟩
  have hpre : pre ++ [.writeSac rampPath hdr data] <+: calls single40 noon 1 :=
    ⟨[], by rw [hcalls, List.append_nil]⟩
  obtain ⟨xs, hread, hxs, -, -⟩ := brsac_torn single40 noon 1 pre rampPath hdr data hpre
    (by decide +kernel) newhdr.image 100 (by rw [hlen]; decide) (by rw [hlen]; decide)
    (fun _ => true) rfl 0
  exact ⟨pre, hdr, data, xs, hcalls, hread, hxs.trans hlen⟩

end SensorIoT
