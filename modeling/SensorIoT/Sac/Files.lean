import SensorIoT.Lib.FileStore
import SensorIoT.Sac.Header
import SensorIoT.CString

/-!
# Writing SAC files

The part of `libs/SAC_FILES/sacsubc.c` that writes files, with `scmxmn` and the routine `writeSac`
of `SensorIoT.c` that drives them.

The program never reads a file back, so what it does to its files is a list of calls, and the files
are what the calls make of them.  A `SacCall` is one call of `createFile` or of `writeSac`;
`SacCall.exec` is its effect.  `writeSac` rewrites the header through one open mode and appends the
data through another.
-/

set_option autoImplicit false

namespace SensorIoT

variable {F : Type} [FloatArith F]

/-- `fullDate`. -/
structure FullDate where
  year : ℤ
  month : ℤ
  day : ℤ
  hour : ℤ
  min : ℤ
  seg : ℤ
  mseg : ℤ

/-- `depValues`. -/
structure DepValues (F : Type) where
  depmax : F
  depmin : F
  depmen : F
  dt : F
  npts : ℤ
  dataNumber : ℕ

/-! ## Extrema -/

/-- One turn of the loop of `scmxmn`: the maximum and the minimum so far, and the sum. -/
def scmxmnBody (x : ℕ → F) (acc : F × F × FloatArith.Double F) (i : ℕ) :
    F × F × FloatArith.Double F :=
  (if acc.1 < x i then x i else acc.1, if x i < acc.2.1 then x i else acc.2.1,
    FloatArith.addDouble acc.2.2 (x i))

/-- `scmxmn`: accumulate the extrema of an array into `depmax` and `depmin`, and set `depmen`. -/
def scmxmn (x : ℕ → F) (npts : ℕ) (d : DepValues F) : DepValues F :=
  let acc := (List.range npts).foldl (scmxmnBody x)
    (FloatArith.lit (-(10 ^ 38)), FloatArith.lit (10 ^ 38), FloatArith.zeroDouble)
  let depmen :=
    if 0 < npts then FloatArith.divDouble acc.2.2 npts else FloatArith.lit (-12345)
  if FloatArith.feq d.depmax (FloatArith.lit 0) && FloatArith.feq d.depmin (FloatArith.lit 0) then
    { d with depmax := acc.1, depmin := acc.2.1, depmen := depmen }
  else
    { d with
      depmax := if d.depmax < acc.1 then acc.1 else d.depmax
      depmin := if acc.2.1 < d.depmin then acc.2.1 else d.depmin
      depmen := depmen }

/-! ## Files -/

/-- The name of a file. -/
abbrev Path := List Char

/-- The files of the program. -/
abbrev Files (F : Type) := FileStore Path (SacByte F)

omit [FloatArith F] in
/-- `createFile`. -/
def createFile (fs : Files F) (name : Path) : Files F := fs.create name

omit [FloatArith F] in
/-- `updateHeaders`. -/
def updateHeaders (fs : Files F) (name : Path) (h : SacHdr F) : Files F :=
  fs.overwrite name h.bytes

omit [FloatArith F] in
/-- `updateData`. -/
def updateData (fs : Files F) (name : Path) (data : List F) : Files F :=
  fs.append name (dataBytes data)

/-- A call that changes a file. -/
inductive SacCall (F : Type) where
  /-- `createFile(name)`. -/
  | createFile (name : Path)
  /-- The end of `writeSac`: `updateHeaders(name)` and `updateData(name, data)`. -/
  | writeSac (name : Path) (hdr : SacHdr F) (data : List F)

/-- The file a call is about. -/
def SacCall.name {F : Type} : SacCall F → Path
  | .createFile name => name
  | .writeSac name _ _ => name

omit [FloatArith F] in
/-- The effect of a call. -/
def SacCall.exec (fs : Files F) : SacCall F → Files F
  | .createFile name => SensorIoT.createFile fs name
  | .writeSac name hdr data => updateData (updateHeaders fs name hdr) name data

omit [FloatArith F] in
/-- The files after a list of calls, none existing before. -/
def filesAfter (calls : List (SacCall F)) : Files F := calls.foldl SacCall.exec FileStore.empty

/-! ## What a file holds -/

omit [FloatArith F] in
/-- A call as an operation on a file that consists of a head and data. -/
def SacCall.op : SacCall F → FileStore.Op Path (SacByte F)
  | .createFile name => .create name
  | .writeSac name hdr data => .put name hdr.bytes (dataBytes data)

omit [FloatArith F] in
/-- The samples of a file: all that were written to it since it was created, in order. -/
def samplesOf (name : Path) (calls : List (SacCall F)) : List F :=
  calls.foldl (fun acc call => match call with
    | .createFile n => if n = name then [] else acc
    | .writeSac n _ data => if n = name then acc ++ data else acc) []

omit [FloatArith F] in
/-- The header of a file: of the last write since it was created. -/
def headerOf (name : Path) (calls : List (SacCall F)) : Option (SacHdr F) :=
  calls.foldl (fun acc call => match call with
    | .createFile n => if n = name then none else acc
    | .writeSac n hdr _ => if n = name then some hdr else acc) none

omit [FloatArith F] in
/-- The file has been created. -/
def IsCreated (name : Path) (calls : List (SacCall F)) : Prop := .createFile name ∈ calls

section Contents

omit [FloatArith F]

variable {name other : Path} {calls : List (SacCall F)} {hdr : SacHdr F} {data : List F}

@[simp] theorem samplesOf_createFile :
    samplesOf name (calls ++ [.createFile other])
      = if other = name then [] else samplesOf name calls := by
  simp [samplesOf, List.foldl_append]

@[simp] theorem samplesOf_writeSac :
    samplesOf name (calls ++ [.writeSac other hdr data])
      = if other = name then samplesOf name calls ++ data else samplesOf name calls := by
  simp [samplesOf, List.foldl_append]

/-- Calls about other files do not matter to a fold that only looks at one file. -/
theorem foldl_append_of_ne {β : Type} {f : β → SacCall F → β} {more : List (SacCall F)}
    (hf : ∀ acc c, c.name ≠ name → f acc c = acc) (h : ∀ c ∈ more, c.name ≠ name) (init : β) :
    (calls ++ more).foldl f init = calls.foldl f init := by
  rw [List.foldl_append]
  induction more with
  | nil => rfl
  | cons c more ih =>
    rw [List.foldl_cons, hf _ c (h c List.mem_cons_self)]
    exact ih fun d hd => h d (List.mem_cons_of_mem c hd)

theorem samplesOf_append_of_ne {more : List (SacCall F)} (h : ∀ c ∈ more, c.name ≠ name) :
    samplesOf name (calls ++ more) = samplesOf name calls := by
  refine foldl_append_of_ne (fun acc c hc => ?_) h []
  cases c <;> exact if_neg hc

theorem headerOf_append_of_ne {more : List (SacCall F)} (h : ∀ c ∈ more, c.name ≠ name) :
    headerOf name (calls ++ more) = headerOf name calls := by
  refine foldl_append_of_ne (fun acc c hc => ?_) h none
  cases c <;> exact if_neg hc

/-- Files created in a row. -/
theorem samplesOf_createFiles {ι : Type} (dir : ι → Path) (axes : List ι) :
    samplesOf name (calls ++ axes.map fun axis => .createFile (dir axis))
      = if ∃ axis ∈ axes, dir axis = name then [] else samplesOf name calls := by
  induction axes using List.reverseRecOn with
  | nil => simp
  | append_singleton axes axis ih =>
    rw [List.map_append, List.map_singleton, ← List.append_assoc, samplesOf_createFile, ih]
    by_cases h : dir axis = name
    · rw [if_pos h, if_pos ⟨axis, by simp, h⟩]
    · rw [if_neg h]
      congr 1
      simp [h]

/-- Files written in a row. -/
theorem samplesOf_writeSacs {ι : Type} (dir : ι → Path) (hdr : ι → SacHdr F) (xs : ι → List F)
    (axes : List ι) :
    samplesOf name (calls ++ axes.map fun axis => .writeSac (dir axis) (hdr axis) (xs axis))
      = samplesOf name calls ++ (axes.filter fun axis => dir axis = name).flatMap xs := by
  induction axes using List.reverseRecOn with
  | nil => simp
  | append_singleton axes axis ih =>
    rw [List.map_append, List.map_singleton, ← List.append_assoc, samplesOf_writeSac, ih,
      List.filter_append, List.flatMap_append, ← List.append_assoc]
    by_cases h : dir axis = name <;> simp [h]

theorem filesAfter_eq (calls : List (SacCall F)) :
    filesAfter calls = FileStore.after (calls.map SacCall.op) := by
  have hexec : SacCall.exec (F := F) = fun fs c => FileStore.Op.exec fs c.op := by
    funext fs c
    cases c <;> rfl
  rw [filesAfter, FileStore.after, List.foldl_map, hexec]

theorem dataOf_op (name : Path) (calls : List (SacCall F)) :
    FileStore.dataOf name (calls.map SacCall.op) = dataBytes (samplesOf name calls) := by
  induction calls using List.reverseRecOn with
  | nil => rfl
  | append_singleton calls c ih =>
    rw [List.map_append, List.map_singleton]
    cases c with
    | createFile n =>
      rw [SacCall.op, FileStore.dataOf_create, samplesOf_createFile, ih]
      split <;> rfl
    | writeSac n hdr data =>
      rw [SacCall.op, FileStore.dataOf_put, samplesOf_writeSac, ih]
      split
      · rw [dataBytes_append]
      · rfl

theorem headOf_op_isSome (h : IsCreated name calls) :
    (FileStore.headOf name (calls.map SacCall.op)).isSome = true := by
  induction calls using List.reverseRecOn with
  | nil => cases h
  | append_singleton calls c ih =>
    rw [List.map_append, List.map_singleton]
    cases c with
    | createFile n =>
      rw [SacCall.op, FileStore.headOf_create]
      split
      · rfl
      · rename_i hne
        refine ih ?_
        simpa [IsCreated, Ne.symm hne] using h
    | writeSac n hdr data =>
      rw [SacCall.op, FileStore.headOf_put]
      split
      · rfl
      · exact ih (by simpa [IsCreated] using h)

/-- No file is written before it is created. -/
def CreatedFirst (calls : List (SacCall F)) : Prop :=
  Emitter.Lawful (fun pre c => match c with
    | .createFile _ => True
    | .writeSac name _ _ => IsCreated name pre) calls

theorem CreatedFirst.created (h : CreatedFirst calls) :
    FileStore.Created (calls.map SacCall.op) := by
  induction calls using List.reverseRecOn with
  | nil => exact Emitter.lawful_nil
  | append_singleton calls c ih =>
    rw [List.map_append, List.map_singleton]
    refine Emitter.Lawful.concat (ih h.of_append) ?_
    cases c with
    | createFile n => trivial
    | writeSac n hdr data => exact headOf_op_isSome h.last

theorem headLength (calls : List (SacCall F)) :
    FileStore.HeadLength 632 (calls.map SacCall.op) := by
  intro name head data hmem
  obtain ⟨c, -, hc⟩ := List.mem_map.mp hmem
  cases c with
  | createFile n => cases hc
  | writeSac n hdr xs =>
    cases hc
    exact hdr.length_bytes

@[simp] theorem headerOf_createFile :
    headerOf name (calls ++ [.createFile other])
      = if other = name then none else headerOf name calls := by
  simp [headerOf, List.foldl_append]

@[simp] theorem headerOf_writeSac :
    headerOf name (calls ++ [.writeSac other hdr data])
      = if other = name then some hdr else headerOf name calls := by
  simp [headerOf, List.foldl_append]

/-- A header in a file was written to it. -/
theorem mem_of_headerOf (h : headerOf name calls = some hdr) :
    ∃ data, .writeSac name hdr data ∈ calls := by
  induction calls using List.reverseRecOn with
  | nil => cases h
  | append_singleton calls c ih =>
    have hinit : headerOf name calls = some hdr →
        ∃ data, .writeSac name hdr data ∈ calls ++ [c] := by
      rintro hcalls
      obtain ⟨data, hmem⟩ := ih hcalls
      exact ⟨data, List.mem_append_left _ hmem⟩
    cases c with
    | createFile other =>
      rw [headerOf_createFile] at h
      split at h
      · cases h
      · exact hinit h
    | writeSac other hdr' data =>
      rw [headerOf_writeSac] at h
      split at h
      · rename_i hother
        cases h
        exact ⟨data, by simp [hother]⟩
      · exact hinit h

theorem headOf_op (h : headerOf name calls = some hdr) :
    FileStore.headOf name (calls.map SacCall.op) = some hdr.bytes := by
  induction calls using List.reverseRecOn with
  | nil => cases h
  | append_singleton calls c ih =>
    rw [List.map_append, List.map_singleton]
    cases c with
    | createFile n =>
      rw [headerOf_createFile] at h
      split at h
      · cases h
      · rw [SacCall.op, FileStore.headOf_create, if_neg ‹_›, ih h]
    | writeSac n hdr' data =>
      rw [headerOf_writeSac] at h
      split at h
      · cases h
        rw [SacCall.op, FileStore.headOf_put, if_pos ‹_›]
      · rw [SacCall.op, FileStore.headOf_put, if_neg ‹_›, ih h]

/-- **What is in a file that has been written**: its header, and all samples since it was
created. -/
theorem filesAfter_of_headerOf (h : CreatedFirst calls) (hhdr : headerOf name calls = some hdr) :
    filesAfter calls name = some (hdr.bytes ++ dataBytes (samplesOf name calls)) := by
  rw [filesAfter_eq, FileStore.after_eq h.created (headLength calls), headOf_op hhdr, dataOf_op]
  rfl

/-- The data part of a file, behind its header. -/
def dataPart (fs : Files F) (name : Path) : List (SacByte F) := ((fs name).getD []).drop 632

theorem dataPart_filesAfter (h : CreatedFirst calls) (name : Path) :
    dataPart (filesAfter calls) name = dataBytes (samplesOf name calls) := by
  rw [dataPart, filesAfter_eq, FileStore.drop_after h.created (headLength calls), dataOf_op]

end Contents

/-- The header that `writeSac` sets up. -/
def sacHeader (d : FullDate) (v : DepValues F) (npts : ℤ) (dt b e : F) (axis : List Char) :
    SacHdr F :=
  let h : SacHdr F := newhdr
  let h := setfhv h "DEPMAX" v.depmax
  let h := setfhv h "DEPMIN" v.depmin
  let h := setfhv h "DEPMEN" v.depmen
  let h := setnhv h "NPTS    " npts
  let h := setfhv h "DELTA   " dt
  let h := setfhv h "B       " b
  let h := setihv h "IFTYPE  " "ITIME   "
  let h := setfhv h "E       " e
  let h := setlhv h "LEVEN   " 1
  let h := setlhv h "LOVROK  " 1
  let h := setlhv h "LCALDA  " 1
  let h := setnhv h "NZYEAR" d.year
  let h := setnhv h "NZJDAY" d.day
  let h := setnhv h "NZHOUR" d.hour
  let h := setnhv h "NZMIN" d.min
  let h := setnhv h "NZSEC" d.seg
  let h := setnhv h "NZMSEC" d.mseg
  let h := setkhv h "KNETWK" "MEC".toList
  let h := setkhv h "KSTNM" "POP".toList
  setkhv h "KCMPNM" axis

/-- `writeSac`: the values it leaves in `strDepVal`, and the call it makes. -/
def writeSac (d : FullDate) (v : DepValues F) (npts : ℤ) (dataNumber : ℕ) (arr : ℕ → F) (dt : F)
    (axis : List Char) (filename : Path) : DepValues F × SacCall F :=
  let b : F := FloatArith.lit 0
  let e := b + ((npts - 1 : ℤ) : F) * dt
  let v := scmxmn arr dataNumber v
  (v, .writeSac filename (sacHeader d v npts dt b e axis) ((List.range dataNumber).map arr))

/-! ## What a header says -/

omit [FloatArith F] in
/-- The field `NPTS`, the tenth integer. -/
def SacHdr.npts (h : SacHdr F) : ℤ := h.ihdr[9]

omit [FloatArith F] in
/-- The field `DELTA`, the first real. -/
def SacHdr.delta (h : SacHdr F) : F := h.rhdr[0]

omit [FloatArith F] in
/-- The field `E`, the seventh real. -/
def SacHdr.e (h : SacHdr F) : F := h.rhdr[6]

omit [FloatArith F] in
/-- The field `DEPMIN`, the second real. -/
def SacHdr.depmin (h : SacHdr F) : F := h.rhdr[1]

omit [FloatArith F] in
/-- The field `DEPMAX`, the third real. -/
def SacHdr.depmax (h : SacHdr F) : F := h.rhdr[2]

omit [FloatArith F] in
/-- The field `KCMPNM`, the twenty-first string. -/
def SacHdr.kcmpnm (h : SacHdr F) : Vector Char 8 := h.chdr[20]

/-- `writeSac` sets the fields it is meant to set: what it sets later falls on other fields. -/
theorem sacHeader_fields (d : FullDate) (v : DepValues F) (npts : ℤ) (dt b e : F)
    (axis : List Char) :
    (sacHeader d v npts dt b e axis).npts = npts ∧ (sacHeader d v npts dt b e axis).delta = dt ∧
      (sacHeader d v npts dt b e axis).e = e := by
  simp [sacHeader, SacHdr.npts, SacHdr.delta, SacHdr.e, setihv_iftype, setlhv, setfhv, setnhv,
    setkhv, findIdx_rstr, findIdx_istr]

/-- The extrema in a header are those of the values it is made of. -/
theorem sacHeader_extrema (d : FullDate) (v : DepValues F) (npts : ℤ) (dt b e : F)
    (axis : List Char) :
    (sacHeader d v npts dt b e axis).depmin = v.depmin ∧
      (sacHeader d v npts dt b e axis).depmax = v.depmax := by
  simp [sacHeader, SacHdr.depmin, SacHdr.depmax, setihv_iftype, setlhv, setfhv, setnhv, setkhv,
    findIdx_rstr]

/-- The component in a header is the axis it is made for. -/
theorem sacHeader_kcmpnm (d : FullDate) (v : DepValues F) (npts : ℤ) (dt b e : F)
    (axis : List Char) : (sacHeader d v npts dt b e axis).kcmpnm = pad8 axis := by
  have hidx : kstr.findIdx (streql "KCMPNM") = 20 := by decide +kernel
  rw [sacHeader, SacHdr.kcmpnm, setkhv]
  simp only [hidx]
  exact Vector.getElem_setIfInBounds_self _

end SensorIoT
