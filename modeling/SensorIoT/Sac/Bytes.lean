import SensorIoT.Lib.Codec
import SensorIoT.Sac.Files
import SensorIoT.Single

/-!
# SAC files as bytes

`fwrite(&sachdr, ...)` writes the memory of a `struct sachdr_`, and `fread` fills it: seventy reals,
forty integers and twenty-four texts of eight characters, in 632 bytes.  `SacMem` is that memory,
`sacCodec` how it lies there, and `SacHdr.image` the memory of a header.

In `SensorIoT.Sac.Files` a byte of a file is a part of a real, a part of an integer or a character.
`onDisk` replaces each of these by the byte it is, and what the program does to its files is the
same on both levels (`onDisk_exec`).
-/

set_option autoImplicit false

namespace SensorIoT

/-- A number that has a place in memory. -/
class FloatMem (F : Type) where
  codec : Codec UInt8 F
  width_codec : codec.width = 4
  /-- The comparison `== -12345.0`. -/
  isUndefined : F → Bool

/-- A `float` of the board, the lowest byte first. -/
instance : FloatMem Float32 where
  codec :=
    { width := 4
      encode := fun x => Codec.word32.encode x.toBits.toBitVec
      decode := fun bs => Float32.ofBits ⟨Codec.word32.decode bs⟩
      length_encode := fun x => Codec.word32.length_encode _
      decode_encode := fun x => by rw [Codec.word32.decode_encode]; exact Float32.ofBits_toBits x }
  width_codec := rfl
  isUndefined x := FloatArith.feq x (FloatArith.lit (-12345))

/-- A `float` as nothing but its bits, any of them a value of its own. -/
instance : FloatMem (BitVec 32) where
  codec := Codec.word32
  width_codec := rfl
  isUndefined x := x == 0xC640E400#32

variable {F : Type} [FloatMem F]

/-! ## The memory of a header -/

/-- `struct sachdr_` in memory. -/
structure SacMem (F : Type) where
  rhdr : Vector F 70
  ihdr : Vector (BitVec 32) 40
  chdr : Vector (Vector UInt8 8) 24

/-- The members of the structure, one after the other. -/
def SacMem.members (F : Type) :
    SacMem F ≃ Vector F 70 × Vector (BitVec 32) 40 × Vector (Vector UInt8 8) 24 where
  toFun h := (h.rhdr, h.ihdr, h.chdr)
  invFun h := ⟨h.1, h.2.1, h.2.2⟩
  left_inv _ := rfl
  right_inv _ := rfl

/-- How a header lies in memory. -/
def sacCodec (F : Type) [FloatMem F] : Codec UInt8 (SacMem F) :=
  ((FloatMem.codec.array 70).pair ((Codec.word32.array 40).pair ((Codec.byte.array 8).array 24)))
    |>.ofEquiv (SacMem.members F)

theorem width_sacCodec : (sacCodec F).width = 632 := by
  change 70 * (FloatMem.codec : Codec UInt8 F).width + (40 * 4 + 24 * (8 * 1)) = 632
  rw [FloatMem.width_codec]

theorem onto_sacCodec (h : (FloatMem.codec : Codec UInt8 F).Onto) : (sacCodec F).Onto :=
  ((h.array 70).pair ((Codec.onto_word32.array 40).pair ((Codec.onto_byte.array 8).array 24)))
    |>.ofEquiv (SacMem.members F)

/-- The byte of a character. -/
def charByte (c : Char) : UInt8 := UInt8.ofNat c.toNat

omit [FloatMem F] in
/-- The memory of a header, whose integers are `int`s there. -/
def SacHdr.image (h : SacHdr F) : SacMem F where
  rhdr := h.rhdr
  ihdr := h.ihdr.map (BitVec.ofInt 32)
  chdr := h.chdr.map fun k => k.map charByte

/-- A byte of a file as the byte it is. -/
def SacByte.toByte : SacByte F → UInt8
  | .real x i => ((FloatMem.codec : Codec UInt8 F).encode x).getD i 0
  | .int n i => (Codec.word32.encode (BitVec.ofInt 32 n)).getD i 0
  | .char c => charByte c

theorem map_toByte_realBytes (x : F) :
    (realBytes x).map SacByte.toByte = (FloatMem.codec : Codec UInt8 F).encode x := by
  have hlen : ((FloatMem.codec : Codec UInt8 F).encode x).length = 4 := by
    rw [Codec.length_encode, FloatMem.width_codec]
  simp only [realBytes, List.map_cons, List.map_nil, SacByte.toByte]
  generalize (FloatMem.codec : Codec UInt8 F).encode x = bs at hlen
  match bs, hlen with
  | [a, b, c, d], _ => rfl

theorem map_toByte_dataBytes (xs : List F) :
    (dataBytes xs).map SacByte.toByte = FloatMem.codec.encodeList xs := by
  rw [dataBytes, List.map_flatMap]
  exact List.flatMap_congr fun x _ => map_toByte_realBytes x

/-- **The bytes of a header are its memory.** -/
theorem map_toByte_bytes (h : SacHdr F) :
    h.bytes.map SacByte.toByte = (sacCodec F).encode h.image := by
  have hreal : (h.rhdr.toList.flatMap realBytes).map SacByte.toByte
      = (FloatMem.codec : Codec UInt8 F).encodeList h.rhdr.toList :=
    map_toByte_dataBytes h.rhdr.toList
  have hint : (h.ihdr.toList.flatMap (intBytes (F := F))).map SacByte.toByte
      = Codec.word32.encodeList h.image.ihdr.toList := by
    rw [List.map_flatMap, Codec.encodeList, SacHdr.image, Vector.toList_map, List.flatMap_map]
    exact List.flatMap_congr fun n _ => rfl
  have hchar : (h.chdr.toList.flatMap fun k => k.toList.map (SacByte.char (F := F))).map
      SacByte.toByte = (Codec.byte.array 8).encodeList h.image.chdr.toList := by
    rw [List.map_flatMap, Codec.encodeList, SacHdr.image, Vector.toList_map, List.flatMap_map]
    refine List.flatMap_congr fun k _ => ?_
    have hk : (k.map charByte).toList = k.toList.map charByte := Vector.toList_map
    change _ = ((k.map charByte).toList).flatMap fun b => [b]
    rw [hk, List.flatMap_map, List.map_map]
    exact List.map_eq_flatMap
  rw [SacHdr.bytes, List.map_append, List.map_append, hreal, hint, hchar, List.append_assoc]
  rfl

/-! ## Files on the disk -/

/-- The files, as the bytes that are on the disk. -/
def onDisk (fs : Files F) : FileStore Path UInt8 := fs.map SacByte.toByte

/-- The effect of a call on the disk. -/
def SacCall.execDisk (fs : FileStore Path UInt8) : SacCall F → FileStore Path UInt8
  | .createFile name => fs.create name
  | .writeSac name hdr data =>
    (fs.overwrite name ((sacCodec F).encode hdr.image)).append name (FloatMem.codec.encodeList data)

/-- **A call does the same to the files and to what is on the disk.** -/
theorem onDisk_exec (fs : Files F) (c : SacCall F) :
    onDisk (c.exec fs) = c.execDisk (onDisk fs) := by
  cases c with
  | createFile name => exact FileStore.map_create _
  | writeSac name hdr data =>
    rw [SacCall.exec, updateData, updateHeaders, onDisk, FileStore.map_append,
      FileStore.map_overwrite, map_toByte_bytes, map_toByte_dataBytes]
    rfl

theorem onDisk_filesAfter (calls : List (SacCall F)) :
    onDisk (filesAfter calls) = calls.foldl SacCall.execDisk FileStore.empty := by
  induction calls using List.reverseRecOn with
  | nil => rfl
  | append_singleton calls c ih =>
    rw [List.foldl_append, List.foldl_cons, List.foldl_nil, ← ih, ← onDisk_exec, filesAfter,
      List.foldl_append]
    rfl

end SensorIoT
