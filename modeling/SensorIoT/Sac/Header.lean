import SensorIoT.Arith
import Mathlib.Data.List.Basic

/-!
# The SAC header

The part of `libs/SAC_FILES/sacsubc.c` that builds a header.  A header has 70 reals, 40 integers
and 24 strings of eight characters, and the setters find the field to write by looking its name up
in a table, padded with blanks to eight characters.  The tables stand here as they stand in the
source, so that which field a setter writes is computed and not assumed.
-/

set_option autoImplicit false

namespace SensorIoT

/-- `struct sachdr_`. -/
structure SacHdr (F : Type) where
  rhdr : Vector F 70
  ihdr : Vector ℤ 40
  chdr : Vector (Vector Char 8) 24

/-- The names of the reals. -/
def rstr : List String := [
  "DELTA   ", "DEPMIN  ", "DEPMAX  ", "SCALE   ", "ODELTA  ",
  "B       ", "E       ", "O       ", "A       ", "FMT     ",
  "T0      ", "T1      ", "T2      ", "T3      ", "T4      ",
  "T5      ", "T6      ", "T7      ", "T8      ", "T9      ",
  "F       ", "RESP0   ", "RESP1   ", "RESP2   ", "RESP3   ",
  "RESP4   ", "RESP5   ", "RESP6   ", "RESP7   ", "RESP8   ",
  "RESP9   ", "STLA    ", "STLO    ", "STEL    ", "STDP    ",
  "EVLA    ", "EVLO    ", "EVEL    ", "EVDP    ", "MAG     ",
  "USER0   ", "USER1   ", "USER2   ", "USER3   ", "USER4   ",
  "USER5   ", "USER6   ", "USER7   ", "USER8   ", "USER9   ",
  "DIST    ", "AZ      ", "BAZ     ", "GCARC   ", "SB      ",
  "SDELTA  ", "DEPMEN  ", "CMPAZ   ", "CMPINC  ", "XMINIMUM",
  "XMAXIMUM", "YMINIMUM", "YMAXIMUM", "ADJTM   ", "FHDR65  ",
  "FHDR66  ", "FHDR67  ", "FHDR68  ", "FHDR69  ", "FHDR70  "]

/-- The names of the integers. -/
def istr : List String := [
  "NZYEAR  ", "NZJDAY  ", "NZHOUR  ", "NZMIN   ", "NZSEC   ",
  "NZMSEC  ", "NVHDR   ", "NINF    ", "NHST    ", "NPTS    ",
  "NSNPTS  ", "NSN     ", "NXSIZE  ", "NYSIZE  ", "NHDR15  ",
  "IFTYPE  ", "IDEP    ", "IZTYPE  ", "IHDR4   ", "IINST   ",
  "ISTREG  ", "IEVREG  ", "IEVTYP  ", "IQUAL   ", "ISYNTH  ",
  "IHDR11  ", "IHDR12  ", "IHDR13  ", "IHDR14  ", "IHDR15  ",
  "IHDR16  ", "IHDR17  ", "IHDR18  ", "IHDR19  ", "IHDR20  ",
  "LEVEN   ", "LPSPOL  ", "LOVROK  ", "LCALDA  ", "LHDR5   "]

/-- The names of the strings. -/
def kstr : List String := [
  "KSTNM   ", "KEVNM   ", "KEVNMC  ", "KHOLE   ",
  "KO      ", "KA      ", "KT0     ", "KT1     ",
  "KT2     ", "KT3     ", "KT4     ", "KT5     ",
  "KT6     ", "KT7     ", "KT8     ", "KT9     ",
  "KF      ", "KUSER0  ", "KUSER1  ", "KUSER2  ",
  "KCMPNM  ", "KNETWK  ", "KDATRD  ", "KINST   "]

/-- The names of the enumerated values (`estr`) with the field each belongs to (`Istr`). -/
def estr : List (String × String) := [
  ("IFTYPE  ", "ITIME   "), ("IFTYPE  ", "IRLIM   "), ("IFTYPE  ", "IAMPH   "),
  ("IFTYPE  ", "IXY     "), ("IDEP    ", "IUNKN   "), ("IDEP    ", "IDISP   "),
  ("IDEP    ", "IVEL    "), ("IDEP    ", "IACC    "), ("IZTYPE  ", "IB      "),
  ("IZTYPE  ", "IDAY    "), ("IZTYPE  ", "IO      "), ("IZTYPE  ", "IA      "),
  ("IZTYPE  ", "IT0     "), ("IZTYPE  ", "IT1     "), ("IZTYPE  ", "IT2     "),
  ("IZTYPE  ", "IT3     "), ("IZTYPE  ", "IT4     "), ("IZTYPE  ", "IT5     "),
  ("IZTYPE  ", "IT6     "), ("IZTYPE  ", "IT7     "), ("IZTYPE  ", "IT8     "),
  ("IZTYPE  ", "IT9     "), ("IRADNV  ", "IRADNV  "), ("ITANNV  ", "ITANNV  "),
  ("IRADEV  ", "IRADEV  "), ("ITANEV  ", "ITANEV  "), ("INORTH  ", "INORTH  "),
  ("IEAST   ", "IEAST   "), ("IHORZA  ", "IHORZA  "), ("IDOWN   ", "IDOWN   "),
  ("IUP     ", "IUP     "), ("ILLLBB  ", "ILLLBB  "), ("IWWSN1  ", "IWWSN1  "),
  ("IWWSN2  ", "IWWSN2  "), ("IHGLP   ", "IHGLP   "), ("ISRO    ", "ISRO    "),
  ("IEVTYP  ", "INUCL   "), ("IEVTYP  ", "IPREN   "), ("IEVTYP  ", "IPOSTN  "),
  ("IEVTYP  ", "IQUAKE  "), ("IEVTYP  ", "IPREQ   "), ("IEVTYP  ", "IPOSTQ  "),
  ("IEVTYP  ", "ICHEM   "), ("IQUAL   ", "IOTHER  "), ("IQUAL   ", "IGOOD   "),
  ("IQUAL   ", "IGLCH   "), ("IQUAL   ", "IDROP   "), ("IQUAL   ", "ILOWSN  "),
  ("ISYNTH  ", "IRLDTA  "), ("IDEP    ", "IVOLTS  ")]

/-- A name or a text cut or padded with blanks to eight characters. -/
def pad8 (s : List Char) : Vector Char 8 := Vector.ofFn fun i => s.getD i ' '

/-- `streql`. -/
def streql (str1 str2 : String) : Bool := pad8 str1.toList == pad8 str2.toList

variable {F : Type}

/-- `setfhv`.  A name that is not in the table changes nothing. -/
def setfhv (h : SacHdr F) (strcmd : String) (fval : F) : SacHdr F :=
  { h with rhdr := h.rhdr.setIfInBounds (rstr.findIdx (streql strcmd)) fval }

/-- `setnhv`. -/
def setnhv (h : SacHdr F) (strcmd : String) (ival : ℤ) : SacHdr F :=
  { h with ihdr := h.ihdr.setIfInBounds (istr.findIdx (streql strcmd)) ival }

/-- `setkhv`. -/
def setkhv (h : SacHdr F) (strcmd : String) (cval : List Char) : SacHdr F :=
  { h with chdr := h.chdr.setIfInBounds (kstr.findIdx (streql strcmd)) (pad8 cval) }

/-- `setlhv`. -/
def setlhv (h : SacHdr F) (strcmd : String) (lval : ℤ) : SacHdr F :=
  if lval = 0 then setnhv h strcmd 0 else setnhv h strcmd 1

/-- `setihv`. -/
def setihv (h : SacHdr F) (strcmd strval : String) : SacHdr F :=
  if streql strcmd "IDEP    " && streql strval "IUNKN   " then setnhv h "IDEP    " 5
  else if streql strcmd "IZTYPE  " && streql strval "IUNKN   " then setnhv h "IZTYPE  " 5
  else if streql strcmd "IEVTYP  " && streql strval "IOTHER  " then setnhv h "IEVTYP  " 44
  else if streql strcmd "IQUAL   " && streql strval "IOTHER  " then setnhv h "IWUAL   " 44
  else
    match estr.findIdx? fun e => streql strcmd e.1 && streql strval e.2 with
    | some i => setnhv h strcmd (i + 1)
    | none => h

/-! ## Where the setters write

The names `writeSac` uses, some of them shorter than eight characters, are all in the tables. -/

theorem findIdx_rstr :
    rstr.findIdx (streql "DELTA   ") = 0 ∧ rstr.findIdx (streql "DEPMIN") = 1 ∧
      rstr.findIdx (streql "DEPMAX") = 2 ∧ rstr.findIdx (streql "B       ") = 5 ∧
      rstr.findIdx (streql "E       ") = 6 ∧ rstr.findIdx (streql "DEPMEN") = 56 := by
  decide +kernel

theorem findIdx_istr :
    istr.findIdx (streql "NZYEAR") = 0 ∧ istr.findIdx (streql "NZJDAY") = 1 ∧
      istr.findIdx (streql "NZHOUR") = 2 ∧ istr.findIdx (streql "NZMIN") = 3 ∧
      istr.findIdx (streql "NZSEC") = 4 ∧ istr.findIdx (streql "NZMSEC") = 5 ∧
      istr.findIdx (streql "NPTS    ") = 9 ∧ istr.findIdx (streql "IFTYPE  ") = 15 ∧
      istr.findIdx (streql "LEVEN   ") = 35 ∧ istr.findIdx (streql "LOVROK  ") = 37 ∧
      istr.findIdx (streql "LCALDA  ") = 38 := by
  decide +kernel

/-- None of the special cases of `setihv` applies to the one call there is. -/
theorem setihv_iftype (h : SacHdr F) :
    setihv h "IFTYPE  " "ITIME   " = setnhv h "IFTYPE  " 1 := by
  have hidep : streql "IFTYPE  " "IDEP    " = false := by decide +kernel
  have hiztype : streql "IFTYPE  " "IZTYPE  " = false := by decide +kernel
  have hievtyp : streql "IFTYPE  " "IEVTYP  " = false := by decide +kernel
  have hiqual : streql "IFTYPE  " "IQUAL   " = false := by decide +kernel
  have hidx : (estr.findIdx? fun e => streql "IFTYPE  " e.1 && streql "ITIME   " e.2) = some 0 := by
    decide +kernel
  simp [setihv, hidep, hiztype, hievtyp, hiqual, hidx]

variable [FloatArith F]

/-- `inihdr`: every field undefined, but for a few.  No field of the old header survives. -/
def inihdr : SacHdr F where
  rhdr := Vector.replicate 70 (FloatArith.lit (-12345))
  ihdr := Vector.ofFn fun i =>
    if i.val = 6 then 6 else if i.val = 7 ∨ i.val = 8 ∨ 35 ≤ i.val then 0 else -12345
  chdr := Vector.replicate 24 (pad8 "-12345  ".toList)

/-- `newhdr`. -/
def newhdr : SacHdr F :=
  let h : SacHdr F := inihdr
  { h with ihdr := (((h.ihdr.set 15 1).set 35 1).set 37 1).set 38 1 }

/-! ## A header as bytes -/

/-- A byte of a file: one of the four bytes of a real or of an integer, or a character. -/
inductive SacByte (F : Type) where
  | real (x : F) (i : Fin 4)
  | int (n : ℤ) (i : Fin 4)
  | char (c : Char)

omit [FloatArith F] in
/-- The bytes of a real. -/
def realBytes (x : F) : List (SacByte F) := [.real x 0, .real x 1, .real x 2, .real x 3]

omit [FloatArith F] in
/-- The bytes of an integer. -/
def intBytes (n : ℤ) : List (SacByte F) := [.int n 0, .int n 1, .int n 2, .int n 3]

omit [FloatArith F] in
/-- A header as it is written to a file. -/
def SacHdr.bytes (h : SacHdr F) : List (SacByte F) :=
  h.rhdr.toList.flatMap realBytes ++ h.ihdr.toList.flatMap intBytes
    ++ h.chdr.toList.flatMap fun k => k.toList.map SacByte.char

omit [FloatArith F] in
/-- The data part of a file. -/
def dataBytes (xs : List F) : List (SacByte F) := xs.flatMap realBytes

/-- Fields of four bytes each. -/
theorem length_flatMap_four {α β : Type} {f : α → List β} (hf : ∀ a, (f a).length = 4)
    (l : List α) : (l.flatMap f).length = 4 * l.length := by
  induction l with
  | nil => rfl
  | cons a l ih =>
    rw [List.flatMap_cons, List.length_append, hf, ih, List.length_cons]
    omega

omit [FloatArith F] in
/-- **A header takes 632 bytes.** -/
theorem SacHdr.length_bytes (h : SacHdr F) : h.bytes.length = 632 := by
  have hreal := length_flatMap_four (f := realBytes (F := F)) (fun _ => rfl) h.rhdr.toList
  have hint := length_flatMap_four (f := intBytes (F := F)) (fun _ => rfl) h.ihdr.toList
  simp [SacHdr.bytes, hreal, hint]

omit [FloatArith F] in
@[simp] theorem dataBytes_append (xs ys : List F) :
    dataBytes (xs ++ ys) = dataBytes xs ++ dataBytes ys :=
  List.flatMap_append

end SensorIoT
