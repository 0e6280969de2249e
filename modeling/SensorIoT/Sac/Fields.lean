import SensorIoT.CString
import SensorIoT.Lib.Table
import SensorIoT.Sac.Header

/-!
# The fields of a header

The getters of `libs/SAC_FILES/sacsubc.c` beside its setters.  The reals, the integers and the
strings of a header are three tables (`SensorIoT.Lib.Table`); the truth values and the enumerated
values are kept among the integers, the latter by the place of their name in `estr`.

**`getters_after`**: after any calls of the five setters, whatever they are given, a getter returns
what was last set under a name, in whichever of its spellings with or without blanks, and before
that what the header had.

**`getihv_setihv_iff`**: for which fields an enumerated value is read back by its name.  For the
others there is no such value, or no such field, or it is `IOTHER` as the quality of an event, which
`setihv` writes to a field `IWUAL` that no header has.
-/

set_option autoImplicit false

namespace SensorIoT

/-! ## The getters -/

/-- The name of a field or of a value, of eight characters. -/
abbrev FieldName := Vector Char 8

/-- A name as it is looked up. -/
def fieldName (s : String) : FieldName := pad8 s.toList

/-- What a getter returns, and its `nerr`. -/
def answer {V : Type} (undefined : V) (found : Option V) : V × ℤ :=
  found.elim (undefined, -1) fun v => (v, 0)

/-- The test `cval[j] < 32`, where a `char` may have a sign. -/
def isControl (signedChar : Bool) (c : Char) : Bool :=
  c.toNat < 32 || signedChar && 128 ≤ c.toNat

/-- `strncpy` of eight characters: behind a terminator it writes only terminators. -/
def strncpy8 (k : FieldName) : FieldName := Vector.ofFn fun i => charAt (cstr k.toList) i

/-- The loop of `getkhv` over the eight characters. -/
def blankControls (signedChar : Bool) (k : FieldName) : FieldName :=
  k.map fun c => if isControl signedChar c = true then ' ' else c

/-- What `getkhv` makes of a text. -/
def copyText (signedChar : Bool) (k : FieldName) : FieldName :=
  blankControls signedChar (strncpy8 k)

-- nothing behind a terminator is copied
example : copyText true #v['A', 'B', nul, 'C', 'D', 'E', 'F', 'G'] = fieldName "AB" := by
  decide +kernel

section Getters

variable {F : Type}

/-- `getnhv`. -/
def getnhv (h : SacHdr F) (strcmd : String) : ℤ × ℤ :=
  answer (-12345) h.ihdr[istr.findIdx (streql strcmd)]?

/-- `getkhv`. -/
def getkhv (signedChar : Bool) (h : SacHdr F) (strcmd : String) : FieldName × ℤ :=
  answer (fieldName "-12345  ")
    (h.chdr[kstr.findIdx (streql strcmd)]?.map (copyText signedChar))

/-- The truth value of an integer. -/
def truthValue (ival : ℤ) : ℤ := if ival = 0 then 0 else 1

/-- `getlhv`. -/
def getlhv (h : SacHdr F) (strcmd : String) : ℤ × ℤ :=
  (truthValue (getnhv h strcmd).1, (getnhv h strcmd).2)

/-- The name of an enumerated value. -/
def valueName (nval : ℤ) : FieldName :=
  if 1 ≤ nval ∧ nval ≤ 50 then fieldName (estr.getD (nval.toNat - 1) ("", "")).2 else fieldName ""

/-- `getihv`. -/
def getihv (h : SacHdr F) (strcmd : String) : FieldName × ℤ :=
  (if (getnhv h strcmd).2 = 0 then valueName (getnhv h strcmd).1 else fieldName "",
    (getnhv h strcmd).2)

/-- `getfhv`. -/
def getfhv [FloatArith F] (h : SacHdr F) (strcmd : String) : F × ℤ :=
  answer (FloatArith.lit (-12345)) h.rhdr[rstr.findIdx (streql strcmd)]?

end Getters

/-! ## The setters -/

/-- A call of a setter. -/
inductive HeaderCall (F : Type) where
  | setfhv (strcmd : String) (fval : F)
  | setnhv (strcmd : String) (ival : ℤ)
  | setkhv (strcmd : String) (cval : List Char)
  | setlhv (strcmd : String) (lval : ℤ)
  | setihv (strcmd strval : String)

variable {F : Type}

/-- What a call does to the header. -/
def HeaderCall.run (h : SacHdr F) : HeaderCall F → SacHdr F
  | .setfhv strcmd fval => SensorIoT.setfhv h strcmd fval
  | .setnhv strcmd ival => SensorIoT.setnhv h strcmd ival
  | .setkhv strcmd cval => SensorIoT.setkhv h strcmd cval
  | .setlhv strcmd lval => SensorIoT.setlhv h strcmd lval
  | .setihv strcmd strval => SensorIoT.setihv h strcmd strval

/-- The header after some calls. -/
def SacHdr.after (h : SacHdr F) (calls : List (HeaderCall F)) : SacHdr F :=
  calls.foldl HeaderCall.run h

/-! ## What the calls say

The fields and the values of a call, without the header. -/

/-- The enumerated values by their names, each with its field. -/
def enumNames : List (FieldName × FieldName) := estr.map fun e => (fieldName e.1, fieldName e.2)

/-- The number that `setihv` has for a value of a field. -/
def enumCode (field value : FieldName) : Option ℤ :=
  if field = fieldName "IDEP" ∧ value = fieldName "IUNKN" then some 5
  else if field = fieldName "IZTYPE" ∧ value = fieldName "IUNKN" then some 5
  else if field = fieldName "IEVTYP" ∧ value = fieldName "IOTHER" then some 44
  else if field = fieldName "IQUAL" ∧ value = fieldName "IOTHER" then none
  else (enumNames.findIdx? fun e => decide ((field, value) = e)).map fun i : ℕ => (i : ℤ) + 1

/-- The real that a call sets. -/
def HeaderCall.real : HeaderCall F → Option (FieldName × F)
  | .setfhv strcmd fval => some (fieldName strcmd, fval)
  | _ => none

/-- The integer that a call sets. -/
def HeaderCall.int : HeaderCall F → Option (FieldName × ℤ)
  | .setnhv strcmd ival => some (fieldName strcmd, ival)
  | .setlhv strcmd lval => some (fieldName strcmd, truthValue lval)
  | .setihv strcmd strval =>
    (enumCode (fieldName strcmd) (fieldName strval)).map fun n => (fieldName strcmd, n)
  | _ => none

/-- The text that a call sets. -/
def HeaderCall.text : HeaderCall F → Option (FieldName × FieldName)
  | .setkhv strcmd cval => some (fieldName strcmd, pad8 cval)
  | _ => none

/-- The names of the reals, of the integers and of the strings. -/
def realNames : List FieldName := rstr.map fieldName
def intNames : List FieldName := istr.map fieldName
def textNames : List FieldName := kstr.map fieldName

/-! ## The header is three tables -/

section Tables

theorem streql_iff {a b : String} : streql a b = true ↔ fieldName a = fieldName b :=
  beq_iff_eq

/-- The loops of the getters and of the setters look a name up. -/
theorem findIdx_streql (names : List String) (strcmd : String) :
    names.findIdx (streql strcmd) = Table.find (names.map fieldName) (fieldName strcmd) := by
  rw [Table.find, List.findIdx_map]
  congr 1
  funext s
  exact Bool.eq_iff_iff.mpr (streql_iff.trans decide_eq_true_iff.symm)

theorem setfhv_eq (h : SacHdr F) (strcmd : String) (fval : F) :
    setfhv h strcmd fval
      = { h with rhdr := Table.write realNames h.rhdr (fieldName strcmd) fval } := by
  rw [setfhv, findIdx_streql, Table.write, realNames]

theorem setnhv_eq (h : SacHdr F) (strcmd : String) (ival : ℤ) :
    setnhv h strcmd ival
      = { h with ihdr := Table.write intNames h.ihdr (fieldName strcmd) ival } := by
  rw [setnhv, findIdx_streql, Table.write, intNames]

theorem setkhv_eq (h : SacHdr F) (strcmd : String) (cval : List Char) :
    setkhv h strcmd cval
      = { h with chdr := Table.write textNames h.chdr (fieldName strcmd) (pad8 cval) } := by
  rw [setkhv, findIdx_streql, Table.write, textNames]

/-- No header has a field of this name. -/
theorem setnhv_iwual (h : SacHdr F) (ival : ℤ) : setnhv h "IWUAL   " ival = h := by
  have hnot : fieldName "IWUAL   " ∉ intNames := by decide +kernel
  rw [setnhv_eq, Table.write_of_notMem (n := 40) rfl hnot]

/-- What `setihv` does is to set the number of a value, if it has one. -/
theorem setihv_eq (h : SacHdr F) (strcmd strval : String) : setihv h strcmd strval
    = (enumCode (fieldName strcmd) (fieldName strval)).elim h (setnhv h strcmd) := by
  have hpad : ∀ {s t u : String}, fieldName t = fieldName u →
      (streql s t = true ↔ fieldName s = fieldName u) := fun htu => by rw [streql_iff, htu]
  have hset : ∀ {t : String} (n : ℤ), fieldName strcmd = fieldName t →
      setnhv h t n = setnhv h strcmd n := fun n ht => by rw [setnhv_eq, setnhv_eq, ht]
  have hfind : (estr.findIdx? fun e => streql strcmd e.1 && streql strval e.2)
      = enumNames.findIdx? fun e => decide ((fieldName strcmd, fieldName strval) = e) := by
    rw [enumNames, List.findIdx?_map]
    congr 1
    funext e
    refine Bool.eq_iff_iff.mpr ?_
    simp [streql_iff]
  rw [setihv, enumCode]
  simp only [Bool.and_eq_true,
    hpad (show fieldName "IDEP    " = fieldName "IDEP" by decide +kernel),
    hpad (show fieldName "IUNKN   " = fieldName "IUNKN" by decide +kernel),
    hpad (show fieldName "IZTYPE  " = fieldName "IZTYPE" by decide +kernel),
    hpad (show fieldName "IEVTYP  " = fieldName "IEVTYP" by decide +kernel),
    hpad (show fieldName "IOTHER  " = fieldName "IOTHER" by decide +kernel),
    hpad (show fieldName "IQUAL   " = fieldName "IQUAL" by decide +kernel)]
  split
  case isTrue hidep => exact hset 5 (hidep.1.trans (by decide +kernel))
  case isFalse =>
  split
  case isTrue hiztype => exact hset 5 (hiztype.1.trans (by decide +kernel))
  case isFalse =>
  split
  case isTrue hievtyp => exact hset 44 (hievtyp.1.trans (by decide +kernel))
  case isFalse =>
  split
  case isTrue => exact setnhv_iwual h 44
  case isFalse =>
  rw [hfind]
  cases enumNames.findIdx? fun e => decide ((fieldName strcmd, fieldName strval) = e) <;> rfl

end Tables

/-! ## Reading what was set -/

section Runs

variable {h : SacHdr F} {calls : List (HeaderCall F)}

/-- One call, as writes to the tables. -/
theorem run_headerCall_eq (h : SacHdr F) (c : HeaderCall F) : c.run h =
    { rhdr := Table.writes realNames h.rhdr c.real.toList
      ihdr := Table.writes intNames h.ihdr c.int.toList
      chdr := Table.writes textNames h.chdr c.text.toList } := by
  cases c with
  | setfhv strcmd fval => exact setfhv_eq h strcmd fval
  | setnhv strcmd ival => exact setnhv_eq h strcmd ival
  | setkhv strcmd cval => exact setkhv_eq h strcmd cval
  | setlhv strcmd lval =>
    rw [HeaderCall.run, setlhv, ← apply_ite (setnhv h strcmd)]
    exact setnhv_eq h strcmd _
  | setihv strcmd strval =>
    rw [HeaderCall.run, setihv_eq, HeaderCall.int]
    cases enumCode (fieldName strcmd) (fieldName strval) with
    | none => rfl
    | some n => exact setnhv_eq h strcmd n

/-- The calls of a run, as writes to the tables. -/
theorem header_after_eq (h : SacHdr F) (calls : List (HeaderCall F)) : h.after calls =
    { rhdr := Table.writes realNames h.rhdr (calls.filterMap HeaderCall.real)
      ihdr := Table.writes intNames h.ihdr (calls.filterMap HeaderCall.int)
      chdr := Table.writes textNames h.chdr (calls.filterMap HeaderCall.text) } := by
  induction calls generalizing h with
  | nil => rfl
  | cons c calls ih =>
    have hcons : ∀ {α : Type} (f : HeaderCall F → Option α),
        (c :: calls).filterMap f = (f c).toList ++ calls.filterMap f := by
      intro α f
      cases hc : f c <;> simp [hc]
    rw [SacHdr.after, List.foldl_cons, ← SacHdr.after, ih, run_headerCall_eq, hcons, hcons, hcons]
    simp only [Table.writes_append]

theorem getfhv_eq [FloatArith F] (h : SacHdr F) (name : String) : getfhv h name
    = answer (FloatArith.lit (-12345)) (Table.read realNames h.rhdr (fieldName name)) := by
  rw [getfhv, findIdx_streql, Table.read, realNames]

theorem getnhv_eq (h : SacHdr F) (name : String) :
    getnhv h name = answer (-12345) (Table.read intNames h.ihdr (fieldName name)) := by
  rw [getnhv, findIdx_streql, Table.read, intNames]

theorem getkhv_eq (signedChar : Bool) (h : SacHdr F) (name : String) : getkhv signedChar h name
    = answer (fieldName "-12345  ")
        ((Table.read textNames h.chdr (fieldName name)).map (copyText signedChar)) := by
  rw [getkhv, findIdx_streql, Table.read, textNames]

/-- What a getter returns behind some writes. -/
theorem answer_writes {V W : Type} {n : ℕ} (names : List FieldName) (hlen : names.length = n)
    (fields : Vector V n) (ws : List (FieldName × V)) (f : V → W) (undefined : W)
    (k : FieldName) : answer undefined ((Table.read names (Table.writes names fields ws) k).map f)
      = if k ∈ names then
          (((Table.last k ws).map f).getD
            (answer undefined ((Table.read names fields k).map f)).1, 0)
        else (undefined, -1) := by
  by_cases hk : k ∈ names
  · rw [if_pos hk, Table.read_writes hlen hk]
    obtain ⟨v, hv⟩ : ∃ v, Table.read names fields k = some v := Table.isSome_read hlen hk
    rw [hv]
    cases Table.last k ws <;> rfl
  · rw [if_neg hk, Table.read_eq_none hlen hk]
    rfl

/-- What `getnhv` returns after the given calls. -/
theorem getnhv_after (h : SacHdr F) (calls : List (HeaderCall F)) (name : String) :
    getnhv (h.after calls) name = if fieldName name ∈ intNames then
      ((Table.last (fieldName name) (calls.filterMap HeaderCall.int)).getD (getnhv h name).1, 0)
      else (-12345, -1) := by
  have := answer_writes intNames rfl h.ihdr (calls.filterMap HeaderCall.int) id
    (-12345) (fieldName name)
  simp only [Option.map_id, id] at this
  rw [getnhv_eq, getnhv_eq, header_after_eq]
  exact this

/-- What the getters return of a header after the given calls, in terms of what they returned
before. -/
structure ReadBack [FloatArith F] (h : SacHdr F) (calls : List (HeaderCall F)) (name : String) :
    Prop where
  real : getfhv (h.after calls) name = if fieldName name ∈ realNames then
    ((Table.last (fieldName name) (calls.filterMap HeaderCall.real)).getD (getfhv h name).1, 0)
    else (FloatArith.lit (-12345), -1)
  int : getnhv (h.after calls) name = if fieldName name ∈ intNames then
    ((Table.last (fieldName name) (calls.filterMap HeaderCall.int)).getD (getnhv h name).1, 0)
    else (-12345, -1)
  text : ∀ signedChar, getkhv signedChar (h.after calls) name = if fieldName name ∈ textNames then
    (((Table.last (fieldName name) (calls.filterMap HeaderCall.text)).map
      (copyText signedChar)).getD (getkhv signedChar h name).1, 0)
    else (fieldName "-12345  ", -1)
  truth : getlhv (h.after calls) name = if fieldName name ∈ intNames then
    (((Table.last (fieldName name) (calls.filterMap HeaderCall.int)).map truthValue).getD
      (getlhv h name).1, 0)
    else (1, -1)

/-- **The getters return what was last set.** -/
theorem getters_after [FloatArith F] (h : SacHdr F) (calls : List (HeaderCall F)) (name : String) :
    ReadBack h calls name where
  real := by
    have := answer_writes realNames rfl h.rhdr (calls.filterMap HeaderCall.real) id
      (FloatArith.lit (-12345)) (fieldName name)
    simp only [Option.map_id, id] at this
    rw [getfhv_eq, getfhv_eq, header_after_eq]
    exact this
  int := getnhv_after h calls name
  text := by
    intro signedChar
    rw [getkhv_eq, getkhv_eq, header_after_eq]
    exact answer_writes textNames rfl h.chdr (calls.filterMap HeaderCall.text)
      (copyText signedChar) (fieldName "-12345  ") (fieldName name)
  truth := by
    rw [getlhv, getnhv_after, getlhv]
    split
    case isTrue => cases Table.last (fieldName name) (calls.filterMap HeaderCall.int) <;> rfl
    case isFalse => rfl

end Runs

/-! ## Enumerated values -/

section Enumerated

variable {field value : FieldName}

/-- A value of a field that can be set and read back.  Two of them stand in `estr` as values of
another field. -/
def Settable (field value : FieldName) : Prop :=
  field ∈ intNames ∧ (field, value) ≠ (fieldName "IQUAL", fieldName "IOTHER") ∧
    ((field, value) ∈ enumNames ∨ (field, value) = (fieldName "IZTYPE", fieldName "IUNKN") ∨
      (field, value) = (fieldName "IEVTYP", fieldName "IOTHER"))

instance (field value : FieldName) : Decidable (Settable field value) :=
  inferInstanceAs (Decidable (_ ∧ _ ∧ _))

theorem valueName_of_getElem {i : ℕ} (h : i < enumNames.length) :
    valueName (i + 1) = enumNames[i].2 := by
  have hlen : estr.length = 50 := by decide +kernel
  have hi : i < estr.length := by rwa [enumNames, List.length_map] at h
  have hcode : (1 : ℤ) ≤ i + 1 ∧ (i + 1 : ℤ) ≤ 50 := by omega
  have hidx : ((i + 1 : ℤ)).toNat - 1 = i := by omega
  rw [valueName, if_pos hcode, hidx, List.getD_eq_getElem?_getD, List.getElem?_eq_getElem hi]
  simp [enumNames]

/-- The number that a value is set by is the one that it is read by. -/
theorem valueName_of_enumCode {n : ℤ} (h : enumCode field value = some n) :
    valueName n = value := by
  rw [enumCode] at h
  split at h
  case isTrue hidep =>
    rw [← Option.some.inj h, hidep.2]
    decide +kernel
  case isFalse =>
  split at h
  case isTrue hiztype =>
    rw [← Option.some.inj h, hiztype.2]
    decide +kernel
  case isFalse =>
  split at h
  case isTrue hievtyp =>
    rw [← Option.some.inj h, hievtyp.2]
    decide +kernel
  case isFalse =>
  split at h
  case isTrue => cases h
  case isFalse =>
  obtain ⟨i, hi, rfl⟩ := Option.map_eq_some_iff.mp h
  obtain ⟨hlt, heq, -⟩ := List.findIdx?_eq_some_iff_getElem.mp hi
  rw [valueName_of_getElem hlt, ← of_decide_eq_true heq]

theorem isSome_enumCode_iff : (enumCode field value).isSome = true ↔
    (field, value) ≠ (fieldName "IQUAL", fieldName "IOTHER") ∧
      ((field, value) ∈ enumNames ∨ (field, value) = (fieldName "IZTYPE", fieldName "IUNKN") ∨
        (field, value) = (fieldName "IEVTYP", fieldName "IOTHER")) := by
  have hidep : (fieldName "IDEP", fieldName "IUNKN") ∈ enumNames := by decide +kernel
  have hiztype : (fieldName "IZTYPE", fieldName "IUNKN")
      ≠ (fieldName "IQUAL", fieldName "IOTHER") := by decide +kernel
  have hievtyp : (fieldName "IEVTYP", fieldName "IOTHER")
      ≠ (fieldName "IQUAL", fieldName "IOTHER") := by decide +kernel
  have hidep' : (fieldName "IDEP", fieldName "IUNKN")
      ≠ (fieldName "IQUAL", fieldName "IOTHER") := by decide +kernel
  have hfound : (enumNames.findIdx? fun e => decide ((field, value) = e)).isSome = true
      ↔ (field, value) ∈ enumNames := by simp
  simp only [enumCode, ← Prod.mk.injEq]
  split
  case isTrue h => exact iff_of_true rfl ⟨h ▸ hidep', .inl (h ▸ hidep)⟩
  case isFalse =>
  split
  case isTrue h => exact iff_of_true rfl ⟨h ▸ hiztype, .inr (.inl h)⟩
  case isFalse hz =>
  split
  case isTrue h => exact iff_of_true rfl ⟨h ▸ hievtyp, .inr (.inr h)⟩
  case isFalse he =>
  split
  case isTrue h => exact iff_of_false Bool.false_ne_true fun hn => hn.1 h
  case isFalse hq =>
  rw [Option.isSome_map, hfound]
  exact ⟨fun hmem => ⟨hq, .inl hmem⟩, fun hn => hn.2.resolve_right (not_or.mpr ⟨hz, he⟩)⟩

variable {h : SacHdr F} {calls : List (HeaderCall F)}

/-- A value of a field that is set, and not the field again behind that. -/
theorem getnhv_setihv (name val : String)
    (hcalls : ∀ c ∈ calls, ∀ w, c.int = some w → w.1 ≠ fieldName name) :
    getnhv (h.after (.setihv name val :: calls)) name = if fieldName name ∈ intNames then
      ((enumCode (fieldName name) (fieldName val)).getD (getnhv h name).1, 0)
      else (-12345, -1) := by
  have hnone : Table.last (fieldName name) (calls.filterMap HeaderCall.int) = none := by
    refine Table.last_eq_none fun w hw => ?_
    obtain ⟨c, hc, hcw⟩ := List.mem_filterMap.mp hw
    exact hcalls c hc w hcw
  have hlast : Table.last (fieldName name)
      ((HeaderCall.setihv name val :: calls).filterMap HeaderCall.int)
        = enumCode (fieldName name) (fieldName val) := by
    rw [List.filterMap_cons, HeaderCall.int]
    cases enumCode (fieldName name) (fieldName val) with
    | none => exact hnone
    | some n =>
      simp only [Option.map_some, Table.last, hnone, if_true]
      rfl
  rw [getnhv_after, hlast]

/-- **Which enumerated values are read back.** -/
theorem getihv_setihv_iff [FloatArith F] (name val : String) :
    (∀ (h : SacHdr F) (calls : List (HeaderCall F)),
      (∀ c ∈ calls, ∀ w, c.int = some w → w.1 ≠ fieldName name) →
        getihv (h.after (.setihv name val :: calls)) name = (fieldName val, 0)) ↔
      Settable (fieldName name) (fieldName val) := by
  rw [Settable, ← isSome_enumCode_iff]
  constructor
  · intro hread
    have hnum : ∀ h : SacHdr F, getnhv (h.after [.setihv name val]) name =
        if fieldName name ∈ intNames then
          ((enumCode (fieldName name) (fieldName val)).getD (getnhv h name).1, 0)
        else (-12345, -1) :=
      fun h => getnhv_setihv name val fun c hc => absurd hc List.not_mem_nil
    by_cases hname : fieldName name ∈ intNames
    · refine ⟨hname, ?_⟩
      by_contra hnot
      have hcode : enumCode (fieldName name) (fieldName val) = none :=
        Option.not_isSome_iff_eq_none.mp hnot
      -- two headers, of which one at least has another value in the field
      have hsame : ∀ n : ℤ, valueName n = fieldName val := by
        intro n
        have h := hread (inihdr.after [.setnhv name n]) [] fun c hc => absurd hc List.not_mem_nil
        have hn : (getnhv ((inihdr : SacHdr F).after [.setnhv name n]) name).1 = n := by
          rw [getnhv_after, if_pos hname]
          simp [HeaderCall.int, Table.last]
        rw [getihv, hnum, if_pos hname, hcode, Option.getD_none, hn, if_pos rfl] at h
        exact congrArg Prod.fst h
      exact absurd ((hsame 1).trans (hsame 2).symm) (by decide +kernel)
    · have h := hread inihdr [] fun c hc => absurd hc List.not_mem_nil
      rw [getihv, hnum, if_neg hname] at h
      exact absurd (congrArg Prod.snd h) (show (-1 : ℤ) ≠ 0 by decide)
  · rintro ⟨hname, hcode⟩ h calls hcalls
    obtain ⟨n, hn⟩ := Option.isSome_iff_exists.mp hcode
    rw [getihv, getnhv_setihv name val hcalls, if_pos hname, hn, Option.getD_some, if_pos rfl,
      valueName_of_enumCode hn]

end Enumerated

end SensorIoT
