import SensorIoT.Gps.Fields

/-!
# Waiting for the altitude

`loadingGpsData` of `SensorIoT.c` runs at the start of the program until the GPS has sent a GGA
sentence with an altitude and then an RMC sentence with a fix.  `getAlt` takes the altitude from
where it stands if the fields before it have 37 characters and it has six itself, and takes a comma
there for an altitude that is missing.

`altitudeRight_iff` says for which sentences that is right, whatever their fields: where the
altitude begins with byte 52 and has six characters, and else by coincidence only.  An altitude of
less than 1000 metres has fewer, and with such sentences the loop goes on for ever
(`loadingGpsData_stays`).
-/

set_option autoImplicit false

namespace SensorIoT

/-! ## The loop -/

/-- `isGGA`. -/
def isGGA (buffer : CBuf) : ℤ := if hasHeader buffer "$GPGGA".toList = true then 1 else -1

/-- `getAlt`: -1 if there is a comma where the altitude is to be. -/
def getAlt (buffer gga : CBuf) : CBuf × ℤ :=
  if charAt gga 52 = ',' ∨ charAt gga 53 = ',' ∨ charAt gga 54 = ',' ∨ charAt gga 55 = ',' ∨
      charAt gga 56 = ',' ∨ charAt gga 57 = ','
  then (buffer, -1)
  else (sprintf buffer (field gga 52 6), 6)

/-- The arguments of `locationJson`. -/
structure Location where
  lat : List Char
  lng : List Char
  alt : List Char
  deriving DecidableEq

/-- The variables of `loadingGpsData`; those that time its messages are left out. -/
structure LoadingLoop where
  buf : CBuf
  lat : CBuf
  lng : CBuf
  alt : CBuf
  dateGps : CBuf
  timeGps : CBuf
  flag : Bool
  /-- What `locationJson` was called with: the loop is left behind that call. -/
  located : Option Location

/-- The variables before the loop. -/
def LoadingLoop.init : LoadingLoop where
  buf := zeroBuf 255
  lat := zeroBuf 24
  lng := zeroBuf 24
  alt := zeroBuf 24
  dateGps := zeroBuf 24
  timeGps := zeroBuf 24
  flag := false
  located := none

/-- What the loop takes of an RMC sentence. -/
def LoadingLoop.takeRmc (s : LoadingLoop) : LoadingLoop :=
  { s with
    lat := (getLat s.lat s.buf).1
    lng := (getLng s.lng s.buf).1
    dateGps := (getDateGps s.dateGps s.buf).1
    timeGps := (getTimeGps s.timeGps s.buf).1 }

/-- What the loop does with the sentence in its buffer. -/
def LoadingLoop.take (s : LoadingLoop) : LoadingLoop :=
  if isGGA s.buf = 1 then
    { s with
      alt := (getAlt s.alt s.buf).1
      flag := if (getAlt s.alt s.buf).2 ≠ -1 then true else s.flag }
  else if isRmcStatusOk s.buf = 1 then
    if s.flag = true then
      { s.takeRmc with
        located := some ⟨cstr s.takeRmc.lat, cstr s.takeRmc.lng, cstr s.takeRmc.alt⟩ }
    else s.takeRmc
  else s

/-- What the loop does with a line that it reads.  The buffer is not cleared before. -/
def loadingLine (s : LoadingLoop) (line : List Char) : LoadingLoop :=
  LoadingLoop.take { s with buf := readUART s.buf line }

/-- One turn of the loop, with what there is to read. -/
def loadingTurn (s : LoadingLoop) (read : Option (List Char)) : LoadingLoop :=
  if s.located.isSome = true then s else read.elim s (loadingLine s)

/-- `loadingGpsData`: the loop after the given reads. -/
def loadingGpsData (s : LoadingLoop) (reads : List (Option (List Char))) : LoadingLoop :=
  reads.foldl loadingTurn s

/-! ## Sentences -/

/-- A sentence `$GPGGA,f1,...,f9,M,...`. -/
structure IsGga (line : List Char) : Prop where
  header : fieldOf line 0 = "$GPGGA".toList
  fields : 12 ≤ (parts line).length
  metres : fieldOf line 10 = ['M']

instance (line : List Char) : Decidable (IsGga line) :=
  decidable_of_iff
    (fieldOf line 0 = "$GPGGA".toList ∧ 12 ≤ (parts line).length ∧ fieldOf line 10 = ['M'])
    ⟨fun h => ⟨h.1, h.2.1, h.2.2⟩, fun h => ⟨h.header, h.fields, h.metres⟩⟩

/-- What the program makes of a GGA sentence that is read into a buffer is right, and also of the
RMC sentence behind it, with any number of reads in between that deliver nothing. -/
structure AltitudeRight (buf gga rmc : List Char) : Prop where
  missing : ∀ alt, (getAlt alt (readUART buf gga)).2 = -1 ↔ fieldOf gga 9 = []
  stored : fieldOf gga 9 ≠ [] → ∀ alt, cstr (getAlt alt (readUART buf gga)).1 = fieldOf gga 9
  leaves : fieldOf gga 9 ≠ [] → ∀ s : LoadingLoop, s.buf = buf → ∀ n,
    (loadingGpsData s (some gga :: (List.replicate n none ++ [some rmc]))).located.isSome = true

/-- The six bytes that `getAlt` takes for the altitude. -/
def altitudeBytes (gga : CBuf) : List Char := field gga 52 6

/-- There is a comma among bytes 52 to 57: a field of the sentence begins behind one of them, or the
sentence is shorter and the buffer had a comma there. -/
def CommaThere (buf gga : List Char) : Prop :=
  (∃ i < (parts gga).length, 53 ≤ fieldStart gga i ∧ fieldStart gga i ≤ 58) ∨
    ∃ j, gga.length < j ∧ 52 ≤ j ∧ j < 58 ∧ charAt buf j = ','

/-- The altitude lies apart from bytes 52 to 57, and these, of the sentence or of the buffer behind
its end, happen to spell it. -/
structure Coincides (buf gga : List Char) : Prop where
  apart : fieldStart gga 9 + (fieldOf gga 9).length < 52 ∨ 58 < fieldStart gga 9
  comma : ¬ CommaThere buf gga
  spelled : cstr (altitudeBytes (sprintf buf gga)) = fieldOf gga 9

/-- An altitude that is missing leaves a comma there, and one that is not begins with byte 52 and
has six characters, or there is a coincidence. -/
def AltitudeInPlace (buf gga : List Char) : Prop :=
  if fieldOf gga 9 = [] then CommaThere buf gga
  else fieldStart gga 9 = 52 ∧ HasWidth gga 9 6 ∨ Coincides buf gga

/-- The time has ten characters, so that byte 18 is the status; or it has another width, and that
byte, of the sentence or of the buffer behind its end, happens to be an `A`. -/
def StatusInPlace (buf rmc : List Char) : Prop :=
  (fieldOf rmc 1).length = 10 ∨
    ((fieldOf rmc 1).length < 9 ∨ 11 < (fieldOf rmc 1).length) ∧ charAt (sprintf buf rmc) 18 = 'A'

/-! ## What is in the buffer -/

section Buffer

variable {buf gga line p r : List Char}

/-- A line that is read is at the start of the buffer. -/
theorem charAt_readUART (buf : CBuf) {i : ℕ} (hi : i < line.length) (h255 : i < 255) :
    charAt (readUART buf line) i = charAt line i := by
  rw [charAt, charAt, readUART, sprintf, List.getD_eq_getElem?_getD,
    List.getElem?_take_of_lt h255, List.getElem?_append_left hi, List.getD_eq_getElem?_getD]

/-- What is read is behind the line what the buffer was. -/
theorem charAt_readUART_eq (buf line : List Char) {i : ℕ} (h255 : i < 255) :
    charAt (readUART buf line) i = charAt (sprintf buf line) i := by
  rw [charAt, charAt, readUART, List.getD_eq_getElem?_getD, List.getElem?_take_of_lt h255,
    List.getD_eq_getElem?_getD]

theorem altitudeBytes_readUART (buf gga : List Char) :
    altitudeBytes (readUART buf gga) = altitudeBytes (sprintf buf gga) :=
  List.map_congr_left fun i hi =>
    charAt_readUART_eq buf gga (by have := List.mem_range.mp hi; omega)

theorem hasHeader_iff {buffer header : List Char} :
    hasHeader buffer header = true ↔ ∀ i < 6, charAt buffer i = charAt header i := by
  simp [hasHeader]

/-- The header of a sentence is that of the buffer. -/
theorem hasHeader_readUART {header : List Char} (buf : CBuf) (hheader : fieldOf line 0 = header)
    (hlen : header.length = 6) (hparts : 1 < (parts line).length) :
    hasHeader (readUART buf line) header = true := by
  obtain ⟨rest, hrest⟩ := drop_fieldStart (i := 0) hparts
  have hline : line = header ++ ',' :: rest := by rw [← hheader, ← hrest]; rfl
  refine hasHeader_iff.mpr fun i hi => ?_
  rw [hline, charAt_readUART buf (by rw [List.length_append]; omega) (by omega), charAt, charAt,
    List.getD_append _ _ _ _ (by omega)]

/-- No buffer is both. -/
theorem isGGA_ne_one (h : hasHeader buf "$GPRMC".toList = true) : isGGA buf ≠ 1 := by
  intro hgga
  have hheader : hasHeader buf "$GPGGA".toList = true := by
    by_contra hnot
    rw [isGGA, if_neg hnot] at hgga
    exact absurd hgga (by decide)
  have h3 := (hasHeader_iff.mp h 3 (by decide)).symm.trans (hasHeader_iff.mp hheader 3 (by decide))
  exact absurd h3 (by decide)

theorem comma_mem_altitudeBytes_iff :
    ',' ∈ altitudeBytes gga ↔ charAt gga 52 = ',' ∨ charAt gga 53 = ',' ∨ charAt gga 54 = ',' ∨
      charAt gga 55 = ',' ∨ charAt gga 56 = ',' ∨ charAt gga 57 = ',' := by
  simp [altitudeBytes, field, List.range_succ, eq_comm]

/-- What `getAlt` does. -/
theorem getAlt_cases (alt gga : CBuf) :
    (',' ∈ altitudeBytes gga ∧ getAlt alt gga = (alt, -1)) ∨
      (',' ∉ altitudeBytes gga ∧ getAlt alt gga = (sprintf alt (altitudeBytes gga), 6)) := by
  by_cases h : ',' ∈ altitudeBytes gga
  · exact .inl ⟨h, if_pos (comma_mem_altitudeBytes_iff.mp h)⟩
  · exact .inr ⟨h, if_neg (mt comma_mem_altitudeBytes_iff.mpr h)⟩

theorem getAlt_snd_iff (alt gga : CBuf) :
    (getAlt alt gga).2 = -1 ↔ ',' ∈ altitudeBytes gga := by
  obtain ⟨h, heq⟩ | ⟨h, heq⟩ := getAlt_cases alt gga
  · simp [heq, h]
  · simp [heq, h]

end Buffer

/-! ## The loop -/

section Run

variable {s : LoadingLoop} {line : List Char}

/-- What is done with a GGA sentence. -/
theorem loadingLine_gga (h : isGGA (readUART s.buf line) = 1) :
    (loadingLine s line).located = s.located ∧
      (loadingLine s line).buf = readUART s.buf line ∧
      ((loadingLine s line).flag = true ↔
        s.flag = true ∨ ',' ∉ altitudeBytes (readUART s.buf line)) := by
  rw [loadingLine, LoadingLoop.take, if_pos h]
  refine ⟨rfl, rfl, ?_⟩
  simp only [Ne, getAlt_snd_iff]
  split
  case isTrue hnot => exact iff_of_true rfl (.inr hnot)
  case isFalse hcomma => rw [or_iff_left (fun hnot => hcomma hnot)]

/-- What is done with any other line. -/
theorem loadingLine_other (hs : s.located = none) (h : isGGA (readUART s.buf line) ≠ 1) :
    (loadingLine s line).flag = s.flag ∧
      ((loadingLine s line).located.isSome = true ↔
        isRmcStatusOk (readUART s.buf line) = 1 ∧ s.flag = true) := by
  rw [loadingLine, LoadingLoop.take, if_neg h]
  by_cases hok : isRmcStatusOk (readUART s.buf line) = 1
  · rw [if_pos hok]
    cases hflag : s.flag <;> simp [LoadingLoop.takeRmc, hok, hs]
  · rw [if_neg hok]
    simp [hok, hs]

theorem loadingGpsData_cons (s : LoadingLoop) (read : Option (List Char))
    (reads : List (Option (List Char))) :
    loadingGpsData s (read :: reads) = loadingGpsData (loadingTurn s read) reads := rfl

/-- Once left, the loop is left. -/
theorem loadingGpsData_of_isSome (hs : s.located.isSome = true)
    (reads : List (Option (List Char))) : loadingGpsData s reads = s := by
  induction reads with
  | nil => rfl
  | cons read reads ih => rw [loadingGpsData_cons, loadingTurn, if_pos hs, ih]

/-- While it runs, reads that deliver nothing change nothing. -/
theorem loadingGpsData_replicate_none (s : LoadingLoop) (n : ℕ) :
    loadingGpsData s (List.replicate n none) = s := by
  induction n with
  | zero => rfl
  | succ n ih =>
    have hturn : loadingTurn s none = s := ite_self _
    rw [List.replicate_succ, loadingGpsData_cons, hturn, ih]

/-- When the loop is left behind a GGA sentence and a line that is not one. -/
theorem loadingGpsData_pair_iff {gga rmc : List Char} (hs : s.located = none)
    (hgga : isGGA (readUART s.buf gga) = 1)
    (hrmc : isGGA (readUART (readUART s.buf gga) rmc) ≠ 1) (n : ℕ) :
    (loadingGpsData s (some gga :: (List.replicate n none ++ [some rmc]))).located.isSome = true ↔
      isRmcStatusOk (readUART (readUART s.buf gga) rmc) = 1 ∧
        (s.flag = true ∨ ',' ∉ altitudeBytes (readUART s.buf gga)) := by
  obtain ⟨hlocated, hbuf, hflag⟩ := loadingLine_gga hgga
  rw [hs] at hlocated
  have hfirst : loadingTurn s (some gga) = loadingLine s gga := if_neg (by simp [hs])
  have hlast : loadingTurn (loadingLine s gga) (some rmc) = loadingLine (loadingLine s gga) rmc :=
    if_neg (by simp [hlocated])
  rw [loadingGpsData_cons, hfirst, loadingGpsData, List.foldl_append]
  change (loadingTurn (loadingGpsData _ (List.replicate n none)) (some rmc)).located.isSome = true
    ↔ _
  rw [loadingGpsData_replicate_none, hlast, ← hflag, ← hbuf]
  rw [← hbuf] at hrmc
  exact (loadingLine_other hlocated hrmc).2

end Run

theorem IsGga.isGGA {gga : List Char} (h : IsGga gga) (buf : CBuf) :
    SensorIoT.isGGA (readUART buf gga) = 1 := by
  have hparts := h.fields
  exact if_pos (hasHeader_readUART buf h.header rfl (by omega))

theorem IsRmc.isGGA_ne_one {rmc : List Char} (h : IsRmc rmc) (buf : CBuf) :
    isGGA (readUART buf rmc) ≠ 1 := by
  have hparts := h.fields
  exact SensorIoT.isGGA_ne_one (hasHeader_readUART buf h.header rfl (by omega))

/-- What `getAlt` and the loop make of the bytes they look at. -/
theorem altitudeRight_iff_bytes {buf gga rmc : List Char} (hgga : IsGga gga) (hrmc : IsRmc rmc) :
    AltitudeRight buf gga rmc ↔
      (if fieldOf gga 9 = [] then ',' ∈ altitudeBytes (readUART buf gga)
        else ',' ∉ altitudeBytes (readUART buf gga) ∧
          cstr (altitudeBytes (readUART buf gga)) = fieldOf gga 9) ∧
        (fieldOf gga 9 ≠ [] → isRmcStatusOk (readUART (readUART buf gga) rmc) = 1) := by
  by_cases hempty : fieldOf gga 9 = []
  · rw [if_pos hempty]
    refine ⟨fun h => ⟨?_, fun hne => absurd hempty hne⟩, fun h => ⟨fun alt => ?_,
      fun hne => absurd hempty hne, fun hne => absurd hempty hne⟩⟩
    · exact (getAlt_snd_iff [] _).mp ((h.missing []).mpr hempty)
    · exact iff_of_true ((getAlt_snd_iff alt _).mpr h.1) hempty
  · rw [if_neg hempty]
    constructor
    · intro h
      have hcomma : ',' ∉ altitudeBytes (readUART buf gga) :=
        fun hmem => hempty ((h.missing []).mp ((getAlt_snd_iff [] _).mpr hmem))
      have hstored := h.stored hempty []
      obtain ⟨hmem, -⟩ | ⟨-, heq⟩ := getAlt_cases [] (readUART buf gga)
      · exact absurd hmem hcomma
      rw [heq, cstr_sprintf] at hstored
      let s : LoadingLoop := { LoadingLoop.init with buf := buf }
      have hleft := (loadingGpsData_pair_iff (s := s) rfl (hgga.isGGA _) (hrmc.isGGA_ne_one _) 0).mp
        (h.leaves hempty s rfl 0)
      exact ⟨⟨hcomma, hstored⟩, fun _ => hleft.1⟩
    · rintro ⟨⟨hcomma, hbytes⟩, hok⟩
      refine ⟨fun alt => ?_, fun _ alt => ?_, fun _ s hs n => ?_⟩
      · exact iff_of_false (mt (getAlt_snd_iff alt _).mp hcomma) hempty
      · obtain ⟨hmem, -⟩ | ⟨-, heq⟩ := getAlt_cases alt (readUART buf gga)
        · exact absurd hmem hcomma
        · rw [heq, cstr_sprintf, hbytes]
      · subst hs
        cases hlocated : s.located with
        | some location =>
          have hsome : s.located.isSome = true := by rw [hlocated]; rfl
          rw [loadingGpsData_of_isSome hsome, hsome]
        | none =>
          exact (loadingGpsData_pair_iff hlocated (hgga.isGGA _) (hrmc.isGGA_ne_one _) n).mpr
            ⟨hok hempty, .inr hcomma⟩

/-! ## Where the fields stand -/

section Start

variable {buf gga rmc : List Char}

theorem comma_mem_altitudeBytes_sprintf_iff (buf gga : List Char) :
    ',' ∈ altitudeBytes (sprintf buf gga) ↔ CommaThere buf gga := by
  have hmem : ',' ∈ altitudeBytes (sprintf buf gga) ↔
      ∃ j, 52 ≤ j ∧ j < 58 ∧ charAt (sprintf buf gga) j = ',' := by
    simp only [altitudeBytes, field, List.mem_map, List.mem_range]
    constructor
    · rintro ⟨i, hi, hcomma⟩
      exact ⟨i + 52, by omega, by omega, hcomma⟩
    · rintro ⟨j, hj, hj', hcomma⟩
      exact ⟨j - 52, by omega, by rwa [Nat.sub_add_cancel hj]⟩
  have hline : ∀ j, charAt gga j = ',' → j < gga.length := by
    intro j hcomma
    by_contra hge
    rw [charAt, List.getD_eq_default _ _ (Nat.le_of_not_lt hge)] at hcomma
    exact absurd hcomma (by decide)
  rw [hmem]
  constructor
  · rintro ⟨j, hj, hj', hcomma⟩
    rcases lt_trichotomy j gga.length with hlt | rfl | hgt
    · rw [charAt_sprintf_lt hlt] at hcomma
      obtain ⟨i, hi, hstart⟩ := (charAt_eq_comma_iff gga j).mp hcomma
      exact .inl ⟨i, hi, by omega, by omega⟩
    · rw [sprintf, charAt, ← Nat.add_zero gga.length, getD_append_length,
        List.getD_cons_zero] at hcomma
      exact absurd hcomma (by decide)
    · rw [charAt_sprintf_gt hgt] at hcomma
      exact .inr ⟨j, hgt, hj, hj', hcomma⟩
  · rintro (⟨i, hi, hlo, hhi⟩ | ⟨j, hgt, hj, hj', hcomma⟩)
    · have hcomma : charAt gga (fieldStart gga i - 1) = ',' :=
        (charAt_eq_comma_iff gga _).mpr ⟨i, hi, by omega⟩
      exact ⟨fieldStart gga i - 1, by omega, by omega,
        (charAt_sprintf_lt (hline _ hcomma) buf).trans hcomma⟩
    · exact ⟨j, hj, hj', (charAt_sprintf_gt hgt buf).trans hcomma⟩

/-- An altitude of six characters at byte 52 is what is taken. -/
theorem altitudeBytes_of_start (hgga : IsGga gga) (hstart : fieldStart gga 9 = 52)
    (hsix : (fieldOf gga 9).length = 6) (buf : CBuf) :
    altitudeBytes (sprintf buf gga) = fieldOf gga 9 := by
  have hparts : 9 + 1 < (parts gga).length := Nat.lt_of_succ_lt hgga.fields
  obtain ⟨r, hdrop⟩ := drop_fieldStart hparts
  rw [hstart] at hdrop
  have hlen := congrArg List.length hdrop
  rw [List.length_drop, List.length_append, List.length_cons] at hlen
  rw [altitudeBytes, field_eq_take (by simp [sprintf]; omega), sprintf,
    List.drop_append_of_le_length (by omega), hdrop, List.append_assoc, ← hsix, List.take_left]

/-- Bytes without a comma that spell the altitude are those of the altitude, or lie apart from
it. -/
theorem start_of_spelled (hgga : IsGga gga) (hcomma : ¬ CommaThere buf gga)
    (hspelled : cstr (altitudeBytes (sprintf buf gga)) = fieldOf gga 9) :
    fieldStart gga 9 = 52 ∧ HasWidth gga 9 6 ∨
      (fieldStart gga 9 + (fieldOf gga 9).length < 52 ∨ 58 < fieldStart gga 9) := by
  have hparts := hgga.fields
  have hnext : fieldStart gga 10 = fieldStart gga 9 + ((fieldOf gga 9).length + 1) :=
    fieldStart_succ (by omega)
  -- the commas before and behind the altitude are not among the bytes
  have hbefore : ¬ (53 ≤ fieldStart gga 9 ∧ fieldStart gga 9 ≤ 58) :=
    fun h => hcomma (.inl ⟨9, by omega, h⟩)
  have hbehind : ¬ (53 ≤ fieldStart gga 10 ∧ fieldStart gga 10 ≤ 58) :=
    fun h => hcomma (.inl ⟨10, by omega, h⟩)
  have hlen := length_cstr_le (altitudeBytes (sprintf buf gga))
  have hsix : (altitudeBytes (sprintf buf gga)).length = 6 := by simp [altitudeBytes, field]
  rw [hspelled, hsix] at hlen
  by_cases hapart : fieldStart gga 9 + (fieldOf gga 9).length < 52 ∨ 58 < fieldStart gga 9
  · exact .inr hapart
  · exact .inl ⟨by omega, by omega, hspelled ▸ nul_notMem_cstr _⟩

/-- **Where the altitude has to stand.** -/
theorem altitudeInPlace_iff (hgga : IsGga gga) :
    (if fieldOf gga 9 = [] then ',' ∈ altitudeBytes (readUART buf gga)
      else ',' ∉ altitudeBytes (readUART buf gga) ∧
        cstr (altitudeBytes (readUART buf gga)) = fieldOf gga 9) ↔ AltitudeInPlace buf gga := by
  rw [AltitudeInPlace, altitudeBytes_readUART, comma_mem_altitudeBytes_sprintf_iff]
  split
  · exact Iff.rfl
  · constructor
    · rintro ⟨hcomma, hspelled⟩
      exact (start_of_spelled hgga hcomma hspelled).imp_right fun hapart =>
        ⟨hapart, hcomma, hspelled⟩
    · rintro (⟨hstart, hsix, hnul⟩ | h)
      · have hbytes := altitudeBytes_of_start hgga hstart hsix buf
        rw [← comma_mem_altitudeBytes_sprintf_iff, hbytes]
        exact ⟨comma_notMem_fieldOf gga 9, cstr_eq_self hnul⟩
      · exact ⟨h.comma, h.spelled⟩

/-- **Where the status has to stand.** -/
theorem statusInPlace_iff (hrmc : IsRmc rmc) :
    isRmcStatusOk (readUART buf rmc) = 1 ↔ StatusInPlace buf rmc := by
  have hparts := hrmc.fields
  have hheader : isRMC (readUART buf rmc) = 1 :=
    if_pos (hasHeader_readUART buf hrmc.header rfl (by omega))
  have hbyte : isRmcStatusOk (readUART buf rmc) = 1 ↔ charAt (sprintf buf rmc) 18 = 'A' := by
    rw [isRmcStatusOk, if_pos hheader, charAt_readUART_eq buf rmc (by decide)]
    split <;> simp_all
  have hwidth0 : (fieldOf rmc 0).length = 6 := by rw [hrmc.header]; rfl
  have hwidth2 : (fieldOf rmc 2).length = 1 := by rw [hrmc.status]; rfl
  have hstart1 : fieldStart rmc 1 = 7 := by
    rw [fieldStart_succ (by omega), hwidth0]
    rfl
  have hstart2 : fieldStart rmc 2 = 8 + (fieldOf rmc 1).length := by
    rw [fieldStart_succ (by omega), hstart1]
    omega
  have hstart3 : fieldStart rmc 3 = 10 + (fieldOf rmc 1).length := by
    rw [fieldStart_succ (by omega), hstart2, hwidth2]
    omega
  have htwo : 2 + 1 < (parts rmc).length := by omega
  obtain ⟨r, hdrop⟩ := drop_fieldStart htwo
  have hlen := congrArg List.length hdrop
  rw [List.length_drop, List.length_append, List.length_cons, hwidth2, hstart2] at hlen
  -- a comma in that byte is not an `A`
  have hcomma : ∀ i < (parts rmc).length, fieldStart rmc i = 19 → 18 < rmc.length →
      charAt (sprintf buf rmc) 18 ≠ 'A' := by
    intro i hi hstart hlt hstatus
    rw [charAt_sprintf_lt hlt] at hstatus
    have hbyte := (charAt_eq_comma_iff rmc 18).mpr ⟨i, hi, hstart⟩
    rw [charAt, hstatus] at hbyte
    exact absurd hbyte (by decide)
  rw [hbyte, StatusInPlace]
  by_cases hten : (fieldOf rmc 1).length = 10
  · refine iff_of_true ?_ (.inl hten)
    rw [hstart2, hten, hrmc.status] at hdrop
    rw [charAt_sprintf_lt (by omega), ← Nat.add_zero 18, ← charAt, charAt_eq_getD_drop, hdrop]
    rfl
  · rw [or_iff_right hten]
    refine ⟨fun hstatus => ⟨?_, hstatus⟩, And.right⟩
    by_contra hnear
    rcases (by omega : (fieldOf rmc 1).length = 9 ∨ (fieldOf rmc 1).length = 11) with h | h
    · exact hcomma 3 (by omega) (by omega) (by omega) hstatus
    · exact hcomma 2 (by omega) (by omega) (by omega) hstatus

/-- **Which altitudes are taken right.** -/
theorem altitudeRight_iff (hgga : IsGga gga) (hrmc : IsRmc rmc) :
    AltitudeRight buf gga rmc ↔
      AltitudeInPlace buf gga ∧
        (fieldOf gga 9 ≠ [] → StatusInPlace (readUART buf gga) rmc) := by
  rw [altitudeRight_iff_bytes hgga hrmc, altitudeInPlace_iff hgga, statusInPlace_iff hrmc]

/-- **If the altitude begins at byte 52, it is taken right if it is missing or has six
characters.** -/
theorem altitudeInPlace_iff_of_start (hgga : IsGga gga) (hstart : fieldStart gga 9 = 52) :
    AltitudeInPlace buf gga ↔ fieldOf gga 9 = [] ∨ HasWidth gga 9 6 := by
  have hparts := hgga.fields
  rw [AltitudeInPlace]
  split
  · rename_i hempty
    have hnext : fieldStart gga 10 = 53 := by
      rw [fieldStart_succ (by omega), hstart, hempty]
      rfl
    exact iff_of_true (.inl ⟨10, by omega, by omega, by omega⟩) (.inl hempty)
  · rename_i hempty
    have happart : ¬ Coincides buf gga := fun h => by
      have := h.apart
      omega
    rw [or_iff_left happart, and_iff_right hstart, or_iff_right hempty]

/-- An altitude of five characters or less is taken for a missing one. -/
theorem comma_mem_of_short (hgga : IsGga gga) (hstart : fieldStart gga 9 = 52)
    (hshort : (fieldOf gga 9).length < 6) (buf : CBuf) :
    ',' ∈ altitudeBytes (readUART buf gga) := by
  have hparts : 9 + 1 < (parts gga).length := Nat.lt_of_succ_lt hgga.fields
  obtain ⟨r, hdrop⟩ := drop_fieldStart hparts
  rw [hstart] at hdrop
  have hlen := congrArg List.length hdrop
  rw [List.length_drop, List.length_append, List.length_cons] at hlen
  refine List.mem_map.mpr ⟨(fieldOf gga 9).length, List.mem_range.mpr hshort, ?_⟩
  rw [Nat.add_comm, charAt_readUART buf (by omega) (by omega), charAt_eq_getD_drop, hdrop]
  exact getD_append_length _ _ 0

end Start

/-- The loop has not found an altitude. -/
def Waiting (s : LoadingLoop) : Prop := s.located = none ∧ s.flag = false

/-- A line with which it does not find one, whatever was in the buffer. -/
def NoAltitude (line : List Char) : Prop :=
  ∀ buf, isGGA (readUART buf line) = 1 → ',' ∈ altitudeBytes (readUART buf line)

theorem Waiting.turn {s : LoadingLoop} {read : Option (List Char)} (hs : Waiting s)
    (hread : ∀ line ∈ read, NoAltitude line) : Waiting (loadingTurn s read) := by
  obtain ⟨hlocated, hflag⟩ := hs
  have hturn : loadingTurn s read = read.elim s (loadingLine s) := if_neg (by simp [hlocated])
  rw [hturn]
  cases read with
  | none => exact ⟨hlocated, hflag⟩
  | some line =>
    rw [Option.elim_some]
    by_cases hgga : isGGA (readUART s.buf line) = 1
    · obtain ⟨hnone, -, hiff⟩ := loadingLine_gga hgga
      refine ⟨hnone.trans hlocated, Bool.eq_false_iff.mpr fun htrue => ?_⟩
      obtain h | h := hiff.mp htrue
      · rw [hflag] at h
        cases h
      · exact h (hread line rfl s.buf hgga)
    · obtain ⟨hsame, hiff⟩ := loadingLine_other hlocated hgga
      rw [hflag] at hsame hiff
      refine ⟨Option.not_isSome_iff_eq_none.mp fun hsome => ?_, hsame⟩
      cases (hiff.mp hsome).2

/-- As long as the lines have no altitude that it finds, the loop goes on. -/
theorem Waiting.loadingGpsData {s : LoadingLoop} (hs : Waiting s)
    {reads : List (Option (List Char))} (h : ∀ line, some line ∈ reads → NoAltitude line) :
    Waiting (loadingGpsData s reads) := by
  induction reads generalizing s with
  | nil => exact hs
  | cons read reads ih =>
    rw [loadingGpsData_cons]
    refine ih (hs.turn fun line hline => h line ?_) fun line hline =>
      h line (List.mem_cons_of_mem _ hline)
    rw [Option.mem_def.mp hline]
    exact List.mem_cons_self

/-- **With RMC sentences and altitudes of five characters or less the loop goes on for ever.** -/
theorem loadingGpsData_stays {reads : List (Option (List Char))}
    (h : ∀ line, some line ∈ reads → IsRmc line ∨
      (IsGga line ∧ fieldStart line 9 = 52 ∧ (fieldOf line 9).length < 6)) :
    (loadingGpsData LoadingLoop.init reads).located = none := by
  have hinit : Waiting LoadingLoop.init := ⟨rfl, rfl⟩
  refine (hinit.loadingGpsData fun line hline buf hheader => ?_).1
  obtain hrmc | ⟨hgga, hstart, hshort⟩ := h line hline
  · exact absurd hheader (hrmc.isGGA_ne_one buf)
  · exact comma_mem_of_short hgga hstart hshort buf

/-- An altitude of 995 metres. -/
def lowGga : List Char :=
  "$GPGGA,123456.000,0326.2830,N,07631.1080,W,1,08,1.0,995.0,M,27.5,M,,*5A".toList

/-- One of 1012 metres. -/
def usualGga : List Char :=
  "$GPGGA,123456.000,0326.2830,N,07631.1080,W,1,08,1.0,1012.5,M,27.5,M,,*5A".toList

theorem altitudeRight_iff_usual : AltitudeRight (zeroBuf 255) usualGga usualLine := by
  have hgga : IsGga usualGga ∧ fieldOf usualGga 9 ≠ [] ∧ fieldStart usualGga 9 = 52 ∧
      (fieldOf usualGga 9).length = 6 ∧ nul ∉ fieldOf usualGga 9 := by
    decide +kernel
  obtain ⟨hgga, hne, hstart, hsix, hnul⟩ := hgga
  refine (altitudeRight_iff hgga regular_usualLine.toIsRmc).mpr
    ⟨?_, fun _ => .inl regular_usualLine.time.1⟩
  rw [AltitudeInPlace, if_neg hne]
  exact .inl ⟨hstart, hsix, hnul⟩

/-- The lower altitude is taken for a missing one. -/
theorem not_altitudeRight_low :
    IsGga lowGga ∧ isGGA (readUART (zeroBuf 255) lowGga) = 1 ∧
      ¬ AltitudeRight (zeroBuf 255) lowGga usualLine := by
  have hlow : IsGga lowGga ∧ SensorIoT.isGGA (readUART (zeroBuf 255) lowGga) = 1 ∧
      (getAlt (zeroBuf 24) (readUART (zeroBuf 255) lowGga)).2 = -1 ∧ fieldOf lowGga 9 ≠ [] := by
    decide +kernel
  obtain ⟨hgga, hheader, hmissing, hne⟩ := hlow
  exact ⟨hgga, hheader, fun h => hne ((h.missing (zeroBuf 24)).mp hmissing)⟩

end SensorIoT
