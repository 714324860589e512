import IdentityCrates.Dmrtd.Extension.DateString
import IdentityCrates.Icao.Mrz

/-!
# Machine readable zone: the three formats

`Mrz::from_bytes` of `mrz.rs`.  The parsers read the fields one after the other from a `Reader` over
the bytes, then go back and read the composite again with its padding.  A field is a string with one
character for each byte, so that a byte of `0x80` or more takes two bytes of the string; this
matters where the code counts with `str::len`.

Dates need the date of today, which is the parameter `reference` throughout.
-/

namespace Dmrtd

open Rust Text Octets

/-- `MrzVersion`. -/
inductive MrzVersion where
  | td1
  | td2
  | td3
  deriving DecidableEq, Repr

/-- `MrzParseError`. -/
structure MrzParseError where
  message : String
  deriving DecidableEq, Repr

/-- `Mrz`: a parsed machine readable zone. -/
structure Mrz where
  country : Str
  dateOfBirth : NaiveDate
  dateOfExpiry : NaiveDate
  documentCode : Str
  firstName : Str
  lastName : Str
  nationality : Str
  gender : Str
  version : MrzVersion
  docNum : Str
  optData : Str
  optData2 : Option Str
  encoded : Bytes

/-! ## The byte stream reader -/

/-- `Reader`. -/
structure Reader where
  buf : Bytes
  pos : Nat

namespace Reader

/-- `Reader::new`. -/
def new (buf : Bytes) : Reader := ⟨buf, 0⟩

/-- A step of a parser: it moves the reader and may fail. -/
abbrev Step (α : Type) := Proc Reader MrzParseError α

/-- `Reader::reset`. -/
def reset : Step Unit := Proc.modify fun r => { r with pos := 0 }

/-- `Reader::skip`. -/
def skip (n : Nat) : Step Unit := Proc.modify fun r => { r with pos := r.pos + n }

/-- `Reader::rewind`. -/
def rewind (n : Nat) : Step Unit := Proc.modify fun r => { r with pos := r.pos - n }

end Reader

/-- Each byte as the character of that number. -/
def chars (bs : Bytes) : Str := bs.map fun b => Char.ofNat b.toNat

open Reader (Step reset skip rewind)

/-- `read_with_pad`. -/
def readWithPad (size : Nat) : Step Str := do
  let r ← Proc.get
  if r.pos + size > r.buf.length then
    Proc.fail ⟨"Unexpected end of MRZ data (pos=" ++ toString r.pos ++ ", needed=" ++
      toString size ++ ")"⟩
  else do
    let slice := (r.buf.drop r.pos).take size
    Proc.modify fun r => { r with pos := r.pos + size }
    return chars slice

/-- `read`. -/
def read (size : Nat) : Step Str := do
  let s ← readWithPad size
  return trimEndMatches '<' s

/-- The date a date field stands for. -/
def dateValue (yymmdd : Str) (futureDate : Bool) (reference : NaiveDate) :
    Outcome MrzParseError NaiveDate :=
  (parseDateYymmddWithRef yymmdd futureDate reference).mapErr fun e =>
    ⟨"Invalid date in MRZ: " ++ e.display⟩

/-- `read_date`. -/
def readDate (futureDate : Bool) (reference : NaiveDate) : Step NaiveDate := do
  let yymmdd ← read 6
  Proc.lift (dateValue yymmdd futureDate reference)

/-- The number a check digit field stands for: a filler is zero. -/
def cdValue (s : Str) : Outcome MrzParseError Nat :=
  if s = ['<'] then .ok 0
  else Outcome.ofOption ⟨"Invalid check digit character in MRZ"⟩ (parseUnsigned (2 ^ 32 - 1) s)

/-- `read_cd`. -/
def readCd : Step Nat := do
  let s ← readWithPad 1
  Proc.lift (cdValue s)

/-- `str::split("<<")`. -/
def splitDouble : Str → List Str
  | '<' :: '<' :: s => [] :: splitDouble s
  | [] => [[]]
  | c :: s =>
    match splitDouble s with
    | [] => [[c]]
    | part :: parts => (c :: part) :: parts

/-- The last and the first names of a name field. -/
def nameIdentifiers (nameField : Str) : Str × Str :=
  let ids := (splitDouble nameField).map (replaceChar '<' ' ')
  (ids.headD [], [' '].intercalate ids.tail)

/-- `read_name_identifiers`. -/
def readNameIdentifiers (size : Nat) : Step (Str × Str) := do
  let nameField ← read size
  return nameIdentifiers nameField

/-- `assert_check_digit`: an unsupported character is a mismatch. -/
def assertCheckDigit (value : Str) (cdigit : Nat) (errMsg : String) :
    Outcome MrzParseError Unit :=
  if Mrz.calculateCheckDigit value = some cdigit then .ok () else .err ⟨errMsg⟩

/-! ## Extended document numbers -/

/-- `str::split('<').next()`: the text before the first filler. -/
def beforeFiller (s : Str) : Str := s.takeWhile (· ≠ '<')

/-- `parse_extended_document_number`: what becomes of the document number and the two fields of
optional data. -/
def parseExtendedDocumentNumber (docNum strCdDocNum optData : Str) (optData2 : Option Str) :
    Outcome MrzParseError (Str × Str × Option Str) :=
  if strCdDocNum = ['<'] ∧ byteLen optData > 2 then
    let dnSecondPart := beforeFiller optData
    match dnSecondPart.getLast? with
    | none => .err ⟨"Document Number extension is empty"⟩
    | some lastChar => do
      let docNum' := docNum ++ dnSecondPart.dropLast
      let cdDocNum ← Outcome.ofOption ⟨"Invalid extended document number check digit"⟩
        (toDigit lastChar)
      assertCheckDigit docNum' cdDocNum "Document Number check digit mismatch"
      return (docNum', optData2.getD [], none)
  else do
    let cdDocNum ← Outcome.ofOption ⟨"Invalid document number check digit"⟩
      (parseUnsigned (2 ^ 32 - 1) strCdDocNum)
    assertCheckDigit docNum cdDocNum "Document Number check digit mismatch"
    return (docNum, optData, optData2)

/-! ## The formats -/

namespace Mrz

/-- `Mrz::parse_td1`. -/
def parseTd1 (reference : NaiveDate) : Step Mrz := do
  let documentCode ← read 2
  let country ← read 3
  let docNum ← read 9
  let cdDocNum ← readWithPad 1
  let optData ← read 15
  let dateOfBirth ← readDate false reference
  let cdBirth ← readCd
  Proc.lift (assertCheckDigit dateOfBirth.formatYymmdd cdBirth
    "Data of Birth check digit mismatch")
  let gender ← read 1
  let dateOfExpiry ← readDate true reference
  let cdExpiry ← readCd
  Proc.lift (assertCheckDigit dateOfExpiry.formatYymmdd cdExpiry
    "Data of Expiry check digit mismatch")
  let nationality ← read 3
  let optData2 ← read 11
  let (docNum, optData, optData2) ←
    Proc.lift (parseExtendedDocumentNumber docNum cdDocNum optData (some optData2))
  let cdComposite ← readCd
  let (lastName, firstName) ← readNameIdentifiers 30
  -- the composite is read again from the start, with its padding
  reset
  skip 5
  let composite₁ ← readWithPad 25
  let composite₂ ← readWithPad 7
  skip 1
  let composite₃ ← readWithPad 7
  skip 3
  let composite₄ ← readWithPad 11
  Proc.lift (assertCheckDigit (composite₁ ++ composite₂ ++ composite₃ ++ composite₄) cdComposite
    "Composite check digit mismatch")
  return {
    version := .td1, country, dateOfBirth, dateOfExpiry, documentCode, firstName, lastName,
    nationality, gender, docNum, optData, optData2, encoded := [] }

/-- `Mrz::parse_td2`. -/
def parseTd2 (reference : NaiveDate) : Step Mrz := do
  let documentCode ← read 2
  let country ← read 3
  let (lastName, firstName) ← readNameIdentifiers 31
  let docNum ← read 9
  let cdDocNum ← readWithPad 1
  let nationality ← read 3
  let dateOfBirth ← readDate false reference
  let cdBirth ← readCd
  Proc.lift (assertCheckDigit dateOfBirth.formatYymmdd cdBirth
    "Data of Birth check digit mismatch")
  let gender ← read 1
  let dateOfExpiry ← readDate true reference
  let cdExpiry ← readCd
  Proc.lift (assertCheckDigit dateOfExpiry.formatYymmdd cdExpiry
    "Data of Expiry check digit mismatch")
  let optData ← read 7
  let (docNum, optData, optData2) ←
    Proc.lift (parseExtendedDocumentNumber docNum cdDocNum optData none)
  let cdComposite ← readCd
  rewind 36
  let composite₁ ← readWithPad 10
  skip 3
  let composite₂ ← readWithPad 7
  skip 1
  let composite₃ ← readWithPad 14
  Proc.lift (assertCheckDigit (composite₁ ++ composite₂ ++ composite₃) cdComposite
    "Composite check digit mismatch")
  return {
    version := .td2, country, dateOfBirth, dateOfExpiry, documentCode, firstName, lastName,
    nationality, gender, docNum, optData, optData2, encoded := [] }

/-- `Mrz::parse_td3`. -/
def parseTd3 (reference : NaiveDate) : Step Mrz := do
  let documentCode ← read 2
  let country ← read 3
  let (lastName, firstName) ← readNameIdentifiers 39
  let docNum ← read 9
  let cdDocNum ← readCd
  Proc.lift (assertCheckDigit docNum cdDocNum "Document Number check digit mismatch")
  let nationality ← read 3
  let dateOfBirth ← readDate false reference
  let cdBirth ← readCd
  Proc.lift (assertCheckDigit dateOfBirth.formatYymmdd cdBirth
    "Data of Birth check digit mismatch")
  let gender ← read 1
  let dateOfExpiry ← readDate true reference
  let cdExpiry ← readCd
  Proc.lift (assertCheckDigit dateOfExpiry.formatYymmdd cdExpiry
    "Data of Expiry check digit mismatch")
  let optData ← read 14
  let cdOptional ← readCd
  Proc.lift (assertCheckDigit optData cdOptional "Optional data check digit mismatch")
  let cdComposite ← readCd
  rewind 44
  let composite₁ ← readWithPad 10
  skip 3
  let composite₂ ← readWithPad 7
  skip 1
  let composite₃ ← readWithPad 22
  Proc.lift (assertCheckDigit (composite₁ ++ composite₂ ++ composite₃) cdComposite
    "Composite check digit mismatch")
  return {
    version := .td3, country, dateOfBirth, dateOfExpiry, documentCode, firstName, lastName,
    nationality, gender, docNum, optData, optData2 := none, encoded := [] }

/-! ### What the parsers compute

The reader runs over the bytes at fixed positions, so on bytes of the right length a parser is a
sequence of checks on fields of the text. -/

section Fields

variable {α : Type} {buf : Bytes} {p n : Nat}

lemma readWithPad_bind (f : Str → Step α) (h : p + n ≤ buf.length) :
    (readWithPad n >>= f) ⟨buf, p⟩ = f (field (chars buf) p n) ⟨buf, p + n⟩ := by
  have hread : readWithPad n ⟨buf, p⟩ = (.ok (field (chars buf) p n), ⟨buf, p + n⟩) := by
    unfold readWithPad
    rw [Proc.get_bind_apply, if_neg (by simpa using h)]
    simp only [Proc.modify_bind_apply, Proc.pure_apply, chars, field, List.map_take, List.map_drop]
  exact Proc.bind_apply_ok hread

lemma read_bind (f : Str → Step α) (h : p + n ≤ buf.length) :
    (read n >>= f) ⟨buf, p⟩ = f (trimEndMatches '<' (field (chars buf) p n)) ⟨buf, p + n⟩ := by
  rw [read, Proc.bind_assoc, readWithPad_bind _ h]
  rfl

lemma lift_bind_fst {β : Type} (x : Outcome MrzParseError β) (f : β → Step α) (r : Reader) :
    ((Proc.lift x >>= f) r).1 = x >>= fun b => (f b r).1 := by
  cases x <;> rfl

lemma readDate_bind (futureDate : Bool) (reference : NaiveDate) (f : NaiveDate → Step α)
    (h : p + 6 ≤ buf.length) :
    ((readDate futureDate reference >>= f) ⟨buf, p⟩).1 =
      dateValue (trimEndMatches '<' (field (chars buf) p 6)) futureDate reference >>= fun date =>
        (f date ⟨buf, p + 6⟩).1 := by
  rw [readDate, Proc.bind_assoc, read_bind _ h, lift_bind_fst]

lemma readCd_bind (f : Nat → Step α) (h : p + 1 ≤ buf.length) :
    ((readCd >>= f) ⟨buf, p⟩).1 =
      cdValue (field (chars buf) p 1) >>= fun cd => (f cd ⟨buf, p + 1⟩).1 := by
  rw [readCd, Proc.bind_assoc, readWithPad_bind _ h, lift_bind_fst]

lemma readNameIdentifiers_bind (f : Str × Str → Step α) (h : p + n ≤ buf.length) :
    (readNameIdentifiers n >>= f) ⟨buf, p⟩ =
      f (nameIdentifiers (trimEndMatches '<' (field (chars buf) p n))) ⟨buf, p + n⟩ := by
  rw [readNameIdentifiers, Proc.bind_assoc, read_bind _ h]
  rfl

lemma reset_bind (f : Unit → Step α) : (reset >>= f) ⟨buf, p⟩ = f () ⟨buf, 0⟩ := rfl

lemma skip_bind (f : Unit → Step α) : (skip n >>= f) ⟨buf, p⟩ = f () ⟨buf, p + n⟩ := rfl

lemma rewind_bind (f : Unit → Step α) : (rewind n >>= f) ⟨buf, p⟩ = f () ⟨buf, p - n⟩ := rfl

end Fields

/-- A date and its check digit, from position `i` of the text on. -/
def checkedDate (text : Str) (i : Nat) (futureDate : Bool) (reference : NaiveDate)
    (errMsg : String) : Outcome MrzParseError NaiveDate := do
  let date ← dateValue (trimEndMatches '<' (field text i 6)) futureDate reference
  let cd ← cdValue (field text (i + 6) 1)
  assertCheckDigit date.formatYymmdd cd errMsg
  return date

/-- A text and its check digit, the latter at position `i`. -/
def checkedText (text : Str) (value : Str) (i : Nat) (errMsg : String) :
    Outcome MrzParseError Unit := do
  let cd ← cdValue (field text i 1)
  assertCheckDigit value cd errMsg

/-! ### Check digits as the standard has them -/

section CheckDigits

variable {text s : Str} {i : Nat} {errMsg : String}

lemma calculateCheckDigit_eq (h : ∀ c ∈ s, Icao.IsMrzChar c) :
    calculateCheckDigit s = some (Icao.checkDigit s) := by
  have hvalue : ∀ c, Icao.IsMrzChar c → charValue c = some (Icao.charValue c) := by
    intro c hc
    unfold charValue Icao.charValue
    by_cases hd : c.isDigit = true
    · rw [if_pos hd, if_pos hd]
    · by_cases hu : c.isUpper = true
      · rw [if_neg hd, if_neg hd, if_pos hu, if_pos hu]
      · have hfiller : c = '<' := by
          rcases hc with hc | hc | hc
          · exact absurd hc hu
          · exact absurd hc hd
          · exact hc
        rw [if_neg hd, if_neg hd, if_neg hu, if_neg hu, if_pos (Or.inl hfiller)]
  have hsum : ∀ j, weightedSum j s = some (Icao.weightedSum j s) := by
    induction s with
    | nil => exact fun j => rfl
    | cons c s ih =>
      intro j
      rw [weightedSum, hvalue c (h c List.mem_cons_self),
        ih (fun d hd => h d (List.mem_cons_of_mem c hd)) (j + 1)]
      rfl
  rw [calculateCheckDigit, hsum, Option.map_some, Icao.checkDigit]

@[simp] lemma cdValue_checkChar (s : Str) : cdValue [Icao.checkChar s] = .ok (Icao.checkDigit s) := by
  have hlt := Icao.checkDigit_lt s
  have hne : [Icao.checkChar s] ≠ ['<'] := by
    intro heq
    have hdigit := isDigit_digitChar hlt
    rw [show Nat.digitChar (Icao.checkDigit s) = '<' from (List.cons.inj heq).1] at hdigit
    exact absurd hdigit (by decide)
  rw [cdValue, if_neg hne, Icao.checkChar, parseUnsigned_digitChar hlt (by norm_num)]
  rfl

lemma assertCheckDigit_eq_ok {cdigit : Nat} :
    assertCheckDigit s cdigit errMsg = .ok () ↔ calculateCheckDigit s = some cdigit := by
  unfold assertCheckDigit
  split <;> simp_all

/-- A text with its own check digit behind it passes. -/
lemma checkedText_eq_ok (hs : ∀ c ∈ s, Icao.IsMrzChar c)
    (h : field text i 1 = [Icao.checkChar s]) : checkedText text s i errMsg = .ok () := by
  rw [checkedText, h, cdValue_checkChar]
  exact assertCheckDigit_eq_ok.mpr (calculateCheckDigit_eq hs)

/-- A date with its own check digit behind it passes if it is a date. -/
lemma checkedDate_eq_ok {futureDate : Bool} {reference date : NaiveDate}
    (hs : ∀ c ∈ field text i 6, Icao.IsMrzChar c)
    (h : field text (i + 6) 1 = [Icao.checkChar (field text i 6)]) :
    checkedDate text i futureDate reference errMsg = .ok date ↔
      parseDateYymmddWithRef (field text i 6) futureDate reference = .ok date := by
  rw [checkedDate, dateValue, parseDateYymmddWithRef_trimEndMatches, h, cdValue_checkChar]
  constructor
  · intro hok
    obtain ⟨parsed, hparsed, hrest⟩ := Outcome.bind_eq_ok.mp hok
    rw [Outcome.ok_bind] at hrest
    obtain ⟨_, _, hdate⟩ := Outcome.bind_eq_ok.mp hrest
    cases hdate
    exact Outcome.mapErr_eq_ok.mp hparsed
  · intro hparsed
    have hdigits : (field text i 6).filter Char.isDigit = field text i 6 := by
      apply (List.filter_sublist).eq_of_length_le
      rw [(parseDateYymmddWithRef_eq_ok.mp hparsed).1]
      exact List.length_take_le 6 _
    have hassert : assertCheckDigit date.formatYymmdd (Icao.checkDigit (field text i 6)) errMsg =
        .ok () := by
      rw [formatYymmdd_of_parse hparsed, hdigits]
      exact assertCheckDigit_eq_ok.mpr (calculateCheckDigit_eq hs)
    simp only [hparsed, Outcome.mapErr_ok, Outcome.ok_bind, hassert, Outcome.pure_eq]

end CheckDigits

section Formats

variable (reference : NaiveDate) {data : Bytes}

lemma parseTd1_eq (h : data.length = 90) :
    (parseTd1 reference (Reader.new data)).1 = do
      let text := chars data
      let names := nameIdentifiers (trimEndMatches '<' (field text 60 30))
      let dateOfBirth ← checkedDate text 30 false reference "Data of Birth check digit mismatch"
      let dateOfExpiry ← checkedDate text 38 true reference "Data of Expiry check digit mismatch"
      let number ← parseExtendedDocumentNumber (trimEndMatches '<' (field text 5 9))
        (field text 14 1) (trimEndMatches '<' (field text 15 15))
        (some (trimEndMatches '<' (field text 48 11)))
      checkedText text (Icao.td1.compositeText text) 59 "Composite check digit mismatch"
      return {
        version := .td1, country := trimEndMatches '<' (field text 2 3), dateOfBirth,
        dateOfExpiry, documentCode := trimEndMatches '<' (field text 0 2),
        firstName := names.2, lastName := names.1,
        nationality := trimEndMatches '<' (field text 45 3),
        gender := trimEndMatches '<' (field text 37 1), docNum := number.1, optData := number.2.1,
        optData2 := number.2.2, encoded := [] } := by
  unfold parseTd1 Reader.new
  simp only [read_bind, readWithPad_bind, readDate_bind, readCd_bind, lift_bind_fst,
    readNameIdentifiers_bind, reset_bind, skip_bind, h, Nat.reduceAdd, Nat.reduceLeDiff,
    checkedDate, checkedText, bind_assoc, Outcome.ok_bind, Proc.pure_apply, Outcome.pure_eq,
    Icao.Layout.compositeText, Icao.td1, List.map_cons, List.map_nil, List.flatten_cons,
    List.flatten_nil, List.append_nil, List.append_assoc]

lemma parseTd2_eq (h : data.length = 72) :
    (parseTd2 reference (Reader.new data)).1 = do
      let text := chars data
      let names := nameIdentifiers (trimEndMatches '<' (field text 5 31))
      let dateOfBirth ← checkedDate text 49 false reference "Data of Birth check digit mismatch"
      let dateOfExpiry ← checkedDate text 57 true reference "Data of Expiry check digit mismatch"
      let number ← parseExtendedDocumentNumber (trimEndMatches '<' (field text 36 9))
        (field text 45 1) (trimEndMatches '<' (field text 64 7)) none
      checkedText text (Icao.td2.compositeText text) 71 "Composite check digit mismatch"
      return {
        version := .td2, country := trimEndMatches '<' (field text 2 3), dateOfBirth,
        dateOfExpiry, documentCode := trimEndMatches '<' (field text 0 2),
        firstName := names.2, lastName := names.1,
        nationality := trimEndMatches '<' (field text 46 3),
        gender := trimEndMatches '<' (field text 56 1), docNum := number.1, optData := number.2.1,
        optData2 := number.2.2, encoded := [] } := by
  unfold parseTd2 Reader.new
  simp only [read_bind, readWithPad_bind, readDate_bind, readCd_bind, lift_bind_fst,
    readNameIdentifiers_bind, rewind_bind, skip_bind, h, Nat.reduceAdd, Nat.reduceSub, Nat.reduceLeDiff,
    checkedDate, checkedText, bind_assoc, Outcome.ok_bind, Proc.pure_apply, Outcome.pure_eq,
    Icao.Layout.compositeText, Icao.td2, List.map_cons, List.map_nil, List.flatten_cons,
    List.flatten_nil, List.append_nil, List.append_assoc]

lemma parseTd3_eq (h : data.length = 88) :
    (parseTd3 reference (Reader.new data)).1 = do
      let text := chars data
      let names := nameIdentifiers (trimEndMatches '<' (field text 5 39))
      let docNum := trimEndMatches '<' (field text 44 9)
      let optData := trimEndMatches '<' (field text 72 14)
      checkedText text docNum 53 "Document Number check digit mismatch"
      let dateOfBirth ← checkedDate text 57 false reference "Data of Birth check digit mismatch"
      let dateOfExpiry ← checkedDate text 65 true reference "Data of Expiry check digit mismatch"
      checkedText text optData 86 "Optional data check digit mismatch"
      checkedText text (Icao.td3.compositeText text) 87 "Composite check digit mismatch"
      return {
        version := .td3, country := trimEndMatches '<' (field text 2 3), dateOfBirth,
        dateOfExpiry, documentCode := trimEndMatches '<' (field text 0 2),
        firstName := names.2, lastName := names.1,
        nationality := trimEndMatches '<' (field text 54 3),
        gender := trimEndMatches '<' (field text 64 1), docNum, optData, optData2 := none,
        encoded := [] } := by
  unfold parseTd3 Reader.new
  simp only [read_bind, readWithPad_bind, readDate_bind, readCd_bind, lift_bind_fst,
    readNameIdentifiers_bind, rewind_bind, skip_bind, h, Nat.reduceAdd, Nat.reduceSub, Nat.reduceLeDiff,
    checkedDate, checkedText, bind_assoc, Outcome.ok_bind, Proc.pure_apply, Outcome.pure_eq,
    Icao.Layout.compositeText, Icao.td3, List.map_cons, List.map_nil, List.flatten_cons,
    List.flatten_nil, List.append_nil, List.append_assoc]

end Formats

/-- `Mrz::from_bytes`. -/
def fromBytes (reference : NaiveDate) (encoded : Bytes) : Outcome MrzParseError Mrz :=
  match encoded.length with
  | 90 => (fun parsed => { parsed with version := .td1, encoded }) <$>
      (parseTd1 reference (Reader.new encoded)).1
  | 72 => (fun parsed => { parsed with version := .td2, encoded }) <$>
      (parseTd2 reference (Reader.new encoded)).1
  | 88 => (fun parsed => { parsed with version := .td3, encoded }) <$>
      (parseTd3 reference (Reader.new encoded)).1
  | _ => .err ⟨"Invalid MRZ data"⟩

end Mrz

/-! ## Zones that were read -/

/-- The layout of a format. -/
def MrzVersion.layout : MrzVersion → Icao.Layout
  | .td1 => Icao.td1
  | .td2 => Icao.td2
  | .td3 => Icao.td3

/-- The second field of optional data, which only TD1 has. -/
def MrzVersion.optionalData2 (version : MrzVersion) (text : Str) : Option Str :=
  match version with
  | .td1 => some (trimEndMatches '<' (field text 48 11))
  | _ => none

namespace Mrz

/-- What holds of a zone `zone` that was read as `mrz`, from the positions of its format. -/
structure ReadFrom (reference : NaiveDate) (zone : Bytes) (mrz : Mrz) : Prop where
  length : zone.length = mrz.version.layout.size
  birth : ∃ errMsg, checkedDate (chars zone) mrz.version.layout.birthDate false reference errMsg =
    .ok mrz.dateOfBirth
  expiry : ∃ errMsg, checkedDate (chars zone) mrz.version.layout.expiryDate true reference errMsg =
    .ok mrz.dateOfExpiry
  number : mrz.version ≠ .td3 →
    parseExtendedDocumentNumber
      (trimEndMatches '<' (field (chars zone) mrz.version.layout.documentNumber 9))
      (field (chars zone) (mrz.version.layout.documentNumber + 9) 1)
      (trimEndMatches '<' (field (chars zone) mrz.version.layout.optionalData
        mrz.version.layout.optionalLength))
      (mrz.version.optionalData2 (chars zone)) = .ok (mrz.docNum, mrz.optData, mrz.optData2)
  numberTd3 : mrz.version = .td3 →
    mrz.docNum = trimEndMatches '<' (field (chars zone) mrz.version.layout.documentNumber 9) ∧
      ∃ errMsg, checkedText (chars zone) mrz.docNum (mrz.version.layout.documentNumber + 9)
        errMsg = .ok ()
  composite : ∃ errMsg,
    checkedText (chars zone) (mrz.version.layout.compositeText (chars zone))
      mrz.version.layout.compositeDigit errMsg = .ok ()

/-- The specification of `from_bytes`, for the fields that have a say in whether a zone is read. -/
lemma readFrom_of_fromBytes {reference : NaiveDate} {zone : Bytes} {mrz : Mrz}
    (h : fromBytes reference zone = .ok mrz) : ReadFrom reference zone mrz := by
  unfold fromBytes at h
  split at h
  · rename_i hlen
    rw [parseTd1_eq reference hlen] at h
    obtain ⟨parsed, hparsed, rfl⟩ := Outcome.map_eq_ok.mp h
    obtain ⟨birth, hbirth, hparsed⟩ := Outcome.bind_eq_ok.mp hparsed
    obtain ⟨expiry, hexpiry, hparsed⟩ := Outcome.bind_eq_ok.mp hparsed
    obtain ⟨number, hnumber, hparsed⟩ := Outcome.bind_eq_ok.mp hparsed
    obtain ⟨⟨⟩, hcomposite, hparsed⟩ := Outcome.bind_eq_ok.mp hparsed
    cases hparsed
    exact ⟨hlen, ⟨_, hbirth⟩, ⟨_, hexpiry⟩, fun _ => hnumber, by rintro ⟨⟩, ⟨_, hcomposite⟩⟩
  · rename_i hlen
    rw [parseTd2_eq reference hlen] at h
    obtain ⟨parsed, hparsed, rfl⟩ := Outcome.map_eq_ok.mp h
    obtain ⟨birth, hbirth, hparsed⟩ := Outcome.bind_eq_ok.mp hparsed
    obtain ⟨expiry, hexpiry, hparsed⟩ := Outcome.bind_eq_ok.mp hparsed
    obtain ⟨number, hnumber, hparsed⟩ := Outcome.bind_eq_ok.mp hparsed
    obtain ⟨⟨⟩, hcomposite, hparsed⟩ := Outcome.bind_eq_ok.mp hparsed
    cases hparsed
    exact ⟨hlen, ⟨_, hbirth⟩, ⟨_, hexpiry⟩, fun _ => hnumber, by rintro ⟨⟩, ⟨_, hcomposite⟩⟩
  · rename_i hlen
    rw [parseTd3_eq reference hlen] at h
    obtain ⟨parsed, hparsed, rfl⟩ := Outcome.map_eq_ok.mp h
    obtain ⟨⟨⟩, hnumber, hparsed⟩ := Outcome.bind_eq_ok.mp hparsed
    obtain ⟨birth, hbirth, hparsed⟩ := Outcome.bind_eq_ok.mp hparsed
    obtain ⟨expiry, hexpiry, hparsed⟩ := Outcome.bind_eq_ok.mp hparsed
    obtain ⟨⟨⟩, -, hparsed⟩ := Outcome.bind_eq_ok.mp hparsed
    obtain ⟨⟨⟩, hcomposite, hparsed⟩ := Outcome.bind_eq_ok.mp hparsed
    cases hparsed
    exact ⟨hlen, ⟨_, hbirth⟩, ⟨_, hexpiry⟩, fun htd3 => absurd rfl htd3,
      fun _ => ⟨rfl, _, hnumber⟩, ⟨_, hcomposite⟩⟩
  · cases h

/-- The length of a zone says which format it has. -/
lemma ReadFrom.version_eq {reference : NaiveDate} {zone : Bytes} {mrz : Mrz}
    (h : ReadFrom reference zone mrz) {version : MrzVersion}
    (hlen : zone.length = version.layout.size) : mrz.version = version := by
  have hsize : ∀ v w : MrzVersion, v.layout.size = w.layout.size → v = w := by
    intro v w
    cases v <;> cases w <;> decide
  exact hsize _ _ (h.length.symm.trans hlen)

end Mrz

end Dmrtd
