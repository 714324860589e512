import IdentityCrates.Lib.Json.Characters
import IdentityCrates.Mobile.Ffi

/-!
# The FFI loses nothing

What is rendered for the host is one JSON document, without a NUL character, and it denotes one
value only; from that value every field is read back.  The serialiser is put together from format
strings, so the proof goes along them: each template is an object of the grammar, each hole a value
of it, and a text from a document is behind quotation marks that it cannot leave.
-/

namespace IdentityMobile

open Octets
open Text hiding debugNumbers
open Json (Value Reads ReadsMember CharText Chars Document)

/-! ## What is written -/

lemma hexVal_digitChar {d : Nat} (h : d < 16) : Json.hexVal d.digitChar = some d := by
  have hall : ∀ d < 16, Json.hexVal d.digitChar = some d := by decide
  exact hall d h

lemma hex4_hexPadded {n : Nat} (h : n < 65536) : Json.Hex4 (hexPadded 4 n) n := by
  have hhex := Json.Hex4.mk (hexVal_digitChar (Nat.mod_lt (n / 16 / 16 / 16) (show 0 < 16 by decide)))
    (hexVal_digitChar (Nat.mod_lt (n / 16 / 16) (show 0 < 16 by decide)))
    (hexVal_digitChar (Nat.mod_lt (n / 16) (show 0 < 16 by decide)))
    (hexVal_digitChar (Nat.mod_lt n (show 0 < 16 by decide)))
  have hvalue : ((n / 16 / 16 / 16 % 16 * 16 + n / 16 / 16 % 16) * 16 + n / 16 % 16) * 16 +
      n % 16 = n := by omega
  rw [hvalue] at hhex
  exact hhex

/-- Every character is written as one of its forms. -/
lemma charText_quoteChar (c : Char) : CharText (quoteChar c) c := by
  unfold quoteChar
  split
  · rename_i hc
    rw [hc]
    exact CharText.escape rfl
  · rename_i hquote
    split
    · rename_i hc
      rw [hc]
      exact CharText.escape rfl
    · rename_i hslash
      split
      · rename_i hc
        rw [hc]
        exact CharText.escape rfl
      · split
        · rename_i hc
          rw [hc]
          exact CharText.escape rfl
        · split
          · rename_i hc
            rw [hc]
            exact CharText.escape rfl
          · split
            · rename_i hcontrol
              have hunicode := CharText.unicode (hex4_hexPadded (n := c.toNat) (by omega))
                (by simp [Json.isHigh]; omega) (by simp [Json.isLow]; omega)
              rwa [Char.ofNat_toNat] at hunicode
            · rename_i hcontrol
              exact CharText.plain hquote hslash (by omega)

lemma reads_quote (s : Str) : Reads (quote s) (.string s) :=
  Reads.string (Chars.flatMap fun c _ => charText_quoteChar c)

lemma reads_raw {s : String} (h : Json.Plain s.toList) : Reads (raw s) (.string s.toList) :=
  Reads.string (Chars.plain h)

/-! ### Values of the fields -/

/-- The value of an optional text. -/
def optionalValue : Option Str → Value
  | some s => .string s
  | none => .null

/-- The value of optional bytes. -/
def optionalHexValue : Option Bytes → Value
  | some bytes => .string (hex bytes)
  | none => .null

/-- The value of an optional answer. -/
def optionalBoolValue : Option Bool → Value
  | some b => .bool b
  | none => .null

/-- The value of a number. -/
def byteValue (n : UInt8) : Value := .number (n.toNat : Int) 0

lemma reads_optional (s : Option Str) : Reads (optional s) (optionalValue s) := by
  cases s with
  | none => exact Reads.null
  | some s => exact reads_quote s

lemma reads_optionalHex (bytes : Option Bytes) :
    Reads (optionalHex bytes) (optionalHexValue bytes) := by
  cases bytes with
  | none => exact Reads.null
  | some bytes => exact reads_quote (hex bytes)

lemma reads_bool (b : Bool) : Reads (boolText b) (.bool b) := by
  cases b with
  | false => exact Reads.false
  | true => exact Reads.true

lemma reads_optionalBool (b : Option Bool) : Reads (optionalBool b) (optionalBoolValue b) := by
  cases b with
  | none => exact Reads.null
  | some b => exact reads_bool b

lemma forall₂_map {α : Type} {f : α → Str} {g : α → Value} (h : ∀ a, Reads (f a) (g a))
    (l : List α) : List.Forall₂ Reads (l.map f) (l.map g) := by
  induction l with
  | nil => exact List.Forall₂.nil
  | cons a l ih => exact List.Forall₂.cons (h a) ih

/-- A list under a format string. -/
lemma reads_bracketed {α : Type} {f : α → Str} {g : α → Value} (h : ∀ a, Reads (f a) (g a))
    (l : List α) : Reads (bracketed (l.map f)) (.array (l.map g)) :=
  Reads.list Json.Blank.nil (forall₂_map h l)

/-- A list in the form it has for debugging. -/
lemma reads_numbers (l : List UInt8) :
    Reads (Text.debugNumbers (l.map UInt8.toNat)) (.array (l.map byteValue)) := by
  have hws : Json.Blank [' '] := fun c hc => by rw [List.mem_singleton.mp hc]; rfl
  have hlist := Reads.list hws (forall₂_map (fun n : UInt8 => Reads.nat n.toNat) l)
  unfold Text.debugNumbers
  rw [List.map_map]
  exact hlist

lemma readsMember (key : String) {s : Str} {v : Value} (hkey : Json.Plain key.toList)
    (h : Reads s v) : ReadsMember (key.toList, s) (key.toList, v) := ⟨rfl, hkey, h⟩

/-! ### Values of the results -/

/-- The value of a source. -/
def sourceValue : Option DocumentSource → Value
  | some (.passport documentCode issuingState verifiedDataGroups signedDataGroups) =>
    .object [("kind".toList, .string "passport".toList),
      ("documentCode".toList, .string documentCode), ("issuingState".toList, .string issuingState),
      ("verifiedDataGroups".toList, .array (verifiedDataGroups.map byteValue)),
      ("signedDataGroups".toList, .array (signedDataGroups.map byteValue))]
  | some (.mobileDrivingLicence docType issuingAuthority sessionProfile) =>
    .object [("kind".toList, .string "mdl".toList), ("docType".toList, .string docType),
      ("issuingAuthority".toList, optionalValue issuingAuthority),
      ("sessionProfile".toList, optionalValue sessionProfile)]
  | none => .null

/-- The value of an age attestation. -/
def attestationValue (a : UInt8 × Bool) : Value :=
  .object [("years".toList, byteValue a.1), ("answer".toList, .bool a.2)]

/-- The value of the authenticity. -/
def authenticityValue (a : Authenticity) : Value :=
  .object [("dataAuthentic".toList, .bool a.dataAuthentic),
    ("issuerTrusted".toList, .bool a.issuerTrusted),
    ("holderBound".toList, optionalBoolValue a.holderBound),
    ("notExpired".toList, .bool a.notExpired),
    ("warnings".toList, .array (a.warnings.map fun w => .string w.toList))]

/-- The value of an identity. -/
def identityValue (identity : VerifiedIdentity) : Value :=
  .object [("familyName".toList, optionalValue identity.familyName),
    ("givenName".toList, optionalValue identity.givenName),
    ("dateOfBirth".toList, optionalValue identity.dateOfBirth),
    ("dateOfExpiry".toList, optionalValue identity.dateOfExpiry),
    ("documentNumber".toList, optionalValue identity.documentNumber),
    ("nationality".toList, optionalValue identity.nationality),
    ("sex".toList, optionalValue identity.sex),
    ("portrait".toList, optionalHexValue identity.portrait),
    ("ageAttestations".toList, .array (identity.ageAttestations.map attestationValue)),
    ("source".toList, sourceValue identity.source),
    ("authenticity".toList, authenticityValue identity.authenticity)]

/-- The value of the elementary files. -/
def filesValue : Option PassportFiles → Value
  | some files =>
    .object [("sod".toList, .string (hex files.sod)), ("dg1".toList, .string (hex files.dg1)),
      ("dg2".toList, optionalHexValue files.dg2), ("dg15".toList, optionalHexValue files.dg15)]
  | none => .null

lemma reads_source (identity : VerifiedIdentity) :
    Reads (Ffi.source identity) (sourceValue identity.source) := by
  unfold Ffi.source
  cases identity.source with
  | none => exact Reads.null
  | some source =>
    cases source with
    | passport documentCode issuingState verified signed =>
      exact Reads.members (.cons (readsMember "kind" (by decide) (reads_raw (by decide)))
        (.cons (readsMember "documentCode" (by decide) (reads_quote documentCode))
        (.cons (readsMember "issuingState" (by decide) (reads_quote issuingState))
        (.cons (readsMember "verifiedDataGroups" (by decide) (reads_numbers verified))
        (.cons (readsMember "signedDataGroups" (by decide) (reads_numbers signed)) .nil)))))
    | mobileDrivingLicence docType authority profile =>
      exact Reads.members (.cons (readsMember "kind" (by decide) (reads_raw (by decide)))
        (.cons (readsMember "docType" (by decide) (reads_quote docType))
        (.cons (readsMember "issuingAuthority" (by decide) (reads_optional authority))
        (.cons (readsMember "sessionProfile" (by decide) (reads_optional profile)) .nil))))

lemma reads_attestation (a : UInt8 × Bool) : Reads (Ffi.attestation a) (attestationValue a) :=
  Reads.members (.cons (readsMember "years" (by decide) (Reads.nat a.1.toNat))
    (.cons (readsMember "answer" (by decide) (reads_bool a.2)) .nil))

lemma reads_authenticity (a : Authenticity) :
    Reads (Ffi.authenticity a) (authenticityValue a) :=
  Reads.members (.cons (readsMember "dataAuthentic" (by decide) (reads_bool a.dataAuthentic))
    (.cons (readsMember "issuerTrusted" (by decide) (reads_bool a.issuerTrusted))
    (.cons (readsMember "holderBound" (by decide) (reads_optionalBool a.holderBound))
    (.cons (readsMember "notExpired" (by decide) (reads_bool a.notExpired))
    (.cons (readsMember "warnings" (by decide) (reads_bracketed (fun w : String => reads_quote w.toList)
      a.warnings)) .nil)))))

lemma reads_identityObject (identity : VerifiedIdentity) :
    Reads (Ffi.identityObject identity) (identityValue identity) :=
  Reads.members (.cons (readsMember "familyName" (by decide) (reads_optional identity.familyName))
    (.cons (readsMember "givenName" (by decide) (reads_optional identity.givenName))
    (.cons (readsMember "dateOfBirth" (by decide) (reads_optional identity.dateOfBirth))
    (.cons (readsMember "dateOfExpiry" (by decide) (reads_optional identity.dateOfExpiry))
    (.cons (readsMember "documentNumber" (by decide) (reads_optional identity.documentNumber))
    (.cons (readsMember "nationality" (by decide) (reads_optional identity.nationality))
    (.cons (readsMember "sex" (by decide) (reads_optional identity.sex))
    (.cons (readsMember "portrait" (by decide) (reads_optionalHex identity.portrait))
    (.cons (readsMember "ageAttestations" (by decide) (reads_bracketed reads_attestation identity.ageAttestations))
    (.cons (readsMember "source" (by decide) (reads_source identity))
    (.cons (readsMember "authenticity" (by decide) (reads_authenticity identity.authenticity)) .nil)))))))))))

lemma reads_ofIdentity (identity : VerifiedIdentity) : Reads (Ffi.ofIdentity identity)
    (.object [("identity".toList, identityValue identity)]) :=
  Reads.members (.cons (readsMember "identity" (by decide) (reads_identityObject identity)) .nil)

lemma reads_dataGroups (files : PassportFiles) :
    Reads (Ffi.dataGroups files) (filesValue (some files)) :=
  Reads.members (.cons (readsMember "sod" (by decide) (reads_quote (hex files.sod)))
    (.cons (readsMember "dg1" (by decide) (reads_quote (hex files.dg1)))
    (.cons (readsMember "dg2" (by decide) (reads_optionalHex files.dg2))
    (.cons (readsMember "dg15" (by decide) (reads_optionalHex files.dg15)) .nil))))

lemma reads_ofPassportRead (read : PassportRead) : Reads (Ffi.ofPassportRead read)
    (.object [("identity".toList, identityValue read.identity),
      ("dataGroups".toList, filesValue read.files)]) := by
  refine Reads.members (.cons (readsMember "identity" (by decide) (reads_identityObject read.identity))
    (.cons (readsMember "dataGroups" (by decide) ?_) .nil))
  cases read.files with
  | none => exact Reads.null
  | some files => exact reads_dataGroups files

lemma plain_kind (e : IdentityError) : Json.Plain e.kind.toList := by
  unfold IdentityError.kind
  split <;> decide

lemma reads_error (e : IdentityError) : Reads (Ffi.error e)
    (.object [("error".toList, .object [("kind".toList, .string e.kind.toList),
      ("message".toList, .string e.text)])]) :=
  Reads.members (.cons (readsMember "error" (by decide) (Reads.members
    (.cons (readsMember "kind" (by decide) (reads_raw (plain_kind e)))
      (.cons (readsMember "message" (by decide) (reads_quote e.text)) .nil)))) .nil)

/-! ## What the host reads -/

/-- The value of a member. -/
def getMember (key : String) : Value → Option Value
  | .object members => members.lookup key.toList
  | _ => none

/-- A text. -/
def asText : Value → Option Str
  | .string s => some s
  | _ => none

/-- Pairs of hexadecimal digits. -/
def unhex : Str → Option Bytes
  | [] => some []
  | [_] => none
  | a :: b :: rest => do
    let u ← Json.hexVal a
    let v ← Json.hexVal b
    let bytes ← unhex rest
    return UInt8.ofNat (u * 16 + v) :: bytes

/-- Bytes, in hexadecimal digits. -/
def asBytes (v : Value) : Option Bytes := asText v >>= unhex

/-- An answer. -/
def asBool : Value → Option Bool
  | .bool b => some b
  | _ => none

/-- A number of one byte. -/
def asByte : Value → Option UInt8
  | .number m e => if 0 ≤ m ∧ m < 256 ∧ e = 0 then some (UInt8.ofNat m.toNat) else none
  | _ => none

/-- Something, or `null` for nothing. -/
def asOptional {α : Type} (decode : Value → Option α) : Value → Option (Option α)
  | .null => some none
  | v => (decode v).map some

/-- A list. -/
def asList {α : Type} (decode : Value → Option α) : Value → Option (List α)
  | .array vs => vs.mapM decode
  | _ => none

/-- A field of an object. -/
def field {α : Type} (key : String) (decode : Value → Option α) (v : Value) : Option α :=
  getMember key v >>= decode

/-- A source. -/
def asSource (v : Value) : Option DocumentSource := do
  let kind ← field "kind" asText v
  if kind = "passport".toList then
    let documentCode ← field "documentCode" asText v
    let issuingState ← field "issuingState" asText v
    let verifiedDataGroups ← field "verifiedDataGroups" (asList asByte) v
    let signedDataGroups ← field "signedDataGroups" (asList asByte) v
    return .passport documentCode issuingState verifiedDataGroups signedDataGroups
  else
    let docType ← field "docType" asText v
    let issuingAuthority ← field "issuingAuthority" (asOptional asText) v
    let sessionProfile ← field "sessionProfile" (asOptional asText) v
    return .mobileDrivingLicence docType issuingAuthority sessionProfile

/-- An age attestation. -/
def asAttestation (v : Value) : Option (UInt8 × Bool) := do
  let years ← field "years" asByte v
  let answer ← field "answer" asBool v
  return (years, answer)

/-- The authenticity. -/
def asAuthenticity (v : Value) : Option Authenticity := do
  let dataAuthentic ← field "dataAuthentic" asBool v
  let issuerTrusted ← field "issuerTrusted" asBool v
  let holderBound ← field "holderBound" (asOptional asBool) v
  let notExpired ← field "notExpired" asBool v
  let warnings ← field "warnings" (asList asText) v
  return ⟨dataAuthentic, issuerTrusted, holderBound, notExpired, warnings.map String.ofList⟩

/-- An identity. -/
def asIdentity (v : Value) : Option VerifiedIdentity := do
  let familyName ← field "familyName" (asOptional asText) v
  let givenName ← field "givenName" (asOptional asText) v
  let dateOfBirth ← field "dateOfBirth" (asOptional asText) v
  let dateOfExpiry ← field "dateOfExpiry" (asOptional asText) v
  let documentNumber ← field "documentNumber" (asOptional asText) v
  let nationality ← field "nationality" (asOptional asText) v
  let sex ← field "sex" (asOptional asText) v
  let portrait ← field "portrait" (asOptional asBytes) v
  let ageAttestations ← field "ageAttestations" (asList asAttestation) v
  let source ← field "source" (asOptional asSource) v
  let authenticity ← field "authenticity" asAuthenticity v
  return { familyName, givenName, dateOfBirth, dateOfExpiry, documentNumber, nationality, sex,
           portrait, ageAttestations, source, authenticity }

/-- The elementary files. -/
def asFiles (v : Value) : Option PassportFiles := do
  let sod ← field "sod" asBytes v
  let dg1 ← field "dg1" asBytes v
  let dg2 ← field "dg2" (asOptional asBytes) v
  let dg15 ← field "dg15" (asOptional asBytes) v
  return ⟨sod, dg1, dg2, dg15⟩

/-- The result that carries an identity. -/
def asVerifiedIdentity : Value → Option VerifiedIdentity := field "identity" asIdentity

/-- The result of reading a passport. -/
def asPassportRead (v : Value) : Option PassportRead := do
  let identity ← field "identity" asIdentity v
  let files ← field "dataGroups" (asOptional asFiles) v
  return ⟨identity, files⟩

/-- What a message says behind its fixed part. -/
def messageBehind (fixed : String) (message : Str) : String :=
  String.ofList (message.drop fixed.toList.length)

/-- An error of a kind, with its message. -/
def errorOf (kind : String) (message : Str) : Option IdentityError :=
  if kind = "nfc" then
    some (.nfc (messageBehind "could not talk to the chip: " message))
  else if kind = "access" then some .access
  else if kind = "unreadable" then
    some (.unreadable (messageBehind "the document is not readable: " message))
  else if kind = "notAuthentic" then
    some (.notAuthentic (messageBehind "the document is not authentic: " message))
  else if kind = "sessionKeyRequired" then some .sessionKeyRequired
  else if kind = "anchor" then
    some (.anchor (messageBehind "a trust anchor could not be parsed: " message))
  else if kind = "unsupportedAlgorithm" then
    some (.unsupportedAlgorithm (messageBehind "unsupported signature algorithm: " message))
  else none

/-- An error. -/
def asError (v : Value) : Option IdentityError := do
  let e ← getMember "error" v
  let kind ← field "kind" asText e
  let message ← field "message" asText e
  errorOf (String.ofList kind) message

/-- A result: the error, if there is one. -/
def asResult {α : Type} (decode : Value → Option α) (v : Value) :
    Option (Except IdentityError α) :=
  match getMember "error" v with
  | some _ => (asError v).map .error
  | none => (decode v).map .ok

/-- What the host makes of the bytes it gets. -/
def received (bytes : Bytes) : Option Value := Utf8.decode bytes >>= Json.parse

/-! ### Each value is read back -/

lemma unhex_hex (bytes : Bytes) : unhex (hex bytes) = some bytes := by
  induction bytes with
  | nil => rfl
  | cons b bytes ih =>
    have hb : b.toNat < 256 := b.toNat_lt
    have hvalue : b.toNat / 16 % 16 * 16 + b.toNat % 16 = b.toNat := by omega
    show unhex ((b.toNat / 16 % 16).digitChar :: (b.toNat % 16).digitChar :: hex bytes) = _
    rw [unhex, hexVal_digitChar (Nat.mod_lt _ (by decide)), hexVal_digitChar (Nat.mod_lt _ (by decide)),
      ih]
    show some (UInt8.ofNat (b.toNat / 16 % 16 * 16 + b.toNat % 16) :: bytes) = _
    rw [hvalue, UInt8.ofNat_toNat]

@[simp] lemma asText_string (s : Str) : asText (.string s) = some s := rfl

@[simp] lemma asBytes_hex (bytes : Bytes) : asBytes (.string (hex bytes)) = some bytes :=
  unhex_hex bytes

@[simp] lemma asBool_bool (b : Bool) : asBool (.bool b) = some b := rfl

@[simp] lemma asByte_byteValue (n : UInt8) : asByte (byteValue n) = some n := by
  have hn : n.toNat < 256 := n.toNat_lt
  unfold byteValue asByte
  dsimp only
  rw [if_pos (by omega), Int.toNat_natCast, UInt8.ofNat_toNat]

@[simp] lemma asOptional_optionalValue (s : Option Str) :
    asOptional asText (optionalValue s) = some s := by
  cases s <;> rfl

@[simp] lemma asOptional_optionalHexValue (bytes : Option Bytes) :
    asOptional asBytes (optionalHexValue bytes) = some bytes := by
  cases bytes with
  | none => rfl
  | some bytes => exact congrArg (Option.map some) (asBytes_hex bytes)

@[simp] lemma asOptional_optionalBoolValue (b : Option Bool) :
    asOptional asBool (optionalBoolValue b) = some b := by
  cases b <;> rfl

lemma asList_map {α β : Type} {decode : Value → Option α} {g : β → Value} {k : β → α}
    (h : ∀ b, decode (g b) = some (k b)) (l : List β) :
    asList decode (.array (l.map g)) = some (l.map k) := by
  show (l.map g).mapM decode = some (l.map k)
  induction l with
  | nil => rfl
  | cons b l ih => simp [h, ih]

@[simp] lemma asList_bytes (l : List UInt8) :
    asList asByte (.array (l.map byteValue)) = some l := by
  rw [asList_map asByte_byteValue, List.map_id']

/-- A member is found under its key. -/
lemma getMember_cons (key k : String) (w : Value) (ms : List (Str × Value)) :
    getMember key (.object ((k.toList, w) :: ms)) =
      if key = k then some w else getMember key (.object ms) := by
  unfold getMember
  dsimp only
  rw [List.lookup_cons]
  by_cases hk : key = k
  · rw [if_pos hk, hk, beq_self_eq_true]
  · have hne : key.toList ≠ k.toList := fun heq => hk (String.toList_inj.mp heq)
    rw [if_neg hk, beq_eq_false_iff_ne.mpr hne]

/-- A field is read back from its member. -/
lemma field_eq {α : Type} {key : String} {decode : Value → Option α} {v w : Value} {a : α}
    (hmember : getMember key v = some w) (h : decode w = some a) : field key decode v = some a := by
  rw [field, hmember]
  exact h

lemma asAttestation_attestationValue (a : UInt8 × Bool) :
    asAttestation (attestationValue a) = some a := by
  have hyears : field "years" asByte (attestationValue a) = some a.1 :=
    field_eq (by simp only [attestationValue, getMember_cons, reduceIte]) (asByte_byteValue a.1)
  have hanswer : field "answer" asBool (attestationValue a) = some a.2 :=
    field_eq (by simp only [attestationValue, getMember_cons, reduceIte, String.reduceEq])
      (asBool_bool a.2)
  rw [asAttestation, hyears, hanswer]
  rfl

lemma asSource_passport (documentCode issuingState : Str) (verified signed : List UInt8) :
    asSource (sourceValue (some (.passport documentCode issuingState verified signed))) =
      some (.passport documentCode issuingState verified signed) := by
  simp only [asSource, field, sourceValue, getMember_cons, reduceIte, String.reduceEq,
    Option.bind_eq_bind, Option.bind_some, asText_string, asList_bytes]
  rfl

lemma asSource_mobileDrivingLicence (docType : Str) (authority profile : Option Str) :
    asSource (sourceValue (some (.mobileDrivingLicence docType authority profile))) =
      some (.mobileDrivingLicence docType authority profile) := by
  have hkind : ("mdl".toList = "passport".toList) = False := by
    rw [eq_iff_iff, iff_false]
    decide
  simp only [asSource, field, sourceValue, getMember_cons, reduceIte, String.reduceEq, hkind,
    Option.bind_eq_bind, Option.bind_some, asText_string, asOptional_optionalValue]
  rfl

@[simp] lemma asSource_sourceValue (source : Option DocumentSource) :
    asOptional asSource (sourceValue source) = some source := by
  match source with
  | none => rfl
  | some (.passport documentCode issuingState verified signed) =>
    exact congrArg (Option.map some) (asSource_passport documentCode issuingState verified signed)
  | some (.mobileDrivingLicence docType authority profile) =>
    exact congrArg (Option.map some) (asSource_mobileDrivingLicence docType authority profile)

@[simp] lemma asList_attestations (l : List (UInt8 × Bool)) :
    asList asAttestation (.array (l.map attestationValue)) = some l := by
  rw [asList_map asAttestation_attestationValue, List.map_id']

@[simp] lemma asAuthenticity_authenticityValue (a : Authenticity) :
    asAuthenticity (authenticityValue a) = some a := by
  have hwarnings : asList asText (.array (a.warnings.map fun w => .string w.toList)) =
      some (a.warnings.map String.toList) := asList_map (fun w : String => asText_string w.toList) _
  have htexts : (a.warnings.map String.toList).map String.ofList = a.warnings := by
    rw [List.map_map]
    exact List.map_id'' (fun w => String.ofList_toList) _
  simp only [asAuthenticity, field, authenticityValue, getMember_cons, reduceIte, String.reduceEq,
    Option.bind_eq_bind, Option.bind_some, asBool_bool, asOptional_optionalBoolValue, hwarnings,
    htexts]
  rfl

@[simp] lemma asIdentity_identityValue (identity : VerifiedIdentity) :
    asIdentity (identityValue identity) = some identity := by
  simp only [asIdentity, field, identityValue, getMember_cons, reduceIte, String.reduceEq,
    Option.bind_eq_bind, Option.bind_some, asOptional_optionalValue, asOptional_optionalHexValue,
    asList_attestations, asSource_sourceValue, asAuthenticity_authenticityValue]
  rfl

@[simp] lemma asFiles_filesValue (files : Option PassportFiles) :
    asOptional asFiles (filesValue files) = some files := by
  cases files with
  | none => rfl
  | some files =>
    have hfiles : asFiles (filesValue (some files)) = some files := by
      simp only [asFiles, field, filesValue, getMember_cons, reduceIte, String.reduceEq,
        Option.bind_eq_bind, Option.bind_some, asBytes_hex, asOptional_optionalHexValue]
      rfl
    exact congrArg (Option.map some) hfiles

/-! ## Results -/

/-- What an identity is rendered as stands for the identity. -/
lemma asVerifiedIdentity_value (identity : VerifiedIdentity) :
    asVerifiedIdentity (.object [("identity".toList, identityValue identity)]) = some identity := by
  simp only [asVerifiedIdentity, field, getMember_cons, reduceIte, Option.bind_eq_bind,
    Option.bind_some, asIdentity_identityValue]

lemma asPassportRead_value (read : PassportRead) :
    asPassportRead (.object [("identity".toList, identityValue read.identity),
      ("dataGroups".toList, filesValue read.files)]) = some read := by
  simp only [asPassportRead, field, getMember_cons, reduceIte, String.reduceEq,
    Option.bind_eq_bind, Option.bind_some, asIdentity_identityValue, asFiles_filesValue]
  rfl

lemma messageBehind_append (fixed message : String) :
    messageBehind fixed (fixed.toList ++ message.toList) = message := by
  rw [messageBehind, List.drop_left, String.ofList_toList]

lemma errorOf_kind_text (e : IdentityError) : errorOf e.kind e.text = some e := by
  cases e with
  | nfc message =>
    simp only [errorOf, IdentityError.kind, reduceIte]
    exact congrArg (some ∘ IdentityError.nfc) (messageBehind_append _ message)
  | access => simp only [errorOf, IdentityError.kind, reduceIte, String.reduceEq]
  | unreadable message =>
    simp only [errorOf, IdentityError.kind, reduceIte, String.reduceEq]
    exact congrArg (some ∘ IdentityError.unreadable) (messageBehind_append _ message)
  | notAuthentic message =>
    simp only [errorOf, IdentityError.kind, reduceIte, String.reduceEq]
    exact congrArg (some ∘ IdentityError.notAuthentic) (messageBehind_append _ message)
  | sessionKeyRequired => simp only [errorOf, IdentityError.kind, reduceIte, String.reduceEq]
  | anchor message =>
    simp only [errorOf, IdentityError.kind, reduceIte, String.reduceEq]
    exact congrArg (some ∘ IdentityError.anchor) (messageBehind_append _ message)
  | unsupportedAlgorithm message =>
    simp only [errorOf, IdentityError.kind, reduceIte, String.reduceEq]
    exact congrArg (some ∘ IdentityError.unsupportedAlgorithm) (messageBehind_append _ message)

lemma asError_value (e : IdentityError) :
    asError (.object [("error".toList, .object [("kind".toList, .string e.kind.toList),
      ("message".toList, .string e.text)])]) = some e := by
  simp only [asError, field, getMember_cons, reduceIte, String.reduceEq, Option.bind_eq_bind,
    Option.bind_some, asText_string, String.ofList_toList, errorOf_kind_text]

/-! ## The contract -/

/-- A text is one document without a NUL character, and what a parser makes of it is decoded to
`x`. -/
structure Recovers {α : Type} (text : Str) (decode : Value → Option α) (x : α) : Prop where
  document : ∃ v, Document text v ∧ (∀ v', Document text v' → v' = v) ∧
    Json.parse text = some v ∧ decode v = some x
  noNul : '\x00' ∉ text

lemma Recovers.of_reads {α : Type} {text : Str} {v : Value} {decode : Value → Option α} {x : α}
    (h : Reads text v) (hdecode : decode v = some x) : Recovers text decode x := by
  have hdocument := h.document
  exact ⟨⟨v, hdocument, fun v' hv' => hv'.unique hdocument, Json.parse_of_document hdocument,
    hdecode⟩, hdocument.notMem_nul⟩

/-- Texts from which different things are recovered are different. -/
lemma Recovers.inj {α : Type} {text : Str} {decode : Value → Option α} {x y : α}
    (hx : Recovers text decode x) (hy : Recovers text decode y) : x = y := by
  obtain ⟨v, -, -, hparse, hdecode⟩ := hx.document
  obtain ⟨w, -, -, hparse', hdecode'⟩ := hy.document
  obtain rfl := Option.some.inj (hparse.symm.trans hparse')
  exact Option.some.inj (hdecode.symm.trans hdecode')

/-- What `json` renders. -/
def rendered {α : Type} (render : α → Str) : Except IdentityError α → Str
  | .ok value => render value
  | .error e => Ffi.error e

/-- `json` loses nothing of a result. -/
structure Lossless {α : Type} (render : α → Str) (decode : Value → Option α) : Prop where
  recovers : ∀ x, Recovers (render x) decode x
  injective : Function.Injective render
  delivered : ∀ result, json render result = Utf8.encode (rendered render result)
  received : ∀ result, received (json render result) >>= asResult decode = some result
  results_injective : Function.Injective (json render)

lemma asResult_error {α : Type} (decode : Value → Option α) (e : IdentityError) (v : Value)
    (h : v = .object [("error".toList, .object [("kind".toList, .string e.kind.toList),
      ("message".toList, .string e.text)])]) :
    asResult decode v = some (.error e) := by
  have herror : getMember "error" v = some (.object [("kind".toList, .string e.kind.toList),
      ("message".toList, .string e.text)]) := by
    rw [h, getMember_cons, if_pos rfl]
  rw [asResult, herror, h, asError_value]
  rfl

/-- A result is recovered, whether it is a value or an error. -/
lemma recovers_rendered {α : Type} {render : α → Str} {decode : Value → Option α}
    {value : α → Value} (hreads : ∀ x, Reads (render x) (value x))
    (hnot : ∀ x, getMember "error" (value x) = none) (hdecode : ∀ x, decode (value x) = some x)
    (result : Except IdentityError α) :
    Recovers (rendered render result) (asResult decode) result := by
  cases result with
  | ok x =>
    refine Recovers.of_reads (hreads x) ?_
    rw [asResult, hnot, hdecode]
    rfl
  | error e => exact Recovers.of_reads (reads_error e) (asResult_error decode e _ rfl)

/-- A text without a NUL character is delivered as it is. -/
lemma cString_of_notMem {text : Str} (h : '\x00' ∉ text) : cString text = some (Utf8.encode text) := by
  unfold cString
  dsimp only
  rw [if_neg]
  exact fun hmem => h (Utf8.mem_of_mem_encode (by decide) hmem)

lemma json_eq {α : Type} {render : α → Str} {result : Except IdentityError α}
    (h : '\x00' ∉ rendered render result) :
    json render result = Utf8.encode (rendered render result) := by
  have hcString := cString_of_notMem h
  cases result with
  | ok x =>
    show (cString (render x)).getD _ = _
    rw [show cString (render x) = _ from hcString]
    rfl
  | error e =>
    show (cString (Ffi.error e)).getD _ = _
    rw [show cString (Ffi.error e) = _ from hcString]
    rfl

lemma lossless {α : Type} {render : α → Str} {decode : Value → Option α}
    {value : α → Value} (hreads : ∀ x, Reads (render x) (value x))
    (hnot : ∀ x, getMember "error" (value x) = none) (hdecode : ∀ x, decode (value x) = some x) :
    Lossless render decode := by
  have hrecovers : ∀ x, Recovers (render x) decode x := fun x =>
    Recovers.of_reads (hreads x) (hdecode x)
  have hresults := recovers_rendered hreads hnot hdecode
  have hdelivered : ∀ result, json render result = Utf8.encode (rendered render result) :=
    fun result => json_eq (hresults result).noNul
  refine ⟨hrecovers, ?_, hdelivered, ?_, ?_⟩
  · intro x y hxy
    have hx := hrecovers x
    rw [hxy] at hx
    exact hx.inj (hrecovers y)
  · intro result
    obtain ⟨v, -, -, hparse, hv⟩ := (hresults result).document
    rw [hdelivered, received, Utf8.decode_encode]
    show (Json.parse (rendered render result)).bind (asResult decode) = some result
    rw [hparse]
    exact hv
  · intro result result' heq
    rw [hdelivered, hdelivered] at heq
    have hresult := hresults result
    rw [Utf8.encode_inj heq] at hresult
    exact hresult.inj (hresults result')

/-- What the JSON of the FFI promises. -/
structure FfiJson : Prop where
  identity : Lossless Ffi.ofIdentity asVerifiedIdentity
  passport : Lossless Ffi.ofPassportRead asPassportRead
  error : ∀ e, Recovers (Ffi.error e) asError e
  error_injective : Function.Injective Ffi.error

/-- **The FFI JSON loses nothing.** -/
theorem ffiJson : FfiJson where
  identity := lossless reads_ofIdentity
    (fun _ => by simp only [getMember_cons, reduceIte, String.reduceEq]; rfl)
    asVerifiedIdentity_value
  passport := lossless reads_ofPassportRead
    (fun _ => by simp only [getMember_cons, reduceIte, String.reduceEq]; rfl)
    asPassportRead_value
  error := fun e => Recovers.of_reads (reads_error e) (asError_value e)
  error_injective := by
    intro e e' heq
    have he := Recovers.of_reads (reads_error e) (asError_value e)
    rw [heq] at he
    exact he.inj (Recovers.of_reads (reads_error e') (asError_value e'))

end IdentityMobile
