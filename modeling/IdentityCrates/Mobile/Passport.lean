import IdentityCrates.Dmrtd.Auth.Active
import IdentityCrates.Dmrtd.Auth.Passive
import IdentityCrates.Dmrtd.Lds.EfDg2
import IdentityCrates.Dmrtd.Passport
import IdentityCrates.Mobile.Identity

/-!
# Passports

`passport.rs`: `read_passport` drives a live chip over the platform's NFC, and `verify_passport`
verifies files that were already read.  Both end in `verify_files`.

The platform's NFC is any type with an `ApduChannel` instance.  Between it and the chip driver sits
`Channel`, which remembers whether the transport itself ever failed; the flag, a cell that the read
shares with its channel, is part of the channel's state here.  The operating system's generator,
which the read asks for the challenge of Active Authentication, belongs to the platform as well.

What else the functions depend on and do not compute (the cryptography, the readers of the ASN.1
crate, the clocks, the random bytes of the handshakes) is an `Environment`.
-/

namespace IdentityMobile

open Rust Octets Text
open Dmrtd

/-! ## The platform -/

/-- `ApduChannel`: send one APDU, return the chip's complete response or a transport failure. -/
class ApduChannel (σ : Type) where
  transceive : Bytes → σ → Except String Bytes × σ

/-- The operating system's generator: `getrandom::fill` of eight bytes. -/
class RandomSource (σ : Type) where
  fill : σ → Except String (FixedBytes 8) × σ

/-- `Channel`. -/
structure Channel (σ : Type) where
  inner : σ
  transportFailed : Bool

variable {σ : Type}

/-- `Channel::transceive`. -/
def Channel.transceive [ApduChannel σ] (apdu : Bytes) :
    Proc (Channel σ) TransceiveError Bytes := fun self =>
  match ApduChannel.transceive apdu self.inner with
  | (.ok bytes, inner) => (.ok bytes, { self with inner })
  | (.error e, inner) => (.err ⟨e⟩, ⟨inner, true⟩)

instance [ApduChannel σ] : Transceiver (Channel σ) := ⟨Channel.transceive⟩

/-! ## Keys, options and files -/

/-- `MrzKey`. -/
structure MrzKey where
  documentNumber : Str
  dateOfBirth : NaiveDate
  dateOfExpiry : NaiveDate

/-- `Session`. -/
inductive Session where
  | auto
  | pace
  | bac
  deriving DecidableEq, Repr

/-- `PassportOptions`. -/
structure PassportOptions where
  session : Session
  readPortrait : Bool
  activeAuthentication : Bool
  retainFiles : Bool
  deriving DecidableEq, Repr

/-- `PassportOptions::default`. -/
def PassportOptions.default : PassportOptions := ⟨.auto, true, true, false⟩

/-- `PassportFiles`. -/
structure PassportFiles where
  sod : Bytes
  dg1 : Bytes
  dg2 : Option Bytes
  dg15 : Option Bytes
  deriving DecidableEq, Repr

/-- `PassportRead`. -/
structure PassportRead where
  identity : VerifiedIdentity
  files : Option PassportFiles
  deriving DecidableEq, Repr

/-- What the read depends on and does not compute. -/
structure Environment where
  primitives : Primitives
  suite : SignatureSuite
  asn1 : Asn1
  /-- The random bytes that the PACE session draws on. -/
  paceEntropy : Entropy
  /-- The nonce and the key half that the BAC session draws. -/
  rndIfd : FixedBytes 8
  kifd : FixedBytes 16
  /-- The day, by the local clock, on which EF.DG1 is read. -/
  readingDay : NaiveDate
  /-- The day, by the local clock, on which it is mapped to an identity. -/
  mappingDay : NaiveDate
  /-- The day, by universal time, on which the expiry is judged. -/
  utcDay : NaiveDate

/-! ## Verification -/

/-- `holder_binding`: a success only counts if EF.SOD covered EF.DG15. -/
def holderBinding (activeAuthentication : Option Bool) (dg15Authenticated : Bool) : Option Bool :=
  match activeAuthentication with
  | some true => if dg15Authenticated then some true else none
  | other => other

/-- `identity_from_files`: the identity, the document code and the issuing state. -/
def identityFromFiles (mappingDay : NaiveDate) (files : PassportFiles) :
    Outcome IdentityError (VerifiedIdentity × Str × Str) := do
  let dg1 ← (EfDG1.fromBytes mappingDay files.dg1).mapErr fun e =>
    IdentityError.unreadable s!"EF.DG1 (the MRZ): {e.text}"
  let mrz := dg1.mrz
  let portrait ← match files.dg2 with
    | none => .ok none
    | some bytes =>
      match EfDG2.fromBytes bytes with
      | .ok dg2 => .ok dg2.imageData
      | .err _ => .ok none
      | .panic => .panic
  return ({
    familyName := nonEmpty mrz.lastName
    givenName := nonEmpty mrz.firstName
    dateOfBirth := some (formatIso mrz.dateOfBirth)
    dateOfExpiry := some (formatIso mrz.dateOfExpiry)
    documentNumber := nonEmpty mrz.docNum
    nationality := nonEmpty mrz.nationality
    sex := nonEmpty mrz.gender
    portrait
    ageAttestations := []
    source := none
    authenticity := Authenticity.default }, mrz.documentCode, mrz.country)

/-- The `Debug` text of a list of numbers. -/
def debugNumbers (numbers : List UInt8) : String :=
  "[" ++ String.intercalate ", " (numbers.map toString) ++ "]"

/-- The warning about data groups that EF.SOD commits to and that were not read. -/
def unreadWarning (passive : Passive.PassiveAuth) : List String :=
  let unread := passive.sodGroups.filter fun dg => !passive.verifiedGroups.contains dg
  if !passive.coversAllGroups && !unread.isEmpty then
    [s!"the chip signs data groups {debugNumbers unread} that were not read, so nothing " ++
      "they contain is authenticated"]
  else []

/-- `authenticity`. -/
def authenticity (utcDay : NaiveDate) (passive : Passive.PassiveAuth) (files : PassportFiles)
    (identity : VerifiedIdentity) (holderBound : Option Bool) : Authenticity :=
  let notExpired := ((identity.dateOfExpiry.bind parseIso).map (isOnOrAfter · utcDay)).getD false
  { dataAuthentic := true
    issuerTrusted := passive.chain.isTrusted
    holderBound
    notExpired
    warnings :=
      unreadWarning passive ++
      (if files.dg2.isSome && identity.portrait.isNone then
        ["EF.DG2 was read but no image could be decoded from it"] else []) ++
      (if holderBound = some false then
        ["active authentication failed: the chip did not prove possession of the " ++
          "private key for the DG15 public key the issuer signed"] else []) ++
      (if files.dg15.isSome && !passive.verifiedGroups.contains 15 then
        ["EF.DG15 was read but EF.SOD does not cover it, so the active " ++
          "authentication key is not the one the issuer signed"] else []) ++
      (if notExpired then [] else ["the document is past its date of expiry"]) }

/-- The data groups that were read, as passive authentication takes them. -/
def PassportFiles.groups (files : PassportFiles) : List Passive.DataGroup :=
  ⟨1, files.dg1⟩ :: ((files.dg2.map fun bytes => Passive.DataGroup.mk 2 bytes).toList ++
    (files.dg15.map fun bytes => Passive.DataGroup.mk 15 bytes).toList)

variable (E : Environment)

/-- The trust anchors in `anchors`. -/
def trustAnchors (anchors : List Bytes) :
    Outcome IdentityError (List (Passive.TrustAnchor E.suite)) :=
  anchors.mapM fun der => (Passive.TrustAnchor.fromCertificate E.suite der).mapErr fun e =>
    IdentityError.anchor s!"CSCA certificate: {e.text}"

/-- `verify_files`. -/
def verifyFiles (files : PassportFiles) (anchors : List Bytes)
    (activeAuthentication : Option Bool) : Outcome IdentityError VerifiedIdentity := do
  let anchors ← trustAnchors E anchors
  let passive ← (Passive.verify E.suite files.sod files.groups anchors).mapErr fun e =>
    IdentityError.notAuthentic e.text
  let holderBound := holderBinding activeAuthentication (passive.verifiedGroups.contains 15)
  let (identity, documentCode, issuingState) ← identityFromFiles E.mappingDay files
  return {
    identity with
    authenticity := authenticity E.utcDay passive files identity holderBound
    source := some (.passport documentCode issuingState passive.verifiedGroups
      passive.sodGroups) }

/-- `verify_passport`: no challenge is performed, so no holder binding is established. -/
def verifyPassport (files : PassportFiles) (anchors : List Bytes) :
    Outcome IdentityError VerifiedIdentity :=
  verifyFiles E files anchors none

/-! ## Reading -/

/-- A step of a read: a method on the chip driver over the platform's channel. -/
abbrev Reading (σ α : Type) := Proc (Passport (Channel σ)) IdentityError α

namespace Reading

variable {α : Type}

/-- `transport_failed.get()`. -/
def transportFailed : Reading σ Bool := fun passport =>
  (.ok passport.api.transceiver.transportFailed, passport)

/-- `transport_failed.set(false)`. -/
def clearFailure : Reading σ Unit :=
  Proc.modify fun passport => { passport with api := { passport.api with
    transceiver := { passport.api.transceiver with transportFailed := false } } }

/-- Fail with `lost` if the transport failed, and with `refused` if the chip merely refused. -/
def failAs (lost refused : IdentityError) : Reading σ α := do
  if ← transportFailed then Proc.fail lost else Proc.fail refused

/-- The texts of a `PassportError`. -/
def errorText (e : PassportError) : String := s!"PassportError: {e.message}"

/-- A read that the result cannot do without. -/
def mandatory (read : Proc (Passport (Channel σ)) PassportError α)
    (lost refused : PassportError → IdentityError) : Reading σ α := do
  match ← read.attempt with
  | .ok a => return a
  | .error e => failAs (lost e) (refused e)

/-- A read that the result can do without, unless it was the transport that failed. -/
def optional (read : Proc (Passport (Channel σ)) PassportError α) (lost : IdentityError) :
    Reading σ (Option α) := do
  match ← read.attempt with
  | .ok a => return some a
  | .error _ => do
    if ← transportFailed then Proc.fail lost else return none

lemma mandatory_apply {read : Proc (Passport (Channel σ)) PassportError α}
    {asLost asRefused : PassportError → IdentityError} (p : Passport (Channel σ)) :
    mandatory read asLost asRefused p =
      match read p with
      | (.ok a, p') => (.ok a, p')
      | (.err e, p') =>
        (.err (if p'.api.transceiver.transportFailed then asLost e else asRefused e), p')
      | (.panic, p') => (.panic, p') := by
  rw [mandatory, Proc.bind_apply, Proc.attempt]
  rcases read p with ⟨a | e | _, p'⟩
  · rfl
  · show failAs (asLost e) (asRefused e) p' = _
    unfold failAs
    rw [Proc.bind_apply]
    dsimp only [transportFailed]
    split <;> rfl
  · rfl

lemma optional_apply {read : Proc (Passport (Channel σ)) PassportError α}
    {asLost : IdentityError} (p : Passport (Channel σ)) :
    optional read asLost p =
      match read p with
      | (.ok a, p') => (.ok (some a), p')
      | (.err _, p') =>
        (if p'.api.transceiver.transportFailed then .err asLost else .ok none, p')
      | (.panic, p') => (.panic, p') := by
  rw [optional, Proc.bind_apply, Proc.attempt]
  rcases read p with ⟨a | e | _, p'⟩
  · rfl
  · dsimp only
    rw [Proc.bind_apply]
    dsimp only [transportFailed]
    split <;> rfl
  · rfl

end Reading

open Reading

/-! ### Session establishment -/

/-- The `Debug` text of a character, of which those outside ASCII are taken to be printable. -/
def debugChar (c : Char) : String :=
  let body :=
    if c = '\x00' then "\\0"
    else if c = '\t' then "\\t"
    else if c = '\r' then "\\r"
    else if c = '\n' then "\\n"
    else if c = '\'' then "\\'"
    else if c = '\\' then "\\\\"
    else if c.toNat < 0x20 ∨ c.toNat = 0x7f then
      "\\u\x7b" ++ String.ofList (Nat.toDigits 16 c.toNat) ++ "\x7d"
    else String.ofList [c]
  "'" ++ body ++ "'"

/-- The `Display` text of a `DbaKeyError`. -/
def dbaKeyErrorText : DbaKeyError → String
  | .invalidMrzCharacter c => s!"invalid MRZ character {debugChar c} in document number; " ++
    "only 0-9, A-Z and '<' are allowed"

/-- The closure `dba`. -/
def dba (key : MrzKey) (pace : Bool) : Outcome IdentityError DBAKey :=
  (DBAKey.new key.documentNumber key.dateOfBirth key.dateOfExpiry pace).mapErr fun e =>
    .unreadable s!"the access key is not usable: {dbaKeyErrorText e}"

variable [ApduChannel σ]

/-- Establish a session; the closure `session_failed` says which problem a failure is. -/
def establish (session : Proc (Passport (Channel σ)) PassportError Unit) : Reading σ Unit :=
  mandatory session (fun _ => .nfc "the chip stopped responding during setup") fun _ => .access

/-- `start_session` with the random bytes of the environment. -/
def startBac (keys : DBAKey) : Proc (Passport (Channel σ)) PassportError Unit :=
  Passport.startSession E.primitives keys (E.rndIfd.val ++ E.kifd.val)

/-- `start_session_pace` with the random bytes of the environment. -/
def startPace (keys : DBAKey) (access : EfCardAccess) :
    Proc (Passport (Channel σ)) PassportError Unit :=
  Passport.startSessionPace E.primitives keys access E.paceEntropy

/-- The probe for EF.CardAccess, which is readable before any session. -/
def probe : Reading σ (Option EfCardAccess) := do
  let cardAccess ← optional (Passport.readEfCardAccess (EfCardAccess.fromBytes E.asn1))
    (.nfc "the chip stopped responding while probing for EF.CardAccess")
  clearFailure
  return cardAccess

/-- The BAC branches of `read_passport`. -/
def openBac (key : MrzKey) : Reading σ Unit := do
  let keys ← Proc.lift (dba key false)
  establish (startBac E keys)

/-- The match of `read_passport` on the session option and the outcome of the probe. -/
def openSession (key : MrzKey) (session : Session) (cardAccess : Option EfCardAccess) :
    Reading σ Unit :=
  match session, cardAccess with
  | .pace, none => Proc.fail (.unreadable "PACE was required but the chip has no EF.CardAccess")
  | .pace, some access => do
    let keys ← Proc.lift (dba key true)
    establish (startPace E keys access)
  | .bac, _ => openBac E key
  | .auto, some access => do
    let keys ← Proc.lift (dba key true)
    match ← (startPace E keys access).attempt with
    | .ok _ => return ()
    -- a failure usually means that the chip does not really do PACE, so BAC gets a turn
    | .error _ => openBac E key
  | .auto, none => openBac E key

/-! ### The files -/

/-- The read of EF.DG1. -/
def readDg1 : Reading σ EfDG1 := do
  clearFailure
  mandatory (Passport.readDf1 (.dg 0) (EfDG1.fromBytes E.readingDay))
    (fun e => .nfc s!"the chip stopped responding while reading the MRZ: {errorText e}")
    fun e => .unreadable s!"EF.DG1 (the MRZ) could not be read: {errorText e}"

/-- The read of a file that the options ask for, or do not. -/
def readAsked {α : Type} (asked : Bool) (file : Df1File) (parse : Bytes → Outcome EfParseError α)
    (lost : IdentityError) : Reading σ (Option α) :=
  if asked then do
    clearFailure
    optional (Passport.readDf1 file parse) lost
  else return none

/-- The read of EF.DG2. -/
def readDg2 (options : PassportOptions) : Reading σ (Option EfDG2) :=
  readAsked options.readPortrait (.dg 1) EfDG2.fromBytes
    (.nfc "the chip stopped responding while reading the photograph")

/-- The read of EF.DG15.  The file is kept parsed, so that the key checked and the bytes hashed come
from one object. -/
def readDg15 (options : PassportOptions) : Reading σ (Option EfDG15) :=
  readAsked options.activeAuthentication (.dg 14) EfDG15.fromBytes
    (.nfc "the chip stopped responding while reading DG15")

/-- The read of EF.SOD. -/
def readSod : Reading σ EfSOD := do
  clearFailure
  mandatory (Passport.readDf1 .sod EfSOD.fromBytes)
    (fun e => .nfc s!"the chip stopped responding while reading EF.SOD: {errorText e}")
    fun e => .unreadable s!"EF.SOD could not be read: {errorText e}"

/-! ### Active Authentication -/

/-- The draw of a challenge that the chip cannot have seen before. -/
def drawChallenge [RandomSource σ] : Reading σ (FixedBytes 8) := fun passport =>
  let drawn := RandomSource.fill passport.api.transceiver.inner
  (match drawn.1 with
    | .ok challenge => .ok challenge
    | .error e => .err (.unreadable
      s!"no source of randomness for the active authentication challenge: {e}"),
    { passport with api := { passport.api with
      transceiver := { passport.api.transceiver with inner := drawn.2 } } })

/-- The challenge and its answer.  A chip that answered and refused has failed. -/
def activeAuthentication [RandomSource σ] (options : PassportOptions)
    (dg15File : Option EfDG15) : Reading σ (Option Bool) :=
  match options.activeAuthentication, dg15File with
  | true, some dg15File => do
    clearFailure
    let challenge ← drawChallenge
    let response ← optional (Passport.activeAuthenticate challenge.val)
      (.nfc "the chip stopped responding during active authentication")
    match response with
    | some response =>
      return some (Active.verify E.suite dg15File.pubKey challenge.val response).isOk
    | none => return some false
  | true, none => return none
  | false, _ => return none

/-! ### The whole read -/

/-- The reading half of `read_passport`, once a session is up: the files, and the result of Active
Authentication. -/
def readFiles [RandomSource σ] (options : PassportOptions) :
    Reading σ (PassportFiles × Option Bool) := do
  let dg1 ← readDg1 E
  let dg2 ← readDg2 options
  let dg15File ← readDg15 options
  let sod ← readSod
  let activeAuthentication ← activeAuthentication E options dg15File
  return ({ sod := sod.encoded, dg1 := dg1.encoded, dg2 := dg2.map EfDG2.encoded,
            dg15 := dg15File.map EfDG15.encoded }, activeAuthentication)

/-- `read_passport`, on a chip driver that has just been made. -/
def readPassport [RandomSource σ] (key : MrzKey) (anchors : List Bytes)
    (options : PassportOptions) : Reading σ PassportRead := do
  let cardAccess ← probe E
  openSession E key options.session cardAccess
  let (files, activeAuthentication) ← readFiles E options
  let identity ← Proc.lift (verifyFiles E files anchors activeAuthentication)
  return { identity, files := if options.retainFiles then some files else none }

/-- The driver that `read_passport` makes for a channel. -/
def newPassport (channel : σ) : Passport (Channel σ) := Passport.new ⟨channel, false⟩

end IdentityMobile
