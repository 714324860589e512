import IdentityCrates.Dmrtd.Proto.MrtdApiSession

/-!
# The passport

`passport.rs`: one method for each elementary file, over an `MrtdApi` and a note of which dedicated
file is selected, so that a read does not select again what is selected already.

What becomes of the bytes of a file is up to its parser, which the reads take as an argument, as
`read_df1_by_sfi` does in the source; so are the parser of EF.DG15 and the signature check of Active
Authentication.
-/

namespace Dmrtd

open Rust Octets

/-- `PassportError`. -/
structure PassportError where
  message : String
  code : Option StatusWord
  deriving DecidableEq, Repr

namespace PassportError

/-- `from_parse`. -/
def fromParse (e : EfParseError) : PassportError := ⟨e.message, none⟩

/-- `from_message`. -/
def fromMessage (message : String) : PassportError := ⟨message, none⟩

/-- `From<MrtdApiError>`.  Some older passports return 63CF when the BAC keys are wrong. -/
def fromApi : MrtdApiError → PassportError
  | .chipStatus sw =>
    if sw.sw1 = 0x63 ∧ sw.sw2 = 0xCF then
      ⟨(StatusWord.mk 0x69 0x82).description, some sw⟩
    else ⟨sw.description, some sw⟩
  | other => ⟨other.text, none⟩

end PassportError

/-- `SelectedDf`. -/
inductive SelectedDf where
  | none
  | mf
  | df1
  deriving DecidableEq, Repr

/-- `Passport`. -/
structure Passport (τ : Type) where
  api : MrtdApi τ
  df : SelectedDf

instance neZero_sixteen : NeZero 16 := ⟨by decide⟩

/-- The files under the eMRTD application: EF.COM, the data groups 1 to 16 counted from zero, and
EF.SOD. -/
inductive Df1File where
  | com
  | dg (index : Fin 16)
  | sod
  deriving DecidableEq, Repr

/-- The `SFI` of a file under the eMRTD application. -/
def Df1File.sfi : Df1File → UInt8
  | .com => 0x1E
  | .dg index => UInt8.ofNat (index.val + 1)
  | .sod => 0x1D

/-- `EF_CARD_ACCESS_SFI`. -/
def efCardAccessSfi : UInt8 := 0x1C

/-- `EF_CARD_SECURITY_SFI`. -/
def efCardSecuritySfi : UInt8 := 0x1D

namespace Passport

variable {τ : Type}

/-- `Passport::new`. -/
def new (transceiver : τ) : Passport τ := ⟨MrtdApi.new transceiver, .none⟩

/-- Run a method of the API. -/
def onApi {α : Type} (m : Proc (MrtdApi τ) MrtdApiError α) : Proc (Passport τ) PassportError α :=
  fun self => ((m self.api).1.mapErr .fromApi, { self with api := (m self.api).2 })

/-- `api_mut`, with what the caller does with the API: the cache is dropped first. -/
def apiMut {α : Type} (m : Proc (MrtdApi τ) MrtdApiError α) : Proc (Passport τ) PassportError α :=
  fun self => onApi m { self with df := .none }

variable [Transceiver τ]

/-! ## Selecting -/

/-- `select_mf`. -/
def selectMf : Proc (Passport τ) PassportError Unit := do
  let self ← Proc.get
  if self.df ≠ .mf then do
    onApi MrtdApi.selectMasterFile
    Proc.modify fun self => { self with df := .mf }
  else return ()

/-- `select_df1`. -/
def selectDf1 : Proc (Passport τ) PassportError Unit := do
  let self ← Proc.get
  if self.df ≠ .df1 then do
    onApi MrtdApi.selectEmrtdApplication
    Proc.modify fun self => { self with df := .df1 }
  else return ()

/-! ## Session establishment -/

/-- `start_session`. -/
def startSession (P : Primitives) (keys : DBAKey) (entropy : Entropy) :
    Proc (Passport τ) PassportError Unit := do
  selectDf1
  onApi (MrtdApi.initSessionViaBac P keys entropy)

/-- `start_session_pace`.  PACE leaves the selected file ambiguous, so the cache is dropped. -/
def startSessionPace (P : Primitives) {κ : Type} [AccessKey κ] (accessKey : κ)
    (efCardAccess : EfCardAccess) (entropy : Entropy) : Proc (Passport τ) PassportError Unit := do
  onApi (MrtdApi.initSessionViaPace P accessKey efCardAccess entropy)
  Proc.modify fun self => { self with df := .none }

/-! ## Reading -/

variable {ρ : Type}

/-- `read_ef_card_access`. -/
def readEfCardAccess (parse : Bytes → Outcome EfParseError ρ) :
    Proc (Passport τ) PassportError ρ := do
  selectMf
  let bytes ← onApi (MrtdApi.readFileBySfi efCardAccessSfi)
  Proc.lift ((parse bytes).mapErr .fromParse)

/-- `read_ef_card_security`. -/
def readEfCardSecurity (parse : Bytes → Outcome EfParseError ρ) :
    Proc (Passport τ) PassportError ρ := do
  selectMf
  let bytes ← onApi (MrtdApi.readFileBySfi efCardSecuritySfi)
  Proc.lift ((parse bytes).mapErr .fromParse)

/-- `read_df1_by_sfi`. -/
def readDf1BySfi (sfi : UInt8) (parse : Bytes → Outcome EfParseError ρ) :
    Proc (Passport τ) PassportError ρ := do
  selectDf1
  let bytes ← onApi (MrtdApi.readFileBySfi sfi)
  Proc.lift ((parse bytes).mapErr .fromParse)

/-- `read_ef_com`, `read_ef_dg1` to `read_ef_dg16` and `read_ef_sod`. -/
def readDf1 (file : Df1File) (parse : Bytes → Outcome EfParseError ρ) :
    Proc (Passport τ) PassportError ρ :=
  readDf1BySfi file.sfi parse

/-! ## Active Authentication -/

/-- `active_authenticate`. -/
def activeAuthenticate (challenge : Bytes) : Proc (Passport τ) PassportError Bytes :=
  onApi (MrtdApi.activeAuthenticate challenge)

/-- `verify_active_authentication`, with the parser of EF.DG15 and the check of a response against
its public key. -/
def verifyActiveAuthentication (parse : Bytes → Outcome EfParseError ρ)
    (verify : ρ → Bytes → Bytes → Outcome String Unit) (challenge : Bytes) :
    Proc (Passport τ) PassportError Unit := do
  let dg15 ← readDf1 (.dg 14) parse
  let response ← activeAuthenticate challenge
  Proc.lift ((verify dg15 challenge response).mapErr .fromMessage)

end Passport

end Dmrtd
