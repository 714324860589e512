import IdentityCrates.Dmrtd.Properties.CardReading
import IdentityCrates.Mobile.Passport

/-!
# A card before the phone

A `NearbyCard` is a platform with a card in its field: every exchange reaches the card and brings back its
answer, and the generator of the operating system gives what it gives.

`storedRead` says what a read of an honest card is for, without any exchange: the files are those
that are stored, the answer to the challenge is the card's, and both are judged as `read_passport`
judges them.  A file that does not parse counts as one that is not there.
-/

namespace IdentityMobile

open Rust Octets Text
open Dmrtd

/-- A card in the field of the phone, and what the generator of the operating system gives. -/
structure NearbyCard (η : Type) where
  card : Card η CardFiles
  drawn : Except String (FixedBytes 8)

variable {η : Type}

instance : RandomSource (NearbyCard η) where
  fill nearby := (nearby.drawn, nearby)

instance [CardHandshake η] : ApduChannel (NearbyCard η) where
  transceive apdu nearby :=
    (.ok (nearby.card.answer apdu).1, { nearby with card := (nearby.card.answer apdu).2 })

/-! ## What a read is for -/

/-- What is made of a read that the result can do without. -/
def whenRead {ε α : Type} : Outcome ε α → Outcome IdentityError (Option α)
  | .ok a => .ok (some a)
  | .err _ => .ok none
  | .panic => .panic

/-- The challenge, or the error for a generator that fails. -/
def drawnChallenge : Except String (FixedBytes 8) → Outcome IdentityError (FixedBytes 8)
  | .ok challenge => .ok challenge
  | .error e => .err (.unreadable
      s!"no source of randomness for the active authentication challenge: {e}")

variable (E : Environment) (contents : CardContents) (options : PassportOptions)

/-- EF.CardAccess. -/
def storedAccess : Outcome PassportError EfCardAccess :=
  contents.read .mf efCardAccessSfi (EfCardAccess.fromBytes E.asn1)

/-- EF.DG1. -/
def storedDg1 : Outcome IdentityError EfDG1 :=
  (contents.read .df1 (Df1File.dg 0).sfi (EfDG1.fromBytes E.readingDay)).mapErr fun e =>
    .unreadable s!"EF.DG1 (the MRZ) could not be read: {Reading.errorText e}"

/-- A file, if it is asked for. -/
def storedAsked {α : Type} (asked : Bool) (file : Df1File) (parse : Bytes → Outcome EfParseError α) :
    Outcome IdentityError (Option α) :=
  if asked then whenRead (contents.read .df1 file.sfi parse) else .ok none

/-- EF.DG2. -/
def storedDg2 : Outcome IdentityError (Option EfDG2) :=
  storedAsked contents options.readPortrait (.dg 1) EfDG2.fromBytes

/-- EF.DG15. -/
def storedDg15 : Outcome IdentityError (Option EfDG15) :=
  storedAsked contents options.activeAuthentication (.dg 14) EfDG15.fromBytes

/-- EF.SOD. -/
def storedSod : Outcome IdentityError EfSOD :=
  (contents.read .df1 Df1File.sod.sfi EfSOD.fromBytes).mapErr fun e =>
    .unreadable s!"EF.SOD could not be read: {Reading.errorText e}"

/-- The verdict on the card's answer to the challenge. -/
def answeredChallenge (drawn : Except String (FixedBytes 8)) (dg15File : Option EfDG15) :
    Outcome IdentityError (Option Bool) :=
  match options.activeAuthentication, dg15File with
  | true, some dg15File => do
    let challenge ← drawnChallenge drawn
    match ← whenRead ((contents.response challenge.val).mapErr PassportError.fromApi) with
    | some response =>
      return some (Active.verify E.suite dg15File.pubKey challenge.val response).isOk
    | none => return some false
  | true, none => return none
  | false, _ => return none

/-- The files, and the verdict of Active Authentication. -/
def storedFiles (drawn : Except String (FixedBytes 8)) :
    Outcome IdentityError (PassportFiles × Option Bool) := do
  let dg1 ← storedDg1 E contents
  let dg2 ← storedDg2 contents options
  let dg15File ← storedDg15 contents options
  let sod ← storedSod contents
  let activeAuthentication ← answeredChallenge E contents options drawn dg15File
  return ({ sod := sod.encoded, dg1 := dg1.encoded, dg2 := dg2.map EfDG2.encoded,
            dg15 := dg15File.map EfDG15.encoded }, activeAuthentication)

/-- The result of a read, by what is stored on the card and by the challenge alone. -/
def storedRead (drawn : Except String (FixedBytes 8)) (anchors : List Bytes) :
    Outcome IdentityError PassportRead := do
  let (files, activeAuthentication) ← storedFiles E contents options drawn
  let identity ← verifyFiles E files anchors activeAuthentication
  return { identity, files := if options.retainFiles then some files else none }

end IdentityMobile
