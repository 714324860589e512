import IdentityCrates.AadhaarOfflineKyc.Data
import IdentityCrates.Chrono.ParseFromStr
import IdentityCrates.Lib.Slice
import IdentityCrates.Lib.Utf8
import IdentityCrates.Lib.Xml.Tree

/-!
# Paperless offline e-KYC

`offline_ekyc.rs`: the XML file in an encrypted archive, the record in the XML, the signature over it
and the hashes of contacts in it.

What reads archives, XML, base64 and certificates, and what verifies XML signatures, lies outside
and is a parameter (`Services`).  The fields are read from the tree of the XML by `parseDocument`.
-/

namespace AadhaarOfflineKyc

open Dmrtd (NaiveDate)
open Octets Rust Text

/-- The libraries the crate rests on, and the certificates it embeds. -/
structure Services where
  /-- At most so many bytes of the first entry of an archive, decrypted with a password. -/
  readEntry : Bytes → Bytes → Nat → Except String Bytes
  /-- The text of a `FromUtf8Error`. -/
  utf8Error : Bytes → String
  /-- `roxmltree::Document::parse`. -/
  parseXml : Str → Except String Xml.Document
  /-- The standard base64 engine. -/
  decodeBase64 : Str → Option Bytes
  /-- The standard base64 engine, in the other direction. -/
  encodeBase64 : Bytes → Str
  /-- The `SubjectPublicKeyInfo` of a certificate in PEM form. -/
  publicKeyInfo : Str → Except String Bytes
  /-- `verify_signature_with_pem_key`: is the status `Valid`? -/
  verifySignatureWithPemKey : Str → Str → Except String Bool
  /-- `UIDAI_CERTS`. -/
  uidaiCerts : List Str

/-- `OfflineEkyc`. -/
structure OfflineEkyc where
  referenceId : Str
  name : Str
  dob : Option NaiveDate
  gender : Option Gender
  careOf : Option Str
  country : Option Str
  district : Option Str
  house : Option Str
  location : Option Str
  pincode : Option Str
  postOffice : Option Str
  state : Option Str
  street : Option Str
  subDistrict : Option Str
  villageTownCity : Option Str
  photoJp2000 : Option Bytes
  mobileHash : Option Str
  emailHash : Option Str
  signatureVerified : Bool
  deriving DecidableEq

/-- `parse_gender`. -/
def parseGender (g : Str) : Option Gender :=
  let letter := (trim g).map Char.toUpper
  if letter = ['M'] then some .male
  else if letter = ['F'] then some .female
  else if letter = ['T'] then some .transgender
  else none

/-- `parse_offline_dob`. -/
def parseOfflineDob (dob : Str) : Option NaiveDate :=
  let d := trim dob
  if byteLen d = 8 then Chrono.parseFromStr d [.day, .month, .year]
  else if byteLen d = 4 then do
    let y ← parseSigned 2147483647 d
    NaiveDate.fromYmdOpt y 1 1
  else Chrono.parseFromStr d [.day, .literal '-', .month, .literal '-', .year]

/-! ## The record -/

/-- A text, unless it is empty. -/
def nonEmpty (s : Str) : Option Str := if s = [] then none else some s

/-- The closure `attr`: an attribute of a node that may be absent, unless it is empty. -/
def attr (node : Option Xml.Node) (k : String) : Option Str :=
  (node.bind (Xml.Node.attribute? k.toList)).bind nonEmpty

/-- The first child with a tag. -/
def child (tag : String) (children : List Xml.Node) : Option Xml.Node :=
  children.find? (Xml.Node.hasTagName tag.toList)

/-- The text of the photo: the first text of the node, without white space around it. -/
def photoText (pht : Option Xml.Node) : Option Str :=
  ((pht.bind Xml.Node.text?).map trim).bind nonEmpty

/-- The record, of the attributes of `Poi` and `Poa` and the photo. -/
def record (referenceId : Str) (poi poa : String → Option Str) (photo : Option Bytes) :
    OfflineEkyc where
  referenceId
  name := (poi "name").getD []
  dob := poi "dob" >>= parseOfflineDob
  gender := poi "gender" >>= parseGender
  careOf := poa "careof"
  country := poa "country"
  district := poa "dist"
  house := poa "house"
  location := poa "loc"
  pincode := poa "pc"
  postOffice := poa "po"
  state := poa "state"
  street := poa "street"
  subDistrict := poa "subdist"
  villageTownCity := poa "vtc"
  photoJp2000 := photo
  mobileHash := poi "m"
  emailHash := poi "e"
  signatureVerified := false

variable (services : Services)

/-- `parse_offline_xml`, on the tree. -/
def parseDocument (document : Xml.Document) : Outcome AadhaarError OfflineEkyc := do
  if document.name.loc ≠ "OfflinePaperlessKyc".toList then
    .err (.xml "root is not OfflinePaperlessKyc")
  else
    let referenceId := (document.attributes.get? "referenceId".toList).getD []
    let uid ← Outcome.ofOption (.xml "missing UidData") (child "UidData" document.children)
    let poi := child "Poi" uid.children
    let poa := child "Poa" uid.children
    let pht := child "Pht" uid.children
    return record referenceId (attr poi) (attr poa) (photoText pht >>= services.decodeBase64)

/-- `parse_offline_xml`. -/
def parseOfflineXml (xml : Str) : Outcome AadhaarError OfflineEkyc := do
  let document ← match services.parseXml xml with
    | .ok document => .ok document
    | .error e => .err (.xml e)
  parseDocument services document

/-! ## The signature -/

/-- `cert_public_key_pem`. -/
def certPublicKeyPem (certPem : Str) : Outcome AadhaarError Str :=
  match services.publicKeyInfo certPem with
  | .error e => .err (.signature e)
  | .ok spkiDer =>
    let lines := (chunks 64 (services.encodeBase64 spkiDer)).flatMap fun line => line ++ ['\n']
    .ok ("-----BEGIN PUBLIC KEY-----\n".toList ++ lines ++ "-----END PUBLIC KEY-----\n".toList)

/-- The loop of `verify_signature` over the certificates that are left. -/
def verifyLoop (xml : Str) : List Str → Bool
  | [] => false
  | certPem :: certs =>
    match certPublicKeyPem services certPem with
    | .ok pubkeyPem =>
      match services.verifySignatureWithPemKey xml pubkeyPem with
      | .ok true => true
      | _ => verifyLoop xml certs
    | _ => verifyLoop xml certs

/-- `verify_signature`. -/
def verifySignature (xml : Str) : Outcome AadhaarError Bool :=
  .ok (verifyLoop services xml services.uidaiCerts)

/-! ## The archive -/

/-- `decrypt_offline_zip`, with `read_entry_capped`. -/
def decryptOfflineZip (zipBytes : Bytes) (sharePhrase : Str) : Outcome AadhaarError Str :=
  match services.readEntry zipBytes (Utf8.encode sharePhrase) (32 * 1024 * 1024 + 1) with
  | .error e => .err (.zip e)
  | .ok buf =>
    if buf.length > 32 * 1024 * 1024 then .err (.decompressionLimitExceeded (32 * 1024 * 1024))
    else Outcome.ofOption (.zip (services.utf8Error buf)) (Utf8.decode buf)

/-- `parse_offline_ekyc`. -/
def parseOfflineEkyc (zipBytes : Bytes) (sharePhrase : Str) : Outcome AadhaarError OfflineEkyc := do
  let xml ← decryptOfflineZip services zipBytes sharePhrase
  let ekyc ← parseOfflineXml services xml
  if !(← verifySignature services xml) then .err .signatureInvalid
  else return { ekyc with signatureVerified := true }

/-! ## Contacts

A mobile number or an email address is checked against the hash that the record holds of it.
SHA-256 is a crate, and a parameter. -/

/-- `{:02x}` of a byte. -/
def hexByte (b : UInt8) : Str := [(b.toNat / 16).digitChar, (b.toNat % 16).digitChar]

/-- `str::eq_ignore_ascii_case`. -/
def eqIgnoreAsciiCase (s t : Str) : Bool := s.map Char.toLower = t.map Char.toLower

/-- `aadhaar_last_digit`. -/
def aadhaarLastDigit (referenceId : Str) : Nat := (referenceId[3]? >>= toDigit).getD 1

variable (sha256 : Bytes → Bytes)

/-- The loop of `contact_hash`, so many rounds of it. -/
def rehash : Nat → Bytes → Bytes
  | 0, h => h
  | n + 1, h => rehash n (sha256 h)

/-- `contact_hash`. -/
def contactHash (value sharePhrase referenceId : Str) : Str :=
  let n := max (aadhaarLastDigit referenceId) 1
  let h := sha256 (Utf8.encode (value ++ sharePhrase))
  (rehash sha256 (n - 1) h).flatMap hexByte

/-- What `verify_mobile` and `verify_email` do with the hash that the record holds. -/
def verifyContact (recorded : Option Str) (referenceId contact sharePhrase : Str) : Bool :=
  recorded.any fun h => eqIgnoreAsciiCase h (contactHash sha256 contact sharePhrase referenceId)

/-- `verify_mobile`. -/
def verifyMobile (ekyc : OfflineEkyc) (mobile sharePhrase : Str) : Bool :=
  verifyContact sha256 ekyc.mobileHash ekyc.referenceId mobile sharePhrase

/-- `verify_email`. -/
def verifyEmail (ekyc : OfflineEkyc) (email sharePhrase : Str) : Bool :=
  verifyContact sha256 ekyc.emailHash ekyc.referenceId email sharePhrase

end AadhaarOfflineKyc
