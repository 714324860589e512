import Mathlib.Data.List.Destutter
import Mathlib.Data.List.Sort
import IdentityCrates.Lib.Outcome
import IdentityCrates.Dmrtd.Auth.Der
import IdentityCrates.Dmrtd.Auth.SignatureSuite

/-!
# Passive Authentication

`passive.rs`: is the data genuine?  EF.SOD is a CMS `SignedData` around an LDS security object, the
list of the hashes of all data groups.  `verify` matches the data groups it is given against that
list, checks the Document Signer's signature over the list, and looks for a trust anchor that signed
the Document Signer's certificate.

The parsers return errors and never panic.  A loop over a sequence of elements is a recursion on
what is left of it.
-/

namespace Dmrtd

open Rust Octets

namespace Passive

/-! ## Object identifiers -/

/-- `OID_SIGNED_DATA`. -/
def oidSignedData : List Nat := [1, 2, 840, 113549, 1, 7, 2]

/-- `OID_CONTENT_TYPE`. -/
def oidContentType : List Nat := [1, 2, 840, 113549, 1, 9, 3]

/-- `OID_MESSAGE_DIGEST`. -/
def oidMessageDigest : List Nat := [1, 2, 840, 113549, 1, 9, 4]

/-- `OID_RSA`. -/
def oidRsa : List Nat := [1, 2, 840, 113549, 1, 1, 1]

/-- `OID_EC_PUBLIC_KEY`. -/
def oidEcPublicKey : List Nat := [1, 2, 840, 10045, 2, 1]

/-- `OID_LDS_SECURITY_OBJECT`. -/
def oidLdsSecurityObject : List Nat := [2, 23, 136, 1, 1, 1]

/-- `OID_RSASSA_PSS`. -/
def oidRsassaPss : List Nat := [1, 2, 840, 113549, 1, 1, 10]

/-- `OID_MGF1`. -/
def oidMgf1 : List Nat := [1, 2, 840, 113549, 1, 1, 8]

/-- `OID_RSA_SIG_PREFIX`. -/
def oidRsaSigPrefix : List Nat := [1, 2, 840, 113549, 1, 1]

/-- `OID_ECDSA_SIG_PREFIX`. -/
def oidEcdsaSigPrefix : List Nat := [1, 2, 840, 10045, 4]

/-- `OID_SKI`. -/
def oidSki : List Nat := [2, 5, 29, 14]

/-! ## Errors and results -/

/-- `PassiveAuthError`. -/
inductive PassiveAuthError where
  | malformedSod
  | malformedSecurityObject
  | unsupportedHash
  | noSigner
  | malformedCertificate
  | unsupportedKey
  | dataGroupHashMismatch (number : UInt8)
  | badDocumentSignature
  | badSignedAttributes
  | noDataGroups
  deriving DecidableEq, Repr

/-- The `Display` text of a `PassiveAuthError`. -/
def PassiveAuthError.text : PassiveAuthError → String
  | .malformedSod => "EF.SOD is not a well-formed CMS SignedData"
  | .malformedSecurityObject => "the LDS security object could not be parsed"
  | .unsupportedHash => "unsupported or unknown hash algorithm in EF.SOD"
  | .noSigner => "EF.SOD names no signer"
  | .malformedCertificate => "the Document Signer certificate could not be parsed"
  | .unsupportedKey => "unsupported Document Signer key algorithm"
  | .dataGroupHashMismatch number => s!"data group {number} does not match the value in EF.SOD"
  | .badDocumentSignature =>
    "the EF.SOD signature is not valid for the Document Signer certificate"
  | .badSignedAttributes => "the signed message digest does not match the security object"
  | .noDataGroups => "no data groups were supplied to authenticate"

/-- `ChainStatus`: how far the trust chain was verified. -/
inductive ChainStatus where
  | trusted (cscaSubject : Bytes)
  | unverified
  deriving DecidableEq, Repr

/-- Did a supplied anchor sign the Document Signer's certificate? -/
def ChainStatus.isTrusted : ChainStatus → Bool
  | .trusted _ => true
  | .unverified => false

/-- `PassiveAuth`: the data groups that matched, and all that EF.SOD commits to. -/
structure PassiveAuth where
  verifiedGroups : List UInt8
  sodGroups : List UInt8
  chain : ChainStatus
  deriving DecidableEq, Repr

/-- `is_authentic`. -/
def PassiveAuth.isAuthentic (self : PassiveAuth) : Bool :=
  self.chain.isTrusted && !self.verifiedGroups.isEmpty

/-- `covers_all_groups`. -/
def PassiveAuth.coversAllGroups (self : PassiveAuth) : Bool :=
  self.isAuthentic && self.verifiedGroups == self.sodGroups

/-- `DataGroup`: a data group read off the chip. -/
structure DataGroup where
  number : UInt8
  bytes : Bytes
  deriving DecidableEq, Repr

/-! ## Algorithm identifiers -/

/-- `SigScheme`: the signature scheme that an AlgorithmIdentifier declares. -/
inductive SigScheme where
  | rsa
  | rsaPss (mgfHash : HashAlgo) (saltLen : Nat)
  | ecdsa
  deriving DecidableEq, Repr

/-- `require_params_null_or_absent`. -/
def requireParamsNullOrAbsent (params : Bytes) : Outcome PassiveAuthError Unit :=
  if params = [] ∨ params = [0x05, 0x00] then .ok () else .err .unsupportedHash

/-- `algo_hash`: the hash that an AlgorithmIdentifier names. -/
def algoHash (alg : Bytes) : Outcome PassiveAuthError HashAlgo := do
  let (oid, params) ← Outcome.ofOption .unsupportedHash (Der.take alg Der.oid)
  requireParamsNullOrAbsent params
  let arcs ← Outcome.ofOption .unsupportedHash (Der.oidArcs oid)
  Outcome.ofOption .unsupportedHash (HashAlgo.fromOid arcs)

/-- `sig_alg_hash`: the hash in a signature algorithm's object identifier. -/
def sigAlgHash (alg : Bytes) : Outcome PassiveAuthError HashAlgo := do
  let (oid, _) ← Outcome.ofOption .unsupportedHash (Der.take alg Der.oid)
  match ← Outcome.ofOption .unsupportedHash (Der.oidArcs oid) with
  | [1, 2, 840, 113549, 1, 1, 5] => .ok .sha1
  | [1, 2, 840, 113549, 1, 1, 14] => .ok .sha224
  | [1, 2, 840, 113549, 1, 1, 11] => .ok .sha256
  | [1, 2, 840, 113549, 1, 1, 12] => .ok .sha384
  | [1, 2, 840, 113549, 1, 1, 13] => .ok .sha512
  | [1, 2, 840, 10045, 4, 1] => .ok .sha1
  | [1, 2, 840, 10045, 4, 3, 1] => .ok .sha224
  | [1, 2, 840, 10045, 4, 3, 2] => .ok .sha256
  | [1, 2, 840, 10045, 4, 3, 3] => .ok .sha384
  | [1, 2, 840, 10045, 4, 3, 4] => .ok .sha512
  | _ => .err .unsupportedHash

/-- `small_uint`: a small non-negative INTEGER, minimally encoded. -/
def smallUint (contents : Bytes) : Option Nat :=
  match contents with
  | [] => none
  | b0 :: tail =>
    if b0 &&& 0x80 ≠ 0 then none
    else if b0 = 0 ∧ tail.head?.any (fun b1 => b1 &&& 0x80 = 0) then none
    else if contents.length ≤ 4 then some (ofBE contents)
    else none

/-- The contents of an optional field with the context tag `tag` at the front of `rest`, and what
follows it. -/
def optionalField (tag : UInt8) (rest : Bytes) : Option (Bytes × Bytes) :=
  match Der.next rest with
  | some e => if e.tag = tag then some (e.contents, e.rest) else none
  | none => none

/-- `parse_pss_params`: the hash, the mask generation hash and the salt length.  Every field has a
default. -/
def parsePssParams (params : Bytes) : Outcome PassiveAuthError (HashAlgo × HashAlgo × Nat) := do
  let rest ← Outcome.ofOption .unsupportedHash (Der.expect params Der.sequence)
  let (hash, rest) ← match optionalField 0xA0 rest with
    | some (field, tail) => do
      let alg ← Outcome.ofOption .unsupportedHash (Der.expect field Der.sequence)
      let hash ← algoHash alg
      pure (hash, tail)
    | none => pure (.sha1, rest)
  let (mgfHash, rest) ← match optionalField 0xA1 rest with
    | some (field, tail) => do
      let mgf ← Outcome.ofOption .unsupportedHash (Der.expect field Der.sequence)
      let (oid, mgfParams) ← Outcome.ofOption .unsupportedHash (Der.take mgf Der.oid)
      if Der.oidArcs oid ≠ some oidMgf1 then .err .unsupportedHash
      else do
        let alg ← Outcome.ofOption .unsupportedHash (Der.expect mgfParams Der.sequence)
        let mgfHash ← algoHash alg
        pure (mgfHash, tail)
    | none => pure (.sha1, rest)
  let (saltLen, rest) ← match optionalField 0xA2 rest with
    | some (field, tail) => do
      let int ← Outcome.ofOption .unsupportedHash (Der.expect field Der.integer)
      let saltLen ← Outcome.ofOption .unsupportedHash (smallUint int)
      pure (saltLen, tail)
    | none => pure (20, rest)
  let rest ← match optionalField 0xA3 rest with
    | some (field, tail) => do
      let int ← Outcome.ofOption .unsupportedHash (Der.expect field Der.integer)
      if smallUint int ≠ some 1 then .err .unsupportedHash else pure tail
    | none => pure rest
  if rest ≠ [] then .err .unsupportedHash else .ok (hash, mgfHash, saltLen)

/-- `parse_sig_alg`: the scheme, and the hash where the algorithm pins one. -/
def parseSigAlg (alg : Bytes) : Outcome PassiveAuthError (SigScheme × Option HashAlgo) := do
  let (oid, params) ← Outcome.ofOption .malformedSod (Der.take alg Der.oid)
  let arcs ← Outcome.ofOption .malformedSod (Der.oidArcs oid)
  if arcs = oidRsa then do
    requireParamsNullOrAbsent params
    .ok (.rsa, none)
  else if arcs = oidRsassaPss then do
    let (hash, mgfHash, saltLen) ← parsePssParams params
    .ok (.rsaPss mgfHash saltLen, some hash)
  else if oidRsaSigPrefix.isPrefixOf arcs then do
    requireParamsNullOrAbsent params
    let hash ← sigAlgHash alg
    .ok (.rsa, some hash)
  else if oidEcdsaSigPrefix.isPrefixOf arcs then do
    requireParamsNullOrAbsent params
    let hash ← sigAlgHash alg
    .ok (.ecdsa, some hash)
  else .err .unsupportedHash

/-! ## Certificates -/

variable (S : SignatureSuite)

/-- `PublicKey`. -/
inductive PublicKey where
  | rsa (k : S.RsaPublicKey)
  | ec (curve : S.Curve) (point : Bytes)

variable {S}

/-- `PublicKey::verify`. -/
def PublicKey.verify (self : PublicKey S) (scheme : SigScheme) (hash : HashAlgo)
    (message sig : Bytes) : Bool :=
  match self, scheme with
  | .rsa k, .rsaPss mgfHash saltLen => S.verifyPss k hash mgfHash saltLen message sig
  | .rsa k, _ => S.verifyPkcs1v15 k hash message sig
  | .ec curve point, _ => S.verifyEc curve point hash message sig

/-- `scheme_matches_key`: does the kind of the key match a declared scheme? -/
def schemeMatchesKey (key : PublicKey S) (scheme : SigScheme) : Bool :=
  match key, scheme with
  | .rsa _, .rsa => true
  | .rsa _, .rsaPss _ _ => true
  | .ec _ _, .ecdsa => true
  | _, _ => false

variable (S)

/-- `Certificate`: what passive authentication takes from an X.509 certificate. -/
structure Certificate where
  tbs : Bytes
  serial : Bytes
  issuer : Bytes
  subject : Bytes
  ski : Option Bytes
  publicKey : PublicKey S
  sigScheme : SigScheme
  signatureHash : HashAlgo
  signature : Bytes

/-- `ParsedTbs`. -/
structure ParsedTbs where
  serial : Bytes
  innerSigAlg : Bytes
  issuer : Bytes
  subject : Bytes
  ski : Option Bytes
  publicKey : PublicKey S

/-- The first loop of `find_ski`: skip to the extensions, `[3] EXPLICIT SEQUENCE`. -/
def findExtensions (rest : Bytes) : Option Bytes :=
  match _ : Der.next rest with
  | none => none
  | some e =>
    if e.tag = 0xA3 then Der.expect e.contents Der.sequence
    else findExtensions e.rest
termination_by rest.length
decreasing_by
  have := Der.length_of_next ‹_›
  omega

/-- The key identifier in the extension value that `after` holds, behind an optional critical
flag. -/
def skiValue (after : Bytes) : Option Bytes := do
  let e ← Der.next after
  let value ←
    if e.tag = 0x01 then Der.expect e.rest Der.octetString
    else if e.tag = Der.octetString then some e.contents
    else none
  Der.expect value Der.octetString

/-- What follows the object identifier of an extension, if it is the subject key identifier. -/
def skiExtension (tag : UInt8) (ext : Bytes) : Option Bytes :=
  if tag = Der.sequence then
    match Der.take ext Der.oid with
    | some (oid, after) => if Der.oidArcs oid = some oidSki then some after else none
    | none => none
  else none

/-- The second loop of `find_ski`, over the extensions. -/
def findSkiIn (rest : Bytes) : Option Bytes :=
  match _ : Der.next rest with
  | none => none
  | some e =>
    match skiExtension e.tag e.contents with
    | some after => skiValue after
    | none => findSkiIn e.rest
termination_by rest.length
decreasing_by
  have := Der.length_of_next ‹_›
  omega

/-- `find_ski`: the subject key identifier in what follows the public key. -/
def findSki (afterSpki : Bytes) : Option Bytes := do
  let extSeq ← findExtensions afterSpki
  findSkiIn extSeq

/-- `parse_spki`: the public key.  Elliptic curve parameters must name a known curve, and a point
must have a length that the curve's verifier takes. -/
def parseSpki (spki : Bytes) : Outcome PassiveAuthError (PublicKey S) := do
  let (alg, afterAlg) ← Outcome.ofOption .malformedCertificate (Der.take spki Der.sequence)
  let (oid, params) ← Outcome.ofOption .malformedCertificate (Der.take alg Der.oid)
  let arcs ← Outcome.ofOption .malformedCertificate (Der.oidArcs oid)
  let (keyBits, _) ← Outcome.ofOption .malformedCertificate (Der.take afterAlg Der.bitString)
  let keyBytes ← Outcome.ofOption .malformedCertificate (Der.bitStringBytes keyBits)
  if arcs = oidRsa then do
    let key ← Outcome.ofOption .unsupportedKey (S.fromPkcs1Der keyBytes)
    .ok (.rsa key)
  else if arcs = oidEcPublicKey then do
    let curve ← Outcome.ofOption .unsupportedKey (S.fromParams params)
    let field := S.fieldLen curve
    if keyBytes.length = 1 + 2 * field ∨
        keyBytes.length = 1 + field ∧ S.takesCompressedPoints curve = true then
      .ok (.ec curve keyBytes)
    else .err .unsupportedKey
  else .err .unsupportedKey

/-- `parse_tbs`. -/
def parseTbs (tbs : Bytes) : Outcome PassiveAuthError (ParsedTbs S) := do
  let rest := match optionalField 0xA0 tbs with
    | some (_, tail) => tail
    | none => tbs
  let (serial, r1) ← Outcome.ofOption .malformedCertificate (Der.take rest Der.integer)
  let (innerSigAlg, r2) ← Outcome.ofOption .malformedCertificate (Der.take r1 Der.sequence)
  let (issuer, r3) ← Outcome.ofOption .malformedCertificate (Der.take r2 Der.sequence)
  let (_, r4) ← Outcome.ofOption .malformedCertificate (Der.take r3 Der.sequence)
  let (subject, r5) ← Outcome.ofOption .malformedCertificate (Der.take r4 Der.sequence)
  let (spki, r6) ← Outcome.ofOption .malformedCertificate (Der.take r5 Der.sequence)
  let publicKey ← parseSpki S spki
  return { serial, innerSigAlg, issuer, subject, ski := findSki r6, publicKey }

/-- `Certificate::parse`. -/
def Certificate.parse (derBytes : Bytes) : Outcome PassiveAuthError (Certificate S) := do
  let body ← Outcome.ofOption .malformedCertificate (Der.expect derBytes Der.sequence)
  let tbsElement ← Outcome.ofOption .malformedCertificate (Der.next body)
  if tbsElement.tag ≠ Der.sequence then .err .malformedCertificate
  else do
    -- the whole encoding of the TBS certificate is what was signed
    let tbs := body.take (body.length - tbsElement.rest.length)
    let (outerAlg, afterSigAlg) ←
      Outcome.ofOption .malformedCertificate (Der.take tbsElement.rest Der.sequence)
    let (sigScheme, sigHash) ← (parseSigAlg outerAlg).mapErr fun _ => .malformedCertificate
    let signatureHash ← Outcome.ofOption .malformedCertificate sigHash
    let (sigBits, tail) ←
      Outcome.ofOption .malformedCertificate (Der.take afterSigAlg Der.bitString)
    if tail ≠ [] then .err .malformedCertificate
    else do
      let signature ← Outcome.ofOption .malformedCertificate (Der.bitStringBytes sigBits)
      let parsed ← parseTbs S tbsElement.contents
      if parsed.innerSigAlg ≠ outerAlg then .err .malformedCertificate
      else
        return {
          tbs, serial := parsed.serial, issuer := parsed.issuer, subject := parsed.subject,
          ski := parsed.ski, publicKey := parsed.publicKey, sigScheme, signatureHash, signature }

/-- `TrustAnchor`: the subject and the public key of a CSCA certificate. -/
structure TrustAnchor where
  subject : Bytes
  key : PublicKey S

/-- `TrustAnchor::from_certificate`. -/
def TrustAnchor.fromCertificate (derCert : Bytes) : Outcome PassiveAuthError (TrustAnchor S) := do
  let cert ← Certificate.parse S derCert
  return ⟨cert.subject, cert.publicKey⟩

/-! ## CMS SignedData -/

/-- `SignerId`: how the SignerInfo names its certificate. -/
inductive SignerId where
  | issuerAndSerial (issuer serial : Bytes)
  | ski (identifier : Bytes)
  deriving DecidableEq, Repr

/-- `SignedAttrs`: the attributes re-encoded as the SET OF that was signed, with the values of the
two that are checked. -/
structure SignedAttrs where
  der : Bytes
  messageDigest : Bytes
  contentType : Option (List Nat)
  deriving DecidableEq, Repr

/-- `SignerInfo`. -/
structure SignerInfo where
  sid : SignerId
  digestAlgo : HashAlgo
  signatureHash : HashAlgo
  sigScheme : SigScheme
  signedAttrs : Option SignedAttrs
  signature : Bytes
  deriving DecidableEq, Repr

/-- `SignedData`. -/
structure SignedData where
  digestAlgo : HashAlgo
  signatureHash : HashAlgo
  sigScheme : SigScheme
  contentType : List Nat
  encapContent : Bytes
  signerCert : Bytes
  signedAttrs : Option SignedAttrs
  signature : Bytes
  deriving DecidableEq, Repr

/-- `push_len`: the length octets of `len`. -/
def pushLen (len : Nat) : Bytes :=
  if len < 0x80 then [UInt8.ofNat len]
  else if len < 0x100 then [0x81, UInt8.ofNat len]
  else if len < 0x10000 then [0x82, UInt8.ofNat (len >>> 8), UInt8.ofNat (len &&& 0xff)]
  else [0x83, UInt8.ofNat (len >>> 16), UInt8.ofNat ((len >>> 8) &&& 0xff),
    UInt8.ofNat (len &&& 0xff)]

/-- `collect_certificates`: each certificate of the field, re-wrapped as its own SEQUENCE. -/
def collectCertificates (rest : Bytes) : Outcome PassiveAuthError (List Bytes) :=
  if rest = [] then .ok []
  else
    match _ : Der.next rest with
    | none => .err .malformedCertificate
    | some e => do
      let certs ← collectCertificates e.rest
      .ok ((Der.sequence :: (pushLen e.contents.length ++ e.contents)) :: certs)
termination_by rest.length
decreasing_by
  have := Der.length_of_next ‹_›
  omega

/-- Does the SignerInfo name this certificate? -/
def SignerId.names (sid : SignerId) (cert : Certificate S) : Bool :=
  match sid with
  | .issuerAndSerial issuer serial => cert.issuer == issuer && cert.serial == serial
  | .ski identifier => cert.ski == some identifier

/-- `select_dsc`: the certificate that the SignerInfo names. -/
def selectDsc (certs : List Bytes) (sid : SignerId) : Outcome PassiveAuthError Bytes :=
  match certs with
  | [] => .err .malformedCertificate
  | derCert :: certs => do
    let cert ← Certificate.parse S derCert
    if sid.names S cert then .ok derCert else selectDsc certs sid

/-- One attribute, folded into the message digest and the content type found so far. -/
def foldAttribute (tag : UInt8) (attr : Bytes) (found : Option Bytes × Option (List Nat)) :
    Option Bytes × Option (List Nat) :=
  if tag = Der.sequence then
    match Der.take attr Der.oid with
    | some (oid, after) =>
      if Der.oidArcs oid = some oidMessageDigest then
        ((Der.expect after Der.set).bind fun v => Der.expect v Der.octetString, found.2)
      else if Der.oidArcs oid = some oidContentType then
        (found.1, ((Der.expect after Der.set).bind fun v => Der.expect v Der.oid).bind Der.oidArcs)
      else found
    | none => found
  else found

/-- The loop of `parse_signed_attrs`. -/
def foldAttributes (found : Option Bytes × Option (List Nat)) (rest : Bytes) :
    Outcome PassiveAuthError (Option Bytes × Option (List Nat)) :=
  if rest = [] then .ok found
  else
    match _ : Der.next rest with
    | none => .err .badSignedAttributes
    | some e => foldAttributes (foldAttribute e.tag e.contents found) e.rest
termination_by rest.length
decreasing_by
  have := Der.length_of_next ‹_›
  omega

/-- `parse_signed_attrs`. -/
def parseSignedAttrs (implicit : Bytes) : Outcome PassiveAuthError SignedAttrs := do
  let (messageDigest, contentType) ← foldAttributes (none, none) implicit
  let messageDigest ← Outcome.ofOption .badSignedAttributes messageDigest
  return {
    der := Der.set :: (pushLen implicit.length ++ implicit)
    messageDigest, contentType }

/-- `parse_sid`. -/
def parseSid (tag : UInt8) (body : Bytes) : Outcome PassiveAuthError SignerId :=
  if tag = Der.sequence then do
    let (issuer, after) ← Outcome.ofOption .noSigner (Der.take body Der.sequence)
    let (serial, _) ← Outcome.ofOption .noSigner (Der.take after Der.integer)
    .ok (.issuerAndSerial issuer serial)
  else if tag = 0x80 then .ok (.ski body)
  else .err .noSigner

/-- `SignerInfo::parse`. -/
def SignerInfo.parse (set : Bytes) : Outcome PassiveAuthError SignerInfo := do
  let si ← Outcome.ofOption .noSigner (Der.expect set Der.sequence)
  let (_, r1) ← Outcome.ofOption .noSigner (Der.take si Der.integer)
  let sidElement ← Outcome.ofOption .noSigner (Der.next r1)
  let sid ← parseSid sidElement.tag sidElement.contents
  let (digestAlg, r3) ← Outcome.ofOption .noSigner (Der.take sidElement.rest Der.sequence)
  let digestAlgo ← algoHash digestAlg
  let (signedAttrs, r4) ← match optionalField 0xA0 r3 with
    | some (contents, tail) => do
      let attrs ← parseSignedAttrs contents
      pure (some attrs, tail)
    | none => pure (none, r3)
  let (sigAlg, r5) ← Outcome.ofOption .noSigner (Der.take r4 Der.sequence)
  let (sigScheme, pinned) ← parseSigAlg sigAlg
  -- a hash that the signature algorithm pins must agree with the digest algorithm
  let signatureHash ← match pinned with
    | some h => if h ≠ digestAlgo then .err .unsupportedHash else pure h
    | none => pure digestAlgo
  let (signature, _) ← Outcome.ofOption .noSigner (Der.take r5 Der.octetString)
  return { sid, digestAlgo, signatureHash, sigScheme, signedAttrs, signature }

/-- `parse_encap_content`: the content type and the content. -/
def parseEncapContent (encap : Bytes) : Outcome PassiveAuthError (List Nat × Bytes) := do
  let (ctype, after) ← Outcome.ofOption .malformedSod (Der.take encap Der.oid)
  let contentType ← Outcome.ofOption .malformedSod (Der.oidArcs ctype)
  let explicit ← Outcome.ofOption .malformedSod (Der.expect after 0xA0)
  let octets ← Outcome.ofOption .malformedSod (Der.expect explicit Der.octetString)
  .ok (contentType, octets)

/-- The loop of `SignedData::parse` over certificates, revocation lists and the signer. -/
def parseSigner (contentType : List Nat) (encapContent : Bytes) (certs : List Bytes)
    (rest : Bytes) : Outcome PassiveAuthError SignedData :=
  if rest = [] then .err .noSigner
  else
    match _ : Der.next rest with
    | none => .err .malformedSod
    | some e =>
      if e.tag = 0xA0 then do
        let certs ← collectCertificates e.contents
        parseSigner contentType encapContent certs e.rest
      else if e.tag = Der.set then do
        let si ← SignerInfo.parse e.contents
        let signerCert ← selectDsc S certs si.sid
        .ok {
          digestAlgo := si.digestAlgo, signatureHash := si.signatureHash
          sigScheme := si.sigScheme, contentType, encapContent, signerCert
          signedAttrs := si.signedAttrs, signature := si.signature }
      else if e.tag = 0xA1 then parseSigner contentType encapContent certs e.rest
      else .err .malformedSod
termination_by rest.length
decreasing_by
  all_goals
    have := Der.length_of_next ‹_›
    omega

/-- The CMS structure in EF.SOD: what the tag `77` wraps, or all of it when there is no such tag. -/
def unwrapSod (sod : Bytes) : Outcome PassiveAuthError Bytes := do
  let e ← Outcome.ofOption .malformedSod (Der.next sod)
  if e.tag = 0x77 then
    if e.rest = [] then .ok e.contents else .err .malformedSod
  else .ok sod

/-- `SignedData::parse`. -/
def SignedData.parse (sod : Bytes) : Outcome PassiveAuthError SignedData := do
  let cms ← unwrapSod sod
  let ci ← Outcome.ofOption .malformedSod (Der.expect cms Der.sequence)
  let (oid, afterOid) ← Outcome.ofOption .malformedSod (Der.take ci Der.oid)
  if Der.oidArcs oid ≠ some oidSignedData then .err .malformedSod
  else do
    let explicit ← Outcome.ofOption .malformedSod (Der.expect afterOid 0xA0)
    let sd ← Outcome.ofOption .malformedSod (Der.expect explicit Der.sequence)
    let (_, r1) ← Outcome.ofOption .malformedSod (Der.take sd Der.integer)
    let (_, r2) ← Outcome.ofOption .malformedSod (Der.take r1 Der.set)
    let (encap, r3) ← Outcome.ofOption .malformedSod (Der.take r2 Der.sequence)
    let (contentType, encapContent) ← parseEncapContent encap
    parseSigner S contentType encapContent [] r3

/-! ## The LDS security object -/

/-- `LdsSecurityObject`: the hash algorithm, and the hash of each data group in the order of their
numbers. -/
structure LdsSecurityObject where
  hashAlgo : HashAlgo
  hashes : List (UInt8 × Bytes)
  deriving DecidableEq, Repr

/-- `BTreeMap::insert` of a number that the map does not hold. -/
def insertHash (number : UInt8) (hash : Bytes) : List (UInt8 × Bytes) → List (UInt8 × Bytes)
  | [] => [(number, hash)]
  | entry :: hashes =>
    if number < entry.1 then (number, hash) :: entry :: hashes
    else entry :: insertHash number hash hashes

/-- The number of a DataGroupHash: a single byte from 1 to 127. -/
def groupNumber : Bytes → Option UInt8
  | [b] => if b ≠ 0 ∧ b &&& 0x80 = 0 then some b else none
  | _ => none

/-- One DataGroupHash at the front of the list: its number, its hash and what follows it. -/
def takeHash (rest : Bytes) : Option (UInt8 × Bytes × Bytes) := do
  let (dgh, tail) ← Der.take rest Der.sequence
  let (num, after) ← Der.take dgh Der.integer
  let (hash, dghRest) ← Der.take after Der.octetString
  if dghRest ≠ [] then none
  else do
    let n ← groupNumber num
    some (n, hash, tail)

lemma length_of_takeHash {rest tail hash : Bytes} {n : UInt8}
    (h : takeHash rest = some (n, hash, tail)) : tail.length + 2 ≤ rest.length := by
  simp only [takeHash, Option.bind_eq_bind, Option.bind_eq_some_iff] at h
  obtain ⟨⟨dgh, tail'⟩, htake, ⟨num, after⟩, -, ⟨hash', dghRest⟩, -, h⟩ := h
  dsimp only at h
  split at h
  · simp at h
  · obtain ⟨n', -, h⟩ := Option.bind_eq_some_iff.mp h
    obtain rfl : tail' = tail := (Prod.mk.inj (Prod.mk.inj (Option.some.inj h)).2).2
    exact Der.length_of_take htake

/-- The loop of `LdsSecurityObject::parse`.  A number that occurs twice is refused. -/
def collectHashes (hashes : List (UInt8 × Bytes)) (rest : Bytes) :
    Outcome PassiveAuthError (List (UInt8 × Bytes)) :=
  if rest = [] then .ok hashes
  else
    match _ : takeHash rest with
    | none => .err .malformedSecurityObject
    | some (n, hash, tail) =>
      if (hashes.lookup n).isSome then .err .malformedSecurityObject
      else collectHashes (insertHash n hash hashes) tail
termination_by rest.length
decreasing_by
  have := length_of_takeHash ‹_›
  omega

/-- `LdsSecurityObject::parse`. -/
def LdsSecurityObject.parse (bytes : Bytes) : Outcome PassiveAuthError LdsSecurityObject := do
  let seq ← Outcome.ofOption .malformedSecurityObject (Der.expect bytes Der.sequence)
  let (_, r1) ← Outcome.ofOption .malformedSecurityObject (Der.take seq Der.integer)
  let (hashAlg, r2) ← Outcome.ofOption .malformedSecurityObject (Der.take r1 Der.sequence)
  let hashAlgo ← algoHash hashAlg
  let (list, _) ← Outcome.ofOption .malformedSecurityObject (Der.take r2 Der.sequence)
  let hashes ← collectHashes [] list
  if hashes = [] then .err .malformedSecurityObject else .ok ⟨hashAlgo, hashes⟩

/-! ## Verification -/

/-- Every supplied data group must match its hash in EF.SOD. -/
def matchGroups (lds : LdsSecurityObject) : List DataGroup → Outcome PassiveAuthError Unit
  | [] => .ok ()
  | dg :: groups =>
    match lds.hashes.lookup dg.number with
    | none => .err (.dataGroupHashMismatch dg.number)
    | some expected =>
      if S.digest lds.hashAlgo dg.bytes ≠ expected then .err (.dataGroupHashMismatch dg.number)
      else matchGroups lds groups

/-- The bytes that the Document Signer signed: the signed attributes once they are known to vouch
for the content, or the content itself. -/
def signedMessage (signed : SignedData) : Outcome PassiveAuthError Bytes :=
  match signed.signedAttrs with
  | some attrs =>
    if attrs.messageDigest ≠ S.digest signed.digestAlgo signed.encapContent ∨
        attrs.contentType ≠ some signed.contentType then
      .err .badSignedAttributes
    else .ok attrs.der
  | none => .ok signed.encapContent

variable {S}

/-- Did the anchor sign the certificate? -/
def TrustAnchor.signed (a : TrustAnchor S) (dsc : Certificate S) : Bool :=
  a.subject == dsc.issuer && schemeMatchesKey a.key dsc.sigScheme &&
    a.key.verify dsc.sigScheme dsc.signatureHash dsc.tbs dsc.signature

/-- The trust verdict on the Document Signer's certificate. -/
def chainStatus (anchors : List (TrustAnchor S)) (dsc : Certificate S) : ChainStatus :=
  match anchors.find? fun a => a.signed dsc with
  | some a => .trusted a.subject
  | none => .unverified

variable (S)

/-- `verify`. -/
def verify (sod : Bytes) (groups : List DataGroup) (anchors : List (TrustAnchor S)) :
    Outcome PassiveAuthError PassiveAuth := do
  if groups = [] then .err .noDataGroups
  else do
    let signed ← SignedData.parse S sod
    if signed.contentType ≠ oidLdsSecurityObject then .err .malformedSod
    else do
      let lds ← LdsSecurityObject.parse signed.encapContent
      matchGroups S lds groups
      let dsc ← Certificate.parse S signed.signerCert
      if ¬ schemeMatchesKey dsc.publicKey signed.sigScheme then .err .badDocumentSignature
      else do
        let message ← signedMessage S signed
        if ¬ dsc.publicKey.verify signed.sigScheme signed.signatureHash message
            signed.signature then
          .err .badDocumentSignature
        else
          return {
            verifiedGroups :=
              ((groups.map DataGroup.number).insertionSort (· ≤ ·)).destutter (· ≠ ·)
            sodGroups := lds.hashes.map Prod.fst
            chain := chainStatus anchors dsc }

end Passive

end Dmrtd
