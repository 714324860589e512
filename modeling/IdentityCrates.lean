import IdentityCrates.AadhaarOfflineKyc.Data
import IdentityCrates.AadhaarOfflineKyc.OfflineEkyc
import IdentityCrates.AadhaarOfflineKyc.Parser
import IdentityCrates.AadhaarOfflineKyc.Properties.ContactBinding
import IdentityCrates.AadhaarOfflineKyc.Properties.ExactPartition
import IdentityCrates.AadhaarOfflineKyc.Properties.SignatureCoverage
import IdentityCrates.AadhaarOfflineKyc.Properties.VerhoeffDetection
import IdentityCrates.AadhaarOfflineKyc.Verhoeff
import IdentityCrates.Aamva.Data
import IdentityCrates.Aamva.Parser
import IdentityCrates.Aamva.Properties.EncodeParse
import IdentityCrates.Aamva.Properties.HeaderDigits
import IdentityCrates.Chrono.ParseFromStr
import IdentityCrates.Dmrtd.Auth.Active
import IdentityCrates.Dmrtd.Auth.CrateSuite
import IdentityCrates.Dmrtd.Auth.Der
import IdentityCrates.Dmrtd.Auth.Ecdsa
import IdentityCrates.Dmrtd.Auth.Passive
import IdentityCrates.Dmrtd.Auth.Rsa
import IdentityCrates.Dmrtd.Auth.SignatureSuite
import IdentityCrates.Dmrtd.Crypto.AaPubkey
import IdentityCrates.Dmrtd.Crypto.Aes
import IdentityCrates.Dmrtd.Crypto.Des
import IdentityCrates.Dmrtd.Crypto.DiffieHellman
import IdentityCrates.Dmrtd.Crypto.Iso9797
import IdentityCrates.Dmrtd.Crypto.Kdf
import IdentityCrates.Dmrtd.Crypto.Primitives
import IdentityCrates.Dmrtd.Extension.DateString
import IdentityCrates.Dmrtd.Lds.Df1
import IdentityCrates.Dmrtd.Lds.Ef
import IdentityCrates.Dmrtd.Lds.EfCardAccess
import IdentityCrates.Dmrtd.Lds.EfDg11
import IdentityCrates.Dmrtd.Lds.EfDg2
import IdentityCrates.Dmrtd.Lds.Mrz
import IdentityCrates.Dmrtd.Lds.MrzFormats
import IdentityCrates.Dmrtd.Lds.ObjectIdentifiers
import IdentityCrates.Dmrtd.Lds.PaceInfo
import IdentityCrates.Dmrtd.Lds.Tlv
import IdentityCrates.Dmrtd.Lds.TlvSet
import IdentityCrates.Dmrtd.Lds.TlvSlices
import IdentityCrates.Dmrtd.Passport
import IdentityCrates.Dmrtd.Properties.BacCompleteness
import IdentityCrates.Dmrtd.Properties.BacContract
import IdentityCrates.Dmrtd.Properties.BacKey
import IdentityCrates.Dmrtd.Properties.CardAccessSelection
import IdentityCrates.Dmrtd.Properties.CardReading
import IdentityCrates.Dmrtd.Properties.CenturyResolution
import IdentityCrates.Dmrtd.Properties.ChannelAgreement
import IdentityCrates.Dmrtd.Properties.ChannelTransparency
import IdentityCrates.Dmrtd.Properties.ClosedCard
import IdentityCrates.Dmrtd.Properties.Codecs
import IdentityCrates.Dmrtd.Properties.CounterFreshness
import IdentityCrates.Dmrtd.Properties.DerStrictness
import IdentityCrates.Dmrtd.Properties.DfCache
import IdentityCrates.Dmrtd.Properties.DhAgreement
import IdentityCrates.Dmrtd.Properties.DhPrivateKeys
import IdentityCrates.Dmrtd.Properties.DhSeed
import IdentityCrates.Dmrtd.Properties.DigitErrors
import IdentityCrates.Dmrtd.Properties.EcdhAgreement
import IdentityCrates.Dmrtd.Properties.EcdsaVerification
import IdentityCrates.Dmrtd.Properties.ExtendedRead
import IdentityCrates.Dmrtd.Properties.FaceImage
import IdentityCrates.Dmrtd.Properties.FaultSurfacing
import IdentityCrates.Dmrtd.Properties.FileReading
import IdentityCrates.Dmrtd.Properties.HandshakeSteps
import IdentityCrates.Dmrtd.Properties.HonestCard
import IdentityCrates.Dmrtd.Properties.JudgedAnswers
import IdentityCrates.Dmrtd.Properties.LockStep
import IdentityCrates.Dmrtd.Properties.LongDocumentNumber
import IdentityCrates.Dmrtd.Properties.MessageRecovery
import IdentityCrates.Dmrtd.Properties.MethodSimulation
import IdentityCrates.Dmrtd.Properties.OptionalData
import IdentityCrates.Dmrtd.Properties.PaceCompleteness
import IdentityCrates.Dmrtd.Properties.PaceContract
import IdentityCrates.Dmrtd.Properties.PaceCourse
import IdentityCrates.Dmrtd.Properties.PaceEngineFrame
import IdentityCrates.Dmrtd.Properties.PaceReflection
import IdentityCrates.Dmrtd.Properties.PassiveSoundness
import IdentityCrates.Dmrtd.Properties.PasswordBinding
import IdentityCrates.Dmrtd.Properties.ProtectedLength
import IdentityCrates.Dmrtd.Properties.PssVerification
import IdentityCrates.Dmrtd.Properties.ReadySession
import IdentityCrates.Dmrtd.Properties.Refusals
import IdentityCrates.Dmrtd.Properties.ResponseAuthenticity
import IdentityCrates.Dmrtd.Properties.SignatureEncoding
import IdentityCrates.Dmrtd.Properties.SignerChoice
import IdentityCrates.Dmrtd.Properties.SodConformance
import IdentityCrates.Dmrtd.Properties.SodLayout
import IdentityCrates.Dmrtd.Properties.TlvProgress
import IdentityCrates.Dmrtd.Proto.AccessKey
import IdentityCrates.Dmrtd.Proto.Bac
import IdentityCrates.Dmrtd.Proto.BacChip
import IdentityCrates.Dmrtd.Proto.BacSession
import IdentityCrates.Dmrtd.Proto.Card
import IdentityCrates.Dmrtd.Proto.CardFiles
import IdentityCrates.Dmrtd.Proto.Chip
import IdentityCrates.Dmrtd.Proto.Conversation
import IdentityCrates.Dmrtd.Proto.DhOrders
import IdentityCrates.Dmrtd.Proto.DhPace
import IdentityCrates.Dmrtd.Proto.DomainParameter
import IdentityCrates.Dmrtd.Proto.EcdhPace
import IdentityCrates.Dmrtd.Proto.Iso7816
import IdentityCrates.Dmrtd.Proto.MrtdApi
import IdentityCrates.Dmrtd.Proto.MrtdApiSession
import IdentityCrates.Dmrtd.Proto.MrtdSm
import IdentityCrates.Dmrtd.Proto.Pace
import IdentityCrates.Dmrtd.Proto.PaceChip
import IdentityCrates.Dmrtd.Proto.PaceSession
import IdentityCrates.Dmrtd.Proto.PublicKeyPace
import IdentityCrates.Dmrtd.Proto.Sm
import IdentityCrates.Dmrtd.Proto.SmCiphers
import IdentityCrates.Dmrtd.Proto.Ssc
import IdentityCrates.Dmrtd.Utils
import IdentityCrates.Icao.Mrz
import IdentityCrates.IncometaxPanQr.Parser
import IdentityCrates.IncometaxPanQr.Properties.BitStream
import IdentityCrates.IncometaxPanQr.Properties.PanGrammar
import IdentityCrates.IncometaxPanQr.Properties.PersonalData
import IdentityCrates.IncometaxPanQr.Properties.Reserialisation
import IdentityCrates.IncometaxPanQr.Structs
import IdentityCrates.IncometaxPanQr.Unpacker
import IdentityCrates.IncometaxPanQr.Values
import IdentityCrates.Lib.BTreeMap
import IdentityCrates.Lib.BitStream
import IdentityCrates.Lib.BlockCipher
import IdentityCrates.Lib.Cbor
import IdentityCrates.Lib.CheckDigits
import IdentityCrates.Lib.CurveGroup
import IdentityCrates.Lib.Dialogue
import IdentityCrates.Lib.DoubleAndAdd
import IdentityCrates.Lib.EmsaPss
import IdentityCrates.Lib.Faults
import IdentityCrates.Lib.Future
import IdentityCrates.Lib.Journal
import IdentityCrates.Lib.Json.Characters
import IdentityCrates.Lib.Json.Complete
import IdentityCrates.Lib.Json.Grammar
import IdentityCrates.Lib.Json.Parser
import IdentityCrates.Lib.Json.Write
import IdentityCrates.Lib.Loop
import IdentityCrates.Lib.Machine
import IdentityCrates.Lib.ModPow
import IdentityCrates.Lib.Octets
import IdentityCrates.Lib.Outcome
import IdentityCrates.Lib.Reader
import IdentityCrates.Lib.Related
import IdentityCrates.Lib.ShortWeierstrass
import IdentityCrates.Lib.Simulation
import IdentityCrates.Lib.Slice
import IdentityCrates.Lib.Text
import IdentityCrates.Lib.Uppercase
import IdentityCrates.Lib.Utf8
import IdentityCrates.Lib.Xml.Canonical
import IdentityCrates.Lib.Xml.Editing
import IdentityCrates.Lib.Xml.Enveloped
import IdentityCrates.Lib.Xml.Tree
import IdentityCrates.Lib.Xml.Unique
import IdentityCrates.MdlVerify.Device
import IdentityCrates.MdlVerify.Error
import IdentityCrates.MdlVerify.Isomdl
import IdentityCrates.MdlVerify.Issuer
import IdentityCrates.MdlVerify.Properties.Disclosure
import IdentityCrates.MdlVerify.Properties.IssuerSoundness
import IdentityCrates.MdlVerify.Properties.Presentation
import IdentityCrates.MdlVerify.Properties.SignerKeys
import IdentityCrates.MdlVerify.Properties.TranscriptBinding
import IdentityCrates.MdlVerify.Properties.ValueConversion
import IdentityCrates.MdlVerify.Time
import IdentityCrates.MdlVerify.Transcript
import IdentityCrates.MdlVerify.Value
import IdentityCrates.Mobile.Bridge
import IdentityCrates.Mobile.Ffi
import IdentityCrates.Mobile.Identity
import IdentityCrates.Mobile.Mdl
import IdentityCrates.Mobile.NearbyCard
import IdentityCrates.Mobile.Passport
import IdentityCrates.Mobile.Properties.Accusations
import IdentityCrates.Mobile.Properties.AgeAnswers
import IdentityCrates.Mobile.Properties.BridgeDelivery
import IdentityCrates.Mobile.Properties.CloneVerdict
import IdentityCrates.Mobile.Properties.FfiJson
import IdentityCrates.Mobile.Properties.HolderBinding
import IdentityCrates.Mobile.Properties.HonestRead
import IdentityCrates.Mobile.Properties.LostTag
import IdentityCrates.Mobile.Properties.MdlEntryPoints
import IdentityCrates.Mobile.Properties.TrustVerdicts
import IdentityCrates.Mobile.Recorded
import IdentityCrates.MrzParser.CountryPatterns
import IdentityCrates.MrzParser.Fields
import IdentityCrates.MrzParser.Misreading
import IdentityCrates.MrzParser.Parser
import IdentityCrates.MrzParser.Properties.Agreement
import IdentityCrates.MrzParser.Properties.CompositeString
import IdentityCrates.MrzParser.Properties.LongNumberZone
import IdentityCrates.MrzParser.Properties.NoPanic
import IdentityCrates.MrzParser.Properties.OcrRobustness
import IdentityCrates.MrzParser.Td1
import IdentityCrates.MrzParser.Td2
import IdentityCrates.MrzParser.Td3
