import IdentityCrates.Dmrtd.Properties.CardAccessSelection
import IdentityCrates.Dmrtd.Properties.HonestCard
import IdentityCrates.Mobile.Properties.HolderBinding
import IdentityCrates.Mobile.NearbyCard

/-!
# An honest card is read as it is stored

`read_passport` on an honest card returns what the files on the card and the challenge determine
(`storedRead`), and neither the probe, the handshake nor secure messaging shows in it.  With BAC this
holds for every card whose chip holds the key that is printed on the document, whatever the two sides
draw; with PACE for every protocol over a curve.

The channel of the platform adds a flag to the transport, and a platform adds the generator.  Neither
does anything to a method of the driver (`InField`), so the results about a card alone hold for the
driver of the phone (`Nearby`).
-/

namespace IdentityMobile

open Rust Octets Text
open Dmrtd

variable {η : Type} [CardHandshake η] {drawn : Except String (FixedBytes 8)}

/-- A card, and the channel of a read with this card before it, whose transport has not failed. -/
def InField (drawn : Except String (FixedBytes 8)) (card : Card η CardFiles)
    (channel : Channel (NearbyCard η)) : Prop :=
  channel = ⟨⟨card, drawn⟩, false⟩

lemma inField_transceive (η : Type) [CardHandshake η] (drawn : Except String (FixedBytes 8))
    (bytes : Bytes) : Proc.Simulates (@InField η drawn) (Transceiver.transceive bytes)
      (Transceiver.transceive bytes) := by
  rintro card _ rfl
  exact ⟨rfl, rfl⟩

/-- The driver of a read, where that over the card alone has `I`. -/
def Nearby (drawn : Except String (FixedBytes 8)) (I : Passport (Card η CardFiles) → Prop)
    (p : Passport (Channel (NearbyCard η))) : Prop :=
  ∃ p₀, Passport.Over (MrtdApi.Over (InField drawn)) p₀ p ∧ I p₀

section Nearby

variable {I : Passport (Card η CardFiles) → Prop}

omit [CardHandshake η] in
lemma Nearby.not_transportFailed {p : Passport (Channel (NearbyCard η))} (h : Nearby drawn I p) :
    ¬ p.api.transceiver.transportFailed = true := by
  obtain ⟨p₀, hover, -⟩ := h
  have hflag := congrArg Channel.transportFailed hover.api.transceiver
  exact Bool.not_eq_true _ ▸ hflag

omit [CardHandshake η] in
lemma Nearby.drawn_eq {p : Passport (Channel (NearbyCard η))} (h : Nearby drawn I p) :
    p.api.transceiver.inner.drawn = drawn := by
  obtain ⟨p₀, hover, -⟩ := h
  exact congrArg (fun channel => channel.inner.drawn) hover.api.transceiver

namespace Reading

variable {α : Type} {read : Proc (Passport (Channel (NearbyCard η))) PassportError α}
  {x : Outcome PassportError α}

omit [CardHandshake η] in
/-- The transport does not fail, so what a mandatory read says of a failure is that the chip
refused. -/
lemma mandatory_yields (h : Proc.Yields (Nearby drawn I) read x)
    (asLost asRefused : PassportError → IdentityError) :
    Proc.Yields (Nearby drawn I) (mandatory read asLost asRefused) (x.mapErr asRefused) := by
  intro p hp
  obtain ⟨hout, hstate⟩ := h p hp
  rw [mandatory_apply]
  generalize read p = result at hout hstate ⊢
  obtain ⟨out, p'⟩ := result
  obtain rfl : out = x := hout
  cases out with
  | ok a => exact ⟨rfl, hstate⟩
  | err e => exact ⟨congrArg Outcome.err (if_neg hstate.not_transportFailed), hstate⟩
  | panic => exact ⟨rfl, hstate⟩

omit [CardHandshake η] in
lemma optional_yields (h : Proc.Yields (Nearby drawn I) read x) (asLost : IdentityError) :
    Proc.Yields (Nearby drawn I) (optional read asLost) (whenRead x) := by
  intro p hp
  obtain ⟨hout, hstate⟩ := h p hp
  rw [optional_apply]
  generalize read p = result at hout hstate ⊢
  obtain ⟨out, p'⟩ := result
  obtain rfl : out = x := hout
  cases out with
  | ok a => exact ⟨rfl, hstate⟩
  | err e => exact ⟨if_neg hstate.not_transportFailed, hstate⟩
  | panic => exact ⟨rfl, hstate⟩

omit [CardHandshake η] in
/-- The flag of the transport is down already. -/
lemma clearFailure_yields :
    Proc.Yields (Nearby drawn I) (clearFailure : Reading (NearbyCard η) Unit) (.ok ()) := by
  rintro p ⟨p₀, ⟨hdf, hchannel, hsm⟩, h₀⟩
  refine ⟨rfl, p₀, ⟨hdf, ?_, hsm⟩, h₀⟩
  rw [InField] at hchannel ⊢
  exact congrArg (fun channel => { channel with transportFailed := false }) hchannel

omit [CardHandshake η] in
lemma clearFailure_bind {m : Reading (NearbyCard η) α} {y : Outcome IdentityError α}
    (h : Proc.Yields (Nearby drawn I) m y) :
    Proc.Yields (Nearby drawn I) (clearFailure >>= fun _ => m) y :=
  fun p hp => h _ (clearFailure_yields p hp).2

omit [CardHandshake η] in
lemma bind_clearFailure {m : Reading (NearbyCard η) α} {y : Outcome IdentityError α}
    (h : Proc.Yields (Nearby drawn I) m y) :
    Proc.Yields (Nearby drawn I) (m >>= fun a => clearFailure >>= fun _ => pure a) y := by
  intro p hp
  obtain ⟨hout, hstate⟩ := h p hp
  rw [Proc.bind_apply]
  generalize m p = result at hout hstate ⊢
  obtain ⟨out, p'⟩ := result
  obtain rfl : out = y := hout
  cases out with
  | ok a => exact ⟨rfl, (clearFailure_yields p' hstate).2⟩
  | err e => exact ⟨rfl, hstate⟩
  | panic => exact ⟨rfl, hstate⟩

end Reading

omit [CardHandshake η] in
lemma drawChallenge_yields :
    Proc.Yields (Nearby drawn I) (drawChallenge : Reading (NearbyCard η) (FixedBytes 8))
      (drawnChallenge drawn) := by
  intro p hp
  refine ⟨?_, hp⟩
  rw [← hp.drawn_eq]
  rfl

end Nearby

variable (E : Environment) {contents : CardContents} (options : PassportOptions)

/-! ## In a session -/

/-- The driver of a read with a session over a card with these contents. -/
abbrev Ready (η : Type) (cipher : SmCipher) (bitSize : Nat) (contents : CardContents)
    (drawn : Except String (FixedBytes 8)) : Passport (Channel (NearbyCard η)) → Prop :=
  Nearby drawn (Passport.InSession cipher bitSize contents)

section Ready

variable {cipher : SmCipher} {bitSize : Nat} (law : cipher.Lawful bitSize)

include law

lemma readDf1_ready {ρ : Type} (file : Df1File) (parse : Bytes → Outcome EfParseError ρ) :
    Proc.Yields (Ready η cipher bitSize contents drawn) (Passport.readDf1 file parse)
      (contents.read .df1 file.sfi parse) :=
  (Passport.readDf1_simulates
    (fun cmd _ => MrtdApi.transceiveCmd_over (inField_transceive η drawn) cmd) file parse).yields
    (Passport.inSession_readDf1 law contents file parse)

lemma activeAuthenticate_ready (challenge : Bytes) :
    Proc.Yields (Ready η cipher bitSize contents drawn) (Passport.activeAuthenticate challenge)
      ((contents.response challenge).mapErr PassportError.fromApi) :=
  (Passport.activeAuthenticate_simulates
    (fun cmd _ => MrtdApi.transceiveCmd_over (inField_transceive η drawn) cmd) challenge).yields
    (Passport.inSession_activeAuthenticate law contents challenge)

lemma readDg1_ready :
    Proc.Yields (Ready η cipher bitSize contents drawn) (readDg1 E) (storedDg1 E contents) :=
  Reading.clearFailure_bind (Reading.mandatory_yields (readDf1_ready law _ _) _ _)

lemma readAsked_ready {ρ : Type} (asked : Bool) (file : Df1File)
    (parse : Bytes → Outcome EfParseError ρ) (lost : IdentityError) :
    Proc.Yields (Ready η cipher bitSize contents drawn) (readAsked asked file parse lost)
      (storedAsked contents asked file parse) :=
  Proc.yields_ite
    (fun _ => Reading.clearFailure_bind (Reading.optional_yields (readDf1_ready law _ _) _))
    fun _ => Proc.yields_lift _

lemma readSod_ready :
    Proc.Yields (Ready η cipher bitSize contents drawn) readSod (storedSod contents) :=
  Reading.clearFailure_bind (Reading.mandatory_yields (readDf1_ready law _ _) _ _)

lemma activeAuthentication_ready (dg15File : Option EfDG15) :
    Proc.Yields (Ready η cipher bitSize contents drawn) (activeAuthentication E options dg15File)
      (answeredChallenge E contents options drawn dg15File) := by
  unfold activeAuthentication answeredChallenge
  cases options.activeAuthentication with
  | false => exact Proc.yields_lift _
  | true =>
    cases dg15File with
    | none => exact Proc.yields_lift _
    | some dg15File =>
      refine Reading.clearFailure_bind (drawChallenge_yields.bind fun challenge => ?_)
      refine (Reading.optional_yields (activeAuthenticate_ready law _) _).bind fun response => ?_
      cases response with
      | none => exact Proc.yields_lift _
      | some response => exact Proc.yields_lift _

/-- The files are read as they are stored. -/
lemma readFiles_ready : Proc.Yields (Ready η cipher bitSize contents drawn) (readFiles E options)
    (storedFiles E contents options drawn) :=
  (readDg1_ready E law).bind fun _ => (readAsked_ready law _ _ _ _).bind fun _ =>
    (readAsked_ready law _ _ _ _).bind fun dg15File => (readSod_ready law).bind fun _ =>
      (activeAuthentication_ready E options law dg15File).bind fun _ => Proc.yields_lift _

/-- What is left of a read once a session is up. -/
lemma readRest_ready (anchors : List Bytes) :
    Proc.Yields (Ready η cipher bitSize contents drawn)
      (do
        let (files, activeAuthentication) ← readFiles E options
        let identity ← Proc.lift (verifyFiles E files anchors activeAuthentication)
        return { identity, files := if options.retainFiles then some files else none })
      (storedRead E contents options drawn anchors) :=
  (readFiles_ready E options law).bind fun _ =>
    (Proc.yields_lift _).bind fun _ => Proc.yields_lift _

end Ready

/-! ## From the probe on -/

section Probe

variable {handshake : η} (hhandshake : CardHandshake.Ignores handshake)

include hhandshake

lemma probe_closed : Proc.Yields (Nearby drawn (Passport.Closed handshake contents)) (probe E)
    (whenRead (storedAccess E contents)) := by
  have hread : Proc.Yields (Passport.Closed handshake contents)
      (Passport.readEfCardAccess (EfCardAccess.fromBytes E.asn1)) (storedAccess E contents) :=
    fun p hp => hp.readEfCardAccess hhandshake _
  exact Reading.bind_clearFailure (Reading.optional_yields ((Passport.readEfCardAccess_simulates
    (fun cmd _ => MrtdApi.transceiveCmd_over (inField_transceive η drawn) cmd) _).yields hread) _)

end Probe

/-- The probe finds EF.CardAccess if it is stored and parses. -/
lemma whenRead_storedAccess :
    whenRead (storedAccess E contents) = .ok (storedAccess E contents).toOption := by
  have hobject : contents.object .mf efCardAccessSfi ≠ .panic := by
    unfold CardContents.object
    split
    · exact Outcome.ite_ne_panic nofun nofun
    · exact nofun
  have hne : storedAccess E contents ≠ .panic :=
    Outcome.bind_ne_panic (Outcome.mapErr_ne_panic hobject) fun _ _ =>
      Outcome.mapErr_ne_panic (EfCardAccess.fromBytes_ne_panic _ _)
  rcases haccess : storedAccess E contents with access | e | _
  · rfl
  · rfl
  · exact absurd haccess hne

omit [CardHandshake η] in
/-- A handshake that opens a session with a card opens it with the card before the phone. -/
lemma session_opens {handshake : η} {bitSize : Nat}
    {start : Proc (Passport (Card η CardFiles)) PassportError Unit}
    {start' : Proc (Passport (Channel (NearbyCard η))) PassportError Unit}
    (hover : Proc.Simulates (Passport.Over (MrtdApi.Over (InField drawn))) start start')
    (hopen : ∀ p, Passport.Closed handshake contents p →
      ∃ p' cipher, start p = (.ok (), p') ∧ p'.InSession cipher bitSize contents ∧
        cipher.Lawful bitSize)
    {p : Passport (Channel (NearbyCard η))} (h : Nearby drawn (Passport.Closed handshake contents) p) :
    ∃ p' cipher, start' p = (.ok (), p') ∧ Ready η cipher bitSize contents drawn p' ∧
      cipher.Lawful bitSize := by
  obtain ⟨p₀, hp, hclosed⟩ := h
  obtain ⟨p₁, cipher, hstart, hsession, law⟩ := hopen p₀ hclosed
  obtain ⟨hout, hp'⟩ := hover p₀ p hp
  rw [hstart] at hout hp'
  exact ⟨(start' p).2, cipher, Prod.ext hout.symm rfl, ⟨p₁, hp', hsession⟩, law⟩

lemma establish_ok {σ : Type} [ApduChannel σ] {p p' : Passport (Channel σ)}
    {session : Proc (Passport (Channel σ)) PassportError Unit} (h : session p = (.ok (), p')) :
    establish session p = (.ok (), p') := by
  rw [establish, Reading.mandatory_apply, h]

/-- A read of a card with which a session is opened. -/
lemma readPassport_of_opens {handshake : η} (hhandshake : CardHandshake.Ignores handshake)
    (card : CardFiles) {key : MrzKey} (bitSize : Nat)
    (hopen : ∀ p, Nearby drawn (Passport.Closed handshake card.contents) p →
      ∃ p' cipher, openSession E key options.session (storedAccess E card.contents).toOption p =
          (.ok (), p') ∧
        Ready η cipher bitSize card.contents drawn p' ∧ cipher.Lawful bitSize)
    (anchors : List Bytes) :
    (readPassport E key anchors options
      (newPassport (NearbyCard.mk (Card.mk handshake none card) drawn))).1 =
      storedRead E card.contents options drawn anchors := by
  have hclosed : Nearby drawn (Passport.Closed handshake card.contents)
      (newPassport (NearbyCard.mk (Card.mk handshake none card) drawn)) :=
    ⟨Passport.new (Card.mk handshake none card), ⟨rfl, rfl, rfl⟩, Passport.new_closed card⟩
  obtain ⟨hprobe, hclosed'⟩ := probe_closed E hhandshake _ hclosed
  rw [whenRead_storedAccess] at hprobe
  obtain ⟨p', cipher, hsession, hready, law⟩ := hopen _ hclosed'
  rw [readPassport, Proc.bind_apply_ok (Prod.ext hprobe rfl), Proc.bind_apply_ok hsession]
  exact (readRest_ready E options law anchors p' hready).1

/-- **An honest card, read over BAC.**  Take any card whose chip holds the key that is printed on the
document, whatever is stored on it and whatever the two sides draw.  Where the caller asks for BAC, or
leaves the choice open and the card has no EF.CardAccess that parses, `read_passport` returns what the
stored files and the challenge determine. -/
theorem readPassport_bac {chip : BacChip E.primitives} (hchip : 24 ≤ chip.entropy.length)
    {key : MrzKey} (hkey : dba key false = .ok chip.key) (card : CardFiles)
    (hsession : options.session = .bac ∨
      options.session = .auto ∧ ∀ access, storedAccess E card.contents ≠ .ok access)
    (drawn : Except String (FixedBytes 8)) (anchors : List Bytes) :
    (readPassport E key anchors options (newPassport (NearbyCard.mk (Card.mk chip none card) drawn))).1 =
      storedRead E card.contents options drawn anchors := by
  refine readPassport_of_opens E options chip.ignores card 64 (fun p hp => ?_) anchors
  have hentropy : 24 ≤ (E.rndIfd.val ++ E.kifd.val).length := by
    rw [List.length_append, E.rndIfd.property, E.kifd.property]
  obtain ⟨p', cipher, hstart, hready, law⟩ := session_opens
    (Passport.startSession_over (inField_transceive _ drawn) E.primitives chip.key _)
    (fun _ hclosed => hclosed.startSession hentropy hchip) hp
  refine ⟨p', cipher, ?_, hready, law⟩
  have hbac : openBac E key p = (.ok (), p') := by
    rw [openBac, hkey, Proc.lift_ok_bind_apply]
    exact establish_ok hstart
  rcases hsession with hsession | ⟨hsession, haccess⟩
  · rw [hsession]
    exact hbac
  · have hnone : (storedAccess E card.contents).toOption = none := by
      rw [Option.eq_none_iff_forall_ne_some]
      exact fun access h => haccess access (Outcome.toOption_eq_some.mp h)
    rw [hsession, hnone]
    exact hbac

/-! ### A document -/

lemma cardAccess_object :
    Tlv.decodeTagAndLength EfCardAccess.sampleFile = .ok ⟨⟨0x31, 1⟩, ⟨0x2E, 1⟩, 2⟩ ∧
      2 + 0x2E = EfCardAccess.sampleFile.length := by decide

lemma sampleDg1_object : Tlv.decodeTagAndLength Passive.sampleDg1 = .ok ⟨⟨0x61, 1⟩, ⟨91, 1⟩, 2⟩ ∧
    2 + 91 = Passive.sampleDg1.length := by decide +kernel

lemma sampleDg15_object :
    Tlv.decodeTagAndLength Passive.sampleDg15 = .ok ⟨⟨0x6F, 1⟩, ⟨91, 1⟩, 2⟩ ∧
      2 + 91 = Passive.sampleDg15.length := by decide +kernel

lemma sampleSod_object :
    Tlv.decodeTagAndLength (Passive.sampleSod Passive.plainAttributes Passive.plainSignature) =
        .ok ⟨⟨0x77, 1⟩, ⟨665, 3⟩, 4⟩ ∧
      4 + 665 = (Passive.sampleSod Passive.plainAttributes Passive.plainSignature).length := by
  decide +kernel

/-- The files of the document of `sampleSod`, and EF.CardAccess with PACE on P-256. -/
def documentFile (df : SelectedDf) (sfi : UInt8) : Option ElementaryFile :=
  if df = .mf then
    if sfi = 0x1C then
      some (.ofObject EfCardAccess.sampleFile ⟨⟨0x31, 1⟩, ⟨0x2E, 1⟩, 2⟩ cardAccess_object)
    else none
  else if sfi = 0x01 then
    some (.ofObject Passive.sampleDg1 ⟨⟨0x61, 1⟩, ⟨91, 1⟩, 2⟩ sampleDg1_object)
  else if sfi = 0x0F then
    some (.ofObject Passive.sampleDg15 ⟨⟨0x6F, 1⟩, ⟨91, 1⟩, 2⟩ sampleDg15_object)
  else if sfi = 0x1D then
    some (.ofObject (Passive.sampleSod Passive.plainAttributes Passive.plainSignature)
      ⟨⟨0x77, 1⟩, ⟨665, 3⟩, 4⟩ sampleSod_object)
  else none

lemma documentChunk_ge : 8 ≤ 0x100 := by decide

lemma documentChunk_le : 0x100 ≤ 0x8000 := by decide

/-- The document answers one challenge. -/
def documentSign (challenge : Bytes) : Option Bytes :=
  if challenge = sampleChallenge.val then some sampleAnswer else none

lemma length_documentSign (challenge response : Bytes) (h : documentSign challenge = some response) :
    response.length ≤ 65536 := by
  unfold documentSign at h
  split at h
  · obtain rfl := Option.some.inj h
    rw [sampleAnswer, length_toBE]
    decide
  · cases h

/-- What is stored on the document. -/
def documentContents : CardContents where
  file := documentFile
  chunk := 0x100
  le_chunk := documentChunk_ge
  chunk_le := documentChunk_le
  sign := documentSign
  length_sign := length_documentSign

/-- A phone with a reader of DER, and what it draws for PACE. -/
def documentEnvironment : Environment :=
  { sampleEnvironment with asn1 := EfCardAccess.derReader, paceEntropy := [0, 1] }

lemma documentNumber_valid : ∀ c ∈ sampleKey.documentNumber, isMrzChar c = true := by decide

/-- The key of the document, for BAC or for PACE. -/
def documentKey (pace : Bool) : DBAKey :=
  ⟨sampleKey.documentNumber, marchSecond, marchSecond, pace, documentNumber_valid⟩

/-- The document is read, and its holder bound. -/
lemma document_read (session : Session) :
    (storedRead documentEnvironment documentContents ⟨session, false, true, false⟩
      (.ok sampleChallenge) [Passive.signerCertificate]).isOkAnd
        (fun read => decide (read.identity.authenticity.holderBound = some true)) = true := by
  have hread : (storedRead documentEnvironment documentContents sampleOptions
      (.ok sampleChallenge) [Passive.signerCertificate]).isOkAnd
        (fun read => decide (read.identity.authenticity.holderBound = some true)) = true := by
    decide +kernel
  exact hread

/-- The chip of the document, for BAC. -/
def documentChip : BacChip documentEnvironment.primitives :=
  ⟨documentKey false, List.replicate 24 0x42, none⟩

theorem readPassport_bac_document :
    (readPassport documentEnvironment sampleKey [Passive.signerCertificate] sampleOptions
      (newPassport (NearbyCard.mk (Card.mk documentChip none ⟨documentContents, .none, none⟩)
        (.ok sampleChallenge)))).1.isOkAnd
        (fun read => decide (read.identity.authenticity.holderBound = some true)) = true := by
  rw [readPassport_bac documentEnvironment sampleOptions
    (show 24 ≤ documentChip.entropy.length by decide)
    (show dba sampleKey false = .ok documentChip.key from rfl)
    ⟨documentContents, .none, none⟩ (.inl rfl) (.ok sampleChallenge) [Passive.signerCertificate]]
  exact document_read .bac

/-- **An honest card, read over PACE.**  Take any card with an EF.CardAccess that parses and names a
protocol over a curve, whose chip holds the key that is printed on the document, whatever else is
stored on it and whatever the two sides draw.  Unless the caller asks for BAC, `read_passport` returns
what the stored files and the challenge determine. -/
theorem readPassport_pace {keys : DBAKey} {key : MrzKey} (hkey : dba key true = .ok keys)
    (card : CardFiles) {access : EfCardAccess} (haccess : storedAccess E card.contents = .ok access)
    {info : PaceInfo} (hinfo : access.paceInfo = some info) (hprotocol : info.protocol.OverCurve)
    {id : Nat} (hid : info.parameterId = some (id : Int)) {c : NamedCurve}
    (hcurve : NamedCurve.ofId id = some c) (engine : EcdhEngine E.primitives c)
    (step : PaceChipStep) {entropy' : Entropy}
    (draws : PaceDraws E.primitives c E.paceEntropy entropy') (hsession : options.session ≠ .bac)
    (drawn : Except String (FixedBytes 8)) (anchors : List Bytes) :
    (readPassport E key anchors options (newPassport (NearbyCard.mk (Card.mk
      (PaceChip.onCurve keys info.protocol id engine entropy' step) none card) drawn))).1 =
      storedRead E card.contents options drawn anchors := by
  refine readPassport_of_opens E options (PaceChip.ignores _) card 128 (fun p hp => ?_) anchors
  obtain ⟨p', cipher, hstart, hready, law⟩ := session_opens
    (Passport.startSessionPace_over (inField_transceive _ drawn) E.primitives keys access
      E.paceEntropy)
    (fun _ hclosed => hclosed.startSessionPace keys hinfo hprotocol hid hcurve engine step draws) hp
  refine ⟨p', cipher, ?_, hready, law⟩
  have hpace : startPace E keys access p = (.ok (), p') := hstart
  rw [haccess, Outcome.toOption_ok]
  cases hoption : options.session with
  | bac => exact absurd hoption hsession
  | pace =>
    rw [openSession, hkey, Proc.lift_ok_bind_apply]
    exact establish_ok hpace
  | auto =>
    rw [openSession, hkey, Proc.lift_ok_bind_apply, Proc.bind_apply, Proc.attempt, hpace]
    rfl

/-- The chip of the document, for PACE. -/
def documentPaceChip : PaceChip documentEnvironment.primitives DBAKey :=
  .onCurve (documentKey true) EfCardAccess.sampleInfo.protocol 12
    (EcdhEngine.new : EcdhEngine _ .nistP256) (List.replicate 16 0 ++ [1, 2]) .idle

theorem readPassport_pace_document :
    (readPassport documentEnvironment sampleKey [Passive.signerCertificate]
      ⟨.auto, false, true, false⟩
      (newPassport (NearbyCard.mk (Card.mk documentPaceChip none ⟨documentContents, .none, none⟩)
        (.ok sampleChallenge)))).1.isOkAnd
        (fun read => decide (read.identity.authenticity.holderBound = some true)) = true := by
  have haccess : storedAccess documentEnvironment documentContents =
      .ok ⟨EfCardAccess.sampleFile, some EfCardAccess.sampleInfo⟩ := by decide +kernel
  have hover : EfCardAccess.sampleInfo.protocol.OverCurve := ⟨rfl, rfl, rfl, by decide⟩
  rw [documentPaceChip, readPassport_pace documentEnvironment ⟨.auto, false, true, false⟩
    (show dba sampleKey true = .ok (documentKey true) from rfl)
    ⟨documentContents, .none, none⟩ haccess rfl hover
    (show EfCardAccess.sampleInfo.parameterId = some ((12 : Nat) : Int) from rfl)
    (show NamedCurve.ofId 12 = some .nistP256 from rfl) EcdhEngine.new .idle sampleDraws
    (by decide) (.ok sampleChallenge) [Passive.signerCertificate]]
  exact document_read .auto

end IdentityMobile
