import IdentityCrates.Dmrtd.Properties.BacCompleteness
import IdentityCrates.Dmrtd.Properties.ChannelTransparency
import IdentityCrates.Dmrtd.Properties.ClosedCard
import IdentityCrates.Dmrtd.Properties.PaceCompleteness

/-!
# Reading an honest card, from the handshake to the last file

The parts are put together: a handshake with a card that knows the access key leaves a session whose
two ends are in step, a session does not show in what the methods of `Passport` return, and over an
open card they return what the contents of the card determine.

So with the right key, and whatever the two sides draw, a session is established, and then every
sequence of reads gives what is stored on the card.
-/

namespace Dmrtd

open Rust Octets

variable {η : Type} [CardHandshake η] {ρ : Type}

namespace Passport

/-- A passport with a session whose two ends are in step, over a card with these contents, and with a
right note of what is selected. -/
structure InSession (cipher : SmCipher) (bitSize : Nat) (contents : CardContents)
    (p : Passport (Card η CardFiles)) : Prop where
  session : ∃ sm chip, p.api.sm = some sm ∧ p.api.transceiver.session = some chip ∧
    Exchange.InStep cipher bitSize (sm, chip)
  contents_eq : p.api.transceiver.app.contents = contents
  df : p.df ≠ .none → p.api.transceiver.app.df = p.df

omit [CardHandshake η] in
/-- The same card without its access control. -/
lemma InSession.exists_open {cipher : SmCipher} {bitSize : Nat} {contents : CardContents}
    {p : Passport (Card η CardFiles)} (h : InSession cipher bitSize contents p) :
    ∃ p₀ : Passport (OpenCard CardFiles), Reads contents p₀ ∧ Tunnels cipher bitSize p₀ p := by
  obtain ⟨hsession, hcontents, hdf⟩ := h
  exact ⟨⟨MrtdApi.new ⟨p.api.transceiver.app⟩, p.df⟩, ⟨_, rfl, hcontents, hdf⟩, rfl,
    ⟨rfl, hsession, rfl⟩⟩

omit [CardHandshake η] in
lemma inSession_of_open {cipher : SmCipher} {bitSize : Nat} {contents : CardContents}
    {p₀ : Passport (OpenCard CardFiles)} {p : Passport (Card η CardFiles)} (h₀ : Reads contents p₀)
    (h : Tunnels cipher bitSize p₀ p) : InSession cipher bitSize contents p := by
  obtain ⟨card, hapi, hcontents, hdf⟩ := h₀
  obtain ⟨hdf', -, hsession, happ⟩ := h
  rw [hapi] at happ
  rw [hdf'] at hdf
  exact ⟨hsession, by rw [← happ, ← hcontents]; rfl, fun hne => by rw [← happ, ← hdf hne]; rfl⟩

omit [CardHandshake η] in
/-- A method returns in a session what it returns over the open card. -/
lemma inSession_yields {cipher : SmCipher} {bitSize : Nat} {contents : CardContents} {α : Type}
    {m₀ : Proc (Passport (OpenCard CardFiles)) PassportError α}
    {m : Proc (Passport (Card η CardFiles)) PassportError α} {x : Outcome PassportError α}
    (h : Proc.Simulates (Tunnels cipher bitSize) m₀ m) (h₀ : Returns contents m₀ x) :
    Proc.Yields (InSession cipher bitSize contents) m x := by
  intro p hp
  obtain ⟨p₀, hreads, htunnel⟩ := hp.exists_open
  obtain ⟨hvalue, p₀', htunnel', hreads'⟩ := h.yields h₀ p ⟨p₀, htunnel, hreads⟩
  exact ⟨hvalue, inSession_of_open hreads' htunnel'⟩

section Session

variable {cipher : SmCipher} {bitSize : Nat} (law : cipher.Lawful bitSize) (contents : CardContents)

include law

lemma inSession_readDf1 (file : Df1File) (parse : Bytes → Outcome EfParseError ρ) :
    Proc.Yields (InSession (η := η) cipher bitSize contents) (readDf1 file parse)
      (contents.read .df1 file.sfi parse) :=
  inSession_yields
    (readDf1_simulates (fun _ hcmd => MrtdApi.transceiveCmd_simulates law hcmd) file parse)
    (readDf1_returns file parse)

lemma inSession_activeAuthenticate (challenge : Bytes) :
    Proc.Yields (InSession (η := η) cipher bitSize contents) (activeAuthenticate challenge)
      ((contents.response challenge).mapErr PassportError.fromApi) :=
  inSession_yields
    (activeAuthenticate_simulates (fun _ hcmd => MrtdApi.transceiveCmd_simulates law hcmd) challenge)
    (activeAuthenticate_returns challenge)

/-- A call in a session returns what the contents of the card determine, and the session goes on. -/
lemma inSession_call (call : PassportCall ρ) :
    Proc.Yields (InSession (η := η) cipher bitSize contents) call.run (call.expected contents) :=
  inSession_yields
    (call.run_simulates fun _ hcmd => MrtdApi.transceiveCmd_simulates law hcmd)
    (PassportCall.run_returns contents call)

end Session

/-- So does every sequence of calls. -/
lemma InSession.calls {cipher : SmCipher} {bitSize : Nat} (law : cipher.Lawful bitSize)
    {contents : CardContents} {p : Passport (Card η CardFiles)}
    (h : InSession cipher bitSize contents p) (calls : List (PassportCall ρ)) :
    Machine.trace PassportCall.run p calls = calls.map (fun call => (call, call.expected contents)) ∧
      InSession cipher bitSize contents (Machine.final PassportCall.run p calls) :=
  Machine.trace_eq_map _ _ (fun call p hp (_ : True) => inSession_call law contents call p hp) h
    calls fun _ _ => trivial

/-! ## From the handshake on -/

omit [CardHandshake η] in
lemma new_closed {handshake : η} (card : CardFiles) :
    Closed handshake card.contents (Passport.new (Card.mk handshake none card)) :=
  ⟨card, rfl, rfl, fun h => absurd rfl h⟩

end Passport

lemma BacChip.ignores {P : Primitives} (chip : BacChip P) : CardHandshake.Ignores chip := by
  intro wire hins
  have hchallenge : wire.ins ≠ Ins.getChallenge := fun heq => absurd (heq ▸ hins) (by decide)
  have hauth : wire.ins ≠ Ins.externalAuthenticate := fun heq => absurd (heq ▸ hins) (by decide)
  rw [CardHandshake.answer]
  exact (if_neg hchallenge).trans (if_neg hauth)

lemma PaceChip.ignores {P : Primitives} {κ : Type} [AccessKey κ] (chip : PaceChip P κ) :
    CardHandshake.Ignores chip := by
  intro wire hins
  have hmse : wire.ins ≠ Ins.manageSecurityEnvironment := fun heq => absurd (heq ▸ hins) (by decide)
  have hauth : wire.ins ≠ Ins.generalAuthenticate := fun heq => absurd (heq ▸ hins) (by decide)
  rw [CardHandshake.answer]
  exact (if_neg hmse).trans (if_neg hauth)

/-- BAC opens a session with a chip that has the same key. -/
lemma Passport.Closed.startSession {P : Primitives} {entropy : Entropy}
    (hentropy : 24 ≤ entropy.length) {chip : BacChip P} (hchip : 24 ≤ chip.entropy.length)
    {contents : CardContents} {p : Passport (Card (BacChip P) CardFiles)}
    (h : Closed chip contents p) :
    ∃ p' cipher, Passport.startSession P chip.key entropy p = (.ok (), p') ∧
      p'.InSession cipher 64 contents ∧ cipher.Lawful 64 := by
  obtain ⟨card, hselect, hcontents, hdf⟩ := h.selectDf1 chip.ignores
  obtain ⟨cipher, ssc, hinit, hwidth, law⟩ := MrtdApi.initSessionViaBac_card hentropy hchip card none
  let p' : Passport (Card (BacChip P) CardFiles) :=
    ⟨⟨⟨⟨chip.key, chip.entropy.drop 24, none⟩, some ⟨cipher, ssc⟩, card⟩, some ⟨cipher, ssc⟩⟩, .df1⟩
  have hestablished : onApi (MrtdApi.initSessionViaBac P chip.key entropy)
      (Passport.mk (MrtdApi.new (Card.mk chip none card)) .df1) = (.ok (), p') := by
    rw [onApi, MrtdApi.new, hinit]
    rfl
  refine ⟨p', cipher, ?_, ⟨⟨_, _, rfl, rfl, rfl, rfl, rfl, hwidth⟩, hcontents, fun _ => hdf⟩, law⟩
  rw [Passport.startSession, Proc.bind_apply_ok hselect, hestablished]

/-- PACE opens a session with a chip that has the same password. -/
lemma Passport.Closed.startSessionPace {P : Primitives} {κ : Type} [AccessKey κ] [LawfulAccessKey κ]
    (key : κ) {efCardAccess : EfCardAccess} {info : PaceInfo}
    (hinfo : efCardAccess.paceInfo = some info) (hprotocol : info.protocol.OverCurve) {id : Nat}
    (hid : info.parameterId = some (id : Int)) {c : NamedCurve}
    (hcurve : NamedCurve.ofId id = some c) (engine : EcdhEngine P c) (step : PaceChipStep)
    {entropy entropy' : Entropy} (draws : PaceDraws P c entropy entropy') {contents : CardContents}
    {p : Passport (Card (PaceChip P κ) CardFiles)}
    (h : Closed (PaceChip.onCurve key info.protocol id engine entropy' step) contents p) :
    ∃ p' cipher, Passport.startSessionPace P key efCardAccess entropy p = (.ok (), p') ∧
      p'.InSession cipher 128 contents ∧ cipher.Lawful 128 := by
  obtain ⟨card, hapi, hcontents, -⟩ := h
  obtain ⟨cipher, ssc, chip, hinit, hwidth, law⟩ := MrtdApi.initSessionViaPace_card key hinfo
    hprotocol hid hcurve engine step draws card none
  let p' : Passport (Card (PaceChip P κ) CardFiles) :=
    ⟨⟨⟨chip, some ⟨cipher, ssc⟩, card⟩, some ⟨cipher, ssc⟩⟩, .none⟩
  have hestablished : onApi (MrtdApi.initSessionViaPace P key efCardAccess entropy) p =
      (.ok (), ⟨p'.api, p.df⟩) := by
    rw [onApi, hapi, MrtdApi.new, hinit]
    rfl
  refine ⟨p', cipher, ?_, ⟨⟨_, _, rfl, rfl, rfl, rfl, rfl, hwidth⟩, hcontents,
    fun hne => absurd rfl hne⟩, law⟩
  rw [Passport.startSessionPace, Proc.bind_apply_ok hestablished]
  rfl

/-- **An honest card over BAC.**  For every key, whatever the terminal and the chip draw, and
whatever is stored on the card: `start_session` succeeds, and afterwards every call of every sequence
of reads returns what the contents of the card determine, with the two ends of the session in step. -/
theorem bacSession_reads {P : Primitives} {entropy : Entropy} (hentropy : 24 ≤ entropy.length)
    {chip : BacChip P} (hchip : 24 ≤ chip.entropy.length) (card : CardFiles) :
    ∃ p cipher, Passport.startSession P chip.key entropy (Passport.new (Card.mk chip none card)) =
        (.ok (), p) ∧
      ∀ calls : List (PassportCall ρ),
        Machine.trace PassportCall.run p calls =
          calls.map (fun call => (call, call.expected card.contents)) ∧
        (Machine.final PassportCall.run p calls).InSession cipher 64 card.contents := by
  obtain ⟨p, cipher, hstart, hsession, law⟩ :=
    (Passport.new_closed card).startSession hentropy hchip
  exact ⟨p, cipher, hstart, fun calls => hsession.calls law calls⟩

lemma august_mem : 1 ≤ 8 ∧ 8 ≤ 12 := by decide

lemma sixth_mem_birth : 1 ≤ 6 ∧ 6 ≤ daysInMonth 1969 8 := by decide

lemma sixth_mem_expiry : 1 ≤ 6 ∧ 6 ≤ daysInMonth 1994 8 := by decide

lemma sampleNumber_valid : ∀ c ∈ "L898902C".toList, isMrzChar c = true := by decide

/-- The key of a document, and a chip that holds it. -/
def sampleChip : BacChip Primitives.transparent where
  key := ⟨"L898902C".toList, ⟨1969, 8, 6, august_mem, sixth_mem_birth⟩,
    ⟨1994, 8, 6, august_mem, sixth_mem_expiry⟩, false, sampleNumber_valid⟩
  entropy := List.replicate 24 0x42
  challenge := none

theorem bacSession_reads_sample :
    ∃ p, Passport.startSession Primitives.transparent sampleChip.key (List.replicate 24 0x17)
        (Passport.new (Card.mk sampleChip none (CardFiles.mk sampleContents .none none))) =
        (.ok (), p) ∧
      (Machine.trace PassportCall.run p sampleCalls).map Prod.snd = sampleAnswers := by
  obtain ⟨p, cipher, hstart, hcalls⟩ := bacSession_reads
    (show 24 ≤ (List.replicate 24 (0x17 : UInt8)).length by decide)
    (show 24 ≤ sampleChip.entropy.length by decide) (CardFiles.mk sampleContents .none none)
  refine ⟨p, hstart, ?_⟩
  rw [(hcalls sampleCalls).1, List.map_map]
  rfl

/-- **An honest card over PACE.**  For every password, every protocol over a curve and every curve,
whatever the terminal and the chip draw, and whatever is stored on the card: `start_session_pace`
succeeds, and afterwards every call of every sequence of reads returns what the contents of the card
determine, with the two ends of the session in step. -/
theorem paceSession_reads {P : Primitives} {κ : Type} [AccessKey κ] [LawfulAccessKey κ] (key : κ)
    {efCardAccess : EfCardAccess} {info : PaceInfo} (hinfo : efCardAccess.paceInfo = some info)
    (hprotocol : info.protocol.OverCurve) {id : Nat} (hid : info.parameterId = some (id : Int))
    {c : NamedCurve} (hcurve : NamedCurve.ofId id = some c) (engine : EcdhEngine P c)
    (step : PaceChipStep) {entropy entropy' : Entropy} (draws : PaceDraws P c entropy entropy')
    (card : CardFiles) :
    ∃ p cipher, Passport.startSessionPace P key efCardAccess entropy
        (Passport.new (Card.mk (PaceChip.onCurve key info.protocol id engine entropy' step) none card)) =
        (.ok (), p) ∧
      ∀ calls : List (PassportCall ρ),
        Machine.trace PassportCall.run p calls =
          calls.map (fun call => (call, call.expected card.contents)) ∧
        (Machine.final PassportCall.run p calls).InSession cipher 128 card.contents := by
  obtain ⟨p, cipher, hstart, hsession, law⟩ := (Passport.new_closed card).startSessionPace key hinfo
    hprotocol hid hcurve engine step draws
  exact ⟨p, cipher, hstart, fun calls => hsession.calls law calls⟩

/-- PACE over NIST P-256 with AES-128. -/
def sampleInfo : PaceInfo where
  protocol := ⟨⟨"0.4.0.127.0.7.2.2.4.2.2", "ID-PACE-ECDH-GM-AES-CBC-CMAC-128",
    [0, 4, 0, 127, 0, 7, 2, 2, 4, 2, 2]⟩, .aes, .s128, .ecdh, .gm⟩
  version := 2
  parameterId := some 12
  isPaceDomainParameterSupported := true

lemma one_lt_order : 1 < (Primitives.transparent.curve .nistP256).order := by decide

lemma two_lt_order : 2 < (Primitives.transparent.curve .nistP256).order := by decide

lemma three_lt_order : 3 < (Primitives.transparent.curve .nistP256).order := by decide

lemma sampleScalar_pos : 0 < 3 := by decide

lemma two_ne_three : 2 ≠ 3 := by decide

lemma length_zeros : (List.replicate 16 (0 : UInt8)).length = 16 := rfl

lemma sampleGenerator_ne_zero : EcdhEngine.mappedGenerator Primitives.transparent .nistP256
    (List.replicate 16 0) ⟨1, Nat.one_pos, one_lt_order⟩ ⟨2, Nat.two_pos, two_lt_order⟩ ≠ 0 := by
  have hzero : EcdhEngine.scalarFromBytes Primitives.transparent .nistP256 (List.replicate 16 0) =
      0 := rfl
  rw [EcdhEngine.mappedGenerator, hzero, zero_nsmul, zero_add]
  exact CurveGroup.nsmul_ne_zero _ (CurveGroup.generator_ne_zero _) (by decide) (by decide)

/-- The terminal draws the keys 1 and 2, the chip a nonce of zeros and the keys 2 and 3. -/
def sampleDraws : PaceDraws Primitives.transparent .nistP256 [0, 1]
    (List.replicate 16 0 ++ [1, 2]) where
  x := ⟨1, Nat.one_pos, one_lt_order⟩
  u := ⟨2, Nat.two_pos, two_lt_order⟩
  mid := [1]
  rest := []
  nonce := ⟨List.replicate 16 0, length_zeros⟩
  y := ⟨2, Nat.two_pos, two_lt_order⟩
  v := ⟨3, sampleScalar_pos, three_lt_order⟩
  mid' := [2]
  rest' := []
  draws_x := rfl
  draws_u := rfl
  draws_nonce := rfl
  draws_y := rfl
  draws_v := rfl
  generator_ne_zero := sampleGenerator_ne_zero
  distinct := two_ne_three

lemma length_sampleDigits :
    ([0x31, 0x32, 0x33, 0x34, 0x35, 0x36] : Bytes).length = 6 := rfl

/-- A card access number. -/
def sampleCan : CanKey := ⟨[0x31, 0x32, 0x33, 0x34, 0x35, 0x36], length_sampleDigits⟩

/-- The chip over the same curve. -/
def samplePaceChip : PaceChip Primitives.transparent CanKey :=
  .onCurve sampleCan sampleInfo.protocol 12 (EcdhEngine.new : EcdhEngine _ .nistP256)
    (List.replicate 16 0 ++ [1, 2]) .idle

theorem paceSession_reads_sample :
    ∃ p, Passport.startSessionPace Primitives.transparent sampleCan ⟨[], some sampleInfo⟩ [0, 1]
        (Passport.new (Card.mk samplePaceChip none (CardFiles.mk sampleContents .none none))) =
        (.ok (), p) ∧
      (Machine.trace PassportCall.run p sampleCalls).map Prod.snd = sampleAnswers := by
  have hover : sampleInfo.protocol.OverCurve := ⟨rfl, rfl, rfl, by decide⟩
  obtain ⟨p, cipher, hstart, hcalls⟩ := paceSession_reads sampleCan
    (show EfCardAccess.paceInfo ⟨[], some sampleInfo⟩ = some sampleInfo from rfl) hover
    (show sampleInfo.parameterId = some ((12 : Nat) : Int) from rfl)
    (show NamedCurve.ofId 12 = some .nistP256 from rfl) EcdhEngine.new .idle sampleDraws
    (CardFiles.mk sampleContents .none none)
  refine ⟨p, hstart, ?_⟩
  rw [(hcalls sampleCalls).1, List.map_map]
  rfl

end Dmrtd
