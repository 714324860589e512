import IdentityCrates.Dmrtd.Proto.CardFiles
import IdentityCrates.Dmrtd.Properties.LockStep
import IdentityCrates.Dmrtd.Properties.MethodSimulation

/-!
# Secure messaging does not show

Reading a passport over a session and reading it over a plain channel go through the same methods of
`MrtdApi` and `Passport`.  What a session adds should not be seen from there: over a card whose chip
is in step with the terminal, every method returns what it returns over the same card with no access
control at all, and leaves the applications as it would have left them.

`Tunnels` relates the two situations.  What there is to compare are the single commands
(`transceiveCmd_simulates`); the methods above them are the same over both.
-/

namespace Dmrtd

open Rust Octets

variable {η σ : Type} [CardHandshake η] [CardApplication σ]

/-- The same applications, once behind an open card, once behind a session whose two ends are in
step. -/
structure Tunnels (cipher : SmCipher) (bitSize : Nat) (api : MrtdApi (OpenCard σ))
    (api' : MrtdApi (Card η σ)) : Prop where
  plain : api.sm = none
  session : ∃ sm chip, api'.sm = some sm ∧ api'.transceiver.session = some chip ∧
    Exchange.InStep cipher bitSize (sm, chip)
  app : api.transceiver.app = api'.transceiver.app

namespace MrtdApi

/-- Whatever an application answers fits a data object. -/
lemma fitsDo_serve (cipher : SmCipher) (wire : CommandApdu.Wire) (app : σ) :
    Chip.FitsDo cipher (CardApplication.serve wire app).1.2 := by
  have hlen := CardApplication.length_serve wire app
  have hbs : cipher.cipherAlgorithm.blockSize ≤ 16 := by
    cases cipher.cipherAlgorithm <;> decide
  unfold Chip.FitsDo
  omega

/-- Over a session in step a command is served as an open card serves it, and both ends have counted
the command and the answer. -/
lemma transceiveCmd_card {cipher : SmCipher} {ssc : Ssc} (law : cipher.Lawful ssc.bitSize)
    {cmd : CommandApdu} (hcmd : cmd.Carried) (handshake : η) (app : σ) :
    transceiveCmd cmd (MrtdApi.mk (Card.mk handshake (some ⟨cipher, ssc⟩) app)
      (some ⟨cipher, ssc⟩)) =
      (judge (CardApplication.serve cmd.wire app).1,
        ⟨⟨handshake, some ⟨cipher, ssc.increment.increment⟩,
          (CardApplication.serve cmd.wire app).2⟩, some ⟨cipher, ssc.increment.increment⟩⟩) := by
  obtain ⟨hlim, hroom, hcla, -⟩ := hcmd
  obtain ⟨wire, hwire, hreceived⟩ := MrtdSM.protectBody_accepted ssc.increment law hlim
    (MrtdSM.fitsWire_of_length law hroom)
  have hplain : Chip.plainHeader cmd.rawHeader = cmd.rawHeader := by
    rw [CommandApdu.rawHeader, Chip.plainHeader, MrtdSM.cla_and_plain _ hcla]
  rw [hplain] at hreceived
  generalize hserve : CardApplication.serve cmd.wire app = served
  have hfits := fitsDo_serve cipher cmd.wire app
  rw [hserve] at hfits
  obtain ⟨⟨sw, data⟩, app'⟩ := served
  obtain ⟨body, hwrap, hbody, hopen⟩ := Chip.wrap_accepted ssc.increment.increment law
    (decide (cmd.wire.ins &&& 1 = 1)) sw hfits
  -- the command on its way to the chip
  have hprotect : withSm (MrtdSM.protect cmd) cmd
      (MrtdApi.mk (Card.mk handshake (some ⟨cipher, ssc⟩) app) (some ⟨cipher, ssc⟩)) =
      (.ok wire, ⟨⟨handshake, some ⟨cipher, ssc⟩, app⟩, some ⟨cipher, ssc.increment⟩⟩) :=
    withSm_eq_ok.mpr ⟨hwire, rfl⟩
  have hreceive : (Chip.mk cipher ssc).receive wire.toBytes =
      (some cmd.wire, ⟨cipher, ssc.increment⟩) := Prod.ext hreceived rfl
  have hrespond : (Chip.mk cipher ssc.increment).respond (decide (cmd.wire.ins &&& 1 = 1)) sw data =
      (some (body ++ sw.toBytes), ⟨cipher, ssc.increment.increment⟩) := Prod.ext hwrap rfl
  have hsend : onTransceiver (Transceiver.transceive wire.toBytes)
      (MrtdApi.mk (Card.mk handshake (some ⟨cipher, ssc⟩) app) (some ⟨cipher, ssc.increment⟩)) =
      (.ok (body ++ sw.toBytes), ⟨⟨handshake, some ⟨cipher, ssc.increment.increment⟩, app'⟩,
        some ⟨cipher, ssc.increment⟩⟩) := by
    simp only [onTransceiver, Transceiver.transceive, Card.answer, Card.answerOpen, hreceive, hserve,
      hrespond]
    rfl
  -- the answer on its way back
  have hparse := ResponseApdu.fromBytes_append body sw
  rw [if_neg hbody] at hparse
  have hunprotect : withSm (MrtdSM.unprotect ⟨sw, some body⟩) ⟨sw, some body⟩
      (MrtdApi.mk (Card.mk handshake (some ⟨cipher, ssc.increment.increment⟩) app')
        (some ⟨cipher, ssc.increment⟩)) =
      (.ok ⟨sw, if data = [] then none else some data⟩,
        ⟨⟨handshake, some ⟨cipher, ssc.increment.increment⟩, app'⟩,
          some ⟨cipher, ssc.increment.increment⟩⟩) := by
    have hhas : MrtdSM.hasBody ⟨sw, some body⟩ = true := MrtdSM.hasBody_iff.mpr ⟨body, rfl, hbody⟩
    rw [withSm_some, MrtdSM.unprotect_apply_body hhas]
    exact Prod.ext (Outcome.mapErr_eq_ok.mpr hopen) rfl
  rw [transceiveCmd, Proc.bind_apply_ok hprotect, Proc.bind_apply_ok hsend, hparse,
    Outcome.mapErr_ok, Proc.lift_ok_bind_apply, Proc.bind_apply_ok hunprotect, judge]
  by_cases hstatus : sw = StatusWord.success
  · rw [if_neg (not_not.mpr hstatus), if_neg (not_not.mpr hstatus)]
    rfl
  · rw [if_pos hstatus, if_pos hstatus]
    rfl

variable {cipher : SmCipher} {bitSize : Nat} (law : cipher.Lawful bitSize)

include law

/-- A command that the session carries does the same either way. -/
lemma transceiveCmd_simulates {cmd : CommandApdu} (hcmd : cmd.Carried) :
    Proc.Simulates (Tunnels (η := η) (σ := σ) cipher bitSize) (transceiveCmd cmd)
      (transceiveCmd cmd) := by
  rintro ⟨⟨app⟩, _⟩ ⟨⟨handshake, session, app'⟩, sm'⟩
    ⟨rfl, ⟨⟨c, ssc⟩, ⟨c', ssc'⟩, hsm, hsession, hstep⟩, happ⟩
  obtain ⟨h1, h2, h3, h4⟩ := hstep
  simp only at h1 h2 h3 h4 hsm hsession happ
  subst h1 h2 h3 h4 hsm hsession happ
  rw [transceiveCmd_openCard hcmd.inLimits, transceiveCmd_card law hcmd]
  exact ⟨rfl, rfl, ⟨_, _, rfl, rfl, rfl, rfl, rfl, rfl⟩, rfl⟩

end MrtdApi

/-- The two situations, with the same note of what is selected. -/
abbrev Passport.Tunnels (cipher : SmCipher) (bitSize : Nat) :
    Passport (OpenCard σ) → Passport (Card η σ) → Prop :=
  Passport.Over (Dmrtd.Tunnels cipher bitSize)

/-- **Transparency of secure messaging.**  Take any applications behind a card, once with no access
control, once behind a session under any lawful cipher whose two ends are in step.  Whatever a caller
reads, in any order and any number of times, every call returns the same over both; and afterwards
the applications are in the same state, and the session still in step. -/
theorem secureMessaging_transparent {ρ : Type} {cipher : SmCipher} {bitSize : Nat}
    (law : cipher.Lawful bitSize) {p : Passport (OpenCard σ)} {p' : Passport (Card η σ)}
    (h : Passport.Tunnels cipher bitSize p p') (calls : List (PassportCall ρ)) :
    Machine.trace PassportCall.run p' calls = Machine.trace PassportCall.run p calls ∧
      Passport.Tunnels cipher bitSize (Machine.final PassportCall.run p calls)
        (Machine.final PassportCall.run p' calls) := by
  have hstep : ∀ (call : PassportCall ρ) (p : Passport (OpenCard σ)) (p' : Passport (Card η σ)),
      Passport.Tunnels cipher bitSize p p' → (call.run p).1 = (call.run p').1 ∧
        Passport.Tunnels cipher bitSize (call.run p).2 (call.run p').2 :=
    fun call p p' hp => PassportCall.run_simulates
      (fun _ hcmd => MrtdApi.transceiveCmd_simulates law hcmd) call p p' hp
  obtain ⟨htrace, hfinal⟩ := Machine.trace_eq_of_simulation hstep h calls
  exact ⟨htrace.symm, hfinal⟩

/-- A data group of twelve bytes, and one byte behind it. -/
def sampleFile : ElementaryFile where
  bytes := [0x61, 0x0A, 0, 1, 2, 3, 4, 5, 6, 7, 8, 9, 0xFF]
  header := ⟨⟨0x61, 1⟩, ⟨10, 1⟩, 2⟩
  decodes := by decide
  whole := by decide

lemma le_sampleChunk : 8 ≤ 8 := le_rfl

lemma sampleChunk_le : 8 ≤ 0x8000 := by decide

lemma length_of_none (_challenge : Bytes) (response : Bytes)
    (h : (none : Option Bytes) = some response) : response.length ≤ 65536 := by cases h

/-- A card with one file, EF.DG1, that sends eight bytes at a time and does not sign. -/
def sampleContents : CardContents where
  file df sfi := if df = .df1 ∧ sfi = 0x01 then some sampleFile else none
  chunk := 8
  le_chunk := le_sampleChunk
  chunk_le := sampleChunk_le
  sign _ := none
  length_sign := length_of_none

/-- A card without a handshake. -/
inductive NoHandshake where
  | none

instance : CardHandshake NoHandshake where
  answer _ _ := none

/-- Over a session a file of two chunks is read, and one that there is not. -/
theorem secureMessaging_transparent_sample :
    (Machine.trace PassportCall.run (Passport.mk (MrtdApi.mk (Card.mk NoHandshake.none
        (some ⟨SmCipher.plain, Ssc.zero64⟩) (CardFiles.mk sampleContents .none none))
        (some ⟨SmCipher.plain, Ssc.zero64⟩)) .none)
      [PassportCall.readDf1 (.dg 0) (Outcome.ok : Bytes → _), .readDf1 (.dg 1) .ok]).map Prod.snd =
      [.ok (.contents [0x61, 0x0A, 0, 1, 2, 3, 4, 5, 6, 7, 8, 9]),
        .err (.fromApi (.chipStatus CardFiles.fileNotFound))] := by
  have htunnels : Passport.Tunnels SmCipher.plain 64
      (Passport.new (OpenCard.mk (CardFiles.mk sampleContents .none none)))
      (Passport.mk (MrtdApi.mk (Card.mk NoHandshake.none (some ⟨SmCipher.plain, Ssc.zero64⟩)
        (CardFiles.mk sampleContents .none none)) (some ⟨SmCipher.plain, Ssc.zero64⟩)) .none) :=
    ⟨rfl, rfl, ⟨_, _, rfl, rfl, rfl, rfl, rfl, rfl⟩, rfl⟩
  rw [(secureMessaging_transparent (SmCipher.plain_lawful 64) htunnels _).1]
  decide +kernel

end Dmrtd
