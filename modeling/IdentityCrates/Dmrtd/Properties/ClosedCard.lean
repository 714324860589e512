import IdentityCrates.Dmrtd.Properties.CardReading
import IdentityCrates.Dmrtd.Properties.MethodSimulation

/-!
# A card before the session

Before a session is open, a card with files looks like a card without access control that has nothing
but EF.CardAccess (`CardContents.public`): the reading methods return the same over both (`Shut`).
So the probe for EF.CardAccess gives the file as it is stored, and selecting the eMRTD application
succeeds.
-/

namespace Dmrtd

open Rust Octets

/-- The handshake has no use for the commands of the reading methods. -/
def CardHandshake.Ignores {η : Type} [CardHandshake η] (handshake : η) : Prop :=
  ∀ wire : CommandApdu.Wire,
    wire.ins ∈ [Ins.selectFile, Ins.readBinary, Ins.readBinaryExt, Ins.internalAuthenticate] →
    CardHandshake.answer wire handshake = none

namespace CardFiles

/-- No command changes what is stored. -/
lemma serve_contents (self : CardFiles) (wire : CommandApdu.Wire) :
    (self.serve wire).2.contents = self.contents := by
  unfold serve
  split
  · rename_i p1 p2 _
    repeat' split
    · unfold select
      repeat' split
      all_goals rfl
    · unfold readBinary
      repeat' split
      all_goals rfl
    · unfold readBinaryExt
      split
      · dsimp only
        split <;> rfl
      · rfl
    · rfl
    · rfl
  · rfl

/-- Serving a command without access and then looking at the card without access. -/
lemma shut_serveClosed (self : CardFiles) (wire : CommandApdu.Wire) :
    (self.serveClosed wire).2.shut = (self.shut.serve wire).2 := by
  have hcontents : (self.shut.serve wire).2.contents = self.contents.public :=
    self.shut.serve_contents wire
  unfold serveClosed
  generalize self.shut.serve wire = served at hcontents ⊢
  obtain ⟨answer, contents, df, current⟩ := served
  obtain rfl : contents = self.contents.public := hcontents
  rfl

lemma contents_serveClosed (self : CardFiles) (wire : CommandApdu.Wire) :
    (self.serveClosed wire).2.contents = self.contents := rfl

end CardFiles

variable {η : Type} [CardHandshake η] {handshake : η}

/-- A card outside a session, and a card that has only what is open to everybody and no access
control. -/
def Shut (handshake : η) (contents : CardContents) (api : MrtdApi (OpenCard CardFiles))
    (api' : MrtdApi (Card η CardFiles)) : Prop :=
  ∃ card : CardFiles, api = MrtdApi.new ⟨card.shut⟩ ∧ api' = MrtdApi.new ⟨handshake, none, card⟩ ∧
    card.contents = contents

/-- A command of the reading methods does the same over both. -/
lemma MrtdApi.transceiveCmd_shut (hhandshake : CardHandshake.Ignores handshake)
    {contents : CardContents} {cmd : CommandApdu} (hcmd : cmd.Carried) :
    Proc.Simulates (Shut handshake contents) (transceiveCmd cmd) (transceiveCmd cmd) := by
  rintro _ _ ⟨card, rfl, rfl, rfl⟩
  have hanswer : CardHandshake.answer cmd.wire handshake = none := hhandshake _ hcmd.ins
  rw [new, new, transceiveCmd_openCard hcmd.inLimits, transceiveCmd_closed hcmd.inLimits hanswer]
  refine ⟨rfl, card.serveClosed cmd.wire |>.2, ?_, rfl, card.contents_serveClosed cmd.wire⟩
  rw [card.shut_serveClosed]
  rfl

namespace Passport

/-- A passport without a session over a card with these contents, and with a right note of what is
selected. -/
def Closed (handshake : η) (contents : CardContents) (p : Passport (Card η CardFiles)) : Prop :=
  ∃ card : CardFiles, p.api = MrtdApi.new ⟨handshake, none, card⟩ ∧ card.contents = contents ∧
    (p.df ≠ .none → card.df = p.df)

variable {contents : CardContents} {p : Passport (Card η CardFiles)}

omit [CardHandshake η] in
/-- The same card without its access control, as far as it is open to everybody. -/
lemma Closed.exists_open (h : Closed handshake contents p) :
    ∃ p₀ : Passport (OpenCard CardFiles), Reads contents.public p₀ ∧
      Over (Shut handshake contents) p₀ p := by
  obtain ⟨card, hapi, rfl, hdf⟩ := h
  exact ⟨⟨MrtdApi.new ⟨card.shut⟩, p.df⟩, ⟨card.shut, rfl, rfl, hdf⟩, rfl, card, rfl, hapi, rfl⟩

omit [CardHandshake η] in
lemma closed_of_open {p₀ : Passport (OpenCard CardFiles)} (h₀ : Reads contents.public p₀)
    (h : Over (Shut handshake contents) p₀ p) : Closed handshake contents p := by
  obtain ⟨card₀, hapi₀, -, hdf₀⟩ := h₀
  obtain ⟨hdf, card, hopen, hapi, hcontents⟩ := h
  refine ⟨card, hapi, hcontents, fun hne => ?_⟩
  have hcard : card₀ = card.shut := by
    have happ := congrArg (fun api => api.transceiver.app) (hapi₀.symm.trans hopen)
    exact happ
  rw [← hdf] at hne ⊢
  rw [← hdf₀ hne, hcard]
  rfl

variable (hhandshake : CardHandshake.Ignores handshake)

include hhandshake

/-- EF.CardAccess is read as it is stored. -/
lemma Closed.readEfCardAccess (h : Closed handshake contents p) {ρ : Type}
    (parse : Bytes → Outcome EfParseError ρ) :
    (Passport.readEfCardAccess parse p).1 = contents.read .mf efCardAccessSfi parse ∧
      Closed handshake contents (Passport.readEfCardAccess parse p).2 := by
  obtain ⟨p₀, hreads, hover⟩ := h.exists_open
  obtain ⟨hout, hover'⟩ := readEfCardAccess_simulates
    (fun _ hcmd => MrtdApi.transceiveCmd_shut hhandshake hcmd) parse p₀ p hover
  obtain ⟨hvalue, hreads'⟩ := readMf_returns efCardAccessSfi parse p₀ hreads
  have hpublic : contents.public.read .mf efCardAccessSfi parse =
      contents.read .mf efCardAccessSfi parse := by
    rw [CardContents.read, CardContents.read, CardContents.object, CardContents.object]
    rfl
  exact ⟨hout.symm.trans (hvalue.trans hpublic), closed_of_open hreads' hover'⟩

/-- The application is selected. -/
lemma Closed.selectDf1 (h : Closed handshake contents p) :
    ∃ card : CardFiles,
      Passport.selectDf1 p = (.ok (), ⟨MrtdApi.new ⟨handshake, none, card⟩, .df1⟩) ∧
      card.contents = contents ∧ card.df = .df1 := by
  obtain ⟨p₀, hreads, hover⟩ := h.exists_open
  have hsame := selectDf1_simulates
    (fun _ hcmd => MrtdApi.transceiveCmd_shut hhandshake hcmd) p₀ p hover
  obtain ⟨card₀, hselect, -, hdf₀⟩ := selectDf1_reads hreads
  rw [hselect] at hsame
  generalize Passport.selectDf1 p = selected at hsame ⊢
  obtain ⟨out, api, df⟩ := selected
  obtain ⟨rfl, rfl, card, hopen, rfl, hcontents⟩ := hsame
  have hcard : card₀ = card.shut := congrArg (fun api => api.transceiver.app) hopen
  refine ⟨card, rfl, hcontents, ?_⟩
  rw [← hdf₀, hcard]
  rfl

end Passport

end Dmrtd
