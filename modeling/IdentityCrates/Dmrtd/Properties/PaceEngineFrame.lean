import IdentityCrates.Dmrtd.Properties.PaceContract

/-!
# What a call does to the engine of a PACE session

`next` and `feed_response` change the state of a session at almost every call, and its engine at two
points only: when `next` draws the main key pair, and when the chip's mapping key is accepted.  Every
other call, and every call that is turned down for what the chip sent, leaves the engine as it was.

These two lemmas carry the statements about what a session agrees on through runs of arbitrary calls
(`engine_run`).
-/

namespace Dmrtd

open Rust Octets

namespace PaceSession

variable {P : Primitives} {κ : Type} [AccessKey κ]

/-- `next` leaves the engine alone, or draws its main pair. -/
lemma engine_next (self : PaceSession P κ) :
    (next self).2.engine = self.engine ∨
      ∃ drawn, self.engine.generateMainKeyPair self.entropy = .ok drawn ∧
        (next self).2.engine = drawn.1 := by
  have hrequested := requested self
  generalize next self = after at hrequested ⊢
  obtain ⟨result, session⟩ := after
  cases hrequested with
  | sendsMapping hstate hdrawn hcmd => exact .inr ⟨_, hdrawn, rfl⟩
  | drewAndFailed hstate hdrawn hresult => exact .inr ⟨_, hdrawn, rfl⟩
  | selects => exact .inl rfl
  | asksNonce => exact .inl rfl
  | sendsKey => exact .inl rfl
  | sendsToken => exact .inl rfl
  | handsOver => exact .inl rfl
  | failed => exact .inl rfl
  | idle => exact .inl rfl

/-- A response leaves the engine alone, or the session is waiting for the chip's mapping key and the
engine maps the nonce with it. -/
lemma engine_feedResponse (self : PaceSession P κ) (response : Bytes) :
    (feedResponse response self).2.engine = self.engine ∨
      ∃ nonce body drawn, self.state = .waitingForStep2 nonce ∧
        self.handleStep2 nonce body = .ok drawn ∧
        feedResponse response self =
          (.ok (), { self with engine := drawn.1, entropy := drawn.2, state := .readyForStep3 }) := by
  by_cases hsuccess : ∀ body, ResponseApdu.fromBytes response ≠ .ok ⟨StatusWord.success, body⟩
  · obtain ⟨result, -, hfeed⟩ := feedResponse_of_unsuccessful self hsuccess
    rw [hfeed]
    exact .inl rfl
  obtain ⟨body, hbody⟩ := not_forall.mp hsuccess
  rw [feedResponse_of_success self (not_not.mp hbody)]
  have hconsumed := consumed self body
  generalize consumeBody body self = after at hconsumed ⊢
  obtain ⟨result, session⟩ := after
  cases hconsumed with
  | mapped hstate hdrawn => exact .inr ⟨_, body, _, hstate, hdrawn, rfl⟩
  | _ => exact .inl rfl

/-- What the two ways of drawing keys keep of an engine holds of it after any calls. -/
lemma engine_run {Keeps : PaceEngine P → Prop}
    (hmain : ∀ {engine : PaceEngine P} {entropy : Entropy} {drawn : PaceEngine P × Entropy},
      Keeps engine → engine.generateMainKeyPair entropy = .ok drawn → Keeps drawn.1)
    (hmapped : ∀ {engine : PaceEngine P} {pub : PublicKeyPace} {nonce : Bytes} {entropy : Entropy}
      {drawn : PaceEngine P × Entropy},
      Keeps engine → engine.mapAndGenerateEphemeral pub nonce entropy = .ok drawn → Keeps drawn.1)
    {session : PaceSession P κ} (h : Keeps session.engine) (calls : List (Dialogue.Call Bytes)) :
    Keeps (Machine.final step session calls).engine := by
  have hstep : ∀ (call : Dialogue.Call Bytes) (self : PaceSession P κ),
      Keeps self.engine → Keeps (step call self).2.engine := by
    intro call self hself
    cases call with
    | next =>
      rw [step_next]
      rcases engine_next self with hsame | ⟨drawn, hdrawn, hnext⟩
      · rw [hsame]
        exact hself
      · rw [hnext]
        exact hmain hself hdrawn
    | feed response =>
      rw [step_feed]
      rcases engine_feedResponse self response with hsame | ⟨nonce, body, drawn, -, hdrawn, hnext⟩
      · rw [hsame]
        exact hself
      · rw [hnext]
        obtain ⟨pub, -, hmap⟩ := Outcome.bind_eq_ok.mp hdrawn
        exact hmapped hself hmap
  exact Machine.final_invariant step hstep h calls

end PaceSession

end Dmrtd
