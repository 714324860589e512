import IdentityCrates.Lib.Machine
import IdentityCrates.Lib.Simulation

/-!
# Dialogues

A protocol party that owns no connection is driven by its caller in two ways: it is asked for its
next action, and it is fed the response to the last one.  Nothing forces the caller to take turns,
so a contract of such a party is about every sequence of the two calls.

This file makes the pair of methods a machine (`Dialogue.step`) and says what a run has emitted
(`Dialogue.emitted`), under a classification of the actions.

A caller that does own a connection takes turns: it sends what the party asks for and feeds back
what comes in, until the party is done.  `Party.drive` is that loop, for a party that every exchange
brings closer to its end.
-/

namespace Dialogue

open Rust

variable {σ ε α ρ κ : Type}

/-- The two calls, with responses in `ρ`. -/
inductive Call (ρ : Type) where
  | next
  | feed (response : ρ)

/-- What a call comes back with. -/
inductive Reply (ε α : Type) where
  | action (result : Outcome ε α)
  | fed (result : Outcome ε Unit)

namespace Reply

/-- Did the call succeed? -/
def isOk : Reply ε α → Bool
  | action result => result.isOk
  | fed result => result.isOk

/-- The call returned an error. -/
def IsErr : Reply ε α → Prop
  | action result => ∃ e, result = .err e
  | fed result => ∃ e, result = .err e

/-- The class of the action in a reply, if there is an action. -/
def emits (classify : α → κ) : Reply ε α → Option κ
  | action (.ok a) => some (classify a)
  | _ => none

lemma emits_of_failed {classify : α → κ} {reply : Reply ε α} (h : reply.isOk = false) :
    reply.emits classify = none := by
  rcases reply with (a | e | _) | result
  · simp [isOk] at h
  · rfl
  · rfl
  · rfl

lemma emits_fed {classify : α → κ} (result : Outcome ε Unit) :
    (Reply.fed result : Reply ε α).emits classify = none := rfl

lemma emits_action_ok {classify : α → κ} (a : α) :
    (Reply.action (.ok a) : Reply ε α).emits classify = some (classify a) := rfl

end Reply

/-- Serve one call. -/
def step (next : Proc σ ε α) (feed : ρ → Proc σ ε Unit) : Call ρ → σ → Reply ε α × σ
  | .next, s => (.action (next s).1, (next s).2)
  | .feed response, s => (.fed (feed response s).1, (feed response s).2)

/-- The classes of all actions emitted so far, in order. -/
def emitted (classify : α → κ) (past : List (Call ρ × Reply ε α)) : List κ :=
  past.filterMap fun p => p.2.emits classify

@[simp] lemma emitted_nil (classify : α → κ) :
    emitted classify ([] : List (Call ρ × Reply ε α)) = [] := rfl

lemma emitted_concat (classify : α → κ) (past : List (Call ρ × Reply ε α)) (call : Call ρ)
    (reply : Reply ε α) :
    emitted classify (past ++ [(call, reply)]) =
      emitted classify past ++ (reply.emits classify).toList := by
  rw [emitted, emitted, List.filterMap_append]
  cases h : reply.emits classify <;> simp [List.filterMap, h]

/-- A reply without an action adds nothing. -/
lemma emitted_concat_silent {classify : α → κ} {reply : Reply ε α}
    (h : reply.emits classify = none) (past : List (Call ρ × Reply ε α)) (call : Call ρ) :
    emitted classify (past ++ [(call, reply)]) = emitted classify past := by
  rw [emitted_concat, h, Option.toList_none, List.append_nil]

/-! ## Driving a party -/

/-- A party that asks for messages in `ω` to be sent, is fed responses in `ρ`, and in the end hands
over a `δ`; `rank` bounds the exchanges that it has left. -/
structure Party (σ ε ω ρ δ : Type) where
  next : Proc σ ε (ω ⊕ δ)
  feed : ρ → Proc σ ε Unit
  rank : σ → Nat
  rank_lt : ∀ s message s₁ response s₂, next s = (.ok (.inl message), s₁) →
    feed response s₁ = (.ok (), s₂) → rank s₂ < rank s

namespace Party

variable {τ ε' ω δ : Type}

/-- Exchange messages until the party is done or something fails. -/
def drive (party : Party σ ε ω ρ δ) (exchange : ω → Proc τ ε' ρ) (wrap : ε → ε') (s : σ) :
    Proc τ ε' δ := fun t =>
  match _ : party.next s with
  | (.ok (.inr d), _) => (.ok d, t)
  | (.ok (.inl message), s₁) =>
    match exchange message t with
    | (.ok response, t') =>
      match _ : party.feed response s₁ with
      | (.ok (), s₂) => drive party exchange wrap s₂ t'
      | (.err e, _) => (.err (wrap e), t')
      | (.panic, _) => (.panic, t')
    | (.err e, t') => (.err e, t')
    | (.panic, t') => (.panic, t')
  | (.err e, _) => (.err (wrap e), t)
  | (.panic, _) => (.panic, t)
termination_by party.rank s
decreasing_by exact party.rank_lt s message s₁ response s₂ ‹_› ‹_›

/-- A party that hands over what it has ends the loop. -/
lemma drive_done (party : Party σ ε ω ρ δ) {exchange : ω → Proc τ ε' ρ} {wrap : ε → ε'} {s s₁ : σ}
    {d : δ} (h : party.next s = (.ok (.inr d), s₁)) (t : τ) :
    party.drive exchange wrap s t = (.ok d, t) := by
  unfold drive
  split
  · rename_i d' s' h'
    obtain ⟨hd, -⟩ := Prod.mk.inj (h.symm.trans h')
    obtain rfl := Sum.inr.inj (Outcome.ok.inj hd)
    rfl
  all_goals
    rename_i h'
    exact absurd (congrArg Prod.fst (h.symm.trans h')) (by simp)

/-- An exchange that goes through takes the loop on. -/
lemma drive_exchange (party : Party σ ε ω ρ δ) {exchange : ω → Proc τ ε' ρ} {wrap : ε → ε'}
    {s s₁ s₂ : σ} {message : ω} {response : ρ} {t t' : τ}
    (hnext : party.next s = (.ok (.inl message), s₁)) (hsent : exchange message t = (.ok response, t'))
    (hfeed : party.feed response s₁ = (.ok (), s₂)) :
    party.drive exchange wrap s t = party.drive exchange wrap s₂ t' := by
  rw [drive]
  split
  · rename_i d' s' h'
    exact absurd (congrArg Prod.fst (hnext.symm.trans h')) (by simp)
  · rename_i message' s' h'
    obtain ⟨hmessage, rfl⟩ := Prod.mk.inj (hnext.symm.trans h')
    obtain rfl := Sum.inl.inj (Outcome.ok.inj hmessage)
    rw [hsent]
    dsimp only
    split
    · rename_i s' h'
      obtain ⟨-, rfl⟩ := Prod.mk.inj (hfeed.symm.trans h')
      rfl
    all_goals
      rename_i h'
      exact absurd (congrArg Prod.fst (hfeed.symm.trans h')) (by simp)
  all_goals
    rename_i h'
    exact absurd (congrArg Prod.fst (hnext.symm.trans h')) (by simp)

/-- What every exchange the party asks for does to the caller's state, the whole loop does. -/
lemma drive_preserves (party : Party σ ε ω ρ δ) {exchange : ω → Proc τ ε' ρ} {wrap : ε → ε'}
    {R : τ → τ → Prop} (hrefl : ∀ t, R t t)
    (htrans : ∀ ⦃t₁ t₂ t₃⦄, R t₁ t₂ → R t₂ t₃ → R t₁ t₃)
    (hexchange : ∀ s message s₁, party.next s = (.ok (.inl message), s₁) →
      (exchange message).Preserves R) (s : σ) :
    (party.drive exchange wrap s).Preserves R := by
  intro t
  induction hrank : party.rank s using Nat.strongRecOn generalizing s t with
  | _ n ih =>
    unfold drive
    split
    · exact hrefl t
    · rename_i message s₁ hnext
      have hsent := hexchange s message s₁ hnext t
      split
      · rename_i response t' hrec
        rw [hrec] at hsent
        split
        · rename_i s₂ hfeed
          have hlt := party.rank_lt s message s₁ response s₂ hnext hfeed
          exact htrans hsent (ih _ (hrank ▸ hlt) s₂ t' rfl)
        · exact hsent
        · exact hsent
      · rename_i hrec
        rwa [hrec] at hsent
      · rename_i hrec
        rwa [hrec] at hsent
    · exact hrefl t
    · exact hrefl t

/-- Over states in which every exchange comes out the same, the loop does. -/
lemma drive_simulates {τ' : Type} (party : Party σ ε ω ρ δ) {exchange : ω → Proc τ ε' ρ}
    {exchange' : ω → Proc τ' ε' ρ} {R : τ → τ' → Prop}
    (hexchange : ∀ message, Proc.Simulates R (exchange message) (exchange' message)) (wrap : ε → ε')
    (s : σ) : Proc.Simulates R (party.drive exchange wrap s) (party.drive exchange' wrap s) := by
  intro t t' h
  induction hrank : party.rank s using Nat.strongRecOn generalizing s t t' with
  | _ n ih =>
    unfold drive
    split
    · exact ⟨rfl, h⟩
    · rename_i message s₁ hnext
      obtain ⟨hout, hstate⟩ := hexchange message t t' h
      generalize exchange message t = first at hout hstate ⊢
      generalize exchange' message t' = first' at hout hstate ⊢
      obtain ⟨out, t₁⟩ := first
      obtain ⟨out', t₁'⟩ := first'
      obtain rfl : out = out' := hout
      cases out with
      | ok response =>
        dsimp only
        split
        · rename_i s₂ hfeed
          have hlt := party.rank_lt s message s₁ response s₂ hnext hfeed
          exact ih _ (hrank ▸ hlt) s₂ t₁ t₁' hstate rfl
        · exact ⟨rfl, hstate⟩
        · exact ⟨rfl, hstate⟩
      | err e => exact ⟨rfl, hstate⟩
      | panic => exact ⟨rfl, hstate⟩
    · exact ⟨rfl, h⟩
    · exact ⟨rfl, h⟩

/-- What a party hands over is right if its states are, from the first to the last. -/
lemma drive_of_invariant (party : Party σ ε ω ρ δ) {exchange : ω → Proc τ ε' ρ} {wrap : ε → ε'}
    (Inv : σ → Prop) {Right : δ → Prop}
    (hnext : ∀ s message s₁, Inv s → party.next s = (.ok (.inl message), s₁) → Inv s₁)
    (hfeed : ∀ s response s₁, Inv s → party.feed response s = (.ok (), s₁) → Inv s₁)
    (hdone : ∀ s d s₁, Inv s → party.next s = (.ok (.inr d), s₁) → Right d)
    {s : σ} (hs : Inv s) {t t' : τ} {d : δ}
    (h : party.drive exchange wrap s t = (.ok d, t')) : Right d := by
  induction hrank : party.rank s using Nat.strongRecOn generalizing s t with
  | _ n ih =>
    unfold drive at h
    split at h
    · rename_i d' s₁ hlast
      obtain rfl := Outcome.ok.inj (Prod.mk.inj h).1
      exact hdone s d' s₁ hs hlast
    · rename_i message s₁ hmessage
      split at h
      · rename_i response t₁ hsent
        split at h
        · rename_i s₂ hfed
          have hlt := party.rank_lt s message s₁ response s₂ hmessage hfed
          exact ih _ (hrank ▸ hlt) (hfeed _ _ _ (hnext _ _ _ hs hmessage) hfed) h rfl
        · simp at h
        · simp at h
      · simp at h
      · simp at h
    · simp at h
    · simp at h

end Party

end Dialogue
