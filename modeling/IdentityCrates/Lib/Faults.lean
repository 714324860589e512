import IdentityCrates.Lib.Dialogue

/-!
# Faults along a run

A method makes exchanges with the outside world, and some of them go wrong.  Whether one did is a
property of the stretch of the run from the state before the method to the state after it: a
relation `R fault s s'` that says so.

A method *surfaces* its faults if after a stretch with a fault it always returns an error.  Code in
which every fallible call is followed by `?` has this property, and a sequence of methods has it if
its parts do, since nothing comes after the first fault.  What the converse needs, that errors have
no other cause, is not asked for.
-/

namespace Rust

namespace Proc

variable {σ σ' ε ε' α β : Type}

/-- Stretches can be empty, and a stretch that went well can be continued. -/
structure IsStretch (R : Bool → σ → σ → Prop) : Prop where
  refl : ∀ s, R false s s
  trans : ∀ ⦃s₁ s₂ s₃ fault⦄, R false s₁ s₂ → R fault s₂ s₃ → R fault s₁ s₃

/-- Whatever the method does, it returns an error if something went wrong on the way. -/
def Surfaces (R : Bool → σ → σ → Prop) (m : Proc σ ε α) : Prop :=
  ∀ s, ∃ fault, R fault s (m s).2 ∧ (fault = true → ∃ e, (m s).1 = .err e)

variable {R : Bool → σ → σ → Prop}

/-- A method on whose way nothing can go wrong. -/
lemma surfaces_of_silent {m : Proc σ ε α} (h : ∀ s, R false s (m s).2) : m.Surfaces R :=
  fun s => ⟨false, h s, fun hfault => absurd hfault Bool.false_ne_true⟩

lemma surfaces_pure (hR : IsStretch R) (a : α) : (pure a : Proc σ ε α).Surfaces R :=
  surfaces_of_silent hR.refl

lemma surfaces_lift (hR : IsStretch R) (x : Outcome ε α) : (lift x).Surfaces R :=
  surfaces_of_silent hR.refl

lemma surfaces_fail (hR : IsStretch R) (e : ε) : (fail e : Proc σ ε α).Surfaces R :=
  surfaces_of_silent hR.refl

lemma surfaces_get (hR : IsStretch R) : (get : Proc σ ε σ).Surfaces R :=
  surfaces_of_silent hR.refl

/-- What a method that returned a value did went well. -/
lemma Surfaces.of_ok {m : Proc σ ε α} (h : m.Surfaces R) {s s' : σ} {a : α}
    (hm : m s = (.ok a, s')) : R false s s' := by
  obtain ⟨fault, hstretch, herr⟩ := h s
  rw [hm] at hstretch herr
  cases fault with
  | false => exact hstretch
  | true => simp at herr

/-- So did what a method did that panicked. -/
lemma Surfaces.of_panic {m : Proc σ ε α} (h : m.Surfaces R) {s s' : σ}
    (hm : m s = (.panic, s')) : R false s s' := by
  obtain ⟨fault, hstretch, herr⟩ := h s
  rw [hm] at hstretch herr
  cases fault with
  | false => exact hstretch
  | true => simp at herr

/-- The first fault of a sequence is the last thing that happens in it. -/
lemma Surfaces.bind_of (hR : IsStretch R) {x : Proc σ ε α} {f : α → Proc σ ε β}
    (hx : x.Surfaces R) (hf : ∀ s a s', x s = (.ok a, s') →
      ∃ fault, R fault s' (f a s').2 ∧ (fault = true → ∃ e, (f a s').1 = .err e)) :
    (x >>= f).Surfaces R := by
  intro s
  rcases hfirst : x s with ⟨a | e | _, s'⟩
  · obtain ⟨fault, hstretch, herr⟩ := hf s a s' hfirst
    rw [bind_apply_ok hfirst]
    exact ⟨fault, hR.trans (hx.of_ok hfirst) hstretch, herr⟩
  · obtain ⟨fault, hstretch, -⟩ := hx s
    rw [hfirst] at hstretch
    rw [bind_apply_err hfirst]
    exact ⟨fault, hstretch, fun _ => ⟨e, rfl⟩⟩
  · rw [bind_apply_panic hfirst]
    exact ⟨false, hx.of_panic hfirst, fun hfault => absurd hfault Bool.false_ne_true⟩

lemma Surfaces.bind (hR : IsStretch R) {x : Proc σ ε α} {f : α → Proc σ ε β}
    (hx : x.Surfaces R) (hf : ∀ a, (f a).Surfaces R) : (x >>= f).Surfaces R :=
  hx.bind_of hR fun _ a s' _ => hf a s'

lemma Surfaces.map {x : Proc σ ε α} (hx : x.Surfaces R) (g : α → β) (hR : IsStretch R) :
    (x >>= fun a => pure (g a)).Surfaces R :=
  hx.bind hR fun a => surfaces_pure hR (g a)

/-- A method on a part of the state surfaces the faults of that part. -/
lemma Surfaces.zoom {R' : Bool → σ' → σ' → Prop} {m : Proc σ' ε' α} {n : Proc σ ε β}
    (part : σ → σ') (h : m.Surfaces R') (hpart : ∀ s, part (n s).2 = (m (part s)).2)
    (herr : ∀ s e, (m (part s)).1 = .err e → ∃ e', (n s).1 = .err e') :
    n.Surfaces fun fault s s' => R' fault (part s) (part s') := by
  intro s
  obtain ⟨fault, hstretch, hfault⟩ := h (part s)
  refine ⟨fault, ?_, fun hf => ?_⟩
  · show R' fault (part s) (part (n s).2)
    rwa [hpart]
  · obtain ⟨e, he⟩ := hfault hf
    exact herr s e he

end Proc

end Rust

namespace Dialogue.Party

open Rust

variable {σ ε ρ τ ε' ω δ : Type} {R : Bool → τ → τ → Prop}

/-- A dialogue surfaces the faults of its exchanges. -/
lemma drive_surfaces (party : Party σ ε ω ρ δ) (hR : Proc.IsStretch R)
    {exchange : ω → Proc τ ε' ρ} {wrap : ε → ε'} (hexchange : ∀ m, (exchange m).Surfaces R)
    (s : σ) : (party.drive exchange wrap s).Surfaces R := by
  intro t
  induction hrank : party.rank s using Nat.strongRecOn generalizing s t with
  | _ n ih =>
    have hsilent : ∀ o : Outcome ε' δ,
        ∃ fault, R fault t t ∧ (fault = true → ∃ e, o = .err e) := fun _ =>
      ⟨false, hR.refl t, fun hfault => absurd hfault Bool.false_ne_true⟩
    unfold drive
    split
    · exact hsilent _
    · rename_i message s₁ hnext
      split
      · rename_i response t' hsent
        have hstretch := (hexchange message).of_ok hsent
        split
        · rename_i s₂ hfeed
          have hlt := party.rank_lt s message s₁ response s₂ hnext hfeed
          obtain ⟨fault, hrest, herr⟩ := ih _ (hrank ▸ hlt) s₂ t' rfl
          exact ⟨fault, hR.trans hstretch hrest, herr⟩
        · exact ⟨false, hstretch, fun hfault => absurd hfault Bool.false_ne_true⟩
        · exact ⟨false, hstretch, fun hfault => absurd hfault Bool.false_ne_true⟩
      · rename_i e t' hsent
        obtain ⟨fault, hstretch, -⟩ := hexchange message t
        rw [hsent] at hstretch
        exact ⟨fault, hstretch, fun _ => ⟨e, rfl⟩⟩
      · rename_i t' hsent
        exact ⟨false, (hexchange message).of_panic hsent,
          fun hfault => absurd hfault Bool.false_ne_true⟩
    · exact hsilent _
    · exact hsilent _

/-- A dialogue does not panic unless the party or an exchange does. -/
lemma drive_ne_panic (party : Party σ ε ω ρ δ) {exchange : ω → Proc τ ε' ρ} {wrap : ε → ε'}
    (hnext : ∀ s, (party.next s).1 ≠ .panic) (hfeed : ∀ r s, (party.feed r s).1 ≠ .panic)
    (hexchange : ∀ m t, (exchange m t).1 ≠ .panic) (s : σ) (t : τ) :
    (party.drive exchange wrap s t).1 ≠ .panic := by
  induction hrank : party.rank s using Nat.strongRecOn generalizing s t with
  | _ n ih =>
    unfold drive
    split
    · simp
    · rename_i message s₁ hmessage
      split
      · rename_i response t' hsent
        split
        · rename_i s₂ hfed
          have hlt := party.rank_lt s message s₁ response s₂ hmessage hfed
          exact ih _ (hrank ▸ hlt) s₂ t' rfl
        · simp
        · rename_i s₂ hfed
          have hpanic := hfeed response s₁
          rw [hfed] at hpanic
          exact absurd rfl hpanic
      · simp
      · rename_i t' hsent
        have hpanic := hexchange message t
        rw [hsent] at hpanic
        exact absurd rfl hpanic
    · simp
    · rename_i s₁ hnone
      have hpanic := hnext s
      rw [hnone] at hpanic
      exact absurd rfl hpanic

end Dialogue.Party
