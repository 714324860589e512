import IdentityCrates.Lib.Machine
import IdentityCrates.Lib.Outcome

/-!
# One method in place of another

Two methods over different states are interchangeable when from related states they return the same
and lead to related states again.  The relation is fixed for a whole development; the rules take a
pair of methods apart along their common shape, so that only the calls in which they really differ
are left to compare.  What one of the two returns from the states with an invariant, the other then
returns as well.

The last section lifts the comparison from a single call to whole runs.
-/

namespace Rust.Proc

variable {σ τ ε ε' α β : Type} {R : σ → τ → Prop}

/-- From related states the two methods return the same, and leave related states behind. -/
def Simulates (R : σ → τ → Prop) (m : Proc σ ε α) (m' : Proc τ ε α) : Prop :=
  ∀ s t, R s t → (m s).1 = (m' t).1 ∧ R (m s).2 (m' t).2

lemma simulates_pure (a : α) : Simulates R (pure a : Proc σ ε α) (pure a) :=
  fun _ _ h => ⟨rfl, h⟩

lemma simulates_lift (x : Outcome ε α) : Simulates R (lift x) (lift x) := fun _ _ h => ⟨rfl, h⟩

lemma simulates_fail (e : ε) : Simulates R (fail e : Proc σ ε α) (fail e) := fun _ _ h => ⟨rfl, h⟩

lemma simulates_modify {g : σ → σ} {g' : τ → τ} (h : ∀ s t, R s t → R (g s) (g' t)) :
    Simulates R (modify g : Proc σ ε Unit) (modify g') := fun s t hst => ⟨rfl, h s t hst⟩

/-- Sequences are compared part by part. -/
lemma Simulates.bind {x : Proc σ ε α} {x' : Proc τ ε α} {f : α → Proc σ ε β}
    {f' : α → Proc τ ε β} (hx : Simulates R x x') (hf : ∀ a, Simulates R (f a) (f' a)) :
    Simulates R (x >>= f) (x' >>= f') := by
  intro s t h
  obtain ⟨hout, hstate⟩ := hx s t h
  rw [bind_apply, bind_apply]
  generalize x s = first at hout hstate ⊢
  generalize x' t = first' at hout hstate ⊢
  obtain ⟨out, s'⟩ := first
  obtain ⟨out', t'⟩ := first'
  obtain rfl : out = out' := hout
  cases out with
  | ok a => exact hf a s' t' hstate
  | err e => exact ⟨rfl, hstate⟩
  | panic => exact ⟨rfl, hstate⟩

/-- What is read from the states may differ, as long as it leads to methods that do the same. -/
lemma simulates_get_bind {f : σ → Proc σ ε α} {f' : τ → Proc τ ε α}
    (h : ∀ s t, R s t → Simulates R (f s) (f' t)) : Simulates R (get >>= f) (get >>= f') :=
  fun s t hst => h s t hst s t hst

lemma simulates_ite {c : Prop} [Decidable c] {m n : Proc σ ε α} {m' n' : Proc τ ε α}
    (hm : c → Simulates R m m') (hn : ¬ c → Simulates R n n') :
    Simulates R (if c then m else n) (if c then m' else n') := by
  split
  · exact hm ‹_›
  · exact hn ‹_›

/-! ## A method with a known result -/

variable {I : σ → Prop}

/-- From every state with the invariant the method returns `x`, and the invariant holds again. -/
def Yields (I : σ → Prop) (m : Proc σ ε α) (x : Outcome ε α) : Prop :=
  ∀ s, I s → (m s).1 = x ∧ I (m s).2

lemma yields_lift (x : Outcome ε α) : Yields I (lift x) x := fun _ h => ⟨rfl, h⟩

/-- A sequence returns what its parts return. -/
lemma Yields.bind {m : Proc σ ε α} {f : α → Proc σ ε β} {x : Outcome ε α} {g : α → Outcome ε β}
    (hm : Yields I m x) (hf : ∀ a, Yields I (f a) (g a)) : Yields I (m >>= f) (x >>= g) := by
  intro s hs
  obtain ⟨hout, hstate⟩ := hm s hs
  rw [bind_apply]
  generalize m s = result at hout hstate ⊢
  obtain ⟨out, s'⟩ := result
  obtain rfl : out = x := hout
  cases out with
  | ok a => exact hf a s' hstate
  | err e => exact ⟨rfl, hstate⟩
  | panic => exact ⟨rfl, hstate⟩

lemma yields_ite {c : Prop} [Decidable c] {m m' : Proc σ ε α} {x x' : Outcome ε α}
    (hm : c → Yields I m x) (hm' : ¬ c → Yields I m' x') :
    Yields I (if c then m else m') (if c then x else x') := by
  split
  · exact hm ‹_›
  · exact hm' ‹_›

/-- The result is the same where the method is simulated. -/
lemma Simulates.yields {m : Proc σ ε α} {m' : Proc τ ε α} {x : Outcome ε α}
    (h : Simulates R m m') (hm : Yields I m x) : Yields (fun t => ∃ s, R s t ∧ I s) m' x := by
  rintro t ⟨s, hst, hs⟩
  obtain ⟨hout, hstate⟩ := h s t hst
  obtain ⟨hvalue, hs'⟩ := hm s hs
  exact ⟨hout.symm.trans hvalue, _, hstate, hs'⟩

end Rust.Proc

/-! ## Whole runs -/

namespace Machine

variable {σ τ ι ο : Type*}

/-- Components that answer alike in related states, and stay related, answer alike in every run. -/
theorem trace_eq_of_simulation {step : ι → σ → ο × σ} {step' : ι → τ → ο × τ} {R : σ → τ → Prop}
    (hstep : ∀ i s t, R s t → (step i s).1 = (step' i t).1 ∧ R (step i s).2 (step' i t).2) {s : σ}
    {t : τ} (h : R s t) (is : List ι) :
    trace step s is = trace step' t is ∧ R (final step s is) (final step' t is) := by
  induction is generalizing s t with
  | nil => exact ⟨rfl, h⟩
  | cons i is ih =>
    obtain ⟨hout, hnext⟩ := hstep i s t h
    obtain ⟨htrace, hfinal⟩ := ih hnext
    exact ⟨by rw [trace_cons, trace_cons, hout, htrace], hfinal⟩

end Machine
