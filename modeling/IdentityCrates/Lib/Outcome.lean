import Mathlib.Tactic.Basic
import Mathlib.Control.Basic

/-!
# Outcomes of fallible calls

Two monads for a shallow embedding of Rust.

`Outcome ε α` is what a call without side effects comes back with: a value, a returned error,
or a panic.  Keeping the panic apart from the errors is what lets a later theorem say that a
function never panics, or that a caller cannot recover from one.

`Proc σ ε α` is a method on `&mut self`.  It differs from `StateT σ (Outcome ε)` in one respect,
and the difference is the point: the state reached so far is *kept* when the method fails.  A
method that moves its state out, runs a fallible step and only then puts the new state back
leaves the moved-out state behind on the error path.
-/

namespace Rust

/-- What a call returns: `Ok`, `Err`, or it panicked. -/
inductive Outcome (ε α : Type) where
  | ok (a : α)
  | err (e : ε)
  | panic
  deriving DecidableEq, Repr

namespace Outcome

variable {ε ε' α β γ : Type}

/-- Sequencing: the `?` operator. -/
protected def bind (x : Outcome ε α) (f : α → Outcome ε β) : Outcome ε β :=
  match x with
  | .ok a => f a
  | .err e => .err e
  | .panic => .panic

instance : Monad (Outcome ε) where
  pure := .ok
  bind := Outcome.bind

@[simp] lemma pure_eq (a : α) : (pure a : Outcome ε α) = .ok a := rfl

@[simp] lemma ok_bind (a : α) (f : α → Outcome ε β) : (Outcome.ok a >>= f) = f a := rfl

@[simp] lemma err_bind (e : ε) (f : α → Outcome ε β) : (Outcome.err e >>= f) = .err e := rfl

@[simp] lemma panic_bind (f : α → Outcome ε β) :
    ((Outcome.panic : Outcome ε α) >>= f) = .panic := rfl

instance : LawfulMonad (Outcome ε) := LawfulMonad.mk' (Outcome ε)
  (by intro α x; cases x <;> rfl)
  (by intro α β a f; rfl)
  (by intro α β γ x f g; cases x <;> rfl)

/-- A sequence succeeds exactly when both halves do.  Peels monadic code apart without
unfolding it. -/
lemma bind_eq_ok {x : Outcome ε α} {f : α → Outcome ε β} {b : β} :
    (x >>= f) = .ok b ↔ ∃ a, x = .ok a ∧ f a = .ok b := by
  cases x <;> simp

lemma bind_eq_err {x : Outcome ε α} {f : α → Outcome ε β} {e : ε} :
    (x >>= f) = .err e ↔ x = .err e ∨ ∃ a, x = .ok a ∧ f a = .err e := by
  cases x <;> simp

/-- A sequence panics only where one of its halves does. -/
lemma bind_ne_panic {x : Outcome ε α} {f : α → Outcome ε β} (hx : x ≠ .panic)
    (hf : ∀ a, x = .ok a → f a ≠ .panic) : (x >>= f) ≠ .panic := by
  cases x with
  | ok a => exact hf a rfl
  | err e => simp
  | panic => exact absurd rfl hx

lemma ite_ne_panic {c : Prop} [Decidable c] {x y : Outcome ε α} (hx : x ≠ .panic)
    (hy : y ≠ .panic) : (if c then x else y) ≠ .panic := by
  split
  · exact hx
  · exact hy

@[simp] lemma map_ok (g : α → β) (a : α) : g <$> (Outcome.ok a : Outcome ε α) = .ok (g a) := rfl

lemma map_eq_ok {g : α → β} {x : Outcome ε α} {b : β} :
    g <$> x = .ok b ↔ ∃ a, x = .ok a ∧ g a = b := by
  rw [map_eq_pure_bind, bind_eq_ok]
  simp

/-- `Result::map_err`. -/
def mapErr (g : ε → ε') : Outcome ε α → Outcome ε' α
  | .ok a => .ok a
  | .err e => .err (g e)
  | .panic => .panic

@[simp] lemma mapErr_ok (g : ε → ε') (a : α) : (Outcome.ok a : Outcome ε α).mapErr g = .ok a := rfl

@[simp] lemma mapErr_err (g : ε → ε') (e : ε) :
    (Outcome.err e : Outcome ε α).mapErr g = .err (g e) := rfl

@[simp] lemma mapErr_panic (g : ε → ε') :
    (Outcome.panic : Outcome ε α).mapErr g = .panic := rfl

@[simp] lemma mapErr_eq_ok {g : ε → ε'} {x : Outcome ε α} {a : α} :
    x.mapErr g = .ok a ↔ x = .ok a := by
  cases x <;> simp

lemma mapErr_eq_err {g : ε → ε'} {x : Outcome ε α} {e' : ε'} :
    x.mapErr g = .err e' ↔ ∃ e, x = .err e ∧ g e = e' := by
  cases x <;> simp

/-- `Option::ok_or`. -/
def ofOption (e : ε) : Option α → Outcome ε α
  | some a => .ok a
  | none => .err e

@[simp] lemma ofOption_some (e : ε) (a : α) : ofOption e (some a) = .ok a := rfl

@[simp] lemma ofOption_none (e : ε) : (ofOption e none : Outcome ε α) = .err e := rfl

@[simp] lemma ofOption_eq_ok {e : ε} {x : Option α} {a : α} :
    ofOption e x = .ok a ↔ x = some a := by
  cases x <;> simp

lemma mapErr_ne_panic {g : ε → ε'} {x : Outcome ε α} (h : x ≠ .panic) : x.mapErr g ≠ .panic := by
  cases x with
  | panic => exact absurd rfl h
  | _ => simp

lemma ofOption_ne_panic (e : ε) (x : Option α) : ofOption e x ≠ .panic := by
  cases x <;> simp

/-- `Option::unwrap`: nothing to unwrap is a panic. -/
def unwrap : Option α → Outcome ε α
  | some a => .ok a
  | none => .panic

@[simp] lemma unwrap_some (a : α) : (unwrap (some a) : Outcome ε α) = .ok a := rfl

@[simp] lemma unwrap_eq_ok {x : Option α} {a : α} :
    (unwrap x : Outcome ε α) = .ok a ↔ x = some a := by
  cases x <;> simp [unwrap]

/-- `Result::expect`: an error becomes a panic. -/
def expect : Outcome ε α → Outcome ε' α
  | .ok a => .ok a
  | .err _ => .panic
  | .panic => .panic

@[simp] lemma expect_ok (a : α) : ((Outcome.ok a : Outcome ε α).expect : Outcome ε' α) = .ok a :=
  rfl

@[simp] lemma expect_eq_ok {x : Outcome ε α} {a : α} :
    (x.expect : Outcome ε' α) = .ok a ↔ x = .ok a := by
  cases x <;> simp [expect]

/-- `Result::ok`: what succeeded, as an option. -/
def toOption : Outcome ε α → Option α
  | .ok a => some a
  | _ => none

@[simp] lemma toOption_ok (a : α) : (Outcome.ok a : Outcome ε α).toOption = some a := rfl

@[simp] lemma toOption_err (e : ε) : (Outcome.err e : Outcome ε α).toOption = none := rfl

@[simp] lemma toOption_panic : (Outcome.panic : Outcome ε α).toOption = none := rfl

@[simp] lemma toOption_eq_some {x : Outcome ε α} {a : α} : x.toOption = some a ↔ x = .ok a := by
  cases x <;> simp

/-- Did the call succeed? -/
def isOk : Outcome ε α → Bool
  | .ok _ => true
  | _ => false

@[simp] lemma isOk_ok (a : α) : (Outcome.ok a : Outcome ε α).isOk = true := rfl

@[simp] lemma isOk_err (e : ε) : (Outcome.err e : Outcome ε α).isOk = false := rfl

@[simp] lemma isOk_panic : (Outcome.panic : Outcome ε α).isOk = false := rfl

lemma isOk_iff {x : Outcome ε α} : x.isOk = true ↔ ∃ a, x = .ok a := by
  cases x <;> simp

/-- `Result::is_ok_and`. -/
def isOkAnd (x : Outcome ε α) (f : α → Bool) : Bool :=
  match x with
  | .ok a => f a
  | _ => false

lemma isOkAnd_iff {x : Outcome ε α} {f : α → Bool} :
    x.isOkAnd f = true ↔ ∃ a, x = .ok a ∧ f a = true := by
  cases x <;> simp [isOkAnd]

end Outcome

/-! ## Methods on `&mut self` -/

/-- A method on `&mut self`: the state it has reached is kept whatever the outcome. -/
def Proc (σ ε α : Type) := σ → Outcome ε α × σ

namespace Proc

variable {σ ε ε' α β : Type}

/-- Sequencing.  On failure the rest is skipped and the state stays where it is. -/
protected def bind (x : Proc σ ε α) (f : α → Proc σ ε β) : Proc σ ε β := fun s =>
  match x s with
  | (.ok a, s') => f a s'
  | (.err e, s') => (.err e, s')
  | (.panic, s') => (.panic, s')

instance : Monad (Proc σ ε) where
  pure a := fun s => (.ok a, s)
  bind := Proc.bind

/-- Run a call that does not touch the state. -/
def lift (x : Outcome ε α) : Proc σ ε α := fun s => (x, s)

/-- Read the state. -/
def get : Proc σ ε σ := fun s => (.ok s, s)

/-- Replace the state. -/
def set (s' : σ) : Proc σ ε Unit := fun _ => (.ok (), s')

/-- Update the state. -/
def modify (g : σ → σ) : Proc σ ε Unit := fun s => (.ok (), g s)

/-- Return an error, leaving the state as it is. -/
def fail (e : ε) : Proc σ ε α := fun s => (.err e, s)

/-- `Result::map_err` on a method. -/
def mapErr (g : ε → ε') (x : Proc σ ε α) : Proc σ ε' α := fun s =>
  ((x s).1.mapErr g, (x s).2)

/-- Take what a method returns as a value, so that its caller may go on from an error.  A panic is
not caught. -/
def attempt (x : Proc σ ε α) : Proc σ ε' (Except ε α) := fun s =>
  match x s with
  | (.ok a, s') => (.ok (.ok a), s')
  | (.err e, s') => (.ok (.error e), s')
  | (.panic, s') => (.panic, s')

@[simp] lemma pure_apply (a : α) (s : σ) : (pure a : Proc σ ε α) s = (.ok a, s) := rfl

@[simp] lemma lift_apply (x : Outcome ε α) (s : σ) : (lift x : Proc σ ε α) s = (x, s) := rfl

@[simp] lemma get_apply (s : σ) : (get : Proc σ ε σ) s = (.ok s, s) := rfl

@[simp] lemma set_apply (s' s : σ) : (set s' : Proc σ ε Unit) s = (.ok (), s') := rfl

@[simp] lemma modify_apply (g : σ → σ) (s : σ) :
    (modify g : Proc σ ε Unit) s = (.ok (), g s) := rfl

@[simp] lemma fail_apply (e : ε) (s : σ) : (fail e : Proc σ ε α) s = (.err e, s) := rfl

@[simp] lemma mapErr_apply (g : ε → ε') (x : Proc σ ε α) (s : σ) :
    x.mapErr g s = ((x s).1.mapErr g, (x s).2) := rfl

lemma bind_apply (x : Proc σ ε α) (f : α → Proc σ ε β) (s : σ) :
    (x >>= f) s = match x s with
      | (.ok a, s') => f a s'
      | (.err e, s') => (.err e, s')
      | (.panic, s') => (.panic, s') := rfl

lemma bind_apply_ok {x : Proc σ ε α} {f : α → Proc σ ε β} {s s' : σ} {a : α}
    (h : x s = (.ok a, s')) : (x >>= f) s = f a s' := by
  rw [bind_apply, h]

lemma bind_apply_err {x : Proc σ ε α} {f : α → Proc σ ε β} {s s' : σ} {e : ε}
    (h : x s = (.err e, s')) : (x >>= f) s = (.err e, s') := by
  rw [bind_apply, h]

lemma bind_apply_panic {x : Proc σ ε α} {f : α → Proc σ ε β} {s s' : σ}
    (h : x s = (.panic, s')) : (x >>= f) s = (.panic, s') := by
  rw [bind_apply, h]

@[simp] lemma pure_bind_apply (a : α) (f : α → Proc σ ε β) (s : σ) :
    ((pure a : Proc σ ε α) >>= f) s = f a s := rfl

@[simp] lemma get_bind_apply (f : σ → Proc σ ε β) (s : σ) : (get >>= f) s = f s s := rfl

@[simp] lemma set_bind_apply (s' : σ) (f : Unit → Proc σ ε β) (s : σ) :
    (set s' >>= f) s = f () s' := rfl

@[simp] lemma modify_bind_apply (g : σ → σ) (f : Unit → Proc σ ε β) (s : σ) :
    (modify g >>= f) s = f () (g s) := rfl

@[simp] lemma fail_bind_apply (e : ε) (f : α → Proc σ ε β) (s : σ) :
    ((fail e : Proc σ ε α) >>= f) s = (.err e, s) := rfl

@[simp] lemma lift_ok_bind_apply (a : α) (f : α → Proc σ ε β) (s : σ) :
    (lift (.ok a) >>= f) s = f a s := rfl

@[simp] lemma lift_err_bind_apply (e : ε) (f : α → Proc σ ε β) (s : σ) :
    (lift (.err e) >>= f) s = (.err e, s) := rfl

@[simp] lemma lift_panic_bind_apply (f : α → Proc σ ε β) (s : σ) :
    ((lift .panic : Proc σ ε α) >>= f) s = (.panic, s) := rfl

lemma lift_bind_eq_ok {x : Outcome ε α} {f : α → Proc σ ε β} {s s' : σ} {b : β} :
    (lift x >>= f) s = (.ok b, s') ↔ ∃ a, x = .ok a ∧ f a s = (.ok b, s') := by
  cases x with
  | ok a => simp
  | err e => simp
  | panic => simp

/-- Sequences of methods may be regrouped. -/
protected lemma bind_assoc {γ : Type} (x : Proc σ ε α) (f : α → Proc σ ε β) (g : β → Proc σ ε γ) :
    x >>= f >>= g = x >>= fun a => f a >>= g := by
  funext s
  rw [bind_apply, bind_apply, bind_apply]
  rcases x s with ⟨a | e | _, s'⟩
  · rfl
  · rfl
  · rfl

/-- A method sequence succeeds exactly when both halves do, the second from where the first
ended. -/
lemma bind_eq_ok {x : Proc σ ε α} {f : α → Proc σ ε β} {s s' : σ} {b : β} :
    (x >>= f) s = (.ok b, s') ↔ ∃ a s₁, x s = (.ok a, s₁) ∧ f a s₁ = (.ok b, s') := by
  rw [bind_apply]
  rcases x s with ⟨a | e | _, s₁⟩
  · constructor
    · exact fun hf => ⟨a, s₁, rfl, hf⟩
    · rintro ⟨_, _, ⟨⟩, hf⟩
      exact hf
  · simp
  · simp

lemma bind_ne_panic {x : Proc σ ε α} {f : α → Proc σ ε β} {s : σ} (hx : (x s).1 ≠ .panic)
    (hf : ∀ a s', x s = (.ok a, s') → (f a s').1 ≠ .panic) : ((x >>= f) s).1 ≠ .panic := by
  rcases hfirst : x s with ⟨a | e | _, s'⟩
  · rw [bind_apply_ok hfirst]
    exact hf a s' hfirst
  · rw [bind_apply_err hfirst]
    simp
  · rw [hfirst] at hx
    exact absurd rfl hx

/-! ### What a method can do to the state -/

/-- Whatever comes of it, the method takes every state to one related to it. -/
def Preserves (R : σ → σ → Prop) (m : Proc σ ε α) : Prop := ∀ s, R s (m s).2

section Preserves

variable {R : σ → σ → Prop}

lemma preserves_pure (hrefl : ∀ s, R s s) (a : α) : Preserves R (pure a : Proc σ ε α) :=
  fun s => hrefl s

lemma preserves_lift (hrefl : ∀ s, R s s) (x : Outcome ε α) : Preserves R (lift x) :=
  fun s => hrefl s

lemma preserves_fail (hrefl : ∀ s, R s s) (e : ε) : Preserves R (fail e : Proc σ ε α) :=
  fun s => hrefl s

/-- A sequence of methods does what its parts do one after the other, the second on what the first
returns. -/
lemma Preserves.bind_of (htrans : ∀ ⦃s₁ s₂ s₃⦄, R s₁ s₂ → R s₂ s₃ → R s₁ s₃) {x : Proc σ ε α}
    {f : α → Proc σ ε β} (hx : Preserves R x)
    (hf : ∀ s a s', x s = (.ok a, s') → R s' (f a s').2) : Preserves R (x >>= f) := by
  intro s
  have hfirst := hx s
  have hrest := hf s
  rw [bind_apply]
  generalize x s = result at hfirst hrest ⊢
  obtain ⟨a | e | _, s'⟩ := result
  · exact htrans hfirst (hrest a s' rfl)
  · exact hfirst
  · exact hfirst

lemma Preserves.bind (htrans : ∀ ⦃s₁ s₂ s₃⦄, R s₁ s₂ → R s₂ s₃ → R s₁ s₃) {x : Proc σ ε α}
    {f : α → Proc σ ε β} (hx : Preserves R x) (hf : ∀ a, Preserves R (f a)) :
    Preserves R (x >>= f) :=
  hx.bind_of htrans fun _ a s' _ => hf a s'

end Preserves

end Proc

end Rust
