import IdentityCrates.Lib.Outcome

/-!
# Futures

An asynchronous call of Rust is a future that is polled: it answers `Pending` for a while and then
with its output (`Future`).  Awaiting a future inside another one passes each `Pending` on, so the
waiting times of a sequence add up.  `Future.tryBlockOn` polls a bounded number of times and gives
up, `Future.blockOn` polls until the end.

`Async ε α` is a fallible asynchronous call, and `Asking q r α` one that suspends for one reason
only, to put questions to somebody else.  What such a call comes back with depends on the answers
alone, and not on how long they take (`Asking.output_run_congr`); where all answers are there at
once, so is the output (`Asking.pending_run`).
-/

namespace Rust

/-- A future: how often it answers `Pending`, and its output. -/
structure Future (α : Type) where
  pending : Nat
  output : α
  deriving DecidableEq

namespace Future

variable {α β : Type}

/-- A future that is ready. -/
def ready (a : α) : Future α := ⟨0, a⟩

/-- Await a future and go on with its output. -/
def await (x : Future α) (f : α → Future β) : Future β :=
  ⟨x.pending + (f x.output).pending, (f x.output).output⟩

@[simp] lemma pending_ready (a : α) : (ready a).pending = 0 := rfl

@[simp] lemma output_ready (a : α) : (ready a).output = a := rfl

@[simp] lemma output_await (x : Future α) (f : α → Future β) :
    (x.await f).output = (f x.output).output := rfl

@[simp] lemma pending_await (x : Future α) (f : α → Future β) :
    (x.await f).pending = x.pending + (f x.output).pending := rfl

/-- Poll at most `maxPolls` times. -/
def tryBlockOn (maxPolls : Nat) (x : Future α) : Option α :=
  if x.pending < maxPolls then some x.output else none

/-- Poll until the future is ready. -/
def blockOn (x : Future α) : α := x.output

lemma tryBlockOn_of_pending {maxPolls : Nat} (hpolls : 0 < maxPolls) {x : Future α}
    (h : x.pending = 0) : x.tryBlockOn maxPolls = some x.output := by
  unfold tryBlockOn
  rw [if_pos (by omega)]

end Future

/-- A fallible asynchronous call. -/
def Async (ε α : Type) := Future (Outcome ε α)

namespace Async

variable {ε α β : Type}

/-- Sequencing: await the first call, and go on if it succeeded. -/
protected def bind (x : Async ε α) (f : α → Async ε β) : Async ε β :=
  match x with
  | ⟨pending, .ok a⟩ => ⟨pending + (f a).pending, (f a).output⟩
  | ⟨pending, .err e⟩ => ⟨pending, .err e⟩
  | ⟨pending, .panic⟩ => ⟨pending, .panic⟩

instance : Monad (Async ε) where
  pure a := Future.ready (.ok a)
  bind := Async.bind

/-- A call that is not asynchronous. -/
def ofOutcome (x : Outcome ε α) : Async ε α := Future.ready x

/-- Await a future that cannot fail. -/
def await (x : Future α) : Async ε α := ⟨x.pending, .ok x.output⟩

@[simp] lemma output_pure (a : α) : (pure a : Async ε α).output = .ok a := rfl

@[simp] lemma output_ofOutcome (x : Outcome ε α) : (ofOutcome x).output = x := rfl

@[simp] lemma output_await (x : Future α) : (await x : Async ε α).output = .ok x.output := rfl

@[simp] lemma output_bind (x : Async ε α) (f : α → Async ε β) :
    (x >>= f).output = x.output >>= fun a => (f a).output := by
  rcases x with ⟨pending, a | e | _⟩
  · rfl
  · rfl
  · rfl

@[simp] lemma pending_pure (a : α) : (pure a : Async ε α).pending = 0 := rfl

@[simp] lemma pending_ofOutcome (x : Outcome ε α) : (ofOutcome x).pending = 0 := rfl

@[simp] lemma pending_await (x : Future α) : (await x : Async ε α).pending = x.pending := rfl

/-- A sequence of calls that do not suspend does not suspend. -/
lemma pending_bind {x : Async ε α} {f : α → Async ε β} (hx : x.pending = 0)
    (hf : ∀ a, (f a).pending = 0) : (x >>= f).pending = 0 := by
  rcases x with ⟨pending, a | e | _⟩
  · show pending + (f a).pending = 0
    rw [hf a]
    exact hx
  · exact hx
  · exact hx

end Async

/-- A computation that puts questions in `q`, gets answers in `r`, and ends with an `α`. -/
inductive Asking (q r α : Type) where
  | done (a : α)
  | ask (question : q) (next : r → Asking q r α)

namespace Asking

variable {q r α : Type}

/-- Run the computation against somebody who answers. -/
def run (answer : q → Future r) : Asking q r α → Future α
  | done a => Future.ready a
  | ask question next => (answer question).await fun a => run answer (next a)

/-- The output depends on the answers, not on when they come. -/
lemma output_run_congr {answer answer' : q → Future r}
    (h : ∀ question, (answer question).output = (answer' question).output) (x : Asking q r α) :
    (x.run answer).output = (x.run answer').output := by
  induction x with
  | done a => rfl
  | ask question next ih =>
    rw [run, run, Future.output_await, Future.output_await, h question]
    exact ih _

/-- Answers that are there at once do not suspend the computation. -/
lemma pending_run {answer : q → Future r} (h : ∀ question, (answer question).pending = 0)
    (x : Asking q r α) : (x.run answer).pending = 0 := by
  induction x with
  | done a => rfl
  | ask question next ih =>
    rw [run, Future.pending_await, h question, ih]

end Asking

end Rust
