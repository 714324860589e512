import IdentityCrates.Mobile.Bridge

/-!
# Delivery over the bridge

What `supply` and `wait` may come to, whatever the order in which their threads take their steps.

The sender of a channel is in one place at a time, so a channel sees at most one answer, and that
one was supplied for its id; an id that `wait` has removed is not found again.  These hold in every
run in which the counter of ids does not come round (`Bridge.delivery`).

That `supply` returns `true` does not mean that the answer is received.  Between the moment at which
`recv_timeout` gives up and the moment at which the receiver is dropped, the sender may still be
found in the table, or have been found before, and the slot is free: the answer goes into the slot
and is dropped with it (`Bridge.accepted_after_timeout`).  In every run in which nothing is sent in
between, an answer that `supply` has accepted is the one that `wait` returns
(`Bridge.delivery`, again).
-/

namespace IdentityMobile

open Rust Octets

/-! ## Lists that grow and change in one place -/

lemma getElem?_concat_eq_some {α : Type} {xs : List α} {x y : α} {i : Nat} :
    (xs ++ [x])[i]? = some y ↔ xs[i]? = some y ∨ i = xs.length ∧ y = x := by
  rcases lt_trichotomy i xs.length with h | h | h
  · rw [List.getElem?_append_left h]
    exact ⟨.inl, fun hor => hor.resolve_right fun hand => h.ne hand.1⟩
  · subst h
    simp [eq_comm]
  · rw [List.getElem?_eq_none (by rw [List.length_append, List.length_singleton]; omega),
      List.getElem?_eq_none h.le]
    simp [h.ne']

lemma getElem?_set_eq_some {α : Type} {xs : List α} {x y z : α} {i k : Nat}
    (hk : xs[k]? = some x) :
    (xs.set k y)[i]? = some z ↔ i = k ∧ z = y ∨ i ≠ k ∧ xs[i]? = some z := by
  have hlt : k < xs.length := (List.getElem?_eq_some_iff.mp hk).1
  by_cases h : i = k
  · subst h
    rw [List.getElem?_set_self hlt]
    simp [eq_comm]
  · rw [List.getElem?_set_ne (Ne.symm h)]
    simp [h]

namespace Exchange

/-- The answer is in the slot or has been received. -/
def Holds (e : Exchange) (answer : Answer) : Prop :=
  e.slot = some answer ∨ e.waiter.outcome = some (.ok answer)

/-- The answer is about to be received or has been received. -/
def Due (e : Exchange) (answer : Answer) : Prop :=
  e.slot = some answer ∧ e.waiter = .parked ∨ e.waiter.outcome = some (.ok answer)

end Exchange

namespace Bridge

/-! ## What holds in every state -/

/-- The sender of a channel is in the table, under the id of its exchange, as long as `wait` has not
removed it, or in the hands of one call of `supply` for that id.  As long as it has not been used
its channel has seen no answer, and the answer that a channel has seen came from the call that holds
its sender. -/
structure Inv (b : Bridge) : Prop where
  next : b.next = UInt64.ofNat (b.exchanges.length + 1)
  ids : ∀ (k : Nat) (e : Exchange), b.exchanges[k]? = some e → e.id = UInt64.ofNat (k + 1)
  pending : ∀ (id : UInt64) (k : Nat), b.pending id = some k →
    ∃ e : Exchange, b.exchanges[k]? = some e ∧ e.id = id ∧ e.waiter.registered = true ∧
      ∀ answer, ¬ e.Holds answer
  held : ∀ (j : Nat) (c : Supply) (k : Nat), b.supplies[j]? = some c → c.sender = some k →
    ∃ e : Exchange, b.exchanges[k]? = some e ∧ e.id = c.id ∧ b.pending e.id ≠ some k ∧
      (c.result = none → ∀ answer, ¬ e.Holds answer)
  once : ∀ (j j' : Nat) (c c' : Supply) (k : Nat), b.supplies[j]? = some c →
    b.supplies[j']? = some c' → c.sender = some k → c'.sender = some k → j = j'
  source : ∀ (k : Nat) (e : Exchange) (answer : Answer), b.exchanges[k]? = some e →
    e.Holds answer → ∃ (j : Nat) (c : Supply), b.supplies[j]? = some c ∧ c.sender = some k ∧
      c.answer = answer ∧ c.result = some true
  sent : ∀ (j : Nat) (c : Supply), b.supplies[j]? = some c → c.result = some true →
    c.sender ≠ none

lemma inv_start : Inv start := by
  constructor <;> simp [start]

/-- One exchange moves on without seeing a new answer. -/
lemma Inv.setExchange {b : Bridge} (h : Inv b) {k : Nat} {e e' : Exchange}
    (hk : b.exchanges[k]? = some e) (hid : e'.id = e.id)
    (hregistered : b.pending e.id = some k → e'.waiter.registered = true)
    (hholds : ∀ answer, e'.Holds answer → e.Holds answer) : Inv (setExchange k e' b) where
  next := by
    show b.next = UInt64.ofNat ((b.exchanges.set k e').length + 1)
    rw [List.length_set, h.next]
  ids i x hx := by
    rcases (getElem?_set_eq_some hk).mp hx with ⟨rfl, rfl⟩ | ⟨-, hx⟩
    · rw [hid, h.ids _ _ hk]
    · exact h.ids _ _ hx
  pending id i hi := by
    obtain ⟨x, hx, rfl, hreg, hno⟩ := h.pending id i hi
    by_cases hik : i = k
    · subst hik
      rw [hk, Option.some.injEq] at hx
      subst hx
      exact ⟨e', (getElem?_set_eq_some hk).mpr (.inl ⟨rfl, rfl⟩), hid, hregistered hi,
        fun answer hanswer => hno answer (hholds answer hanswer)⟩
    · exact ⟨x, (getElem?_set_eq_some hk).mpr (.inr ⟨hik, hx⟩), rfl, hreg, hno⟩
  held j c i hc hi := by
    obtain ⟨x, hx, hxid, hpend, hno⟩ := h.held j c i hc hi
    by_cases hik : i = k
    · subst hik
      rw [hk, Option.some.injEq] at hx
      subst hx
      refine ⟨e', (getElem?_set_eq_some hk).mpr (.inl ⟨rfl, rfl⟩), hid.trans hxid, ?_, ?_⟩
      · rw [hid]
        exact hpend
      · exact fun hnone answer hanswer => hno hnone answer (hholds answer hanswer)
    · exact ⟨x, (getElem?_set_eq_some hk).mpr (.inr ⟨hik, hx⟩), hxid, hpend, hno⟩
  once := h.once
  source i x answer hx hanswer := by
    rcases (getElem?_set_eq_some hk).mp hx with ⟨rfl, rfl⟩ | ⟨-, hx⟩
    · exact h.source _ e answer hk (hholds answer hanswer)
    · exact h.source i x answer hx hanswer
  sent := h.sent

/-- An id is taken out of the table. -/
lemma Inv.unregister {b : Bridge} (h : Inv b) (id : UInt64) : Inv (unregister id b) where
  next := h.next
  ids := h.ids
  pending other k hk := by
    simp only [Bridge.unregister] at hk
    split at hk
    · simp at hk
    · exact h.pending other k hk
  held j c k hc hk := by
    obtain ⟨e, he, hid, hpend, hno⟩ := h.held j c k hc hk
    refine ⟨e, he, hid, ?_, hno⟩
    simp only [Bridge.unregister]
    split
    · simp
    · exact hpend
  once := h.once
  source := h.source
  sent := h.sent

/-- A call of `supply` that returns is the same call. -/
lemma returns_origin {b : Bridge} {j : Nat} {c : Supply} {result : Bool}
    (hj : b.supplies[j]? = some c) {i : Nat} {x : Supply}
    (hx : (returns j c result b).supplies[i]? = some x) :
    ∃ x', b.supplies[i]? = some x' ∧ x'.id = x.id ∧ x'.sender = x.sender := by
  rcases (getElem?_set_eq_some hj).mp hx with ⟨rfl, rfl⟩ | ⟨-, hx⟩
  · exact ⟨c, hj, rfl, rfl⟩
  · exact ⟨x, hx, rfl, rfl⟩

/-- A call of `supply` returns `false`. -/
lemma Inv.returns_false {b : Bridge} (h : Inv b) {j : Nat} {c : Supply}
    (hj : b.supplies[j]? = some c) (hnone : c.result = none) : Inv (returns j c false b) where
  next := h.next
  ids := h.ids
  pending := h.pending
  held i x k hx hk := by
    rcases (getElem?_set_eq_some hj).mp hx with ⟨rfl, rfl⟩ | ⟨-, hx⟩
    · obtain ⟨e, he, hid, hpend, -⟩ := h.held _ c k hj hk
      exact ⟨e, he, hid, hpend, by simp⟩
    · exact h.held i x k hx hk
  once i i' x x' k hx hx' hk hk' := by
    obtain ⟨y, hy, -, hsender⟩ := returns_origin hj hx
    obtain ⟨y', hy', -, hsender'⟩ := returns_origin hj hx'
    exact h.once i i' y y' k hy hy' (hsender.trans hk) (hsender'.trans hk')
  source k e answer he hanswer := by
    obtain ⟨i, x, hx, hk, hanswer, htrue⟩ := h.source k e answer he hanswer
    have hij : i ≠ j := by
      intro hij
      subst hij
      rw [hj, Option.some.injEq] at hx
      subst hx
      rw [hnone] at htrue
      simp at htrue
    exact ⟨i, x, (getElem?_set_eq_some hj).mpr (.inr ⟨hij, hx⟩), hk, hanswer, htrue⟩
  sent i x hx htrue := by
    rcases (getElem?_set_eq_some hj).mp hx with ⟨rfl, rfl⟩ | ⟨-, hx⟩
    · simp at htrue
    · exact h.sent i x hx htrue

/-- A call of `supply` puts its answer into the free slot of a channel that can still be received
from. -/
lemma Inv.returns_true {b : Bridge} (h : Inv b) {j k : Nat} {c : Supply} {e : Exchange}
    (hj : b.supplies[j]? = some c) (hsender : c.sender = some k) (hk : b.exchanges[k]? = some e)
    (hnone : c.result = none) :
    Inv (returns j c true (Bridge.setExchange k { e with slot := some c.answer } b)) where
  next := by
    show b.next = UInt64.ofNat ((b.exchanges.set k _).length + 1)
    rw [List.length_set, h.next]
  ids i x hx := by
    rcases (getElem?_set_eq_some hk).mp hx with ⟨rfl, rfl⟩ | ⟨-, hx⟩
    · exact h.ids _ e hk
    · exact h.ids i x hx
  pending id i hi := by
    obtain ⟨x, hx, rfl, hreg, hno⟩ := h.pending id i hi
    have hik : i ≠ k := by
      intro hik
      subst hik
      obtain ⟨y, hy, -, hpend, -⟩ := h.held j c i hj hsender
      rw [hx, Option.some.injEq] at hy
      subst hy
      exact hpend hi
    exact ⟨x, (getElem?_set_eq_some hk).mpr (.inr ⟨hik, hx⟩), rfl, hreg, hno⟩
  held i x m hx hm := by
    by_cases hij : i = j
    · subst hij
      rcases (getElem?_set_eq_some hj).mp hx with ⟨-, rfl⟩ | ⟨hne, -⟩
      · obtain rfl : k = m := Option.some.inj (hsender.symm.trans hm)
        obtain ⟨y, hy, hid, hpend, -⟩ := h.held i c k hj hsender
        rw [hk, Option.some.injEq] at hy
        subst hy
        exact ⟨_, (getElem?_set_eq_some hk).mpr (.inl ⟨rfl, rfl⟩), hid, hpend, by simp⟩
      · exact absurd rfl hne
    · have hx' : b.supplies[i]? = some x :=
        ((getElem?_set_eq_some hj).mp hx).elim (fun hand => absurd hand.1 hij) And.right
      have hmk : m ≠ k := by
        intro hmk
        subst hmk
        exact hij (h.once i j x c m hx' hj hm hsender)
      obtain ⟨y, hy, hid, hpend, hno⟩ := h.held i x m hx' hm
      exact ⟨y, (getElem?_set_eq_some hk).mpr (.inr ⟨hmk, hy⟩), hid, hpend, hno⟩
  once i i' x x' m hx hx' hm hm' := by
    obtain ⟨y, hy, -, hsender⟩ := returns_origin hj hx
    obtain ⟨y', hy', -, hsender'⟩ := returns_origin hj hx'
    exact h.once i i' y y' m hy hy' (hsender.trans hm) (hsender'.trans hm')
  source i x answer hx hanswer := by
    rcases (getElem?_set_eq_some hk).mp hx with ⟨rfl, rfl⟩ | ⟨hik, hx⟩
    · obtain ⟨y, hy, -, -, hno⟩ := h.held j c i hj hsender
      rw [hk, Option.some.injEq] at hy
      subst hy
      rcases hanswer with hslot | houtcome
      · exact ⟨j, _, (getElem?_set_eq_some hj).mpr (.inl ⟨rfl, rfl⟩), hsender,
          Option.some.inj hslot, rfl⟩
      · exact absurd (.inr houtcome) (hno hnone answer)
    · obtain ⟨n, y, hy, hi, hanswer, htrue⟩ := h.source i x answer hx hanswer
      have hnj : n ≠ j := by
        intro hnj
        subst hnj
        rw [hj, Option.some.injEq] at hy
        subst hy
        rw [hnone] at htrue
        simp at htrue
      exact ⟨n, y, (getElem?_set_eq_some hj).mpr (.inr ⟨hnj, hy⟩), hi, hanswer, htrue⟩
  sent i x hx htrue := by
    rcases (getElem?_set_eq_some hj).mp hx with ⟨rfl, rfl⟩ | ⟨-, hx⟩
    · rw [hsender]
      simp
    · exact h.sent i x hx htrue

lemma Inv.opens {b : Bridge} (h : Inv b) : Inv b.opens where
  next := by
    show b.next + 1 = UInt64.ofNat ((b.exchanges ++ [_]).length + 1)
    rw [h.next, List.length_append, List.length_singleton, UInt64.ofNat_add (b.exchanges.length + 1)]
    rfl
  ids k e he := by
    rcases getElem?_concat_eq_some.mp he with he | ⟨rfl, rfl⟩
    · exact h.ids k e he
    · exact h.next
  pending id k hk := by
    simp only [Bridge.opens] at hk
    split at hk
    · rename_i hid
      obtain rfl := Option.some.inj hk
      refine ⟨_, getElem?_concat_eq_some.mpr (.inr ⟨rfl, rfl⟩), hid.symm, rfl, ?_⟩
      rintro answer (hslot | houtcome)
      · simp at hslot
      · simp [Waiter.outcome] at houtcome
    · obtain ⟨e, he, hid, hreg, hno⟩ := h.pending id k hk
      exact ⟨e, getElem?_concat_eq_some.mpr (.inl he), hid, hreg, hno⟩
  held j c k hc hk := by
    obtain ⟨e, he, hid, hpend, hno⟩ := h.held j c k hc hk
    refine ⟨e, getElem?_concat_eq_some.mpr (.inl he), hid, ?_, hno⟩
    have hlt := (List.getElem?_eq_some_iff.mp he).1
    simp only [Bridge.opens]
    split
    · rw [ne_eq, Option.some.injEq]
      omega
    · exact hpend
  once := h.once
  source k e answer he hanswer := by
    rcases getElem?_concat_eq_some.mp he with he | ⟨rfl, rfl⟩
    · exact h.source k e answer he hanswer
    · rcases hanswer with hslot | houtcome
      · simp at hslot
      · simp [Waiter.outcome] at houtcome
  sent := h.sent

lemma Inv.lookup {b : Bridge} (h : Inv b) (id : UInt64) (answer : Answer) :
    Inv (b.lookup id answer) where
  next := h.next
  ids := h.ids
  pending := (h.unregister id).pending
  held j c k hc hk := by
    rcases getElem?_concat_eq_some.mp hc with hc | ⟨rfl, rfl⟩
    · exact (h.unregister id).held j c k hc hk
    · obtain ⟨e, he, hid, -, hno⟩ := h.pending id k hk
      refine ⟨e, he, hid, ?_, fun _ => hno⟩
      simp [Bridge.lookup, Bridge.unregister, hid]
  once j j' c c' k hc hc' hk hk' := by
    have hfound : ∀ {i : Nat} {x : Supply}, b.supplies[i]? = some x → x.sender = some k → b.pending id ≠ some k := by
      intro i x hx hxk hpend
      obtain ⟨e, he, hid, hno, -⟩ := h.held i x k hx hxk
      obtain ⟨e', he', hid', -⟩ := h.pending id k hpend
      rw [he, Option.some.injEq] at he'
      subst he'
      rw [hid'] at hno
      exact hno hpend
    rcases getElem?_concat_eq_some.mp hc with hc | ⟨rfl, rfl⟩
    · rcases getElem?_concat_eq_some.mp hc' with hc' | ⟨rfl, rfl⟩
      · exact h.once j j' c c' k hc hc' hk hk'
      · exact absurd hk' (hfound hc hk)
    · rcases getElem?_concat_eq_some.mp hc' with hc' | ⟨rfl, rfl⟩
      · exact absurd hk (hfound hc' hk')
      · rfl
  source k e answer' he hanswer := by
    obtain ⟨j, c, hc, hk, hanswer, htrue⟩ := h.source k e answer' he hanswer
    exact ⟨j, c, getElem?_concat_eq_some.mpr (.inl hc), hk, hanswer, htrue⟩
  sent j c hc htrue := by
    rcases getElem?_concat_eq_some.mp hc with hc | ⟨rfl, rfl⟩
    · exact h.sent j c hc htrue
    · simp at htrue

/-- The condition under which a call of `supply` sends. -/
lemma send_eq {j k : Nat} {c : Supply} {b : Bridge} {e : Exchange} (hnone : c.result = none)
    (hsender : c.sender = some k) (hk : b.exchanges[k]? = some e) (hslot : e.slot = none) :
    b.send j c = if e.waiter.receiving then
      returns j c true (setExchange k { e with slot := some c.answer } b) else returns j c false b := by
  simp only [Bridge.send, hnone, hsender, hk, hslot]

/-- A call of `supply` that has found a sender finds the slot free. -/
lemma Inv.slot_free {b : Bridge} (h : Inv b) {j k : Nat} {c : Supply}
    (hj : b.supplies[j]? = some c) (hnone : c.result = none) (hsender : c.sender = some k) :
    ∃ e, b.exchanges[k]? = some e ∧ e.id = c.id ∧ e.slot = none ∧
      ∀ answer, ¬ e.Holds answer := by
  obtain ⟨e, he, hid, -, hno⟩ := h.held j c k hj hsender
  refine ⟨e, he, hid, ?_, hno hnone⟩
  cases hslot : e.slot with
  | none => rfl
  | some answer => exact absurd (.inl hslot) (hno hnone answer)

lemma Inv.send {b : Bridge} (h : Inv b) {j : Nat} {c : Supply} (hj : b.supplies[j]? = some c) :
    Inv (b.send j c) := by
  cases hresult : c.result with
  | some result =>
    simp only [Bridge.send, hresult]
    exact h
  | none =>
    cases hsender : c.sender with
    | none =>
      simp only [Bridge.send, hresult, hsender]
      exact h.returns_false hj hresult
    | some k =>
      obtain ⟨e, he, -, hslot, -⟩ := h.slot_free hj hresult hsender
      rw [send_eq hresult hsender he hslot]
      split
      · exact h.returns_true hj hsender he hresult
      · exact h.returns_false hj hresult

lemma Inv.receive {b : Bridge} (h : Inv b) {k : Nat} {e : Exchange}
    (hk : b.exchanges[k]? = some e) : Inv (b.receive k e) := by
  rw [Bridge.receive]
  split
  · rename_i answer hparked hslot
    refine h.setExchange hk rfl (fun _ => rfl) fun answer' hholds => ?_
    rcases hholds with hnew | houtcome
    · simp at hnew
    · simp only [Waiter.outcome, Option.some.injEq, Outcome.ok.injEq] at houtcome
      exact .inl (houtcome ▸ hslot)
  · split
    · exact h
    · rename_i hparked hslot _
      refine h.setExchange hk rfl (fun _ => rfl) fun answer' hholds => ?_
      rcases hholds with hsame | houtcome
      · exact .inl hsame
      · simp [Waiter.outcome] at houtcome
  · exact h

lemma Inv.timeout {b : Bridge} (h : Inv b) {k : Nat} {e : Exchange}
    (hk : b.exchanges[k]? = some e) : Inv (b.timeout k e) := by
  rw [Bridge.timeout]
  split
  · refine h.setExchange hk rfl (fun _ => rfl) fun answer hholds => ?_
    rcases hholds with hsame | houtcome
    · exact .inl hsame
    · simp [Waiter.outcome] at houtcome
  · exact h

lemma Inv.remove {b : Bridge} (h : Inv b) {k : Nat} {e : Exchange}
    (hk : b.exchanges[k]? = some e) : Inv (b.remove k e) := by
  rw [Bridge.remove]
  split
  · rename_i outcome hwaiter
    refine (h.unregister e.id).setExchange hk rfl ?_ fun answer hholds => ?_
    · intro hpend
      simp [Bridge.unregister] at hpend
    · rcases hholds with hsame | houtcome
      · exact .inl hsame
      · exact .inr (by rw [hwaiter]; exact houtcome)
  · exact h

lemma Inv.drop {b : Bridge} (h : Inv b) {k : Nat} {e : Exchange}
    (hk : b.exchanges[k]? = some e) : Inv (b.drop k e) := by
  rw [Bridge.drop]
  split
  · rename_i outcome hwaiter
    refine h.setExchange hk rfl ?_ fun answer hholds => ?_
    · intro hpend
      obtain ⟨e', he', -, hreg, -⟩ := h.pending _ k hpend
      rw [hk, Option.some.injEq] at he'
      subst he'
      rw [hwaiter] at hreg
      simp [Waiter.registered] at hreg
    · rcases hholds with hgone | houtcome
      · simp at hgone
      · exact .inr (by rw [hwaiter]; exact houtcome)
  · exact h

/-- A step at an entry that may not be there: without it, nothing changes. -/
lemma elim_of_forall {α : Type} {x : Option α} {b : Bridge} {f : α → Bridge} {P : Bridge → Prop}
    (hnone : P b) (hsome : ∀ a, x = some a → P (f a)) : P (x.elim b f) := by
  cases x with
  | none => exact hnone
  | some a => exact hsome a rfl

/-- Every step keeps the invariant. -/
lemma Inv.act {b : Bridge} (h : Inv b) (action : Step) : Inv (b.act action) := by
  cases action with
  | opens => exact h.opens
  | receive k => exact elim_of_forall h fun e he => h.receive he
  | timeout k => exact elim_of_forall h fun e he => h.timeout he
  | remove k => exact elim_of_forall h fun e he => h.remove he
  | drop k => exact elim_of_forall h fun e he => h.drop he
  | lookup id answer => exact h.lookup id answer
  | send j => exact elim_of_forall h fun c hc => h.send hc

lemma inv_run (actions : List Step) : Inv (Machine.final step start actions) :=
  Machine.final_invariant step (fun action _ h => h.act action) inv_start actions

/-! ## Ids -/

/-- The counter of ids has not come round. -/
def Fresh (b : Bridge) : Step → Prop
  | .opens => b.exchanges.length < 2 ^ 64
  | _ => True

instance (b : Bridge) : DecidablePred b.Fresh := fun action => by
  cases action <;> unfold Fresh <;> infer_instance

/-- What a step can do. -/
inductive Moved (b : Bridge) : Step → Bridge → Prop
  | opens : Moved b .opens b.opens
  | stays (action : Step) : Moved b action b
  | waits {k : Nat} {e e' : Exchange} (action : Step) (hk : b.exchanges[k]? = some e)
      (hid : e'.id = e.id) : Moved b action (setExchange k e' b)
  | removes {k : Nat} {e e' : Exchange} (action : Step) (hk : b.exchanges[k]? = some e)
      (hid : e'.id = e.id) : Moved b action (setExchange k e' (unregister e.id b))
  | looks (action : Step) (id : UInt64) (answer : Answer) : Moved b action (b.lookup id answer)
  | refuses {j : Nat} {c : Supply} (action : Step) (hj : b.supplies[j]? = some c) :
      Moved b action (returns j c false b)
  | accepts {j k : Nat} {c : Supply} {e e' : Exchange} (action : Step)
      (hj : b.supplies[j]? = some c) (hk : b.exchanges[k]? = some e) (hid : e'.id = e.id) :
      Moved b action (returns j c true (setExchange k e' b))

lemma act_moved (b : Bridge) (action : Step) : Moved b action (b.act action) := by
  cases action with
  | opens => exact .opens
  | receive k =>
    refine elim_of_forall (.stays _) fun e he => ?_
    rw [Bridge.receive]
    split
    · exact .waits _ he rfl
    · split
      · exact .stays _
      · exact .waits _ he rfl
    · exact .stays _
  | timeout k =>
    refine elim_of_forall (.stays _) fun e he => ?_
    rw [Bridge.timeout]
    split
    · exact .waits _ he rfl
    · exact .stays _
  | remove k =>
    refine elim_of_forall (.stays _) fun e he => ?_
    rw [Bridge.remove]
    split
    · exact .removes _ he rfl
    · exact .stays _
  | drop k =>
    refine elim_of_forall (.stays _) fun e he => ?_
    rw [Bridge.drop]
    split
    · exact .waits _ he rfl
    · exact .stays _
  | lookup id answer => exact .looks _ id answer
  | send j =>
    refine elim_of_forall (.stays _) fun c hc => ?_
    rw [Bridge.send]
    split
    · exact .refuses _ hc
    · split
      · rename_i e he
        split
        · split
          · exact .accepts _ hc he rfl
          · exact .stays _
        · exact .refuses _ hc
      · exact .stays _
    · exact .stays _

/-- An exchange stays where it is and keeps its id. -/
lemma Moved.exchange {b b' : Bridge} {action : Step} (h : Moved b action b') {k : Nat} {e : Exchange}
    (hk : b.exchanges[k]? = some e) : ∃ e', b'.exchanges[k]? = some e' ∧ e'.id = e.id := by
  have hset : ∀ {i : Nat} {x x' : Exchange}, b.exchanges[i]? = some x → x'.id = x.id →
      ∃ e', (b.exchanges.set i x')[k]? = some e' ∧ e'.id = e.id := by
    intro i x x' hi hid
    by_cases hik : k = i
    · subst hik
      rw [hk, Option.some.injEq] at hi
      subst hi
      exact ⟨x', (getElem?_set_eq_some hk).mpr (.inl ⟨rfl, rfl⟩), hid⟩
    · exact ⟨e, (getElem?_set_eq_some hi).mpr (.inr ⟨hik, hk⟩), rfl⟩
  cases h with
  | stays _ => exact ⟨e, hk, rfl⟩
  | opens => exact ⟨e, getElem?_concat_eq_some.mpr (.inl hk), rfl⟩
  | waits _ hi hid => exact hset hi hid
  | removes _ hi hid => exact hset hi hid
  | looks _ id answer => exact ⟨e, hk, rfl⟩
  | refuses _ hj => exact ⟨e, hk, rfl⟩
  | accepts _ hj hi hid => exact hset hi hid

/-- A call of `supply` was there before with the same sender, or has just looked it up. -/
lemma Moved.supply {b b' : Bridge} {action : Step} (h : Moved b action b') {j : Nat} {c : Supply}
    (hj : b'.supplies[j]? = some c) :
    (∃ c', b.supplies[j]? = some c' ∧ c'.id = c.id ∧ c'.sender = c.sender) ∨
      c.sender = b.pending c.id := by
  cases h with
  | looks _ id answer =>
    rcases getElem?_concat_eq_some.mp hj with hj | ⟨-, rfl⟩
    · exact .inl ⟨c, hj, rfl, rfl⟩
    · exact .inr rfl
  | refuses _ hi => exact .inl (returns_origin hi hj)
  | @accepts i k x e e' _ hi hk hid =>
    exact .inl (@returns_origin (setExchange k e' b) i x true hi j c hj)
  | _ => exact .inl ⟨c, hj, rfl, rfl⟩

/-- Only the next id is put into the table. -/
lemma Moved.pending {b b' : Bridge} {action : Step} (h : Moved b action b') {id : UInt64} (hid : b.pending id = none)
    (hnext : action = .opens → id ≠ b.next) : b'.pending id = none := by
  have hunregister : ∀ other, (unregister other b).pending id = none := by
    intro other
    simp only [unregister]
    split
    · rfl
    · exact hid
  cases h with
  | opens =>
    simp only [Bridge.opens, if_neg (hnext rfl)]
    exact hid
  | removes _ hk _ => exact hunregister _
  | looks _ other answer => exact hunregister other
  | _ => exact hid

lemma Moved.length_le {b b' : Bridge} {action : Step} (h : Moved b action b')
    (hfresh : b.Fresh action) (hlen : b.exchanges.length ≤ 2 ^ 64) :
    b'.exchanges.length ≤ 2 ^ 64 := by
  cases h with
  | opens =>
    show (b.exchanges ++ [_]).length ≤ 2 ^ 64
    rw [List.length_append, List.length_singleton]
    exact hfresh
  | waits => exact List.length_set.trans_le hlen
  | removes => exact List.length_set.trans_le hlen
  | accepts => exact List.length_set.trans_le hlen
  | _ => exact hlen

/-- As long as the counter has not come round, an id names one exchange. -/
lemma Inv.id_inj {b : Bridge} (h : Inv b) (hlen : b.exchanges.length ≤ 2 ^ 64) {k k' : Nat}
    {e e' : Exchange} (hk : b.exchanges[k]? = some e) (hk' : b.exchanges[k']? = some e')
    (hid : e.id = e'.id) : k = k' := by
  have hlt := (List.getElem?_eq_some_iff.mp hk).1
  have hlt' := (List.getElem?_eq_some_iff.mp hk').1
  rw [h.ids k e hk, h.ids k' e' hk'] at hid
  have hmod := congrArg UInt64.toNat hid
  rw [UInt64.toNat_ofNat', UInt64.toNat_ofNat'] at hmod
  omega

/-- As long as the counter has not come round, the next id is new. -/
lemma Inv.id_ne_next {b : Bridge} (h : Inv b) (hlen : b.exchanges.length < 2 ^ 64) {k : Nat}
    {e : Exchange} (hk : b.exchanges[k]? = some e) : e.id ≠ b.next := by
  have hlt := (List.getElem?_eq_some_iff.mp hk).1
  rw [h.ids k e hk, h.next]
  intro hid
  have hmod := congrArg UInt64.toNat hid
  rw [UInt64.toNat_ofNat', UInt64.toNat_ofNat'] at hmod
  omega

/-- An id that is not in the table any more: calls of `supply` from the `n`-th on find nothing. -/
structure Forgotten (id : UInt64) (n : Nat) (b : Bridge) : Prop where
  known : ∃ (k : Nat) (e : Exchange), b.exchanges[k]? = some e ∧ e.id = id
  pending : b.pending id = none
  later : ∀ (j : Nat) (c : Supply), n ≤ j → b.supplies[j]? = some c → c.id = id → c.sender = none

lemma Forgotten.act {id : UInt64} {n : Nat} {b : Bridge} (hinv : Inv b) (h : Forgotten id n b)
    {action : Step} (hfresh : b.Fresh action) : Forgotten id n (b.act action) where
  known := by
    obtain ⟨k, e, hk, rfl⟩ := h.known
    obtain ⟨e', hk', hid⟩ := (act_moved b action).exchange hk
    exact ⟨k, e', hk', hid⟩
  pending := by
    obtain ⟨k, e, hk, hid⟩ := h.known
    refine (act_moved b action).pending h.pending fun hopens => ?_
    subst hopens
    rw [← hid]
    exact hinv.id_ne_next hfresh hk
  later j c hj hc hid := by
    rcases (act_moved b action).supply hc with ⟨c', hc', hid', hsender⟩ | hfound
    · rw [← hsender]
      exact h.later j c' hj hc' (hid'.trans hid)
    · rw [hfound, hid, h.pending]

lemma Forgotten.final {id : UInt64} {n : Nat} {b : Bridge} (hinv : Inv b) (h : Forgotten id n b)
    {actions : List Step} (hfresh : Machine.Every step Fresh b actions) :
    Inv (Machine.final step b actions) ∧ Forgotten id n (Machine.final step b actions) :=
  @Machine.final_invariant_of_every _ _ _ step (fun b => Inv b ∧ Forgotten id n b) Fresh
    (fun action _ hboth hgood => ⟨hboth.1.act action, hboth.2.act hboth.1 hgood⟩) _ ⟨hinv, h⟩
    actions hfresh

/-- Once `wait` has returned, its id is forgotten. -/
lemma Inv.forgotten {b : Bridge} (h : Inv b) (hlen : b.exchanges.length ≤ 2 ^ 64) {k : Nat}
    {e : Exchange} (hk : b.exchanges[k]? = some e) (hreturned : e.waiter.registered = false) :
    Forgotten e.id b.supplies.length b where
  known := ⟨k, e, hk, rfl⟩
  pending := by
    cases hpend : b.pending e.id with
    | none => rfl
    | some k' =>
      obtain ⟨e', hk', hid, hreg, -⟩ := h.pending e.id k' hpend
      obtain rfl := h.id_inj hlen hk hk' hid.symm
      rw [hk, Option.some.injEq] at hk'
      subst hk'
      rw [hreturned] at hreg
      exact absurd hreg Bool.false_ne_true
  later j c hj hc _ := by
    have hlt := (List.getElem?_eq_some_iff.mp hc).1
    omega

/-! ## Answers that are not too late -/

/-- The exchange to which a call of `supply` is about to send. -/
def recipient (b : Bridge) (j : Nat) : Option Exchange := do
  let c ← b.supplies[j]?
  let k ← if c.result = none then c.sender else none
  b.exchanges[k]?

/-- Nothing is sent between the moment at which `recv_timeout` has come back and the moment at which
the receiver is dropped. -/
def Timely (b : Bridge) : Step → Prop
  | .send j => ∀ e ∈ b.recipient j, e.waiter.receiving = true → e.waiter.outcome = none
  | _ => True

instance (b : Bridge) : DecidablePred b.Timely := fun action => by
  cases action <;> unfold Timely <;> infer_instance

/-- Every answer that `supply` has accepted is about to be received or has been. -/
def Delivers (b : Bridge) : Prop :=
  ∀ (j : Nat) (c : Supply) (k : Nat) (e : Exchange), b.supplies[j]? = some c →
    c.result = some true → c.sender = some k → b.exchanges[k]? = some e → e.Due c.answer

lemma delivers_start : Delivers start := by
  intro j c k e hc
  simp [start] at hc

lemma Delivers.setExchange {b : Bridge} (h : Delivers b) {k : Nat} {e e' : Exchange}
    (hk : b.exchanges[k]? = some e) (hdue : ∀ answer, e.Due answer → e'.Due answer) :
    Delivers (setExchange k e' b) := by
  intro j c i x hc htrue hi hx
  rcases (getElem?_set_eq_some hk).mp hx with ⟨rfl, rfl⟩ | ⟨-, hx⟩
  · exact hdue c.answer (h j c i e hc htrue hi hk)
  · exact h j c i x hc htrue hi hx

lemma Delivers.returns_false {b : Bridge} (h : Delivers b) {j : Nat} {c : Supply}
    (hj : b.supplies[j]? = some c) : Delivers (returns j c false b) := by
  intro i x k e hx htrue hk he
  rcases (getElem?_set_eq_some hj).mp hx with ⟨rfl, rfl⟩ | ⟨-, hx⟩
  · simp at htrue
  · exact h i x k e hx htrue hk he

lemma Delivers.returns_true {b : Bridge} (hinv : Inv b) (h : Delivers b) {j k : Nat} {c : Supply}
    {e : Exchange} (hj : b.supplies[j]? = some c) (hsender : c.sender = some k)
    (hk : b.exchanges[k]? = some e) (hparked : e.waiter = .parked) :
    Delivers (returns j c true (Bridge.setExchange k { e with slot := some c.answer } b)) := by
  intro i x m y hx htrue hm hy
  rcases (getElem?_set_eq_some hj).mp hx with ⟨rfl, rfl⟩ | ⟨hij, hx'⟩
  · obtain rfl : k = m := Option.some.inj (hsender.symm.trans hm)
    rcases (getElem?_set_eq_some hk).mp hy with ⟨-, rfl⟩ | ⟨hne, -⟩
    · exact .inl ⟨rfl, hparked⟩
    · exact absurd rfl hne
  · have hmk : m ≠ k := by
      intro hmk
      subst hmk
      exact hij (hinv.once i j x c m hx' hj hm hsender)
    have hy' : b.exchanges[m]? = some y :=
      ((getElem?_set_eq_some hk).mp hy).elim (fun hand => absurd hand.1 hmk) And.right
    exact h i x m y hx' htrue hm hy'

lemma Delivers.send {b : Bridge} (hinv : Inv b) (h : Delivers b) {j : Nat} {c : Supply}
    (hj : b.supplies[j]? = some c) (htimely : b.Timely (.send j)) : Delivers (b.send j c) := by
  cases hresult : c.result with
  | some result =>
    simp only [Bridge.send, hresult]
    exact h
  | none =>
    cases hsender : c.sender with
    | none =>
      simp only [Bridge.send, hresult, hsender]
      exact h.returns_false hj
    | some k =>
      obtain ⟨e, he, -, hslot, -⟩ := hinv.slot_free hj hresult hsender
      rw [send_eq hresult hsender he hslot]
      split
      · rename_i hreceiving
        refine h.returns_true hinv hj hsender he ?_
        have hrecipient : b.recipient j = some e := by
          simp [recipient, hj, hresult, hsender, he]
        have hnone := htimely e hrecipient hreceiving
        cases hwaiter : e.waiter with
        | parked => rfl
        | _ => simp [hwaiter, Waiter.outcome] at hnone
      · exact h.returns_false hj

lemma Delivers.act {b : Bridge} (hinv : Inv b) (h : Delivers b) {action : Step}
    (htimely : b.Timely action) : Delivers (b.act action) := by
  cases action with
  | opens =>
    intro j c k e hc htrue hk he
    rcases getElem?_concat_eq_some.mp he with he | ⟨rfl, -⟩
    · exact h j c k e hc htrue hk he
    · obtain ⟨e', he', -⟩ := hinv.held j c _ hc hk
      have hlt := (List.getElem?_eq_some_iff.mp he').1
      exact absurd hlt (lt_irrefl _)
  | receive k =>
    refine elim_of_forall h fun e he => ?_
    rw [Bridge.receive]
    split
    · rename_i answer hwaiter hslot
      refine h.setExchange he fun answer' hdue => ?_
      rcases hdue with ⟨hsame, -⟩ | houtcome
      · obtain rfl : answer = answer' := Option.some.inj (hslot.symm.trans hsame)
        exact .inr rfl
      · simp [hwaiter, Waiter.outcome] at houtcome
    · split
      · exact h
      · rename_i hwaiter hslot _
        refine h.setExchange he fun answer hdue => ?_
        rcases hdue with ⟨hsame, -⟩ | houtcome
        · simp [hslot] at hsame
        · simp [hwaiter, Waiter.outcome] at houtcome
    · exact h
  | timeout k =>
    refine elim_of_forall h fun e he => ?_
    rw [Bridge.timeout]
    split
    · rename_i hwaiter hslot
      refine h.setExchange he fun answer hdue => ?_
      rcases hdue with ⟨hsame, -⟩ | houtcome
      · simp [hslot] at hsame
      · simp [hwaiter, Waiter.outcome] at houtcome
    · exact h
  | remove k =>
    refine elim_of_forall h fun e he => ?_
    rw [Bridge.remove]
    split
    · rename_i outcome hwaiter
      have hunregister : Delivers (unregister e.id b) := h
      refine hunregister.setExchange he fun answer hdue => ?_
      rcases hdue with ⟨-, hparked⟩ | houtcome
      · simp [hwaiter] at hparked
      · exact .inr (by rw [hwaiter] at houtcome; exact houtcome)
    · exact h
  | drop k =>
    refine elim_of_forall h fun e he => ?_
    rw [Bridge.drop]
    split
    · rename_i outcome hwaiter
      refine h.setExchange he fun answer hdue => ?_
      rcases hdue with ⟨-, hparked⟩ | houtcome
      · simp [hwaiter] at hparked
      · exact .inr (by rw [hwaiter] at houtcome; exact houtcome)
    · exact h
  | lookup id answer =>
    intro j c k e hc htrue hk he
    rcases getElem?_concat_eq_some.mp hc with hc | ⟨-, rfl⟩
    · exact h j c k e hc htrue hk he
    · simp at htrue
  | send j => exact elim_of_forall h fun c hc => h.send hinv hc htimely

/-! ## What `wait` then returns -/

/-- The steps of `wait` that are still to come: those that have been taken do nothing again. -/
def restOfWait (k : Nat) : List Step := [.receive k, .remove k, .drop k]

lemma receive_due {b : Bridge} {k : Nat} {e : Exchange} {answer : Answer}
    (hk : b.exchanges[k]? = some e) (hdue : e.Due answer) :
    ∃ e', (b.act (.receive k)).exchanges[k]? = some e' ∧
      e'.waiter.outcome = some (.ok answer) := by
  have hact : b.act (.receive k) = b.receive k e := by
    rw [Bridge.act, hk]
    rfl
  rw [hact]
  rcases hdue with ⟨hslot, hparked⟩ | houtcome
  · refine ⟨{ e with slot := none, waiter := .received (.ok answer) }, ?_, rfl⟩
    rw [Bridge.receive, hparked, hslot]
    exact (getElem?_set_eq_some hk).mpr (.inl ⟨rfl, rfl⟩)
  · refine ⟨e, ?_, houtcome⟩
    have hnot : e.waiter ≠ .parked := by
      intro hparked
      simp [hparked, Waiter.outcome] at houtcome
    rw [Bridge.receive]
    split
    · exact absurd ‹_› hnot
    · exact absurd ‹_› hnot
    · exact hk

lemma remove_received {b : Bridge} {k : Nat} {e : Exchange} {outcome : Received}
    (hk : b.exchanges[k]? = some e) (houtcome : e.waiter.outcome = some outcome) :
    ∃ e', (b.act (.remove k)).exchanges[k]? = some e' ∧ e'.waiter.outcome = some outcome ∧
      e'.waiter.registered = false := by
  have hact : b.act (.remove k) = b.remove k e := by
    rw [Bridge.act, hk]
    rfl
  rw [hact, Bridge.remove]
  cases hwaiter : e.waiter with
  | parked => simp [hwaiter, Waiter.outcome] at houtcome
  | received received =>
    rw [hwaiter] at houtcome
    exact ⟨_, (getElem?_set_eq_some hk).mpr (.inl ⟨rfl, rfl⟩), houtcome, rfl⟩
  | removed received => exact ⟨e, hk, houtcome, by rw [hwaiter]; rfl⟩
  | returned received => exact ⟨e, hk, houtcome, by rw [hwaiter]; rfl⟩

lemma drop_removed {b : Bridge} {k : Nat} {e : Exchange} {outcome : Received}
    (hk : b.exchanges[k]? = some e) (houtcome : e.waiter.outcome = some outcome)
    (hremoved : e.waiter.registered = false) :
    ∃ e', (b.act (.drop k)).exchanges[k]? = some e' ∧ e'.waiter = .returned outcome := by
  have hact : b.act (.drop k) = b.drop k e := by
    rw [Bridge.act, hk]
    rfl
  rw [hact, Bridge.drop]
  cases hwaiter : e.waiter with
  | parked => simp [hwaiter, Waiter.outcome] at houtcome
  | received received => simp [hwaiter, Waiter.registered] at hremoved
  | removed received =>
    rw [hwaiter, Waiter.outcome, Option.some.injEq] at houtcome
    subst houtcome
    exact ⟨_, (getElem?_set_eq_some hk).mpr (.inl ⟨rfl, rfl⟩), rfl⟩
  | returned received =>
    rw [hwaiter, Waiter.outcome, Option.some.injEq] at houtcome
    subst houtcome
    exact ⟨e, hk, hwaiter⟩

/-- An answer that is due is what `wait` returns. -/
lemma restOfWait_due {b : Bridge} {k : Nat} {e : Exchange} {answer : Answer}
    (hk : b.exchanges[k]? = some e) (hdue : e.Due answer) :
    ∃ e', (Machine.final step b (restOfWait k)).exchanges[k]? = some e' ∧
      e'.waiter.result = some (conclude (.ok answer)) := by
  obtain ⟨e₁, hk₁, h₁⟩ := receive_due hk hdue
  obtain ⟨e₂, hk₂, h₂, hremoved⟩ := remove_received hk₁ h₁
  obtain ⟨e₃, hk₃, h₃⟩ := drop_removed hk₂ h₂ hremoved
  refine ⟨e₃, hk₃, ?_⟩
  rw [h₃, Waiter.result]

/-- What `wait` returns tells an answer from any other and from none. -/
lemma conclude_ok_inj {outcome : Received} {answer : Answer}
    (h : conclude outcome = conclude (.ok answer)) : outcome = .ok answer := by
  rcases outcome with (_ | response) | e | _ <;> rcases answer with _ | response'
  · rfl
  · simp [conclude] at h
  · simp [conclude] at h
  · rw [conclude, conclude, Outcome.ok.injEq] at h
    rw [h]
  · rw [conclude, conclude, Outcome.err.injEq] at h
    exact absurd h (by decide)
  · simp [conclude] at h
  · simp [conclude] at h
  · simp [conclude] at h

lemma outcome_of_result {waiter : Waiter} {answer : Answer}
    (h : waiter.result = some (conclude (.ok answer))) : waiter.outcome = some (.ok answer) := by
  cases waiter with
  | returned outcome =>
    rw [Waiter.result, Option.some.injEq] at h
    exact congrArg some (conclude_ok_inj h)
  | _ => simp [Waiter.result] at h

/-- A call of `supply` that has found no sender returns `false`. -/
lemma send_of_no_sender {b : Bridge} (h : Inv b) {j : Nat} {c : Supply}
    (hj : b.supplies[j]? = some c) (hsender : c.sender = none) :
    ∃ c', (b.act (.send j)).supplies[j]? = some c' ∧ c'.result = some false := by
  have hact : b.act (.send j) = b.send j c := by
    rw [Bridge.act, hj]
    rfl
  rw [hact]
  cases hresult : c.result with
  | none =>
    simp only [Bridge.send, hresult, hsender]
    exact ⟨_, (getElem?_set_eq_some hj).mpr (.inl ⟨rfl, rfl⟩), rfl⟩
  | some result =>
    cases result with
    | true => exact absurd hsender (h.sent j c hj hresult)
    | false =>
      simp only [Bridge.send, hresult]
      exact ⟨c, hj, hresult⟩

/-! ## Every run -/

lemma fresh_run {actions : List Step} (hfresh : Machine.Every step Fresh start actions) :
    (Machine.final step start actions).exchanges.length ≤ 2 ^ 64 :=
  @Machine.final_invariant_of_every _ _ _ step (fun b => b.exchanges.length ≤ 2 ^ 64) Fresh
    (fun action b hlen hgood => (act_moved b action).length_le hgood hlen) _ (Nat.zero_le _)
    actions hfresh

lemma delivers_run {actions : List Step} (htimely : Machine.Every step Timely start actions) :
    Delivers (Machine.final step start actions) :=
  (@Machine.final_invariant_of_every _ _ _ step (fun b => Inv b ∧ Delivers b) Timely
    (fun action _ hboth hgood => ⟨hboth.1.act action, hboth.2.act hboth.1 hgood⟩) _
    ⟨inv_start, delivers_start⟩ actions htimely).2

/-- In every run in which the counter of ids does not come round, an answer that `wait` returns was
accepted for its id, no two answers are accepted for one id, and after `wait` has returned every
later call of `supply` for its id returns `false`.  If nothing was sent between the end of a
`recv_timeout` and the drop of its receiver, an answer that `supply` has accepted is what the `wait`
for its id returns. -/
theorem delivery (actions : List Step) (hfresh : Machine.Every step Fresh start actions) :
    (∀ (k : Nat) (e : Exchange) (answer : Answer),
      (Machine.final step start actions).exchanges[k]? = some e →
      e.waiter.result = some (conclude (.ok answer)) →
      ∃ (j : Nat) (c : Supply), (Machine.final step start actions).supplies[j]? = some c ∧
        c.id = e.id ∧ c.answer = answer ∧ c.result = some true) ∧
    (∀ (j j' : Nat) (c c' : Supply), (Machine.final step start actions).supplies[j]? = some c →
      (Machine.final step start actions).supplies[j']? = some c' → c.id = c'.id →
      c.result = some true → c'.result = some true → j = j') ∧
    (∀ (k : Nat) (e : Exchange), (Machine.final step start actions).exchanges[k]? = some e →
      e.waiter.result.isSome = true → ∀ later : List Step,
      Machine.Every step Fresh (Machine.final step start actions) later →
      ∀ (j : Nat) (c : Supply), (Machine.final step start actions).supplies.length ≤ j →
      (Machine.final step start (actions ++ later)).supplies[j]? = some c → c.id = e.id →
      c.result ≠ some true ∧
        ∃ c', ((Machine.final step start (actions ++ later)).act (.send j)).supplies[j]? = some c' ∧
          c'.result = some false) ∧
    (Machine.Every step Timely start actions → ∀ (j : Nat) (c : Supply),
      (Machine.final step start actions).supplies[j]? = some c → c.result = some true →
      ∃ (k : Nat) (e : Exchange), (Machine.final step start actions).exchanges[k]? = some e ∧
        e.id = c.id ∧ ∃ e', (Machine.final step start (actions ++ restOfWait k)).exchanges[k]? =
          some e' ∧ e'.waiter.result = some (conclude (.ok c.answer))) := by
  have hinv := inv_run actions
  have hlen := fresh_run hfresh
  refine ⟨?_, ?_, ?_, ?_⟩
  · intro k e answer hk hresult
    obtain ⟨j, c, hc, hsender, hanswer, htrue⟩ :=
      hinv.source k e answer hk (.inr (outcome_of_result hresult))
    obtain ⟨e', hk', hid, -⟩ := hinv.held j c k hc hsender
    rw [hk, Option.some.injEq] at hk'
    subst hk'
    exact ⟨j, c, hc, hid.symm, hanswer, htrue⟩
  · intro j j' c c' hc hc' hid htrue htrue'
    obtain ⟨k, hk⟩ := Option.ne_none_iff_exists'.mp (hinv.sent j c hc htrue)
    obtain ⟨k', hk'⟩ := Option.ne_none_iff_exists'.mp (hinv.sent j' c' hc' htrue')
    obtain ⟨e, he, heid, -⟩ := hinv.held j c k hc hk
    obtain ⟨e', he', heid', -⟩ := hinv.held j' c' k' hc' hk'
    obtain rfl := hinv.id_inj hlen he he' (heid.trans (hid.trans heid'.symm))
    exact hinv.once j j' c c' k hc hc' hk hk'
  · intro k e hk hreturned later hlater j c hj hc hid
    have hremoved : e.waiter.registered = false := by
      cases hwaiter : e.waiter with
      | returned outcome => rfl
      | _ => simp [hwaiter, Waiter.result] at hreturned
    obtain ⟨hinv', hforgotten⟩ := (hinv.forgotten hlen hk hremoved).final hinv hlater
    rw [Machine.final_append] at hc ⊢
    have hsender := hforgotten.later j c hj hc hid
    exact ⟨fun htrue => hinv'.sent j c hc htrue hsender, send_of_no_sender hinv' hc hsender⟩
  · intro htimely j c hc htrue
    obtain ⟨k, hk⟩ := Option.ne_none_iff_exists'.mp (hinv.sent j c hc htrue)
    obtain ⟨e, he, hid, -⟩ := hinv.held j c k hc hk
    refine ⟨k, e, he, hid, ?_⟩
    rw [Machine.final_append]
    exact restOfWait_due he (delivers_run htimely j c k e hc htrue hk he)

/-- Two exchanges, the second answered before the first, which the host reports as failed. -/
def outOfOrder : List Step :=
  [.opens, .opens, .lookup 2 (some [0x90, 0x00]), .lookup 1 none, .send 0, .receive 1, .send 1,
    .receive 0, .remove 1, .drop 1]

theorem delivery_outOfOrder :
    ∃ (k : Nat) (e : Exchange), (Machine.final step start outOfOrder).exchanges[k]? = some e ∧
      e.id = 1 ∧ ∃ e', (Machine.final step start (outOfOrder ++ restOfWait k)).exchanges[k]? =
        some e' ∧ e'.waiter.result = some (conclude (.ok none)) :=
  (delivery outOfOrder (by decide +kernel)).2.2.2 (by decide +kernel) 1
    ⟨1, none, some 0, some true⟩ (by decide +kernel) rfl

/-- `recv_timeout` gives up, the host's answer is accepted, and `wait` returns that there was no
answer. -/
theorem accepted_after_timeout :
    (Machine.final step start [.opens, .timeout 0, .lookup 1 (some [0x90, 0x00]), .send 0,
      .remove 0, .drop 0]).supplies = [⟨1, some [0x90, 0x00], some 0, some true⟩] ∧
    (Machine.final step start [.opens, .timeout 0, .lookup 1 (some [0x90, 0x00]), .send 0,
      .remove 0, .drop 0]).exchanges.map (fun e => e.waiter.result) =
      [some (.err "the host did not answer within 30s")] := by
  decide +kernel

end Bridge

end IdentityMobile
