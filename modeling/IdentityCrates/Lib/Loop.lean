import Mathlib.Data.List.Chain
import IdentityCrates.Lib.Slice

/-!
# Loops

A `while` loop by its body: a turn of the loop goes round once more or leaves with a result.
Nothing makes such a loop end, so it is run for a number of turns, and has no result if it is still
running after them (`loop`).

The loops of this kind that a parser is made of read records one behind the other: what is left of
the input is sliced off, a record is decoded from its start, and the offset moves on by the size of
the record (`RecordFormat.walkTurn`).  A record that takes up at least one element and no more than
there are keeps the offset within the input and moving: the loop comes to an end
(`RecordFormat.loop_walkTurn`), no slice is out of range (`RecordFormat.walk_ne_panic`), and the
records that are read stand one behind the other, each in a part of the input of its own
(`RecordFormat.inOrder_visited`).  `RecordFormat.getsThrough_walk` puts the three together.
-/

namespace Rust

variable {α δ ε ρ σ R : Type}

/-- What a turn of a loop comes to. -/
inductive Turn (σ ρ : Type) where
  | again (s : σ)
  | done (r : ρ)
  deriving DecidableEq, Repr

/-- A loop with a limit on its turns: what it comes back with, if it is over by then. -/
def loop (turn : σ → Outcome ε (Turn σ ρ)) : Nat → σ → Option (Outcome ε ρ)
  | 0, _ => none
  | n + 1, s =>
    match turn s with
    | .ok (.again s') => loop turn n s'
    | .ok (.done r) => some (.ok r)
    | .err e => some (.err e)
    | .panic => some .panic

/-- The states that the first turns of a loop start from. -/
def turns (turn : σ → Outcome ε (Turn σ ρ)) : Nat → σ → List σ
  | 0, _ => []
  | n + 1, s =>
    match turn s with
    | .ok (.again s') => s :: turns turn n s'
    | _ => [s]

/-! ## Records one behind the other -/

/-- How a record is read off the start of a sequence, and how much of the sequence it takes up.
Nothing but what it takes up matters. -/
structure RecordFormat (α δ R : Type) where
  decode : List α → Outcome δ R
  size : R → Nat
  size_pos : ∀ {xs r}, decode xs = .ok r → 0 < size r
  size_le : ∀ {xs r}, decode xs = .ok r → size r ≤ xs.length
  decode_take : ∀ {xs r}, decode xs = .ok r → decode (xs.take (size r)) = .ok r
  decode_ne_panic : ∀ xs, decode xs ≠ .panic

namespace RecordFormat

variable (F : RecordFormat α δ R)

section Walk

variable (absorb : σ → R → Outcome ε σ) (refuse : σ → δ → Outcome ε σ) (xs : List α)

/-- A turn of the loop: while the offset is inside the sequence, a record is decoded from what is
behind it. -/
def walkTurn (pos : Nat × σ) : Outcome ε (Turn (Nat × σ) σ) :=
  if pos.1 < xs.length then do
    let rest ← sliceFrom xs pos.1
    match F.decode rest with
    | .ok r => do
      let s ← absorb pos.2 r
      return .again (pos.1 + F.size r, s)
    | .err e => do
      let s ← refuse pos.2 e
      return .done s
    | .panic => .panic
  else return .done pos.2

/-- The loop as a function: it ends because the offset moves on. -/
def walk (offset : Nat) (s : σ) : Outcome ε σ :=
  if offset < xs.length then do
    let rest ← sliceFrom xs offset
    match _h : F.decode rest with
    | .ok r => do
      let s ← absorb s r
      walk (offset + F.size r) s
    | .err e => refuse s e
    | .panic => .panic
  else return s
termination_by xs.length - offset
decreasing_by
  have := F.size_pos ‹_›
  omega

/-- The record that is decoded at an offset, with the offset. -/
def recordAt (offset : Nat) : Option (Nat × R) := (F.decode (xs.drop offset)).toOption.map (offset, ·)

end Walk

/-- The records that the first turns of a loop decode, each with the offset it is found at. -/
def visited (turn : Nat × σ → Outcome ε (Turn (Nat × σ) ρ)) (xs : List α) (n : Nat)
    (pos : Nat × σ) : List (Nat × R) :=
  (turns turn n pos).filterMap fun pos => F.recordAt xs pos.1

/-- Where a record that was found ends. -/
def stop (found : Nat × R) : Nat := found.1 + F.size found.2

/-- Records that stand one behind the other from an offset on, each in a part of the sequence that
decodes to it and that it has for itself. -/
structure InOrder (xs : List α) (start : Nat) (found : List (Nat × R)) : Prop where
  first : ∀ p ∈ found.head?, p.1 = start
  nonempty : ∀ p ∈ found, p.1 < F.stop p
  inRange : ∀ p ∈ found, start ≤ p.1 ∧ F.stop p ≤ xs.length
  decodes : ∀ p ∈ found, F.decode ((xs.drop p.1).take (F.size p.2)) = .ok p.2
  adjacent : found.IsChain fun p q => F.stop p = q.1
  disjoint : found.Pairwise fun p q => F.stop p ≤ q.1

/-- A loop that gets through the records of a sequence from an offset on: it comes to an end, with
an outcome that is no panic, and whatever the number of turns it has made, the records that it has
visited stand one behind the other. -/
structure GetsThrough (xs : List α) (turn : Nat × σ → Outcome ε (Turn (Nat × σ) ρ)) (start : Nat)
    (s : σ) (out : Outcome ε ρ) : Prop where
  ends : ∀ n, xs.length - start < n → loop turn n (start, s) = some out
  noPanic : out ≠ .panic
  visits : ∀ n, F.InOrder xs start (F.visited turn xs n (start, s))

variable {F} {absorb : σ → R → Outcome ε σ} {refuse : σ → δ → Outcome ε σ} {xs : List α}
  {offset : Nat} {s : σ}

/-! ### A record at an offset -/

/-- A record that is decoded from what is left ends within the sequence. -/
lemma stop_le {r : R} (h : F.decode (xs.drop offset) = .ok r) :
    F.stop (offset, r) ≤ xs.length ∧ offset < F.stop (offset, r) := by
  have hpos := F.size_pos h
  have hle := F.size_le h
  rw [List.length_drop] at hle
  simp only [stop]
  omega

lemma recordAt_of_ok {r : R} (h : F.decode (xs.drop offset) = .ok r) :
    F.recordAt xs offset = some (offset, r) := by
  rw [recordAt, h, Outcome.toOption_ok, Option.map_some]

lemma recordAt_of_err {e : δ} (h : F.decode (xs.drop offset) = .err e) :
    F.recordAt xs offset = none := by
  rw [recordAt, h, Outcome.toOption_err, Option.map_none]

/-- Behind the sequence there is no record. -/
lemma recordAt_of_le (h : xs.length ≤ offset) : F.recordAt xs offset = none := by
  cases hdecode : F.decode (xs.drop offset) with
  | ok r => have := stop_le hdecode; omega
  | err e => exact recordAt_of_err hdecode
  | panic => exact absurd hdecode (F.decode_ne_panic _)

/-! ### One turn -/

lemma walkTurn_of_ok {r : R} (h : F.decode (xs.drop offset) = .ok r) :
    F.walkTurn absorb refuse xs (offset, s) =
      (absorb s r >>= fun s' => .ok (.again (F.stop (offset, r), s'))) := by
  have hlt := stop_le h
  rw [walkTurn, if_pos (by simp only; omega), sliceFrom_eq (by simp only; omega), Outcome.ok_bind, h]
  rfl

lemma walkTurn_of_err {e : δ} (hlt : offset < xs.length)
    (h : F.decode (xs.drop offset) = .err e) :
    F.walkTurn absorb refuse xs (offset, s) = (refuse s e >>= fun s' => .ok (.done s')) := by
  rw [walkTurn, if_pos hlt, sliceFrom_eq hlt.le, Outcome.ok_bind, h]
  rfl

lemma walkTurn_of_le (h : xs.length ≤ offset) :
    F.walkTurn absorb refuse xs (offset, s) = .ok (.done s) := by
  rw [walkTurn, if_neg (not_lt.mpr h), Outcome.pure_eq]

lemma walk_of_ok {r : R} (h : F.decode (xs.drop offset) = .ok r) :
    F.walk absorb refuse xs offset s =
      (absorb s r >>= fun s' => F.walk absorb refuse xs (F.stop (offset, r)) s') := by
  have hlt := stop_le h
  rw [walk, if_pos (by omega), sliceFrom_eq (by omega), Outcome.ok_bind]
  split
  · rename_i r' hr'
    obtain rfl : r = r' := Outcome.ok.inj (h.symm.trans hr')
    rfl
  · rename_i hr'
    cases h.symm.trans hr'
  · rename_i hr'
    cases h.symm.trans hr'

lemma walk_of_err {e : δ} (hlt : offset < xs.length) (h : F.decode (xs.drop offset) = .err e) :
    F.walk absorb refuse xs offset s = refuse s e := by
  rw [walk, if_pos hlt, sliceFrom_eq hlt.le, Outcome.ok_bind]
  split
  · rename_i hr'
    cases h.symm.trans hr'
  · rename_i e' he'
    obtain rfl : e = e' := Outcome.err.inj (h.symm.trans he')
    rfl
  · rename_i hr'
    cases h.symm.trans hr'

lemma walk_of_le (h : xs.length ≤ offset) :
    F.walk absorb refuse xs offset s = .ok s := by
  rw [walk, if_neg (not_lt.mpr h), Outcome.pure_eq]

/-- What is at an offset: nothing any more, a record, or something that does not decode. -/
lemma cases_at (F : RecordFormat α δ R) (xs : List α) (offset : Nat) :
    xs.length ≤ offset ∨ (∃ r, F.decode (xs.drop offset) = .ok r) ∨
      offset < xs.length ∧ ∃ e, F.decode (xs.drop offset) = .err e := by
  by_cases hlt : offset < xs.length
  · right
    cases h : F.decode (xs.drop offset) with
    | ok r => exact Or.inl ⟨r, rfl⟩
    | err e => exact Or.inr ⟨hlt, e, rfl⟩
    | panic => exact absurd h (F.decode_ne_panic _)
  · exact Or.inl (not_lt.mp hlt)

/-! ### The whole loop -/

/-- The loop ends: a turn for each element that is left, and one more, are enough, and what it comes
back with is what the function returns. -/
theorem loop_walkTurn {n : Nat} (hn : xs.length - offset < n) :
    loop (F.walkTurn absorb refuse xs) n (offset, s) =
      some (F.walk absorb refuse xs offset s) := by
  induction n generalizing offset s with
  | zero => omega
  | succ n ih =>
    rcases F.cases_at xs offset with hle | ⟨r, hr⟩ | ⟨hlt, e, he⟩
    · rw [loop, walkTurn_of_le hle, walk_of_le hle]
    · have hstop := stop_le hr
      rw [loop, walkTurn_of_ok hr, walk_of_ok hr]
      cases absorb s r with
      | ok s' => exact ih (by omega)
      | err e => rfl
      | panic => rfl
    · rw [loop, walkTurn_of_err hlt he, walk_of_err hlt he]
      cases refuse s e <;> rfl

/-- No turn slices out of range, so the loop panics only where what it does with a record does. -/
theorem walk_ne_panic (habsorb : ∀ s r, absorb s r ≠ .panic) (hrefuse : ∀ s e, refuse s e ≠ .panic)
    (xs : List α) (offset : Nat) (s : σ) : F.walk absorb refuse xs offset s ≠ .panic := by
  induction hk : xs.length - offset using Nat.strong_induction_on generalizing offset s with
  | _ k ih =>
    rcases F.cases_at xs offset with hle | ⟨r, hr⟩ | ⟨hlt, e, he⟩
    · rw [walk_of_le hle]
      simp
    · have hstop := stop_le hr
      rw [walk_of_ok hr]
      exact Outcome.bind_ne_panic (habsorb s r) fun s' _ => ih _ (by omega) _ s' rfl
    · rw [walk_of_err hlt he]
      exact hrefuse s e

/-! ### What is visited -/

lemma InOrder.nil (xs : List α) (start : Nat) : F.InOrder xs start [] where
  first p hp := by simp at hp
  nonempty p hp := by simp at hp
  inRange p hp := by simp at hp
  decodes p hp := by simp at hp
  adjacent := List.isChain_nil
  disjoint := List.Pairwise.nil

/-- A record in front of the records that stand behind it. -/
lemma InOrder.cons {r : R} (h : F.decode (xs.drop offset) = .ok r) {found : List (Nat × R)}
    (hfound : F.InOrder xs (F.stop (offset, r)) found) :
    F.InOrder xs offset ((offset, r) :: found) where
  first p hp := by
    obtain rfl : (offset, r) = p := by simpa using hp
    rfl
  nonempty := by
    rintro p (_ | ⟨_, hp⟩)
    · exact (stop_le h).2
    · exact hfound.nonempty p hp
  inRange := by
    rintro p (_ | ⟨_, hp⟩)
    · exact ⟨le_rfl, (stop_le h).1⟩
    · obtain ⟨hle, hstop⟩ := hfound.inRange p hp
      exact ⟨(stop_le h).2.le.trans hle, hstop⟩
  decodes := by
    rintro p (_ | ⟨_, hp⟩)
    · exact F.decode_take h
    · exact hfound.decodes p hp
  adjacent := List.isChain_cons.mpr ⟨fun q hq => (hfound.first q hq).symm, hfound.adjacent⟩
  disjoint := List.pairwise_cons.mpr ⟨fun q hq => (hfound.inRange q hq).1, hfound.disjoint⟩

/-- However many turns the loop has made, the records it has read stand one behind the other. -/
theorem inOrder_visited (n : Nat) :
    F.InOrder xs offset (F.visited (F.walkTurn absorb refuse xs) xs n (offset, s)) := by
  unfold visited
  induction n generalizing offset s with
  | zero => exact InOrder.nil xs offset
  | succ n ih =>
    rcases F.cases_at xs offset with hle | ⟨r, hr⟩ | ⟨hlt, e, he⟩
    · rw [turns, walkTurn_of_le hle]
      simp only [List.filterMap_cons, recordAt_of_le hle, List.filterMap_nil]
      exact InOrder.nil xs offset
    · rw [turns, walkTurn_of_ok hr]
      cases absorb s r with
      | ok s' =>
        simp only [Outcome.ok_bind, List.filterMap_cons, recordAt_of_ok hr]
        exact InOrder.cons hr ih
      | err e =>
        simp only [Outcome.err_bind, List.filterMap_cons, recordAt_of_ok hr, List.filterMap_nil]
        exact InOrder.cons hr (InOrder.nil xs _)
      | panic =>
        simp only [Outcome.panic_bind, List.filterMap_cons, recordAt_of_ok hr, List.filterMap_nil]
        exact InOrder.cons hr (InOrder.nil xs _)
    · have hnone : turns (F.walkTurn absorb refuse xs) (n + 1) (offset, s) = [(offset, s)] := by
        rw [turns, walkTurn_of_err hlt he]
        cases refuse s e <;> rfl
      rw [hnone]
      simp only [List.filterMap_cons, recordAt_of_err he, List.filterMap_nil]
      exact InOrder.nil xs offset

/-- The loop gets through a sequence if what it does with a record does not panic. -/
theorem getsThrough_walk (habsorb : ∀ s r, absorb s r ≠ .panic)
    (hrefuse : ∀ s e, refuse s e ≠ .panic) (xs : List α) (start : Nat) (s : σ) :
    F.GetsThrough xs (F.walkTurn absorb refuse xs) start s
      (F.walk absorb refuse xs start s) where
  ends _ hn := loop_walkTurn hn
  noPanic := walk_ne_panic habsorb hrefuse xs start s
  visits n := inOrder_visited n

end RecordFormat

end Rust
