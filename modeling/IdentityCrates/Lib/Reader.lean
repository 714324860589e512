import IdentityCrates.Lib.Octets
import IdentityCrates.Lib.Slice

/-!
# Readers over a cursor

A cursor over a byte string that only moves forward, and what it means for a method on it to read a
format exactly.

A format is a relation between byte strings and values.  `Reads x P` says three things about the
method `x` on a valid cursor: it never panics, what it returns is related by `P` to the bytes it
has moved over, and wherever the input goes on with bytes that `P` relates to a value, it returns
that value and stops behind them.  Sequences and repetitions of exact readers are exact for the
concatenated formats, so both directions of a parser's round trip come from one lemma per field.
-/

namespace Rust

open Octets

/-- A position in a byte string. -/
structure Cursor where
  data : Bytes
  pos : Nat
  deriving DecidableEq, Repr

namespace Cursor

/-- A cursor at the start of `data`. -/
def new (data : Bytes) : Cursor := ⟨data, 0⟩

/-- The bytes from the cursor on. -/
def rest (c : Cursor) : Bytes := c.data.drop c.pos

/-- The cursor `n` bytes further on. -/
def advance (c : Cursor) (n : Nat) : Cursor := { c with pos := c.pos + n }

/-- The cursor has not left its data. -/
def Valid (c : Cursor) : Prop := c.pos ≤ c.data.length

@[simp] lemma advance_zero (c : Cursor) : c.advance 0 = c := rfl

@[simp] lemma advance_advance (c : Cursor) (m n : Nat) :
    (c.advance m).advance n = c.advance (m + n) := by
  simp only [advance, Nat.add_assoc]

@[simp] lemma rest_new (data : Bytes) : (new data).rest = data := rfl

lemma valid_new (data : Bytes) : (new data).Valid := Nat.zero_le _

lemma rest_advance (c : Cursor) (n : Nat) : (c.advance n).rest = c.rest.drop n := by
  simp only [rest, advance, List.drop_drop]

lemma length_rest (c : Cursor) : c.rest.length = c.data.length - c.pos := List.length_drop

lemma Valid.advance {c : Cursor} (h : c.Valid) {n : Nat} (hn : n ≤ c.rest.length) :
    (c.advance n).Valid := by
  rw [length_rest] at hn
  unfold Valid at h ⊢
  show c.pos + n ≤ c.data.length
  omega

lemma Valid.advance_of_prefix {c : Cursor} (h : c.Valid) {bytes : Bytes}
    (hbytes : bytes <+: c.rest) : (c.advance bytes.length).Valid :=
  h.advance hbytes.length_le

end Cursor

/-! ## Exact readers -/

variable {ε α β : Type}

/-- The method reads exactly the format `P`. -/
structure Reads (x : Proc Cursor ε α) (P : Bytes → α → Prop) : Prop where
  safe : ∀ c : Cursor, c.Valid → (x c).1 ≠ .panic
  exact : ∀ (c c' : Cursor) (a : α), c.Valid →
    (x c = (.ok a, c') ↔ ∃ bytes, bytes <+: c.rest ∧ P bytes a ∧ c' = c.advance bytes.length)

namespace Reads

variable {x : Proc Cursor ε α} {P : Bytes → α → Prop}

/-- What an exact reader has read stands in the input, and the cursor is behind it. -/
lemma of_ok (h : Reads x P) {c c' : Cursor} {a : α} (hc : c.Valid) (hx : x c = (.ok a, c')) :
    ∃ bytes, c.rest = bytes ++ c'.rest ∧ P bytes a ∧ c' = c.advance bytes.length ∧ c'.Valid := by
  obtain ⟨bytes, hstart, hP, rfl⟩ := (h.exact c c' a hc).mp hx
  refine ⟨bytes, ?_, hP, rfl, hc.advance_of_prefix hstart⟩
  obtain ⟨rest, hrest⟩ := hstart
  rw [Cursor.rest_advance, ← hrest, List.drop_left]

/-- An exact reader gets through whatever its format admits. -/
lemma to_ok (h : Reads x P) {c : Cursor} {bytes rest : Bytes} {a : α} (hc : c.Valid)
    (hrest : c.rest = bytes ++ rest) (hP : P bytes a) :
    x c = (.ok a, c.advance bytes.length) :=
  (h.exact c _ a hc).mpr ⟨bytes, ⟨rest, hrest.symm⟩, hP, rfl⟩

lemma congr (h : Reads x P) {Q : Bytes → α → Prop} (hPQ : ∀ bytes a, P bytes a ↔ Q bytes a) :
    Reads x Q := by
  refine ⟨h.safe, ?_⟩
  intro c c' a hc
  rw [h.exact c c' a hc]
  simp only [hPQ]

lemma pure (a : α) : Reads (Pure.pure a : Proc Cursor ε α) fun bytes b => bytes = [] ∧ b = a := by
  refine ⟨fun c _ => by simp, ?_⟩
  intro c c' b _
  rw [Proc.pure_apply, Prod.mk.injEq, Outcome.ok.injEq]
  constructor
  · rintro ⟨rfl, rfl⟩
    exact ⟨[], List.nil_prefix, ⟨rfl, rfl⟩, rfl⟩
  · rintro ⟨_, -, ⟨rfl, rfl⟩, rfl⟩
    exact ⟨rfl, rfl⟩

/-- One reader after the other reads one format after the other. -/
lemma bind {f : α → Proc Cursor ε β} {Q : α → Bytes → β → Prop} (hx : Reads x P)
    (hf : ∀ a, Reads (f a) (Q a)) :
    Reads (x >>= f) fun bytes b => ∃ u v a, bytes = u ++ v ∧ P u a ∧ Q a v b := by
  refine ⟨?_, ?_⟩
  · intro c hc
    refine Proc.bind_ne_panic (hx.safe c hc) ?_
    intro a c' hok
    obtain ⟨_, _, _, _, hc'⟩ := hx.of_ok hc hok
    exact (hf a).safe c' hc'
  · intro c c' b hc
    rw [Proc.bind_eq_ok]
    constructor
    · rintro ⟨a, c₁, h₁, h₂⟩
      obtain ⟨u, hu, hP, rfl, hc₁⟩ := hx.of_ok hc h₁
      obtain ⟨v, hv, hQ, rfl, -⟩ := (hf a).of_ok hc₁ h₂
      refine ⟨u ++ v, ?_, ⟨u, v, a, rfl, hP, hQ⟩, ?_⟩
      · rw [hu, hv, ← List.append_assoc]
        exact List.prefix_append _ _
      · rw [Cursor.advance_advance, List.length_append]
    · rintro ⟨_, ⟨rest, hrest⟩, ⟨u, v, a, rfl, hP, hQ⟩, rfl⟩
      have hu : u <+: c.rest := ⟨v ++ rest, by rw [← hrest, List.append_assoc]⟩
      have hafter : (c.advance u.length).rest = v ++ rest := by
        rw [Cursor.rest_advance, ← hrest, List.append_assoc, List.drop_left]
      refine ⟨a, c.advance u.length,
        hx.to_ok hc (by rw [← hrest, List.append_assoc]) hP, ?_⟩
      rw [(hf a).to_ok (hc.advance_of_prefix hu) hafter hQ, Cursor.advance_advance,
        List.length_append]

/-- A reader whose value is converted by a step that cannot fail on what has been read. -/
lemma bind_pure_of {f : α → Proc Cursor ε β} {g : α → β} (hx : Reads x P)
    (hf : ∀ bytes a, P bytes a → f a = Pure.pure (g a)) :
    Reads (x >>= f) fun bytes b => ∃ a, P bytes a ∧ b = g a := by
  refine ⟨?_, ?_⟩
  · intro c hc
    refine Proc.bind_ne_panic (hx.safe c hc) ?_
    intro a c' hok
    obtain ⟨bytes, -, hP, -⟩ := hx.of_ok hc hok
    rw [hf bytes a hP, Proc.pure_apply]
    simp
  · intro c c' b hc
    rw [Proc.bind_eq_ok]
    constructor
    · rintro ⟨a, c₁, h₁, h₂⟩
      obtain ⟨bytes, hstart, hP, rfl⟩ := (hx.exact c c₁ a hc).mp h₁
      rw [hf bytes a hP, Proc.pure_apply, Prod.mk.injEq, Outcome.ok.injEq] at h₂
      obtain ⟨rfl, rfl⟩ := h₂
      exact ⟨bytes, hstart, ⟨a, hP, rfl⟩, rfl⟩
    · rintro ⟨bytes, hstart, ⟨a, hP, rfl⟩, rfl⟩
      refine ⟨a, _, (hx.exact c _ a hc).mpr ⟨bytes, hstart, hP, rfl⟩, ?_⟩
      rw [hf bytes a hP, Proc.pure_apply]

end Reads

/-! ## Formats with one encoding for each value -/

/-- The method reads exactly the encodings of the values that `Ok` admits. -/
def Decodes (x : Proc Cursor ε α) (enc : α → Bytes) (Ok : α → Prop) : Prop :=
  Reads x fun bytes a => bytes = enc a ∧ Ok a

/-- `for _ in 0..n { out.push(x?) }`. -/
def readMany (x : Proc Cursor ε α) : Nat → Proc Cursor ε (List α)
  | 0 => pure []
  | n + 1 => do
    let a ← x
    let as ← readMany x n
    return a :: as

namespace Decodes

variable {x : Proc Cursor ε α} {enc : α → Bytes} {Ok : α → Prop}

/-- A value of one format, then a value of another. -/
lemma bind {f : α → Proc Cursor ε β} {Q : α → Bytes → β → Prop} (hx : Decodes x enc Ok)
    (hf : ∀ a, Reads (f a) (Q a)) :
    Reads (x >>= f) fun bytes b => ∃ a v, bytes = enc a ++ v ∧ Ok a ∧ Q a v b := by
  refine (Reads.bind hx hf).congr ?_
  intro bytes b
  constructor
  · rintro ⟨_, v, a, rfl, ⟨rfl, hok⟩, hQ⟩
    exact ⟨a, v, rfl, hok, hQ⟩
  · rintro ⟨a, v, rfl, hok, hQ⟩
    exact ⟨enc a, v, a, rfl, ⟨rfl, hok⟩, hQ⟩

/-- `n` values of one format, one behind the other. -/
lemma many (hx : Decodes x enc Ok) (n : Nat) :
    Decodes (readMany x n) (fun as => as.flatMap enc)
      fun as => as.length = n ∧ ∀ a ∈ as, Ok a := by
  induction n with
  | zero =>
    refine (Reads.pure []).congr ?_
    intro bytes as
    constructor
    · rintro ⟨rfl, rfl⟩
      exact ⟨rfl, rfl, by simp⟩
    · rintro ⟨rfl, hlen, -⟩
      obtain rfl := List.length_eq_zero_iff.mp hlen
      exact ⟨rfl, rfl⟩
  | succ n ih =>
    refine (hx.bind fun a => ih.bind fun as => Reads.pure (a :: as)).congr ?_
    intro bytes as
    constructor
    · rintro ⟨a, _, rfl, hok, as', _, rfl, ⟨hlen, hall⟩, rfl, rfl⟩
      refine ⟨?_, by rw [List.length_cons, hlen], ?_⟩
      · rw [List.append_nil]
        exact List.flatMap_cons.symm
      intro b hb
      rcases List.mem_cons.mp hb with rfl | hb
      · exact hok
      · exact hall b hb
    · rintro ⟨rfl, hlen, hall⟩
      obtain ⟨a, as', rfl⟩ := List.exists_cons_of_length_eq_add_one hlen
      refine ⟨a, as'.flatMap enc, List.flatMap_cons, hall a (by simp), as', [],
        (List.append_nil _).symm, ⟨by simpa using hlen, fun b hb => hall b (by simp [hb])⟩, rfl,
        rfl⟩

end Decodes

end Rust
