import Mathlib.Algebra.Group.Nat.Defs
import Mathlib.Data.List.DropRight
import Mathlib.Tactic.Common
import IdentityCrates.Lib.Outcome

/-!
# Slices

Indexing and slicing as Rust has them, where a position outside the slice is a panic, and
`chunks`, which cuts a slice into pieces of one length with whatever is left over at the end.
-/

namespace Rust

variable {ε α β : Type}

/-- `&xs[a..b]`: out of range, it panics. -/
def slice (xs : List α) (a b : Nat) : Outcome ε (List α) :=
  if a ≤ b ∧ b ≤ xs.length then .ok ((xs.drop a).take (b - a)) else .panic

/-- `&xs[a..]`. -/
def sliceFrom (xs : List α) (a : Nat) : Outcome ε (List α) := slice xs a xs.length

/-- `xs.split_at(i)`: out of range, it panics. -/
def splitAt (xs : List α) (i : Nat) : Outcome ε (List α × List α) :=
  if i ≤ xs.length then .ok (xs.take i, xs.drop i) else .panic

/-- `xs[i]`: out of range, it panics. -/
def index (xs : List α) (i : Nat) : Outcome ε α := Outcome.unwrap xs[i]?

/-- `a - b` on an unsigned type: an underflow panics. -/
def checkedSub (a b : Nat) : Outcome ε Nat := if b ≤ a then .ok (a - b) else .panic

/-- `a + b` on an unsigned type of `w` bits: an overflow panics. -/
def checkedAdd (w a b : Nat) : Outcome ε Nat := if a + b < 2 ^ w then .ok (a + b) else .panic

lemma slice_eq {xs : List α} {a b : Nat} (hab : a ≤ b) (hb : b ≤ xs.length) :
    (slice xs a b : Outcome ε (List α)) = .ok ((xs.drop a).take (b - a)) := if_pos ⟨hab, hb⟩

lemma splitAt_eq {xs : List α} {i : Nat} (h : i ≤ xs.length) :
    (splitAt xs i : Outcome ε (List α × List α)) = .ok (xs.take i, xs.drop i) := if_pos h

/-- A slice that succeeds is the part between its ends. -/
lemma slice_eq_ok {xs ys : List α} {a b : Nat} (h : (slice xs a b : Outcome ε (List α)) = .ok ys) :
    a ≤ b ∧ b ≤ xs.length ∧ ys = (xs.drop a).take (b - a) := by
  unfold slice at h
  split at h
  · rename_i hrange
    exact ⟨hrange.1, hrange.2, (Outcome.ok.inj h).symm⟩
  · cases h

lemma sliceFrom_eq {xs : List α} {a : Nat} (ha : a ≤ xs.length) :
    (sliceFrom xs a : Outcome ε (List α)) = .ok (xs.drop a) := by
  rw [sliceFrom, slice_eq ha le_rfl, List.take_of_length_le (by rw [List.length_drop])]

lemma index_eq {xs : List α} {i : Nat} {a : α} (h : xs[i]? = some a) :
    (index xs i : Outcome ε α) = .ok a := by
  rw [index, h, Outcome.unwrap_some]

lemma index_eq_ok {xs : List α} {i : Nat} {a : α} :
    (index xs i : Outcome ε α) = .ok a ↔ xs[i]? = some a := Outcome.unwrap_eq_ok

lemma checkedSub_eq {a b : Nat} (h : b ≤ a) : (checkedSub a b : Outcome ε Nat) = .ok (a - b) :=
  if_pos h

lemma checkedAdd_eq {w a b : Nat} (h : a + b < 2 ^ w) :
    (checkedAdd w a b : Outcome ε Nat) = .ok (a + b) := if_pos h

/-! ## Parts -/

/-- The part stands in the slice from position `i` on. -/
def Stands (part xs : List α) (i : Nat) : Prop :=
  ∃ before after, before.length = i ∧ xs = before ++ part ++ after

namespace Stands

variable {part part' xs : List α} {i : Nat}

lemma front (part rest : List α) : Stands part (part ++ rest) 0 := ⟨[], rest, rfl, rfl⟩

lemma length_le (h : Stands part xs i) : i + part.length ≤ xs.length := by
  obtain ⟨before, after, rfl, rfl⟩ := h
  rw [List.length_append, List.length_append]
  omega

lemma left (h : Stands (part ++ part') xs i) : Stands part xs i := by
  obtain ⟨before, after, hlen, hxs⟩ := h
  refine ⟨before, part' ++ after, hlen, ?_⟩
  rw [hxs]
  simp only [List.append_assoc]

lemma right (h : Stands (part ++ part') xs i) : Stands part' xs (i + part.length) := by
  obtain ⟨before, after, rfl, hxs⟩ := h
  refine ⟨before ++ part, after, List.length_append, ?_⟩
  rw [hxs]
  simp only [List.append_assoc]

/-- A part is cut out where it stands. -/
lemma slice_eq (h : Stands part xs i) {n : Nat} (hn : part.length = n) :
    (slice xs i (i + n) : Outcome ε (List α)) = .ok part := by
  have hle := h.length_le
  obtain ⟨before, after, rfl, rfl⟩ := h
  rw [Rust.slice_eq (Nat.le_add_right _ _) (by omega), Nat.add_sub_cancel_left, List.append_assoc,
    List.drop_left, List.take_left' hn]

end Stands

/-! ## Chunks -/

/-- `xs.chunks(n)`: pieces of `n` elements, the last one possibly shorter. -/
def chunks (n : Nat) (xs : List α) : List (List α) :=
  (List.range ((xs.length + n - 1) / n)).map fun i => (xs.drop (n * i)).take n

@[simp] lemma chunks_nil (n : Nat) : chunks n ([] : List α) = [] := by
  have hzero : (0 + n - 1) / n = 0 := by
    rcases Nat.eq_zero_or_pos n with rfl | hn
    · rfl
    · exact Nat.div_eq_of_lt (by omega)
  rw [chunks, List.length_nil, hzero]
  rfl

/-- A full piece in front comes off whole. -/
lemma chunks_append {n : Nat} (hn : 0 < n) {xs : List α} (hlen : xs.length = n) (ys : List α) :
    chunks n (xs ++ ys) = xs :: chunks n ys := by
  have hcount : ((xs ++ ys).length + n - 1) / n = (ys.length + n - 1) / n + 1 := by
    rw [← Nat.add_div_right _ hn, List.length_append, hlen]
    congr 1
    omega
  rw [chunks, hcount, List.range_succ_eq_map, List.map_cons, List.map_map]
  congr 1
  · rw [Nat.mul_zero, List.drop_zero]
    exact List.take_left' hlen
  · rw [chunks]
    apply List.map_congr_left
    intro i _
    show ((xs ++ ys).drop (n * (i + 1))).take n = _
    have hsplit : n * (i + 1) = xs.length + n * i := by
      rw [hlen, Nat.mul_succ, Nat.add_comm]
    rw [hsplit, ← List.drop_drop, List.drop_left]

/-- What fits in one piece is one piece. -/
lemma chunks_of_length_le {n : Nat} {xs : List α} (hne : xs ≠ []) (hlen : xs.length ≤ n) :
    chunks n xs = [xs] := by
  have hpos : 0 < xs.length := List.length_pos_iff.mpr hne
  have hcount : (xs.length + n - 1) / n = 1 := by
    apply Nat.div_eq_of_lt_le
    · omega
    · omega
  rw [chunks, hcount]
  show [(xs.drop (n * 0)).take n] = [xs]
  rw [Nat.mul_zero, List.drop_zero, List.take_of_length_le hlen]

/-- Induction along the pieces of a list. -/
@[elab_as_elim]
lemma chunks_induction {n : Nat} (hn : 0 < n) {motive : List α → Prop} (nil : motive [])
    (last : ∀ xs, xs ≠ [] → xs.length < n → motive xs)
    (append : ∀ xs ys, xs.length = n → motive ys → motive (xs ++ ys)) (xs : List α) :
    motive xs := by
  induction hk : xs.length using Nat.strong_induction_on generalizing xs with
  | _ k ih =>
    rcases eq_or_ne xs [] with rfl | hne
    · exact nil
    · by_cases hlen : xs.length < n
      · exact last xs hne hlen
      · have hrest : motive (xs.drop n) := by
          refine ih _ ?_ (xs.drop n) rfl
          rw [List.length_drop]
          have hpos : 0 < xs.length := List.length_pos_iff.mpr hne
          omega
        have hwhole := append (xs.take n) (xs.drop n)
          (by rw [List.length_take]; omega) hrest
        rwa [List.take_append_drop] at hwhole

/-- The pieces make up the list. -/
lemma flatten_chunks {n : Nat} (hn : 0 < n) (xs : List α) : (chunks n xs).flatten = xs := by
  induction xs using chunks_induction hn with
  | nil => rw [chunks_nil]; rfl
  | last xs hne hlen =>
    rw [chunks_of_length_le hne (Nat.le_of_lt hlen), List.flatten_singleton]
  | append xs ys hlen ih => rw [chunks_append hn hlen, List.flatten_cons, ih]

/-- Pieces of one length put together come apart again. -/
lemma chunks_flatten {n : Nat} (hn : 0 < n) {xss : List (List α)}
    (hlen : ∀ xs ∈ xss, xs.length = n) : chunks n xss.flatten = xss := by
  induction xss with
  | nil => rw [List.flatten_nil, chunks_nil]
  | cons xs xss ih =>
    rw [List.flatten_cons, chunks_append hn (hlen xs (by simp)),
      ih fun ys hys => hlen ys (by simp [hys])]

end Rust
