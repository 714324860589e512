import Mathlib.Algebra.Group.Basic
import Mathlib.Data.List.Basic

/-!
# Check digits over a group

A scheme gives each symbol of a word a group element, which depends on the place, and multiplies
them in order; a word is accepted when the product is the one of the scheme.

In a group a factor can be cancelled on both sides.  So a scheme whose places are injective tells a
word from every word with one other symbol (`product_ne_of_substituted`), and one whose neighbouring
places do not commute on different symbols tells it from every word with two neighbours exchanged
(`product_ne_of_exchanged`).
-/

namespace CheckDigits

variable {α β G : Type}

/-! ## Slips -/

/-- One symbol stands for another. -/
def Substituted (xs ys : List α) : Prop :=
  ∃ before a b after, a ≠ b ∧ xs = before ++ a :: after ∧ ys = before ++ b :: after

/-- Two neighbours, which are different, have changed places. -/
def Exchanged (xs ys : List α) : Prop :=
  ∃ before a b after, a ≠ b ∧ xs = before ++ a :: b :: after ∧ ys = before ++ b :: a :: after

lemma Substituted.reverse {xs ys : List α} (h : Substituted xs ys) :
    Substituted xs.reverse ys.reverse := by
  obtain ⟨before, a, b, after, hne, rfl, rfl⟩ := h
  refine ⟨after.reverse, a, b, before.reverse, hne, ?_, ?_⟩ <;>
    rw [List.reverse_append, List.reverse_cons, List.append_assoc, List.singleton_append]

lemma Exchanged.reverse {xs ys : List α} (h : Exchanged xs ys) :
    Exchanged xs.reverse ys.reverse := by
  obtain ⟨before, a, b, after, hne, rfl, rfl⟩ := h
  refine ⟨after.reverse, b, a, before.reverse, hne.symm, ?_, ?_⟩ <;>
    simp only [List.reverse_append, List.reverse_cons, List.append_assoc, List.cons_append,
      List.nil_append]

/-- Texts that spell words differ by a slip only if the words do. -/
lemma Substituted.of_map {f : α → β} (hf : Function.Injective f) {xs ys : List α}
    (h : Substituted (xs.map f) (ys.map f)) : Substituted xs ys := by
  obtain ⟨before, a, b, after, hne, hxs, hys⟩ := h
  obtain ⟨before₁, rest₁, rfl, hbefore₁, hrest₁⟩ := List.map_eq_append_iff.mp hxs
  obtain ⟨before₂, rest₂, rfl, hbefore₂, hrest₂⟩ := List.map_eq_append_iff.mp hys
  obtain ⟨x, after₁, rfl, rfl, hafter₁⟩ := List.map_eq_cons_iff.mp hrest₁
  obtain ⟨y, after₂, rfl, rfl, hafter₂⟩ := List.map_eq_cons_iff.mp hrest₂
  obtain rfl := List.map_injective_iff.mpr hf (hbefore₁.trans hbefore₂.symm)
  obtain rfl := List.map_injective_iff.mpr hf (hafter₁.trans hafter₂.symm)
  exact ⟨before₁, x, y, after₁, fun heq => hne (congrArg f heq), rfl, rfl⟩

lemma Exchanged.of_map {f : α → β} (hf : Function.Injective f) {xs ys : List α}
    (h : Exchanged (xs.map f) (ys.map f)) : Exchanged xs ys := by
  obtain ⟨before, a, b, after, hne, hxs, hys⟩ := h
  obtain ⟨before₁, rest₁, rfl, hbefore₁, hrest₁⟩ := List.map_eq_append_iff.mp hxs
  obtain ⟨before₂, rest₂, rfl, hbefore₂, hrest₂⟩ := List.map_eq_append_iff.mp hys
  obtain ⟨x, rest₁', rfl, rfl, hrest₁'⟩ := List.map_eq_cons_iff.mp hrest₁
  obtain ⟨y, after₁, rfl, rfl, hafter₁⟩ := List.map_eq_cons_iff.mp hrest₁'
  obtain ⟨y', rest₂', rfl, hy, hrest₂'⟩ := List.map_eq_cons_iff.mp hrest₂
  obtain ⟨x', after₂, rfl, hx, hafter₂⟩ := List.map_eq_cons_iff.mp hrest₂'
  obtain rfl := hf hy
  obtain rfl := hf hx
  obtain rfl := List.map_injective_iff.mpr hf (hbefore₁.trans hbefore₂.symm)
  obtain rfl := List.map_injective_iff.mpr hf (hafter₁.trans hafter₂.symm)
  exact ⟨before₁, _, _, after₁, fun heq => hne (congrArg f heq), rfl, rfl⟩

/-! ## Products -/

variable [Group G]

/-- The product of a word whose first symbol is at place `i`. -/
def product (place : Nat → α → G) (i : Nat) : List α → G
  | [] => 1
  | x :: xs => place i x * product place (i + 1) xs

variable (place : Nat → α → G)

lemma product_append (i : Nat) (xs ys : List α) :
    product place i (xs ++ ys) = product place i xs * product place (i + xs.length) ys := by
  induction xs generalizing i with
  | nil => rw [List.nil_append, product, one_mul, List.length_nil, Nat.add_zero]
  | cons x xs ih =>
    rw [List.cons_append, product, product, ih, mul_assoc, List.length_cons, Nat.add_assoc,
      Nat.add_comm 1]

variable {place}

theorem product_ne_of_substituted (hplace : ∀ i, Function.Injective (place i)) {i : Nat}
    {xs ys : List α} (h : Substituted xs ys) : product place i xs ≠ product place i ys := by
  obtain ⟨before, a, b, after, hne, rfl, rfl⟩ := h
  intro heq
  rw [product_append, product_append, product, product] at heq
  exact hne (hplace _ (mul_right_cancel (mul_left_cancel heq)))

theorem product_ne_of_exchanged
    (hplace : ∀ i a b, place i a * place (i + 1) b = place i b * place (i + 1) a → a = b) {i : Nat}
    {xs ys : List α} (h : Exchanged xs ys) : product place i xs ≠ product place i ys := by
  obtain ⟨before, a, b, after, hne, rfl, rfl⟩ := h
  intro heq
  simp only [product_append, product, ← mul_assoc] at heq
  rw [mul_left_inj, mul_assoc, mul_assoc, mul_right_inj] at heq
  exact hne (hplace _ a b heq)

end CheckDigits
