import Mathlib.Data.List.Perm.Basic

/-!
# Lists related entry by entry

What `List.Forall₂` says of a single entry, and of the images of two related lists.
-/

namespace List.Forall₂

variable {α β γ : Type} {R : α → β → Prop} {xs : List α} {ys : List β}

lemma exists_of_mem_left (h : Forall₂ R xs ys) {x : α} (hx : x ∈ xs) : ∃ y ∈ ys, R x y := by
  induction h with
  | nil => cases hx
  | cons hfirst _ ih =>
    rcases mem_cons.mp hx with rfl | hx
    · exact ⟨_, mem_cons_self, hfirst⟩
    · obtain ⟨y, hy, hxy⟩ := ih hx
      exact ⟨y, mem_cons_of_mem _ hy, hxy⟩

lemma exists_of_mem_right (h : Forall₂ R xs ys) {y : β} (hy : y ∈ ys) : ∃ x ∈ xs, R x y :=
  h.flip.exists_of_mem_left hy

/-- Functions that agree on related entries have equal images. -/
lemma map_eq_map {f : α → γ} {g : β → γ} (h : Forall₂ R xs ys)
    (heq : ∀ x ∈ xs, ∀ y, R x y → f x = g y) : xs.map f = ys.map g := by
  induction h with
  | nil => rfl
  | @cons x y xs ys hxy _ ih =>
    obtain ⟨hx, hxs⟩ := forall_mem_cons.mp heq
    rw [map_cons, map_cons, hx y hxy, ih hxs]

/-- A list goes with a permutation of the list it is related to once it is permuted too. -/
lemma exists_perm {zs : List β} (h : Forall₂ R xs ys) (hperm : ys.Perm zs) :
    ∃ ws, xs.Perm ws ∧ Forall₂ R ws zs := by
  have hcomp : Relation.Comp (Forall₂ R) Perm xs zs := ⟨ys, h, hperm⟩
  rwa [forall₂_comp_perm_eq_perm_comp_forall₂] at hcomp

/-- What a function that may fail makes of a list goes with the entries that it does not fail on. -/
lemma of_filterMap (f : α → Option β) (xs : List α) :
    Forall₂ (fun x y => x ∈ xs ∧ f x = some y) (xs.filter fun x => (f x).isSome)
      (xs.filterMap f) := by
  induction xs with
  | nil => exact .nil
  | cons x xs ih =>
    have hrest := ih.imp fun _ _ h => And.intro (mem_cons_of_mem x h.1) h.2
    cases hx : f x with
    | none => rwa [filterMap_cons_none hx, filter_cons_of_neg (by simp [hx])]
    | some y =>
      rw [filterMap_cons_some hx, filter_cons_of_pos (by simp [hx])]
      exact .cons ⟨mem_cons_self, hx⟩ hrest

end List.Forall₂
