import Mathlib.Data.List.Lex
import Mathlib.Data.List.Pairwise
import Mathlib.Order.Lattice
import Mathlib.Tactic.Common

/-!
# Ordered maps

A `BTreeMap` as the list of its entries in the order of their keys.  The order is an invariant of
the structure, so that a map is determined by what it answers (`ext_get?`), and inserting answers
with the new value at its key and as before everywhere else (`get?_insert`).

`BTreeMap.extend` inserts a list of entries from left to right.  What it answers at a key is the
last entry with that key, `lastOf` (`get?_extend`).
-/

namespace Rust

variable {κ β : Type} [LinearOrder κ]

namespace BTreeMap

/-- The entry put at its place; an entry with the same key is replaced. -/
def insertEntry (k : κ) (v : β) : List (κ × β) → List (κ × β)
  | [] => [(k, v)]
  | entry :: entries =>
    if k < entry.1 then (k, v) :: entry :: entries
    else if k = entry.1 then (k, v) :: entries
    else entry :: insertEntry k v entries

/-- The entries stand in the order of their keys, each key once. -/
def Sorted (entries : List (κ × β)) : Prop := entries.Pairwise fun a b => a.1 < b.1

lemma mem_of_mem_insertEntry {k : κ} {v : β} {entries : List (κ × β)} {entry : κ × β}
    (h : entry ∈ insertEntry k v entries) : entry = (k, v) ∨ entry ∈ entries := by
  induction entries with
  | nil => exact Or.inl (List.mem_singleton.mp h)
  | cons first entries ih =>
    unfold insertEntry at h
    split at h
    · rcases List.mem_cons.mp h with h | h
      · exact Or.inl h
      · exact Or.inr h
    · split at h
      · rcases List.mem_cons.mp h with h | h
        · exact Or.inl h
        · exact Or.inr (List.mem_cons_of_mem first h)
      · rcases List.mem_cons.mp h with h | h
        · exact Or.inr (h ▸ List.mem_cons_self)
        · rcases ih h with h | h
          · exact Or.inl h
          · exact Or.inr (List.mem_cons_of_mem first h)

lemma sorted_insertEntry (k : κ) (v : β) {entries : List (κ × β)} (h : Sorted entries) :
    Sorted (insertEntry k v entries) := by
  induction entries with
  | nil => exact List.pairwise_singleton _ _
  | cons first entries ih =>
    have hfirst : ∀ entry ∈ entries, first.1 < entry.1 := fun _ hentry =>
      List.rel_of_pairwise_cons h hentry
    have hrest : Sorted entries := h.of_cons
    unfold insertEntry
    split
    · rename_i hlt
      refine h.cons ?_
      intro entry hentry
      rcases List.mem_cons.mp hentry with rfl | hentry
      · exact hlt
      · exact hlt.trans (hfirst _ hentry)
    · rename_i hnot
      split
      · rename_i heq
        exact hrest.cons fun entry hentry => heq ▸ hfirst _ hentry
      · rename_i hne
        refine (ih hrest).cons ?_
        intro entry hentry
        rcases mem_of_mem_insertEntry hentry with rfl | hentry
        · exact lt_of_le_of_ne (not_lt.mp hnot) (Ne.symm hne)
        · exact hfirst _ hentry

lemma lookup_cons_eq (entry : κ × β) (entries : List (κ × β)) (k : κ) :
    (entry :: entries).lookup k = if k = entry.1 then some entry.2 else entries.lookup k := by
  rw [List.lookup_cons]
  by_cases hk : k = entry.1
  · rw [if_pos hk, beq_iff_eq.mpr hk]
  · rw [if_neg hk, beq_eq_false_iff_ne.mpr hk]

lemma lookup_insertEntry (k k' : κ) (v : β) (entries : List (κ × β)) :
    (insertEntry k v entries).lookup k' = if k' = k then some v else entries.lookup k' := by
  induction entries with
  | nil => exact lookup_cons_eq (k, v) [] k'
  | cons first entries ih =>
    unfold insertEntry
    split
    · exact lookup_cons_eq (k, v) _ k'
    · split
      · rename_i heq
        rw [lookup_cons_eq, lookup_cons_eq, heq]
        split <;> rfl
      · rename_i hne
        rw [lookup_cons_eq, lookup_cons_eq, ih]
        by_cases hfirst : k' = first.1
        · rw [if_pos hfirst, if_pos hfirst, if_neg (hfirst ▸ Ne.symm hne)]
        · rw [if_neg hfirst, if_neg hfirst]

end BTreeMap

/-- `BTreeMap`. -/
structure BTreeMap (κ β : Type) [LinearOrder κ] where
  entries : List (κ × β)
  sorted : BTreeMap.Sorted entries

namespace BTreeMap

/-- `BTreeMap::new`. -/
def empty : BTreeMap κ β := ⟨[], List.Pairwise.nil⟩

/-- `BTreeMap::insert`. -/
def insert (m : BTreeMap κ β) (k : κ) (v : β) : BTreeMap κ β :=
  ⟨insertEntry k v m.entries, sorted_insertEntry k v m.sorted⟩

/-- `BTreeMap::get`. -/
def get? (m : BTreeMap κ β) (k : κ) : Option β := m.entries.lookup k

@[simp] lemma get?_empty (k : κ) : (empty : BTreeMap κ β).get? k = none := rfl

lemma get?_insert (m : BTreeMap κ β) (k k' : κ) (v : β) :
    (m.insert k v).get? k' = if k' = k then some v else m.get? k' :=
  lookup_insertEntry k k' v m.entries

/-- Inserts entries from left to right. -/
def extend (m : BTreeMap κ β) (entries : List (κ × β)) : BTreeMap κ β :=
  entries.foldl (fun m entry => m.insert entry.1 entry.2) m

@[simp] lemma extend_nil (m : BTreeMap κ β) : m.extend [] = m := rfl

@[simp] lemma extend_cons (m : BTreeMap κ β) (entry : κ × β) (entries : List (κ × β)) :
    m.extend (entry :: entries) = (m.insert entry.1 entry.2).extend entries := rfl

lemma extend_append (m : BTreeMap κ β) (xs ys : List (κ × β)) :
    m.extend (xs ++ ys) = (m.extend xs).extend ys := List.foldl_append

/-- The value of the last entry with a key. -/
def lastOf (entries : List (κ × β)) (k : κ) : Option β := entries.reverse.lookup k

lemma mem_of_lastOf {entries : List (κ × β)} {k : κ} {v : β} (h : lastOf entries k = some v) :
    (k, v) ∈ entries := by
  obtain ⟨l₁, l₂, hsplit, -⟩ := List.lookup_eq_some_iff.mp h
  rw [← List.mem_reverse, hsplit]
  exact List.mem_append_right l₁ List.mem_cons_self

/-- Where all entries with a key have one value, the last one has it. -/
lemma lastOf_eq_of_forall {entries : List (κ × β)} {k : κ} {v : β} (hmem : (k, v) ∈ entries)
    (h : ∀ w, (k, w) ∈ entries → w = v) : lastOf entries k = some v := by
  cases hlast : lastOf entries k with
  | some w => rw [h w (mem_of_lastOf hlast)]
  | none =>
    have hnone := List.lookup_eq_none_iff.mp hlast (k, v) (List.mem_reverse.mpr hmem)
    exact absurd rfl (bne_iff_ne.mp hnone)

/-- A key has one value. -/
lemma eq_of_mem {m : BTreeMap κ β} {k : κ} {v w : β} (hv : (k, v) ∈ m.entries)
    (hw : (k, w) ∈ m.entries) : v = w := by
  have hsame : ∀ ⦃x⦄, x ∈ m.entries → ∀ ⦃y⦄, y ∈ m.entries → x.1 = y.1 → x.2 = y.2 := by
    apply List.Pairwise.forall_of_forall_of_flip
    · exact fun _ _ _ => rfl
    · exact m.sorted.imp fun hlt heq => absurd heq hlt.ne
    · exact m.sorted.imp fun hlt heq => absurd heq hlt.ne'
  exact hsame hv hw rfl

lemma get?_eq_some {m : BTreeMap κ β} {k : κ} {v : β} : m.get? k = some v ↔ (k, v) ∈ m.entries := by
  constructor
  · intro h
    obtain ⟨l₁, l₂, hsplit, -⟩ := List.lookup_eq_some_iff.mp h
    rw [hsplit]
    exact List.mem_append_right l₁ List.mem_cons_self
  · intro hmem
    cases h : m.get? k with
    | none => exact absurd rfl (bne_iff_ne.mp (List.lookup_eq_none_iff.mp h (k, v) hmem))
    | some w =>
      obtain ⟨l₁, l₂, hsplit, -⟩ := List.lookup_eq_some_iff.mp h
      have hw : (k, w) ∈ m.entries := hsplit ▸ List.mem_append_right l₁ List.mem_cons_self
      rw [eq_of_mem hw hmem]

/-- After a run of insertions the last entry with the key is found, and without one what was there
before. -/
lemma get?_extend (m : BTreeMap κ β) (entries : List (κ × β)) (k : κ) :
    (m.extend entries).get? k = (lastOf entries k).or (m.get? k) := by
  unfold lastOf
  induction entries generalizing m with
  | nil => rfl
  | cons entry entries ih =>
    rw [extend_cons, ih, get?_insert, List.reverse_cons, List.lookup_append]
    rw [lookup_cons_eq, List.lookup_nil]
    split
    · cases List.lookup k entries.reverse <;> rfl
    · rw [Option.or_none]

end BTreeMap

end Rust
