import Mathlib.Data.List.Perm.Subperm

/-!
# Journals

What a party that counts has done so far: entries that carry the count at which they were made, one
for a count at most, and the count reached (`Journal`).  Counting without an entry is `tick`.

When every entry of one journal that matters is answered by an entry of another at the same count,
what is read off the first is read off the second too, in the same order and no more often
(`Journal.select_sublist`).
-/

/-- Entries in the order of the counts they were made at, and the count reached. -/
structure Journal (α : Type*) where
  entries : List (ℕ × α)
  count : ℕ
  increasing : entries.Pairwise fun e e' => e.1 < e'.1
  reached : ∀ e ∈ entries, e.1 ≤ count

namespace Journal

variable {α β γ : Type*}

/-- The journal of a party that has not begun to count. -/
def empty : Journal α := ⟨[], 0, .nil, by simp⟩

/-- Count one on. -/
def tick (j : Journal α) : Journal α where
  entries := j.entries
  count := j.count + 1
  increasing := j.increasing
  reached e he := Nat.le_succ_of_le (j.reached e he)

/-- Count one on, with an entry at the new count. -/
def record (a : α) (j : Journal α) : Journal α where
  entries := j.entries ++ [(j.count + 1, a)]
  count := j.count + 1
  increasing := by
    refine List.pairwise_append.mpr ⟨j.increasing, List.pairwise_singleton _ _, ?_⟩
    intro e he e' he'
    rw [List.mem_singleton.mp he']
    exact Nat.lt_succ_of_le (j.reached e he)
  reached e he := by
    rcases List.mem_append.mp he with he | he
    · exact Nat.le_succ_of_le (j.reached e he)
    · obtain rfl := List.mem_singleton.mp he
      exact Nat.le_refl _

@[simp] lemma count_empty : (empty : Journal α).count = 0 := rfl

@[simp] lemma count_tick (j : Journal α) : j.tick.count = j.count + 1 := rfl

@[simp] lemma count_record (a : α) (j : Journal α) : (j.record a).count = j.count + 1 := rfl

@[simp] lemma entries_empty : (empty : Journal α).entries = [] := rfl

@[simp] lemma entries_tick (j : Journal α) : j.tick.entries = j.entries := rfl

@[simp] lemma mem_record {a : α} {j : Journal α} {e : ℕ × α} :
    e ∈ (j.record a).entries ↔ e ∈ j.entries ∨ e = (j.count + 1, a) := by
  simp [record]

/-- An entry stays when more are made. -/
lemma mem_record_of_mem {a : α} {j : Journal α} {e : ℕ × α} (h : e ∈ j.entries) :
    e ∈ (j.record a).entries := mem_record.mpr (.inl h)

/-- There is one entry for a count at most. -/
lemma eq_of_mem {j : Journal α} {n : ℕ} {a b : α} (ha : (n, a) ∈ j.entries)
    (hb : (n, b) ∈ j.entries) : a = b := by
  obtain ⟨i, hi, hia⟩ := List.getElem_of_mem ha
  obtain ⟨k, hk, hkb⟩ := List.getElem_of_mem hb
  have hinc := List.pairwise_iff_getElem.mp j.increasing
  rcases Nat.lt_trichotomy i k with hlt | rfl | hlt
  · have h := hinc i k hi hk hlt
    rw [hia, hkb] at h
    exact absurd h (Nat.lt_irrefl n)
  · exact (Prod.mk.inj (hia.symm.trans hkb)).2
  · have h := hinc k i hk hi hlt
    rw [hia, hkb] at h
    exact absurd h (Nat.lt_irrefl n)

/-- What is read off the entries, in order. -/
def select (f : α → Option γ) (j : Journal α) : List γ := j.entries.filterMap fun e => f e.2

/-- What is read off the entries, with the counts. -/
def selectAt (f : α → Option γ) (j : Journal α) : List (ℕ × γ) :=
  j.entries.filterMap fun e => (f e.2).map (e.1, ·)

lemma map_selectAt (f : α → Option γ) (j : Journal α) :
    (j.selectAt f).map Prod.snd = j.select f := by
  rw [selectAt, select, List.map_filterMap]
  congr 1
  funext e
  cases f e.2 <;> rfl

lemma mem_selectAt {f : α → Option γ} {j : Journal α} {n : ℕ} {c : γ} :
    (n, c) ∈ j.selectAt f ↔ ∃ a, (n, a) ∈ j.entries ∧ f a = some c := by
  simp only [selectAt, List.mem_filterMap, Option.map_eq_some_iff, Prod.mk.injEq, Prod.exists]
  constructor
  · rintro ⟨m, a, hmem, c', hf, rfl, rfl⟩
    exact ⟨a, hmem, hf⟩
  · rintro ⟨a, hmem, hf⟩
    exact ⟨n, a, hmem, c, hf, rfl, rfl⟩

lemma increasing_selectAt (f : α → Option γ) (j : Journal α) :
    (j.selectAt f).Pairwise fun e e' => e.1 < e'.1 := by
  refine j.increasing.filterMap _ ?_
  intro e e' hlt b hb b' hb'
  obtain ⟨c, -, rfl⟩ := Option.map_eq_some_iff.mp hb
  obtain ⟨c', -, rfl⟩ := Option.map_eq_some_iff.mp hb'
  exact hlt

/-- Numbered lists in order: what holds the entries of another holds them in its order. -/
lemma sublist_of_subset {xs ys : List (ℕ × γ)} (hxs : xs.Pairwise fun e e' => e.1 < e'.1)
    (hys : ys.Pairwise fun e e' => e.1 < e'.1) (h : xs ⊆ ys) : xs.Sublist ys := by
  have hnodup : xs.Nodup := hxs.imp fun {e e'} hlt heq => (Nat.ne_of_lt hlt) (congrArg Prod.fst heq)
  obtain ⟨zs, hperm, hsub⟩ := hnodup.subperm h
  have heq : zs = xs := hperm.eq_of_pairwise (fun _ _ _ _ h h' => absurd h (Nat.lt_asymm h'))
    (hys.sublist hsub) hxs
  exact heq ▸ hsub

/-- When whatever is read off one journal is read off another at the same count, the first reading
is a part of the second, in order and entry for entry. -/
theorem select_sublist {f : α → Option γ} {g : β → Option γ} {j : Journal α} {k : Journal β}
    (h : ∀ n a c, (n, a) ∈ j.entries → f a = some c → ∃ b, (n, b) ∈ k.entries ∧ g b = some c) :
    (j.select f).Sublist (k.select g) := by
  rw [← map_selectAt f j, ← map_selectAt g k]
  refine List.Sublist.map _ ?_
  refine sublist_of_subset (j.increasing_selectAt f) (k.increasing_selectAt g) ?_
  rintro ⟨n, c⟩ hmem
  obtain ⟨a, ha, hc⟩ := mem_selectAt.mp hmem
  exact mem_selectAt.mpr (h n a c ha hc)

end Journal
