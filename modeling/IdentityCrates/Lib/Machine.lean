import Mathlib.Data.List.Basic

/-!
# Runs of a stateful component

A component with a method per input is a step function `ι → σ → ο × σ`.  This file fixes what a run
of one is (`final`, `trace`) and packages the two inductions that safety arguments need:

* `final_invariant`: what every step preserves holds after every run;
* `history_invariant`: the same for a relation between the state and everything that has been said
  so far, which is how a statement about *outputs* ("at most once", "only after") is proved, and
  `history_invariant_of_every` does so for the runs all of whose steps meet a condition.

`last` is the latest of what a run lets one observe.
-/

namespace Machine

variable {σ ι ο : Type*}

/-- The state after a list of inputs. -/
def final (step : ι → σ → ο × σ) : σ → List ι → σ
  | s, [] => s
  | s, i :: is => final step (step i s).2 is

/-- The inputs of a run, each with its output. -/
def trace (step : ι → σ → ο × σ) : σ → List ι → List (ι × ο)
  | _, [] => []
  | s, i :: is => (i, (step i s).1) :: trace step (step i s).2 is

variable (step : ι → σ → ο × σ)

@[simp] lemma final_nil (s : σ) : final step s [] = s := rfl

@[simp] lemma final_cons (s : σ) (i : ι) (is : List ι) :
    final step s (i :: is) = final step (step i s).2 is := rfl

@[simp] lemma trace_nil (s : σ) : trace step s [] = [] := rfl

@[simp] lemma trace_cons (s : σ) (i : ι) (is : List ι) :
    trace step s (i :: is) = (i, (step i s).1) :: trace step (step i s).2 is := rfl

lemma final_append (s : σ) (is js : List ι) :
    final step s (is ++ js) = final step (final step s is) js := by
  induction is generalizing s with
  | nil => rfl
  | cons i is ih => exact ih _

@[simp] lemma length_trace (s : σ) (is : List ι) : (trace step s is).length = is.length := by
  induction is generalizing s with
  | nil => rfl
  | cons i is ih => rw [trace_cons, List.length_cons, ih, List.length_cons]

/-- One more step at the end of a run. -/
lemma final_concat (s : σ) (is : List ι) (i : ι) :
    final step s (is ++ [i]) = (step i (final step s is)).2 := by
  rw [final_append]
  rfl

/-- What every step preserves holds after every run. -/
theorem final_invariant {Inv : σ → Prop} (hstep : ∀ i s, Inv s → Inv (step i s).2) {s : σ}
    (h : Inv s) (is : List ι) : Inv (final step s is) := by
  induction is generalizing s with
  | nil => exact h
  | cons i is ih => exact ih (hstep i s h)

/-- What every step preserves, of the state and all that has been said so far, holds after every
run. -/
theorem history_invariant {Inv : List (ι × ο) → σ → Prop}
    (hstep : ∀ past i s, Inv past s → Inv (past ++ [(i, (step i s).1)]) (step i s).2)
    {past : List (ι × ο)} {s : σ} (h : Inv past s) (is : List ι) :
    Inv (past ++ trace step s is) (final step s is) := by
  induction is generalizing s past with
  | nil => simpa using h
  | cons i is ih =>
    have hnext := ih (hstep past i s h)
    rwa [List.append_assoc, List.singleton_append] at hnext

/-- Every step of the run meets a condition on the input and the state it finds. -/
def Every (Good : σ → ι → Prop) : σ → List ι → Prop
  | _, [] => True
  | s, i :: is => Good s i ∧ Every Good (step i s).2 is

instance decidableEvery (Good : σ → ι → Prop) [∀ s i, Decidable (Good s i)] :
    ∀ (s : σ) (is : List ι), Decidable (Every step Good s is)
  | _, [] => .isTrue trivial
  | s, i :: is =>
    have : Decidable (Every step Good (step i s).2 is) := decidableEvery Good (step i s).2 is
    inferInstanceAs (Decidable (Good s i ∧ Every step Good (step i s).2 is))

lemma every_append {Good : σ → ι → Prop} {s : σ} {is js : List ι} :
    Every step Good s (is ++ js) ↔ Every step Good s is ∧ Every step Good (final step s is) js := by
  induction is generalizing s with
  | nil => simp [Every]
  | cons i is ih => simp only [List.cons_append, Every, ih, final_cons, and_assoc]

/-- What steps preserve under a condition holds after a run all of whose steps meet it. -/
theorem history_invariant_of_every {Inv : List (ι × ο) → σ → Prop} {Good : σ → ι → Prop}
    (hstep : ∀ past i s, Inv past s → Good s i →
      Inv (past ++ [(i, (step i s).1)]) (step i s).2)
    {past : List (ι × ο)} {s : σ} (h : Inv past s) (is : List ι) (hgood : Every step Good s is) :
    Inv (past ++ trace step s is) (final step s is) := by
  induction is generalizing s past with
  | nil => simpa using h
  | cons i is ih =>
    have hnext := ih (hstep past i s h hgood.1) hgood.2
    rwa [List.append_assoc, List.singleton_append] at hnext

/-- The same for the state alone. -/
theorem final_invariant_of_every {Inv : σ → Prop} {Good : σ → ι → Prop}
    (hstep : ∀ i s, Inv s → Good s i → Inv (step i s).2) {s : σ} (h : Inv s) (is : List ι)
    (hgood : Every step Good s is) : Inv (final step s is) := by
  induction is generalizing s with
  | nil => exact h
  | cons i is ih => exact ih (hstep i s h hgood.1) hgood.2

/-- When every step answers as specified and keeps the invariant, the whole run does. -/
theorem trace_eq_map {Inv : σ → Prop} {Good : ι → Prop} (answer : ι → ο)
    (hstep : ∀ i s, Inv s → Good i → (step i s).1 = answer i ∧ Inv (step i s).2) {s : σ}
    (h : Inv s) (is : List ι) (hgood : ∀ i ∈ is, Good i) :
    trace step s is = is.map (fun i => (i, answer i)) ∧ Inv (final step s is) := by
  induction is generalizing s with
  | nil => exact ⟨rfl, h⟩
  | cons i is ih =>
    obtain ⟨hanswer, hnext⟩ := hstep i s h (hgood i (List.mem_cons_self ..))
    obtain ⟨htrace, hfinal⟩ := ih hnext fun j hj => hgood j (List.mem_cons_of_mem _ hj)
    refine ⟨?_, hfinal⟩
    rw [trace_cons, hanswer, htrace, List.map_cons]

/-- Every step meets the condition when the one after each part of the run does. -/
lemma every_iff {Good : σ → ι → Prop} {s : σ} {is : List ι} :
    Every step Good s is ↔
      ∀ past i, past ++ [i] <+: is → Good (final step s past) i := by
  constructor
  · rintro h past i ⟨rest, rfl⟩
    rw [every_append, every_append] at h
    exact h.1.2.1
  · intro h
    induction is generalizing s with
    | nil => trivial
    | cons i is ih =>
      refine ⟨h [] i ⟨is, rfl⟩, ih fun past j hpast => ?_⟩
      refine h (i :: past) j ?_
      rw [List.cons_append, List.cons_prefix_cons]
      exact ⟨rfl, hpast⟩

/-! ## The latest observation -/

section Observation

variable {α : Type*}

/-- What was last observed in a run, if anything was. -/
def last (observe : σ → ι → Option α) : σ → List ι → Option α
  | _, [] => none
  | s, i :: is => (last observe (step i s).2 is).or (observe s i)

lemma last_concat (observe : σ → ι → Option α) (s : σ) (is : List ι) (i : ι) :
    last step observe s (is ++ [i]) =
      (observe (final step s is) i).or (last step observe s is) := by
  induction is generalizing s with
  | nil => simp [last]
  | cons j is ih => rw [List.cons_append, last, ih, last, final_cons, Option.or_assoc]

/-- What was last observed was observed at some step. -/
lemma exists_of_last {observe : σ → ι → Option α} {s : σ} {is : List ι} {a : α}
    (h : last step observe s is = some a) :
    ∃ past i, past ++ [i] <+: is ∧ observe (final step s past) i = some a := by
  induction is generalizing s with
  | nil => simp [last] at h
  | cons i is ih =>
    rw [last, Option.or_eq_some_iff] at h
    rcases h with h | ⟨-, h⟩
    · obtain ⟨past, j, hpast, hj⟩ := ih h
      refine ⟨i :: past, j, ?_, hj⟩
      rw [List.cons_append, List.cons_prefix_cons]
      exact ⟨rfl, hpast⟩
    · exact ⟨[], i, ⟨is, rfl⟩, h⟩

end Observation

/-! ## Events in order -/

/-- The events happen in the run one after the other, whatever else happens in between. -/
def Occurs : List (σ → ι → Bool) → σ → List ι → Prop
  | [], _, _ => True
  | _ :: _, _, [] => False
  | e :: es, s, i :: is =>
    (e s i = true ∧ Occurs es (step i s).2 is) ∨ Occurs (e :: es) (step i s).2 is

lemma occurs_nil (s : σ) (is : List ι) : Occurs step [] s is := by
  cases is <;> trivial

instance decidableOccurs : ∀ (es : List (σ → ι → Bool)) (s : σ) (is : List ι),
    Decidable (Occurs step es s is)
  | [], s, is => .isTrue (occurs_nil step s is)
  | _ :: _, _, [] => .isFalse id
  | e :: es, s, i :: is =>
    have : Decidable (Occurs step es (step i s).2 is) := decidableOccurs es (step i s).2 is
    have : Decidable (Occurs step (e :: es) (step i s).2 is) :=
      decidableOccurs (e :: es) (step i s).2 is
    inferInstanceAs (Decidable ((e s i = true ∧ Occurs step es (step i s).2 is) ∨
      Occurs step (e :: es) (step i s).2 is))

variable {step}

/-- What has happened stays so. -/
lemma Occurs.concat {es : List (σ → ι → Bool)} {s : σ} {is : List ι} (h : Occurs step es s is)
    (i : ι) : Occurs step es s (is ++ [i]) := by
  induction is generalizing s es with
  | nil =>
    cases es with
    | nil => trivial
    | cons e es => exact h.elim
  | cons j is ih =>
    cases es with
    | nil => trivial
    | cons e es =>
      rcases h with ⟨he, h⟩ | h
      · exact .inl ⟨he, ih h⟩
      · exact .inr (ih h)

/-- An event at the end of a run comes after all that happened before. -/
lemma Occurs.concat_event {es : List (σ → ι → Bool)} {s : σ} {is : List ι}
    (h : Occurs step es s is) {e : σ → ι → Bool} {i : ι} (he : e (final step s is) i = true) :
    Occurs step (es ++ [e]) s (is ++ [i]) := by
  induction is generalizing s es with
  | nil =>
    cases es with
    | nil => exact .inl ⟨he, trivial⟩
    | cons e' es => exact h.elim
  | cons j is ih =>
    cases es with
    | nil => exact .inr (ih (occurs_nil step _ _) he)
    | cons e' es =>
      rcases h with ⟨he', h⟩ | h
      · exact .inl ⟨he', ih h he⟩
      · exact .inr (ih h he)

end Machine
