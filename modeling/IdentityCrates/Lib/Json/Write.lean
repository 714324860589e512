import IdentityCrates.Lib.Json.Complete

/-!
# Writing JSON

Rules to derive what a serialiser writes: a numeral, a string under an escaping that writes each
character as one of its forms, a list with one separator, an object whose keys need no escapes.  A
serialiser that is put together from format strings follows the grammar rule by rule.
-/

namespace Json

open Text

lemma Blank.nil : Blank [] := fun _ hc => absurd hc List.not_mem_nil

/-! ## Numbers -/

/-- The numeral of a positive number does not start with a zero. -/
lemma head?_toDigits {n : Nat} (h : 0 < n) : (Nat.toDigits 10 n).head? ≠ some '0' := by
  induction n using Nat.strong_induction_on with
  | _ n ih =>
    rcases Nat.lt_or_ge n 10 with hlt | hge
    · rw [Nat.toDigits_of_lt_base hlt]
      interval_cases n <;> decide
    · rw [Nat.toDigits_of_base_le (by decide) hge,
        List.head?_append_of_ne_nil _ Nat.toDigits_ne_nil]
      exact ih (n / 10) (by omega) (by omega)

lemma intText_toDigits (n : Nat) : IntText (Nat.toDigits 10 n) := by
  rcases Nat.eq_zero_or_pos n with rfl | hpos
  · exact Or.inl rfl
  · refine Or.inr ⟨Nat.toDigits_ne_nil, ?_, head?_toDigits hpos⟩
    rw [List.all_eq_true]
    exact fun c hc => Nat.isDigit_of_mem_toDigits (by decide) (by decide) hc

/-- A numeral is a number. -/
lemma Reads.nat (n : Nat) : Reads (Nat.toDigits 10 n) (.number n 0) := by
  have h := NumberText.mk (Or.inl ⟨rfl, rfl⟩) (intText_toDigits n) (Or.inl ⟨rfl, rfl⟩)
    ExpText.absent
  have hvalue : signed Bool.false (ofDigits (Nat.toDigits 10 n ++ [])) = n := by
    rw [List.append_nil, ofDigits_toDigits]
    rfl
  rw [hvalue, List.nil_append, List.append_nil, List.append_nil] at h
  exact Reads.number h

/-! ## Strings -/

lemma Chars.flatMap {f : Char → Str} {s : Str} (h : ∀ c ∈ s, CharText (f c) c) :
    Chars (s.flatMap f) s := by
  induction s with
  | nil => exact Chars.nil
  | cons c s ih =>
    rw [List.flatMap_cons]
    exact Chars.cons (h c List.mem_cons_self) (ih fun d hd => h d (List.mem_cons_of_mem c hd))

/-- Characters that need no escape. -/
def Plain (s : Str) : Prop := ∀ c ∈ s, c ≠ '"' ∧ c ≠ '\\' ∧ 0x20 ≤ c.toNat

instance (s : Str) : Decidable (Plain s) := inferInstanceAs (Decidable (∀ c ∈ s, _))

/-- Plain characters stand for themselves. -/
lemma Chars.plain {s : Str} (h : Plain s) : Chars s s := by
  have hchars := Chars.flatMap (f := fun c => [c])
    fun c hc => CharText.plain (h c hc).1 (h c hc).2.1 (h c hc).2.2
  rwa [List.flatMap_singleton'] at hchars

/-! ## Arrays -/

/-- White space in front of a list of values belongs to it. -/
lemma Items.blank {ws s : Str} {vs : List Value} (hws : Blank ws) (h : Items s vs) :
    Items (ws ++ s) vs := by
  have hblank : ∀ {w}, Blank w → Blank (ws ++ w) := fun hw c hc => by
    rcases List.mem_append.mp hc with hc | hc
    · exact hws c hc
    · exact hw c hc
  cases h with
  | last h₁ h h₂ =>
    rw [← List.append_assoc]
    exact Items.last (hblank h₁) h h₂
  | cons h₁ h h₂ hrest =>
    rw [← List.append_assoc]
    exact Items.cons (hblank h₁) h h₂ hrest

/-- An array, with a comma and white space between its values. -/
lemma Reads.list {ws : Str} (hws : Blank ws) {texts : List Str} {vs : List Value}
    (h : List.Forall₂ Reads texts vs) :
    Reads ('[' :: (List.intercalate (',' :: ws) texts ++ [']'])) (.array vs) := by
  cases h with
  | nil => exact Reads.emptyArray Blank.nil
  | @cons text v texts vs hreads htexts =>
    refine Reads.array ?_
    induction htexts generalizing text v with
    | nil =>
      have hlast := Items.last Blank.nil hreads Blank.nil
      rw [List.nil_append, List.append_nil] at hlast
      rwa [List.intercalate_singleton]
    | @cons text' v' texts vs hreads' _ ih =>
      rw [List.intercalate_cons_cons, List.append_assoc]
      exact Items.cons Blank.nil hreads Blank.nil (Items.blank hws (ih hreads'))

/-! ## Objects -/

/-- A member with its key. -/
def member (m : Str × Str) : Str := '"' :: (m.1 ++ '"' :: ':' :: m.2)

/-- An object, with a comma between its members. -/
def object (ms : List (Str × Str)) : Str :=
  '{' :: (List.intercalate [','] (ms.map member) ++ ['}'])

/-- A member is written as what it denotes. -/
def ReadsMember (m : Str × Str) (r : Str × Value) : Prop :=
  m.1 = r.1 ∧ Plain m.1 ∧ Reads m.2 r.2

lemma ReadsMember.member {m : Str × Str} {r : Str × Value} (h : ReadsMember m r) :
    Member (member m) r := by
  obtain ⟨hkey, hplain, hreads⟩ := h
  have hmember := Member.mk Blank.nil (Chars.plain hplain) Blank.nil Blank.nil hreads Blank.nil
  simp only [List.nil_append, List.append_nil] at hmember
  rw [show r = (m.1, r.2) from Prod.ext hkey.symm rfl]
  exact hmember

/-- An object whose keys need no escapes. -/
lemma Reads.members {ms : List (Str × Str)} {rs : List (Str × Value)}
    (h : List.Forall₂ ReadsMember ms rs) : Reads (Json.object ms) (.object rs) := by
  cases h with
  | nil => exact Reads.emptyObject Blank.nil
  | @cons m r ms rs hmember hmembers =>
    refine Reads.object ?_
    induction hmembers generalizing m r with
    | nil =>
      rw [List.map_singleton, List.intercalate_singleton]
      exact Members.last hmember.member
    | @cons m' r' ms rs hmember' _ ih =>
      rw [List.map_cons, List.map_cons, List.intercalate_cons_cons, List.append_assoc]
      exact Members.cons hmember.member (ih hmember')

/-- A value is a document. -/
lemma Reads.document {s : Str} {v : Value} (h : Reads s v) : Document s v := by
  have hdocument := Document.mk Blank.nil h Blank.nil
  rwa [List.nil_append, List.append_nil] at hdocument

end Json
