import IdentityCrates.MrzParser.Fields

/-!
# Misread characters

Optical recognition takes letters for the digits they look like and digits for letters.  `Misread`
relates a line as it is printed to the line as it is read, with letters misread in its letter fields
and digits misread in its digit fields.  What the reading of a field makes of both is the same where
the field is repaired, where it is apart from the fields in question, and as far as only characters
count that are never misread, like the filler.
-/

namespace MrzParser

open Rust Text Icao

/-- The digit a letter is misread as. -/
def LetterMisread (c d : Char) : Prop := (c, d) ∈ [('O', '0'), ('I', '1'), ('Z', '2'), ('B', '8')]

/-- A letter a digit is misread as. -/
def DigitMisread (c d : Char) : Prop :=
  (c, d) ∈ [('0', 'O'), ('0', 'Q'), ('0', 'U'), ('0', 'D'), ('1', 'I'), ('2', 'Z'), ('8', 'B')]

/-- Position `i` is in one of the ranges, each a start and a length. -/
def Within (ranges : List (Nat × Nat)) (i : Nat) : Prop := ∃ r ∈ ranges, r.1 ≤ i ∧ i < r.1 + r.2

/-- The `n` positions from `i` on are in none of the ranges. -/
def Apart (ranges : List (Nat × Nat)) (i n : Nat) : Prop :=
  ∀ r ∈ ranges, i + n ≤ r.1 ∨ r.1 + r.2 ≤ i

instance (ranges : List (Nat × Nat)) (i n : Nat) : Decidable (Apart ranges i n) := by
  unfold Apart
  infer_instance

lemma Apart.not_within {ranges : List (Nat × Nat)} {i n k : Nat} (h : Apart ranges i n)
    (hi : i ≤ k) (hk : k < i + n) : ¬ Within ranges k := by
  rintro ⟨r, hr, hlow, hhigh⟩
  rcases h r hr with hbefore | hbehind
  · omega
  · omega

/-- `corrupt` is `clean` with some letters misread at the positions `letters` and some digits at the
positions `digits`. -/
structure Misread (letters digits : List (Nat × Nat)) (clean corrupt : Str) : Prop where
  length : corrupt.length = clean.length
  char : ∀ i c d, clean[i]? = some c → corrupt[i]? = some d → d = c ∨
    (Within letters i ∧ LetterMisread c d) ∨ (Within digits i ∧ DigitMisread c d)

instance (c d : Char) : Decidable (LetterMisread c d) := by
  unfold LetterMisread
  infer_instance

instance (c d : Char) : Decidable (DigitMisread c d) := by
  unfold DigitMisread
  infer_instance

instance (ranges : List (Nat × Nat)) (i : Nat) : Decidable (Within ranges i) := by
  unfold Within
  infer_instance

instance (letters digits : List (Nat × Nat)) (clean corrupt : Str) :
    Decidable (Misread letters digits clean corrupt) :=
  decidable_of_iff (corrupt.length = clean.length ∧
    ∀ i < clean.length, ∀ c ∈ clean[i]?, ∀ d ∈ corrupt[i]?, d = c ∨
      (Within letters i ∧ LetterMisread c d) ∨ (Within digits i ∧ DigitMisread c d))
    ⟨fun h => ⟨h.1, fun i c d hc hd =>
      h.2 i (List.getElem?_eq_some_iff.mp hc).1 c hc d hd⟩,
    fun h => ⟨h.length, fun i _ c hc d hd => h.char i c d hc hd⟩⟩

namespace Misread

variable {letters digits : List (Nat × Nat)} {clean corrupt : Str}

/-- What a function does not see of the misread characters is the same in a field of both. -/
lemma map_field {β : Type} (h : Misread letters digits clean corrupt) (f : Char → β) (i n : Nat)
    (hf : ∀ k c d, i ≤ k → k < i + n → clean[k]? = some c →
      (Within letters k ∧ LetterMisread c d) ∨ (Within digits k ∧ DigitMisread c d) → f d = f c) :
    (field corrupt i n).map f = (field clean i n).map f := by
  apply List.ext_getElem?
  intro k
  rw [List.getElem?_map, List.getElem?_map, field, field, List.getElem?_take, List.getElem?_take,
    List.getElem?_drop, List.getElem?_drop]
  by_cases hk : k < n
  · rw [if_pos hk, if_pos hk]
    have hlen := h.length
    by_cases hin : i + k < clean.length
    · have hclean : clean[i + k]? = some clean[i + k] := List.getElem?_eq_getElem hin
      have hcorrupt : corrupt[i + k]? = some corrupt[i + k] :=
        List.getElem?_eq_getElem (by omega)
      rw [hclean, hcorrupt, Option.map_some, Option.map_some]
      rcases h.char (i + k) _ _ hclean hcorrupt with heq | hmisread
      · rw [heq]
      · rw [hf (i + k) _ _ (by omega) (by omega) hclean hmisread]
    · rw [List.getElem?_eq_none (by omega), List.getElem?_eq_none (by omega)]
  · rw [if_neg hk, if_neg hk]

/-- A field without letter or digit positions is the same in both. -/
lemma field_eq (h : Misread letters digits clean corrupt) {i n : Nat} (hl : Apart letters i n)
    (hd : Apart digits i n) : field corrupt i n = field clean i n := by
  have hmap := h.map_field id i n fun k c d hi hk _ hmisread => by
    rcases hmisread with ⟨hwithin, -⟩ | ⟨hwithin, -⟩
    · exact absurd hwithin (hl.not_within hi hk)
    · exact absurd hwithin (hd.not_within hi hk)
  simpa using hmap

/-- A field without digit positions is the same in both once it is repaired as letters. -/
lemma letters_eq (h : Misread letters digits clean corrupt) {i n : Nat} (hd : Apart digits i n) :
    replaceSimilarDigitsWithLetters (field corrupt i n) =
      replaceSimilarDigitsWithLetters (field clean i n) := by
  refine h.map_field digitToLetter i n fun k c d hi hk _ hmisread => ?_
  rcases hmisread with ⟨-, hcd⟩ | ⟨hwithin, -⟩
  · simp only [LetterMisread, List.mem_cons, Prod.mk.injEq, List.not_mem_nil, or_false] at hcd
    rcases hcd with ⟨rfl, rfl⟩ | ⟨rfl, rfl⟩ | ⟨rfl, rfl⟩ | ⟨rfl, rfl⟩ <;> rfl
  · exact absurd hwithin (hd.not_within hi hk)

/-- A field without letter positions is the same in both once it is repaired as digits. -/
lemma digits_eq (h : Misread letters digits clean corrupt) {i n : Nat} (hl : Apart letters i n) :
    replaceSimilarLettersWithDigits (field corrupt i n) =
      replaceSimilarLettersWithDigits (field clean i n) := by
  refine h.map_field letterToDigit i n fun k c d hi hk _ hmisread => ?_
  rcases hmisread with ⟨hwithin, -⟩ | ⟨-, hcd⟩
  · exact absurd hwithin (hl.not_within hi hk)
  · simp only [DigitMisread, List.mem_cons, Prod.mk.injEq, List.not_mem_nil, or_false] at hcd
    rcases hcd with ⟨rfl, rfl⟩ | ⟨rfl, rfl⟩ | ⟨rfl, rfl⟩ | ⟨rfl, rfl⟩ | ⟨rfl, rfl⟩ | ⟨rfl, rfl⟩ |
      ⟨rfl, rfl⟩ <;> rfl

/-- A character that is never misread, nor what another is misread as, stands where it stood. -/
lemma isChar_eq (h : Misread letters digits clean corrupt) {x : Char}
    (hx : x ∉ ['O', 'I', 'Z', 'B', 'Q', 'U', 'D', '0', '1', '2', '8']) (i n : Nat) :
    (field corrupt i n).map (· == x) = (field clean i n).map (· == x) := by
  simp only [List.mem_cons, List.not_mem_nil, or_false, not_or] at hx
  refine h.map_field (· == x) i n fun k c d _ _ _ hmisread => ?_
  rcases hmisread with ⟨-, hcd⟩ | ⟨-, hcd⟩
  · simp only [LetterMisread, List.mem_cons, Prod.mk.injEq, List.not_mem_nil, or_false] at hcd
    rcases hcd with ⟨rfl, rfl⟩ | ⟨rfl, rfl⟩ | ⟨rfl, rfl⟩ | ⟨rfl, rfl⟩ <;> simp_all [eq_comm]
  · simp only [DigitMisread, List.mem_cons, Prod.mk.injEq, List.not_mem_nil, or_false] at hcd
    rcases hcd with ⟨rfl, rfl⟩ | ⟨rfl, rfl⟩ | ⟨rfl, rfl⟩ | ⟨rfl, rfl⟩ | ⟨rfl, rfl⟩ | ⟨rfl, rfl⟩ |
      ⟨rfl, rfl⟩ <;> simp_all [eq_comm]

lemma fillers_eq (h : Misread letters digits clean corrupt) (i n : Nat) :
    (field corrupt i n).map (· == '<') = (field clean i n).map (· == '<') :=
  h.isChar_eq (by decide) i n

lemma eq_filler_iff (h : Misread letters digits clean corrupt) (i : Nat) :
    field corrupt i 1 = ['<'] ↔ field clean i 1 = ['<'] := by
  have hfiller : ∀ s : Str, s = ['<'] ↔ s.map (· == '<') = [true] := by
    intro s
    rw [List.map_eq_singleton_iff]
    simp
  rw [hfiller, hfiller (field clean i 1), h.fillers_eq]

/-- Where no digit may be misread, a letter stands where it stood. -/
lemma getElem?_of_isUpper (h : Misread letters digits clean corrupt) {i : Nat} {x : Char}
    (hd : ¬ Within digits i) (hx : x.isUpper = true) (hi : corrupt[i]? = some x) :
    clean[i]? = some x := by
  have hlt : i < clean.length := by
    rw [← h.length]
    exact (List.getElem?_eq_some_iff.mp hi).1
  have hclean : clean[i]? = some clean[i] := List.getElem?_eq_getElem hlt
  rcases h.char i _ _ hclean hi with heq | ⟨-, hcd⟩ | ⟨hwithin, -⟩
  · rw [hclean, heq]
  · simp only [LetterMisread, List.mem_cons, Prod.mk.injEq, List.not_mem_nil, or_false] at hcd
    rcases hcd with ⟨-, rfl⟩ | ⟨-, rfl⟩ | ⟨-, rfl⟩ | ⟨-, rfl⟩ <;> exact absurd hx (by decide)
  · exact absurd hwithin hd

/-- A field of capital letters, where no digit may be misread, is that field in both. -/
lemma field_of_isUpper (h : Misread letters digits clean corrupt) {i n : Nat}
    (hd : Apart digits i n) (hupper : ∀ c ∈ field corrupt i n, c.isUpper = true) :
    field clean i n = field corrupt i n := by
  apply List.ext_getElem?
  intro k
  by_cases hk : k < n
  · have hread : ∀ s : Str, (field s i n)[k]? = s[i + k]? := by
      intro s
      rw [field, List.getElem?_take, if_pos hk, List.getElem?_drop]
    rw [hread, hread]
    cases hcorrupt : corrupt[i + k]? with
    | none =>
      rw [List.getElem?_eq_none_iff, h.length] at hcorrupt
      exact List.getElem?_eq_none hcorrupt
    | some x =>
      have hmem : x ∈ field corrupt i n :=
        List.mem_of_getElem? ((hread corrupt).trans hcorrupt)
      exact h.getElem?_of_isUpper (hd.not_within (by omega) (by omega)) (hupper x hmem) hcorrupt
  · have hread : ∀ s : Str, (field s i n)[k]? = none := by
      intro s
      rw [field, List.getElem?_take, if_neg hk]
    rw [hread, hread]

/-- Letters that are never misread stand where they stood. -/
lemma field_eq_of_forall (h : Misread letters digits clean corrupt) {i n : Nat}
    (hd : Apart digits i n) (hchars : ∀ c ∈ field clean i n, c ∉ ['O', 'I', 'Z', 'B']) :
    field corrupt i n = field clean i n := by
  have hmap := h.map_field id i n fun k c d hi hk hclean hmisread => by
    rcases hmisread with ⟨-, hcd⟩ | ⟨hwithin, -⟩
    · have hmem : c ∈ field clean i n := by
        apply List.mem_of_getElem? (i := k - i)
        rw [field, List.getElem?_take, if_pos (by omega), List.getElem?_drop,
          Nat.add_sub_cancel' hi, hclean]
      apply absurd _ (hchars c hmem)
      simp only [LetterMisread, List.mem_cons, Prod.mk.injEq, List.not_mem_nil, or_false] at hcd
      rcases hcd with ⟨hc, -⟩ | ⟨hc, -⟩ | ⟨hc, -⟩ | ⟨hc, -⟩ <;> simp [hc]
    · exact absurd hwithin (hd.not_within hi hk)
  simpa using hmap

lemma isMrzChar (h : Misread letters digits clean corrupt) (hclean : ∀ c ∈ clean, IsMrzChar c) :
    ∀ c ∈ corrupt, IsMrzChar c := by
  intro d hd
  obtain ⟨i, hi, rfl⟩ := List.getElem_of_mem hd
  have hlt : i < clean.length := by rw [← h.length]; exact hi
  rcases h.char i _ _ (List.getElem?_eq_getElem hlt) (List.getElem?_eq_getElem hi) with
    heq | ⟨-, hcd⟩ | ⟨-, hcd⟩
  · rw [heq]
    exact hclean _ (List.getElem_mem hlt)
  · generalize clean[i] = c, corrupt[i] = d at hcd ⊢
    simp only [LetterMisread, List.mem_cons, Prod.mk.injEq, List.not_mem_nil, or_false] at hcd
    rcases hcd with ⟨-, rfl⟩ | ⟨-, rfl⟩ | ⟨-, rfl⟩ | ⟨-, rfl⟩ <;> decide
  · generalize clean[i] = c, corrupt[i] = d at hcd ⊢
    simp only [DigitMisread, List.mem_cons, Prod.mk.injEq, List.not_mem_nil, or_false] at hcd
    rcases hcd with ⟨-, rfl⟩ | ⟨-, rfl⟩ | ⟨-, rfl⟩ | ⟨-, rfl⟩ | ⟨-, rfl⟩ | ⟨-, rfl⟩ |
      ⟨-, rfl⟩ <;> decide

end Misread

/-- Texts with their fillers in the same places and the same characters apart from fillers are the
same. -/
lemma eq_of_fillers {s t : Str} (hfillers : s.map (· == '<') = t.map (· == '<'))
    (hchars : s.filter (· ≠ '<') = t.filter (· ≠ '<')) : s = t := by
  induction s generalizing t with
  | nil => exact (List.map_eq_nil_iff.mp hfillers.symm).symm
  | cons c s ih =>
    cases t with
    | nil => exact absurd hfillers (by simp)
    | cons d t =>
      rw [List.map_cons, List.map_cons, List.cons.injEq] at hfillers
      rw [List.filter_cons, List.filter_cons] at hchars
      by_cases hc : c = '<'
      · have hd : d = '<' := by simpa [hc] using hfillers.1
        rw [hc, hd] at hchars ⊢
        exact congrArg _ (ih hfillers.2 (by simpa using hchars))
      · have hd : d ≠ '<' := by simpa [hc, eq_comm] using hfillers.1
        rw [if_pos (by simpa using hc), if_pos (by simpa using hd), List.cons.injEq] at hchars
        rw [hchars.1, ih hfillers.2 hchars.2]

/-- How long a text is without the fillers at its end depends on where its fillers are. -/
lemma length_trimEndMatches_of_fillers {s t : Str} (h : s.map (· == '<') = t.map (· == '<')) :
    (trimEndMatches '<' s).length = (trimEndMatches '<' t).length := by
  have hmap : ∀ s : Str, (trimEndMatches '<' s).length =
      ((s.map (· == '<')).reverse.dropWhile id).length := by
    intro s
    rw [trimEndMatches, List.rdropWhile, List.length_reverse, ← List.map_reverse,
      List.dropWhile_map, List.length_map]
    rfl
  rw [hmap, hmap, h]

/-- How many characters of a text are no fillers depends on where its fillers are. -/
lemma length_filter_of_fillers {s t : Str} (h : s.map (· == '<') = t.map (· == '<')) :
    (s.filter (· ≠ '<')).length = (t.filter (· ≠ '<')).length := by
  have hcount : ∀ s : Str, (s.filter (· ≠ '<')).length = (s.map (· == '<')).count false := by
    intro s
    induction s with
    | nil => rfl
    | cons c s ih =>
      rw [List.filter_cons, List.map_cons, List.count_cons]
      by_cases hc : c = '<'
      · simp [hc] at ih ⊢
        exact ih
      · simp [hc] at ih ⊢
        exact ih
  rw [hcount, hcount, h]

end MrzParser
