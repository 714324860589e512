import IdentityCrates.Lib.Text

/-!
# The machine readable zone of ICAO 9303

What the two parsers of the repository are for, stated without either of them: the alphabet, the
check digit, and the three layouts.  A zone is the text of its lines one after the other, so that
one position names a character in all of them.

A document number of more than nine characters (`Layout.CarriesLong`) is spread over two fields.
Its first nine characters stand in the field of the number, a filler takes the place of the check
digit, and the optional data begin with the rest of the number and its check digit.  Nothing marks
the length: what follows the check digit is the end of the field or a filler.
-/

namespace Icao

open Text

/-! ## Alphabet and check digit -/

/-- The alphabet: capital letters, digits and the filler. -/
def IsMrzChar (c : Char) : Prop := c.isUpper = true ∨ c.isDigit = true ∨ c = '<'

instance : DecidablePred IsMrzChar := fun c => by
  unfold IsMrzChar
  infer_instance

/-- The characters of the alphabet lie between `0` and `Z`. -/
lemma IsMrzChar.toNat_mem {c : Char} (h : IsMrzChar c) : 48 ≤ c.toNat ∧ c.toNat ≤ 90 := by
  have hval : c.toNat = c.val.toNat := rfl
  rcases h with h | h | rfl
  · have hrange : 'A'.val ≤ c.val ∧ c.val ≤ 'Z'.val := of_decide_eq_true h
    simp only [UInt32.le_iff_toNat_le] at hrange
    have hlow : 'A'.val.toNat = 65 := rfl
    have hhigh : 'Z'.val.toNat = 90 := rfl
    omega
  · simp only [Char.isDigit, Bool.and_eq_true, decide_eq_true_eq, ge_iff_le,
      UInt32.le_iff_toNat_le] at h
    have hlow : '0'.val.toNat = 48 := rfl
    have hhigh : '9'.val.toNat = 57 := rfl
    omega
  · decide

lemma IsMrzChar.utf8Size {c : Char} (h : IsMrzChar c) : c.utf8Size = 1 := by
  rw [Char.utf8Size_eq_one_iff, UInt32.le_iff_toNat_le]
  have hmem := h.toNat_mem
  have hval : c.toNat = c.val.toNat := rfl
  show c.val.toNat ≤ 127
  omega

lemma IsMrzChar.isWhitespace {c : Char} (h : IsMrzChar c) : isWhitespace c = false := by
  have hmem := h.toNat_mem
  simp only [Text.isWhitespace, Bool.or_eq_false_iff, Bool.and_eq_false_iff, beq_eq_false_iff_ne,
    decide_eq_false_iff_not]
  omega

lemma IsMrzChar.toUpper {c : Char} (h : IsMrzChar c) : c.toUpper = c := by
  have hmem := h.toNat_mem
  unfold Char.toUpper
  rw [dif_neg]
  rintro ⟨hlow, -⟩
  rw [UInt32.le_iff_toNat_le] at hlow
  have hval : c.toNat = c.val.toNat := rfl
  have ha : 'a'.val.toNat = 97 := rfl
  omega

lemma isAscii_of_isMrzChar {s : Str} (h : ∀ c ∈ s, IsMrzChar c) : IsAscii s :=
  fun c hc => (h c hc).utf8Size

/-- The value of a character in a check digit. -/
def charValue (c : Char) : Nat :=
  if c.isDigit then c.toNat - '0'.toNat
  else if c.isUpper then c.toNat - 'A'.toNat + 10
  else 0

/-- The weight of position `i`. -/
def weight (i : Nat) : Nat := [7, 3, 1].getD (i % 3) 0

/-- The weighted sum of a text the first character of which is at position `i`. -/
def weightedSum : Nat → Str → Nat
  | _, [] => 0
  | i, c :: cs => charValue c * weight i + weightedSum (i + 1) cs

/-- The check digit of a text. -/
def checkDigit (s : Str) : Nat := weightedSum 0 s % 10

/-- The check digit as it is printed. -/
def checkChar (s : Str) : Char := (checkDigit s).digitChar

lemma checkDigit_lt (s : Str) : checkDigit s < 10 := Nat.mod_lt _ (by omega)

lemma isDigit_checkChar (s : Str) : (checkChar s).isDigit = true :=
  isDigit_digitChar (checkDigit_lt s)

lemma checkChar_ne_filler (s : Str) : checkChar s ≠ '<' := by
  intro heq
  have hdigit := isDigit_checkChar s
  rw [heq] at hdigit
  exact absurd hdigit (by decide)

@[simp] lemma charValue_filler : charValue '<' = 0 := rfl

lemma weightedSum_append (i : Nat) (s t : Str) :
    weightedSum i (s ++ t) = weightedSum i s + weightedSum (i + s.length) t := by
  induction s generalizing i with
  | nil => simp [weightedSum]
  | cons c s ih =>
    rw [List.cons_append, weightedSum, weightedSum, ih, List.length_cons, Nat.add_assoc i 1,
      Nat.add_comm 1, Nat.add_assoc]

lemma weightedSum_fillers (i : Nat) {s : Str} (h : ∀ c ∈ s, c = '<') : weightedSum i s = 0 := by
  induction s generalizing i with
  | nil => rfl
  | cons c s ih =>
    rw [weightedSum, h c List.mem_cons_self, ih _ fun d hd => h d (List.mem_cons_of_mem c hd),
      charValue_filler, Nat.zero_mul]

/-- Fillers at the end do not count. -/
lemma checkDigit_append_fillers {s t : Str} (h : ∀ c ∈ t, c = '<') :
    checkDigit (s ++ t) = checkDigit s := by
  rw [checkDigit, weightedSum_append, weightedSum_fillers _ h, Nat.add_zero, checkDigit]

lemma checkDigit_trimEndMatches (s : Str) :
    checkDigit (trimEndMatches '<' s) = checkDigit s := by
  have hsplit := List.rdropWhile_append_rtakeWhile (p := (· == '<')) (l := s)
  have hall : ∀ c ∈ s.rtakeWhile (· == '<'), c = '<' := by
    intro c hc
    simpa using List.mem_rtakeWhile_imp hc
  calc checkDigit (trimEndMatches '<' s)
      = checkDigit (s.rdropWhile (· == '<') ++ s.rtakeWhile (· == '<')) :=
        (checkDigit_append_fillers hall).symm
    _ = checkDigit s := by rw [hsplit]

/-! ## Layouts -/

/-- Where the fields of a format stand.  The document number has nine characters and its check
digit after it, the dates six and theirs. -/
structure Layout where
  size : Nat
  lineLength : Nat
  documentNumber : Nat
  nationality : Nat
  birthDate : Nat
  sex : Nat
  expiryDate : Nat
  optionalData : Nat
  optionalLength : Nat
  /-- The ranges, as start and length, that the composite check digit is computed over. -/
  composite : List (Nat × Nat)
  compositeDigit : Nat
  deriving DecidableEq

/-- Three lines of 30 characters. -/
def td1 : Layout where
  size := 90
  lineLength := 30
  documentNumber := 5
  nationality := 45
  birthDate := 30
  sex := 37
  expiryDate := 38
  optionalData := 15
  optionalLength := 15
  composite := [(5, 25), (30, 7), (38, 7), (48, 11)]
  compositeDigit := 59

/-- Two lines of 36 characters. -/
def td2 : Layout where
  size := 72
  lineLength := 36
  documentNumber := 36
  nationality := 46
  birthDate := 49
  sex := 56
  expiryDate := 57
  optionalData := 64
  optionalLength := 7
  composite := [(36, 10), (49, 7), (57, 14)]
  compositeDigit := 71

/-- Two lines of 44 characters. -/
def td3 : Layout where
  size := 88
  lineLength := 44
  documentNumber := 44
  nationality := 54
  birthDate := 57
  sex := 64
  expiryDate := 65
  optionalData := 72
  optionalLength := 14
  composite := [(44, 10), (57, 7), (65, 22)]
  compositeDigit := 87

namespace Layout

variable (L : Layout)

/-- The lines of a zone. -/
def lines (data : Str) : List Str :=
  (List.range (L.size / L.lineLength)).map fun i => field data (i * L.lineLength) L.lineLength

/-- The text the composite check digit is computed over. -/
def compositeText (data : Str) : Str := (L.composite.map fun r => field data r.1 r.2).flatten

/-- The zone has the size of the format and its alphabet, and the check digits of the dates and of
the composite are right. -/
structure Checked (data : Str) : Prop where
  length : data.length = L.size
  chars : ∀ c ∈ data, IsMrzChar c
  birthDate : field data (L.birthDate + 6) 1 = [checkChar (field data L.birthDate 6)]
  expiryDate : field data (L.expiryDate + 6) 1 = [checkChar (field data L.expiryDate 6)]
  composite : field data L.compositeDigit 1 = [checkChar (L.compositeText data)]

/-- The zone carries the long document number `number`, and `rest` is what its optional data hold
after the check digit of the number. -/
structure CarriesLong (number rest data : Str) : Prop extends L.Checked data where
  long : 9 < number.length
  principal : field data L.documentNumber 9 = number.take 9
  noCheckDigit : field data (L.documentNumber + 9) 1 = ['<']
  remainder : field data L.optionalData L.optionalLength =
    number.drop 9 ++ checkChar number :: rest
  rest_filler : ∀ c ∈ rest.head?, c = '<'

variable {L} {number rest data : Str}

instance : Decidable (L.Checked data) :=
  decidable_of_iff
    (data.length = L.size ∧ (∀ c ∈ data, IsMrzChar c) ∧
      field data (L.birthDate + 6) 1 = [checkChar (field data L.birthDate 6)] ∧
      field data (L.expiryDate + 6) 1 = [checkChar (field data L.expiryDate 6)] ∧
      field data L.compositeDigit 1 = [checkChar (L.compositeText data)])
    ⟨fun ⟨h₁, h₂, h₃, h₄, h₅⟩ => ⟨h₁, h₂, h₃, h₄, h₅⟩,
      fun ⟨h₁, h₂, h₃, h₄, h₅⟩ => ⟨h₁, h₂, h₃, h₄, h₅⟩⟩

instance : Decidable (L.CarriesLong number rest data) :=
  decidable_of_iff
    (L.Checked data ∧ 9 < number.length ∧ field data L.documentNumber 9 = number.take 9 ∧
      field data (L.documentNumber + 9) 1 = ['<'] ∧
      field data L.optionalData L.optionalLength = number.drop 9 ++ checkChar number :: rest ∧
      ∀ c ∈ rest.head?, c = '<')
    ⟨fun ⟨h₁, h₂, h₃, h₄, h₅, h₆⟩ => ⟨h₁, h₂, h₃, h₄, h₅, h₆⟩,
      fun ⟨h₁, h₂, h₃, h₄, h₅, h₆⟩ => ⟨h₁, h₂, h₃, h₄, h₅, h₆⟩⟩

lemma Checked.length_field (h : L.Checked data) {i n : Nat} (hin : i + n ≤ L.size) :
    (field data i n).length = n :=
  Text.length_field (by rw [h.length]; exact hin)

lemma Checked.isMrzChar_field (h : L.Checked data) (i n : Nat) :
    ∀ c ∈ field data i n, IsMrzChar c :=
  fun c hc => h.chars c (mem_of_mem_field hc)

lemma Checked.isMrzChar_compositeText (h : L.Checked data) :
    ∀ c ∈ L.compositeText data, IsMrzChar c := by
  intro c hc
  obtain ⟨s, hs, hcs⟩ := List.mem_flatten.mp hc
  obtain ⟨r, -, rfl⟩ := List.mem_map.mp hs
  exact h.isMrzChar_field r.1 r.2 c hcs

lemma CarriesLong.isMrzChar_number (h : L.CarriesLong number rest data) :
    ∀ c ∈ number, IsMrzChar c := by
  intro c hc
  rw [← List.take_append_drop 9 number, List.mem_append] at hc
  rcases hc with hc | hc
  · rw [← h.principal] at hc
    exact h.toChecked.isMrzChar_field _ _ c hc
  · refine h.toChecked.isMrzChar_field L.optionalData L.optionalLength c ?_
    rw [h.remainder]
    exact List.mem_append_left _ hc

/-- Up to its first filler the optional field holds the rest of the number and the check digit, if
the rest of the number has no filler in it. -/
lemma CarriesLong.takeWhile_remainder (h : L.CarriesLong number rest data)
    (hfiller : '<' ∉ number.drop 9) :
    (field data L.optionalData L.optionalLength).takeWhile (· ≠ '<') =
      number.drop 9 ++ [checkChar number] := by
  have hcd := checkChar_ne_filler number
  have hrest : rest.takeWhile (· ≠ '<') = [] := by
    have hhead := h.rest_filler
    cases rest with
    | nil => rfl
    | cons c more => rw [List.takeWhile_cons_of_neg (by simpa using hhead)]
  have hdrop : ∀ c ∈ number.drop 9, decide (c ≠ '<') = true := by
    intro c hc
    exact decide_eq_true fun heq => hfiller (heq ▸ hc)
  rw [h.remainder, List.takeWhile_append_of_pos hdrop,
    List.takeWhile_cons_of_pos (by simpa using hcd), hrest]

end Layout

end Icao
