import Mathlib.Data.List.DropRight
import Mathlib.Tactic.Common
import Mathlib.Tactic.IntervalCases
import IdentityCrates.Lib.Outcome

/-!
# Strings of characters

A Rust string as the list of its characters.  Two things need care and are kept here: a string is
sliced by *byte* positions, so that a slice that ends inside a character or beyond the string is a
panic, and trimming is by Unicode white space.

On ASCII text a byte position is a character position, and every slice within the length is the
corresponding sublist (`slice_eq`).  That is all the fixed-position parsers above ever rely on.
-/

namespace Text

open Rust

/-- A string, as the list of its characters. -/
abbrev Str := List Char

section Decidable

/-! What is asked of the characters of a string is decided by going through the string, not through
all characters there are. -/

variable (s : Str) (o : Option Char) (p : Char → Prop) [DecidablePred p]

instance (priority := high) decidableForallMem : Decidable (∀ c ∈ s, p c) := List.decidableBAll p s

instance (priority := high) decidableExistsMem : Decidable (∃ c ∈ s, p c) := List.decidableBEx p s

instance (priority := high) decidableForallMemOption : Decidable (∀ c ∈ o, p c) :=
  Option.decidableForallMem o

instance (priority := high) decidableExistsMemOption : Decidable (∃ c ∈ o, p c) :=
  Option.decidableExistsMem o

end Decidable

/-! ## Slices by byte positions -/

/-- `str::len`: the length in bytes. -/
def byteLen (s : Str) : Nat := (s.map Char.utf8Size).sum

/-- `str::split_at_checked`: the text before and after byte `n`, if `n` is a character boundary. -/
def splitAtByte : Str → Nat → Option (Str × Str)
  | s, 0 => some ([], s)
  | [], _ + 1 => none
  | c :: cs, n + 1 =>
    if c.utf8Size ≤ n + 1 then
      (splitAtByte cs (n + 1 - c.utf8Size)).map fun halves => (c :: halves.1, halves.2)
    else none

/-- `str::get(a..b)`. -/
def get? (s : Str) (a b : Nat) : Option Str :=
  if a ≤ b then do
    let (_, rest) ← splitAtByte s a
    let (middle, _) ← splitAtByte rest (b - a)
    return middle
  else none

/-- The string slice `&s[a..b]`: out of range or inside a character, it panics. -/
def slice {ε : Type} (s : Str) (a b : Nat) : Outcome ε Str := Outcome.unwrap (get? s a b)

/-- The string slice `&s[a..]`. -/
def sliceFrom {ε : Type} (s : Str) (a : Nat) : Outcome ε Str := slice s a (byteLen s)

/-- Every character is ASCII. -/
def IsAscii (s : Str) : Prop := ∀ c ∈ s, c.utf8Size = 1

/-- The `n` characters from position `i` on. -/
def field (s : Str) (i n : Nat) : Str := (s.drop i).take n

lemma IsAscii.byteLen_eq {s : Str} (h : IsAscii s) : byteLen s = s.length := by
  induction s with
  | nil => rfl
  | cons c s ih =>
    have hc : c.utf8Size = 1 := h c List.mem_cons_self
    have hs : byteLen s = s.length := ih fun d hd => h d (List.mem_cons_of_mem c hd)
    rw [byteLen, List.map_cons, List.sum_cons, hc, List.length_cons, Nat.add_comm]
    exact congrArg (· + 1) hs

lemma splitAtByte_eq {s : Str} (h : IsAscii s) {n : Nat} (hn : n ≤ s.length) :
    splitAtByte s n = some (s.take n, s.drop n) := by
  induction s generalizing n with
  | nil =>
    obtain rfl : n = 0 := by simpa using hn
    rfl
  | cons c s ih =>
    have hc : c.utf8Size = 1 := h c List.mem_cons_self
    cases n with
    | zero => rfl
    | succ n =>
      have hs : IsAscii s := fun d hd => h d (List.mem_cons_of_mem c hd)
      have hn' : n ≤ s.length := by simpa using hn
      rw [splitAtByte, hc, if_pos (by omega), Nat.add_sub_cancel, ih hs hn']
      rfl

lemma IsAscii.field {s : Str} (h : IsAscii s) (i n : Nat) : IsAscii (field s i n) :=
  fun c hc => h c (List.mem_of_mem_drop (List.mem_of_mem_take hc))

lemma IsAscii.drop {s : Str} (h : IsAscii s) (n : Nat) : IsAscii (s.drop n) :=
  fun c hc => h c (List.mem_of_mem_drop hc)

lemma IsAscii.append {s t : Str} (hs : IsAscii s) (ht : IsAscii t) : IsAscii (s ++ t) := by
  intro c hc
  rcases List.mem_append.mp hc with hc | hc
  · exact hs c hc
  · exact ht c hc

lemma get?_eq {s : Str} (h : IsAscii s) {a b : Nat} (hab : a ≤ b) (hb : b ≤ s.length) :
    get? s a b = some (field s a (b - a)) := by
  have hlen : b - a ≤ (s.drop a).length := by
    rw [List.length_drop]
    omega
  rw [get?, if_pos hab, splitAtByte_eq h (hab.trans hb)]
  show (splitAtByte (s.drop a) (b - a)).bind _ = _
  rw [splitAtByte_eq (h.drop a) hlen]
  rfl

/-- On ASCII text a slice within the length is the sublist. -/
lemma slice_eq {ε : Type} {s : Str} (h : IsAscii s) {a b : Nat} (hab : a ≤ b)
    (hb : b ≤ s.length) : (slice s a b : Outcome ε Str) = .ok (field s a (b - a)) := by
  rw [slice, get?_eq h hab hb, Outcome.unwrap_some]

lemma sliceFrom_eq {ε : Type} {s : Str} (h : IsAscii s) {a : Nat} (ha : a ≤ s.length) :
    (sliceFrom s a : Outcome ε Str) = .ok (s.drop a) := by
  rw [sliceFrom, h.byteLen_eq, slice_eq h ha le_rfl, field, List.take_of_length_le]
  rw [List.length_drop]

lemma splitAtByte_append (s t : Str) : splitAtByte (s ++ t) (byteLen s) = some (s, t) := by
  induction s with
  | nil => cases t <;> rfl
  | cons c s ih =>
    have hlen : byteLen (c :: s) = c.utf8Size + byteLen s := by
      rw [byteLen, List.map_cons, List.sum_cons]
      rfl
    have hpos : 0 < c.utf8Size := c.utf8Size_pos
    obtain ⟨n, hn⟩ : ∃ n, byteLen (c :: s) = n + 1 := ⟨byteLen (c :: s) - 1, by omega⟩
    rw [hn, List.cons_append, splitAtByte, if_pos (by omega),
      show n + 1 - c.utf8Size = byteLen s by omega, ih]
    rfl

lemma byteLen_append (s t : Str) : byteLen (s ++ t) = byteLen s + byteLen t := by
  rw [byteLen, List.map_append, List.sum_append]
  rfl

/-- A text cut at the end of a part it starts with. -/
lemma sliceFrom_append {ε : Type} (s t : Str) :
    (sliceFrom (s ++ t) (byteLen s) : Outcome ε Str) = .ok t := by
  have hrest : splitAtByte t (byteLen t) = some (t, []) := by
    have h := splitAtByte_append t []
    rwa [List.append_nil] at h
  rw [sliceFrom, slice, get?, if_pos (by rw [byteLen_append]; omega), splitAtByte_append]
  show Outcome.unwrap ((splitAtByte t (byteLen (s ++ t) - byteLen s)).bind _) = _
  rw [byteLen_append, Nat.add_sub_cancel_left, hrest]
  rfl

lemma length_field {s : Str} {i n : Nat} (h : i + n ≤ s.length) : (field s i n).length = n := by
  rw [field, List.length_take, List.length_drop]
  omega

/-- Neighbouring fields make one field. -/
lemma field_append_field (s : Str) (i m n : Nat) :
    field s i m ++ field s (i + m) n = field s i (m + n) := by
  rw [field, field, field, List.take_add, List.drop_drop]

/-- A field of a field. -/
lemma field_field (s : Str) {i m j n : Nat} (h : j + n ≤ m) :
    field (field s i m) j n = field s (i + j) n := by
  rw [field, field, field, List.drop_take, List.take_take, List.drop_drop,
    Nat.min_eq_left (by omega)]

lemma take_field (s : Str) (i : Nat) {m n : Nat} (h : n ≤ m) :
    (field s i m).take n = field s i n := by
  rw [field, field, List.take_take, Nat.min_eq_left h]

lemma drop_field (s : Str) (i m j : Nat) :
    (field s i m).drop j = field s (i + j) (m - j) := by
  rw [field, field, List.drop_take, List.drop_drop]

/-- The field that reaches to the end. -/
lemma field_eq_drop {s : Str} {i l : Nat} (h : s.length = l) : field s i (l - i) = s.drop i := by
  rw [field, List.take_of_length_le]
  rw [List.length_drop, h]

lemma field_one {s : Str} {i : Nat} {c : Char} (h : s[i]? = some c) : field s i 1 = [c] := by
  obtain ⟨hi, rfl⟩ := List.getElem?_eq_some_iff.mp h
  rw [field, List.drop_eq_getElem_cons hi, List.take_succ_cons, List.take_zero]

lemma mem_of_mem_field {s : Str} {i n : Nat} {c : Char} (h : c ∈ field s i n) : c ∈ s :=
  List.mem_of_mem_drop (List.mem_of_mem_take h)

/-! ## Trimming -/

/-- `char::is_whitespace`: the property `White_Space` of Unicode. -/
def isWhitespace (c : Char) : Bool :=
  (9 ≤ c.toNat && c.toNat ≤ 13) || c.toNat == 0x20 || c.toNat == 0x85 || c.toNat == 0xA0 ||
  c.toNat == 0x1680 || (0x2000 ≤ c.toNat && c.toNat ≤ 0x200A) || c.toNat == 0x2028 ||
  c.toNat == 0x2029 || c.toNat == 0x202F || c.toNat == 0x205F || c.toNat == 0x3000

/-- `str::trim_end_matches`. -/
def trimEndMatches (c : Char) (s : Str) : Str := s.rdropWhile (· == c)

/-- `str::trim_matches`. -/
def trimMatches (c : Char) (s : Str) : Str := trimEndMatches c (s.dropWhile (· == c))

/-- `str::trim_start`. -/
def trimStart (s : Str) : Str := s.dropWhile isWhitespace

/-- `str::trim_end`. -/
def trimEnd (s : Str) : Str := s.rdropWhile isWhitespace

/-- `str::trim`. -/
def trim (s : Str) : Str := trimEnd (trimStart s)

/-- `str::replace` of one character by another. -/
def replaceChar (c d : Char) (s : Str) : Str := s.map fun x => if x = c then d else x

/-- What trimming cuts off, on either side, is white space. -/
lemma exists_trim (s : Str) :
    ∃ before after, s = before ++ trim s ++ after ∧ (∀ c ∈ before, isWhitespace c = true) ∧
      ∀ c ∈ after, isWhitespace c = true := by
  refine ⟨s.takeWhile isWhitespace, (trimStart s).rtakeWhile isWhitespace, ?_, ?_, ?_⟩
  · rw [List.append_assoc, trim, trimEnd, List.rdropWhile_append_rtakeWhile, trimStart,
      List.takeWhile_append_dropWhile]
  · exact fun c hc => List.mem_takeWhile_imp hc
  · exact fun c hc => List.mem_rtakeWhile_imp hc

/-- Trimming keeps everything but white space. -/
lemma filter_trim (s : Str) :
    (trim s).filter (fun c => !isWhitespace c) = s.filter fun c => !isWhitespace c := by
  obtain ⟨before, after, hs, hbefore, hafter⟩ := exists_trim s
  have hnone : ∀ t : Str, (∀ c ∈ t, isWhitespace c = true) →
      t.filter (fun c => !isWhitespace c) = [] := by
    intro t ht
    rw [List.filter_eq_nil_iff]
    exact fun c hc => by simp [ht c hc]
  conv_rhs => rw [hs]
  rw [List.filter_append, List.filter_append, hnone before hbefore, hnone after hafter,
    List.nil_append, List.append_nil]

/-- A trimmed text does not start with white space. -/
lemma isWhitespace_head_trim {s : Str} {c : Char} (h : (trim s).head? = some c) :
    isWhitespace c = false := by
  have hstart : trim s <+: trimStart s := List.rdropWhile_prefix (p := isWhitespace) _
  have hhead : (trimStart s).head? = some c := by
    obtain ⟨t, ht⟩ := hstart
    rw [← ht, List.head?_append, h]
    rfl
  have hnot := List.head?_dropWhile_not isWhitespace s
  rw [show s.dropWhile isWhitespace = trimStart s from rfl, hhead] at hnot
  simpa using hnot

/-- A text that does not start with white space is trimmed at its end only. -/
lemma trim_prefix {s : Str} {c : Char} (h : s.head? = some c) (hc : isWhitespace c = false) :
    trim s <+: s := by
  have hstart : trimStart s = s := by
    cases s with
    | nil => rfl
    | cons d s =>
      obtain rfl : d = c := by simpa using h
      rw [trimStart, List.dropWhile_cons_of_neg (by simp [hc])]
  rw [trim, hstart]
  exact List.rdropWhile_prefix (p := isWhitespace) s

/-- White space behind a text without any is what trimming cuts off. -/
lemma trim_append {s t : Str} (hs : ∀ c ∈ s, isWhitespace c = false)
    (ht : ∀ c ∈ t, isWhitespace c = true) : trim (s ++ t) = s := by
  have hend : trimEnd (s ++ t) = s := by
    have hnone : t.rdropWhile isWhitespace = [] := List.rdropWhile_eq_nil_iff.mpr ht
    rcases List.eq_nil_or_concat' s with rfl | ⟨init, last, rfl⟩
    · simpa [trimEnd] using ht
    · have hlast : isWhitespace last = false := hs last (by simp)
      unfold trimEnd
      rw [List.rdropWhile, List.reverse_append, List.dropWhile_append_of_pos (by simpa using ht)]
      simp [hlast]
  cases s with
  | nil =>
    have hnone : t.dropWhile isWhitespace = [] := List.dropWhile_eq_nil_iff.mpr ht
    rw [List.nil_append, trim, trimStart, hnone]
    rfl
  | cons c s =>
    have hstart : trimStart (c :: s ++ t) = c :: s ++ t := by
      rw [List.cons_append, trimStart, List.dropWhile_cons_of_neg (by simp [hs c])]
    rw [trim, hstart, hend]

/-- Without white space there is nothing to trim. -/
lemma trim_of_forall {s : Str} (h : ∀ c ∈ s, isWhitespace c = false) : trim s = s := by
  have hstart : trimStart s = s := by
    cases s with
    | nil => rfl
    | cons c rest =>
      rw [trimStart, List.dropWhile_cons_of_neg (by rw [h c (by simp)]; decide)]
  rw [trim, hstart, trimEnd, List.rdropWhile_eq_self_iff]
  intro hne
  rw [h _ (List.getLast_mem hne)]
  decide

/-- White space alone is trimmed to nothing. -/
lemma trim_eq_nil {s : Str} (h : ∀ c ∈ s, isWhitespace c = true) : trim s = [] := by
  have htrim := trim_append (s := []) (by simp) h
  rwa [List.nil_append] at htrim

/-- What trimming a character cuts off is made of that character. -/
lemma exists_trimEndMatches (c : Char) (s : Str) :
    ∃ t, s = trimEndMatches c s ++ t ∧ ∀ d ∈ t, d = c := by
  refine ⟨s.rtakeWhile (· == c), List.rdropWhile_append_rtakeWhile.symm, ?_⟩
  intro d hd
  simpa using List.mem_rtakeWhile_imp hd

lemma trimEndMatches_append_cons {c x : Char} (s t : Str) (h : x ≠ c) :
    trimEndMatches c (s ++ x :: t) = s ++ x :: trimEndMatches c t := by
  unfold trimEndMatches
  induction t using List.reverseRecOn with
  | nil =>
    rw [List.rdropWhile_concat_neg _ _ _ (by simpa using h), List.rdropWhile_nil]
  | append_singleton t y ih =>
    rw [← List.cons_append, ← List.append_assoc, List.rdropWhile_concat, List.rdropWhile_concat]
    split
    · exact ih
    · simp

lemma trimEndMatches_eq_nil {c : Char} {s : Str} :
    trimEndMatches c s = [] ↔ ∀ d ∈ s, d = c := by
  simp [trimEndMatches]

lemma length_trimEndMatches_le (c : Char) (s : Str) : (trimEndMatches c s).length ≤ s.length :=
  (List.rdropWhile_prefix (p := (· == c)) s).length_le

/-- Trimming leaves a nonempty text alone exactly when its last character is another one. -/
lemma trimEndMatches_concat_eq_self {c x : Char} {s : Str} :
    trimEndMatches c (s ++ [x]) = s ++ [x] ↔ x ≠ c := by
  rw [trimEndMatches, List.rdropWhile_eq_self_iff]
  simp

/-- The text before the first `c` is found in the trimmed text as well. -/
lemma takeWhile_trimEndMatches (c : Char) (s : Str) :
    (trimEndMatches c s).takeWhile (· ≠ c) = s.takeWhile (· ≠ c) := by
  obtain ⟨t, hs, ht⟩ := exists_trimEndMatches c s
  have hnone : t.takeWhile (· ≠ c) = [] := by
    cases t with
    | nil => rfl
    | cons d t => simp [ht d List.mem_cons_self]
  conv_rhs => rw [hs]
  rw [List.takeWhile_append]
  split
  · rename_i hall
    rw [hnone, List.append_nil]
    exact List.takeWhile_prefix _ |>.eq_of_length hall
  · rfl

/-! ## Numbers -/

/-- `char::to_digit(10)`. -/
def toDigit (c : Char) : Option Nat := if c.isDigit then some (c.toNat - '0'.toNat) else none

/-- The number a string of decimal digits denotes. -/
def ofDigits (s : Str) : Nat := s.foldl (fun n c => n * 10 + (c.toNat - '0'.toNat)) 0

/-- The digits of a nonempty string made of nothing else. -/
def parseDigits (s : Str) : Option Nat :=
  if s ≠ [] ∧ s.all Char.isDigit then some (ofDigits s) else none

/-- `str::parse` to an unsigned integer type whose largest value is `max`. -/
def parseUnsigned (max : Nat) (s : Str) : Option Nat :=
  let digits := match s with
    | '+' :: rest => rest
    | _ => s
  (parseDigits digits).filter (· ≤ max)

/-- A string of digits is read as the number it denotes, if that is not too large. -/
lemma parseUnsigned_of_digits {max : Nat} {s : Str} (hne : s ≠ []) (hall : s.all Char.isDigit)
    (hmax : ofDigits s ≤ max) : parseUnsigned max s = some (ofDigits s) := by
  unfold parseUnsigned
  split
  · rename_i rest heq
    -- a digit is not a sign
    rw [List.all_cons, Bool.and_eq_true] at hall
    exact absurd hall.1 (by decide)
  · show Option.filter _ (parseDigits s) = _
    rw [parseDigits, if_pos ⟨hne, hall⟩, Option.filter_some, if_pos (by simpa using hmax)]

/-- What is read as a number without a sign is a string of digits. -/
lemma digits_of_parseUnsigned {max n : Nat} {s : Str} (h : parseUnsigned max s = some n)
    (hplus : s.head? ≠ some '+') : s.all Char.isDigit = true ∧ n = ofDigits s := by
  unfold parseUnsigned at h
  dsimp only at h
  split at h
  · exact absurd rfl hplus
  · obtain ⟨hdigits, -⟩ := Option.filter_eq_some_iff.mp h
    unfold parseDigits at hdigits
    split at hdigits
    · rename_i hall
      exact ⟨hall.2, (Option.some.inj hdigits).symm⟩
    · cases hdigits

/-- `str::parse` to a signed integer type with the values from `-max - 1` to `max`. -/
def parseSigned (max : Nat) (s : Str) : Option Int :=
  match s with
  | '-' :: rest => ((parseDigits rest).filter (· ≤ max + 1)).map fun n => -(n : Int)
  | _ => (parseUnsigned max s).map fun n => (n : Int)

/-- A digit is the printed form of its value. -/
lemma exists_digitChar {c : Char} (h : c.isDigit = true) : ∃ d < 10, c = Nat.digitChar d := by
  have hval : 48 ≤ c.val.toNat ∧ c.val.toNat ≤ 57 := by
    simpa [Char.isDigit, UInt32.le_iff_toNat_le] using h
  refine ⟨c.toNat - 48, by have : c.toNat = c.val.toNat := rfl; omega, ?_⟩
  have hc : c = Char.ofNat c.toNat := (Char.ofNat_toNat c).symm
  have hrange : 48 ≤ c.toNat ∧ c.toNat ≤ 57 := hval
  generalize c.toNat = n at hc hrange
  subst hc
  obtain ⟨hlo, hhi⟩ := hrange
  interval_cases n <;> rfl

lemma isAscii_digits {s : Str} (h : s.all Char.isDigit = true) : IsAscii s := by
  intro c hc
  obtain ⟨d, hd, rfl⟩ := exists_digitChar (List.all_eq_true.mp h c hc)
  interval_cases d <;> rfl

lemma isDigit_digitChar {d : Nat} (h : d < 10) : (Nat.digitChar d).isDigit = true := by
  interval_cases d <;> rfl

lemma toNat_digitChar {d : Nat} (h : d < 10) : (Nat.digitChar d).toNat - '0'.toNat = d := by
  interval_cases d <;> rfl

lemma toDigit_digitChar {d : Nat} (h : d < 10) : toDigit (Nat.digitChar d) = some d := by
  rw [toDigit, if_pos (isDigit_digitChar h), toNat_digitChar h]

lemma parseUnsigned_digitChar {max d : Nat} (h : d < 10) (hmax : 9 ≤ max) :
    parseUnsigned max [Nat.digitChar d] = some d := by
  have hplus : Nat.digitChar d ≠ '+' := by
    intro heq
    have hdigit := isDigit_digitChar h
    rw [heq] at hdigit
    exact absurd hdigit (by decide)
  have hdigits : parseDigits [Nat.digitChar d] = some d := by
    rw [parseDigits, if_pos ⟨by simp, by simp [isDigit_digitChar h]⟩, ofDigits]
    simp only [List.foldl_cons, List.foldl_nil, toNat_digitChar h, Nat.zero_mul, Nat.zero_add]
  unfold parseUnsigned
  split
  · rename_i heq
    exact absurd (List.cons.inj heq).1 hplus
  · show Option.filter _ (parseDigits [Nat.digitChar d]) = some d
    rw [hdigits, Option.filter_some, if_pos (by simpa using by omega)]

/-- A number of one character is a digit. -/
lemma isDigit_of_parseUnsigned {max n : Nat} {c : Char} (h : parseUnsigned max [c] = some n) :
    c.isDigit = true := by
  unfold parseUnsigned at h
  dsimp only at h
  split at h
  · rename_i rest heq
    obtain rfl : rest = [] := ((List.cons.inj heq).2).symm
    exact absurd h (by simp [parseDigits])
  · by_contra hc
    exact absurd h (by simp [parseDigits, hc])

lemma ofDigits_pair {a b : Nat} (ha : a < 10) (hb : b < 10) :
    ofDigits [Nat.digitChar a, Nat.digitChar b] = a * 10 + b := by
  simp only [ofDigits, List.foldl_cons, List.foldl_nil, toNat_digitChar ha, toNat_digitChar hb,
    Nat.zero_mul, Nat.zero_add]

lemma parseSigned_pair {a b max : Nat} (ha : a < 10) (hb : b < 10) (hmax : 99 ≤ max) :
    parseSigned max [a.digitChar, b.digitChar] = some ((a * 10 + b : Nat) : Int) := by
  have hsign : ∀ a < 10, Nat.digitChar a ≠ '-' ∧ Nat.digitChar a ≠ '+' := by decide
  have hdigits : parseDigits [a.digitChar, b.digitChar] = some (a * 10 + b) := by
    rw [parseDigits, if_pos ⟨by simp, by simp [isDigit_digitChar ha, isDigit_digitChar hb]⟩,
      ofDigits_pair ha hb]
  unfold parseSigned
  split
  · rename_i heq
    exact absurd (List.cons.inj heq).1 (hsign a ha).1
  · unfold parseUnsigned
    dsimp only
    split
    · rename_i heq
      exact absurd (List.cons.inj heq).1 (hsign a ha).2
    · rw [hdigits, Option.filter_some, if_pos (by simpa using by omega)]
      rfl

/-- The numeral of a number denotes it. -/
lemma ofDigits_toDigits (n : Nat) : ofDigits (Nat.toDigits 10 n) = n := by
  have h := Nat.ofDigitChars_ten_toDigits (n := n)
  rw [Nat.ofDigitChars_eq_foldl] at h
  simpa only [ofDigits, Nat.mul_comm] using h

/-! ### Decimal numerals of a fixed width -/

/-- The low `w` decimal digits of `n`, most significant first. -/
def decimal : Nat → Nat → Str
  | 0, _ => []
  | w + 1, n => decimal w (n / 10) ++ [(n % 10).digitChar]

@[simp] lemma length_decimal (w n : Nat) : (decimal w n).length = w := by
  induction w generalizing n with
  | zero => rfl
  | succ w ih => rw [decimal, List.length_append, ih, List.length_singleton]

lemma isDigit_decimal (w n : Nat) : (decimal w n).all Char.isDigit = true := by
  induction w generalizing n with
  | zero => rfl
  | succ w ih =>
    rw [decimal, List.all_append, ih, List.all_cons, List.all_nil,
      isDigit_digitChar (Nat.mod_lt n (by decide))]
    rfl

lemma ofDigits_concat (s : Str) (c : Char) :
    ofDigits (s ++ [c]) = ofDigits s * 10 + (c.toNat - '0'.toNat) := by
  rw [ofDigits, List.foldl_append]
  rfl

lemma ofDigits_decimal (w n : Nat) : ofDigits (decimal w n) = n % 10 ^ w := by
  induction w generalizing n with
  | zero => rw [Nat.pow_zero, Nat.mod_one]; rfl
  | succ w ih =>
    rw [decimal, ofDigits_concat, ih, toNat_digitChar (Nat.mod_lt n (by decide)), Nat.pow_succ,
      Nat.mul_comm (10 ^ w) 10, Nat.mod_mul]
    omega

lemma ofDigits_decimal_of_lt {w n : Nat} (h : n < 10 ^ w) : ofDigits (decimal w n) = n := by
  rw [ofDigits_decimal, Nat.mod_eq_of_lt h]

/-- A numeral of fixed width is read as its number. -/
lemma parseUnsigned_decimal {max w n : Nat} (hw : 0 < w) (hn : n < 10 ^ w) (hmax : n ≤ max) :
    parseUnsigned max (decimal w n) = some n := by
  have hne : decimal w n ≠ [] := by
    intro h
    have hlen := congrArg List.length h
    rw [length_decimal] at hlen
    exact hw.ne' hlen
  have hvalue := ofDigits_decimal_of_lt hn
  have hparse : parseUnsigned max (decimal w n) = some (ofDigits (decimal w n)) :=
    parseUnsigned_of_digits hne (isDigit_decimal w n) (by omega)
  rwa [hvalue] at hparse

/-- The high digits of a numeral stand in front of the low ones. -/
lemma decimal_add (v w n : Nat) : decimal (v + w) n = decimal v (n / 10 ^ w) ++ decimal w n := by
  induction w generalizing n with
  | zero => rw [Nat.add_zero, Nat.pow_zero, Nat.div_one, decimal, List.append_nil]
  | succ w ih =>
    rw [← Nat.add_assoc, decimal, ih, decimal, Nat.div_div_eq_div_mul, Nat.pow_succ',
      List.append_assoc]

/-- A string of digits is the numeral, in its own length, of the number it denotes. -/
lemma decimal_ofDigits {s : Str} (h : s.all Char.isDigit = true) :
    decimal s.length (ofDigits s) = s := by
  induction s using List.reverseRecOn with
  | nil => rfl
  | append_singleton s c ih =>
    rw [List.all_append, Bool.and_eq_true] at h
    obtain ⟨d, hd, rfl⟩ := exists_digitChar (c := c) (by simpa using h.2)
    have hquot : (ofDigits s * 10 + d) / 10 = ofDigits s := by omega
    have hrem : (ofDigits s * 10 + d) % 10 = d := by omega
    rw [List.length_append, List.length_singleton, decimal, ofDigits_concat, toNat_digitChar hd,
      hquot, hrem, ih h.1]

lemma ofDigits_lt {s : Str} (h : s.all Char.isDigit = true) : ofDigits s < 10 ^ s.length := by
  rw [← decimal_ofDigits h, ofDigits_decimal, length_decimal]
  exact Nat.mod_lt _ (Nat.pow_pos (by decide))

/-- A string of six digits, as three pairs. -/
lemma exists_three_pairs {s : Str} (hlen : s.length = 6) (hdigits : ∀ c ∈ s, c.isDigit = true) :
    ∃ a₁ a₂ b₁ b₂ c₁ c₂ : Nat, (a₁ < 10 ∧ a₂ < 10) ∧ (b₁ < 10 ∧ b₂ < 10) ∧ (c₁ < 10 ∧ c₂ < 10) ∧
      s = [a₁.digitChar, a₂.digitChar, b₁.digitChar, b₂.digitChar, c₁.digitChar, c₂.digitChar] := by
  obtain ⟨x₁, x₂, y₁, y₂, z₁, z₂, rfl⟩ : ∃ x₁ x₂ y₁ y₂ z₁ z₂, s = [x₁, x₂, y₁, y₂, z₁, z₂] := by
    match s, hlen with
    | [x₁, x₂, y₁, y₂, z₁, z₂], _ => exact ⟨x₁, x₂, y₁, y₂, z₁, z₂, rfl⟩
  obtain ⟨a₁, ha₁, rfl⟩ := exists_digitChar (hdigits x₁ (by simp))
  obtain ⟨a₂, ha₂, rfl⟩ := exists_digitChar (hdigits x₂ (by simp))
  obtain ⟨b₁, hb₁, rfl⟩ := exists_digitChar (hdigits y₁ (by simp))
  obtain ⟨b₂, hb₂, rfl⟩ := exists_digitChar (hdigits y₂ (by simp))
  obtain ⟨c₁, hc₁, rfl⟩ := exists_digitChar (hdigits z₁ (by simp))
  obtain ⟨c₂, hc₂, rfl⟩ := exists_digitChar (hdigits z₂ (by simp))
  exact ⟨a₁, a₂, b₁, b₂, c₁, c₂, ⟨ha₁, ha₂⟩, ⟨hb₁, hb₂⟩, ⟨hc₁, hc₂⟩, rfl⟩

/-- `{:?}` of a list of numbers. -/
def debugNumbers (numbers : List Nat) : Str :=
  ['['] ++ List.intercalate [',', ' '] (numbers.map (Nat.toDigits 10)) ++ [']']

/-- How a character stands in the `Debug` text of a string, where every character outside ASCII is
taken to be printable. -/
def debugEscape (c : Char) : Str :=
  if c = '\x00' then ['\\', '0']
  else if c = '\t' then ['\\', 't']
  else if c = '\r' then ['\\', 'r']
  else if c = '\n' then ['\\', 'n']
  else if c = '"' then ['\\', '"']
  else if c = '\\' then ['\\', '\\']
  else if c.toNat < 0x20 ∨ c.toNat = 0x7f then
    ['\\', 'u', '\x7b'] ++ Nat.toDigits 16 c.toNat ++ ['\x7d']
  else [c]

/-- `{:?}` of a string. -/
def debugStr (s : Str) : Str := ['"'] ++ s.flatMap debugEscape ++ ['"']

/-- `{:0width}` of a number. -/
def padZero (width n : Nat) : Str :=
  List.replicate (width - (Nat.toDigits 10 n).length) '0' ++ Nat.toDigits 10 n

end Text
