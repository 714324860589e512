import IdentityCrates.MrzParser.Fields

/-!
# Country patterns

`country_patterns.rs`: how the document number of a TD1 card is found for the countries that do not
follow the layout.  Each pattern is a regular expression of one shape, `^(` a sequence of character
classes with bounded repetition `)`, so that a pattern is the list of its repetitions.  A repetition
takes as many characters as it can and gives them back one by one when the rest does not match.
-/

namespace MrzParser

open Rust Text

/-- The character classes of the patterns: `[A-Z]`, `[0-9]` and `[A-Z0-9]`. -/
inductive CharClass where
  | upper
  | digit
  | alnum
  deriving DecidableEq, Repr

/-- Is a character of the class? -/
def CharClass.contains : CharClass → Char → Bool
  | .upper, c => c.isUpper
  | .digit, c => c.isDigit
  | .alnum, c => c.isUpper || c.isDigit

/-- A class repeated at least `atLeast` and at most `atMost` times. -/
structure Repetition where
  cls : CharClass
  atLeast : Nat
  atMost : Nat
  deriving DecidableEq, Repr

/-- The length of the match of a sequence of repetitions at the start of a text. -/
def matchLength : List Repetition → Str → Option Nat
  | [], _ => some 0
  | r :: rs, s =>
    ((List.range (r.atMost + 1 - r.atLeast)).map fun k => r.atMost - k).findSome? fun n =>
      if n ≤ s.length ∧ (s.take n).all r.cls.contains then
        (matchLength rs (s.drop n)).map fun m => n + m
      else none

/-- `MRZCountryPattern`, without the code of the country, which nothing reads. -/
structure MRZCountryPattern where
  idPrefix : Str
  documentNumberPattern : List Repetition
  documentNumberStartIndex : Nat
  deriving DecidableEq, Repr

/-- `Regex::captures`, group 1, which is the whole match. -/
def MRZCountryPattern.captures (p : MRZCountryPattern) (s : Str) : Option Str :=
  (matchLength p.documentNumberPattern s).map fun n => s.take n

/-- A class repeated exactly `n` times. -/
def exactly (cls : CharClass) (n : Nat) : Repetition := ⟨cls, n, n⟩

/-- The entry of a country: all of them start at index 5. -/
def countryPattern (idPrefix : String) (documentNumberPattern : List Repetition) :
    MRZCountryPattern :=
  ⟨idPrefix.toList, documentNumberPattern, 5⟩

/-- `PATTERNS`. -/
def patterns : List MRZCountryPattern :=
  [countryPattern "IDAUT" [exactly .digit 10],
   countryPattern "IDBEL" [exactly .upper 1, exactly .digit 3, exactly .upper 1, exactly .digit 6],
   countryPattern "IDBGR" [exactly .digit 10],
   countryPattern "IDCYP" [exactly .digit 9],
   countryPattern "IDCZE" [⟨.upper, 0, 1⟩, ⟨.digit, 8, 9⟩],
   countryPattern "IDDEU" [exactly .alnum 9],
   countryPattern "IDDNK" [exactly .digit 9],
   countryPattern "IDESP" [exactly .digit 8, exactly .upper 1],
   countryPattern "IDEST" [⟨.upper, 0, 2⟩, exactly .digit 8],
   countryPattern "IDFIN" [exactly .digit 14],
   countryPattern "IDFRA" [exactly .alnum 12],
   countryPattern "IDGBR" [exactly .digit 13],
   countryPattern "IDGRC" [⟨.upper, 0, 2⟩, ⟨.digit, 8, 10⟩],
   countryPattern "IDHRV" [exactly .digit 11],
   countryPattern "IDHUN" [exactly .digit 6, exactly .upper 2],
   countryPattern "IDIRL" [exactly .alnum 12],
   countryPattern "IDITA" [exactly .alnum 10],
   countryPattern "IDLTU" [exactly .digit 8],
   countryPattern "IDLUX" [⟨.upper, 0, 2⟩, ⟨.digit, 8, 10⟩],
   countryPattern "IDLVA" [⟨.upper, 0, 1⟩, ⟨.digit, 8, 9⟩],
   countryPattern "IDMLT" [⟨.upper, 0, 1⟩, ⟨.digit, 8, 9⟩],
   countryPattern "IDNLD" [exactly .upper 2, exactly .digit 7],
   countryPattern "IDPOL" [⟨.upper, 0, 3⟩, ⟨.digit, 8, 9⟩],
   countryPattern "IDPRT" [⟨.upper, 0, 2⟩, exactly .digit 8],
   countryPattern "IDROU" [exactly .upper 2, ⟨.digit, 8, 9⟩],
   countryPattern "IDSVK" [exactly .digit 6, exactly .upper 1, exactly .digit 3],
   countryPattern "IDSVN" [⟨.upper, 0, 1⟩, ⟨.digit, 9, 10⟩],
   countryPattern "IDSWE" [⟨.upper, 0, 1⟩, ⟨.digit, 8, 9⟩]]

/-- `get_country_pattern`. -/
def getCountryPattern (firstLine : Str) : Option MRZCountryPattern :=
  patterns.find? fun p => p.idPrefix.isPrefixOf firstLine

/-! ## What a match is -/

/-- A match lies in the text and is made of letters and digits. -/
lemma matchLength_spec {rs : List Repetition} {s : Str} {n : Nat} (h : matchLength rs s = some n) :
    n ≤ s.length ∧ ∀ c ∈ s.take n, c.isUpper = true ∨ c.isDigit = true := by
  induction rs generalizing s n with
  | nil =>
    obtain rfl : 0 = n := Option.some.inj h
    simp
  | cons r rs ih =>
    obtain ⟨k, -, hk⟩ := List.exists_of_findSome?_eq_some h
    split at hk
    · rename_i hfits
      obtain ⟨m, hm, rfl⟩ := Option.map_eq_some_iff.mp hk
      obtain ⟨hlen, hchars⟩ := ih hm
      rw [List.length_drop] at hlen
      refine ⟨by omega, ?_⟩
      intro c hc
      rw [List.take_add, List.mem_append] at hc
      rcases hc with hc | hc
      · have hcls := List.all_eq_true.mp hfits.2 c hc
        cases hr : r.cls with
        | upper => exact Or.inl (by simpa [hr, CharClass.contains] using hcls)
        | digit => exact Or.inr (by simpa [hr, CharClass.contains] using hcls)
        | alnum => simpa [hr, CharClass.contains] using hcls
      · exact hchars c hc
    · exact absurd hk (by simp)

lemma captures_eq_some {p : MRZCountryPattern} {s m : Str} (h : p.captures s = some m) :
    m = s.take m.length ∧ m.length ≤ s.length ∧
      ∀ c ∈ m, c.isUpper = true ∨ c.isDigit = true := by
  obtain ⟨n, hn, rfl⟩ := Option.map_eq_some_iff.mp h
  obtain ⟨hlen, hchars⟩ := matchLength_spec hn
  have hmin : (s.take n).length = n := by
    rw [List.length_take]
    omega
  rw [hmin]
  exact ⟨rfl, hlen, hchars⟩

/-- Every pattern is for a prefix of five capital letters, and starts behind it. -/
lemma patterns_spec : ∀ p ∈ patterns, p.documentNumberStartIndex = 5 ∧ p.idPrefix.length = 5 ∧
    ∀ c ∈ p.idPrefix, c.isUpper = true := by
  decide

/-- A pattern is for the lines with its prefix as their first five characters. -/
lemma isPrefixOf_eq {p : MRZCountryPattern} (hp : p ∈ patterns) (s : Str) :
    p.idPrefix.isPrefixOf s = decide (p.idPrefix = s.take 5) := by
  obtain ⟨-, hlen, -⟩ := patterns_spec p hp
  rw [Bool.eq_iff_iff, List.isPrefixOf_iff_prefix, List.prefix_iff_eq_take, hlen, decide_eq_true_eq]

/-- The first five characters of a line with a pattern are the prefix of the country. -/
lemma take_of_getCountryPattern {firstLine : Str} {pattern : MRZCountryPattern}
    (h : getCountryPattern firstLine = some pattern) : firstLine.take 5 = pattern.idPrefix := by
  unfold getCountryPattern at h
  have hstart := List.find?_some h
  rw [isPrefixOf_eq (List.mem_of_find?_eq_some h), decide_eq_true_eq] at hstart
  exact hstart.symm

/-- The pattern of a line depends on its first five characters only. -/
lemma getCountryPattern_congr {s t : Str} (h : s.take 5 = t.take 5) :
    getCountryPattern s = getCountryPattern t := by
  have hfind : ∀ ps : List MRZCountryPattern, (∀ p ∈ ps, p ∈ patterns) →
      ps.find? (fun p => p.idPrefix.isPrefixOf s) = ps.find? fun p => p.idPrefix.isPrefixOf t := by
    intro ps hps
    induction ps with
    | nil => rfl
    | cons p ps ih =>
      have hp := hps p List.mem_cons_self
      rw [List.find?_cons, List.find?_cons, isPrefixOf_eq hp, isPrefixOf_eq hp, h,
        ih fun q hq => hps q (List.mem_cons_of_mem p hq)]
  exact hfind patterns fun p hp => hp

end MrzParser
