import IdentityCrates.MrzParser.Td1
import IdentityCrates.MrzParser.Td3

/-!
# The parser of scanned zones

`MRZParser` of `parser.rs`: the lines are polished, and the first format whose number and length of
lines they have parses them.
-/

namespace MrzParser

open Rust Text

open Dmrtd (NaiveDate)

/-- `polish_input`: the lines that are there, in capitals, if every character of them is one that a
zone may have. -/
def polishInput (input : Option (List (Option Str))) : Option (List Str) := do
  let lines ← input
  let polished := lines.filterMap fun line => line.map fun s => s.map Char.toUpper
  if polished = [] then none
  else if polished.any fun line => !isValidMrzInput line then none
  else some polished

/-- `MRZParser::parse`. -/
def parse (today : NaiveDate) (input : Option (List (Option Str))) :
    Outcome MRZError MRZResult := do
  let polished ← Outcome.ofOption .invalidMRZInput (polishInput input)
  if Td1.isValidInput polished then Td1.parse today polished
  else if Td2.isValidInput polished then Td2.parse today polished
  else if Td3.isValidInput polished then Td3.parse today polished
  else .err .invalidMRZInput

/-- `MRZParser::try_parse`: an error is `None`, and there is no other. -/
def tryParse (today : NaiveDate) (input : Option (List (Option Str))) :
    Outcome Empty (Option MRZResult) :=
  match parse today input with
  | .ok result => .ok (some result)
  | .err _ => .ok none
  | .panic => .panic

/-! ## What polishing leaves -/

lemma isMrzChar_of_isValidMrzInput {s : Str} (h : isValidMrzInput s = true) :
    ∀ c ∈ s, Icao.IsMrzChar c := by
  intro c hc
  have hvalid := List.all_eq_true.mp h c hc
  simpa [Icao.IsMrzChar, or_assoc] using hvalid

/-- Behind the polishing there is at least one line, and every line is in the alphabet of the
standard. -/
lemma polishInput_spec {input : Option (List (Option Str))} {lines : List Str}
    (h : polishInput input = some lines) :
    lines ≠ [] ∧ ∀ line ∈ lines, ∀ c ∈ line, Icao.IsMrzChar c := by
  obtain ⟨raw, -, hlines⟩ := Option.bind_eq_some_iff.mp h
  dsimp only at hlines
  split at hlines
  · exact absurd hlines (by simp)
  · rename_i hne
    split at hlines
    · exact absurd hlines (by simp)
    · rename_i hall
      obtain rfl := Option.some.inj hlines
      refine ⟨hne, fun line hline => isMrzChar_of_isValidMrzInput ?_⟩
      by_contra hinvalid
      apply hall
      rw [List.any_eq_true]
      exact ⟨line, hline, by simpa using hinvalid⟩

/-- A list of lines with the shape of a format, as far as its bytes go, has it in characters. -/
lemma shape_of_isValidInput {lines : List Str} {count len : Nat}
    (hascii : ∀ line ∈ lines, IsAscii line)
    (h : (lines.length == count && lines.all fun s => byteLen s == len) = true) :
    lines.length = count ∧ ∀ line ∈ lines, line.length = len := by
  rw [Bool.and_eq_true, List.all_eq_true] at h
  refine ⟨by simpa using h.1, fun line hline => ?_⟩
  rw [← (hascii line hline).byteLen_eq]
  simpa using h.2 line hline

/-! ## Lines in order

Lines that are in the alphabet already are not changed by the polishing, and the format is the one
whose shape they have. -/

lemma polishInput_eq {lines : List Str} (hne : lines ≠ [])
    (h : ∀ line ∈ lines, ∀ c ∈ line, Icao.IsMrzChar c) :
    polishInput (some (lines.map some)) = some lines := by
  have hupper : (lines.map some).filterMap (fun line => line.map fun s => s.map Char.toUpper) =
      lines := by
    rw [List.filterMap_map]
    have hline : ∀ line ∈ lines, some (line.map Char.toUpper) = some line := by
      intro line hline
      congr 1
      calc line.map Char.toUpper = line.map id :=
            List.map_congr_left fun c hc => (h line hline c hc).toUpper
        _ = line := List.map_id line
    calc lines.filterMap (fun line => some (line.map Char.toUpper))
        = lines.filterMap some := List.filterMap_congr hline
      _ = lines := List.filterMap_some
  have hvalid : (lines.any fun line => !isValidMrzInput line) = false := by
    rw [List.any_eq_false]
    intro line hline
    have hall : isValidMrzInput line = true := by
      refine List.all_eq_true.mpr fun c hc => ?_
      simpa [Icao.IsMrzChar, or_assoc] using h line hline c hc
    simp [hall]
  unfold polishInput
  show (if _ = [] then none else if _ then none else some _) = _
  rw [hupper, if_neg hne, hvalid]
  rfl

section Shapes

variable (today : NaiveDate) {a b c : Str}

lemma parse_td1 (ha : ∀ x ∈ a, Icao.IsMrzChar x) (hb : ∀ x ∈ b, Icao.IsMrzChar x)
    (hc : ∀ x ∈ c, Icao.IsMrzChar x) (la : a.length = 30) (lb : b.length = 30)
    (lc : c.length = 30) :
    parse today (some ([a, b, c].map some)) = Td1.parseLines today a b c := by
  have hlines : ∀ line ∈ [a, b, c], ∀ x ∈ line, Icao.IsMrzChar x := by simp_all
  have hvalid : Td1.isValidInput [a, b, c] = true := by
    simp [Td1.isValidInput, Td1.linesCount, Td1.linesLength,
      (Icao.isAscii_of_isMrzChar ha).byteLen_eq, (Icao.isAscii_of_isMrzChar hb).byteLen_eq,
      (Icao.isAscii_of_isMrzChar hc).byteLen_eq, la, lb, lc]
  rw [parse, polishInput_eq (by simp) hlines, Outcome.ofOption_some, Outcome.ok_bind, if_pos hvalid,
    Td1.parse, if_pos hvalid]
  rfl

lemma parse_td2 (ha : ∀ x ∈ a, Icao.IsMrzChar x) (hb : ∀ x ∈ b, Icao.IsMrzChar x)
    (la : a.length = 36) (lb : b.length = 36) :
    parse today (some ([a, b].map some)) =
      if Td2.isFrenchId a then Td2.parseFrenchId today a b else Td2.parseLines today a b := by
  have hlines : ∀ line ∈ [a, b], ∀ x ∈ line, Icao.IsMrzChar x := by simp_all
  have hvalid : Td2.isValidInput [a, b] = true := by
    simp [Td2.isValidInput, Td2.linesCount, Td2.linesLength,
      (Icao.isAscii_of_isMrzChar ha).byteLen_eq, (Icao.isAscii_of_isMrzChar hb).byteLen_eq, la, lb]
  have hother : Td1.isValidInput [a, b] = false := rfl
  rw [parse, polishInput_eq (by simp) hlines, Outcome.ofOption_some, Outcome.ok_bind, hother,
    if_neg Bool.false_ne_true, if_pos hvalid, Td2.parse, if_pos hvalid]
  rfl

lemma parse_td3 (ha : ∀ x ∈ a, Icao.IsMrzChar x) (hb : ∀ x ∈ b, Icao.IsMrzChar x)
    (la : a.length = 44) (lb : b.length = 44) :
    parse today (some ([a, b].map some)) = Td3.parseLines today a b := by
  have hlines : ∀ line ∈ [a, b], ∀ x ∈ line, Icao.IsMrzChar x := by simp_all
  have hbytes := (Icao.isAscii_of_isMrzChar ha).byteLen_eq
  have hvalid : Td3.isValidInput [a, b] = true := by
    simp [Td3.isValidInput, Td3.linesCount, Td3.linesLength, hbytes,
      (Icao.isAscii_of_isMrzChar hb).byteLen_eq, la, lb]
  have hother₁ : Td1.isValidInput [a, b] = false := rfl
  have hother₂ : Td2.isValidInput [a, b] = false := by
    simp [Td2.isValidInput, Td2.linesLength, hbytes, la]
  rw [parse, polishInput_eq (by simp) hlines, Outcome.ofOption_some, Outcome.ok_bind, hother₁,
    if_neg Bool.false_ne_true, hother₂, if_neg Bool.false_ne_true, if_pos hvalid, Td3.parse,
    if_pos hvalid]
  rfl

end Shapes

end MrzParser
