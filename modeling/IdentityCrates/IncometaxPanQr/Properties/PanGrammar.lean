import IdentityCrates.IncometaxPanQr.Parser

/-!
# The PANs that pass

`check_pan_details` trims its input, puts it in upper case and compares the bytes with
`[A-Z]{3}[PCHFATBLJG][A-Z][0-9]{4}[A-Z]`.

The comparison is exact (`isValidPan_encode`): a byte string that passes is ASCII, so the string it
encodes has ten characters, each of the kind its place asks for.  What widens the language is the
upper case before it, which is the one of Unicode and not the one of ASCII.  Ten characters beyond
ASCII become ASCII letters there (`Text.asciiFoldings`), eight of them two or three letters at once,
so a PAN may be spelled with fewer than ten characters.  No other character does, and on ASCII input
the verdict is the grammar up to ASCII case.
-/

namespace IncometaxPanQr

open Octets Text

/-- The letters of the entity codes. -/
def entityLetters : Str := ['P', 'C', 'H', 'F', 'A', 'T', 'B', 'L', 'J', 'G']

/-- `[A-Z]{3}[PCHFATBLJG][A-Z][0-9]{4}[A-Z]`. -/
def PanGrammar (s : Str) : Prop :=
  ∃ a b c entity e d₁ d₂ d₃ d₄ last, s = [a, b, c, entity, e, d₁, d₂, d₃, d₄, last] ∧
    a.isUpper = true ∧ b.isUpper = true ∧ c.isUpper = true ∧ entity ∈ entityLetters ∧
    e.isUpper = true ∧ d₁.isDigit = true ∧ d₂.isDigit = true ∧ d₃.isDigit = true ∧
    d₄.isDigit = true ∧ last.isUpper = true

/-! ## Bytes and characters -/

section Ascii

variable {c : Char} (h : c.toNat < 128)
include h

lemma isAsciiUppercase_asciiByte : isAsciiUppercase (Utf8.asciiByte c) = c.isUpper := by
  have hall : ∀ n < 128, isAsciiUppercase (UInt8.ofNat n) = (Char.ofNat n).isUpper := by decide
  have hc := hall c.toNat h
  rwa [Char.ofNat_toNat] at hc

lemma isAsciiDigit_asciiByte : isAsciiDigit (Utf8.asciiByte c) = c.isDigit := by
  have hall : ∀ n < 128, isAsciiDigit (UInt8.ofNat n) = (Char.ofNat n).isDigit := by decide
  have hc := hall c.toNat h
  rwa [Char.ofNat_toNat] at hc

lemma contains_asciiByte : entityCodes.contains (Utf8.asciiByte c) = decide (c ∈ entityLetters) := by
  have hall : ∀ n < 128,
      entityCodes.contains (UInt8.ofNat n) = decide (Char.ofNat n ∈ entityLetters) := by decide
  have hc := hall c.toNat h
  rwa [Char.ofNat_toNat] at hc

end Ascii

/-! ## The comparison -/

lemma lt_of_isAsciiUppercase {b : UInt8} (h : isAsciiUppercase b = true) : b.toNat < 128 := by
  have hle := (Bool.and_eq_true_iff.mp h).2
  have hnat : b.toNat ≤ 0x5A := UInt8.le_iff_toNat_le.mp (of_decide_eq_true hle)
  omega

lemma lt_of_isAsciiDigit {b : UInt8} (h : isAsciiDigit b = true) : b.toNat < 128 := by
  have hle := (Bool.and_eq_true_iff.mp h).2
  have hnat : b.toNat ≤ 0x39 := UInt8.le_iff_toNat_le.mp (of_decide_eq_true hle)
  omega

lemma lt_of_mem_entityCodes {b : UInt8} (h : b ∈ entityCodes) : b.toNat < 128 := by
  have hall : entityCodes.all (fun code => decide (code.toNat < 128)) = true := by decide
  exact of_decide_eq_true (List.all_eq_true.mp hall b h)

/-- What `is_valid_pan` asks of ten bytes. -/
lemma isValidPan_ten {a b c entity e d₁ d₂ d₃ d₄ last : UInt8} :
    isValidPan [a, b, c, entity, e, d₁, d₂, d₃, d₄, last] = true ↔
      isAsciiUppercase a = true ∧ isAsciiUppercase b = true ∧ isAsciiUppercase c = true ∧
        entityCodes.contains entity = true ∧ isAsciiUppercase e = true ∧ isAsciiDigit d₁ = true ∧
        isAsciiDigit d₂ = true ∧ isAsciiDigit d₃ = true ∧ isAsciiDigit d₄ = true ∧
        isAsciiUppercase last = true := by
  simp only [isValidPan, List.length_cons, List.length_nil, List.take_succ_cons, List.take_zero,
    List.all_cons, List.all_nil, List.getD_cons_succ, List.getD_cons_zero, List.drop_succ_cons,
    List.drop_zero, Bool.and_eq_true, decide_eq_true_eq, and_true, true_and, and_assoc]

/-- There are ten bytes to ask it of. -/
lemma exists_ten {α : Type} {xs : List α} (h : xs.length = 10) :
    ∃ a b c entity e d₁ d₂ d₃ d₄ last, xs = [a, b, c, entity, e, d₁, d₂, d₃, d₄, last] := by
  rcases xs with _ | ⟨a, _ | ⟨b, _ | ⟨c, _ | ⟨entity, _ | ⟨e, _ | ⟨d₁, _ | ⟨d₂, _ | ⟨d₃, _ | ⟨d₄,
    _ | ⟨last, _ | ⟨x, xs⟩⟩⟩⟩⟩⟩⟩⟩⟩⟩⟩ <;> simp at h
  exact ⟨a, b, c, entity, e, d₁, d₂, d₃, d₄, last, rfl⟩

lemma length_of_isValidPan {bs : Bytes} (h : isValidPan bs = true) : bs.length = 10 := by
  simp only [isValidPan, Bool.and_eq_true, decide_eq_true_eq, and_assoc] at h
  exact h.1

/-- What passes is ASCII. -/
lemma ascii_of_isValidPan {bs : Bytes} (h : isValidPan bs = true) : ∀ x ∈ bs, x.toNat < 128 := by
  obtain ⟨a, b, c, entity, e, d₁, d₂, d₃, d₄, last, rfl⟩ := exists_ten (length_of_isValidPan h)
  obtain ⟨ha, hb, hc, hentity, he, h₁, h₂, h₃, h₄, hlast⟩ := isValidPan_ten.mp h
  have hcode := lt_of_mem_entityCodes (List.contains_iff_mem.mp hentity)
  simp only [List.mem_cons, List.not_mem_nil, or_false]
  rintro x (rfl | rfl | rfl | rfl | rfl | rfl | rfl | rfl | rfl | rfl)
  · exact lt_of_isAsciiUppercase ha
  · exact lt_of_isAsciiUppercase hb
  · exact lt_of_isAsciiUppercase hc
  · exact hcode
  · exact lt_of_isAsciiUppercase he
  · exact lt_of_isAsciiDigit h₁
  · exact lt_of_isAsciiDigit h₂
  · exact lt_of_isAsciiDigit h₃
  · exact lt_of_isAsciiDigit h₄
  · exact lt_of_isAsciiUppercase hlast

/-- On ASCII strings of ten characters the comparison is the grammar. -/
lemma isValidPan_map {t : Str} (h : ∀ c ∈ t, c.toNat < 128) :
    isValidPan (t.map Utf8.asciiByte) = true ↔ PanGrammar t := by
  constructor
  · intro hvalid
    have hlen := length_of_isValidPan hvalid
    rw [List.length_map] at hlen
    obtain ⟨a, b, c, entity, e, d₁, d₂, d₃, d₄, last, rfl⟩ := exists_ten hlen
    obtain ⟨ha, hb, hc, hentity, he, h₁, h₂, h₃, h₄, hlast⟩ := isValidPan_ten.mp hvalid
    simp only [List.forall_mem_cons] at h
    obtain ⟨hla, hlb, hlc, hlentity, hle, hl₁, hl₂, hl₃, hl₄, hllast, -⟩ := h
    rw [isAsciiUppercase_asciiByte (by assumption)] at ha hb hc he hlast
    rw [isAsciiDigit_asciiByte (by assumption)] at h₁ h₂ h₃ h₄
    rw [contains_asciiByte hlentity, decide_eq_true_eq] at hentity
    exact ⟨a, b, c, entity, e, d₁, d₂, d₃, d₄, last, rfl, ha, hb, hc, hentity, he, h₁, h₂, h₃, h₄,
      hlast⟩
  · rintro ⟨a, b, c, entity, e, d₁, d₂, d₃, d₄, last, rfl, ha, hb, hc, hentity, he, h₁, h₂, h₃, h₄,
      hlast⟩
    simp only [List.forall_mem_cons] at h
    obtain ⟨hla, hlb, hlc, hlentity, hle, hl₁, hl₂, hl₃, hl₄, hllast, -⟩ := h
    rw [← isAsciiUppercase_asciiByte (by assumption)] at ha hb hc he hlast
    rw [← isAsciiDigit_asciiByte (by assumption)] at h₁ h₂ h₃ h₄
    have hcode := contains_asciiByte hlentity
    rw [decide_eq_true hentity] at hcode
    exact isValidPan_ten.mpr ⟨ha, hb, hc, hcode, he, h₁, h₂, h₃, h₄, hlast⟩

lemma PanGrammar.ascii {t : Str} (h : PanGrammar t) : ∀ c ∈ t, c.toNat < 128 := by
  obtain ⟨a, b, c, entity, e, d₁, d₂, d₃, d₄, last, rfl, ha, hb, hc, hentity, he, h₁, h₂, h₃, h₄,
    hlast⟩ := h
  have hupper : ∀ {x : Char}, x.isUpper = true → x.toNat < 128 := by
    intro x hx
    have hbounds : x.val ≥ 'A'.val ∧ x.val ≤ 'Z'.val := of_decide_eq_true hx
    have hnat : x.toNat ≤ 90 := UInt32.le_iff_toNat_le.mp hbounds.2
    omega
  have hdigit : ∀ {x : Char}, x.isDigit = true → x.toNat < 128 := by
    intro x hx
    simp only [Char.isDigit, Bool.and_eq_true, decide_eq_true_eq] at hx
    have hnat : x.toNat ≤ 57 := UInt32.le_iff_toNat_le.mp hx.2
    omega
  have hletters : ∀ x ∈ entityLetters, x.toNat < 128 := by decide
  simp only [List.mem_cons, List.not_mem_nil, or_false]
  rintro x (rfl | rfl | rfl | rfl | rfl | rfl | rfl | rfl | rfl | rfl)
  · exact hupper ha
  · exact hupper hb
  · exact hupper hc
  · exact hletters _ hentity
  · exact hupper he
  · exact hdigit h₁
  · exact hdigit h₂
  · exact hdigit h₃
  · exact hdigit h₄
  · exact hupper hlast

/-- `is_valid_pan` on the bytes of a string is the grammar on the string. -/
lemma isValidPan_encode {t : Str} : isValidPan (Utf8.encode t) = true ↔ PanGrammar t := by
  constructor
  · intro hvalid
    have hascii := Utf8.ascii_of_encode (ascii_of_isValidPan hvalid)
    rw [Utf8.encode_of_ascii hascii] at hvalid
    exact (isValidPan_map hascii).mp hvalid
  · intro hgrammar
    rw [Utf8.encode_of_ascii hgrammar.ascii]
    exact (isValidPan_map hgrammar.ascii).mpr hgrammar

lemma isValid_iff {s : Str} :
    (checkPanDetails s).isValid = true ↔ PanGrammar (toUppercaseStr (trim s)) := by
  unfold checkPanDetails
  dsimp only
  split
  · rename_i hempty
    rw [List.isEmpty_iff.mp hempty]
    constructor
    · intro h
      cases h
    · rintro ⟨a, b, c, entity, e, d₁, d₂, d₃, d₄, last, h, -⟩
      cases h
  · exact isValidPan_encode

/-! ## The verdict -/

/-- **What `check_pan_details` accepts.**  Every character of the trimmed input folds to ASCII
letters or digits, and these together are a PAN.  In particular ASCII input is accepted exactly when
it is a PAN up to ASCII case. -/
theorem checkPanDetails_isValid_iff (s : Str) :
    ((checkPanDetails s).isValid = true ↔
      ∃ parts, List.Forall₂ Folds (trim s) parts ∧ PanGrammar parts.flatten) ∧
    ((∀ c ∈ trim s, c.toNat < 128) →
      ((checkPanDetails s).isValid = true ↔ PanGrammar ((trim s).map Char.toUpper))) := by
  refine ⟨?_, ?_⟩
  · rw [isValid_iff]
    constructor
    · intro hgrammar
      obtain ⟨parts, hparts, hflat⟩ := toUppercaseStr_eq_iff.mp ⟨rfl, hgrammar.ascii⟩
      exact ⟨parts, hparts, hflat.symm ▸ hgrammar⟩
    · rintro ⟨parts, hparts, hgrammar⟩
      rw [(toUppercaseStr_eq_iff.mpr ⟨parts, hparts, rfl⟩).1]
      exact hgrammar
  · intro hascii
    have hupper : toUppercaseStr (trim s) = (trim s).map Char.toUpper := by
      unfold toUppercaseStr
      rw [List.map_eq_flatMap]
      exact List.flatMap_congr fun c hc => toUppercase_of_ascii (hascii c hc)
    rw [isValid_iff, hupper]

/-- A PAN that is spelled with a long s is accepted. -/
theorem checkPanDetails_folds_beyond_ascii :
    ¬ ∀ s : Str, (checkPanDetails s).isValid = true ↔ PanGrammar ((trim s).map Char.toUpper) := by
  intro h
  have hvalid : (checkPanDetails ['\u017F', 'B', 'C', 'P', 'K', '1', '2', '3', '4', 'L']).isValid =
      true := by
    decide +kernel
  obtain ⟨a, b, c, entity, e, d₁, d₂, d₃, d₄, last, heq, ha, -⟩ := (h _).mp hvalid
  have hfirst : a = '\u017F' := by
    have hhead := congrArg List.head? heq
    exact (Option.some.inj hhead).symm
  rw [hfirst] at ha
  exact absurd ha (by decide)

end IncometaxPanQr
