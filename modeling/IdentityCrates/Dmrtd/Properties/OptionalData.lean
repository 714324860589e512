import IdentityCrates.Dmrtd.Properties.BacKey

/-!
# Optional data behind a long document number

A document number of more than nine characters takes the beginning of the optional data: the rest of
the number, its check digit and a filler to end them.  What stands behind the filler are optional
data like any others.  The comment on `parse_extended_document_number` says so too: the format TD2
"just clears the consumed portion", and TD1, which has two fields of optional data, moves the second
into the place of the first.

The code clears the whole field.  `optionalData_preserved_iff` says what this comes to: the optional
data that are reported of a zone with a long number are the ones that remain exactly when none
remain behind the number.
-/

namespace Dmrtd

open Rust Text Octets Icao

/-! ## What remains -/

section Remaining

variable (version : MrzVersion) (zone : Bytes)

/-- The part of the first field of optional data behind the rest of the number, its check digit and
the filler after it, without the fillers at its end. -/
def remaining : Str :=
  trimEndMatches '<' (chars
    ((printed zone version.layout.optionalData version.layout.optionalLength).drop
      ((continuation version zone).length + 1)))

/-- The second field of optional data, without the fillers at its end; only TD1 has one. -/
def secondField : Str := (version.optionalData2 (chars zone)).getD []

end Remaining

/-- The optional data that are reported, of both fields. -/
def Mrz.reported (mrz : Mrz) : Str := mrz.optData ++ mrz.optData2.getD []

/-! ## What is reported -/

section Reported

variable {docNum number optData optData' : Str} {optData2 optData2' : Option Str}

/-- Where a continuation is read, the first field gives way to the second. -/
lemma parseExtendedDocumentNumber_moves
    (h : parseExtendedDocumentNumber docNum ['<'] optData optData2 =
      .ok (number, optData', optData2')) :
    optData' = optData2.getD [] ∧ optData2' = none := by
  unfold parseExtendedDocumentNumber at h
  by_cases hlen : byteLen optData > 2
  · rw [if_pos ⟨rfl, hlen⟩] at h
    dsimp only at h
    split at h
    · cases h
    · obtain ⟨cd, -, h⟩ := Outcome.bind_eq_ok.mp h
      obtain ⟨_, -, h⟩ := Outcome.bind_eq_ok.mp h
      cases h
      exact ⟨rfl, rfl⟩
  · rw [if_neg fun hboth => hlen hboth.2] at h
    have hnone : parseUnsigned (2 ^ 32 - 1) ['<'] = none := by decide
    rw [hnone] at h
    cases h

end Reported

section Zone

variable {reference : NaiveDate} {zone : Bytes} {mrz : Mrz}

/-- Of a zone with a long number the second field is reported in the place of the first. -/
lemma optionalData_of_continued (h : Mrz.fromBytes reference zone = .ok mrz)
    (hlong : Continued mrz.version zone) :
    mrz.optData = secondField mrz.version zone ∧ mrz.optData2 = none := by
  have hparse := (Mrz.readFrom_of_fromBytes h).number hlong.1
  rw [(printed_eq_filler _ _).mp hlong.2] at hparse
  exact parseExtendedDocumentNumber_moves hparse

/-- **Optional data behind a long number, exactly when they are kept.**  Of an accepted zone with a
long document number the reported optional data are what remains behind the number, its check digit
and the filler, followed by the second field, if and only if nothing remains behind the number.  What
is reported in any case is the second field alone. -/
theorem optionalData_preserved_iff (reference : NaiveDate) (zone : Bytes) (mrz : Mrz)
    (hok : Mrz.fromBytes reference zone = .ok mrz) (hlong : Continued mrz.version zone) :
    mrz.reported = secondField mrz.version zone ∧
      (mrz.reported = remaining mrz.version zone ++ secondField mrz.version zone ↔
        remaining mrz.version zone = []) := by
  obtain ⟨hfirst, hnone⟩ := optionalData_of_continued hok hlong
  have hreported : mrz.reported = secondField mrz.version zone := by
    rw [Mrz.reported, hfirst, hnone, Option.getD_none, List.append_nil]
  refine ⟨hreported, ?_⟩
  rw [hreported]
  exact List.self_eq_append_left

end Zone

/-! ### Two zones -/

/-- A zone of format TD2 with nothing behind the number. -/
def peter : Bytes := Mrz.asBytes
  "I<UTOSTEVENSON<<PETER<JOHN<<<<<<<<<<D23145890<UTO3407127M95071227349<<<8"

theorem optionalData_preserved_peter : ∃ mrz, Mrz.fromBytes Mrz.juneFirst peter = .ok mrz ∧
    mrz.reported = remaining .td2 peter ++ secondField .td2 peter := by
  have hread : (fun mrz : Mrz => mrz.version) <$> Mrz.fromBytes Mrz.juneFirst peter =
      .ok .td2 := by decide +kernel
  obtain ⟨mrz, hok, hversion⟩ := Outcome.map_eq_ok.mp hread
  have hpreserved := optionalData_preserved_iff Mrz.juneFirst peter mrz hok
    (by rw [hversion]; decide +kernel)
  rw [hversion] at hpreserved
  exact ⟨mrz, hok, hpreserved.2.mpr (by decide +kernel)⟩

/-- The same zone with the letter `A` behind the number and the filler. -/
def peterA : Bytes := Mrz.asBytes
  "I<UTOSTEVENSON<<PETER<JOHN<<<<<<<<<<D23145890<UTO3407127M95071227349<A<8"

/-- The letter is not reported. -/
theorem optionalData_lost : ∃ mrz, Mrz.fromBytes Mrz.juneFirst peterA = .ok mrz ∧
    mrz.version = .td2 ∧ mrz.docNum = "D23145890734".toList ∧
    Continued mrz.version peterA ∧ remaining mrz.version peterA = ['A'] ∧ mrz.optData = [] ∧
    mrz.reported ≠ remaining mrz.version peterA ++ secondField mrz.version peterA := by
  have hread : (fun mrz : Mrz => (mrz.version, mrz.docNum, mrz.optData, mrz.optData2)) <$>
      Mrz.fromBytes Mrz.juneFirst peterA = .ok (.td2, "D23145890734".toList, [], none) := by
    decide +kernel
  obtain ⟨mrz, hok, hfields⟩ := Outcome.map_eq_ok.mp hread
  obtain ⟨hversion, hnumber, hfirst, hsecond⟩ :
      mrz.version = .td2 ∧ mrz.docNum = _ ∧ mrz.optData = [] ∧ mrz.optData2 = none := by
    simpa only [Prod.mk.injEq] using hfields
  refine ⟨mrz, hok, hversion, hnumber, ?_, ?_, hfirst, ?_⟩
  · rw [hversion]
    decide +kernel
  · rw [hversion]
    decide +kernel
  · rw [Mrz.reported, hfirst, hsecond, hversion]
    decide +kernel

end Dmrtd
