import IdentityCrates.Dmrtd.Extension.DateString

/-!
# Two-digit years

A date in an MRZ has a year of two digits.  It stands for at most two days of the calendar, one in
the twentieth century and one in the twenty-first, and which of them is meant is decided by a last
day up to which a date may lie: the reference for a date of birth, twenty years and five months
beyond it for a date of expiry.

`parse_date_yymmdd_with_ref` decides the century first and looks the day up afterwards.
`parseDateYymmddWithRef_resolves` says that this gives the later of the two days that is not too
late, and an error exactly where there is none.  The only digits for which the calendars of the two
centuries differ are those of 29 February of the year `00`, and there the earlier day is missing, so
that nothing is lost by deciding first.
-/

namespace Dmrtd

open Rust Text

/-! ## Candidates and the window -/

/-- The two-digit year, the month and the day of six digits. -/
def dateFields (s : Str) : Nat × Nat × Nat :=
  (ofDigits (field s 0 2), ofDigits (field s 2 2), ofDigits (field s 4 2))

/-- The day is one that the six digits may stand for. -/
def Candidate (s : Str) (date : NaiveDate) : Prop :=
  (date.year = 1900 + (dateFields s).1 ∨ date.year = 2000 + (dateFields s).1) ∧
    date.month = (dateFields s).2.1 ∧ date.day = (dateFields s).2.2

/-- The months since the year zero. -/
def NaiveDate.months (date : NaiveDate) : Int := 12 * date.year + (date.month - 1)

/-- The day is not after the reference, moved on by so many months to the same day of the month. -/
def Within (months : Int) (reference date : NaiveDate) : Prop :=
  date.months < reference.months + months ∨
    date.months = reference.months + months ∧ date.day ≤ reference.day

/-- How far beyond the reference a date may lie: twenty years and five months, if it may at all. -/
def reach (futureDate : Bool) : Int := if futureDate then 20 * 12 + 5 else 0

/-- The comparison of the code is the comparison with the window. -/
lemma isAfter_threshold_iff (futureDate : Bool) (reference date : NaiveDate) :
    isAfter date.year date.month date.day (threshold futureDate reference) = false ↔
      Within (reach futureDate) reference date := by
  have hmonth := date.month_mem
  have hreference := reference.month_mem
  unfold isAfter threshold Within reach NaiveDate.months
  cases futureDate
  all_goals
    simp only [if_true, if_false, Bool.false_eq_true, Bool.or_eq_false_iff, Bool.and_eq_false_iff,
      decide_eq_false_iff_not, beq_eq_false_iff_ne]
    omega

/-! ## The resolution -/

/-- A day of the twentieth century lies in every window of a reference in the twenty-first. -/
lemma within_of_year_lt {futureDate : Bool} {reference date : NaiveDate}
    (hreference : 2000 ≤ reference.year) (hdate : date.year < 2000) :
    Within (reach futureDate) reference date := by
  have hmonth := date.month_mem
  have hmonth' := reference.month_mem
  left
  unfold NaiveDate.months reach
  split <;> omega

/-- What the code reads off six digits. -/
lemma parseDateYymmddWithRef_of_digits {s : Str} (hlen : s.length = 6)
    (hdigits : ∀ c ∈ s, c.isDigit = true) {futureDate : Bool} {reference date : NaiveDate} :
    parseDateYymmddWithRef s futureDate reference = .ok date ↔
      date.year = fullYear (dateFields s).1 (dateFields s).2.1 (dateFields s).2.2 futureDate
        reference ∧ date.month = (dateFields s).2.1 ∧ date.day = (dateFields s).2.2 := by
  have hfilter : s.filter Char.isDigit = s := List.filter_eq_self.mpr hdigits
  rw [parseDateYymmddWithRef_eq_ok, hfilter, NaiveDate.fromYmdOpt_eq_some]
  exact and_iff_right hlen

lemma parseDateYymmddWithRef_ne_panic (s : Str) (futureDate : Bool) (reference : NaiveDate) :
    parseDateYymmddWithRef s futureDate reference ≠ .panic := by
  unfold parseDateYymmddWithRef
  dsimp only
  split
  · simp
  · split <;> simp

lemma dateFields_lt {s : Str} (hlen : s.length = 6) (hdigits : ∀ c ∈ s, c.isDigit = true) :
    (dateFields s).1 < 100 := by
  obtain ⟨a₁, a₂, b₁, b₂, c₁, c₂, ⟨ha₁, ha₂⟩, -, -, rfl⟩ := exists_three_pairs hlen hdigits
  have hyear : (dateFields [a₁.digitChar, a₂.digitChar, b₁.digitChar, b₂.digitChar, c₁.digitChar,
      c₂.digitChar]).1 = a₁ * 10 + a₂ := ofDigits_pair ha₁ ha₂
  rw [hyear]
  omega

/-- The same digits in the later century, where they are a day of the calendar if they are one in the
earlier. -/
lemma exists_candidate {s : Str} {date : NaiveDate} (hyy : (dateFields s).1 < 100)
    (h : Candidate s date) :
    ∃ later, Candidate s later ∧ later.year = 2000 + (dateFields s).1 ∧ later.month = date.month ∧
      later.day = date.day := by
  obtain ⟨hyear, hmonth, hday⟩ := h
  have hreal : date.day ≤ daysInMonth (2000 + (dateFields s).1) date.month := by
    rcases hyear with hyear | hyear
    · have hday' := date.day_mem.2
      rw [hyear] at hday'
      exact hday'.trans (daysInMonth_le hyy _)
    · rw [← hyear]
      exact date.day_mem.2
  exact ⟨⟨2000 + (dateFields s).1, date.month, date.day, date.month_mem, date.day_mem.1, hreal⟩,
    ⟨Or.inr rfl, hmonth, hday⟩, rfl, rfl, rfl⟩

/-- The day that the code reads is the later of the candidates in the window. -/
lemma parseDateYymmddWithRef_eq_latest {s : Str} (hlen : s.length = 6)
    (hdigits : ∀ c ∈ s, c.isDigit = true) (futureDate : Bool) {reference : NaiveDate}
    (hreference : 2000 ≤ reference.year) (date : NaiveDate) :
    parseDateYymmddWithRef s futureDate reference = .ok date ↔
      Candidate s date ∧ Within (reach futureDate) reference date ∧
        ∀ other, Candidate s other → Within (reach futureDate) reference other →
          other.year ≤ date.year := by
  have hyy := dateFields_lt hlen hdigits
  -- whether the day of the later century is in the window
  have hlater (later : NaiveDate) (h : Candidate s later)
      (hyear : later.year = 2000 + (dateFields s).1) :
      isAfter (((dateFields s).1 : Int) + 2000) (dateFields s).2.1 (dateFields s).2.2
        (threshold futureDate reference) = false ↔ Within (reach futureDate) reference later := by
    rw [← isAfter_threshold_iff, hyear, h.2.1, h.2.2, add_comm (2000 : Int)]
  rw [parseDateYymmddWithRef_of_digits hlen hdigits, fullYear]
  cases hafter : isAfter (((dateFields s).1 : Int) + 2000) (dateFields s).2.1 (dateFields s).2.2
    (threshold futureDate reference) with
  | false =>
    rw [if_neg (by simp)]
    constructor
    · rintro ⟨hyear, hfields⟩
      have hcandidate : Candidate s date := ⟨Or.inr (by omega), hfields⟩
      refine ⟨hcandidate, (hlater date hcandidate (by omega)).mp hafter, fun other hother _ => ?_⟩
      rcases hother.1 with hother | hother <;> omega
    · rintro ⟨hcandidate, -, hlatest⟩
      obtain ⟨later, hcandidate', hyear, -, -⟩ := exists_candidate hyy hcandidate
      have hle := hlatest later hcandidate' ((hlater later hcandidate' hyear).mp hafter)
      refine ⟨?_, hcandidate.2⟩
      rcases hcandidate.1 with h | h <;> omega
  | true =>
    rw [if_pos rfl]
    have hearlier (other : NaiveDate) (h : Candidate s other)
        (hwithin : Within (reach futureDate) reference other) :
        other.year = 1900 + (dateFields s).1 := by
      refine h.1.resolve_right fun hyear => ?_
      rw [(hlater other h hyear).mpr hwithin] at hafter
      simp at hafter
    constructor
    · rintro ⟨hyear, hfields⟩
      refine ⟨⟨Or.inl (by omega), hfields⟩, within_of_year_lt hreference (by omega), ?_⟩
      intro other hother hwithin
      have hyear' := hearlier other hother hwithin
      omega
    · rintro ⟨hcandidate, hwithin, -⟩
      have hyear := hearlier date hcandidate hwithin
      exact ⟨by omega, hcandidate.2⟩

/-- If a candidate lies in the window, the latest such candidate exists. -/
lemma exists_latest {s : Str} {months : Int} {reference date : NaiveDate} (h : Candidate s date)
    (hwithin : Within months reference date) :
    ∃ latest, Candidate s latest ∧ Within months reference latest ∧
      ∀ other, Candidate s other → Within months reference other → other.year ≤ latest.year := by
  by_cases hlater : ∃ later, Candidate s later ∧ Within months reference later ∧
      later.year = 2000 + (dateFields s).1
  · obtain ⟨later, hcandidate, hwithin', hyear⟩ := hlater
    refine ⟨later, hcandidate, hwithin', fun other hother _ => ?_⟩
    rcases hother.1 with hother | hother <;> omega
  · refine ⟨date, h, hwithin, fun other hother hwithin' => ?_⟩
    have hother' := hother.1.resolve_right fun hyear => hlater ⟨other, hother, hwithin', hyear⟩
    rcases h.1 with hdate | hdate <;> omega

/-- Six digits are resolved to the later of the days they may stand for that is not beyond the
window, which is written with the same digits again, and to an error exactly where there is no such
day. -/
theorem parseDateYymmddWithRef_resolves {s : Str} (hlen : s.length = 6)
    (hdigits : ∀ c ∈ s, c.isDigit = true) (futureDate : Bool) {reference : NaiveDate}
    (hreference : 2000 ≤ reference.year) :
    (∀ date, parseDateYymmddWithRef s futureDate reference = .ok date ↔
      Candidate s date ∧ Within (reach futureDate) reference date ∧
        ∀ other, Candidate s other → Within (reach futureDate) reference other →
          other.year ≤ date.year) ∧
    (∀ date, parseDateYymmddWithRef s futureDate reference = .ok date → date.formatYymmdd = s) ∧
    ((∃ e, parseDateYymmddWithRef s futureDate reference = .err e) ↔
      ∀ date, Candidate s date → ¬ Within (reach futureDate) reference date) := by
  have hlatest := parseDateYymmddWithRef_eq_latest hlen hdigits futureDate hreference
  refine ⟨hlatest, fun date h => ?_, ?_, fun hnone => ?_⟩
  · rw [formatYymmdd_of_parse h, List.filter_eq_self.mpr hdigits]
  · rintro ⟨e, he⟩ date hcandidate hwithin
    obtain ⟨latest, h⟩ := exists_latest hcandidate hwithin
    rw [(hlatest latest).mpr h] at he
    simp at he
  · cases hparse : parseDateYymmddWithRef s futureDate reference with
    | ok date =>
      obtain ⟨hcandidate, hwithin, -⟩ := (hlatest date).mp hparse
      exact absurd hwithin (hnone date hcandidate)
    | err e => exact ⟨e, rfl⟩
    | panic => exact absurd hparse (parseDateYymmddWithRef_ne_panic s futureDate reference)

/-- The leap day of the year 2000. -/
theorem parseDateYymmddWithRef_resolves_leap_day :
    (⟨2000, 2, 29, by decide, by decide⟩ : NaiveDate).formatYymmdd = "000229".toList ∧
    Within (reach false) ⟨2024, 5, 6, by decide, by decide⟩ ⟨2000, 2, 29, by decide, by decide⟩ := by
  have hread : parseDateYymmddWithRef "000229".toList false ⟨2024, 5, 6, by decide, by decide⟩ =
      .ok ⟨2000, 2, 29, by decide, by decide⟩ := by decide
  obtain ⟨hlatest, hformat, -⟩ := parseDateYymmddWithRef_resolves (s := "000229".toList) (by decide)
    (by decide) false (show 2000 ≤ (⟨2024, 5, 6, by decide, by decide⟩ : NaiveDate).year by decide)
  exact ⟨hformat _ hread, ((hlatest _).mp hread).2.1⟩

end Dmrtd
