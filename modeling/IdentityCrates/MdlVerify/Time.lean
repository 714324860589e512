import Mathlib.Tactic.Linarith
import Mathlib.Order.Lattice

/-!
# Two clocks

The verifier is given its time as a `chrono::DateTime<Utc>` and hands a `time::OffsetDateTime` to
the checks of certificate chains.  Both name an instant by nanoseconds since the Unix epoch
(`unixNanos`), and each has its own range.

A `DateTime` can lie inside a leap second: its nanoseconds then run on beyond the second, and its
order, which compares seconds first, puts it before the second that follows.  Everywhere else the
order is the order of instants (`DateTime.le_iff`).
-/

namespace MdlVerify

/-- `chrono::DateTime<Utc>`: seconds since the epoch, and nanoseconds since the beginning of the
second, of which there are two thousand million in a leap second. -/
structure DateTime where
  timestamp : Int
  timestampSubsecNanos : Nat
  subsec_lt : timestampSubsecNanos < 2000000000
  deriving DecidableEq

/-- `time::OffsetDateTime`: an instant, in whole seconds and nanoseconds, and the offset under which
it is shown. -/
structure OffsetDateTime where
  unixTimestamp : Int
  nanosecond : Nat
  offset : Int
  nanosecond_lt : nanosecond < 1000000000
  deriving DecidableEq

namespace DateTime

/-- Nanoseconds since the epoch. -/
def unixNanos (t : DateTime) : Int := t.timestamp * 1000000000 + t.timestampSubsecNanos

/-- The instant lies inside a leap second. -/
def IsLeap (t : DateTime) : Prop := 1000000000 ≤ t.timestampSubsecNanos

/-- The order of `DateTime`: by seconds, then by nanoseconds. -/
instance : LE DateTime where
  le a b := a.timestamp < b.timestamp
    ∨ (a.timestamp = b.timestamp ∧ a.timestampSubsecNanos ≤ b.timestampSubsecNanos)

instance (a b : DateTime) : Decidable (a ≤ b) :=
  inferInstanceAs (Decidable (_ ∨ _))

lemma le_def {a b : DateTime} : a ≤ b ↔ a.timestamp < b.timestamp
    ∨ (a.timestamp = b.timestamp ∧ a.timestampSubsecNanos ≤ b.timestampSubsecNanos) := Iff.rfl

/-- Outside leap seconds the order is the order of instants. -/
lemma le_iff {a b : DateTime} (ha : ¬ a.IsLeap) (hb : ¬ b.IsLeap) :
    a ≤ b ↔ a.unixNanos ≤ b.unixNanos := by
  unfold IsLeap at ha hb
  rw [le_def]
  unfold unixNanos
  constructor
  · rintro (h | ⟨h, hnanos⟩)
    · omega
    · omega
  · intro h
    by_cases hseconds : a.timestamp < b.timestamp
    · exact Or.inl hseconds
    · refine Or.inr ⟨by omega, by omega⟩

/-- `DateTime::MIN_UTC` and `DateTime::MAX_UTC`, in whole seconds. -/
def minTimestamp : Int := -8334601228800

/-- The last second of the range. -/
def maxTimestamp : Int := 8210266876799

/-- `DateTime::from_timestamp`. -/
def fromTimestamp (secs : Int) (nsecs : Nat) : Option DateTime :=
  if minTimestamp ≤ secs ∧ secs ≤ maxTimestamp then
    if h : nsecs < 2000000000 then
      if 1000000000 ≤ nsecs ∧ secs % 60 ≠ 59 then none else some ⟨secs, nsecs, h⟩
    else none
  else none

lemma fromTimestamp_eq_some {secs : Int} {nsecs : Nat} {t : DateTime}
    (h : fromTimestamp secs nsecs = some t) :
    t.timestamp = secs ∧ t.timestampSubsecNanos = nsecs := by
  unfold fromTimestamp at h
  split at h
  · split at h
    · split at h
      · cases h
      · cases h
        exact ⟨rfl, rfl⟩
    · cases h
  · cases h

end DateTime

namespace OffsetDateTime

/-- Nanoseconds since the epoch. -/
def unixNanos (t : OffsetDateTime) : Int := t.unixTimestamp * 1000000000 + t.nanosecond

/-- The first and the last second that `OffsetDateTime` can name. -/
def minTimestamp : Int := -377705116800

/-- The last second of the range. -/
def maxTimestamp : Int := 253402300799

lemma emod_toNat_lt (nanos : Int) : (nanos % 1000000000).toNat < 1000000000 := by omega

/-- `OffsetDateTime::from_unix_timestamp_nanos`, with the text of its error. -/
def fromUnixTimestampNanos (nanos : Int) : Except String OffsetDateTime :=
  if minTimestamp ≤ nanos / 1000000000 ∧ nanos / 1000000000 ≤ maxTimestamp then
    .ok ⟨nanos / 1000000000, (nanos % 1000000000).toNat, 0, emod_toNat_lt nanos⟩
  else .error s!"timestamp must be in the range {minTimestamp}..={maxTimestamp}"

lemma fromUnixTimestampNanos_eq_ok {nanos : Int} {t : OffsetDateTime}
    (h : fromUnixTimestampNanos nanos = .ok t) : t.unixNanos = nanos := by
  unfold fromUnixTimestampNanos at h
  split at h
  · cases h
    show nanos / 1000000000 * 1000000000 + ((nanos % 1000000000).toNat : Int) = nanos
    omega
  · cases h

end OffsetDateTime

end MdlVerify
