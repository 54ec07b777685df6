import LaluneServer.Lib.Calendar
import LaluneServer.Lib.DecimalText

/- The texts of time_utility. A ptime is its calendar fields; get_u64 counts the
   microseconds from a fixed midnight, which the library sets to another day. -/
namespace LaluneServer
open Calendar DecimalText

structure PTime where
  date : Date
  hours : Nat
  minutes : Nat
  seconds : Nat
  microseconds : Nat
  time_range : hours < 24 ∧ minutes < 60 ∧ seconds < 60 ∧ microseconds < 1000000
  deriving DecidableEq, Repr

namespace PTime

def second (t : PTime) : Nat :=
  ((t.date.dayNumber * 24 + t.hours) * 60 + t.minutes) * 60 + t.seconds

def getU64 (t : PTime) : Nat := t.second * 1000000 + t.microseconds

instance : LT PTime := ⟨fun t u => t.getU64 < u.getU64⟩

instance (t u : PTime) : Decidable (t < u) := inferInstanceAs (Decidable (_ < _))

def fields (t : PTime) : List Nat :=
  [t.date.year, t.date.month, t.date.day, t.hours, t.minutes, t.seconds]

end PTime

def toTheSecond : List (Nat × Text) :=
  [(4, ['-']), (2, ['-']), (2, [' ']), (2, []), (2, []), (2, ['_'])]

def toTheSecondFull : List (Nat × Text) :=
  [(4, ['-']), (2, ['-']), (2, [' ']), (2, [':']), (2, [':']), (2, ['.'])]

def ptimeToString4 (t : PTime) : Text := row toTheSecond t.fields ++ decimal (t.getU64 % 1000000)

def ptimeToStringFull (t : PTime) : Text :=
  row toTheSecondFull t.fields ++ zeroPadded 6 (t.getU64 % 1000000)

section
variable (t u : PTime)

theorem getU64_mod : t.getU64 % 1000000 = t.microseconds := by
  have small := t.time_range.2.2.2
  unfold PTime.getU64
  omega

theorem fields_lt_iff : t.fields < u.fields ↔ t.second < u.second := by
  have days := dayNumber_lt_iff t.date u.date
  have back := dayNumber_lt_iff u.date t.date
  have timeT := t.time_range
  have timeU := u.time_range
  simp only [PTime.fields, List.cons_lt_cons_iff, List.not_lt_nil, and_false, or_false]
    at days back ⊢
  unfold PTime.second
  omega

theorem fields_inj : t.fields = u.fields ↔ t.second = u.second := by
  constructor
  · intro same
    have forth := (fields_lt_iff t u).not.mp (same ▸ List.lt_irrefl _)
    have back := (fields_lt_iff u t).not.mp (same ▸ List.lt_irrefl _)
    omega
  · intro same
    have timeT := t.time_range
    have timeU := u.time_range
    have day : t.date.dayNumber = u.date.dayNumber := by
      unfold PTime.second at same
      omega
    obtain ⟨year, month, monthDay⟩ := dayNumber_inj day
    unfold PTime.second at same
    unfold PTime.fields
    rw [year, month, monthDay, show t.hours = u.hours by omega,
      show t.minutes = u.minutes by omega, show t.seconds = u.seconds by omega]

theorem fits_toTheSecond : Fits toTheSecond t.fields ∧ Fits toTheSecondFull t.fields := by
  have year := t.date.year_range
  have month := t.date.month_range
  have day := t.date.day_range
  have short : ∀ leap : Bool, ∀ month, month ≤ 12 → lastDay leap month ≤ 31 := by
    decide
  have last := short (isLeapYear t.date.year) _ month.2
  have time := t.time_range
  have fits : t.date.year < 10000 ∧ t.date.month < 100 ∧ t.date.day < 100 ∧
      t.hours < 100 ∧ t.minutes < 100 ∧ t.seconds < 100 := by
    omega
  simp [toTheSecond, toTheSecondFull, PTime.fields, Fits, fits]

theorem ptimeToStringFull_lt_iff : ptimeToStringFull t < ptimeToStringFull u ↔ t < u := by
  have smallT := t.time_range.2.2.2
  have smallU := u.time_range.2.2.2
  unfold ptimeToStringFull
  rw [row_lt_iff _ (fits_toTheSecond t).2 (fits_toTheSecond u).2, getU64_mod, getU64_mod,
    zeroPadded_eq_lastDigits (by decide) smallT, zeroPadded_eq_lastDigits (by decide) smallU,
    lastDigits_lt_iff smallT smallU, fields_lt_iff, fields_inj]
  show _ ↔ t.getU64 < u.getU64
  unfold PTime.getU64
  omega

/-- The times lie in different seconds, or the microseconds of the first do not pass those
    of the second when zeros fill them up to as many digits. -/
def StampsSort : Prop :=
  t.second ≠ u.second ∨
    t.microseconds * 10 ^ ((decimal u.microseconds).length - (decimal t.microseconds).length) ≤
      u.microseconds

instance : Decidable (StampsSort t u) := inferInstanceAs (Decidable (_ ∨ _))

variable {t u}

theorem ptimeToString4_append_lt_iff (before : t < u) {stop : Text} (stops : Stops stop) :
    ptimeToString4 t ++ stop < ptimeToString4 u ++ stop ↔ StampsSort t u := by
  have count : t.second * 1000000 + t.microseconds < u.second * 1000000 + u.microseconds := before
  have smallT := t.time_range.2.2.2
  have smallU := u.time_range.2.2.2
  unfold ptimeToString4 StampsSort
  rw [List.append_assoc, List.append_assoc,
    row_lt_iff _ (fits_toTheSecond t).1 (fits_toTheSecond u).1, getU64_mod, getU64_mod,
    fields_lt_iff, fields_inj]
  by_cases same : t.second = u.second
  · have digits := decimal_append_lt_iff (show t.microseconds < u.microseconds by omega) stops
    rw [digits]
    simp [same]
  · have earlier : t.second < u.second := by omega
    exact iff_of_true (Or.inl earlier) (Or.inl same)

end

end LaluneServer
