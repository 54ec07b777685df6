import Mathlib.Tactic.Linarith

/- Dates of the Gregorian calendar and the days from 1 January of the year 0 to them. -/
namespace LaluneServer.Calendar

def isLeapYear (year : Nat) : Bool := year % 4 = 0 ∧ (year % 100 ≠ 0 ∨ year % 400 = 0)

def lastDay (leap : Bool) (month : Nat) : Nat :=
  if month = 2 then 28 + leap.toNat
  else if month = 4 ∨ month = 6 ∨ month = 9 ∨ month = 11 then 30
  else 31

structure Date where
  year : Nat
  month : Nat
  day : Nat
  year_range : 1000 ≤ year ∧ year ≤ 9999
  month_range : 1 ≤ month ∧ month ≤ 12
  day_range : 1 ≤ day ∧ day ≤ lastDay (isLeapYear year) month
  deriving DecidableEq, Repr

def newYear : Nat → Nat
  | 0 => 0
  | year + 1 => newYear year + 365 + (isLeapYear year).toNat

def daysBefore (leap : Bool) : Nat → Nat
  | 0 => 0
  | 1 => 0
  | month + 2 => daysBefore leap (month + 1) + lastDay leap (month + 1)

def Date.dayOfYear (d : Date) : Nat := daysBefore (isLeapYear d.year) d.month + (d.day - 1)

def Date.dayNumber (d : Date) : Nat := newYear d.year + d.dayOfYear

theorem newYear_mono {y z : Nat} (le : y ≤ z) : newYear y ≤ newYear z := by
  induction z, le using Nat.le_induction with
  | base => exact Nat.le_refl _
  | succ z _ ih =>
    have longer : newYear z ≤ newYear (z + 1) := by
      rw [newYear, Nat.add_assoc]
      exact Nat.le_add_right _ _
    exact ih.trans longer

theorem daysBefore_le (leap : Bool) {m n : Nat} (le : m ≤ n) :
    daysBefore leap m ≤ daysBefore leap n := by
  induction n, le using Nat.le_induction with
  | base => exact Nat.le_refl _
  | succ n _ ih =>
    cases n with
    | zero => exact ih
    | succ n =>
      have longer : daysBefore leap (n + 1) ≤ daysBefore leap (n + 2) := Nat.le_add_right _ _
      exact ih.trans longer

theorem daysBefore_succ (leap : Bool) {month : Nat} (from_one : 1 ≤ month) :
    daysBefore leap (month + 1) = daysBefore leap month + lastDay leap month := by
  cases month with
  | zero => contradiction
  | succ month => rfl

theorem dayOfYear_lt_next_month (d : Date) :
    d.dayOfYear < daysBefore (isLeapYear d.year) (d.month + 1) := by
  have day := d.day_range
  rw [daysBefore_succ _ d.month_range.1]
  unfold Date.dayOfYear
  omega

theorem dayOfYear_lt (d : Date) : d.dayOfYear < 365 + (isLeapYear d.year).toNat := by
  have whole : ∀ leap : Bool, daysBefore leap 13 = 365 + leap.toNat := by
    decide
  have inside := d.month_range.2
  have month := daysBefore_le (isLeapYear d.year) (show d.month + 1 ≤ 13 by omega)
  rw [whole] at month
  exact (dayOfYear_lt_next_month d).trans_le month

theorem dayNumber_lt_of_year_lt {d e : Date} (lt : d.year < e.year) :
    d.dayNumber < e.dayNumber := by
  have place := dayOfYear_lt d
  have later : newYear (d.year + 1) ≤ newYear e.year := newYear_mono lt
  rw [newYear] at later
  unfold Date.dayNumber
  omega

theorem dayNumber_lt_of_month_lt {d e : Date} (year : d.year = e.year) (lt : d.month < e.month) :
    d.dayNumber < e.dayNumber := by
  have place := dayOfYear_lt_next_month d
  have later := daysBefore_le (isLeapYear d.year) (show d.month + 1 ≤ e.month from lt)
  unfold Date.dayNumber
  rw [year] at place later ⊢
  have own : daysBefore (isLeapYear e.year) e.month ≤ e.dayOfYear := Nat.le_add_right _ _
  omega

theorem dayNumber_lt_of_day_lt {d e : Date} (year : d.year = e.year) (month : d.month = e.month)
    (lt : d.day < e.day) : d.dayNumber < e.dayNumber := by
  have positive := d.day_range.1
  unfold Date.dayNumber Date.dayOfYear
  rw [year, month]
  omega

theorem dayNumber_lt_iff (d e : Date) : d.dayNumber < e.dayNumber ↔
    [d.year, d.month, d.day] < [e.year, e.month, e.day] := by
  simp only [List.cons_lt_cons_iff, List.not_lt_nil, and_false, or_false]
  rcases Nat.lt_trichotomy d.year e.year with lt | year | gt
  · exact iff_of_true (dayNumber_lt_of_year_lt lt) (Or.inl lt)
  · rcases Nat.lt_trichotomy d.month e.month with lt | month | gt
    · exact iff_of_true (dayNumber_lt_of_month_lt year lt) (Or.inr ⟨year, Or.inl lt⟩)
    · rcases Nat.lt_trichotomy d.day e.day with lt | day | gt
      · exact iff_of_true (dayNumber_lt_of_day_lt year month lt)
          (Or.inr ⟨year, Or.inr ⟨month, lt⟩⟩)
      · have same : d.dayNumber = e.dayNumber := by
          unfold Date.dayNumber Date.dayOfYear
          rw [year, month, day]
        exact iff_of_false (by omega) (by omega)
      · have back := dayNumber_lt_of_day_lt year.symm month.symm gt
        exact iff_of_false (by omega) (by omega)
    · have back := dayNumber_lt_of_month_lt year.symm gt
      exact iff_of_false (by omega) (by omega)
  · have back := dayNumber_lt_of_year_lt gt
    exact iff_of_false (by omega) (by omega)

theorem dayNumber_inj {d e : Date} (same : d.dayNumber = e.dayNumber) :
    d.year = e.year ∧ d.month = e.month ∧ d.day = e.day := by
  have forth := (dayNumber_lt_iff d e).not.mp (by omega)
  have back := (dayNumber_lt_iff e d).not.mp (by omega)
  simp only [List.cons_lt_cons_iff, List.not_lt_nil, and_false, or_false] at forth back
  omega

end LaluneServer.Calendar
