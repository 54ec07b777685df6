import Mathlib.Tactic.Linarith

/- Counters that run through 1, ..., period and start again at 1, so that the
   residue zero of period + 1 is skipped. A stream position counts the packets;
   its slot also counts the zeros that were skipped before it. -/
namespace LaluneServer.SkipZero

def number (period position : Nat) : Nat :=
  if position = 0 then 0 else (position - 1) % period + 1

def slot (period position : Nat) : Nat := position + (position - 1) / period

variable {period a b : Nat}

theorem number_of_pos (pos : 0 < a) : number period a = (a - 1) % period + 1 := by
  simp [number, Nat.ne_of_gt pos]

theorem number_le_period (some_value : 0 < period) : number period a ≤ period := by
  unfold number
  split
  · omega
  · have := Nat.mod_lt (a - 1) some_value
    omega

/-- The slot of a position is congruent to its number modulo period + 1. -/
theorem slot_mod (some_value : 0 < period) :
    slot period a % (period + 1) = number period a := by
  rcases Nat.eq_zero_or_pos a with rfl | pos
  · simp [slot, number]
  rw [number_of_pos pos]
  have split := Nat.div_add_mod (a - 1) period
  have small := Nat.mod_lt (a - 1) some_value
  have shape : slot period a = (period + 1) * ((a - 1) / period) + ((a - 1) % period + 1) := by
    unfold slot
    rw [Nat.succ_mul]
    omega
  rw [shape, Nat.mul_add_mod, Nat.mod_eq_of_lt (by omega)]

section
variable (period)

theorem slot_sub_le_slot (le : a ≤ b) : slot period a + (b - a) ≤ slot period b := by
  have := Nat.div_le_div_right (c := period) (show a - 1 ≤ b - 1 by omega)
  unfold slot
  omega

theorem slot_lt_slot (lt : a < b) : slot period a < slot period b := by
  have := slot_sub_le_slot period (Nat.le_of_lt lt)
  omega

theorem slot_injective (same : slot period a = slot period b) : a = b := by
  rcases Nat.lt_trichotomy a b with lt | eq | gt
  · have := slot_lt_slot period lt
    omega
  · exact eq
  · have := slot_lt_slot period gt
    omega

end

theorem slot_le_succ (some_value : 0 < period) (le : a ≤ b) (near : b ≤ a + period) :
    slot period b ≤ slot period a + (b - a) + 1 := by
  have bound : (b - 1) / period ≤ (a - 1 + period) / period :=
    Nat.div_le_div_right (by omega)
  rw [Nat.add_div_right _ some_value] at bound
  unfold slot
  omega

/-- Two positions less than a period apart whose numbers stand in stream order
    have no skipped zero between them. -/
theorem same_cycle (some_value : 0 < period) (pos : 0 < a) (le : a ≤ b)
    (near : b < a + period) (ordered : number period a ≤ number period b) :
    (b - 1) / period = (a - 1) / period := by
  rw [number_of_pos pos, number_of_pos (by omega)] at ordered
  have splitA := Nat.div_add_mod (a - 1) period
  have splitB := Nat.div_add_mod (b - 1) period
  have lower : (a - 1) / period ≤ (b - 1) / period := Nat.div_le_div_right (by omega)
  have upper : (b - 1) / period ≤ (a - 1 + period) / period :=
    Nat.div_le_div_right (by omega)
  rw [Nat.add_div_right _ some_value] at upper
  rcases Nat.lt_or_eq_of_le lower with wrapped | same
  · have cycle : (b - 1) / period = (a - 1) / period + 1 := by omega
    rw [cycle, Nat.mul_succ] at splitB
    omega
  · exact same.symm

theorem slot_sub_of_ordered (some_value : 0 < period) (pos : 0 < a) (le : a ≤ b)
    (near : b < a + period) (ordered : number period a ≤ number period b) :
    slot period b = slot period a + (b - a) := by
  have := same_cycle some_value pos le near ordered
  unfold slot
  omega

theorem number_injective_near (some_value : 0 < period) (posA : 0 < a) (posB : 0 < b)
    (nearA : a < b + period) (nearB : b < a + period)
    (same : number period a = number period b) : a = b := by
  have split : ∀ {x y : Nat}, 0 < x → x ≤ y → y < x + period →
      number period x = number period y → x = y := by
    intro x y pos le near same
    have cycle := same_cycle some_value pos le near (Nat.le_of_eq same)
    rw [number_of_pos pos, number_of_pos (by omega)] at same
    have hx := Nat.div_add_mod (x - 1) period
    have hy := Nat.div_add_mod (y - 1) period
    rw [cycle] at hy
    omega
  rcases Nat.le_total a b with le | le
  · exact split posA le nearB same
  · exact (split posB le nearA same.symm).symm

theorem slot_step_back {i : Nat} (inside : i < number period a) :
    slot period a = slot period (a - i) + i := by
  have pos : 0 < a := by
    rcases Nat.eq_zero_or_pos a with zero | pos
    · simp [zero, number] at inside
    · exact pos
  rw [number_of_pos pos] at inside
  have hsplit := Nat.div_add_mod (a - 1) period
  have le : i ≤ a - 1 := by
    have := Nat.mod_le (a - 1) period
    omega
  have same : (a - 1 - i) / period = (a - 1) / period := by
    rcases Nat.eq_zero_or_pos period with zero | some_value
    · simp [zero]
    · have small := Nat.mod_lt (a - 1) some_value
      have shape : a - 1 - i = (a - 1) % period - i + period * ((a - 1) / period) := by omega
      rw [shape, Nat.add_mul_div_left _ _ some_value, Nat.div_eq_of_lt (by omega)]
      simp
  unfold slot
  rw [show a - i - 1 = a - 1 - i by omega, same]
  omega

theorem number_succ (some_value : 0 < period) :
    number period (a + 1) = if number period a = period then 1 else number period a + 1 := by
  rw [number_of_pos (by omega)]
  rcases Nat.eq_zero_or_pos a with zero | pos
  · subst a
    have : number period 0 = 0 := rfl
    simp only [this]
    split <;> simp
  · rw [number_of_pos pos]
    have small := Nat.mod_lt (a - 1) some_value
    have shape : a + 1 - 1 = a - 1 + 1 := by omega
    rw [shape, Nat.add_mod_eq_ite]
    by_cases one : period = 1
    · subst one
      simp [Nat.mod_one]
    · rw [Nat.mod_eq_of_lt (show 1 < period by omega)]
      split <;> split <;> omega

end LaluneServer.SkipZero
