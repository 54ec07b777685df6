import Mathlib.Algebra.Order.Ring.Int

/- Reads from a buffer that know where it ends: `none` is a read past the end, or of a
   negative number of elements. -/
namespace LaluneServer.BufferRead

variable {α : Type*} {buffer : List α} {offset : Nat} {size : Int}

def readRange (buffer : List α) (offset : Nat) (size : Int) : Option (List α) :=
  if 0 ≤ size ∧ offset + size.toNat ≤ buffer.length then
    some ((buffer.drop offset).take size.toNat)
  else none

theorem readRange_ne_none :
    readRange buffer offset size ≠ none ↔ 0 ≤ size ∧ offset + size.toNat ≤ buffer.length := by
  unfold readRange
  split
  · rename_i inside
    exact iff_of_true (Option.some_ne_none _) inside
  · rename_i outside
    exact iff_of_false (not_not.mpr rfl) outside

theorem readRange_nat {n : Nat} (inside : offset + n ≤ buffer.length) :
    readRange buffer offset n = some ((buffer.drop offset).take n) := by
  unfold readRange
  rw [Int.toNat_natCast, if_pos ⟨Int.natCast_nonneg n, inside⟩]

end LaluneServer.BufferRead
