import Mathlib.Data.BitVec

/- Bitmaps that remember which of the last slots were seen: bit i stands for the
   slot i places before the newest one. -/
namespace LaluneServer.BitWindow

variable {w : Nat} {bits : BitVec w} {newest : Nat} {seen : Nat → Prop}

def Tracks (bits : BitVec w) (newest : Nat) (seen : Nat → Prop) : Prop :=
  ∀ i, i < w → (bits.getLsbD i = true ↔ ∃ slot, seen slot ∧ newest = slot + i)

theorem mask_clear_iff {i : Nat} (inside : i < w) (bits : BitVec w) :
    bits &&& (1#w <<< i) = 0#w ↔ bits.getLsbD i = false := by
  rw [← BitVec.twoPow_eq]
  constructor
  · intro clear
    have bit := congrArg (fun b => b.getLsbD i) clear
    simpa [inside] using bit
  · intro clear
    apply BitVec.eq_of_getLsbD_eq
    intro j hj
    by_cases same : i = j
    · subst j
      simp [clear]
    · simp [BitVec.getLsbD_twoPow, same]

theorem getLsbD_mark (bits : BitVec w) {i : Nat} (inside : i < w) (j : Nat) :
    (bits ||| (1#w <<< i)).getLsbD j = true ↔ bits.getLsbD j = true ∨ j = i := by
  rw [← BitVec.twoPow_eq]
  by_cases same : i = j
  · subst j
    simp [inside]
  · simp [BitVec.getLsbD_twoPow, same, Ne.symm same]

theorem getLsbD_shift (bits : BitVec w) (d : Nat) {i : Nat} (inside : i < w) :
    (bits <<< d).getLsbD i = true ↔ d ≤ i ∧ bits.getLsbD (i - d) = true := by
  rw [BitVec.getLsbD_shiftLeft]
  simp only [inside, decide_true, Bool.true_and, Bool.and_eq_true, Bool.not_eq_true',
    decide_eq_false_iff_not, Nat.not_lt]

theorem tracks_mark {i slot : Nat} (window : Tracks bits newest seen) (inside : i < w)
    (place : newest = slot + i) :
    Tracks (bits ||| (1#w <<< i)) newest (fun s => seen s ∨ s = slot) := by
  intro j hj
  rw [getLsbD_mark bits inside, window j hj]
  constructor
  · rintro (⟨s, old, at_s⟩ | same)
    · exact ⟨s, Or.inl old, at_s⟩
    · exact ⟨slot, Or.inr rfl, by omega⟩
  · rintro ⟨s, old | marked, at_s⟩
    · exact Or.inl ⟨s, old, at_s⟩
    · exact Or.inr (by omega)

theorem tracks_shift (d : Nat) (window : Tracks bits newest seen)
    (past : ∀ s, seen s → s ≤ newest) : Tracks (bits <<< d) (newest + d) seen := by
  intro j hj
  rw [getLsbD_shift bits d hj]
  constructor
  · rintro ⟨le, bit⟩
    obtain ⟨s, old, at_s⟩ := (window (j - d) (by omega)).mp bit
    exact ⟨s, old, by omega⟩
  · rintro ⟨s, old, at_s⟩
    have le := past s old
    exact ⟨by omega, (window (j - d) (by omega)).mpr ⟨s, old, by omega⟩⟩

theorem tracks_advance (d : Nat) (positive : 0 < w) (window : Tracks bits newest seen)
    (past : ∀ s, seen s → s ≤ newest) :
    Tracks ((bits <<< d) ||| 1#w) (newest + d) (fun s => seen s ∨ s = newest + d) := by
  have marked := tracks_mark (i := 0) (tracks_shift d window past) positive rfl
  simpa using marked

theorem tracks_congr {other : Nat → Prop} (window : Tracks bits newest seen)
    (same : ∀ s, s ≤ newest → (seen s ↔ other s)) : Tracks bits newest other := by
  intro i hi
  rw [window i hi]
  constructor
  · rintro ⟨s, old, place⟩
    exact ⟨s, (same s (by omega)).mp old, place⟩
  · rintro ⟨s, old, place⟩
    exact ⟨s, (same s (by omega)).mpr old, place⟩

end LaluneServer.BitWindow
