import Mathlib.Data.List.Basic
import Mathlib.Data.List.Nodup

/- Choosing k of n items with sorted numbers from 0 to n - k: each number plus its place is the
   position of an item. Every choice comes from one such list and no item is chosen twice. -/
namespace LaluneServer.SortedPicks

def spread (start : Nat) (numbers : List Nat) : List Nat :=
  (numbers.zipIdx start).map fun pick => pick.1 + pick.2

def squeeze (start : Nat) (positions : List Nat) : List Nat :=
  (positions.zipIdx start).map fun pick => pick.1 - pick.2

variable {start top a : Nat} {numbers positions rest : List Nat}

theorem spread_cons (start a : Nat) (rest : List Nat) :
    spread start (a :: rest) = (a + start) :: spread (start + 1) rest := rfl

theorem squeeze_cons (start a : Nat) (rest : List Nat) :
    squeeze start (a :: rest) = (a - start) :: squeeze (start + 1) rest := rfl

theorem length_spread (start : Nat) (numbers : List Nat) :
    (spread start numbers).length = numbers.length := by
  simp [spread]

theorem length_squeeze (start : Nat) (positions : List Nat) :
    (squeeze start positions).length = positions.length := by
  simp [squeeze]

theorem le_of_mem_spread (above : ∀ b ∈ numbers, a ≤ b) :
    ∀ p ∈ spread start numbers, a + start ≤ p := by
  induction numbers generalizing start with
  | nil => simp [spread]
  | cons b rest ih =>
    intro p member
    rw [spread_cons, List.mem_cons] at member
    rcases member with rfl | later
    · exact Nat.add_le_add_right (above b List.mem_cons_self) start
    · have := ih (fun c held => above c (List.mem_cons_of_mem b held)) p later
      omega

theorem spread_increasing (sorted : numbers.Pairwise (· ≤ ·)) :
    (spread start numbers).Pairwise (· < ·) := by
  induction numbers generalizing start with
  | nil => exact List.Pairwise.nil
  | cons a rest ih =>
    obtain ⟨least, sorted⟩ := List.pairwise_cons.mp sorted
    rw [spread_cons, List.pairwise_cons]
    refine ⟨?_, ih sorted⟩
    intro p later
    have := le_of_mem_spread least p later
    omega

theorem spread_lt (below : ∀ a ∈ numbers, a ≤ top) :
    ∀ p ∈ spread start numbers, p < top + start + numbers.length := by
  induction numbers generalizing start with
  | nil => simp [spread]
  | cons a rest ih =>
    intro p member
    rw [spread_cons, List.mem_cons] at member
    rw [List.length_cons]
    rcases member with rfl | later
    · have := below a List.mem_cons_self
      omega
    · have := ih (fun c held => below c (List.mem_cons_of_mem a held)) p later
      omega

theorem spread_squeeze (high : ∀ p ∈ positions, start ≤ p)
    (increasing : positions.Pairwise (· < ·)) :
    spread start (squeeze start positions) = positions := by
  induction positions generalizing start with
  | nil => rfl
  | cons p rest ih =>
    obtain ⟨least, increasing⟩ := List.pairwise_cons.mp increasing
    have first := high p List.mem_cons_self
    rw [squeeze_cons, spread_cons, Nat.sub_add_cancel first, ih ?_ increasing]
    intro q later
    exact Nat.lt_of_le_of_lt first (least q later)

theorem room_of_increasing {p bound : Nat} (increasing : (p :: rest).Pairwise (· < ·))
    (below : ∀ q ∈ p :: rest, q < bound) : p + rest.length < bound := by
  induction rest generalizing p with
  | nil => exact below p List.mem_cons_self
  | cons q rest ih =>
    obtain ⟨least, increasing⟩ := List.pairwise_cons.mp increasing
    have next := ih increasing (fun r held => below r (List.mem_cons_of_mem p held))
    have := least q List.mem_cons_self
    rw [List.length_cons]
    omega

theorem squeeze_sorted (high : ∀ p ∈ positions, start ≤ p)
    (increasing : positions.Pairwise (· < ·)) : (squeeze start positions).Pairwise (· ≤ ·) ∧
      ∀ a ∈ squeeze start positions, ∀ p ∈ positions.head?, p - start ≤ a := by
  induction positions generalizing start with
  | nil => simp [squeeze]
  | cons p rest ih =>
    obtain ⟨least, increasing⟩ := List.pairwise_cons.mp increasing
    have first := high p List.mem_cons_self
    obtain ⟨sorted, low⟩ := ih (fun q later => Nat.lt_of_le_of_lt first (least q later)) increasing
    have behind : ∀ a ∈ squeeze (start + 1) rest, p - start ≤ a := by
      intro a member
      cases rest with
      | nil => simp [squeeze] at member
      | cons q rest =>
        have := low a member q rfl
        have := least q List.mem_cons_self
        omega
    rw [squeeze_cons]
    refine ⟨List.pairwise_cons.mpr ⟨behind, sorted⟩, ?_⟩
    intro a member q here
    cases here
    rcases List.mem_cons.mp member with rfl | later
    · exact Nat.le_refl _
    · exact behind a later

theorem squeeze_le {bound : Nat} (high : ∀ p ∈ positions, start ≤ p)
    (increasing : positions.Pairwise (· < ·)) (below : ∀ p ∈ positions, p < bound) :
    ∀ a ∈ squeeze start positions, a + start + positions.length ≤ bound := by
  induction positions generalizing start with
  | nil => simp [squeeze]
  | cons p rest ih =>
    intro a member
    have room := room_of_increasing increasing below
    obtain ⟨least, increasing⟩ := List.pairwise_cons.mp increasing
    have first := high p List.mem_cons_self
    rw [squeeze_cons, List.mem_cons] at member
    rw [List.length_cons]
    rcases member with rfl | later
    · omega
    · have := ih (fun q held => Nat.lt_of_le_of_lt first (least q held)) increasing
        (fun q held => below q (List.mem_cons_of_mem p held)) a later
      omega

theorem positions_iff {n k : Nat} (room : k ≤ n) :
    (∃ numbers : List Nat, numbers.length = k ∧ numbers.Pairwise (· ≤ ·) ∧
      (∀ a ∈ numbers, a ≤ n - k) ∧ spread 0 numbers = positions) ↔
    positions.length = k ∧ positions.Pairwise (· < ·) ∧ ∀ p ∈ positions, p < n := by
  constructor
  · rintro ⟨numbers, long, sorted, below, rfl⟩
    refine ⟨by rw [length_spread, long], spread_increasing sorted, ?_⟩
    intro p member
    have := spread_lt below p member
    omega
  · rintro ⟨long, increasing, below⟩
    have high : ∀ p ∈ positions, 0 ≤ p := fun p _ => Nat.zero_le p
    refine ⟨squeeze 0 positions, by rw [length_squeeze, long], (squeeze_sorted high increasing).1,
      ?_, spread_squeeze high increasing⟩
    intro a member
    have := squeeze_le high increasing below a member
    omega

variable {α : Type*} {items chosen : List α}

theorem sublist_iff_positions (default : α) : chosen.Sublist items ↔
    ∃ positions : List Nat, positions.Pairwise (· < ·) ∧ (∀ p ∈ positions, p < items.length) ∧
      chosen = positions.map (items.getD · default) := by
  constructor
  · intro sub
    obtain ⟨places, rfl, increasing⟩ := List.sublist_eq_map_getElem sub
    refine ⟨places.map Fin.val, List.pairwise_map.mpr increasing, ?_, ?_⟩
    · intro p member
      obtain ⟨place, _, rfl⟩ := List.mem_map.mp member
      exact place.isLt
    · rw [List.map_map]
      refine List.map_congr_left ?_
      intro place _
      simp
  · rintro ⟨positions, increasing, below, rfl⟩
    have picked : positions.map (items.getD · default) =
        (positions.pmap Fin.mk below).map (items[·]) := by
      rw [List.map_pmap, ← List.pmap_eq_map below]
      refine List.pmap_congr_left positions ?_
      intro p _ inside _
      simp [inside]
    rw [picked]
    refine List.map_getElem_sublist ?_
    rw [List.pairwise_pmap]
    exact increasing.imp (fun less _ _ => less)

theorem chosen_iff_sublist (default : α) {k : Nat} (room : k ≤ items.length) :
    (∃ numbers : List Nat, numbers.length = k ∧ numbers.Pairwise (· ≤ ·) ∧
      (∀ a ∈ numbers, a ≤ items.length - k) ∧
      chosen = (spread 0 numbers).map (items.getD · default)) ↔
    chosen.Sublist items ∧ chosen.length = k := by
  rw [sublist_iff_positions default]
  constructor
  · rintro ⟨numbers, long, sorted, below, rfl⟩
    obtain ⟨length, increasing, inside⟩ :=
      (positions_iff room).mp ⟨numbers, long, sorted, below, rfl⟩
    exact ⟨⟨_, increasing, inside, rfl⟩, by rw [List.length_map, length]⟩
  · rintro ⟨⟨positions, increasing, inside, rfl⟩, long⟩
    rw [List.length_map] at long
    obtain ⟨numbers, length, sorted, below, rfl⟩ :=
      (positions_iff room).mpr ⟨long, increasing, inside⟩
    exact ⟨numbers, length, sorted, below, rfl⟩

end LaluneServer.SortedPicks
