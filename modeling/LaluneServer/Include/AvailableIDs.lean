import Mathlib.Order.Interval.Finset.Nat
import Mathlib.Tactic.Linarith

/- AvailableIDs: a counter and a stack of released numbers. The numbers are the 32
   bits of an int or of a uint32_t. -/
namespace LaluneServer

structure AvailableIDs where
  nextId : BitVec 32 := 1
  /-- The back of the vector comes first. -/
  availableIds : List (BitVec 32) := []
  deriving DecidableEq, Repr

namespace AvailableIDs

variable (pool : AvailableIDs)

def getId : BitVec 32 × AvailableIDs :=
  match pool.availableIds with
  | id :: rest => (id, { pool with availableIds := rest })
  | [] => (pool.nextId, { pool with nextId := pool.nextId + 1 })

def releaseId (id : BitVec 32) : AvailableIDs :=
  if id + 1 = pool.nextId then { pool with nextId := pool.nextId - 1 }
  else { pool with availableIds := id :: pool.availableIds }

def HeldOut (id : BitVec 32) : Prop := 1 ≤ id ∧ id < pool.nextId ∧ id ∉ pool.availableIds

structure Sound : Prop where
  started : 1 ≤ pool.nextId
  nodup : pool.availableIds.Nodup
  given : ∀ id ∈ pool.availableIds, 1 ≤ id ∧ id < pool.nextId

theorem sound_new : ({} : AvailableIDs).Sound :=
  ⟨by decide, List.nodup_nil, by simp⟩

theorem nothing_held_out (id : BitVec 32) : ¬({} : AvailableIDs).HeldOut id := by
  rintro ⟨positive, below, _⟩
  have : (1 : BitVec 32) ≤ id := positive
  have : id < (1 : BitVec 32) := below
  bv_omega

section
variable {pool : AvailableIDs}

/-- The counter moves only when no released number is left. -/
def CanGive (pool : AvailableIDs) : Prop :=
  pool.availableIds = [] → pool.nextId.toNat + 1 < 2 ^ 32

theorem getId_of_empty (empty : pool.availableIds = []) :
    pool.getId = (pool.nextId, { pool with nextId := pool.nextId + 1 }) := by
  unfold getId
  split
  · rename_i id rest back
    rw [empty] at back
    contradiction
  · rfl

theorem getId_fresh (sound : pool.Sound) : ¬pool.HeldOut pool.getId.1 ∧ 1 ≤ pool.getId.1 := by
  unfold getId HeldOut
  split
  · rename_i id rest back
    exact ⟨fun held => held.2.2 (back ▸ List.mem_cons_self),
      (sound.given id (back ▸ List.mem_cons_self)).1⟩
  · refine ⟨?_, sound.started⟩
    rintro ⟨_, below, _⟩
    bv_omega

theorem getId_sound (sound : pool.Sound) (room : CanGive pool) : pool.getId.2.Sound := by
  unfold getId
  split
  · rename_i id rest back
    have nodup := sound.nodup
    have given := sound.given
    rw [back] at nodup given
    exact ⟨sound.started, nodup.of_cons, fun x member => given x (List.mem_cons_of_mem _ member)⟩
  · rename_i back
    have bound := room back
    have started := sound.started
    refine ⟨?_, by simp [back], by simp [back]⟩
    show 1 ≤ pool.nextId + 1
    bv_omega

theorem getId_heldOut (sound : pool.Sound) (room : CanGive pool) (x : BitVec 32) :
    pool.getId.2.HeldOut x ↔ pool.HeldOut x ∨ x = pool.getId.1 := by
  unfold getId
  split
  · rename_i id rest back
    have nodup := sound.nodup
    have given := sound.given
    rw [back] at nodup given
    obtain ⟨positive, below⟩ := given id List.mem_cons_self
    simp only [HeldOut, back, List.mem_cons, not_or]
    constructor
    · rintro ⟨low, high, apart⟩
      by_cases same : x = id
      · exact Or.inr same
      · exact Or.inl ⟨low, high, same, apart⟩
    · rintro (⟨low, high, _, apart⟩ | rfl)
      · exact ⟨low, high, apart⟩
      · exact ⟨positive, below, (List.nodup_cons.mp nodup).1⟩
  · rename_i back
    have bound := room back
    have started := sound.started
    simp only [HeldOut, back, List.not_mem_nil, not_false_eq_true, and_true]
    constructor
    · rintro ⟨low, high⟩
      by_cases same : x = pool.nextId
      · exact Or.inr same
      · left
        bv_omega
    · rintro (⟨low, high⟩ | rfl)
      · bv_omega
      · bv_omega

theorem releaseId_sound (sound : pool.Sound) {id : BitVec 32} (held : pool.HeldOut id) :
    (pool.releaseId id).Sound := by
  obtain ⟨low, high, apart⟩ := held
  unfold releaseId
  split
  · rename_i last
    refine ⟨?_, sound.nodup, ?_⟩
    · show 1 ≤ pool.nextId - 1
      bv_omega
    · intro x member
      have given := sound.given x member
      have other : x ≠ id := by
        rintro rfl
        exact apart member
      show 1 ≤ x ∧ x < pool.nextId - 1
      bv_omega
  · refine ⟨sound.started, List.nodup_cons.mpr ⟨apart, sound.nodup⟩, ?_⟩
    intro x member
    rcases List.mem_cons.mp member with rfl | older
    · exact ⟨low, high⟩
    · exact sound.given x older

theorem releaseId_heldOut {id : BitVec 32} (held : pool.HeldOut id) (x : BitVec 32) :
    (pool.releaseId id).HeldOut x ↔ pool.HeldOut x ∧ x ≠ id := by
  obtain ⟨low, high, apart⟩ := held
  unfold releaseId
  split
  · rename_i last
    simp only [HeldOut]
    constructor
    · rintro ⟨positive, below, free⟩
      refine ⟨⟨positive, ?_, free⟩, ?_⟩
      · bv_omega
      · rintro rfl
        bv_omega
    · rintro ⟨⟨positive, below, free⟩, other⟩
      refine ⟨positive, ?_, free⟩
      bv_omega
  · simp only [HeldOut, List.mem_cons, not_or]
    constructor
    · rintro ⟨positive, below, other, free⟩
      exact ⟨⟨positive, below, free⟩, other⟩
    · rintro ⟨⟨positive, below, free⟩, other⟩
      exact ⟨positive, below, other, free⟩

theorem nextId_le_of_cover (empty : pool.availableIds = []) {ids : List (BitVec 32)}
    (cover : ∀ id, pool.HeldOut id → id ∈ ids) : pool.nextId.toNat ≤ ids.length + 1 := by
  have subset : Finset.Ico 1 pool.nextId.toNat ⊆ (ids.map BitVec.toNat).toFinset := by
    intro n member
    rw [Finset.mem_Ico] at member
    have small : n < 2 ^ 32 := by
      have := pool.nextId.isLt
      omega
    have named : (BitVec.ofNat 32 n).toNat = n := by simpa using small
    have held : pool.HeldOut (BitVec.ofNat 32 n) := by
      refine ⟨?_, ?_, by simp [empty]⟩
      · show (1 : BitVec 32).toNat ≤ _
        rw [named]
        exact member.1
      · show _ < pool.nextId.toNat
        rw [named]
        exact member.2
    rw [List.mem_toFinset, List.mem_map]
    exact ⟨_, cover _ held, named⟩
  have count := (Finset.card_le_card subset).trans (List.toFinset_card_le _)
  rw [Nat.card_Ico, List.length_map] at count
  omega

end

end AvailableIDs

end LaluneServer
