import LaluneServer.Include.AvailableIDs
import LaluneServer.Lib.Transition

/- The pool under any calls of its owners: a number is taken, or one that is held comes
   back. Beside the pool stand the numbers held, all the numbers ever issued, and the
   largest count held at one time. -/
namespace LaluneServer.IdRun
open Transition

/-- The types that the servers use for the parameter of the template. -/
inductive IdType where
  | int
  | uint32
  deriving DecidableEq, Repr

def IdType.maximum : IdType → Nat
  | .int => 2 ^ 31 - 1
  | .uint32 => 2 ^ 32 - 1

structure IdHistory where
  pool : AvailableIDs := {}
  held : List (BitVec 32) := []
  issued : List (BitVec 32) := []
  largest : Nat := 0
  deriving DecidableEq, Repr

inductive IdCall where
  | getId
  | releaseId (id : BitVec 32)
  deriving DecidableEq, Repr

def step (s : IdHistory) : IdCall → Option IdHistory
  | .getId =>
    some { pool := s.pool.getId.2
           held := s.pool.getId.1 :: s.held
           issued := s.pool.getId.1 :: s.issued
           largest := max s.largest (s.held.length + 1) }
  | .releaseId id =>
    if id ∈ s.held then some { s with pool := s.pool.releaseId id, held := s.held.erase id }
    else none

def Within (T : IdType) (s : IdHistory) : IdCall → Prop
  | .getId => s.held.length + 1 < T.maximum
  | .releaseId _ => True

instance (T : IdType) (s : IdHistory) : (c : IdCall) → Decidable (Within T s c)
  | .getId => inferInstanceAs (Decidable (_ < _))
  | .releaseId _ => isTrue trivial

structure Orderly (T : IdType) (s : IdHistory) : Prop where
  sound : s.pool.Sound
  nodup : s.held.Nodup
  held : ∀ id, id ∈ s.held ↔ s.pool.HeldOut id
  counter : s.pool.nextId.toNat ≤ s.largest + 1
  issued : ∀ id ∈ s.issued, id.toNat ≤ s.largest
  within : s.largest < T.maximum

theorem maximum_lt (T : IdType) : 1 ≤ T.maximum ∧ T.maximum < 2 ^ 32 := by
  cases T
  · decide
  · decide

theorem orderly_new (T : IdType) : Orderly T {} := by
  refine ⟨AvailableIDs.sound_new, List.nodup_nil, ?_, ?_, by simp, (maximum_lt T).1⟩
  · intro id
    simpa using AvailableIDs.nothing_held_out id
  · decide

section
variable {T : IdType} {s : IdHistory}

theorem nextId_le_held (o : Orderly T s) (empty : s.pool.availableIds = []) :
    s.pool.nextId.toNat ≤ s.held.length + 1 :=
  AvailableIDs.nextId_le_of_cover empty (fun id out => (o.held id).mpr out)

theorem getId_le_largest (o : Orderly T s) :
    s.pool.getId.1.toNat ≤ max s.largest (s.held.length + 1) := by
  cases back : s.pool.availableIds with
  | nil =>
    have all := nextId_le_held o back
    rw [AvailableIDs.getId_of_empty back]
    exact le_max_of_le_right all
  | cons id rest =>
    have given := (o.sound.given id (back ▸ List.mem_cons_self)).2
    have below : id.toNat < s.pool.nextId.toNat := given
    have counter := o.counter
    have popped : s.pool.getId.1 = id := by
      simp [AvailableIDs.getId, back]
    rw [popped]
    apply le_max_of_le_left
    omega

theorem canGive_of_within (o : Orderly T s) (room : Within T s .getId) : s.pool.CanGive := by
  intro empty
  have all := nextId_le_held o empty
  have few : s.held.length + 1 < T.maximum := room
  have bound := (maximum_lt T).2
  omega

theorem getId_nextId_le (o : Orderly T s) (room : Within T s .getId) :
    s.pool.getId.2.nextId.toNat ≤ max s.largest (s.held.length + 1) + 1 := by
  cases back : s.pool.availableIds with
  | nil =>
    have all := nextId_le_held o back
    have small := canGive_of_within o room back
    have next : (s.pool.nextId + 1).toNat = s.pool.nextId.toNat + 1 := by
      rw [BitVec.toNat_add]
      exact Nat.mod_eq_of_lt small
    rw [AvailableIDs.getId_of_empty back]
    show (s.pool.nextId + 1).toNat ≤ _
    rw [next]
    exact Nat.succ_le_succ (le_max_of_le_right all)
  | cons id rest =>
    have kept : s.pool.getId.2.nextId = s.pool.nextId := by
      simp [AvailableIDs.getId, back]
    rw [kept]
    exact o.counter.trans (Nat.succ_le_succ (le_max_left _ _))

theorem releaseId_nextId_le (o : Orderly T s) (id : BitVec 32) :
    (s.pool.releaseId id).nextId.toNat ≤ s.pool.nextId.toNat := by
  have started := o.sound.started
  unfold AvailableIDs.releaseId
  split
  · show (s.pool.nextId - 1).toNat ≤ _
    bv_omega
  · exact Nat.le_refl _

theorem orderly_getId (o : Orderly T s) (room : Within T s .getId) {t : IdHistory}
    (moved : step s .getId = some t) : Orderly T t := by
  rw [step, Option.some.injEq] at moved
  subst moved
  have canGive := canGive_of_within o room
  have fresh := (AvailableIDs.getId_fresh o.sound).1
  refine ⟨AvailableIDs.getId_sound o.sound canGive, ?_, ?_, getId_nextId_le o room, ?_, ?_⟩
  · exact List.nodup_cons.mpr ⟨fun held => fresh ((o.held _).mp held), o.nodup⟩
  · intro id
    rw [List.mem_cons, AvailableIDs.getId_heldOut o.sound canGive, o.held, or_comm]
  · intro id member
    rcases List.mem_cons.mp member with rfl | older
    · exact getId_le_largest o
    · exact le_max_of_le_left (o.issued id older)
  · exact max_lt o.within room

theorem orderly_releaseId (o : Orderly T s) {id : BitVec 32} {t : IdHistory}
    (moved : step s (.releaseId id) = some t) : Orderly T t := by
  by_cases member : id ∈ s.held
  · rw [step, if_pos member, Option.some.injEq] at moved
    subst moved
    have out := (o.held id).mp member
    refine ⟨AvailableIDs.releaseId_sound o.sound out, o.nodup.erase id, ?_, ?_, o.issued,
      o.within⟩
    · intro other
      rw [o.nodup.mem_erase_iff, AvailableIDs.releaseId_heldOut out, o.held, and_comm]
    · exact (releaseId_nextId_le o id).trans o.counter
  · rw [step, if_neg member] at moved
    contradiction

theorem orderly_step {c : IdCall} {t : IdHistory} (o : Orderly T s) (allowed : Within T s c)
    (moved : step s c = some t) : Orderly T t := by
  cases c with
  | getId => exact orderly_getId o allowed moved
  | releaseId id => exact orderly_releaseId o moved

theorem held_or_free (o : Orderly T s) (id : BitVec 32) :
    id ∈ s.held ∨ id ∈ s.pool.availableIds ↔ 1 ≤ id ∧ id < s.pool.nextId := by
  constructor
  · rintro (held | free)
    · have out := (o.held id).mp held
      exact ⟨out.1, out.2.1⟩
    · exact o.sound.given id free
  · rintro ⟨low, high⟩
    by_cases free : id ∈ s.pool.availableIds
    · exact Or.inr free
    · exact Or.inl ((o.held id).mpr ⟨low, high, free⟩)

end

/-- In every run the pool and the numbers held divide 1, .., next_id - 1 between them, the
    next number is a new one, and no number was ever above the largest count held. -/
theorem id_pool_correct (T : IdType) {s : IdHistory} (run : Reach step (Within T) {} s) :
    (∀ id ∈ s.held, id ∉ s.pool.availableIds) ∧ s.pool.availableIds.Nodup ∧ s.held.Nodup ∧
    (∀ id, id ∈ s.held ∨ id ∈ s.pool.availableIds ↔ 1 ≤ id ∧ id < s.pool.nextId) ∧
    s.pool.nextId.toNat ≤ T.maximum ∧ s.pool.getId.1 ∉ s.held ∧
    ∀ id ∈ s.issued, id.toNat ≤ s.largest := by
  have o : Orderly T s := reach_invariant (Orderly T) (orderly_new T)
    (fun _ _ _ o allowed moved => orderly_step o allowed moved) run
  have fresh := (AvailableIDs.getId_fresh o.sound).1
  have counter : s.pool.nextId.toNat ≤ T.maximum := by
    have := o.counter
    have := o.within
    omega
  refine ⟨?_, o.sound.nodup, o.nodup, held_or_free o, counter, ?_, o.issued⟩
  · intro id held
    exact ((o.held id).mp held).2.2
  · intro held
    exact fresh ((o.held _).mp held)

def twoRoutes : List IdCall :=
  [.getId, .getId, .getId, .releaseId 2, .releaseId 3, .getId, .getId]

theorem id_pool_correct_on_two_routes :
    ∃ s, Reach step (Within .int) {} s ∧ s.held = [3, 2, 1] ∧ s.pool.getId.1 ∉ s.held := by
  obtain ⟨s, run, held⟩ := execWithin_any step (Within .int) {} twoRoutes
    (fun s => s.held = [3, 2, 1]) (by decide +kernel)
  exact ⟨s, run, of_decide_eq_true held, (id_pool_correct .int run).2.2.2.2.2.1⟩

end LaluneServer.IdRun
