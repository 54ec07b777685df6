import LaluneServer.Lib.SkipZero

/- The number arithmetic of PvpTerminal. `unsigned short` is BitVec 16, and the
   subtraction of `diffBetweenSequenceNumbers` is done in 32 bits as in C++. -/
namespace LaluneServer.Pvp
open SkipZero

def diffBetweenSequenceNumbers (seqOne : BitVec 16) (seqTwo : BitVec 32) : Int :=
  let diff := (seqOne.setWidth 32 - seqTwo).toInt
  if diff < -0x8000 then diff + 0x10000
  else if diff > 0x8000 then diff - 0x10000
  else diff

def nextSeqNo (seqNo : BitVec 16) : BitVec 16 :=
  if seqNo = 0xffff then 1 else seqNo + 1

def prevSeqNo (seqNo bias : BitVec 16) : BitVec 16 :=
  if seqNo > bias then seqNo - bias else seqNo + 0xffff - bias

/-- The number carried by the packet at a position of a stream; the position of
    the first number ever sent, 1, is 1. -/
def seqNumber (position : Nat) : BitVec 16 := BitVec.ofNat 16 (number 0xffff position)

/-- Places of the positions on the line that `diffBetweenSequenceNumbers` uses:
    it counts modulo 0x10000 and so keeps an empty place for each skipped zero. -/
def wireSlot (position : Nat) : Nat := slot 0xffff position

theorem seqNumber_toNat (position : Nat) :
    (seqNumber position).toNat = number 0xffff position := by
  have : number 0xffff position ≤ 0xffff := number_le_period (by decide)
  simp only [seqNumber, BitVec.toNat_ofNat]
  omega

theorem wireSlot_mod (position : Nat) :
    wireSlot position % 0x10000 = (seqNumber position).toNat := by
  rw [seqNumber_toNat]
  exact slot_mod (by decide)

theorem wireSlot_injective {a b : Nat} (same : wireSlot a = wireSlot b) : a = b :=
  slot_injective 0xffff same

theorem wireSlot_lower {a b : Nat} (le : a ≤ b) : wireSlot a + (b - a) ≤ wireSlot b :=
  slot_sub_le_slot 0xffff le

theorem wireSlot_upper {a b : Nat} (le : a ≤ b) (close : b ≤ a + 0xffff) :
    wireSlot b ≤ wireSlot a + (b - a) + 1 :=
  slot_le_succ (by decide) le close

theorem seqNumber_of_start (start : BitVec 16) : seqNumber start.toNat = start := by
  apply BitVec.eq_of_toNat_eq
  rw [seqNumber_toNat]
  have bound := start.isLt
  unfold number
  split
  · omega
  · rw [Nat.mod_eq_of_lt] <;> omega

theorem nextSeqNo_toNat (no : BitVec 16) :
    (nextSeqNo no).toNat = if no.toNat = 0xffff then 1 else no.toNat + 1 := by
  unfold nextSeqNo
  by_cases last : no = 0xffff
  · simp [last]
  · have notLast : no.toNat ≠ 0xffff := by
      intro eq
      exact last (BitVec.eq_of_toNat_eq (by simpa using eq))
    have bound := no.isLt
    have one : (1 : BitVec 16).toNat = 1 := rfl
    simp only [last, notLast, ↓reduceIte, BitVec.toNat_add, one]
    omega

theorem prevSeqNo_toNat (no : BitVec 16) {bias : Nat} (small : bias < 0xffff) :
    (prevSeqNo no (BitVec.ofNat 16 bias)).toNat =
      if bias < no.toNat then no.toNat - bias else no.toNat + 0xffff - bias := by
  have bits : (BitVec.ofNat 16 bias).toNat = bias := by
    rw [BitVec.toNat_ofNat]
    omega
  have top : (0xffff : BitVec 16).toNat = 0xffff := rfl
  have bound := no.isLt
  unfold prevSeqNo
  simp only [gt_iff_lt, BitVec.lt_def, bits]
  split
  · rw [BitVec.toNat_sub, bits]
    omega
  · rw [BitVec.toNat_sub, BitVec.toNat_add, bits, top]
    omega

theorem next_seqNumber (position : Nat) :
    nextSeqNo (seqNumber position) = seqNumber (position + 1) := by
  apply BitVec.eq_of_toNat_eq
  rw [nextSeqNo_toNat, seqNumber_toNat, seqNumber_toNat, number_succ (by decide)]

theorem prevSeqNo_injective {no : BitVec 16} {b c : Nat} (insideB : b < 32) (insideC : c < 32)
    (same : prevSeqNo no (BitVec.ofNat 16 b) = prevSeqNo no (BitVec.ofNat 16 c)) : b = c := by
  have number := congrArg BitVec.toNat same
  rw [prevSeqNo_toNat _ (by omega), prevSeqNo_toNat _ (by omega)] at number
  have bound := no.isLt
  split at number <;> split at number <;> omega

theorem prev_seqNumber {position bias : Nat} (inside : bias < position)
    (small : bias < 0xffff) :
    prevSeqNo (seqNumber position) (BitVec.ofNat 16 bias) = seqNumber (position - bias) := by
  have pos : 0 < position := by omega
  have number := seqNumber_toNat position
  rw [number_of_pos pos] at number
  have cycles := Nat.div_add_mod (position - 1) 0xffff
  have rest := Nat.mod_lt (position - 1) (show 0 < 0xffff by decide)
  generalize (position - 1) % 0xffff = r at number cycles rest
  generalize (position - 1) / 0xffff = q at cycles
  apply BitVec.eq_of_toNat_eq
  rw [prevSeqNo_toNat _ small, number, seqNumber_toNat, number_of_pos (by omega)]
  split
  · have shape : position - bias - 1 = (r - bias) + 0xffff * q := by omega
    rw [shape, Nat.add_mul_mod_self_left, Nat.mod_eq_of_lt (by omega)]
    omega
  · have shape : position - bias - 1 = (r + 0xffff - bias) + 0xffff * (q - 1) := by omega
    rw [shape, Nat.add_mul_mod_self_left, Nat.mod_eq_of_lt (by omega)]
    omega

theorem diff_toInt (a b : BitVec 16) :
    (a.setWidth 32 - (b.setWidth 32)).toInt = (a.toNat : Int) - b.toNat := by
  have ha := a.isLt
  have hb := b.isLt
  have la : (a.setWidth 32).toNat = a.toNat := by
    simp only [BitVec.toNat_setWidth]
    omega
  have lb : (b.setWidth 32).toNat = b.toNat := by
    simp only [BitVec.toNat_setWidth]
    omega
  simp only [BitVec.toInt, BitVec.toNat_sub, la, lb]
  split <;> omega

/-- The difference of two numbers is the distance of their slots, as long as
    these are less than half the number space apart. -/
theorem diff_eq_slots {a b : Nat} (above : wireSlot a < wireSlot b + 0x8000)
    (below : wireSlot b < wireSlot a + 0x8000) :
    diffBetweenSequenceNumbers (seqNumber a) ((seqNumber b).setWidth 32) =
      (wireSlot a : Int) - wireSlot b := by
  have residueA := wireSlot_mod a
  have residueB := wireSlot_mod b
  simp only [diffBetweenSequenceNumbers, diff_toInt]
  split
  · omega
  · split <;> omega

theorem diff_close {a b : Nat} (above : a ≤ b + 2048) (below : b ≤ a + 2048) :
    diffBetweenSequenceNumbers (seqNumber a) ((seqNumber b).setWidth 32) =
      (wireSlot a : Int) - wireSlot b := by
  rcases Nat.le_total a b with le | le
  · have lower := wireSlot_lower le
    have upper := wireSlot_upper le (by omega)
    exact diff_eq_slots (by omega) (by omega)
  · have lower := wireSlot_lower le
    have upper := wireSlot_upper le (by omega)
    exact diff_eq_slots (by omega) (by omega)

theorem seqNumber_injective_near {a b : Nat} (posA : 0 < a) (posB : 0 < b)
    (nearA : a < b + 0xffff) (nearB : b < a + 0xffff)
    (same : seqNumber a = seqNumber b) : a = b := by
  refine number_injective_near (by decide) posA posB nearA nearB ?_
  rw [← seqNumber_toNat, ← seqNumber_toNat, same]

def packetNo : Nat → BitVec 16
  | 0 => 0
  | n + 1 => nextSeqNo (packetNo n)

theorem packetNo_eq_seqNumber (n : Nat) : packetNo n = seqNumber n := by
  induction n with
  | zero => rfl
  | succ n ih =>
    rw [packetNo, ih]
    exact next_seqNumber n

theorem wireSlot_add_iff {n : Nat} (pos : 1 ≤ n) (k : Nat) :
    wireSlot (n + k) = wireSlot n + k ↔ (n - 1) % 0xffff + k < 0xffff := by
  have split := Nat.div_add_mod (n - 1) 0xffff
  have rest := Nat.mod_lt (n - 1) (show 0 < 0xffff by decide)
  have shift : n + k - 1 = n - 1 + k := by omega
  unfold wireSlot slot
  rw [shift]
  constructor
  · intro same
    by_contra wraps
    have next : (n - 1) / 0xffff + 1 ≤ (n - 1 + k) / 0xffff := by
      apply (Nat.le_div_iff_mul_le (by decide)).mpr
      omega
    omega
  · intro inside
    have cycle : (n - 1 + k) / 0xffff = (n - 1) / 0xffff := by
      apply Nat.div_eq_of_lt_le
      · omega
      · omega
    omega

/-- Stepping back always finds the packet sent k positions before; subtracting agrees
    with it exactly while no skipped 0 lies between the two packets. -/
theorem helpers_agree_iff_no_wrap (n k : Nat) (pos : 1 ≤ n) (small : k ≤ 31) :
    prevSeqNo (packetNo (n + k)) (BitVec.ofNat 16 k) = packetNo n ∧
    (diffBetweenSequenceNumbers (packetNo (n + k)) ((packetNo n).setWidth 32) = k ∧
      diffBetweenSequenceNumbers (packetNo n) ((packetNo (n + k)).setWidth 32) = -k ∧
      prevSeqNo (packetNo (n + k)) (BitVec.ofNat 16 k) = packetNo n ↔
      (n - 1) % 0xffff + k < 0xffff) := by
  have back : prevSeqNo (packetNo (n + k)) (BitVec.ofNat 16 k) = packetNo n := by
    rw [packetNo_eq_seqNumber, packetNo_eq_seqNumber, prev_seqNumber (by omega) (by omega),
      Nat.add_sub_cancel]
  have forth : diffBetweenSequenceNumbers (packetNo (n + k)) ((packetNo n).setWidth 32) =
      (wireSlot (n + k) : Int) - wireSlot n := by
    rw [packetNo_eq_seqNumber, packetNo_eq_seqNumber]
    exact diff_close (by omega) (by omega)
  have reverse : diffBetweenSequenceNumbers (packetNo n) ((packetNo (n + k)).setWidth 32) =
      (wireSlot n : Int) - wireSlot (n + k) := by
    rw [packetNo_eq_seqNumber, packetNo_eq_seqNumber]
    exact diff_close (by omega) (by omega)
  refine ⟨back, ?_⟩
  rw [forth, reverse, ← wireSlot_add_iff pos k]
  constructor
  · rintro ⟨ahead, _, _⟩
    omega
  · intro together
    exact ⟨by omega, by omega, back⟩

/-- The last number before a wrap and the one two places before it. -/
theorem helpers_agree_before_wrap :
    diffBetweenSequenceNumbers (packetNo (0xfffd + 2)) ((packetNo 0xfffd).setWidth 32) = 2 :=
  ((helpers_agree_iff_no_wrap 0xfffd 2 (by decide) (by decide)).2.mpr (by decide)).1

theorem difference_counts_skipped_zero :
    ¬∀ n k : Nat, 1 ≤ n → k ≤ 31 →
      diffBetweenSequenceNumbers (packetNo (n + k)) ((packetNo n).setWidth 32) = k ∧
      diffBetweenSequenceNumbers (packetNo n) ((packetNo (n + k)).setWidth 32) = -k ∧
      prevSeqNo (packetNo (n + k)) (BitVec.ofNat 16 k) = packetNo n := by
  intro agree
  have wrapped := (agree 0xffff 1 (by decide) (by decide)).1
  rw [packetNo_eq_seqNumber, packetNo_eq_seqNumber] at wrapped
  exact absurd wrapped (by decide)

end LaluneServer.Pvp
