import Mathlib.Data.BitVec

/- Base 128 numbers, lowest digits first; every byte but the last has its high bit. -/
namespace LaluneServer.Varint

def encode : Nat → Nat → List (BitVec 8)
  | 0, n => [BitVec.ofNat 8 n]
  | k + 1, n =>
    if n < 128 then [BitVec.ofNat 8 n]
    else BitVec.ofNat 8 (n % 128 + 128) :: encode k (n / 128)

def decode : List (BitVec 8) → Option (Nat × List (BitVec 8))
  | [] => none
  | b :: rest =>
    if b.toNat < 128 then some (b.toNat, rest)
    else (decode rest).map (fun more => (b.toNat - 128 + 128 * more.1, more.2))

theorem encode_length (k n : Nat) : (encode k n).length ≤ k + 1 := by
  induction k generalizing n with
  | zero => simp [encode]
  | succ k ih =>
    unfold encode
    split
    · simp
    · simpa using ih (n / 128)

theorem decode_byte {n : Nat} (small : n < 128) (rest : List (BitVec 8)) :
    decode (BitVec.ofNat 8 n :: rest) = some (n, rest) := by
  have value : (BitVec.ofNat 8 n).toNat = n := by
    rw [BitVec.toNat_ofNat]
    omega
  rw [decode, value, if_pos small]

theorem decode_encode {k n : Nat} (bound : n < 128 ^ (k + 1)) (rest : List (BitVec 8)) :
    decode (encode k n ++ rest) = some (n, rest) := by
  induction k generalizing n with
  | zero => exact decode_byte (by simpa using bound) rest
  | succ k ih =>
    unfold encode
    split
    · rename_i small
      exact decode_byte small rest
    · have value : (BitVec.ofNat 8 (n % 128 + 128)).toNat = n % 128 + 128 := by
        rw [BitVec.toNat_ofNat]
        omega
      have quotient : n / 128 < 128 ^ (k + 1) := by
        rw [Nat.div_lt_iff_lt_mul (by decide)]
        rw [pow_succ] at bound
        exact bound
      rw [List.cons_append, decode, value, if_neg (by omega), ih quotient]
      simp only [Option.map_some, Option.some.injEq, Prod.mk.injEq, and_true]
      omega

end LaluneServer.Varint
