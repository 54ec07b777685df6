import LaluneServer.Lib.FieldJumps
import LaluneServer.Lib.Varint

/- Payloads in base 128, of fixed width and behind their length. -/
namespace LaluneServer.TaggedFields

theorem decode_length {s rest : Bytes} {n : Nat} (read : Varint.decode s = some (n, rest)) :
    rest.length < s.length := by
  induction s generalizing n with
  | nil => contradiction
  | cons b s ih =>
    rw [Varint.decode] at read
    split at read
    · cases read
      exact Nat.lt_succ_self _
    · obtain ⟨more, deeper, same⟩ := Option.map_eq_some_iff.mp read
      cases same
      have := ih deeper
      rw [List.length_cons]
      omega

def varint (w k : Nat) (room : 2 ^ w ≤ 128 ^ (k + 1)) : Codec (BitVec w) where
  write v := Varint.encode k v.toNat
  size v := (Varint.encode k v.toNat).length
  read s := (Varint.decode s).map fun read => (BitVec.ofNat w read.1, read.2)
  length_write _ _ := rfl
  read_write v rest _ := by
    rw [Varint.decode_encode (Nat.lt_of_lt_of_le v.isLt room)]
    simp
  read_le s v rest read := by
    obtain ⟨found, decoded, same⟩ := Option.map_eq_some_iff.mp read
    cases same
    exact Nat.le_of_lt (decode_length decoded)

def littleEndian : Nat → Nat → Bytes
  | 0, _ => []
  | k + 1, n => BitVec.ofNat 8 n :: littleEndian k (n / 256)

def readLittleEndian : Nat → Bytes → Option (Nat × Bytes)
  | 0, s => some (0, s)
  | _ + 1, [] => none
  | k + 1, b :: s => (readLittleEndian k s).map fun read => (b.toNat + 256 * read.1, read.2)

theorem length_littleEndian (k n : Nat) : (littleEndian k n).length = k := by
  induction k generalizing n with
  | zero => rfl
  | succ k ih => rw [littleEndian, List.length_cons, ih]

theorem readLittleEndian_write {k n : Nat} (small : n < 256 ^ k) (rest : Bytes) :
    readLittleEndian k (littleEndian k n ++ rest) = some (n, rest) := by
  induction k generalizing n with
  | zero =>
    obtain rfl : n = 0 := by simpa using small
    rfl
  | succ k ih =>
    have quotient : n / 256 < 256 ^ k := by
      rw [Nat.div_lt_iff_lt_mul (by decide)]
      rw [Nat.pow_succ] at small
      exact small
    have digit : (BitVec.ofNat 8 n).toNat = n % 256 := by simp
    rw [littleEndian, List.cons_append, readLittleEndian, ih quotient, Option.map_some, digit]
    congr 2
    omega

theorem readLittleEndian_le {k n : Nat} {s rest : Bytes}
    (read : readLittleEndian k s = some (n, rest)) : rest.length ≤ s.length := by
  induction k generalizing s n with
  | zero =>
    cases read
    exact Nat.le_refl _
  | succ k ih =>
    cases s with
    | nil => contradiction
    | cons b s =>
      obtain ⟨more, deeper, same⟩ := Option.map_eq_some_iff.mp read
      cases same
      exact Nat.le_succ_of_le (ih deeper)

def fixed (w k : Nat) (room : 2 ^ w ≤ 256 ^ k) : Codec (BitVec w) where
  write v := littleEndian k v.toNat
  size _ := k
  read s := (readLittleEndian k s).map fun read => (BitVec.ofNat w read.1, read.2)
  length_write v _ := length_littleEndian k v.toNat
  read_write v rest _ := by
    rw [readLittleEndian_write (Nat.lt_of_lt_of_le v.isLt room)]
    simp
  read_le s v rest read := by
    obtain ⟨found, inner, same⟩ := Option.map_eq_some_iff.mp read
    cases same
    exact readLittleEndian_le inner

def delimited : Delimiter where
  write bytes := Varint.encode 4 bytes.length ++ bytes
  size bytes := (Varint.encode 4 bytes.length).length + bytes.length
  read s := (Varint.decode s).bind fun read =>
    if read.1 ≤ read.2.length ∧ read.1 < limit then
      some (read.2.take read.1, read.2.drop read.1)
    else none
  sizeOf n := (Varint.encode 4 n).length + n
  size_eq _ := rfl
  contains bytes := by rw [List.length_append]; omega
  length_write bytes _ := List.length_append
  read_write bytes rest short := by
    rw [List.length_append] at short
    have small : bytes.length < limit := by omega
    have room : bytes.length < 128 ^ (4 + 1) := Nat.lt_trans small (by decide)
    rw [List.append_assoc, Varint.decode_encode room, Option.bind_some, if_pos]
    · rw [List.take_left, List.drop_left]
    · exact ⟨by rw [List.length_append]; omega, small⟩
  read_le s bytes rest read := by
    obtain ⟨found, decoded, framed⟩ := Option.bind_eq_some_iff.mp read
    obtain ⟨_, same⟩ := Option.ite_none_right_eq_some.mp framed
    cases same
    rw [List.length_drop]
    exact Nat.le_trans (Nat.sub_le _ _) (Nat.le_of_lt (decode_length decoded))

def readItems {α : Type} (codec : Codec α) : Nat → Bytes → Option (List α)
  | _, [] => some []
  | 0, _ => none
  | fuel + 1, s =>
    (codec.read s).bind fun read => (readItems codec fuel read.2).map fun items => read.1 :: items

theorem readItems_write {α : Type} (codec : Codec α) (nonempty : ∀ a, codec.write a ≠ [])
    {items : List α} {fuel : Nat} (enough : (items.flatMap codec.write).length ≤ fuel)
    (short : (items.flatMap codec.write).length < limit) :
    readItems codec fuel (items.flatMap codec.write) = some items := by
  induction items generalizing fuel with
  | nil => cases fuel <;> rfl
  | cons a items ih =>
    rw [List.flatMap_cons] at enough short ⊢
    rw [List.length_append] at enough short
    have positive := List.length_pos_iff.mpr (nonempty a)
    obtain ⟨fuel, rfl⟩ : ∃ less, fuel = less + 1 := ⟨fuel - 1, by omega⟩
    cases front : codec.write a ++ items.flatMap codec.write with
    | nil => exact absurd (List.append_eq_nil_iff.mp front).1 (nonempty a)
    | cons b s =>
      rw [readItems, ← front, codec.read_write a _ (by omega), Option.bind_some,
        ih (by omega) (by omega)]
      · rfl
      · exact List.cons_ne_nil b s

def packed {α : Type} (codec : Codec α) (nonempty : ∀ a, codec.write a ≠ [])
    (delimiter : Delimiter) : Codec (List α) where
  write items := delimiter.write (items.flatMap codec.write)
  size items := delimiter.sizeOf (items.flatMap codec.write).length
  read s := (delimiter.read s).bind fun read =>
    (readItems codec read.1.length read.1).map fun items => (items, read.2)
  length_write items short := by
    rw [delimiter.length_write _ short, delimiter.size_eq]
  read_write items rest short := by
    have inner := Nat.lt_of_le_of_lt (delimiter.contains _) short
    rw [delimiter.read_write _ rest short, Option.bind_some,
      readItems_write codec nonempty (Nat.le_refl _) inner]
    rfl
  read_le s items rest read := by
    obtain ⟨payload, framed, listed⟩ := Option.bind_eq_some_iff.mp read
    obtain ⟨items, _, same⟩ := Option.map_eq_some_iff.mp listed
    cases same
    exact delimiter.read_le _ _ _ framed

/-- Tags as varints. A payload that is skipped is a varint, of eight bytes, delimited or of
    four bytes, by the three lowest bits of its tag. -/
def varintTags : Tags where
  read s := (Varint.decode s).getD (0, s)
  skip tag s :=
    if tag % 8 = 0 then (Varint.decode s).map Prod.snd
    else if tag % 8 = 1 then (readLittleEndian 8 s).map Prod.snd
    else if tag % 8 = 2 then (delimited.read s).map Prod.snd
    else if tag % 8 = 5 then (readLittleEndian 4 s).map Prod.snd
    else none
  read_byte tag rest _ small := by rw [Varint.decode_byte small]; rfl
  read_lt b s nonzero := by
    cases decoded : Varint.decode (b :: s) with
    | none =>
      rw [decoded] at nonzero
      exact absurd rfl nonzero
    | some read => exact Nat.le_of_lt_succ (decode_length decoded)
  skip_le tag s rest skipped := by
    split at skipped
    · obtain ⟨read, decoded, rfl⟩ := Option.map_eq_some_iff.mp skipped
      exact Nat.le_of_lt (decode_length decoded)
    · split at skipped
      · obtain ⟨read, decoded, rfl⟩ := Option.map_eq_some_iff.mp skipped
        exact readLittleEndian_le decoded
      · split at skipped
        · obtain ⟨read, decoded, rfl⟩ := Option.map_eq_some_iff.mp skipped
          exact delimited.read_le _ _ _ decoded
        · split at skipped
          · obtain ⟨read, decoded, rfl⟩ := Option.map_eq_some_iff.mp skipped
            exact readLittleEndian_le decoded
          · contradiction

/-- A reader that sees all of its input guesses right. -/
def clearSight : Expect where
  tag n s := s.head? = some (BitVec.ofNat 8 n)
  atEnd s := s.isEmpty
  tag_sound _ _ guess := of_decide_eq_true guess
  atEnd_sound _ guess := List.isEmpty_iff.mp guess

end LaluneServer.TaggedFields
