import LaluneServer.Lib.Varint
import LaluneServer.NetLib.Packet

/- The header extension of messages between servers, as the generated code writes it. -/
namespace LaluneServer.ServerCommon

open NetLib

structure HeaderEx where
  uid : Option (BitVec 32) := none
  gatewayId : Option (BitVec 32) := none
  operationId : Option (BitVec 32) := none
  flag : Option (BitVec 32) := none
  deriving DecidableEq, Repr

def fieldTag (field : Nat) : BitVec 8 := BitVec.ofNat 8 (8 * field)

/-- `WriteUInt32ToArray`, with the field left out when it is not set. -/
def writeUInt32 (field : Nat) : Option (BitVec 32) → Bytes
  | none => []
  | some value => fieldTag field :: Varint.encode 4 value.toNat

namespace HeaderEx

def serialize (ex : HeaderEx) : Bytes :=
  writeUInt32 1 ex.uid ++ (writeUInt32 2 ex.gatewayId ++
    (writeUInt32 3 ex.operationId ++ writeUInt32 4 ex.flag))

end HeaderEx

theorem writeUInt32_length (field : Nat) (value : Option (BitVec 32)) :
    (writeUInt32 field value).length ≤ 6 := by
  cases value with
  | none => exact Nat.zero_le 6
  | some value =>
    have := Varint.encode_length 4 value.toNat
    simp only [writeUInt32, List.length_cons]
    omega

theorem HeaderEx.serialize_length (ex : HeaderEx) : ex.serialize.length ≤ 24 := by
  have uid := writeUInt32_length 1 ex.uid
  have gatewayId := writeUInt32_length 2 ex.gatewayId
  have operationId := writeUInt32_length 3 ex.operationId
  have flag := writeUInt32_length 4 ex.flag
  simp only [HeaderEx.serialize, List.length_append]
  omega

/-- A parser of the protobuf library: what it does with other bytes than a serialized
    header is left open. -/
structure HeaderExParser where
  parse : Bytes → Option HeaderEx
  inverse : ∀ ex : HeaderEx, parse ex.serialize = some ex

def readUInt32 (field : Nat) (data : Bytes) : Option (Option (BitVec 32) × Bytes) :=
  if data.head? = some (fieldTag field) then
    (Varint.decode data.tail).map (fun read => (some (BitVec.ofNat 32 read.1), read.2))
  else some (none, data)

theorem readUInt32_some (field : Nat) (value : BitVec 32) (rest : Bytes) :
    readUInt32 field (writeUInt32 field (some value) ++ rest) = some (some value, rest) := by
  have bound : value.toNat < 128 ^ (4 + 1) := by
    have := value.isLt
    omega
  simp [readUInt32, writeUInt32, Varint.decode_encode bound rest]

theorem readUInt32_none {field : Nat} {rest : Bytes} (other : rest.head? ≠ some (fieldTag field)) :
    readUInt32 field rest = some (none, rest) := by
  rw [readUInt32, if_neg other]

theorem readUInt32_write (field : Nat) (value : Option (BitVec 32)) {rest : Bytes}
    (other : rest.head? ≠ some (fieldTag field)) :
    readUInt32 field (writeUInt32 field value ++ rest) = some (value, rest) := by
  cases value with
  | none => exact readUInt32_none other
  | some value => exact readUInt32_some field value rest

theorem head_writeUInt32 (field : Nat) (value : Option (BitVec 32)) {rest : Bytes}
    {tag : BitVec 8} (own : fieldTag field ≠ tag) (later : rest.head? ≠ some tag) :
    (writeUInt32 field value ++ rest).head? ≠ some tag := by
  cases value with
  | none => exact later
  | some value =>
    intro same
    exact own (Option.some_inj.mp same)

def readHeaderEx (data : Bytes) : Option HeaderEx :=
  (readUInt32 1 data).bind fun uid =>
  (readUInt32 2 uid.2).bind fun gatewayId =>
  (readUInt32 3 gatewayId.2).bind fun operationId =>
  (readUInt32 4 operationId.2).bind fun flag =>
  if flag.2 = [] then some ⟨uid.1, gatewayId.1, operationId.1, flag.1⟩ else none

theorem readHeaderEx_serialize (ex : HeaderEx) : readHeaderEx ex.serialize = some ex := by
  have ended (tag : BitVec 8) : ([] : Bytes).head? ≠ some tag := by simp
  have flag (tag : BitVec 8) (apart : fieldTag 4 ≠ tag) :
      (writeUInt32 4 ex.flag).head? ≠ some tag := by
    simpa using head_writeUInt32 4 ex.flag apart (ended tag)
  have last := readUInt32_write 4 ex.flag (ended (fieldTag 4))
  rw [List.append_nil] at last
  unfold readHeaderEx HeaderEx.serialize
  rw [readUInt32_write 1 ex.uid (head_writeUInt32 2 _ (by decide)
      (head_writeUInt32 3 _ (by decide) (flag _ (by decide)))), Option.bind_some,
    readUInt32_write 2 ex.gatewayId (head_writeUInt32 3 _ (by decide) (flag _ (by decide))),
    Option.bind_some, readUInt32_write 3 ex.operationId (flag _ (by decide)), Option.bind_some,
    last]
  rfl

def straightParser : HeaderExParser := ⟨readHeaderEx, readHeaderEx_serialize⟩

end LaluneServer.ServerCommon
