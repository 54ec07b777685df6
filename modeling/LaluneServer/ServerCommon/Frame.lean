import LaluneServer.ServerCommon.HeaderEx

/- The frames between servers: length, type, error, length of the header extension,
   reserved bytes, the extension and the data. Lengths are 32 bit numbers. -/
namespace LaluneServer.ServerCommon

open NetLib

def msgHeaderBaseSize : Nat := 12

def msgLength (data : Bytes) : Nat := readUint32 data

def msgType (data : Bytes) : Nat := readUint32 (data.drop 4)

def msgHeaderExLen (data : Bytes) : Nat := (data.getD 9 0).toNat

def msgAfterHeaderBase (data : Bytes) : Bytes := data.drop msgHeaderBaseSize

def msgData (data : Bytes) : Bytes := data.drop (msgHeaderBaseSize + msgHeaderExLen data)

def msgDataLen (data : Bytes) : Nat :=
  (BitVec.ofNat 32 (msgLength data) - BitVec.ofNat 32 msgHeaderBaseSize -
    BitVec.ofNat 32 (msgHeaderExLen data)).toNat

def msgPayload (data : Bytes) : Bytes := (msgData data).take (msgDataLen data)

def parseHeaderEx (parser : HeaderExParser) (data : Bytes) : Option HeaderEx :=
  parser.parse ((msgAfterHeaderBase data).take (msgHeaderExLen data))

section
variable {Proto : Type*} (parser : HeaderExParser) (parseProto : Bytes → Option Proto)

def parseMsgEx (data : Bytes) : Option (HeaderEx × Proto) :=
  (parseHeaderEx parser data).bind (fun ex =>
    (parseProto (msgPayload data)).map (fun proto => (ex, proto)))

/-- A field that is not set reads as 0. -/
def parseMsgOpId (data : Bytes) : Option (BitVec 32 × Proto) :=
  (parseMsgEx parser parseProto data).map (fun msg => (msg.1.operationId.getD 0, msg.2))

end

/-- The twelve bytes at the front; the fourth field is one byte. -/
def msgHeader (len type exLen : Nat) : Bytes :=
  uint32Bytes len ++ (uint32Bytes type ++ [0, BitVec.ofNat 8 exLen, 0, 0])

def buildMsg (type : Nat) (ex : HeaderEx) (data : Bytes) : Bytes :=
  msgHeader (msgHeaderBaseSize + ex.serialize.length + data.length) type ex.serialize.length ++
    (ex.serialize ++ data)

def replyMsgEx (type : Nat) (ex : HeaderEx) (proto : Bytes) : Bytes := buildMsg type ex proto

def replyMsgOpId (type : Nat) (operationId : BitVec 32) (proto : Bytes) : Bytes :=
  replyMsgEx type { operationId := some operationId } proto

def Sendable (data : Bytes) : Prop := msgHeaderBaseSize + 24 + data.length < 2 ^ 31

instance (data : Bytes) : Decidable (Sendable data) :=
  inferInstanceAs (Decidable (msgHeaderBaseSize + 24 + data.length < 2 ^ 31))

section built
variable {type len exLen : Nat} {ex : HeaderEx} {data rest : Bytes}

@[simp] theorem msgHeader_length : (msgHeader len type exLen).length = msgHeaderBaseSize := rfl

theorem msgLength_header (small : len < 2 ^ 32) :
    msgLength (msgHeader len type exLen ++ rest) = len := by
  unfold msgLength
  rw [readUint32_append _ _ (by simp [msgHeaderBaseSize]), msgHeader,
    readUint32_append _ _ (by simp [uint32Bytes])]
  exact readUint32_uint32Bytes small

theorem msgType_header (small : type < 2 ^ 32) :
    msgType (msgHeader len type exLen ++ rest) = type := by
  have behind : (msgHeader len type exLen ++ rest).drop 4 =
      uint32Bytes type ++ ([0, BitVec.ofNat 8 exLen, 0, 0] ++ rest) := by
    simp [msgHeader, uint32Bytes]
  unfold msgType
  rw [behind, readUint32_append _ _ (by simp [uint32Bytes])]
  exact readUint32_uint32Bytes small

theorem msgHeaderExLen_header (small : exLen < 256) :
    msgHeaderExLen (msgHeader len type exLen ++ rest) = exLen := by
  have ninth : (msgHeader len type exLen ++ rest).getD 9 0 = BitVec.ofNat 8 exLen := by
    simp [msgHeader, uint32Bytes]
  unfold msgHeaderExLen
  rw [ninth, BitVec.toNat_ofNat]
  omega

theorem drop_header : (msgHeader len type exLen ++ rest).drop msgHeaderBaseSize = rest :=
  List.drop_left' msgHeader_length

theorem buildMsg_length :
    (buildMsg type ex data).length = msgHeaderBaseSize + ex.serialize.length + data.length := by
  simp only [buildMsg, List.length_append, msgHeader_length]
  omega

theorem msgLength_buildMsg (sendable : Sendable data) :
    msgLength (buildMsg type ex data) = (buildMsg type ex data).length := by
  have short := ex.serialize_length
  unfold Sendable at sendable
  rw [buildMsg_length]
  exact msgLength_header (by omega)

theorem msgType_buildMsg (small : type < 2 ^ 32) : msgType (buildMsg type ex data) = type :=
  msgType_header small

theorem msgHeaderExLen_buildMsg :
    msgHeaderExLen (buildMsg type ex data) = ex.serialize.length := by
  have short := ex.serialize_length
  exact msgHeaderExLen_header (by omega)

theorem msgDataLen_buildMsg (sendable : Sendable data) :
    msgDataLen (buildMsg type ex data) = data.length := by
  have short := ex.serialize_length
  unfold Sendable msgHeaderBaseSize at sendable
  unfold msgDataLen
  rw [msgLength_buildMsg sendable, buildMsg_length, msgHeaderExLen_buildMsg, msgHeaderBaseSize]
  bv_omega

theorem parseHeaderEx_buildMsg (parser : HeaderExParser) :
    parseHeaderEx parser (buildMsg type ex data) = some ex := by
  unfold parseHeaderEx
  rw [msgHeaderExLen_buildMsg, msgAfterHeaderBase, buildMsg, drop_header, List.take_left]
  exact parser.inverse ex

theorem msgData_buildMsg : msgData (buildMsg type ex data) = data := by
  unfold msgData
  rw [msgHeaderExLen_buildMsg, ← List.drop_drop, buildMsg, drop_header, List.drop_left]

theorem msgPayload_buildMsg (sendable : Sendable data) :
    msgPayload (buildMsg type ex data) = data := by
  unfold msgPayload
  rw [msgDataLen_buildMsg sendable, msgData_buildMsg, List.take_length]

theorem parseMsgOpId_buildMsg {Proto : Type*} (parser : HeaderExParser)
    (parseProto : Bytes → Option Proto) (sendable : Sendable data) :
    parseMsgOpId parser parseProto (buildMsg type ex data) =
      (parseProto data).map (fun proto => (ex.operationId.getD 0, proto)) := by
  unfold parseMsgOpId parseMsgEx
  rw [parseHeaderEx_buildMsg, msgPayload_buildMsg sendable, Option.bind_some, Option.map_map]
  rfl

end built

end LaluneServer.ServerCommon
