import LaluneServer.Lib.WireCodecs
import LaluneServer.ServerCommon.CommonLib
import LaluneServer.ServerCommon.FrameBounds

/- The frames between the control server and the servers: SendMsg and ReplyMsg put a message
   behind the header, the two RecvFinishHandlers take it apart by its type. -/
namespace LaluneServer.ServerCommon
open TaggedFields
open NetLib (uint32Bytes readUint32)
open Control (Hello AddressInfo)

structure MessageTypes where
  controlServerInitialize : Nat
  sayHello : Nat
  cmd2Server : Nat
  refreshConfig : Nat
  fetchConfigRequest : Nat
  controlServerCmd : Nat
  sayHelloResult : Nat
  addrInfoRefresh : Nat
  addrInfoAdd : Nat
  addrInfoRemove : Nat
  addrInfoRestart : Nat
  refreshConfigResponse : Nat
  fetchConfigResponse : Nat
  controlServerCmdResult : Nat
  requestsApart : [controlServerInitialize, sayHello, cmd2Server, refreshConfig,
    fetchConfigRequest, controlServerCmd].Nodup
  noticesApart : [sayHelloResult, addrInfoRefresh, addrInfoAdd, addrInfoRemove, addrInfoRestart,
    cmd2Server, refreshConfig, refreshConfigResponse, fetchConfigResponse,
    controlServerCmdResult].Nodup
  small : ∀ type ∈ [controlServerInitialize, sayHello, cmd2Server, refreshConfig,
    fetchConfigRequest, controlServerCmd, sayHelloResult, addrInfoRefresh, addrInfoAdd,
    addrInfoRemove, addrInfoRestart, refreshConfigResponse, fetchConfigResponse,
    controlServerCmdResult], type < 2 ^ 32

inductive Request where
  | toInitialize (m : Initialize)
  | sayHello (m : Hello)
  | cmd2Server (m : Cmd2Server)
  | refreshConfig (m : RefreshConfig)
  | fetchConfig (m : FetchConfigRequest)
  | command (m : Command)
  deriving DecidableEq, Repr

inductive Notice where
  | helloResult (m : HelloResult)
  | addrInfoRefresh (m : AddressList)
  | addrInfoAdd (m : AddressInfo)
  | addrInfoRemove (m : AddressInfo)
  | addrInfoRestart (m : ServerId)
  | cmd2Server (m : Cmd2Server)
  | refreshConfig (m : RefreshConfig)
  | refreshConfigResponse
  | fetchConfigResponse (m : ConfigFile)
  | commandResult (m : CommandResult)
  deriving DecidableEq, Repr

/-- What a server finds in a notice. The payload of a restart is not read. -/
inductive Arrival where
  | read (notice : Notice)
  | restarted
  deriving DecidableEq, Repr

def Notice.arrival : Notice → Arrival
  | .addrInfoRestart _ => .restarted
  | notice => .read notice

structure Body where
  {M : Type}
  message : Message M
  value : M

def emptyMessage : Message Unit where
  empty := ()
  fields := []
  tagsFine := by simp
  tagsApart := by simp
  commute := by simp
  needed := by simp
  rebuild _ := rfl

def frameOf (type size : Nat) (payload : Bytes) : Bytes :=
  msgHeader (msgHeaderBaseSize + size) type 0 ++ payload

def Body.frame (body : Body) (type : Nat) : Bytes :=
  frameOf type (body.message.byteSize body.value) (body.message.serialize body.value)

section
variable (wire : WireFormat) (types : MessageTypes)

def Request.type : Request → Nat
  | .toInitialize _ => types.controlServerInitialize
  | .sayHello _ => types.sayHello
  | .cmd2Server _ => types.cmd2Server
  | .refreshConfig _ => types.refreshConfig
  | .fetchConfig _ => types.fetchConfigRequest
  | .command _ => types.controlServerCmd

def Request.body : Request → Body
  | .toInitialize m => ⟨initializeMessage wire, m⟩
  | .sayHello m => ⟨helloMessage wire, m⟩
  | .cmd2Server m => ⟨cmd2ServerMessage wire, m⟩
  | .refreshConfig m => ⟨refreshConfigMessage wire, m⟩
  | .fetchConfig m => ⟨fetchConfigRequestMessage wire, m⟩
  | .command m => ⟨commandMessage wire, m⟩

def Notice.type : Notice → Nat
  | .helloResult _ => types.sayHelloResult
  | .addrInfoRefresh _ => types.addrInfoRefresh
  | .addrInfoAdd _ => types.addrInfoAdd
  | .addrInfoRemove _ => types.addrInfoRemove
  | .addrInfoRestart _ => types.addrInfoRestart
  | .cmd2Server _ => types.cmd2Server
  | .refreshConfig _ => types.refreshConfig
  | .refreshConfigResponse => types.refreshConfigResponse
  | .fetchConfigResponse _ => types.fetchConfigResponse
  | .commandResult _ => types.controlServerCmdResult

def Notice.body : Notice → Body
  | .helloResult m => ⟨helloResultMessage wire, m⟩
  | .addrInfoRefresh m => ⟨addressListMessage wire, m⟩
  | .addrInfoAdd m => ⟨addressInfoMessage wire, m⟩
  | .addrInfoRemove m => ⟨addressInfoMessage wire, m⟩
  | .addrInfoRestart m => ⟨serverIdMessage wire, m⟩
  | .cmd2Server m => ⟨cmd2ServerMessage wire, m⟩
  | .refreshConfig m => ⟨refreshConfigMessage wire, m⟩
  | .refreshConfigResponse => ⟨emptyMessage, ()⟩
  | .fetchConfigResponse m => ⟨configFileMessage wire, m⟩
  | .commandResult m => ⟨commandResultMessage wire, m⟩

def Request.frame (request : Request) : Bytes := (request.body wire).frame (request.type types)

def Notice.frame (notice : Notice) : Bytes := (notice.body wire).frame (notice.type types)

def parseMsg {M : Type} (message : Message M) (data : Bytes) : Option M :=
  (Checked.parseMsg (message.jumpParse wire.tags wire.expect) data).join

/-- The switch of ControlServerSessionDelegate::RecvFinishHandler; REPORT_LOAD is not read. -/
def recvRequest (data : Bytes) : Option Request :=
  if msgLength data < msgHeaderBaseSize then none
  else if msgType data = types.controlServerInitialize then
    (parseMsg wire (initializeMessage wire) data).map .toInitialize
  else if msgType data = types.sayHello then
    (parseMsg wire (helloMessage wire) data).map .sayHello
  else if msgType data = types.cmd2Server then
    (parseMsg wire (cmd2ServerMessage wire) data).map .cmd2Server
  else if msgType data = types.refreshConfig then
    (parseMsg wire (refreshConfigMessage wire) data).map .refreshConfig
  else if msgType data = types.fetchConfigRequest then
    (parseMsg wire (fetchConfigRequestMessage wire) data).map .fetchConfig
  else if msgType data = types.controlServerCmd then
    (parseMsg wire (commandMessage wire) data).map .command
  else none

/-- The switch of Conn2ControlServerDelegate::RecvFinishHandler and, from the response types on,
    those of the background programs behind onReceiveOtherDataFromControlServer. -/
def recvNotice (data : Bytes) : Option Arrival :=
  let read {M : Type} (message : Message M) (notice : M → Notice) : Option Arrival :=
    (parseMsg wire message data).map fun m => .read (notice m)
  if msgLength data < msgHeaderBaseSize then none
  else if msgType data = types.sayHelloResult then read (helloResultMessage wire) .helloResult
  else if msgType data = types.addrInfoRefresh then
    read (addressListMessage wire) .addrInfoRefresh
  else if msgType data = types.addrInfoAdd then read (addressInfoMessage wire) .addrInfoAdd
  else if msgType data = types.addrInfoRemove then
    read (addressInfoMessage wire) .addrInfoRemove
  else if msgType data = types.addrInfoRestart then some .restarted
  else if msgType data = types.cmd2Server then read (cmd2ServerMessage wire) .cmd2Server
  else if msgType data = types.refreshConfig then read (refreshConfigMessage wire) .refreshConfig
  else if msgType data = types.refreshConfigResponse then some (.read .refreshConfigResponse)
  else if msgType data = types.fetchConfigResponse then
    read (configFileMessage wire) .fetchConfigResponse
  else if msgType data = types.controlServerCmdResult then
    read (commandResultMessage wire) .commandResult
  else none

end

section frames
variable {wire : WireFormat} {types : MessageTypes} {payload : Bytes}

theorem length_frameOf (type size : Nat) (payload : Bytes) :
    (frameOf type size payload).length = msgHeaderBaseSize + payload.length := by
  rw [frameOf, List.length_append, msgHeader_length]

theorem parseMsg_frameOf (type : Nat) {M : Type} (message : Message M)
    (short : msgHeaderBaseSize + payload.length < limit) :
    parseMsg wire message (frameOf type payload.length payload) =
      message.jumpParse wire.tags wire.expect payload := by
  have header : (frameOf type payload.length payload).drop msgHeaderBaseSize = payload :=
    drop_header
  have field : msgLength (frameOf type payload.length payload) =
      msgHeaderBaseSize + payload.length :=
    msgLength_header (Nat.lt_trans short (by decide))
  have length := length_frameOf type payload.length payload
  have complete : ServerFrame (frameOf type payload.length payload) :=
    ⟨field.trans length.symm, by rw [length]; exact Nat.le_add_right _ _⟩
  unfold limit msgHeaderBaseSize at short
  have size : (BitVec.ofNat 32 (msgHeaderBaseSize + payload.length) -
      BitVec.ofNat 32 msgHeaderBaseSize).toNat = payload.length := by
    unfold msgHeaderBaseSize
    bv_omega
  unfold parseMsg Checked.parseMsg
  rw [complete.checkedLength, Option.bind_some, length,
    parseFromArray_nat _ (by omega) (by rw [size, length]), size, header, List.take_length]
  rfl

theorem msgLength_frameOf (type : Nat) {size : Nat} (payload : Bytes)
    (short : msgHeaderBaseSize + size < limit) :
    msgLength (frameOf type size payload) = msgHeaderBaseSize + size :=
  msgLength_header (Nat.lt_trans short (by decide))

theorem Request.type_small (request : Request) : request.type types < 2 ^ 32 := by
  refine types.small _ ?_
  cases request <;> simp [Request.type]

theorem Notice.type_small (notice : Notice) : notice.type types < 2 ^ 32 := by
  refine types.small _ ?_
  cases notice <;> simp [Notice.type]

theorem recvRequest_payload (request : Request)
    (short : msgHeaderBaseSize + payload.length < limit)
    (parsed : (request.body wire).message.jumpParse wire.tags wire.expect payload =
      some (request.body wire).value) :
    recvRequest wire types (frameOf (request.type types) payload.length payload) =
      some request := by
  have length := msgLength_frameOf (request.type types) payload short
  have type : msgType (frameOf (request.type types) payload.length payload) =
      request.type types := msgType_header request.type_small
  have read := (parseMsg_frameOf (request.type types) (request.body wire).message short).trans parsed
  have apart := List.nodup_reverse.mpr types.requestsApart
  simp only [List.reverse_cons, List.reverse_nil, List.nil_append, List.cons_append,
    List.nodup_cons, List.mem_cons, List.not_mem_nil, not_or] at apart
  unfold recvRequest
  rw [if_neg (by omega), type]
  cases request with
  | toInitialize m => simp only [Request.type, Request.body] at read ⊢; simp [read]
  | sayHello m => simp only [Request.type, Request.body] at read ⊢; simp [read, apart]
  | cmd2Server m => simp only [Request.type, Request.body] at read ⊢; simp [read, apart]
  | refreshConfig m => simp only [Request.type, Request.body] at read ⊢; simp [read, apart]
  | fetchConfig m => simp only [Request.type, Request.body] at read ⊢; simp [read, apart]
  | command m => simp only [Request.type, Request.body] at read ⊢; simp [read, apart]

theorem recvNotice_payload (notice : Notice)
    (short : msgHeaderBaseSize + payload.length < limit)
    (parsed : (notice.body wire).message.jumpParse wire.tags wire.expect payload =
      some (notice.body wire).value) :
    recvNotice wire types (frameOf (notice.type types) payload.length payload) =
      some notice.arrival := by
  have length := msgLength_frameOf (notice.type types) payload short
  have type : msgType (frameOf (notice.type types) payload.length payload) =
      notice.type types := msgType_header notice.type_small
  have read := (parseMsg_frameOf (notice.type types) (notice.body wire).message short).trans parsed
  have apart := List.nodup_reverse.mpr types.noticesApart
  simp only [List.reverse_cons, List.reverse_nil, List.nil_append, List.cons_append,
    List.nodup_cons, List.mem_cons, List.not_mem_nil, not_or] at apart
  unfold recvNotice
  dsimp only
  rw [if_neg (by omega), type]
  cases notice <;> simp only [Notice.type, Notice.body] at read ⊢ <;>
    simp [read, apart, Notice.arrival]

def Body.bytes (body : Body) : Bytes := body.message.serialize body.value

def Body.allocated (body : Body) : Nat := msgHeaderBaseSize + body.message.byteSize body.value

theorem Body.frame_eq {body : Body} (short : msgHeaderBaseSize + body.bytes.length < limit)
    (type : Nat) : body.frame type = frameOf type body.bytes.length body.bytes ∧
      body.allocated = msgHeaderBaseSize + body.bytes.length := by
  have size : body.bytes.length = body.message.byteSize body.value :=
    body.message.length_serialize (by unfold bytes at short; omega)
  exact ⟨by rw [frame, ← size]; rfl, by rw [allocated, ← size]⟩

structure Body.Filled (body : Body) (type : Nat) : Prop where
  filled : (body.frame type).length = body.allocated
  length : msgLength (body.frame type) = (body.frame type).length

theorem Body.filled {body : Body} (short : msgHeaderBaseSize + body.bytes.length < limit)
    (type : Nat) : body.Filled type := by
  obtain ⟨same, allocated⟩ := Body.frame_eq short type
  have length := length_frameOf type body.bytes.length body.bytes
  refine ⟨?_, ?_⟩
  · rw [same, length, allocated]
  · rw [same, length]
    exact msgLength_frameOf type body.bytes short

end frames

/-- Every message between the control server and the servers arrives as it was sent, in a
    buffer of its size. -/
theorem control_messages_round_trip (wire : WireFormat) (types : MessageTypes) :
    (∀ request : Request, msgHeaderBaseSize + (request.body wire).bytes.length < limit →
      recvRequest wire types (request.frame wire types) = some request ∧
        (request.body wire).Filled (request.type types)) ∧
    ∀ notice : Notice, msgHeaderBaseSize + (notice.body wire).bytes.length < limit →
      recvNotice wire types (notice.frame wire types) = some notice.arrival ∧
        (notice.body wire).Filled (notice.type types) := by
  refine ⟨fun request short => ⟨?_, Body.filled short _⟩,
    fun notice short => ⟨?_, Body.filled short _⟩⟩
  · rw [Request.frame, (Body.frame_eq short _).1]
    exact recvRequest_payload request short
      (Message.jumpParse_serialize _ _ _ (Nat.lt_of_le_of_lt (Nat.le_add_left _ _) short))
  · rw [Notice.frame, (Body.frame_eq short _).1]
    exact recvNotice_payload notice short
      (Message.jumpParse_serialize _ _ _ (Nat.lt_of_le_of_lt (Nat.le_add_left _ _) short))

theorem encode_ne_nil (k n : Nat) : Varint.encode k n ≠ [] := by
  cases k with
  | zero => exact List.cons_ne_nil _ _
  | succ k =>
    unfold Varint.encode
    split
    · exact List.cons_ne_nil _ _
    · exact List.cons_ne_nil _ _

def protobufWire : WireFormat where
  tags := varintTags
  expect := clearSight
  uint32 := varint 32 4 (by decide)
  fixed32 := fixed 32 4 (by decide)
  packedUint32 := packed (varint 32 4 (by decide)) (fun v => encode_ne_nil 4 v.toNat) delimited
  string := delimited
  message := delimited

def numberedTypes : MessageTypes where
  controlServerInitialize := 1
  sayHello := 2
  cmd2Server := 3
  refreshConfig := 4
  fetchConfigRequest := 5
  controlServerCmd := 6
  sayHelloResult := 7
  addrInfoRefresh := 8
  addrInfoAdd := 9
  addrInfoRemove := 10
  addrInfoRestart := 11
  refreshConfigResponse := 12
  fetchConfigResponse := 13
  controlServerCmdResult := 14
  requestsApart := by decide
  noticesApart := by decide
  small := by decide

def newConfig : RefreshConfig := ⟨some 300, [⟨[97], [1, 2]⟩]⟩

theorem newConfig_round_trip :
    recvRequest protobufWire numberedTypes
        ((Request.refreshConfig newConfig).frame protobufWire numberedTypes) =
      some (.refreshConfig newConfig) ∧
    recvNotice protobufWire numberedTypes
        ((Notice.refreshConfig newConfig).frame protobufWire numberedTypes) =
      some (.read (.refreshConfig newConfig)) :=
  ⟨((control_messages_round_trip protobufWire numberedTypes).1 (.refreshConfig newConfig)
      (by decide)).1,
    ((control_messages_round_trip protobufWire numberedTypes).2 (.refreshConfig newConfig)
      (by decide)).1⟩

/-- The fields of a message may come in any order, with tags between them that the reader
    does not know. -/
theorem control_messages_any_order (wire : WireFormat) (types : MessageTypes) :
    (∀ (request : Request) chunks,
      (request.body wire).message.Streams wire.tags (request.body wire).value chunks →
      msgHeaderBaseSize + (chunks.flatMap Chunk.bytes).length < limit →
      recvRequest wire types (frameOf (request.type types) (chunks.flatMap Chunk.bytes).length
        (chunks.flatMap Chunk.bytes)) = some request) ∧
    ∀ (notice : Notice) chunks,
      (notice.body wire).message.Streams wire.tags (notice.body wire).value chunks →
      msgHeaderBaseSize + (chunks.flatMap Chunk.bytes).length < limit →
      recvNotice wire types (frameOf (notice.type types) (chunks.flatMap Chunk.bytes).length
        (chunks.flatMap Chunk.bytes)) = some notice.arrival := by
  refine ⟨fun request chunks streams short => recvRequest_payload request short ?_,
    fun notice chunks streams short => recvNotice_payload notice short ?_⟩
  · rw [Message.jumpParse_eq]
    exact Message.parse_streams _ streams
  · rw [Message.jumpParse_eq]
    exact Message.parse_streams _ streams

def reversedHello : List (Chunk Hello) :=
  .unknown 40 [40] [129, 1] :: ((helloMessage protobufWire).chunks ⟨80, 3, 1⟩).reverse

theorem reversedHello_streams :
    (helloMessage protobufWire).Streams protobufWire.tags ⟨80, 3, 1⟩ reversedHello := by
  refine ⟨fun chunk member => ?_, fun f field => ?_⟩
  · rcases List.mem_cons.mp member with rfl | known
    · exact ⟨List.cons_ne_nil _ _, rfl, by decide, fun rest => rfl, fun rest => rfl⟩
    · exact (helloMessage protobufWire).readable_chunks (by decide) chunk
        (List.mem_reverse.mp known)
  · rcases List.mem_cons.mp field with rfl | field
    · rfl
    · rcases List.mem_cons.mp field with rfl | field
      · rfl
      · obtain rfl := List.mem_singleton.mp field
        rfl

theorem reversedHello_arrives :
    recvRequest protobufWire numberedTypes
      (frameOf 2 (reversedHello.flatMap Chunk.bytes).length
        (reversedHello.flatMap Chunk.bytes)) = some (.sayHello ⟨80, 3, 1⟩) :=
  (control_messages_any_order protobufWire numberedTypes).1 (.sayHello ⟨80, 3, 1⟩) reversedHello
    reversedHello_streams (by decide)

section guesses
variable (wire : WireFormat) (expect : Expect)

theorem addressListMessage_expect :
    addressListMessage (wire.withExpect expect) = addressListMessage wire := by
  unfold addressListMessage
  have entry : (addressInfoMessage (wire.withExpect expect)).embedded
      (wire.withExpect expect).tags (wire.withExpect expect).expect
      (wire.withExpect expect).message =
      (addressInfoMessage wire).embedded wire.tags wire.expect wire.message :=
    Message.embedded_expect _ _ _ _ _
  simp only [entry]

theorem refreshConfigMessage_expect :
    refreshConfigMessage (wire.withExpect expect) = refreshConfigMessage wire := by
  unfold refreshConfigMessage
  have entry : (configFileMessage (wire.withExpect expect)).embedded
      (wire.withExpect expect).tags (wire.withExpect expect).expect
      (wire.withExpect expect).message =
      (configFileMessage wire).embedded wire.tags wire.expect wire.message :=
    Message.embedded_expect _ _ _ _ _
  simp only [entry]
  rfl

theorem parseMsg_expect {M : Type} {message other : Message M} (same : other = message)
    (data : Bytes) :
    parseMsg (wire.withExpect expect) other data = parseMsg wire message data := by
  subst same
  unfold parseMsg
  congr 2
  funext payload
  rw [Message.jumpParse_eq, Message.jumpParse_eq]
  rfl

/-- The jumps of the generated readers never change what is read. -/
theorem control_messages_without_guesses (types : MessageTypes) (data : Bytes) :
    recvRequest (wire.withExpect expect) types data = recvRequest wire types data ∧
      recvNotice (wire.withExpect expect) types data = recvNotice wire types data := by
  have plain {M : Type} (message : WireFormat → Message M)
      (same : message (wire.withExpect expect) = message wire) :
      parseMsg (wire.withExpect expect) (message (wire.withExpect expect)) data =
        parseMsg wire (message wire) data := parseMsg_expect wire expect same data
  constructor
  · unfold recvRequest
    rw [plain initializeMessage rfl, plain helloMessage rfl, plain cmd2ServerMessage rfl,
      plain refreshConfigMessage (refreshConfigMessage_expect wire expect),
      plain fetchConfigRequestMessage rfl, plain commandMessage rfl]
  · unfold recvNotice
    simp only [plain helloResultMessage rfl, plain addressInfoMessage rfl,
      plain addressListMessage (addressListMessage_expect wire expect),
      plain cmd2ServerMessage rfl,
      plain refreshConfigMessage (refreshConfigMessage_expect wire expect),
      plain configFileMessage rfl, plain commandResultMessage rfl]

end guesses

end LaluneServer.ServerCommon
