import LaluneServer.Gateway.Gateway

/- What becomes of the frames on their way through the gateway. -/
namespace LaluneServer.Gateway

open Std (TreeMap)
open NetLib ServerCommon GatewayServer

/-- A complete frame as NetLib hands it over; its length leaves room for the header
    extension in an int. -/
structure UserFrame (data : Bytes) : Prop where
  complete : msgLength data = data.length
  header : msgHeaderBaseSize ≤ data.length
  sendable : Sendable (data.drop msgHeaderBaseSize)

section
variable {data : Bytes} {types : ServerTypes} {g : GatewayServer} {session : Session}
variable {registry : NetLibPlus.Registry} {serverId : Int}

theorem UserFrame.payload (frame : UserFrame data) :
    userPayload data = data.drop msgHeaderBaseSize := by
  obtain ⟨complete, header, sendable⟩ := frame
  unfold Sendable at sendable
  rw [List.length_drop] at sendable
  have length : userDataLen data = data.length - msgHeaderBaseSize := by
    unfold userDataLen
    rw [complete]
    unfold msgHeaderBaseSize at *
    bv_omega
  unfold userPayload
  rw [length, ← List.length_drop, List.take_length]

theorem msgType_lt (data : Bytes) : msgType data < 2 ^ 32 := readUint32_lt _

structure Decodes (parser : HeaderExParser) (frame : Bytes) (ex : HeaderEx) (type : Nat)
    (payload : Bytes) : Prop where
  length : msgLength frame = frame.length
  type : msgType frame = type
  header : parseHeaderEx parser frame = some ex
  message : ∀ {Proto : Type} (parseProto : Bytes → Option Proto),
    parseMsgOpId parser parseProto frame =
      (parseProto payload).map (fun proto => (ex.operationId.getD 0, proto))

theorem forwardFrame_decodes (frame : UserFrame data) (parser : HeaderExParser) (ex : HeaderEx) :
    Decodes parser (forwardFrame ex data) ex (msgType data) (data.drop msgHeaderBaseSize) := by
  unfold forwardFrame
  rw [frame.payload]
  exact ⟨msgLength_buildMsg frame.sendable, msgType_buildMsg (msgType_lt data),
    parseHeaderEx_buildMsg parser, fun parseProto =>
      parseMsgOpId_buildMsg parser parseProto frame.sendable⟩

theorem forward_frame {sent : Forward}
    (forwarded : (g.recvFinishHandler types registry session data).forward = some sent) :
    sent.frame = forwardFrame sent.header data := by
  unfold recvFinishHandler at forwarded
  split at forwarded
  · contradiction
  · split at forwarded
    · contradiction
    · split at forwarded
      · contradiction
      · split at forwarded
        · cases forwarded
          rfl
        · unfold forwardAfterLogin at forwarded
          dsimp only at forwarded
          split at forwarded
          · contradiction
          · cases forwarded
            rfl

structure UserSees (frame : Bytes) (type : Nat) (payload : Bytes) : Prop where
  type : msgType frame = type
  length : msgLength frame = msgHeaderBaseSize + payload.length
  complete : frame.length = msgHeaderBaseSize + payload.length
  payload : frame.drop msgHeaderBaseSize = payload

theorem userReplyFrame_sees {type : Nat} {proto : Bytes} (ex : HeaderEx) (small : type < 2 ^ 32)
    (sendable : Sendable proto) :
    UserSees (userReplyFrame (replyMsgEx type ex proto)) type proto := by
  unfold userReplyFrame replyMsgEx
  rw [msgPayload_buildMsg sendable, msgType_buildMsg small]
  refine ⟨msgType_header small, msgLength_header ?_, ?_, drop_header⟩
  · unfold Sendable at sendable
    omega
  · rw [List.length_append, msgHeader_length]

theorem recvReply_replyMsgEx (parser : HeaderExParser) {type : Nat} {proto : Bytes}
    (ex : HeaderEx) (sendable : Sendable proto) :
    recvReply parser g (replyMsgEx type ex proto) =
      (addressee ex).bind (fun id => (g.getSessionById id).map
        (fun session => (session, userReplyFrame (replyMsgEx type ex proto)))) := by
  have long : ¬msgLength (replyMsgEx type ex proto) < msgHeaderBaseSize := by
    rw [replyMsgEx, msgLength_buildMsg sendable, buildMsg_length]
    omega
  rw [recvReply, if_neg long, replyMsgEx, parseHeaderEx_buildMsg, Option.bind_some]

theorem forward_beforeLogin (frame : UserFrame data)
    (forwarded : types.notForwarded (serverType types data) = false)
    (before : types.beforeLogin (serverType types data) = true)
    (known : backEnd registry (serverType types data) = some serverId) {t : BitVec 32}
    (attached : g.getAttachedData session = t.toInt) (given : t ≠ 0) :
    (g.recvFinishHandler types registry session data).forward =
      some (send session t.toInt serverId { operationId := some t } data) := by
  have long : ¬msgLength data < msgHeaderBaseSize := by
    rw [frame.complete]
    exact Nat.not_lt.mpr frame.header
  have nonzero : t.toInt ≠ 0 := by
    intro zero
    exact given (BitVec.eq_of_toInt_eq (by rw [zero]; rfl))
  unfold recvFinishHandler
  rw [if_neg long, forwarded, known]
  simp only [Bool.false_eq_true, if_false, before, if_true, forwardBeforeLogin, attachTmpUserId,
    attached, if_neg nonzero, BitVec.ofInt_toInt]

end

/-- Requests and replies pass through the gateway with their type and their data. -/
theorem frames_pass_unchanged (types : ServerTypes) (parser : HeaderExParser)
    (g : GatewayServer) (t : BitVec 32) :
    (∀ data, UserFrame data →
      Decodes parser (forwardFrame { operationId := some t } data) { operationId := some t }
        (msgType data) (data.drop msgHeaderBaseSize)) ∧
    (∀ registry session serverId data, UserFrame data →
      types.notForwarded (serverType types data) = false →
      types.beforeLogin (serverType types data) = true →
      backEnd registry (serverType types data) = some serverId →
      g.getAttachedData session = t.toInt → t ≠ 0 →
      (g.recvFinishHandler types registry session data).forward =
        some ⟨session, t.toInt, serverId, { operationId := some t },
          forwardFrame { operationId := some t } data⟩) ∧
    (∀ registry session data sent, UserFrame data →
      (g.recvFinishHandler types registry session data).forward = some sent →
      Decodes parser sent.frame sent.header (msgType data) (data.drop msgHeaderBaseSize)) ∧
    ∀ type proto session, type < 2 ^ 32 → Sendable proto →
      g.getSessionById (-t.toInt) = some session →
      ∃ frame, recvReply parser g (replyMsgOpId type t proto) = some (session, frame) ∧
        UserSees frame type proto := by
  refine ⟨?_, ?_, ?_, ?_⟩
  · intro data frame
    exact forwardFrame_decodes frame parser _
  · intro registry session serverId data frame forwarded before known attached given
    exact forward_beforeLogin frame forwarded before known attached given
  · intro registry session data sent frame forwarded
    rw [forward_frame forwarded]
    exact forwardFrame_decodes frame parser _
  · intro type proto session small sendable found
    refine ⟨_, ?_, userReplyFrame_sees { operationId := some t } small sendable⟩
    unfold replyMsgOpId
    rw [recvReply_replyMsgEx parser { operationId := some t } sendable]
    simp only [addressee, Option.map_some, Option.bind_some, found]

section examples

def exampleTypes : ServerTypes :=
  { msgTypeSpan := 10000, gatewayServer := 1, versionServer := 2, accountServer := 3
    basicInfoServer := 4, leagueServer := 5, asyncBattleServer := 6, autoMatchServer := 7 }

def versionFrame : Bytes := msgHeader 13 20001 0 ++ [7]

def attachedGateway : GatewayServer :=
  { user2session := (∅ : TreeMap Int Session).insert (-300) 1
    attachedData := (∅ : TreeMap Session Int).insert 1 300 }

theorem versionFrame_isUserFrame : UserFrame versionFrame :=
  ⟨by decide +kernel, by decide +kernel, by decide +kernel⟩

theorem version_request_and_reply :
    Decodes straightParser (forwardFrame { operationId := some 300 } versionFrame)
        { operationId := some 300 } 20001 [7] ∧
      ∃ frame, recvReply straightParser attachedGateway (replyMsgOpId 20002 300 [8, 9]) =
          some (1, frame) ∧ UserSees frame 20002 [8, 9] := by
  obtain ⟨request, _, _, reply⟩ :=
    frames_pass_unchanged exampleTypes straightParser attachedGateway 300
  exact ⟨request versionFrame versionFrame_isUserFrame,
    reply 20002 [8, 9] 1 (by decide) (by decide) (by decide +kernel)⟩

end examples

end LaluneServer.Gateway
