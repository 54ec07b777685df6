import LaluneServer.Gateway.Gateway
import LaluneServer.ServerCommon.FrameBounds

/- The bounds of a frame between servers on all the ways on which it is parsed, the reply
   path of the gateway included. -/
namespace LaluneServer.Gateway

open NetLib ServerCommon BufferRead

namespace Checked
variable (parser : HeaderExParser) (gateway : GatewayServer) (data : Bytes)

/-- memcpy takes the uint32_t length as it is. -/
def userReplyFrame : Option Bytes :=
  (ServerCommon.Checked.msgDataLen data).bind fun dataLen =>
  (ServerCommon.Checked.msgType data).bind fun type =>
  (ServerCommon.Checked.msgHeaderExLen data).bind fun exLen =>
  (readRange data (msgHeaderBaseSize + exLen.toNat) dataLen.toNat).map fun payload =>
    msgHeader (msgHeaderBaseSize + dataLen.toNat) type 0 ++ payload

def recvReply : Option (Option (Session × Bytes)) :=
  (ServerCommon.Checked.msgLength data).bind fun length =>
  if length.toNat < msgHeaderBaseSize then some none
  else
    (ServerCommon.Checked.parseHeaderEx parser data).bind fun parsed =>
    match (parsed.bind addressee).bind gateway.getSessionById with
    | none => some none
    | some session => (userReplyFrame data).map fun frame => some (session, frame)

end Checked

/-- No function reads outside the frame, and SERVER_MSG_DATA_LEN does not wrap. -/
structure ReadsInside (data : Bytes) : Prop where
  parseMsg : ∀ {Proto : Type} (parseProto : Bytes → Option Proto),
    ServerCommon.Checked.parseMsg parseProto data ≠ none
  parseHeaderEx : ∀ parser, ServerCommon.Checked.parseHeaderEx parser data ≠ none
  parseMsgEx : ∀ parser {Proto : Type} (parseProto : Bytes → Option Proto),
    ServerCommon.Checked.parseMsgEx parser parseProto data ≠ none
  parseMsgOpId : ∀ parser {Proto : Type} (parseProto : Bytes → Option Proto),
    ServerCommon.Checked.parseMsgOpId parser parseProto data ≠ none
  parseMsgUid : ∀ parser {Proto : Type} (parseProto : Bytes → Option Proto),
    ServerCommon.Checked.parseMsgUid parser parseProto data ≠ none
  reply : ∀ parser gateway, Checked.recvReply parser gateway data ≠ none
  dataLen : ∀ size, ServerCommon.Checked.msgDataLen data = some size →
    size.toNat + msgHeaderExLen data + msgHeaderBaseSize = data.length

section
variable {data : Bytes} (parser : HeaderExParser) (gateway : GatewayServer)

theorem checked_msgType (frame : ServerFrame data) :
    ServerCommon.Checked.msgType data = some (msgType data) := by
  have header := frame.header
  unfold msgHeaderBaseSize at header
  have read : readRange data 4 (4 : Nat) = some ((data.drop 4).take 4) :=
    readRange_nat (by omega)
  have field : readUint32 ((data.drop 4).take 4) = msgType data := by
    refine readUint32_take ?_
    rw [List.length_drop]
    omega
  unfold ServerCommon.Checked.msgType
  rw [show (4 : Int) = (4 : Nat) from rfl, read, Option.map_some, field]

theorem checked_userReplyFrame (frame : ServerFrame data) (roomy : Roomy data) :
    Checked.userReplyFrame data = some (userReplyFrame data) := by
  have inside := roomy.extension
  have front := front_toNat data
  have dataLen := roomy.dataLen frame
  have payload : msgPayload data =
      (data.drop (msgHeaderBaseSize + msgHeaderExLen data)).take
        (data.length - (msgHeaderBaseSize + msgHeaderExLen data)) := by
    unfold msgPayload msgData msgDataLen
    rw [frame.complete, dataLen]
  have length : (msgPayload data).length =
      data.length - (msgHeaderBaseSize + msgHeaderExLen data) := by
    rw [payload, List.length_take, List.length_drop, Nat.min_self]
  unfold Checked.userReplyFrame userReplyFrame
  rw [frame.checkedDataLen, Option.bind_some, checked_msgType frame, Option.bind_some,
    frame.checkedHeaderExLen, Option.bind_some, front, dataLen, readRange_nat (by omega), length,
    payload]
  rfl

theorem checked_recvReply (frame : ServerFrame data) (roomy : Roomy data) :
    Checked.recvReply parser gateway data = some (recvReply parser gateway data) := by
  have short := frame.short
  have header := frame.header
  have length : (BitVec.ofNat 32 data.length).toNat = data.length := by
    rw [BitVec.toNat_ofNat]
    omega
  unfold Checked.recvReply recvReply
  rw [frame.checkedLength, Option.bind_some, length, frame.complete,
    if_neg (Nat.not_lt.mpr header), if_neg (Nat.not_lt.mpr header),
    checked_parseHeaderEx parser frame roomy, Option.bind_some]
  cases (parseHeaderEx parser data).bind addressee with
  | none => rfl
  | some id =>
    simp only [Option.bind_some]
    cases gateway.getSessionById id with
    | none => rfl
    | some session =>
      simp only [checked_userReplyFrame frame roomy]
      rfl

/-- A frame is read inside its bounds on every way exactly when it has room for its header
    extension and its size is no negative int. -/
theorem frame_reads_inside_iff (frame : ServerFrame data) : ReadsInside data ↔ Roomy data := by
  constructor
  · intro inside
    refine ⟨(frame.parseHeaderEx_iff straightParser).mp (inside.parseHeaderEx straightParser), ?_⟩
    have whole : ServerCommon.Checked.parseMsg (fun _ => (none : Option Unit)) data ≠ none :=
      inside.parseMsg _
    exact (frame.parseMsg_iff _).mp whole
  · intro roomy
    refine ⟨?_, ?_, ?_, ?_, ?_, ?_, ?_⟩
    · intro Proto parseProto
      exact (frame.parseMsg_iff parseProto).mpr roomy.size
    · intro parser
      exact (frame.parseHeaderEx_iff parser).mpr roomy.extension
    · intro parser Proto parseProto
      rw [checked_parseMsgEx parser parseProto frame roomy]
      exact Option.some_ne_none _
    · intro parser Proto parseProto
      unfold ServerCommon.Checked.parseMsgOpId
      rw [checked_parseMsgEx parser parseProto frame roomy]
      exact Option.some_ne_none _
    · intro parser Proto parseProto
      unfold ServerCommon.Checked.parseMsgUid
      rw [checked_parseMsgEx parser parseProto frame roomy]
      exact Option.some_ne_none _
    · intro parser gateway
      rw [checked_recvReply parser gateway frame roomy]
      exact Option.some_ne_none _
    · intro size read
      rw [frame.checkedDataLen] at read
      obtain rfl := Option.some.inj read
      exact frame.dataLen_iff.mpr roomy.extension

end

section examples

def roomyFrame : Bytes := replyMsgOpId 20002 300 [7]

theorem roomyFrame_reads_inside : ReadsInside roomyFrame :=
  (frame_reads_inside_iff ⟨by decide +kernel, by decide +kernel⟩).mpr (by decide +kernel)

theorem extension_read_outside : ¬ ∀ data, ServerFrame data → ReadsInside data := by
  intro all
  have inside := all (msgHeader 12 20002 200) ⟨by decide +kernel, by decide +kernel⟩
  exact inside.parseHeaderEx straightParser (by decide +kernel)

end examples

end LaluneServer.Gateway
