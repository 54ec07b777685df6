import LaluneServer.Lib.BufferRead
import LaluneServer.ServerCommon.Frame

/- The parse functions of ServerCommon.h with every read of the frame checked against its
   end: `none` is a read outside. Sizes are computed in uint32_t, and the int parameter of
   ParseFromArray takes a size from 2^31 on as a negative number, for which the library
   promises nothing. -/
namespace LaluneServer.ServerCommon

open NetLib BufferRead

namespace Checked
variable {Proto : Type} (parser : HeaderExParser) (parseProto : Bytes → Option Proto)
  (data : Bytes)

def msgLength : Option (BitVec 32) :=
  (readRange data 0 4).map fun field => BitVec.ofNat 32 (readUint32 field)

def msgType : Option Nat := (readRange data 4 4).map readUint32

def msgHeaderExLen : Option (BitVec 32) :=
  (readRange data 9 1).map fun field => (field.getD 0 0).setWidth 32

def msgDataLen : Option (BitVec 32) :=
  (msgLength data).bind fun length =>
  (msgHeaderExLen data).map fun exLen => length - BitVec.ofNat 32 msgHeaderBaseSize - exLen

def parseFromArray (parse : Bytes → Option Proto) (offset : Nat) (size : BitVec 32) :
    Option (Option Proto) := (readRange data offset size.toInt).map parse

def parseMsg : Option (Option Proto) :=
  (msgLength data).bind fun length =>
  parseFromArray data parseProto msgHeaderBaseSize (length - BitVec.ofNat 32 msgHeaderBaseSize)

def parseHeaderEx : Option (Option HeaderEx) :=
  (msgHeaderExLen data).bind fun exLen =>
  parseFromArray data parser.parse msgHeaderBaseSize exLen

def parseData : Option (Option Proto) :=
  (msgHeaderExLen data).bind fun exLen =>
  (msgDataLen data).bind fun dataLen =>
  parseFromArray data parseProto (msgHeaderBaseSize + exLen.toNat) dataLen

def parseMsgEx : Option (Option (HeaderEx × Proto)) :=
  (parseHeaderEx parser data).bind fun parsed =>
  match parsed with
  | none => some none
  | some ex => (parseData parseProto data).map fun msg => msg.map fun proto => (ex, proto)

def parseMsgOpId : Option (Option (BitVec 32 × Proto)) :=
  (parseMsgEx parser parseProto data).map fun msg =>
    msg.map fun msg => (msg.1.operationId.getD 0, msg.2)

def parseMsgUid : Option (Option (BitVec 32 × Proto)) :=
  (parseMsgEx parser parseProto data).map fun msg => msg.map fun msg => (msg.1.uid.getD 0, msg.2)

end Checked

structure ServerFrame (data : Bytes) : Prop where
  complete : msgLength data = data.length
  header : msgHeaderBaseSize ≤ data.length

section
variable {data : Bytes}

theorem ServerFrame.short (frame : ServerFrame data) : data.length < 2 ^ 32 := by
  rw [← frame.complete]
  exact readUint32_lt data

theorem ServerFrame.checkedLength (frame : ServerFrame data) :
    Checked.msgLength data = some (BitVec.ofNat 32 data.length) := by
  have header := frame.header
  unfold msgHeaderBaseSize at header
  have read : readRange data 0 (4 : Nat) = some ((data.drop 0).take 4) :=
    readRange_nat (by omega)
  have field : readUint32 (data.take 4) = data.length := by
    rw [readUint32_take (by omega)]
    exact frame.complete
  unfold Checked.msgLength
  rw [show (4 : Int) = (4 : Nat) from rfl, read, List.drop_zero, Option.map_some, field]

theorem ServerFrame.checkedHeaderExLen (frame : ServerFrame data) :
    Checked.msgHeaderExLen data = some (BitVec.ofNat 32 (msgHeaderExLen data)) := by
  have header := frame.header
  unfold msgHeaderBaseSize at header
  have read : readRange data 9 (1 : Nat) = some ((data.drop 9).take 1) :=
    readRange_nat (by omega)
  unfold Checked.msgHeaderExLen
  rw [show (1 : Int) = (1 : Nat) from rfl, read, Option.map_some]
  have byte : ((data.drop 9).take 1).getD 0 0 = data.getD 9 0 := by
    simp [List.getD_eq_getElem?_getD]
  rw [byte, msgHeaderExLen]
  exact congrArg some (BitVec.ofNat_toNat 32 _).symm

structure Roomy (data : Bytes) : Prop where
  extension : msgHeaderBaseSize + msgHeaderExLen data ≤ data.length
  size : data.length - msgHeaderBaseSize < 2 ^ 31

instance (data : Bytes) : Decidable (Roomy data) :=
  decidable_of_iff (msgHeaderBaseSize + msgHeaderExLen data ≤ data.length ∧
    data.length - msgHeaderBaseSize < 2 ^ 31)
    ⟨fun both => ⟨both.1, both.2⟩, fun roomy => ⟨roomy.1, roomy.2⟩⟩

theorem msgHeaderExLen_lt (data : Bytes) : msgHeaderExLen data < 256 := (data.getD 9 0).isLt

theorem front_toNat (data : Bytes) :
    (BitVec.ofNat 32 (msgHeaderExLen data)).toNat = msgHeaderExLen data := by
  have small := msgHeaderExLen_lt data
  rw [BitVec.toNat_ofNat]
  omega

theorem ServerFrame.checkedDataLen (frame : ServerFrame data) :
    Checked.msgDataLen data = some (BitVec.ofNat 32 data.length -
      BitVec.ofNat 32 msgHeaderBaseSize - BitVec.ofNat 32 (msgHeaderExLen data)) := by
  unfold Checked.msgDataLen
  rw [frame.checkedLength, frame.checkedHeaderExLen]
  rfl

/-- SERVER_MSG_DATA_LEN wraps exactly when the extension does not fit. -/
theorem ServerFrame.dataLen_iff (frame : ServerFrame data) :
    (BitVec.ofNat 32 data.length - BitVec.ofNat 32 msgHeaderBaseSize -
        BitVec.ofNat 32 (msgHeaderExLen data)).toNat + msgHeaderExLen data + msgHeaderBaseSize =
      data.length ↔ msgHeaderBaseSize + msgHeaderExLen data ≤ data.length := by
  have short := frame.short
  have header := frame.header
  have small := msgHeaderExLen_lt data
  unfold msgHeaderBaseSize at *
  bv_omega

theorem Roomy.dataLen (roomy : Roomy data) (frame : ServerFrame data) :
    (BitVec.ofNat 32 data.length - BitVec.ofNat 32 msgHeaderBaseSize -
      BitVec.ofNat 32 (msgHeaderExLen data)).toNat =
        data.length - (msgHeaderBaseSize + msgHeaderExLen data) := by
  have whole := frame.dataLen_iff.mpr roomy.extension
  omega

theorem parseFromArray_nat {Proto : Type} (parse : Bytes → Option Proto) {offset : Nat}
    {size : BitVec 32} (small : size.toNat < 2 ^ 31) (inside : offset + size.toNat ≤ data.length) :
    Checked.parseFromArray data parse offset size =
      some (parse ((data.drop offset).take size.toNat)) := by
  have same : size.toInt = size.toNat := BitVec.toInt_eq_toNat_of_lt (by omega)
  rw [Checked.parseFromArray, same, readRange_nat inside]
  rfl

variable {Proto : Type} (parser : HeaderExParser) (parseProto : Bytes → Option Proto)

theorem ServerFrame.parseMsg_iff (frame : ServerFrame data) :
    Checked.parseMsg parseProto data ≠ none ↔ data.length - msgHeaderBaseSize < 2 ^ 31 := by
  have short := frame.short
  have header := frame.header
  have size : (BitVec.ofNat 32 data.length - BitVec.ofNat 32 msgHeaderBaseSize).toNat =
      data.length - msgHeaderBaseSize := by
    unfold msgHeaderBaseSize at *
    bv_omega
  unfold Checked.parseMsg
  rw [frame.checkedLength, Option.bind_some]
  constructor
  · intro inside
    have read := readRange_ne_none.mp (fun none => inside (by
      rw [Checked.parseFromArray, none]
      rfl))
    have value := BitVec.toInt_eq_toNat_cond
      (BitVec.ofNat 32 data.length - BitVec.ofNat 32 msgHeaderBaseSize)
    rw [size] at value
    split at value
    · omega
    · omega
  · intro small
    rw [parseFromArray_nat parseProto (by omega) (by omega)]
    exact Option.some_ne_none _

theorem ServerFrame.parseHeaderEx_iff (frame : ServerFrame data) :
    Checked.parseHeaderEx parser data ≠ none ↔
      msgHeaderBaseSize + msgHeaderExLen data ≤ data.length := by
  have small := msgHeaderExLen_lt data
  have front := front_toNat data
  have same : (BitVec.ofNat 32 (msgHeaderExLen data)).toInt = (msgHeaderExLen data : Nat) := by
    rw [BitVec.toInt_eq_toNat_of_lt (by omega), front]
  unfold Checked.parseHeaderEx Checked.parseFromArray
  rw [frame.checkedHeaderExLen, Option.bind_some, same, Ne, Option.map_eq_none_iff, ← Ne,
    readRange_ne_none]
  omega

theorem checked_parseHeaderEx (frame : ServerFrame data) (roomy : Roomy data) :
    Checked.parseHeaderEx parser data = some (parseHeaderEx parser data) := by
  have small := msgHeaderExLen_lt data
  have inside := roomy.extension
  have front := front_toNat data
  unfold Checked.parseHeaderEx
  rw [frame.checkedHeaderExLen, Option.bind_some,
    parseFromArray_nat parser.parse (by omega) (by omega), front]
  rfl

theorem checked_parseData (frame : ServerFrame data) (roomy : Roomy data) :
    Checked.parseData parseProto data = some (parseProto (msgPayload data)) := by
  have size := roomy.size
  have inside := roomy.extension
  have front := front_toNat data
  have dataLen := roomy.dataLen frame
  unfold Checked.parseData
  rw [frame.checkedHeaderExLen, Option.bind_some, frame.checkedDataLen, Option.bind_some,
    parseFromArray_nat parseProto (by omega) (by omega), front]
  unfold msgPayload msgData msgDataLen
  rw [frame.complete]

theorem checked_parseMsgEx (frame : ServerFrame data) (roomy : Roomy data) :
    Checked.parseMsgEx parser parseProto data = some (parseMsgEx parser parseProto data) := by
  unfold Checked.parseMsgEx
  rw [checked_parseHeaderEx parser frame roomy, Option.bind_some]
  unfold parseMsgEx
  cases parseHeaderEx parser data with
  | none => rfl
  | some ex =>
    simp only [checked_parseData parseProto frame roomy]
    rfl

end

end LaluneServer.ServerCommon
