import Mathlib.Data.List.Basic
import LaluneServer.Lib.BitWindow
import LaluneServer.Pvp.SequenceNumbers

/- PvpTerminal: one end of the reliable UDP connection of the battle server.
   Messages are values: each caller of the source hands a fresh PvpMessage to
   sendMessage, and sendto serializes it before anything else can change it.
   Datagrams handed to the socket and messages handed to parseMessage are
   results of the functions; the console output is left out. -/
namespace LaluneServer.Pvp

def protoVersion : BitVec 32 := 1
def defaultProtoId : BitVec 16 := 0x1
def syncProtoId : BitVec 16 := 0x2

inductive PvpTerminalState where
  | disconnected
  | connected
  | sync
  deriving DecidableEq, Repr

structure PvpMessage (Data : Type*) where
  version : BitVec 32 := 0
  protoId : BitVec 32 := 0
  seqNo : BitVec 32 := 0
  ackNo : BitVec 32 := 0
  ackBits : BitVec 32 := 0
  data : Option Data := none
  deriving DecidableEq, Repr

structure PvpTerminal (Data : Type*) where
  state : PvpTerminalState
  ackNo : BitVec 16
  ackBits : BitVec 32
  seqNo : BitVec 16
  remoteAckBits : BitVec 32
  maxResentBit : Nat
  sentMessage : List (PvpMessage Data)
  toSendMessages : List (PvpMessage Data)
  totalTimeNoMessage : Nat
  deriving DecidableEq, Repr

/-- What receiveMessage leaves behind: the terminal, the datagrams it sent, and
    the message it handed to parseMessage. -/
structure Received (Data : Type*) where
  terminal : PvpTerminal Data
  wire : List (PvpMessage Data)
  parsed : Option (PvpMessage Data)
  deriving DecidableEq, Repr

variable {Data : Type*}

def newTerminal : PvpTerminal Data where
  state := .disconnected
  ackNo := 0
  ackBits := 0
  seqNo := 0
  remoteAckBits := 0xffffffff
  maxResentBit := 32
  sentMessage := []
  toSendMessages := []
  totalTimeNoMessage := 0

def directSendMessage (t : PvpTerminal Data) (message : PvpMessage Data) :
    Bool × PvpTerminal Data :=
  if t.state = .disconnected then (false, t)
  else if t.state = .sync ∧ message.protoId.setWidth 16 ≠ syncProtoId then (false, t)
  else (true, { t with maxResentBit := t.maxResentBit - 1 })

/-- The body of the loop of handleToSendQueue up to directSendMessage. -/
def numberMessage (t : PvpTerminal Data) (message : PvpMessage Data)
    (rest : List (PvpMessage Data)) : PvpMessage Data × PvpTerminal Data :=
  let seqNo := nextSeqNo t.seqNo
  let numbered := { message with
    version := protoVersion
    ackNo := t.ackNo.setWidth 32
    ackBits := t.ackBits
    seqNo := seqNo.setWidth 32 }
  (numbered, { t with
    toSendMessages := rest
    seqNo := seqNo
    remoteAckBits := t.remoteAckBits <<< 1
    sentMessage := t.sentMessage ++ [numbered] })

section
variable (t : PvpTerminal Data) (message : PvpMessage Data) (rest : List (PvpMessage Data))

@[simp] theorem numberMessage_sentMessage : (numberMessage t message rest).2.sentMessage =
    t.sentMessage ++ [(numberMessage t message rest).1] := rfl

@[simp] theorem numberMessage_remoteAckBits :
    (numberMessage t message rest).2.remoteAckBits = t.remoteAckBits <<< 1 := rfl

@[simp] theorem numberMessage_seqNo :
    (numberMessage t message rest).2.seqNo = nextSeqNo t.seqNo := rfl

@[simp] theorem numberMessage_wireNo :
    (numberMessage t message rest).1.seqNo = (nextSeqNo t.seqNo).setWidth 32 := rfl

@[simp] theorem numberMessage_maxResentBit :
    (numberMessage t message rest).2.maxResentBit = t.maxResentBit := rfl

end

def sendRounds : Nat → PvpTerminal Data → PvpTerminal Data × List (PvpMessage Data)
  | 0, t => (t, [])
  | rounds + 1, t =>
    match t.toSendMessages with
    | [] => (t, [])
    | message :: rest =>
      if t.remoteAckBits &&& 0x80000000 = 0 then (t, [])
      else
        let (numbered, t) := numberMessage t message rest
        match directSendMessage t numbered with
        | (false, t) => (t, [])
        | (true, t) =>
          let (final, wire) := sendRounds rounds t
          (final, numbered :: wire)

/-- The source counts with `++count < 5`, so one call sends at most four packets. -/
def handleToSendQueue (t : PvpTerminal Data) : PvpTerminal Data × List (PvpMessage Data) :=
  sendRounds 4 t

def sendMessage (t : PvpTerminal Data) (message : PvpMessage Data)
    (protoId : BitVec 16 := defaultProtoId) : PvpTerminal Data × List (PvpMessage Data) :=
  handleToSendQueue { t with
    toSendMessages := t.toSendMessages ++ [{ message with protoId := protoId.setWidth 32 }] }

def carriesNo (seqNo : BitVec 16) (message : PvpMessage Data) : Bool :=
  message.seqNo.setWidth 16 = seqNo

def getSentMessage (t : PvpTerminal Data) (seqNo : BitVec 16) : Option (PvpMessage Data) :=
  t.sentMessage.find? (carriesNo seqNo)

def dropMessage (t : PvpTerminal Data) (seqNo : BitVec 16) : PvpTerminal Data :=
  { t with sentMessage := t.sentMessage.eraseP (carriesNo seqNo) }

/-- `x << count`; a count outside 0..31 is undefined behaviour in C++. -/
def shiftLeft (x : BitVec 32) (count : Int) : Option (BitVec 32) :=
  if 0 ≤ count ∧ count < 32 then some (x <<< count.toNat) else none

/-- The part of receiveMessage under "update ack info". The outer `none` is an
    undefined shift, the inner one a duplicated packet. -/
def updateAckInfo (t : PvpTerminal Data) (seqNo : BitVec 16) :
    Option (Option (PvpTerminal Data)) :=
  let shift := diffBetweenSequenceNumbers seqNo (t.ackNo.setWidth 32)
  if shift = 0 then some none
  else if shift < 0 then
    (shiftLeft 0x1 (-shift)).map fun bit =>
      if t.ackBits &&& bit = 0 then some { t with ackBits := t.ackBits ||| bit } else none
  else
    (shiftLeft t.ackBits shift).map fun bits =>
      some { t with ackNo := seqNo, ackBits := bits ||| 0x1 }

/-- One turn of the loop of receiveMessage over the acknowledged bits. -/
def acknowledgeBit (ackNo : BitVec 16) (ackBits : BitVec 32) (diff : Nat)
    (t : PvpTerminal Data) (i : Nat) : PvpTerminal Data :=
  let inLocalAckBit := 1#32 <<< (i + diff)
  let inMsgAckBit := 1#32 <<< i
  if t.remoteAckBits &&& inLocalAckBit = 0 ∧ ackBits &&& inMsgAckBit ≠ 0 then
    dropMessage { t with remoteAckBits := t.remoteAckBits ||| inLocalAckBit }
      (prevSeqNo ackNo (BitVec.ofNat 16 i))
  else t

def updateRemoteAckBits (t : PvpTerminal Data) (ackNo : BitVec 16) (ackBits : BitVec 32) :
    PvpTerminal Data :=
  let diff := diffBetweenSequenceNumbers t.seqNo (ackNo.setWidth 32)
  if 0 ≤ diff then
    (List.range (32 - diff).toNat).foldl (acknowledgeBit ackNo ackBits diff.toNat) t
  else t

/-- The fields a SYNC packet resets in a disconnected terminal. -/
def acceptSync (t : PvpTerminal Data) (seqNo : BitVec 16) : PvpTerminal Data :=
  { t with
    ackNo := seqNo
    ackBits := 0x1
    remoteAckBits := 0xffffffff
    maxResentBit := 32
    sentMessage := []
    state := .sync }

def leaveSync (t : PvpTerminal Data) : PvpTerminal Data :=
  if t.state = .sync then { t with state := .connected } else t

/-- `none` is the undefined behaviour of an out-of-range shift. -/
def receiveMessage (t : PvpTerminal Data) (message : PvpMessage Data) :
    Option (Received Data) :=
  let t := { t with totalTimeNoMessage := 0 }
  let ackNo := message.ackNo.setWidth 16
  let seqNo := message.seqNo.setWidth 16
  if message.protoId.setWidth 16 = syncProtoId then
    if t.state ≠ .disconnected then some ⟨t, [], none⟩
    else
      let (t, wire) := sendMessage (acceptSync t seqNo) {} syncProtoId
      some ⟨t, wire, none⟩
  else
    let t := leaveSync t
    if t.state = .connected then
      (updateAckInfo t seqNo).map fun
        | none => ⟨t, [], none⟩
        | some t => ⟨updateRemoteAckBits t ackNo message.ackBits, [], some message⟩
    else some ⟨t, [], none⟩

/-- The turn of the loop of resendMessages that finds a lost packet. -/
def lostTurn (t : PvpTerminal Data) : Option Nat :=
  (List.range' 1 t.maxResentBit).find? fun i =>
    t.remoteAckBits &&& (0x80000000 >>> (i - 1)) = 0

def refreshAck (t : PvpTerminal Data) (message : PvpMessage Data) : PvpMessage Data :=
  { message with ackNo := t.ackNo.setWidth 32, ackBits := t.ackBits }

def replaceFirst (test : PvpMessage Data → Bool) (change : PvpMessage Data → PvpMessage Data) :
    List (PvpMessage Data) → List (PvpMessage Data)
  | [] => []
  | m :: ms => if test m then change m :: ms else m :: replaceFirst test change ms

/-- The message is shared with the list, so its new ack fields stay there. -/
def resendPacket (t : PvpTerminal Data) (no : BitVec 16) :
    PvpTerminal Data × List (PvpMessage Data) :=
  match getSentMessage t no with
  | none => (t, [])
  | some message =>
    let refreshed := refreshAck t message
    let t := { t with
      sentMessage := replaceFirst (carriesNo no) (refreshAck t) t.sentMessage }
    match directSendMessage t refreshed with
    | (false, t) => (t, [])
    | (true, t) => (t, [refreshed])

def resendMessages (t : PvpTerminal Data) : PvpTerminal Data × List (PvpMessage Data) :=
  if t.remoteAckBits ≠ 0xffffffff then
    match lostTurn t with
    | none => ({ t with maxResentBit := 32 }, [])
    | some i =>
      let (t, wire) := resendPacket t (prevSeqNo t.seqNo (BitVec.ofInt 16 (32 - i)))
      ({ t with maxResentBit := 32 }, wire)
  else ({ t with maxResentBit := 32 }, [])

end LaluneServer.Pvp
