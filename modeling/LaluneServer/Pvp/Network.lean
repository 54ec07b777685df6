import Mathlib.Logic.Function.Basic
import LaluneServer.Lib.Transition
import LaluneServer.Pvp.Window

/- Two terminals and the network between them. Every datagram ever sent stays on
   the wire of its sender: one that is never delivered is lost, one delivered
   twice is duplicated, and any order is possible. The resend tick is the call of
   resendMessages by the timer; the timeout that deletes a silent terminal is not
   part of the system. -/
namespace LaluneServer.Pvp

inductive Side where
  | a
  | b
  deriving DecidableEq, Repr

def Side.peer : Side → Side
  | .a => .b
  | .b => .a

/-- One terminal with its history: the position of the last message given to
    sendMessage, the datagrams sent, the positions handed to parseMessage in
    order, and the newest of them. -/
structure Endpoint (Data : Type*) where
  terminal : PvpTerminal (Nat × Data)
  accepted : Nat
  wire : List (PvpMessage (Nat × Data))
  received : List Nat
  newest : Nat
  deriving DecidableEq, Repr

abbrev World (Data : Type*) := Side → Endpoint Data

inductive NetworkEvent (Data : Type*) where
  | send (side : Side) (protoId : BitVec 16) (data : Data)
  | resend (side : Side)
  | deliver (side : Side) (datagram : Nat)
  deriving DecidableEq, Repr

variable {Data : Type*}

def Endpoint.sent (e : Endpoint Data) : Nat := e.accepted - e.terminal.toSendMessages.length

def Endpoint.emit (e : Endpoint Data)
    (result : PvpTerminal (Nat × Data) × List (PvpMessage (Nat × Data))) : Endpoint Data :=
  { e with terminal := result.1, wire := e.wire ++ result.2 }

def Endpoint.send (e : Endpoint Data) (protoId : BitVec 16) (data : Data) : Endpoint Data :=
  { e with accepted := e.accepted + 1 }.emit
    (sendMessage e.terminal { data := some (e.accepted + 1, data) } protoId)

def Endpoint.receive (e : Endpoint Data) (message : PvpMessage (Nat × Data)) :
    Option (Endpoint Data) :=
  (receiveMessage e.terminal message).map fun r =>
    let e := e.emit (r.terminal, r.wire)
    match r.parsed with
    | none => e
    | some message =>
      { e with
        received := e.received ++ [position message]
        newest := max e.newest (position message) }

def inFlight (w : World Data) (side : Side) (datagram : Nat) :
    Option (PvpMessage (Nat × Data)) :=
  (w side.peer).wire[datagram]?

def step (w : World Data) : NetworkEvent Data → Option (World Data)
  | .send side protoId data => some (Function.update w side ((w side).send protoId data))
  | .resend side =>
    some (Function.update w side ((w side).emit (resendMessages (w side).terminal)))
  | .deliver side datagram =>
    (inFlight w side datagram).bind fun message =>
      ((w side).receive message).map (Function.update w side)

/-- Both terminals are connected and nothing is outstanding; `n` are the numbers
    of the last packets sent. -/
structure SyncFinished (n : Side → Nat) (w : World Data) : Prop where
  positive : ∀ side, 0 < n side
  small : ∀ side, n side ≤ 0xffff
  connected : ∀ side, (w side).terminal.state = .connected
  seqNo : ∀ side, (w side).terminal.seqNo = BitVec.ofNat 16 (n side)
  ackNo : ∀ side, (w side).terminal.ackNo = (w side.peer).terminal.seqNo
  ackBits : ∀ side, (w side).terminal.ackBits = 1
  remoteAckBits : ∀ side, (w side).terminal.remoteAckBits = 0xffffffff
  sentMessage : ∀ side, (w side).terminal.sentMessage = []
  toSendMessages : ∀ side, (w side).terminal.toSendMessages = []
  accepted : ∀ side, (w side).accepted = n side
  wire : ∀ side, (w side).wire = []
  received : ∀ side, (w side).received = []
  newest : ∀ side, (w side).newest = n side.peer

def syncFinished (n : Side → Nat) : World Data := fun side => {
  terminal := {
    state := .connected
    ackNo := BitVec.ofNat 16 (n side.peer)
    ackBits := 1
    seqNo := BitVec.ofNat 16 (n side)
    remoteAckBits := 0xffffffff
    maxResentBit := 32
    sentMessage := []
    toSendMessages := []
    totalTimeNoMessage := 0 }
  accepted := n side
  wire := []
  received := []
  newest := n side.peer }

theorem syncFinished_finished {n : Side → Nat} (positive : ∀ side, 0 < n side)
    (small : ∀ side, n side ≤ 0xffff) : SyncFinished n (syncFinished n : World Data) := by
  constructor <;> first | assumption | exact fun _ => rfl

theorem number_of_small {n : Nat} (positive : 0 < n) (small : n ≤ 0xffff) :
    BitVec.ofNat 16 n = seqNumber n := by
  have start := seqNumber_of_start (BitVec.ofNat 16 n)
  rw [BitVec.toNat_ofNat, Nat.mod_eq_of_lt (by omega)] at start
  exact start.symm

/-- A copy is delivered only within 30 positions of the newest packet seen. -/
def near (w : World Data) : NetworkEvent Data → Prop
  | .deliver side datagram => ∀ message ∈ inFlight w side datagram,
      position message ≤ (w side).newest + 30 ∧ (w side).newest ≤ position message + 30
  | _ => True

/-- The acknowledgements of a packet that arrives for the first time do not reach
    across a wrap of the numbers. -/
def acksWrapFree (w : World Data) : NetworkEvent Data → Prop
  | .deliver side datagram => ∀ message ∈ inFlight w side datagram,
      message.protoId.setWidth 16 ≠ syncProtoId → position message ∉ (w side).received →
      WrapFree (w side).terminal (message.ackNo.setWidth 16) message.ackBits
  | _ => True

instance (w : World Data) : (e : NetworkEvent Data) → Decidable (near w e)
  | .send .. => isTrue trivial
  | .resend .. => isTrue trivial
  | .deliver .. => inferInstanceAs (Decidable (∀ message ∈ inFlight w _ _, _))

instance (w : World Data) : (e : NetworkEvent Data) → Decidable (acksWrapFree w e)
  | .send .. => isTrue trivial
  | .resend .. => isTrue trivial
  | .deliver .. => inferInstanceAs (Decidable (∀ message ∈ inFlight w _ _, _ → _ → _))

section rounds
variable (P : PvpTerminal Data → List (PvpMessage Data) → Prop)

theorem directSendMessage_connected {t : PvpTerminal Data} (connected : t.state = .connected)
    (message : PvpMessage Data) :
    directSendMessage t message = (true, { t with maxResentBit := t.maxResentBit - 1 }) := by
  simp [directSendMessage, connected]

theorem receiveMessage_connected {t : PvpTerminal Data} (connected : t.state = .connected)
    (message : PvpMessage Data) :
    receiveMessage t message =
      if message.protoId.setWidth 16 = syncProtoId then
        some ⟨{ t with totalTimeNoMessage := 0 }, [], none⟩
      else (updateAckInfo { t with totalTimeNoMessage := 0 } (message.seqNo.setWidth 16)).map fun
        | none => ⟨{ t with totalTimeNoMessage := 0 }, [], none⟩
        | some u => ⟨updateRemoteAckBits u (message.ackNo.setWidth 16) message.ackBits, [],
            some message⟩ := by
  cases t
  simp only at connected
  subst connected
  rfl

/-- Induction rule for handleToSendQueue in a connected terminal: what one packet
    that leaves the queue preserves holds at the end. -/
theorem sendRounds_induction
    (connected : ∀ t wire, P t wire → t.state = .connected)
    (turn : ∀ t wire message rest, P t wire → t.toSendMessages = message :: rest →
      t.remoteAckBits.getLsbD 31 = true →
      P { (numberMessage t message rest).2 with maxResentBit := t.maxResentBit - 1 }
        (wire ++ [(numberMessage t message rest).1]))
    (rounds : Nat) (t : PvpTerminal Data) (wire : List (PvpMessage Data)) (initial : P t wire) :
    P (sendRounds rounds t).1 (wire ++ (sendRounds rounds t).2) := by
  induction rounds generalizing t wire with
  | zero => simpa [sendRounds] using initial
  | succ rounds ih =>
    unfold sendRounds
    cases queue : t.toSendMessages with
    | nil => simpa using initial
    | cons message rest =>
      simp only
      split
      · simpa using initial
      · rename_i free
        have top : t.remoteAckBits.getLsbD 31 = true := by
          cases bit : t.remoteAckBits.getLsbD 31
          · exact absurd ((top_bit_mask _).mpr bit) free
          · rfl
        have still : (numberMessage t message rest).2.state = .connected := connected t wire initial
        rw [directSendMessage_connected still]
        have next := ih _ _ (turn t wire message rest initial queue top)
        simpa using next

end rounds

end LaluneServer.Pvp
