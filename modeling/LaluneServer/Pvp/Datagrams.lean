import Mathlib.Logic.Function.Basic
import LaluneServer.Pvp.Games
import LaluneServer.Pvp.SendQueue

/- From a datagram to the terminal of its sender. dispatchMessage does not look at
   what ParseFromArray returns: the terminal hears whatever fields were read. An
   endpoint is named by endpointToString. -/
namespace LaluneServer.Pvp
open BitWindow Transition

inductive SocketError
  | messageSize
  | other
  deriving DecidableEq, Repr

/-- The generated parser: its result and the message as it leaves it, and `data()` of
    a message without the field. -/
structure PacketCodec (Packet Data : Type*) where
  parseFromArray : Packet → Bool × PvpMessage Data
  noData : Data

/-- PvpServer with the PvpTerminals, which have a number each, and the count of
    outstanding async_receive_from. -/
structure GameService (Data : Type*) where
  server : PvpServer := {}
  connection : Nat → PvpTerminal Data := fun _ => newTerminal
  receives : Nat := 1

structure Dispatched (Data : Type*) where
  service : GameService Data
  wire : List (PvpMessage Data) := []

namespace GameService
variable {Packet Data : Type*}

def receiveMessage (games : GameCodec Data) (packets : PacketCodec Packet Data)
    (s : GameService Data) (t : TerminalEntry) (message : PvpMessage Data)
    (order : List GameEntry) : Option (Dispatched Data) :=
  (Pvp.receiveMessage (s.connection t.terminal) message).map fun received =>
    { service := { s with
        server := match received.parsed with
          | some parsed =>
            s.server.parseMessage games t (parsed.data.getD packets.noData) order
          | none => s.server
        connection := Function.update s.connection t.terminal received.terminal }
      wire := received.wire }

def dispatchMessage (games : GameCodec Data) (packets : PacketCodec Packet Data)
    (s : GameService Data) (endpoint : String) (buffer : Packet) (order : List GameEntry) :
    Option (Dispatched Data) :=
  let message := (packets.parseFromArray buffer).2
  match s.server.findTerminal endpoint with
  | some t => s.receiveMessage games packets t message order
  | none =>
    let t : TerminalEntry := { key := endpoint, terminal := s.server.terminalsCreated }
    let s := { s with
      server := s.server.addTerminal endpoint
      connection := Function.update s.connection t.terminal newTerminal }
    s.receiveMessage games packets t message order

def receivefrom (s : GameService Data) : GameService Data :=
  { s with receives := s.receives + 1 }

/-- `none` is the undefined behaviour of receiveMessage. -/
def receivefromHandler (games : GameCodec Data) (packets : PacketCodec Packet Data)
    (s : GameService Data) (error : Option SocketError) (endpoint : String) (buffer : Packet)
    (order : List GameEntry) : Option (Dispatched Data) :=
  if error = none ∨ error = some .messageSize then
    (s.dispatchMessage games packets endpoint buffer order).map fun done =>
      { done with service := done.service.receivefrom }
  else some { service := s.receivefrom }

/-- triggerUpdate of a terminal without an error: it gives up after 10 s of silence. -/
def terminalTick (s : GameService Data) (t : TerminalEntry) : GameService Data :=
  let u := { s.connection t.terminal with
    totalTimeNoMessage := (s.connection t.terminal).totalTimeNoMessage + 100000 }
  if u.totalTimeNoMessage > 10000000 then
    { s with
      server := s.server.terminalTimeout t
      connection := Function.update s.connection t.terminal u }
  else { s with connection := Function.update s.connection t.terminal (resendMessages u).1 }

end GameService

/-- The control connection and the games move by `server`; a game's update hands
    packets to its terminals. -/
inductive ServiceEvent (Packet Data : Type*) where
  | server (event : ServerEvent Data)
  | datagram (error : Option SocketError) (endpoint : String) (buffer : Packet)
    (order : List GameEntry)
  | terminalTick (endpoint : String)
  | sendMessage (endpoint : String) (message : PvpMessage Data)

def ServerEvent.concernsGames {Data : Type*} : ServerEvent Data → Bool
  | .newEndpoint _ => false
  | .parseMessage .. => false
  | .terminalTimeout _ => false
  | _ => true

namespace GameService
variable {Packet Data : Type*} (games : GameCodec Data) (packets : PacketCodec Packet Data)

/-- A datagram completes an outstanding receive. -/
def step (s : GameService Data) : ServiceEvent Packet Data → Option (GameService Data)
  | .server event =>
    if event.concernsGames then
      (s.server.step games event).map fun server => { s with server := server }
    else none
  | .datagram error endpoint buffer order =>
    if 0 < s.receives ∧ order.Perm s.server.games then
      ({ s with receives := s.receives - 1 }.receivefromHandler games packets error endpoint
        buffer order).map Dispatched.service
    else none
  | .terminalTick endpoint => (s.server.findTerminal endpoint).map s.terminalTick
  | .sendMessage endpoint message => (s.server.findTerminal endpoint).map fun t =>
      let u := (Pvp.sendMessage (s.connection t.terminal) message).1
      { s with connection := Function.update s.connection t.terminal u }

end GameService

def Duplicate {Data : Type*} (t : PvpTerminal Data) (seqNo : BitVec 16) : Prop :=
  let shift := diffBetweenSequenceNumbers seqNo (t.ackNo.setWidth 32)
  shift = 0 ∨ (-32 < shift ∧ shift < 0 ∧ t.ackBits.getLsbD (-shift).toNat = true)

/-- The terminal has just heard something, and has no use for the message: SYNC comes
    after the handshake, data before it, or data comes again. -/
def Unmoved {Data : Type*} (t : PvpTerminal Data) (message : PvpMessage Data) : Prop :=
  t.totalTimeNoMessage = 0 ∧
  if message.protoId.setWidth 16 = syncProtoId then t.state ≠ .disconnected
  else t.state = .disconnected ∨
    t.state = .connected ∧ Duplicate t (message.seqNo.setWidth 16)

section terminal
variable {Data : Type*} {t u : PvpTerminal Data} {message : PvpMessage Data} {r : Received Data}

theorem updateAckInfo_none_iff (no : BitVec 16) :
    updateAckInfo t no = some none ↔ Duplicate t no := by
  rw [updateAckInfo_iff]
  constructor
  · intro outcome
    cases outcome with
    | again same => exact Or.inl same
    | known behind positive inside set =>
      refine Or.inr ⟨by omega, by omega, ?_⟩
      rw [behind, Int.neg_neg, Int.toNat_natCast]
      exact set
  · rintro (same | ⟨close, behind, set⟩)
    · exact .again same
    · exact .known (by omega) (by omega) (by omega) set

theorem updateAckInfo_moves {no : BitVec 16} (updated : updateAckInfo t no = some (some u)) :
    u.ackNo ≠ t.ackNo ∨ u.ackBits ≠ t.ackBits := by
  cases updateAckInfo_iff.mp updated with
  | marked behind positive inside clear =>
    refine Or.inr ?_
    intro same
    have set := (getLsbD_mark t.ackBits inside _).mpr (Or.inr rfl)
    rw [show t.ackBits ||| _ = t.ackBits from same, clear] at set
    contradiction
  | advanced ahead positive inside =>
    refine Or.inl ?_
    rintro rfl
    simp [diffBetweenSequenceNumbers] at ahead
    omega

theorem receives_same (received : Receives t message r) (same : r.terminal = t) :
    r = ⟨t, [], none⟩ ∧ Unmoved t message := by
  cases received with
  | ignored idle =>
    replace same : { t with totalTimeNoMessage := 0 } = t := same
    have idleTime : 0 = t.totalTimeNoMessage := congrArg PvpTerminal.totalTimeNoMessage same
    refine ⟨by rw [same], idleTime.symm, ?_⟩
    split
    · rename_i sync
      exact idle.mp sync
    · rename_i data
      exact Or.inl (not_not.mp (idle.not.mp data))
  | handshake sync disconnected =>
    have state := congrArg PvpTerminal.state same
    simp only at state
    rw [sendMessage_state, disconnected] at state
    contradiction
  | duplicate data opened known =>
    replace same : { t with totalTimeNoMessage := 0, state := .connected } = t := same
    have idleTime : 0 = t.totalTimeNoMessage := congrArg PvpTerminal.totalTimeNoMessage same
    have state : .connected = t.state := congrArg PvpTerminal.state same
    rw [same] at known
    refine ⟨by rw [same], idleTime.symm, ?_⟩
    rw [if_neg data]
    exact Or.inr ⟨state.symm, (updateAckInfo_none_iff _).mp known⟩
  | accepted data opened updated =>
    rename_i v
    obtain ⟨_, frame⟩ := updateAckInfo_accepted updated
    simp only at same
    rw [updateRemoteAckBits_frame] at same
    have no := congrArg PvpTerminal.ackNo same
    have bits := congrArg PvpTerminal.ackBits same
    rcases updateAckInfo_moves updated with moved | moved
    · exact absurd no moved
    · exact absurd bits moved

theorem receiveMessage_unmoved (unmoved : Unmoved t message) :
    Pvp.receiveMessage t message = some ⟨t, [], none⟩ := by
  obtain ⟨idleTime, useless⟩ := unmoved
  have silent : { t with totalTimeNoMessage := 0 } = t := by
    rw [← idleTime]
  split at useless
  · rename_i sync
    rw [receiveMessage_ignored (iff_of_true sync useless), silent]
  · rename_i data
    rcases useless with disconnected | ⟨connected, duplicate⟩
    · rw [receiveMessage_ignored (iff_of_false data (not_not.mpr disconnected)), silent]
    · have opened : t.state ≠ .disconnected := by
        rw [connected]
        decide
      have still : { t with totalTimeNoMessage := 0, state := .connected } = t := by
        rw [← idleTime, ← connected]
      rw [receiveMessage_data opened data, still, (updateAckInfo_none_iff _).mpr duplicate]
      rfl

end terminal

namespace GameService
variable {Packet Data : Type*} (games : GameCodec Data) (packets : PacketCodec Packet Data)
  (s : GameService Data) (error : Option SocketError) (endpoint : String) (buffer : Packet)
  (order : List GameEntry)

def ChangesNothing : Prop :=
  s.receivefromHandler games packets error endpoint buffer order =
    some { service := s.receivefrom }

variable {games packets s error endpoint buffer order}

/-- A new endpoint's terminal hands nothing on, and it stays in the table. -/
theorem dispatch_adds_terminal {done : Dispatched Data}
    (unknown : s.server.findTerminal endpoint = none)
    (dispatched : s.dispatchMessage games packets endpoint buffer order = some done) :
    done.service.server.terminalsCreated = s.server.terminalsCreated + 1 := by
  unfold dispatchMessage at dispatched
  simp only [unknown] at dispatched
  obtain ⟨r, received, rfl⟩ := Option.map_eq_some_iff.mp dispatched
  simp only [Function.update_self] at received
  have fresh : r.parsed = none := by
    cases receives_of_receiveMessage received with
    | ignored idle => rfl
    | handshake sync disconnected => rfl
    | duplicate data opened known => rfl
    | accepted data opened updated => exact absurd rfl opened
  have added : (s.server.addTerminal endpoint).terminalsCreated =
      s.server.terminalsCreated + 1 := by
    unfold PvpServer.addTerminal
    rw [unknown]
  simp only [fresh]
  exact added

/-- Of a known endpoint's datagram only the fields count that the parser has read. -/
theorem dispatch_known {t : TerminalEntry} (known : s.server.findTerminal endpoint = some t) :
    s.dispatchMessage games packets endpoint buffer order =
      s.receiveMessage games packets t (packets.parseFromArray buffer).2 order := by
  unfold dispatchMessage
  simp only [known]

theorem receiveMessage_unchanged_iff {t : TerminalEntry} {message : PvpMessage Data} :
    s.receiveMessage games packets t message order = some { service := s } ↔
    Unmoved (s.connection t.terminal) message := by
  constructor
  · intro unchanged
    obtain ⟨r, received, left⟩ := Option.map_eq_some_iff.mp unchanged
    have connections := congrArg (fun done => done.service.connection t.terminal) left
    simp only [Function.update_self] at connections
    exact (receives_same (receives_of_receiveMessage received) connections).2
  · intro unmoved
    unfold receiveMessage
    rw [receiveMessage_unmoved unmoved, Option.map_some]
    simp only [Function.update_eq_self]

def postReceive (done : Dispatched Data) : Dispatched Data :=
  { done with service := done.service.receivefrom }

theorem postReceive_injective : Function.Injective 
    (postReceive : Dispatched Data → Dispatched Data) := by
  rintro ⟨⟨server, connection, receives⟩, wire⟩ ⟨⟨games, terminals, count⟩, sent⟩ same
  simp only [postReceive, receivefrom, Dispatched.mk.injEq, GameService.mk.injEq,
    Nat.add_right_cancel_iff] at same ⊢
  exact same

theorem changesNothing_iff_dispatch (arrived : error = none ∨ error = some .messageSize) :
    ChangesNothing games packets s error endpoint buffer order ↔
    s.dispatchMessage games packets endpoint buffer order = some { service := s } := by
  have posted : some { service := s.receivefrom : Dispatched Data } =
      (some { service := s }).map postReceive := rfl
  unfold ChangesNothing receivefromHandler
  rw [if_pos arrived, posted]
  exact (Option.map_injective postReceive_injective).eq_iff

/-- Exactly when a datagram, well formed or not, changes nothing. -/
theorem datagram_changes_nothing_iff :
    ChangesNothing games packets s error endpoint buffer order ↔
    ¬ (error = none ∨ error = some .messageSize) ∨
    ∃ t, s.server.findTerminal endpoint = some t ∧
      Unmoved (s.connection t.terminal) (packets.parseFromArray buffer).2 := by
  by_cases arrived : error = none ∨ error = some .messageSize
  · rw [changesNothing_iff_dispatch arrived, or_iff_right (not_not.mpr arrived)]
    cases known : s.server.findTerminal endpoint with
    | some t =>
      rw [dispatch_known known, receiveMessage_unchanged_iff]
      simp
    | none =>
      refine iff_of_false ?_ (by simp)
      intro unchanged
      have added := dispatch_adds_terminal known unchanged
      simp at added
  · refine iff_of_true ?_ (Or.inl arrived)
    unfold ChangesNothing receivefromHandler
    rw [if_neg arrived]

def shortField (message : PvpMessage GameMessage) (tag value : Nat) : PvpMessage GameMessage :=
  match tag with
  | 8 => { message with version := BitVec.ofNat 32 value }
  | 16 => { message with protoId := BitVec.ofNat 32 value }
  | 24 => { message with seqNo := BitVec.ofNat 32 value }
  | 32 => { message with ackNo := BitVec.ofNat 32 value }
  | 40 => { message with ackBits := BitVec.ofNat 32 value }
  | _ => message

def shortParser : List Nat → List Nat → PvpMessage GameMessage → Bool × PvpMessage GameMessage
  | seen, tag :: value :: rest, message =>
    shortParser (tag :: seen) rest (shortField message tag value)
  | seen, [], message => ([8, 16, 24, 32, 40].all seen.contains, message)
  | _, [_], message => (false, message)

def shortPackets : PacketCodec (List Nat) GameMessage where
  parseFromArray := fun bytes => shortParser [] bytes {}
  noData := { type := .userOperation }

/-- An empty datagram of an unknown endpoint adds a terminal to the table. -/
theorem empty_datagram_adds_terminal : ¬ ∀ (s : GameService GameMessage)
    (error : Option SocketError) (endpoint : String) (buffer : List Nat)
    (order : List GameEntry), Reach (step GameRun.plainCodec shortPackets) always {} s →
    error = none ∨ error = some .messageSize →
    (shortPackets.parseFromArray buffer).1 = false →
    ChangesNothing GameRun.plainCodec shortPackets s error endpoint buffer order := by
  intro all
  have unchanged := all {} none "127.0.0.1;4000;2;17;2" [] [] .refl (Or.inl rfl)
    (by decide +kernel)
  have dispatched := (changesNothing_iff_dispatch (Or.inl rfl)).mp unchanged
  have unknown : ({} : PvpServer).findTerminal "127.0.0.1;4000;2;17;2" = none := rfl
  have added := dispatch_adds_terminal unknown dispatched
  exact absurd added (by decide)

end GameService

end LaluneServer.Pvp
