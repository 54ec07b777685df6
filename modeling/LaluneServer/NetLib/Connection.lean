import LaluneServer.NetLib.ByteStream

/- Two sessions joined by TCP: one sends packets with send_async, the other reads. TCP
   takes the bytes of a write bit by bit and hands them over in order, in any pieces. -/
namespace LaluneServer.NetLib
open Framing Transition

/-- The sending session, how many bytes of its write TCP has taken, the bytes under way
    and the reading session; then three ghosts, the packets given to send_async, those
    whose write was completed and all bytes that TCP has taken. -/
structure Connection where
  sender : TcpSession := TcpSession.tcpReceiveAsync {}
  transferred : Nat := 0
  wire : Bytes := []
  receiver : Receiver := {}
  sent : List NetlibPacket := []
  finished : List NetlibPacket := []
  written : Bytes := []
  deriving DecidableEq

inductive ConnectionEvent where
  | send (data : Bytes) (copy : Bool) (pHint : BitVec 64)
  | transfer (count : Nat)
  | writeDone (error : Outcome)
  | closeSender (error : NetLibError)
  | arrive (count : Nat)
  | receive (event : ReceiverEvent)
  deriving DecidableEq, Repr

def ConnectionEvent.data : ConnectionEvent → Option Bytes
  | .send data _ _ => some data
  | _ => none

namespace Connection

def withSender (c : Connection) (s : TcpSession) : Connection := { c with sender := s }

def senderCall (c : Connection) : OwnerCall → Connection
  | .postSendFinish packet => { c with finished := c.finished ++ [packet] }
  | _ => c

def applySender (c : Connection) (result : SessionResult) : Connection :=
  result.2.foldl senderCall (c.withSender result.1)

variable (maxPacketSize : Nat)

def step (c : Connection) : ConnectionEvent → Option Connection
  | .send data copy pHint =>
    if c.sender.isConnected then
      let packet : NetlibPacket :=
        { data := data, copy := copy, pHint := pHint, stamp := c.sent.length }
      some ({ c with sent := c.sent ++ [packet] }.applySender (c.sender.sendAsync packet))
    else none
  | .transfer count =>
    match c.sender.writes with
    | [] => none
    | packet :: _ =>
      if c.transferred + count ≤ packet.buffer.length then
        let bytes := (packet.buffer.drop c.transferred).take count
        some { c with
          transferred := c.transferred + count
          wire := c.wire ++ bytes
          written := c.written ++ bytes }
      else none
  | .writeDone error =>
    match c.sender.writes with
    | [] => none
    | packet :: _ =>
      if error.isSome ∨ c.transferred = packet.buffer.length then
        c.sender.takeWrite.bind fun s => (s.tcpSendAsyncFinished error).map fun result =>
          { c with transferred := 0 }.applySender result
      else none
  | .closeSender error => some (c.applySender (c.sender.disconnect error))
  | .arrive count =>
    if count ≤ c.wire.length then
      some { c with
        wire := c.wire.drop count
        receiver := c.receiver.arrive (c.wire.take count) }
    else none
  | .receive (.arrive _) => none
  | .receive event => (c.receiver.step maxPacketSize event).map fun r => { c with receiver := r }

/-- The packets the round trip is about: the length field is the size of the packet and
    a length that the peer does not refuse. -/
def wellFormed (data : Bytes) : Prop :=
  data.length = readUint32 data ∧ 4 ≤ data.length ∧ data.length ≤ maxPacketSize

instance (data : Bytes) : Decidable (wellFormed maxPacketSize data) :=
  inferInstanceAs (Decidable (_ ∧ _ ∧ _))

def sendsWellFormed (_ : Connection) (e : ConnectionEvent) : Prop :=
  ∀ data ∈ e.data, wellFormed maxPacketSize data

instance (c : Connection) (e : ConnectionEvent) : Decidable (sendsWellFormed maxPacketSize c e) :=
  inferInstanceAs (Decidable (∀ _ ∈ _, _))

def stream (packets : List NetlibPacket) : Bytes := (packets.map NetlibPacket.data).flatten

structure RoundTrip (c : Connection) : Prop where
  oneWrite : c.sender.writes.length ≤ 1
  frontWrite : ∀ packet ∈ c.sender.writes, c.sender.asyncSendQueue.head? = some packet
  inOrder : c.sent = c.finished ++ c.sender.asyncSendQueue
  written : c.written <+: stream c.sent
  writtenFinished : stream c.finished <+: c.written
  writtenAll : c.sender.asyncSendQueue = [] → c.written = stream c.sent
  delivered : c.receiver.delivered <+: c.sent.map NetlibPacket.data
  noLengthError : ∀ error, c.receiver.error = some error → ¬ Receiver.isLengthError error
  deliveredAll : c.sender.asyncSendQueue = [] → c.wire = [] →
    c.receiver.session.isConnected = true → c.receiver.blocked = true →
    c.receiver.delivered = c.sent.map NetlibPacket.data

structure Taken (s : TcpSession) (transferred : Nat) (part : Bytes) : Prop where
  writing : ∀ packet ∈ s.writes, part = packet.data.take transferred
  rest : part <+: stream s.asyncSendQueue
  between : s.writes = [] → s.isConnected = true → part = []
  idle : s.writes = [] → transferred = 0

structure Joined (c : Connection) : Prop where
  queue : c.sender.WellQueued
  order : c.sent = c.finished ++ c.sender.asyncSendQueue
  fine : ∀ packet ∈ c.sent, wellFormed maxPacketSize packet.data
  part : ∃ part, c.written = stream c.finished ++ part ∧
    Taken c.sender c.transferred part
  wire : c.written = c.receiver.stream ++ c.wire
  receiving : Receiver.Receiving maxPacketSize c.receiver

section
variable {maxPacketSize} {c d : Connection} {e : ConnectionEvent}

theorem wellFormed_buffer {packet : NetlibPacket} (fine : wellFormed maxPacketSize packet.data) :
    packet.buffer = packet.data := by
  unfold NetlibPacket.buffer NetlibPacket.dataSize
  rw [← fine.1, List.take_length]

theorem wellFormed_frame {data : Bytes} (fine : wellFormed maxPacketSize data) :
    (packetFormat maxPacketSize).IsFrame data := by
  obtain ⟨size, large, small⟩ := fine
  refine ⟨size, ?_⟩
  show (if maxPacketSize < readUint32 data then _ else if readUint32 data < 4 then _ else none) = _
  rw [if_neg (by omega), if_neg (by omega)]

theorem stream_append (first second : List NetlibPacket) :
    stream (first ++ second) = stream first ++ stream second := by
  unfold stream
  rw [List.map_append, List.flatten_append]

theorem stream_cons (packet : NetlibPacket) (rest : List NetlibPacket) :
    stream (packet :: rest) = packet.data ++ stream rest := rfl

theorem joined_initial : Joined maxPacketSize {} :=
  ⟨⟨Or.inl rfl, fun _ => rfl⟩, rfl, nofun,
    ⟨[], rfl, ⟨nofun, List.nil_prefix, fun _ _ => rfl, fun _ => rfl⟩⟩, rfl,
    Receiver.receiving_initial⟩

theorem joined_send (inv : Joined maxPacketSize c) (connected : c.sender.isConnected = true)
    {packet : NetlibPacket} (fine : wellFormed maxPacketSize packet.data) :
    Joined maxPacketSize
      ({ c with sent := c.sent ++ [packet] }.applySender (c.sender.sendAsync packet)) := by
  have writes := inv.queue.writing connected
  obtain ⟨part, written, taken⟩ := inv.part
  have every : ∀ p ∈ c.sent ++ [packet], wellFormed maxPacketSize p.data := by
    intro p mem
    rcases List.mem_append.mp mem with before | now
    · exact inv.fine p before
    · rw [List.mem_singleton.mp now]
      exact fine
  have order : c.sent ++ [packet] = c.finished ++ (c.sender.asyncSendQueue ++ [packet]) := by
    rw [inv.order, List.append_assoc]
  by_cases empty : c.sender.asyncSendQueue = []
  · rw [TcpSession.sendAsync_first empty]
    rw [empty, List.take_nil] at writes
    have none := taken.between writes connected
    refine ⟨⟨Or.inr ?_, fun _ => ?_⟩, ?_, every, ⟨[], ?_, ?_, List.nil_prefix, ?_, ?_⟩, inv.wire,
      inv.receiving⟩
    · show c.sender.writes ++ [packet] = [packet].take 1
      rw [writes]
      rfl
    · show c.sender.writes ++ [packet] = [packet].take 1
      rw [writes]
      rfl
    · rw [empty] at order
      exact order
    · rw [none] at written
      exact written
    · intro p _
      have zero : c.transferred = 0 := taken.idle writes
      show [] = p.data.take c.transferred
      rw [zero, List.take_zero]
    · intro no
      simp [applySender, withSender, senderCall] at no
    · intro _
      exact taken.idle writes
  · rw [TcpSession.sendAsync_behind empty]
    have first : (c.sender.asyncSendQueue ++ [packet]).take 1 = c.sender.asyncSendQueue.take 1 := by
      rw [List.take_append_of_le_length]
      exact List.length_pos_iff.mpr empty
    refine ⟨⟨Or.inr (writes.trans first.symm), fun _ => writes.trans first.symm⟩, order, every,
      ⟨part, written, taken.writing, ?_, taken.between, taken.idle⟩, inv.wire, inv.receiving⟩
    show part <+: stream (c.sender.asyncSendQueue ++ [packet])
    rw [stream_append]
    exact taken.rest.trans (List.prefix_append _ _)

theorem writing_front (inv : Joined maxPacketSize c) {packet : NetlibPacket}
    {others : List NetlibPacket} (writing : c.sender.writes = packet :: others) :
    others = [] ∧ ∃ rest, c.sender.asyncSendQueue = packet :: rest := by
  rcases inv.queue.front with none | front
  · rw [writing] at none
    contradiction
  · rw [writing] at front
    cases queue : c.sender.asyncSendQueue with
    | nil =>
      rw [queue] at front
      contradiction
    | cons first rest =>
      rw [queue] at front
      obtain ⟨same, none⟩ := List.cons.inj front
      exact ⟨none, rest, by rw [same]⟩

theorem joined_transfer (inv : Joined maxPacketSize c) {packet : NetlibPacket}
    {others : List NetlibPacket} (writing : c.sender.writes = packet :: others) (count : Nat) :
    Joined maxPacketSize { c with
      transferred := c.transferred + count
      wire := c.wire ++ (packet.buffer.drop c.transferred).take count
      written := c.written ++ (packet.buffer.drop c.transferred).take count } := by
  obtain ⟨part, written, taken⟩ := inv.part
  obtain ⟨none, rest, queue⟩ := writing_front inv writing
  subst none
  have fine : wellFormed maxPacketSize packet.data := by
    refine inv.fine packet ?_
    rw [inv.order, queue]
    simp
  have same := taken.writing packet (by rw [writing]; simp)
  have more : part ++ (packet.data.drop c.transferred).take count =
      packet.data.take (c.transferred + count) := by
    rw [same, ← List.take_add]
  refine ⟨inv.queue, inv.order, inv.fine, ⟨packet.data.take (c.transferred + count), ?_, ?_, ?_,
    ?_, ?_⟩, ?_, inv.receiving⟩
  · show c.written ++ (packet.buffer.drop c.transferred).take count = _
    rw [wellFormed_buffer fine, written, List.append_assoc, more]
  · intro p mem
    have writing : p ∈ c.sender.writes := mem
    rw [‹c.sender.writes = [packet]›, List.mem_singleton] at writing
    rw [writing]
  · show _ <+: stream c.sender.asyncSendQueue
    rw [queue, stream_cons]
    exact (List.take_prefix _ _).trans (List.prefix_append _ _)
  · intro no
    have no : c.sender.writes = [] := no
    rw [writing] at no
    contradiction
  · intro no
    have no : c.sender.writes = [] := no
    rw [writing] at no
    contradiction
  · show c.written ++ _ = c.receiver.stream ++ (c.wire ++ _)
    rw [inv.wire, List.append_assoc]

theorem joined_closeOwner (inv : Joined maxPacketSize c) {s t : TcpSession} (transferred : Nat)
    (closed : t.isConnected = false) (queue : t.asyncSendQueue = c.sender.asyncSendQueue)
    (writes : t.writes = c.sender.writes ∧ transferred = c.transferred ∨
      t.writes = [] ∧ transferred = 0) (error : NetLibError) (internal : Outcome) :
    Joined maxPacketSize (TcpSession.closeOwner withSender senderCall
      { c with transferred := transferred } s t error internal) := by
  obtain ⟨part, written, taken⟩ := inv.part
  have shape : TcpSession.closeOwner withSender senderCall { c with transferred := transferred }
      s t error internal = { c with transferred := transferred, sender := t } := by
    unfold TcpSession.closeOwner
    split <;> rfl
  rw [shape]
  refine ⟨⟨?_, fun connected => by rw [closed] at connected; contradiction⟩, ?_, inv.fine,
    ⟨part, written, ?_, ?_, fun _ connected => ?_, ?_⟩, inv.wire, inv.receiving⟩
  · show t.writes = [] ∨ t.writes = t.asyncSendQueue.take 1
    rcases writes with ⟨same, _⟩ | ⟨none, _⟩
    · rw [same, queue]
      exact inv.queue.front
    · exact Or.inl none
  · show c.sent = c.finished ++ t.asyncSendQueue
    rw [queue]
    exact inv.order
  · intro packet mem
    have mem : packet ∈ t.writes := mem
    rcases writes with ⟨same, unchanged⟩ | ⟨none, _⟩
    · rw [same] at mem
      rw [unchanged]
      exact taken.writing packet mem
    · rw [none] at mem
      contradiction
  · show part <+: stream t.asyncSendQueue
    rw [queue]
    exact taken.rest
  · have connected : t.isConnected = true := connected
    rw [closed] at connected
    contradiction
  · intro none
    have none : t.writes = [] := none
    rcases writes with ⟨same, unchanged⟩ | ⟨_, zero⟩
    · rw [unchanged]
      exact taken.idle (same.symm.trans none)
    · exact zero

theorem joined_closeSender (inv : Joined maxPacketSize c) (error : NetLibError) :
    Joined maxPacketSize (c.applySender (c.sender.disconnect error)) := by
  have shape : c.applySender (c.sender.disconnect error) =
      TcpSession.closeOwner withSender senderCall c c.sender
        { c.sender with isConnected := false } error none :=
    TcpSession.closeSession_calls withSender senderCall c error none
  rw [shape]
  exact joined_closeOwner (t := { c.sender with isConnected := false }) inv c.transferred rfl rfl
    (Or.inl ⟨rfl, rfl⟩) error none

theorem joined_writeDone (inv : Joined maxPacketSize c) {packet : NetlibPacket}
    {others : List NetlibPacket} (writing : c.sender.writes = packet :: others) {error : Outcome}
    (whole : error.isSome = true ∨ c.transferred = packet.buffer.length) {s : TcpSession}
    (took : c.sender.takeWrite = some s) {result : SessionResult}
    (done : s.tcpSendAsyncFinished error = some result) :
    Joined maxPacketSize ({ c with transferred := 0 }.applySender result) := by
  obtain ⟨part, written, taken⟩ := inv.part
  obtain ⟨rfl, _⟩ := TcpSession.takeWrite_spec inv.queue took
  rcases TcpSession.tcpSendAsyncFinished_cases done with
    rfl | ⟨clean, connected, front, rest, queue, finish⟩
  · have shape : { c with transferred := 0 }.applySender
        ((({ c.sender with writes := [] } : TcpSession).closeSessionAndHandleError
            .clientRecvError error).1,
          (({ c.sender with writes := [] } : TcpSession).closeSessionAndHandleError
            .clientRecvError error).2 ++ [OwnerCall.decreasePendingOpsCount]) =
        TcpSession.closeOwner withSender senderCall { c with transferred := 0 }
          { c.sender with writes := [] } { c.sender with isConnected := false, writes := [] }
          .clientRecvError error :=
      TcpSession.writeFailed_calls (s := { c.sender with writes := [] }) withSender senderCall
        { c with transferred := 0 } error
    rw [shape]
    exact joined_closeOwner (t := { c.sender with isConnected := false, writes := [] }) inv 0 rfl rfl
      (Or.inr ⟨rfl, rfl⟩) .clientRecvError error
  · have queue : c.sender.asyncSendQueue = front :: rest := queue
    obtain ⟨_, tail, head⟩ := writing_front inv writing
    have heads : packet = front ∧ tail = rest := List.cons.inj (head.symm.trans queue)
    obtain ⟨rfl, rfl⟩ := heads
    have fine : wellFormed maxPacketSize packet.data := by
      refine inv.fine packet ?_
      rw [inv.order, queue]
      simp
    have full : part = packet.data := by
      have same := taken.writing packet (by rw [writing]; simp)
      rw [clean, wellFormed_buffer fine] at whole
      have all : c.transferred = packet.data.length := by simpa using whole
      rw [same, all, List.take_length]
    have written : c.written = stream (c.finished ++ [packet]) ++ [] := by
      rw [written, full, stream_append, stream_cons]
      simp [stream]
    have order : c.sent = (c.finished ++ [packet]) ++ tail := by
      rw [inv.order, queue, List.append_assoc]
      rfl
    rcases finish with ⟨empty, rfl⟩ | ⟨next, more, others, rfl⟩
    · rw [empty] at order
      exact ⟨⟨Or.inl rfl, fun _ => rfl⟩, order, inv.fine, ⟨[], written, nofun, List.nil_prefix,
        fun _ _ => rfl, fun _ => rfl⟩, inv.wire, inv.receiving⟩
    · have single : [next] = tail.take 1 := by
        rw [others]
        rfl
      exact ⟨⟨Or.inr single, fun _ => single⟩, order, inv.fine, ⟨[], written, fun _ _ => rfl,
        List.nil_prefix, fun _ _ => rfl, fun _ => rfl⟩, inv.wire, inv.receiving⟩

theorem joined_arrive (inv : Joined maxPacketSize c) (count : Nat) :
    Joined maxPacketSize { c with
      wire := c.wire.drop count
      receiver := c.receiver.arrive (c.wire.take count) } := by
  refine ⟨inv.queue, inv.order, inv.fine, inv.part, ?_, Receiver.receiving_arrive inv.receiving _⟩
  show c.written = (c.receiver.stream ++ c.wire.take count) ++ c.wire.drop count
  rw [List.append_assoc, List.take_append_drop]
  exact inv.wire

theorem joined_step (inv : Joined maxPacketSize c) (fine : sendsWellFormed maxPacketSize c e)
    (moved : step maxPacketSize c e = some d) : Joined maxPacketSize d := by
  cases e with
  | send data copy pHint =>
    simp only [step] at moved
    split at moved
    · rename_i connected
      cases moved
      exact joined_send inv connected (fine data rfl)
    · contradiction
  | transfer count =>
    simp only [step] at moved
    split at moved
    · contradiction
    · rename_i packet others writing
      split at moved
      · cases moved
        exact joined_transfer inv writing count
      · contradiction
  | writeDone error =>
    simp only [step] at moved
    split at moved
    · contradiction
    · rename_i packet others writing
      split at moved
      · rename_i whole
        obtain ⟨s, took, moved⟩ := Option.bind_eq_some_iff.mp moved
        obtain ⟨result, done, rfl⟩ := Option.map_eq_some_iff.mp moved
        exact joined_writeDone inv writing whole took done
      · contradiction
  | closeSender error =>
    cases moved
    exact joined_closeSender inv error
  | arrive count =>
    simp only [step] at moved
    split at moved
    · cases moved
      exact joined_arrive inv count
    · contradiction
  | receive event =>
    have read : ∀ r, c.receiver.step maxPacketSize event = some r →
        (∀ bytes, event ≠ .arrive bytes) → Joined maxPacketSize { c with receiver := r } := by
      intro r moved other
      refine ⟨inv.queue, inv.order, inv.fine, inv.part, ?_,
        Receiver.receiving_step inv.receiving moved⟩
      show c.written = r.stream ++ c.wire
      rw [Receiver.step_stream moved other]
      exact inv.wire
    cases event with
    | arrive bytes => contradiction
    | headerRead | bodyRead | recvHandlerReturned | close =>
      obtain ⟨r, received, rfl⟩ := Option.map_eq_some_iff.mp moved
      exact read r received nofun

theorem Joined.roundTrip (inv : Joined maxPacketSize c) : c.RoundTrip := by
  obtain ⟨part, written, taken⟩ := inv.part
  have sent : stream c.sent = stream c.finished ++ stream c.sender.asyncSendQueue := by
    rw [inv.order, stream_append]
  have before : c.written <+: stream c.sent := by
    rw [written, sent]
    exact (List.prefix_append_right_inj _).mpr taken.rest
  have all : c.sender.asyncSendQueue = [] → c.written = stream c.sent := by
    intro empty
    have rest := taken.rest
    rw [empty] at rest
    rw [written, sent, empty, List.prefix_nil.mp rest]
    rfl
  have frames : ∀ f ∈ c.sent.map NetlibPacket.data, (packetFormat maxPacketSize).IsFrame f := by
    intro f mem
    obtain ⟨packet, sent, rfl⟩ := List.mem_map.mp mem
    exact wellFormed_frame (inv.fine packet sent)
  have arrived : c.receiver.stream <+: (c.sent.map NetlibPacket.data).flatten := by
    refine List.IsPrefix.trans ?_ before
    rw [inv.wire]
    exact List.prefix_append _ _
  obtain ⟨first, within, decoded⟩ := Format.decode_prefix frames arrived
  have decodes := inv.receiving.decodes
  refine ⟨inv.queue.writes_le, ?_, inv.order, before, ?_, all, ?_, ?_, ?_⟩
  · intro packet writing
    obtain ⟨front, others, split⟩ := List.mem_iff_append.mp writing
    rcases inv.queue.front with none | single
    · rw [none] at writing
      contradiction
    · rw [single] at writing
      cases queue : c.sender.asyncSendQueue with
      | nil =>
        rw [queue] at writing
        contradiction
      | cons head rest =>
        rw [queue] at writing
        simp only [List.take_succ_cons, List.take_zero, List.mem_singleton] at writing
        rw [writing]
        rfl
  · rw [written]
    exact List.prefix_append _ _
  · have delivered := decodes.delivered
    rw [decoded] at delivered
    exact delivered.trans within
  · intro error closed length
    have refused := (decodes.lengthError error closed length).2
    rw [decoded] at refused
    simp at refused
  · intro empty emptyWire connected blocked
    have complete : c.receiver.stream = (c.sent.map NetlibPacket.data).flatten := by
      have wire := inv.wire
      rw [emptyWire, List.append_nil, all empty] at wire
      exact wire.symm
    have waiting := decodes.blocked connected blocked
    have whole := Format.decode_flatten frames []
    have ended : (packetFormat maxPacketSize).decode [] = ([], none) :=
      Format.decode_short (packetFormat maxPacketSize).header_pos
    rw [List.append_nil, ← complete, waiting, ended] at whole
    simpa using congrArg Prod.fst whole

end

/-- Packets that are sent in order arrive in order, and a refused length closes the reading
    session behind the packets before it. -/
theorem framing_round_trip (maxPacketSize : Nat) :
    (∀ c, Reach (step maxPacketSize) (sendsWellFormed maxPacketSize) {} c → c.RoundTrip) ∧
    (∀ r, Reach (Receiver.step maxPacketSize) always {} r →
      Receiver.Decodes maxPacketSize r) := by
  refine ⟨?_, fun r run => (Receiver.reach_receiving run).decodes⟩
  intro c run
  refine (reach_invariant (Joined maxPacketSize) joined_initial ?_ run).roundTrip
  exact fun _ _ _ inv fine moved => joined_step inv fine moved

def twoPackets : List ConnectionEvent :=
  [.send (uint32Bytes 4) false 1, .send (uint32Bytes 6 ++ [7, 8]) true 2, .transfer 3, .transfer 1,
    .arrive 2, .writeDone none, .transfer 6, .arrive 3, .receive (.headerRead none),
    .receive (.bodyRead none), .writeDone none, .arrive 5, .receive .recvHandlerReturned,
    .receive (.headerRead none), .receive (.bodyRead none), .receive .recvHandlerReturned]

theorem round_trip_of_two_packets : ∃ c,
    Reach (step 0x80000) (sendsWellFormed 0x80000) {} c ∧ c.RoundTrip ∧
      c.receiver.delivered = [uint32Bytes 4, uint32Bytes 6 ++ [7, 8]] := by
  obtain ⟨c, run, delivered⟩ := execWithin_any (step 0x80000) (sendsWellFormed 0x80000) {}
    twoPackets (fun c => decide (c.receiver.delivered = [uint32Bytes 4, uint32Bytes 6 ++ [7, 8]]))
    (by decide +kernel)
  exact ⟨c, run, (framing_round_trip 0x80000).1 c run, of_decide_eq_true delivered⟩

end Connection

end LaluneServer.NetLib
