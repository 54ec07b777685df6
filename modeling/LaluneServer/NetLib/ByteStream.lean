import LaluneServer.Lib.Framing
import LaluneServer.Lib.Transition
import LaluneServer.NetLib.TcpSession

/- The read chain of a session over the bytes that its socket receives. TCP may hand
   them over in any pieces; async_read takes exactly the bytes it was asked for or
   ends with an error. -/
namespace LaluneServer.NetLib
open Framing Transition

/-- The packets of NetLib: the length field is the first four bytes and counts itself. -/
def packetFormat (maxPacketSize : Nat) : Format (BitVec 8) NetLibError where
  headerLength := 4
  size := readUint32
  refuse size :=
    if maxPacketSize < size then some .packetTooBig
    else if size < 4 then some .packetTooSmall
    else none
  header_pos := by decide
  size_append := readUint32_append
  header_le size fine := by
    split at fine
    · contradiction
    · split at fine
      · contradiction
      · omega

/-- A session that reads: the bytes that arrived and were not read yet, then three
    ghosts, all bytes that arrived, the arguments of RecvFinishHandler and the error the
    session was closed with. -/
structure Receiver where
  session : TcpSession := TcpSession.tcpReceiveAsync {}
  arrived : Bytes := []
  stream : Bytes := []
  delivered : List Bytes := []
  error : Option NetLibError := none
  deriving DecidableEq

namespace Receiver

def withSession (r : Receiver) (s : TcpSession) : Receiver := { r with session := s }

def ownerCall (r : Receiver) : OwnerCall → Receiver
  | .recvFinishHandler data => { r with delivered := r.delivered ++ [data] }
  | .handleError error _ => { r with error := some error }
  | _ => r

def applySession (r : Receiver) (result : SessionResult) : Receiver :=
  result.2.foldl ownerCall (r.withSession result.1)

def arrive (r : Receiver) (bytes : Bytes) : Receiver :=
  { r with arrived := r.arrived ++ bytes, stream := r.stream ++ bytes }

end Receiver

/-- `close` is a close that does not come from the read chain: by a call, by the timeout
    or by a write that failed. -/
inductive ReceiverEvent where
  | arrive (bytes : Bytes)
  | headerRead (error : Outcome)
  | bodyRead (error : Outcome)
  | recvHandlerReturned
  | close (error : NetLibError)
  deriving DecidableEq, Repr

def closeErrors : List NetLibError := [.closeByLocal, .sessionTimeout, .clientRecvError]

namespace Receiver
variable (maxPacketSize : Nat)

def step (r : Receiver) : ReceiverEvent → Option Receiver
  | .arrive bytes => some (r.arrive bytes)
  | .headerRead error =>
    if r.session.reading = some .header ∧ (error.isSome ∨ 4 ≤ r.arrived.length) then
      some ({ r with arrived := r.arrived.drop 4 }.applySession
        (r.session.tcpHeaderRecv maxPacketSize error (readUint32 (r.arrived.take 4))))
    else none
  | .bodyRead error =>
    match r.session.reading with
    | some (.body size) =>
      if error.isSome ∨ size ≤ r.arrived.length then
        some ({ r with arrived := r.arrived.drop size }.applySession
          (r.session.tcpRecvAsyncFinished error (r.arrived.take size)))
      else none
    | _ => none
  | .recvHandlerReturned =>
    if r.session.reading = some .handling then some (r.withSession r.session.tcpReceiveAsync)
    else none
  | .close error =>
    if error ∈ closeErrors then some (r.applySession (r.session.disconnect error)) else none

def blocked (r : Receiver) : Bool :=
  match r.session.reading with
  | some .header => r.arrived.length < 4
  | some (.body size) => r.arrived.length < size
  | _ => false

def isLengthError (error : NetLibError) : Prop := error = .packetTooBig ∨ error = .packetTooSmall

/-- How the bytes that arrived, those that were not read and what was delivered belong
    together, for each state of the read chain. -/
def Position (r : Receiver) : Option Reading → Prop
  | some .header | some .handling => r.stream = r.delivered.flatten ++ r.arrived
  | some (.body size) => ∃ header : Bytes, header.length = 4 ∧
      r.stream = r.delivered.flatten ++ (header ++ r.arrived) ∧
      r.session.receivingDataSize = readUint32 header ∧ size + 4 = readUint32 header ∧
      (packetFormat maxPacketSize).refuse (readUint32 header) = none
  | none => ∃ rest, r.stream = r.delivered.flatten ++ rest ∧
      ∀ error, r.error = some error → isLengthError error → 4 ≤ rest.length ∧
        (packetFormat maxPacketSize).refuse (readUint32 rest) = some error

structure Receiving (r : Receiver) : Prop where
  frames : ∀ f ∈ r.delivered, (packetFormat maxPacketSize).IsFrame f
  position : r.Position maxPacketSize r.session.reading
  connected : r.session.isConnected = true → r.session.reading.isSome = true ∧ r.error = none
  lengthError : ∀ error, r.error = some error → isLengthError error → r.session.reading = none
  closed : r.session.isConnected = false → r.error.isSome = true

def reads (_ : Receiver) (e : ReceiverEvent) : Prop :=
  e = .headerRead none ∨ e = .bodyRead none ∨ e = .recvHandlerReturned

/-- What a session makes of the bytes that arrived: it delivers complete packets in their
    order; it is closed for a length exactly behind the packets before that length; when
    it waits for bytes it has delivered all packets and met no refused length; and reading
    on leads to the one or the other. -/
structure Decodes (r : Receiver) : Prop where
  delivered : r.delivered <+: ((packetFormat maxPacketSize).decode r.stream).1
  lengthError : ∀ error, r.error = some error → isLengthError error →
    r.session.isConnected = false ∧
      (packetFormat maxPacketSize).decode r.stream = (r.delivered, some error)
  blocked : r.session.isConnected = true → r.blocked = true →
    (packetFormat maxPacketSize).decode r.stream = (r.delivered, none)
  drained : r.session.isConnected = true → ∃ u, Reach (step maxPacketSize) reads r u ∧
    u.stream = r.stream ∧ (packetFormat maxPacketSize).decode r.stream = (u.delivered, u.error)

section
variable {maxPacketSize} {r u : Receiver} {s : TcpSession}

theorem receiving_initial : Receiving maxPacketSize {} := by
  refine ⟨by simp, rfl, fun _ => ⟨rfl, rfl⟩, ?_, ?_⟩
  · intro error none
    contradiction
  · intro closed
    contradiction

theorem receiving_arrive (inv : Receiving maxPacketSize r) (bytes : Bytes) :
    Receiving maxPacketSize (r.arrive bytes) := by
  refine ⟨inv.frames, ?_, inv.connected, inv.lengthError, inv.closed⟩
  have position := inv.position
  show Position maxPacketSize (r.arrive bytes) r.session.reading
  cases reading : r.session.reading with
  | none =>
    rw [reading] at position
    obtain ⟨rest, stream, refused⟩ := position
    refine ⟨rest ++ bytes, ?_, ?_⟩
    · show r.stream ++ bytes = r.delivered.flatten ++ (rest ++ bytes)
      rw [stream, List.append_assoc]
    · intro error closed length
      obtain ⟨long, bad⟩ := refused error closed length
      refine ⟨by rw [List.length_append]; omega, ?_⟩
      rw [readUint32_append rest bytes long]
      exact bad
  | some reading_state =>
    rw [reading] at position
    cases reading_state with
    | header =>
      show r.stream ++ bytes = r.delivered.flatten ++ (r.arrived ++ bytes)
      rw [show r.stream = r.delivered.flatten ++ r.arrived from position, List.append_assoc]
    | handling =>
      show r.stream ++ bytes = r.delivered.flatten ++ (r.arrived ++ bytes)
      rw [show r.stream = r.delivered.flatten ++ r.arrived from position, List.append_assoc]
    | body size =>
      obtain ⟨header, four, stream, rest⟩ := position
      refine ⟨header, four, ?_, rest⟩
      show r.stream ++ bytes = r.delivered.flatten ++ (header ++ (r.arrived ++ bytes))
      rw [stream, List.append_assoc, List.append_assoc]

theorem tcpHeaderRecv_decides (maxPacketSize : Nat) (s : TcpSession) (error : Outcome)
    (size : Nat) :
    ((error.isSome = true ∨ s.isConnected = false) ∧ s.tcpHeaderRecv maxPacketSize error size =
      s.stopReading (TcpSession.readError error) error) ∨
    (error = none ∧ s.isConnected = true ∧ ∃ refused,
      (packetFormat maxPacketSize).refuse size = some refused ∧
      s.tcpHeaderRecv maxPacketSize error size = s.stopReading refused none) ∨
    (error = none ∧ s.isConnected = true ∧ (packetFormat maxPacketSize).refuse size = none ∧
      4 ≤ size ∧ s.tcpHeaderRecv maxPacketSize error size =
        ({ s with receivingDataSize := size, reading := some (.body (size - 4)) }, [])) := by
  unfold TcpSession.tcpHeaderRecv
  split
  · rename_i failed
    refine Or.inl ⟨?_, rfl⟩
    simpa using failed
  · rename_i fine
    have clean : error = none := by
      cases error with
      | none => rfl
      | some code => simp at fine
    have connected : s.isConnected = true := by
      cases closed : s.isConnected
      · simp [closed] at fine
      · rfl
    subst clean
    simp only [packetFormat]
    split
    · exact Or.inr (Or.inl ⟨trivial, connected, .packetTooBig, rfl, rfl⟩)
    · split
      · exact Or.inr (Or.inl ⟨trivial, connected, .packetTooSmall, rfl, rfl⟩)
      · exact Or.inr (Or.inr ⟨trivial, connected, rfl, by omega, rfl⟩)

theorem applySession_stopReading (r : Receiver) (s : TcpSession) (error : NetLibError)
    (internal : Outcome) : r.applySession (s.stopReading error internal) =
      if s.isConnected then
        { r with
          session := { s with isConnected := false, reading := none }
          error := some error }
      else { r with session := { s with isConnected := false, reading := none } } :=
  TcpSession.stopReading_calls withSession ownerCall r error internal

theorem readError_not_length (error : Outcome) : ¬ isLengthError (TcpSession.readError error) := by
  unfold TcpSession.readError
  split <;> simp [isLengthError]

theorem refuse_length {size : Nat} {error : NetLibError}
    (refused : (packetFormat maxPacketSize).refuse size = some error) : isLengthError error := by
  simp only [packetFormat] at refused
  split at refused
  · exact Or.inl (Option.some.inj refused).symm
  · split at refused
    · exact Or.inr (Option.some.inj refused).symm
    · contradiction

theorem receiving_stop (inv : Receiving maxPacketSize r) (reading : r.session.reading.isSome = true)
    {rest : Bytes} (stream : r.stream = r.delivered.flatten ++ rest) (arrived : Bytes)
    (error : NetLibError) (internal : Outcome)
    (refused : r.session.isConnected = true → isLengthError error → 4 ≤ rest.length ∧
      (packetFormat maxPacketSize).refuse (readUint32 rest) = some error) :
    Receiving maxPacketSize
      ({ r with arrived := arrived }.applySession (r.session.stopReading error internal)) := by
  rw [applySession_stopReading]
  split
  · rename_i connected
    refine ⟨inv.frames, ⟨rest, stream, ?_⟩, fun no => by contradiction, fun _ _ _ => rfl,
      fun _ => rfl⟩
    intro other same length
    cases same
    exact refused connected length
  · rename_i closed
    refine ⟨inv.frames, ⟨rest, stream, ?_⟩, fun no => by contradiction, fun _ _ _ => rfl, ?_⟩
    · intro other before length
      have none := inv.lengthError other before length
      rw [none] at reading
      contradiction
    · intro _
      exact inv.closed (by simpa using closed)

theorem receiving_header (inv : Receiving maxPacketSize r)
    (reading : r.session.reading = some .header) (error : Outcome)
    (enough : error.isSome = true ∨ 4 ≤ r.arrived.length) :
    Receiving maxPacketSize ({ r with arrived := r.arrived.drop 4 }.applySession
      (r.session.tcpHeaderRecv maxPacketSize error (readUint32 (r.arrived.take 4)))) := by
  have position := inv.position
  rw [reading] at position
  have some_read : r.session.reading.isSome = true := by
    rw [reading]
    rfl
  rcases tcpHeaderRecv_decides maxPacketSize r.session error
      (readUint32 (r.arrived.take 4)) with
    ⟨_, failed⟩ | ⟨rfl, connected, code, refused, stops⟩ | ⟨rfl, connected, fine, large, continues⟩
  · rw [failed]
    exact receiving_stop inv some_read position _ _ _
      fun _ length => absurd length (readError_not_length error)
  · rw [stops]
    have long : 4 ≤ r.arrived.length := by simpa using enough
    refine receiving_stop inv some_read position _ _ _ fun _ _ => ⟨long, ?_⟩
    rw [← readUint32_take long]
    exact refused
  · rw [continues]
    have long : 4 ≤ r.arrived.length := by simpa using enough
    refine ⟨inv.frames, ⟨r.arrived.take 4, by rw [List.length_take]; omega, ?_, rfl, ?_, fine⟩,
      fun _ => ⟨rfl, (inv.connected connected).2⟩, ?_, inv.closed⟩
    · show r.stream = r.delivered.flatten ++ (r.arrived.take 4 ++ r.arrived.drop 4)
      rw [List.take_append_drop]
      exact position
    · omega
    · intro code before length
      have none := inv.lengthError code before length
      rw [reading] at none
      contradiction

theorem receiving_body (inv : Receiving maxPacketSize r) {size : Nat}
    (reading : r.session.reading = some (.body size)) (error : Outcome)
    (enough : error.isSome = true ∨ size ≤ r.arrived.length) :
    Receiving maxPacketSize ({ r with arrived := r.arrived.drop size }.applySession
      (r.session.tcpRecvAsyncFinished error (r.arrived.take size))) := by
  have position := inv.position
  rw [reading] at position
  obtain ⟨header, four, stream, announced, whole, fine⟩ := position
  have some_read : r.session.reading.isSome = true := by
    rw [reading]
    rfl
  unfold TcpSession.tcpRecvAsyncFinished
  split
  · exact receiving_stop inv some_read stream _ _ _
      fun _ length => absurd length (readError_not_length error)
  · rename_i clean
    have long : size ≤ r.arrived.length := by
      rcases enough with some_error | long
      · exact absurd (Or.inl some_error) clean
      · exact long
    have frame : (packetFormat maxPacketSize).IsFrame (header ++ r.arrived.take size) := by
      have length : readUint32 (header ++ r.arrived.take size) = readUint32 header :=
        readUint32_append _ _ four.ge
      refine ⟨?_, ?_⟩
      · show _ = readUint32 (header ++ r.arrived.take size)
        rw [length, List.length_append, List.length_take, four]
        omega
      · show (packetFormat maxPacketSize).refuse (readUint32 (header ++ _)) = none
        rw [length]
        exact fine
    have put_back : uint32Bytes r.session.receivingDataSize = header := by
      rw [announced]
      exact uint32Bytes_readUint32 four
    have shape : { r with arrived := r.arrived.drop size }.applySession
        ({ r.session with reading := some .handling }, [.recvFinishHandler
          (uint32Bytes r.session.receivingDataSize ++ r.arrived.take size)]) =
        { r with
          arrived := r.arrived.drop size
          session := { r.session with reading := some .handling }
          delivered := r.delivered ++ [header ++ r.arrived.take size] } := by
      rw [put_back]
      rfl
    rw [shape]
    refine ⟨?_, ?_, fun connected => ⟨rfl, (inv.connected connected).2⟩, ?_, inv.closed⟩
    · intro f mem
      rcases List.mem_append.mp mem with before | now
      · exact inv.frames f before
      · rw [List.mem_singleton.mp now]
        exact frame
    · show r.stream = (r.delivered ++ [header ++ r.arrived.take size]).flatten ++
        r.arrived.drop size
      rw [stream, List.flatten_append, List.flatten_singleton]
      simp only [List.append_assoc, List.take_append_drop]
    · intro code before length
      have none := inv.lengthError code before length
      rw [reading] at none
      contradiction

theorem receiving_recvHandlerReturned (inv : Receiving maxPacketSize r)
    (reading : r.session.reading = some .handling) :
    Receiving maxPacketSize (r.withSession r.session.tcpReceiveAsync) := by
  have position := inv.position
  rw [reading] at position
  refine ⟨inv.frames, position, fun connected => ⟨rfl, (inv.connected connected).2⟩, ?_, inv.closed⟩
  intro code before length
  have none := inv.lengthError code before length
  rw [reading] at none
  contradiction

theorem receiving_close (inv : Receiving maxPacketSize r) {error : NetLibError}
    (other : error ∈ closeErrors) :
    Receiving maxPacketSize (r.applySession (r.session.disconnect error)) := by
  have not_length : ¬ isLengthError error := by
    rintro (rfl | rfl)
    · simp [closeErrors] at other
    · simp [closeErrors] at other
  have shape : r.applySession (r.session.disconnect error) =
      if r.session.isConnected then
        { r with session := { r.session with isConnected := false }, error := some error }
      else { r with session := { r.session with isConnected := false } } :=
    TcpSession.closeSession_calls withSession ownerCall r error none
  rw [shape]
  have position := inv.position
  split
  · rename_i connected
    have reads := (inv.connected connected).1
    refine ⟨inv.frames, ?_, fun no => by contradiction, ?_, fun _ => rfl⟩
    · show Position maxPacketSize _ r.session.reading
      cases reading : r.session.reading with
      | none =>
        rw [reading] at reads
        contradiction
      | some reading_state =>
        rw [reading] at position
        cases reading_state <;> exact position
    · intro code same length
      cases same
      exact absurd length not_length
  · rename_i closed
    refine ⟨inv.frames, ?_, fun no => by contradiction, inv.lengthError, ?_⟩
    · show Position maxPacketSize _ r.session.reading
      cases reading : r.session.reading with
      | none =>
        rw [reading] at position
        exact position
      | some reading_state =>
        rw [reading] at position
        cases reading_state <;> exact position
    · intro _
      exact inv.closed (by simpa using closed)

theorem receiving_step {e : ReceiverEvent} (inv : Receiving maxPacketSize r)
    (moved : step maxPacketSize r e = some u) : Receiving maxPacketSize u := by
  cases e with
  | arrive bytes =>
    cases moved
    exact receiving_arrive inv bytes
  | headerRead error =>
    simp only [step] at moved
    split at moved
    · rename_i ready
      cases moved
      exact receiving_header inv ready.1 error ready.2
    · contradiction
  | bodyRead error =>
    simp only [step] at moved
    split at moved
    · rename_i size reading
      split at moved
      · rename_i enough
        cases moved
        exact receiving_body inv reading error enough
      · contradiction
    · contradiction
  | recvHandlerReturned =>
    simp only [step] at moved
    split at moved
    · rename_i reading
      cases moved
      exact receiving_recvHandlerReturned inv reading
    · contradiction
  | close error =>
    simp only [step] at moved
    split at moved
    · rename_i other
      cases moved
      exact receiving_close inv other
    · contradiction

theorem reach_receiving (run : Reach (step maxPacketSize) always {} r) :
    Receiving maxPacketSize r :=
  reach_invariant (Receiving maxPacketSize) receiving_initial
    (fun _ _ _ inv _ moved => receiving_step inv moved) run

theorem Receiving.decode (inv : Receiving maxPacketSize r) {rest : Bytes}
    (stream : r.stream = r.delivered.flatten ++ rest) :
    (packetFormat maxPacketSize).decode r.stream =
      (r.delivered ++ ((packetFormat maxPacketSize).decode rest).1,
        ((packetFormat maxPacketSize).decode rest).2) := by
  rw [stream]
  exact Format.decode_flatten inv.frames rest

theorem Receiving.stream_split (inv : Receiving maxPacketSize r) :
    ∃ rest, r.stream = r.delivered.flatten ++ rest := by
  have position := inv.position
  cases reading : r.session.reading with
  | none =>
    rw [reading] at position
    obtain ⟨rest, stream, _⟩ := position
    exact ⟨rest, stream⟩
  | some reading_state =>
    rw [reading] at position
    cases reading_state with
    | header => exact ⟨r.arrived, position⟩
    | handling => exact ⟨r.arrived, position⟩
    | body size =>
      obtain ⟨header, _, stream, _⟩ := position
      exact ⟨header ++ r.arrived, stream⟩

theorem Receiving.decode_blocked (inv : Receiving maxPacketSize r) (blocked : r.blocked = true) :
    (packetFormat maxPacketSize).decode r.stream = (r.delivered, none) := by
  have position := inv.position
  unfold Receiver.blocked at blocked
  split at blocked
  · rename_i reading
    rw [reading] at position
    have short : r.arrived.length < 4 := by simpa using blocked
    rw [inv.decode position, Format.decode_short short, List.append_nil]
  · rename_i size reading
    rw [reading] at position
    obtain ⟨header, four, stream, _, whole, fine⟩ := position
    have few : r.arrived.length < size := by simpa using blocked
    have length : readUint32 (header ++ r.arrived) = readUint32 header :=
      readUint32_append _ _ four.ge
    rw [inv.decode stream, Format.decode_unfinished, List.append_nil]
    · show (packetFormat maxPacketSize).refuse (readUint32 (header ++ r.arrived)) = none
      rw [length]
      exact fine
    · show (header ++ r.arrived).length < readUint32 (header ++ r.arrived)
      rw [length, List.length_append]
      omega
  · contradiction

theorem Receiving.decode_lengthError (inv : Receiving maxPacketSize r) {error : NetLibError}
    (closed : r.error = some error) (length : isLengthError error) :
    (packetFormat maxPacketSize).decode r.stream = (r.delivered, some error) := by
  have position := inv.position
  rw [inv.lengthError error closed length] at position
  obtain ⟨rest, stream, refused⟩ := position
  obtain ⟨long, bad⟩ := refused error closed length
  rw [inv.decode stream, Format.decode_refused long bad, List.append_nil]

theorem applySession_stream (r : Receiver) (result : SessionResult) :
    (r.applySession result).stream = r.stream := by
  have calls : ∀ (calls : List OwnerCall) (r : Receiver),
      (calls.foldl ownerCall r).stream = r.stream := by
    intro calls
    induction calls with
    | nil => exact fun _ => rfl
    | cons call rest ih =>
      intro r
      rw [List.foldl_cons, ih]
      cases call <;> rfl
  exact calls result.2 (r.withSession result.1)

theorem step_stream {e : ReceiverEvent} (moved : step maxPacketSize r e = some u)
    (other : ∀ bytes, e ≠ .arrive bytes) : u.stream = r.stream := by
  cases e with
  | arrive bytes => exact absurd rfl (other bytes)
  | headerRead error =>
    simp only [step] at moved
    split at moved
    · cases moved
      exact applySession_stream _ _
    · contradiction
  | bodyRead error =>
    simp only [step] at moved
    split at moved
    · split at moved
      · cases moved
        exact applySession_stream _ _
      · contradiction
    · contradiction
  | recvHandlerReturned =>
    simp only [step] at moved
    split at moved
    · cases moved
      rfl
    · contradiction
  | close error =>
    simp only [step] at moved
    split at moved
    · cases moved
      exact applySession_stream _ _
    · contradiction

/-- How much there is to read: three steps for a packet. -/
def work (r : Receiver) : Nat :=
  3 * r.arrived.length +
    match r.session.reading with
    | some (.body _) => 2
    | some .handling => 1
    | _ => 0

theorem exists_read (inv : Receiving maxPacketSize r) (connected : r.session.isConnected = true)
    (fed : r.blocked ≠ true) :
    ∃ e u, reads r e ∧ step maxPacketSize r e = some u ∧ u.stream = r.stream ∧
      ((u.session.isConnected = true ∧ u.work < r.work) ∨
        ∃ error, u.error = some error ∧ isLengthError error) := by
  obtain ⟨some_read, fresh⟩ := inv.connected connected
  obtain ⟨reading_state, reading⟩ := Option.isSome_iff_exists.mp some_read
  unfold Receiver.blocked at fed
  rw [reading] at fed
  cases reading_state with
  | header =>
    have long : 4 ≤ r.arrived.length := by simpa using fed
    have moved : step maxPacketSize r (.headerRead none) =
        some ({ r with arrived := r.arrived.drop 4 }.applySession
          (r.session.tcpHeaderRecv maxPacketSize none (readUint32 (r.arrived.take 4)))) :=
      if_pos ⟨reading, Or.inr long⟩
    refine ⟨_, _, Or.inl rfl, moved, applySession_stream _ _, ?_⟩
    rcases tcpHeaderRecv_decides maxPacketSize r.session none
        (readUint32 (r.arrived.take 4)) with
      ⟨failed, _⟩ | ⟨_, _, code, refused, stops⟩ | ⟨_, _, _, _, next⟩
    · simp [connected] at failed
    · refine Or.inr ⟨code, ?_, refuse_length refused⟩
      rw [stops, applySession_stopReading, if_pos connected]
    · refine Or.inl ⟨?_, ?_⟩
      · rw [next]
        exact connected
      · rw [next]
        show 3 * (r.arrived.drop 4).length + 2 < r.work
        unfold work
        rw [reading, List.length_drop]
        omega
  | body size =>
    have long : size ≤ r.arrived.length := by simpa using fed
    have moved : step maxPacketSize r (.bodyRead none) =
        some ({ r with arrived := r.arrived.drop size }.applySession
          (r.session.tcpRecvAsyncFinished none (r.arrived.take size))) := by
      simp only [step, reading]
      exact if_pos (Or.inr long)
    have next : r.session.tcpRecvAsyncFinished none (r.arrived.take size) =
        ({ r.session with reading := some .handling }, [.recvFinishHandler
          (uint32Bytes r.session.receivingDataSize ++ r.arrived.take size)]) :=
      if_neg (by simp [connected])
    refine ⟨_, _, Or.inr (Or.inl rfl), moved, applySession_stream _ _, Or.inl ⟨?_, ?_⟩⟩
    · rw [next]
      exact connected
    · rw [next]
      show 3 * (r.arrived.drop size).length + 1 < r.work
      simp only [work, reading, List.length_drop]
      omega
  | handling =>
    have moved : step maxPacketSize r .recvHandlerReturned =
        some (r.withSession r.session.tcpReceiveAsync) := if_pos reading
    refine ⟨_, _, Or.inr (Or.inr rfl), moved, rfl, Or.inl ⟨connected, ?_⟩⟩
    show 3 * r.arrived.length + 0 < r.work
    simp only [work, reading]
    omega

theorem exists_drained (limit : Nat) (inv : Receiving maxPacketSize r)
    (connected : r.session.isConnected = true) (enough : r.work ≤ limit) :
    ∃ u, Reach (step maxPacketSize) reads r u ∧ u.stream = r.stream ∧
      Receiving maxPacketSize u ∧
      ((u.session.isConnected = true ∧ u.blocked = true) ∨
        ∃ error, u.error = some error ∧ isLengthError error) := by
  induction limit using Nat.strongRecOn generalizing r with
  | ind limit ih =>
    by_cases blocked : r.blocked = true
    · exact ⟨r, .refl, rfl, inv, Or.inl ⟨connected, blocked⟩⟩
    · obtain ⟨e, v, read, moved, stream, ⟨still, less⟩ | refused⟩ :=
        exists_read inv connected blocked
      · obtain ⟨u, run, same, final⟩ :=
          ih v.work (by omega) (receiving_step inv moved) still (Nat.le_refl _)
        exact ⟨u, reach_trans (.tail e .refl read moved) run, same.trans stream, final⟩
      · exact ⟨v, .tail e .refl read moved, stream, receiving_step inv moved, Or.inr refused⟩

theorem Receiving.decodes (inv : Receiving maxPacketSize r) : Decodes maxPacketSize r := by
  refine ⟨?_, ?_, fun _ blocked => inv.decode_blocked blocked, ?_⟩
  · obtain ⟨rest, stream⟩ := inv.stream_split
    rw [inv.decode stream]
    exact List.prefix_append _ _
  · intro error closed length
    refine ⟨?_, inv.decode_lengthError closed length⟩
    cases connected : r.session.isConnected
    · rfl
    · have none := (inv.connected connected).2
      rw [closed] at none
      contradiction
  · intro connected
    obtain ⟨u, run, stream, final, outcome⟩ := exists_drained r.work inv connected (Nat.le_refl _)
    refine ⟨u, run, stream, ?_⟩
    rw [← stream]
    rcases outcome with ⟨still, blocked⟩ | ⟨error, closed, length⟩
    · rw [final.decode_blocked blocked, (final.connected still).2]
    · rw [final.decode_lengthError closed length, closed]

end

end Receiver

end LaluneServer.NetLib
