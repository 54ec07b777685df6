import LaluneServer.NetLib.Packet

/- NetLib_Connected_TcpSession. The calls a function makes on its owner are part of
   its result, in order; the owner's model executes them. The outstanding
   operations on the socket are part of the session: at most one read chain, and
   the writes that were started and have not completed. -/
namespace LaluneServer.NetLib

/-- What the read chain waits for: the length field, the rest of a packet, or the
    return of RecvFinishHandler. -/
inductive Reading where
  | header
  | body (size : Nat)
  | handling
  deriving DecidableEq, Repr

structure TcpSession where
  isConnected : Bool := true
  asyncSendQueue : List NetlibPacket := []
  receivingDataSize : Nat := 0
  reading : Option Reading := none
  writes : List NetlibPacket := []
  deriving DecidableEq, Repr

inductive OwnerCall where
  | increasePendingOpsCount
  | decreasePendingOpsCount
  | handleError (error : NetLibError) (internal : Outcome)
  | postSendFinish (packet : NetlibPacket)
  | recvFinishHandler (data : Bytes)
  | sendFailedHandler (packet : NetlibPacket)
  deriving DecidableEq, Repr

abbrev SessionResult := TcpSession × List OwnerCall

namespace TcpSession

variable (s : TcpSession)

def tcpReceiveAsync : TcpSession := { s with reading := some .header }

def start : SessionResult := (s.tcpReceiveAsync, [.increasePendingOpsCount])

def closeSessionAndHandleError (error : NetLibError) (internal : Outcome) : SessionResult :=
  if s.isConnected then ({ s with isConnected := false }, [.handleError error internal])
  else (s, [])

def disconnect (error : NetLibError := .closeByLocal) : SessionResult :=
  s.closeSessionAndHandleError error none

def stopReading (error : NetLibError) (internal : Outcome) : SessionResult :=
  let (s, calls) := s.closeSessionAndHandleError error internal
  ({ s with reading := none }, calls ++ [.decreasePendingOpsCount])

def readError : Outcome → NetLibError
  | some .eof | some .connectionReset | some .connectionRefused => .tcpDisconnectByRemote
  | _ => .clientRecvError

def tcpHeaderRecv (maxPacketSize : Nat) (error : Outcome) (receivingDataSize : Nat) :
    SessionResult :=
  if error.isSome ∨ ¬ s.isConnected then s.stopReading (readError error) error
  else if maxPacketSize < receivingDataSize then s.stopReading .packetTooBig error
  else if receivingDataSize < 4 then s.stopReading .packetTooSmall error
  else
    ({ s with
      receivingDataSize := receivingDataSize
      reading := some (.body (receivingDataSize - 4)) }, [])

/-- RecvFinishHandler runs user code; tcp_receive_async follows when it returns. -/
def tcpRecvAsyncFinished (error : Outcome) (rest : Bytes) : SessionResult :=
  if error.isSome ∨ ¬ s.isConnected then s.stopReading (readError error) error
  else
    ({ s with reading := some .handling },
      [.recvFinishHandler (uint32Bytes s.receivingDataSize ++ rest)])

def sendAsyncFromQueue : SessionResult :=
  match s.asyncSendQueue with
  | [] => (s, [])
  | front :: _ => ({ s with writes := s.writes ++ [front] }, [.increasePendingOpsCount])

/-- `none` is the undefined front() of an empty queue. -/
def tcpSendAsyncFinished (error : Outcome) : Option SessionResult :=
  if error.isSome ∨ ¬ s.isConnected then
    let (s, calls) := s.closeSessionAndHandleError .clientRecvError error
    some (s, calls ++ [.decreasePendingOpsCount])
  else
    match s.asyncSendQueue with
    | [] => none
    | front :: rest =>
      let s := { s with asyncSendQueue := rest }
      if rest.length > 0 then
        let (s, calls) := s.sendAsyncFromQueue
        some (s, .postSendFinish front :: calls)
      else some (s, [.postSendFinish front])

def sendAsync (packet : NetlibPacket) : SessionResult :=
  let s := { s with asyncSendQueue := s.asyncSendQueue ++ [packet] }
  if s.asyncSendQueue.length = 1 then s.sendAsyncFromQueue else (s, [])

def processFailedPackets : SessionResult :=
  ({ s with asyncSendQueue := [] }, s.asyncSendQueue.map .sendFailedHandler)

def takeWrite : Option TcpSession :=
  match s.writes with
  | [] => none
  | _ :: rest => some { s with writes := rest }

def operations : Nat := (if s.reading.isSome then 1 else 0) + s.writes.length

/-- At most one write is in flight, of the front of the queue, and in a connected
    session there is one whenever the queue is not empty. -/
structure WellQueued : Prop where
  front : s.writes = [] ∨ s.writes = s.asyncSendQueue.take 1
  writing : s.isConnected = true → s.writes = s.asyncSendQueue.take 1

variable {s}

theorem readError_ne (error : Outcome) : readError error ≠ .noError := by
  unfold readError
  split <;> decide

theorem tcpHeaderRecv_cases (maxPacketSize : Nat) (error : Outcome) (size : Nat) :
    (∃ e, e ≠ .noError ∧ s.tcpHeaderRecv maxPacketSize error size = s.stopReading e error) ∨
    (s.isConnected = true ∧ s.tcpHeaderRecv maxPacketSize error size =
      ({ s with receivingDataSize := size, reading := some (.body (size - 4)) }, [])) := by
  unfold tcpHeaderRecv
  split
  · exact Or.inl ⟨_, readError_ne error, rfl⟩
  · rename_i fine
    split
    · exact Or.inl ⟨.packetTooBig, by decide, rfl⟩
    · split
      · exact Or.inl ⟨.packetTooSmall, by decide, rfl⟩
      · simp only [not_or, not_not] at fine
        exact Or.inr ⟨fine.2, rfl⟩

theorem tcpRecvAsyncFinished_cases (error : Outcome) (rest : Bytes) :
    (∃ e, e ≠ .noError ∧ s.tcpRecvAsyncFinished error rest = s.stopReading e error) ∨
    (s.isConnected = true ∧ s.tcpRecvAsyncFinished error rest =
      ({ s with reading := some .handling },
        [.recvFinishHandler (uint32Bytes s.receivingDataSize ++ rest)])) := by
  unfold tcpRecvAsyncFinished
  split
  · exact Or.inl ⟨_, readError_ne error, rfl⟩
  · rename_i fine
    simp only [not_or, not_not] at fine
    exact Or.inr ⟨fine.2, rfl⟩

theorem sendAsync_first (empty : s.asyncSendQueue = []) (packet : NetlibPacket) :
    s.sendAsync packet = ({ s with
      asyncSendQueue := [packet], writes := s.writes ++ [packet] },
      [.increasePendingOpsCount]) := by
  simp [sendAsync, sendAsyncFromQueue, empty]

theorem sendAsync_behind (waiting : s.asyncSendQueue ≠ []) (packet : NetlibPacket) :
    s.sendAsync packet = ({ s with asyncSendQueue := s.asyncSendQueue ++ [packet] }, []) := by
  have := List.length_pos_iff.mpr waiting
  unfold sendAsync
  rw [if_neg]
  simp only [List.length_append, List.length_singleton]
  omega

theorem tcpSendAsyncFinished_cases {error : Outcome} {r : SessionResult}
    (done : s.tcpSendAsyncFinished error = some r) :
    (r = ((s.closeSessionAndHandleError .clientRecvError error).1,
        (s.closeSessionAndHandleError .clientRecvError error).2 ++ [.decreasePendingOpsCount])) ∨
    (error = none ∧ s.isConnected = true ∧ ∃ front rest, s.asyncSendQueue = front :: rest ∧
      ((rest = [] ∧ r = ({ s with asyncSendQueue := [] }, [.postSendFinish front])) ∨
      (∃ next others, rest = next :: others ∧
        r = ({ s with asyncSendQueue := rest, writes := s.writes ++ [next] },
          [.postSendFinish front, .increasePendingOpsCount])))) := by
  unfold tcpSendAsyncFinished at done
  split at done
  · exact Or.inl (Option.some.inj done).symm
  · rename_i fine
    simp only [not_or, not_not] at fine
    refine Or.inr ⟨by simpa using fine.1, fine.2, ?_⟩
    cases queue : s.asyncSendQueue with
    | nil => simp [queue] at done
    | cons front rest =>
      refine ⟨front, rest, rfl, ?_⟩
      cases rest with
      | nil => exact Or.inl ⟨rfl, by simpa [queue] using done.symm⟩
      | cons next others =>
        refine Or.inr ⟨next, others, rfl, ?_⟩
        simpa [queue, sendAsyncFromQueue] using done.symm

theorem takeWrite_cases {t : TcpSession} (taken : s.takeWrite = some t) :
    ∃ first others, s.writes = first :: others ∧ t = { s with writes := others } := by
  unfold takeWrite at taken
  split at taken
  · contradiction
  · rename_i first others writes
    exact ⟨first, others, writes, (Option.some.inj taken).symm⟩

theorem takeWrite_spec {t : TcpSession} (queue : s.WellQueued) (taken : s.takeWrite = some t) :
    t = { s with writes := [] } ∧ ∃ front rest, s.asyncSendQueue = front :: rest ∧
      s.writes = [front] := by
  obtain ⟨first, others, writes, rfl⟩ := takeWrite_cases taken
  rcases queue.front with none | one
  · rw [writes] at none
    contradiction
  · cases packets : s.asyncSendQueue with
    | nil => simp [writes, packets] at one
    | cons front rest =>
      rw [writes, packets] at one
      obtain ⟨same, none⟩ := List.cons.inj one
      refine ⟨?_, front, rest, rfl, by rw [writes, same, none]; rfl⟩
      rw [none]
      rfl

theorem takeWrite_asyncSendQueue {t : TcpSession} (taken : s.takeWrite = some t) :
    t.asyncSendQueue = s.asyncSendQueue := by
  obtain ⟨_, _, _, rfl⟩ := takeWrite_cases taken
  rfl

theorem operations_of_reading (reading : s.reading.isSome = true) : 0 < s.operations := by
  simp only [operations, reading, ↓reduceIte]
  omega

theorem operations_of_takeWrite {t : TcpSession} (taken : s.takeWrite = some t) :
    0 < s.operations := by
  obtain ⟨first, others, writes, _⟩ := takeWrite_cases taken
  rw [operations, writes, List.length_cons]
  omega

theorem WellQueued.sendAsync (queue : s.WellQueued) (connected : s.isConnected = true)
    (packet : NetlibPacket) : ∃ t : TcpSession, t.WellQueued ∧ t.isConnected = s.isConnected ∧
      t.reading = s.reading ∧ t.asyncSendQueue = s.asyncSendQueue ++ [packet] ∧
      (s.sendAsync packet = (t, [.increasePendingOpsCount]) ∧ t.operations = s.operations + 1 ∨
        s.sendAsync packet = (t, []) ∧ t.operations = s.operations) := by
  have writes := queue.writing connected
  by_cases empty : s.asyncSendQueue = []
  · rw [empty, List.take_nil] at writes
    refine ⟨{ s with asyncSendQueue := [packet], writes := s.writes ++ [packet] },
      ⟨Or.inr (by rw [writes]; rfl), fun _ => by rw [writes]; rfl⟩, rfl, rfl, by rw [empty]; rfl,
      Or.inl ⟨sendAsync_first empty packet, ?_⟩⟩
    simp only [operations, List.length_append, List.length_singleton]
    omega
  · have first : (s.asyncSendQueue ++ [packet]).take 1 = s.asyncSendQueue.take 1 := by
      rw [List.take_append_of_le_length]
      exact List.length_pos_iff.mpr empty
    exact ⟨{ s with asyncSendQueue := s.asyncSendQueue ++ [packet] },
      ⟨Or.inr (first ▸ writes), fun _ => first ▸ writes⟩, rfl, rfl, rfl,
      Or.inr ⟨sendAsync_behind empty packet, rfl⟩⟩

theorem WellQueued.writeDone (queue : s.WellQueued) {t : TcpSession}
    (taken : s.takeWrite = some t) {error : Outcome} {r : SessionResult}
    (done : t.tcpSendAsyncFinished error = some r) :
    (t = { s with writes := [] } ∧ s.operations = (if s.reading.isSome then 1 else 0) + 1 ∧
      r = ((t.closeSessionAndHandleError .clientRecvError error).1,
        (t.closeSessionAndHandleError .clientRecvError error).2 ++ [.decreasePendingOpsCount])) ∨
    ∃ (u : TcpSession) (front : NetlibPacket), u.WellQueued ∧ u.isConnected = s.isConnected ∧
      u.reading = s.reading ∧
      (r = (u, [.postSendFinish front]) ∧ u.operations + 1 = s.operations ∨
        r = (u, [.postSendFinish front, .increasePendingOpsCount]) ∧
          u.operations = s.operations) := by
  obtain ⟨rfl, front, rest, packets, writes⟩ := takeWrite_spec queue taken
  have counted : s.operations = (if s.reading.isSome then 1 else 0) + 1 := by
    rw [operations, writes]
    rfl
  rcases tcpSendAsyncFinished_cases done with failed | ⟨_, _, first, others, _, finish⟩
  · exact Or.inl ⟨rfl, counted, failed⟩
  · refine Or.inr ?_
    rcases finish with ⟨_, rfl⟩ | ⟨next, tail, more, rfl⟩
    · exact ⟨{ s with asyncSendQueue := [], writes := [] }, first, ⟨Or.inl rfl, fun _ => rfl⟩, rfl,
        rfl, Or.inl ⟨rfl, counted.symm⟩⟩
    · exact ⟨{ s with asyncSendQueue := others, writes := [next] }, first,
        ⟨Or.inr (by rw [more]; rfl), fun _ => by rw [more]; rfl⟩, rfl, rfl,
        Or.inr ⟨rfl, counted.symm⟩⟩

theorem WellQueued.writes_le (queue : s.WellQueued) : s.writes.length ≤ 1 := by
  rcases queue.front with none | front
  · rw [none]
    exact Nat.zero_le 1
  · rw [front, List.length_take]
    exact Nat.min_le_left 1 _

section owner
variable {Owner : Type*} (setSession : Owner → TcpSession → Owner)
  (call : Owner → OwnerCall → Owner) (o : Owner)

def closeOwner (s t : TcpSession) (error : NetLibError) (internal : Outcome) : Owner :=
  if s.isConnected then call (setSession o t) (.handleError error internal) else setSession o t

theorem closeSession_calls (error : NetLibError) (internal : Outcome) :
    (s.closeSessionAndHandleError error internal).2.foldl call
        (setSession o (s.closeSessionAndHandleError error internal).1) =
      closeOwner setSession call o s { s with isConnected := false } error internal := by
  unfold closeSessionAndHandleError closeOwner
  cases s with
  | mk isConnected queue size reading writes => cases isConnected <;> rfl

theorem stopReading_calls (error : NetLibError) (internal : Outcome) :
    (s.stopReading error internal).2.foldl call (setSession o (s.stopReading error internal).1) =
      call (closeOwner setSession call o s { s with isConnected := false, reading := none } error
        internal) .decreasePendingOpsCount := by
  unfold stopReading closeSessionAndHandleError closeOwner
  cases s with
  | mk isConnected queue size reading writes => cases isConnected <;> rfl

theorem writeFailed_calls (internal : Outcome) :
    ((s.closeSessionAndHandleError .clientRecvError internal).2 ++
        [OwnerCall.decreasePendingOpsCount]).foldl call
        (setSession o (s.closeSessionAndHandleError .clientRecvError internal).1) =
      call (closeOwner setSession call o s { s with isConnected := false } .clientRecvError
        internal) .decreasePendingOpsCount := by
  rw [List.foldl_append, closeSession_calls]
  rfl

end owner

end TcpSession

def sessionOperations (session : Option TcpSession) : Nat :=
  (session.map TcpSession.operations).getD 0

def sessionPackets (session : Option TcpSession) : List NetlibPacket :=
  (session.map TcpSession.asyncSendQueue).getD []

end LaluneServer.NetLib
